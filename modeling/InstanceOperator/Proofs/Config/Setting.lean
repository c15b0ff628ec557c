import InstanceOperator.Config.Load
import InstanceOperator.Proofs.Text.Decimal
import InstanceOperator.Proofs.Text.Trim
import InstanceOperator.Proofs.Time.Duration

/-!
# What a setting is set to

The eight settings are read in much the same way: a variable is looked up, blanks around its value
do not count, a value of blanks alone counts as none, and what is left has to denote something. What
it denotes is said here once for all settings, without the functions that read it.

* `SettingValue`, `Config.value`: what a setting can be set to, and what a configuration sets it to.
* `Setting.Denotes`: which texts stand for which values.
* `Setting.Given`, `Setting.Settles`, `Setting.Misread`: what a lookup gives for a setting, what it
  sets it to, and when what it gives stands for nothing.
* `Setting.LoadedBy`: what the eight ways to load a setting have in common. From it follows that
  loading decides between the two (`Setting.LoadedBy.load_eq_ok_iff`,
  `Setting.LoadedBy.load_eq_error`).
-/

namespace InstanceOperator

/-! ## Values -/

/-- What a setting can be set to. Spans of time are in nanoseconds. -/
inductive SettingValue where
  | everywhere
  | within (ns : String)
  | number (n : Nat)
  | span (nanos : Nat)
  | policy (p : DriftPolicy)
deriving DecidableEq

/-- What a configuration sets a setting to. -/
def Config.value (c : Config) : Setting → SettingValue
  | .ns => c.ns.elim .everywhere .within
  | .concurrency => .number c.concurrency.toNat
  | .debounce => .span c.debounce.toNanos
  | .passTimeout => .span c.passTimeout.toNanos
  | .backoffMin => .span c.backoffMin.toNanos
  | .backoffMax => .span c.backoffMax.toNanos
  | .driftPolicy => .policy c.driftPolicy
  | .metricsPort => .number c.metricsPort.toNat

namespace Setting

/-- What a setting is set to if it is not given. -/
def default : Setting → SettingValue
  | .ns => .everywhere
  | .concurrency => .number 3
  | .debounce => .span 0
  | .passTimeout => .span (30 * nanosPerSecond)
  | .backoffMin => .span (5 * nanosPerSecond)
  | .backoffMax => .span (300 * nanosPerSecond)
  | .driftPolicy => .policy .ignore
  | .metricsPort => .number 8080

/-- The value that a text stands for. -/
inductive Denotes : Setting → String → SettingValue → Prop where
  | ns (t : String) : Denotes .ns t (.within t)
  | number {s : Setting} {t : String} {n : Nat} (hs : s = .concurrency ∨ s = .metricsPort)
      (h : Text.Decimal t n) (hfits : n < UInt16.size) : Denotes s t (.number n)
  | millis {t : String} {n : Nat} (h : Text.Decimal t n) (hfits : n < UInt64.size) :
      Denotes .debounce t (.span (n * 1000000))
  | seconds {s : Setting} {t : String} {n : Nat}
      (hs : s = .passTimeout ∨ s = .backoffMin ∨ s = .backoffMax) (h : Text.Decimal t n)
      (hfits : n < UInt64.size) : Denotes s t (.span (n * nanosPerSecond))
  | policy {t : String} {p : DriftPolicy} (h : Text.SameLetters t p.name) :
      Denotes .driftPolicy t (.policy p)

/-- A lookup gives a text for a setting: the value of its variable without the blanks around it,
if there is more to it than blanks. -/
def Given (s : Setting) (lookup : Lookup) (t : String) : Prop :=
  ∃ raw, lookup s.name = some raw ∧ Text.Trimmed raw t ∧ t ≠ ""

/-- A lookup sets a setting to a value: the one that is given, or else the default. -/
inductive Settles (s : Setting) (lookup : Lookup) : SettingValue → Prop where
  | given {t : String} {v : SettingValue} (h : s.Given lookup t) (hv : s.Denotes t v) :
      Settles s lookup v
  | absent {v : SettingValue} (h : ∀ t, ¬ s.Given lookup t) (hv : v = s.default) :
      Settles s lookup v

/-- What a lookup gives for a setting stands for nothing. -/
def Misread (s : Setting) (lookup : Lookup) : Prop :=
  ∃ t, s.Given lookup t ∧ ∀ v, ¬ s.Denotes t v

variable {s : Setting} {lookup : Lookup} {t : String} {v : SettingValue}

/-- A value is given if something is left of it between the blanks. -/
theorem given?_eq_some_iff : s.given? lookup = some t ↔ s.Given lookup t := by
  simp only [given?, Option.filter_eq_some_iff, Option.map_eq_some_iff, decide_eq_true_eq,
    Text.trim_eq_iff]
  constructor
  · rintro ⟨⟨raw, hraw, htrim⟩, hne⟩
    exact ⟨raw, hraw, htrim, hne⟩
  · rintro ⟨raw, hraw, htrim, hne⟩
    exact ⟨⟨raw, hraw, htrim⟩, hne⟩

theorem given?_eq_none_iff : s.given? lookup = none ↔ ∀ t, ¬ s.Given lookup t := by
  simp only [Option.eq_none_iff_forall_ne_some, ne_eq, given?_eq_some_iff]

/-- Two texts are not given at once. -/
theorem Given.unique {t' : String} (h : s.Given lookup t) (h' : s.Given lookup t') : t = t' := by
  rw [← given?_eq_some_iff] at h h'
  exact Option.some.inj (h.symm.trans h')

/-! ## Texts that stand for a value -/

/-- Every text denotes a namespace. -/
theorem denotes_ns_iff : Denotes .ns t v ↔ v = .within t := by
  constructor
  · intro h
    cases h with
    | ns t => rfl
    | number hs => simp at hs
    | seconds hs => simp at hs
  · rintro rfl
    exact .ns t

/-- Numbers denote themselves, up to the limit of their sixteen bits. -/
theorem denotes_number_iff (hs : s = .concurrency ∨ s = .metricsPort) :
    s.Denotes t v ↔ ∃ n, Text.Decimal t n ∧ n < UInt16.size ∧ v = .number n := by
  constructor
  · intro h
    cases h with
    | ns => simp at hs
    | @number s t n _ h hfits => exact ⟨n, h, hfits, rfl⟩
    | millis => simp at hs
    | seconds hs' => rcases hs with rfl | rfl <;> simp at hs'
    | policy => simp at hs
  · rintro ⟨n, h, hfits, rfl⟩
    exact .number hs h hfits

/-- The time between passes is given in milliseconds. -/
theorem denotes_debounce_iff :
    Denotes .debounce t v ↔ ∃ n, Text.Decimal t n ∧ n < UInt64.size ∧ v = .span (n * 1000000) := by
  constructor
  · intro h
    cases h with
    | number hs => simp at hs
    | @millis t n h hfits => exact ⟨n, h, hfits, rfl⟩
    | seconds hs => simp at hs
  · rintro ⟨n, h, hfits, rfl⟩
    exact .millis h hfits

/-- The other spans are given in seconds. -/
theorem denotes_seconds_iff (hs : s = .passTimeout ∨ s = .backoffMin ∨ s = .backoffMax) :
    s.Denotes t v ↔ ∃ n, Text.Decimal t n ∧ n < UInt64.size ∧ v = .span (n * nanosPerSecond) := by
  constructor
  · intro h
    cases h with
    | ns => simp at hs
    | number hs' => rcases hs with rfl | rfl | rfl <;> simp at hs'
    | millis => simp at hs
    | @seconds s t n _ h hfits => exact ⟨n, h, hfits, rfl⟩
    | policy => simp at hs
  · rintro ⟨n, h, hfits, rfl⟩
    exact .seconds hs h hfits

/-- Policies are named in any mixture of upper and lower case. -/
theorem denotes_driftPolicy_iff :
    Denotes .driftPolicy t v ↔ ∃ p : DriftPolicy, Text.SameLetters t p.name ∧ v = .policy p := by
  constructor
  · intro h
    cases h with
    | number hs => simp at hs
    | seconds hs => simp at hs
    | @policy t p h => exact ⟨p, h, rfl⟩
  · rintro ⟨p, h, rfl⟩
    exact .policy h

end Setting

/-! ## Readers -/

theorem readUInt16_eq_ok_iff {t : String} {n : UInt16} :
    readUInt16 t = .ok n ↔ Text.Decimal t n.toNat := by
  have hle : n.toNat ≤ UInt16.size - 1 := Nat.le_sub_one_of_lt n.toNat_lt
  constructor
  · intro h
    unfold readUInt16 at h
    split at h
    · next m hm =>
      obtain ⟨hdecimal, hfits⟩ := Text.readNatural_eq_ok_iff.1 hm
      cases h
      rw [UInt16.toNat_ofNat_of_lt' (Nat.lt_of_le_sub_one (by decide) hfits)]
      exact hdecimal
    · cases h
  · intro h
    rw [readUInt16, Text.readNatural_eq_ok_iff.2 ⟨h, hle⟩]
    exact congrArg Except.ok n.ofNat_toNat

/-- A span of time is read from a count of its unit. -/
theorem readSpan_eq_ok_iff {ofCount : Nat → Duration} {t : String} {d : Duration} :
    readSpan ofCount t = .ok d ↔ ∃ n, Text.Decimal t n ∧ n < UInt64.size ∧ ofCount n = d := by
  constructor
  · intro h
    unfold readSpan at h
    split at h
    · next n hn =>
      obtain ⟨hdecimal, hfits⟩ := Text.readNatural_eq_ok_iff.1 hn
      cases h
      exact ⟨n, hdecimal, Nat.lt_of_le_sub_one (by decide) hfits, rfl⟩
    · cases h
  · rintro ⟨n, hdecimal, hfits, rfl⟩
    have hle : n ≤ UInt64.size - 1 := Nat.le_sub_one_of_lt hfits
    rw [readSpan, Text.readNatural_eq_ok_iff.2 ⟨hdecimal, hle⟩]

/-- A name is compared in lower case. -/
theorem DriftPolicy.ofName?_eq_some_iff {t : String} {p : DriftPolicy} :
    ofName? t = some p ↔ Text.lowerAscii t = p.name := by
  unfold ofName?
  dsimp only
  split
  · next h =>
    rw [h]
    cases p <;> decide
  · next hignore =>
    split
    · next h =>
      rw [h]
      cases p <;> decide
    · next hreport =>
      cases p
      · simpa [name] using hignore
      · simpa [name] using hreport

theorem readPolicy_eq_ok_iff {t : String} {p : DriftPolicy} :
    readPolicy t = .ok p ↔ Text.SameLetters t p.name := by
  have hall : p.name.toList.all (!·.isUpper) = true := by
    cases p <;> rfl
  have hsmall : ∀ c ∈ p.name.toList, ¬ c.isUpper = true := by
    simpa only [List.all_eq_true, Bool.not_eq_true', Bool.not_eq_true] using hall
  rw [← Text.lowerAscii_eq_iff hsmall, ← DriftPolicy.ofName?_eq_some_iff]
  unfold readPolicy
  cases DriftPolicy.ofName? t with
  | none => simp
  | some q => simp

namespace Setting

/-- A text stands for one value of a setting at most. -/
theorem Denotes.unique {s : Setting} {t : String} {v v' : SettingValue} (h : s.Denotes t v)
    (h' : s.Denotes t v') : v = v' := by
  cases h with
  | ns => exact (denotes_ns_iff.1 h').symm
  | number hs h =>
    obtain ⟨n', hn', -, rfl⟩ := (denotes_number_iff hs).1 h'
    rw [h.unique hn']
  | millis h =>
    obtain ⟨n', hn', -, rfl⟩ := denotes_debounce_iff.1 h'
    rw [h.unique hn']
  | seconds hs h =>
    obtain ⟨n', hn', -, rfl⟩ := (denotes_seconds_iff hs).1 h'
    rw [h.unique hn']
  | policy h =>
    obtain ⟨p', hp', rfl⟩ := denotes_driftPolicy_iff.1 h'
    rw [← readPolicy_eq_ok_iff] at h hp'
    rw [Except.ok.inj (h.symm.trans hp')]

/-- A lookup sets a setting to one value at most. -/
theorem Settles.unique {s : Setting} {lookup : Lookup} {v v' : SettingValue}
    (h : s.Settles lookup v) (h' : s.Settles lookup v') : v = v' := by
  cases h with
  | given ht hv =>
    cases h' with
    | given ht' hv' =>
      rw [ht'.unique ht] at hv'
      exact hv.unique hv'
    | absent hnone => exact absurd ht (hnone _)
  | absent hnone hv =>
    cases h' with
    | given ht' => exact absurd ht' (hnone _)
    | absent _ hv' => exact hv.trans hv'.symm

/-- A setting is loaded by a reader that takes the texts which stand for a value of the setting,
and each for its value, and with the setting's default. -/
structure LoadedBy {α : Type} (s : Setting) (read : String → Except ValueFault α) (d : α)
    (view : α → SettingValue) : Prop where
  denotes_iff : ∀ t v, s.Denotes t v ↔ ∃ a, read t = .ok a ∧ view a = v
  injective : ∀ a b, view a = view b → a = b
  default : view d = s.default

/-- What all settings that are numbers have in common. -/
theorem loadedBy_readUInt16 {s : Setting} (hs : s = .concurrency ∨ s = .metricsPort) {d : UInt16}
    (hd : .number d.toNat = s.default) :
    s.LoadedBy readUInt16 d fun n => .number n.toNat where
  denotes_iff := by
    intro t v
    simp only [denotes_number_iff hs, readUInt16_eq_ok_iff]
    constructor
    · rintro ⟨n, h, hfits, rfl⟩
      have hn : (UInt16.ofNat n).toNat = n := UInt16.toNat_ofNat_of_lt' hfits
      exact ⟨UInt16.ofNat n, by rwa [hn], by rw [hn]⟩
    · rintro ⟨n, h, rfl⟩
      exact ⟨n.toNat, h, n.toNat_lt, rfl⟩
  injective := fun a b h => UInt16.toNat_inj.1 (SettingValue.number.inj h)
  default := hd

theorem loadedBy_ofMillis {d : Duration} (hd : .span d.toNanos = debounce.default) :
    debounce.LoadedBy (readSpan Duration.ofMillis) d fun e => .span e.toNanos where
  denotes_iff := by
    intro t v
    simp only [denotes_debounce_iff, readSpan_eq_ok_iff]
    constructor
    · rintro ⟨n, h, hfits, rfl⟩
      exact ⟨_, ⟨n, h, hfits, rfl⟩, by rw [Duration.toNanos_ofMillis hfits]⟩
    · rintro ⟨_, ⟨n, h, hfits, rfl⟩, rfl⟩
      exact ⟨n, h, hfits, by rw [Duration.toNanos_ofMillis hfits]⟩
  injective := fun a b h => Duration.toNanos_inj.1 (SettingValue.span.inj h)
  default := hd

/-- What all settings in seconds have in common. -/
theorem loadedBy_ofSecs {s : Setting} (hs : s = .passTimeout ∨ s = .backoffMin ∨ s = .backoffMax)
    {d : Duration} (hd : .span d.toNanos = s.default) :
    s.LoadedBy (readSpan Duration.ofSecs) d fun e => .span e.toNanos where
  denotes_iff := by
    intro t v
    simp only [denotes_seconds_iff hs, readSpan_eq_ok_iff]
    constructor
    · rintro ⟨n, h, hfits, rfl⟩
      exact ⟨_, ⟨n, h, hfits, rfl⟩, by rw [Duration.toNanos_ofSecs hfits]⟩
    · rintro ⟨_, ⟨n, h, hfits, rfl⟩, rfl⟩
      exact ⟨n, h, hfits, by rw [Duration.toNanos_ofSecs hfits]⟩
  injective := fun a b h => Duration.toNanos_inj.1 (SettingValue.span.inj h)
  default := hd

theorem loadedBy_readPolicy {d : DriftPolicy} (hd : .policy d = driftPolicy.default) :
    driftPolicy.LoadedBy readPolicy d .policy where
  denotes_iff := by
    intro t v
    simp only [denotes_driftPolicy_iff, readPolicy_eq_ok_iff]
    exact exists_congr fun p => and_congr_right fun _ => eq_comm
  injective := fun a b h => SettingValue.policy.inj h
  default := hd

/-! ## Loading a setting -/

/-- A setting is not both misread and set to something. -/
theorem Settles.not_misread {s : Setting} {lookup : Lookup} {v : SettingValue}
    (h : s.Settles lookup v) : ¬ s.Misread lookup := by
  rintro ⟨t, ht, hnot⟩
  cases h with
  | given h hv =>
    rw [h.unique ht] at hv
    exact hnot _ hv
  | absent h => exact h t ht

namespace LoadedBy

variable {α : Type} {s : Setting} {lookup : Lookup} {read : String → Except ValueFault α}
  {view : α → SettingValue} {d a : α}

/-- A setting is loaded exactly with the value that it is set to. -/
theorem load_eq_ok_iff (hload : s.LoadedBy read d view) :
    s.load lookup read d = .ok a ↔ s.Settles lookup (view a) := by
  unfold load
  -- nothing is given and the default counts, or a text is given that reads as it denotes
  cases hgiven : s.given? lookup with
  | none =>
    have habsent := given?_eq_none_iff.1 hgiven
    constructor
    · intro h
      cases h
      exact .absent habsent hload.default
    · intro h
      cases h with
      | given h => exact absurd h (habsent _)
      | absent _ hv => exact congrArg Except.ok (hload.injective _ _ (hload.default.trans hv.symm))
  | some t =>
    have ht := given?_eq_some_iff.1 hgiven
    constructor
    · intro h
      dsimp only at h
      split at h
      · next b hb =>
        cases h
        exact .given ht ((hload.denotes_iff _ _).2 ⟨_, hb, rfl⟩)
      · cases h
    · intro h
      cases h with
      | given h hv =>
        obtain ⟨b, hb, hba⟩ := (hload.denotes_iff _ _).1 hv
        rw [h.unique ht] at hb
        simp [hb, hload.injective _ _ hba]
      | absent h => exact absurd ht (h t)

/-- A setting that fails to load is misread, and the fault tells the text that is given. -/
theorem load_eq_error (hload : s.LoadedBy read d view) {fault : ConfigFault}
    (h : s.load lookup read d = .error fault) :
    s.Misread lookup ∧ ∃ t cause, s.Given lookup t ∧ fault = .badValue s t cause := by
  unfold load at h
  split at h
  · cases h
  · next t hgiven =>
    have ht := given?_eq_some_iff.1 hgiven
    split at h
    · cases h
    · next cause hcause =>
      cases h
      refine ⟨⟨t, ht, ?_⟩, t, cause, ht, rfl⟩
      intro v hv
      obtain ⟨b, hb, -⟩ := (hload.denotes_iff _ _).1 hv
      rw [hcause] at hb
      cases hb

end LoadedBy

end Setting

end InstanceOperator
