import InstanceOperator.OperatorError
import InstanceOperator.Proofs.Config.Setting

/-!
# Which configurations are accepted

A lookup gives a text for some of the settings. The configuration is accepted exactly if each of
these texts stands for a value and the values, with the defaults for the settings not given, are in
range; each setting then has its value. Otherwise the refusal names one setting: the first that is
misread, in the order in which the settings are read, or if none is, the first that is out of range,
in the order in which the ranges are checked.

* `FirstWith`: the first of a list of which something holds.
* `Config.SettledBy`, `Config.OutOfRange`: a configuration that has the values that a lookup sets,
  and the settings of it that are out of range.
* `FirstOffence`: the setting that is to blame for a refusal.
* `load_decides`: the result.
-/

namespace InstanceOperator

/-! ## The first of a list -/

/-- The first of a list of which something holds. -/
inductive FirstWith {α : Type} (p : α → Prop) : List α → α → Prop where
  | here {a : α} {l : List α} (h : p a) : FirstWith p (a :: l) a
  | later {a b : α} {l : List α} (hnot : ¬ p a) (h : FirstWith p l b) : FirstWith p (a :: l) b

namespace FirstWith

variable {α : Type} {p : α → Prop} {l : List α} {a b : α}

theorem holds (h : FirstWith p l a) : p a := by
  induction h with
  | here h => exact h
  | later _ _ ih => exact ih

/-- There is one first element only, so that two ways of finding it agree. -/
theorem unique (h : FirstWith p l a) (h' : FirstWith p l b) : a = b := by
  induction h with
  | here h =>
    cases h' with
    | here => rfl
    | later hnot => exact absurd h hnot
  | later hnot _ ih =>
    cases h' with
    | here h => exact absurd h hnot
    | later _ h' => exact ih h'

end FirstWith

/-! ## What is to blame for a refusal -/

/-- The settings in the order in which they are read. The namespace is taken as it is given. -/
def Setting.readingOrder : List Setting :=
  [.concurrency, .debounce, .passTimeout, .backoffMin, .backoffMax, .driftPolicy, .metricsPort]

/-- The settings that have a range, in the order in which it is checked. -/
def Setting.checkingOrder : List Setting :=
  [.concurrency, .passTimeout, .backoffMin, .backoffMax]

namespace Config

/-- A configuration has the values that a lookup sets. -/
def SettledBy (c : Config) (lookup : Lookup) : Prop :=
  ∀ s : Setting, s.Settles lookup (c.value s)

/-- A setting of a configuration is out of range. -/
def OutOfRange (c : Config) : Setting → Prop
  | .concurrency => c.concurrency.toNat < 1
  | .passTimeout => c.passTimeout.toNanos < 1 * nanosPerSecond
  | .backoffMin => c.backoffMin.toNanos < 1 * nanosPerSecond
  | .backoffMax => c.backoffMax.toNanos < c.backoffMin.toNanos
  | _ => False

end Config

/-- The setting that is to blame if a lookup yields no configuration. -/
inductive FirstOffence (lookup : Lookup) : Setting → Prop where
  | misread {s : Setting} (h : FirstWith (·.Misread lookup) Setting.readingOrder s) :
      FirstOffence lookup s
  | outOfRange {c : Config} {s : Setting} (hc : c.SettledBy lookup)
      (h : FirstWith c.OutOfRange Setting.checkingOrder s) : FirstOffence lookup s

/-- The wording of a refusal names a setting before anything else. -/
def ConfigFault.Blames (fault : ConfigFault) (s : Setting) : Prop :=
  ∃ rest, (OperatorError.config fault).message =
    "Invalid configuration: " ++ s.name ++ " " ++ rest

namespace Setting

/-- A variable tells which setting it belongs to. -/
theorem name_inj {s s' : Setting} (h : s.name = s'.name) : s = s' := by
  revert h
  cases s <;> cases s' <;> decide

/-- No name of a setting holds a space. -/
theorem no_space_in_name (s : Setting) : ∀ c ∈ s.name.toList, (c != ' ') = true := by
  rw [← List.all_eq_true]
  cases s <;> rfl

/-- The name stands in front of the first space. -/
theorem takeWhile_name (s : Setting) (rest : List Char) :
    (s.name.toList ++ ' ' :: rest).takeWhile (· != ' ') = s.name.toList := by
  rw [List.takeWhile_append_of_pos s.no_space_in_name]
  simp

end Setting

/-- A refusal blames one setting only. -/
theorem ConfigFault.Blames.unique {fault : ConfigFault} {s s' : Setting} (h : fault.Blames s)
    (h' : fault.Blames s') : s = s' := by
  obtain ⟨rest, hrest⟩ := h
  obtain ⟨rest', hrest'⟩ := h'
  have hlists := congrArg String.toList (hrest.symm.trans hrest')
  simp only [String.toList_append, List.append_assoc, List.append_cancel_left_eq] at hlists
  have hnames := congrArg (List.takeWhile (· != ' ')) hlists
  change (s.name.toList ++ ' ' :: rest.toList).takeWhile _ =
    (s'.name.toList ++ ' ' :: rest'.toList).takeWhile _ at hnames
  rw [Setting.takeWhile_name, Setting.takeWhile_name] at hnames
  exact Setting.name_inj (String.toList_inj.1 hnames)

theorem OperatorError.message_config (fault : ConfigFault) :
    (config fault).message = "Invalid configuration: " ++ fault.message :=
  rfl

/-- All refusals that concern a setting begin with its name and a space. -/
theorem ConfigFault.blames_of_message {fault : ConfigFault} {s : Setting} (rest : String)
    (h : fault.message = s.name ++ (" " ++ rest)) : fault.Blames s := by
  refine ⟨rest, ?_⟩
  rw [OperatorError.message_config, h, String.append_assoc, String.append_assoc]

theorem ConfigFault.blames_badValue (s : Setting) (t : String) (cause : ValueFault) :
    (badValue s t cause).Blames s := by
  apply blames_of_message ("has invalid value '" ++ (t ++ ("': " ++ cause.message)))
  have hspace : " has invalid value '" = " " ++ "has invalid value '" := by decide
  rw [message, hspace]
  simp only [String.append_assoc]

theorem ConfigFault.blames_zero (s : Setting) : (zero s).Blames s := by
  apply blames_of_message "must be at least 1"
  have hspace : " must be at least 1" = " " ++ "must be at least 1" := by decide
  rw [message, hspace]

/-- Two delays in the wrong order are blamed on the setting of the greatest. -/
theorem ConfigFault.blames_backoffOrder (max min : Nat) :
    (backoffOrder max min).Blames .backoffMax := by
  apply blames_of_message ("(" ++ (toString max ++ (") is smaller than " ++
    (Setting.backoffMin.name ++ (" (" ++ (toString min ++ ")"))))))
  have hspace : " " ++ "(" = " (" := by decide
  rw [← @String.append_assoc " ", hspace, message]
  simp only [String.append_assoc]

/-! ## Reading -/

/-- Two computations one after the other succeed exactly if both do. -/
theorem bind_eq_ok_iff {ε α β : Type} {x : Except ε α} {f : α → Except ε β} {b : β} :
    (x >>= f) = .ok b ↔ ∃ a, x = .ok a ∧ f a = .ok b := by
  cases x with
  | error e => simp [bind, Except.bind]
  | ok a => simp [bind, Except.bind]

section read

theorem loadedBy_concurrency :
    Setting.concurrency.LoadedBy readUInt16 3 fun n => .number n.toNat :=
  Setting.loadedBy_readUInt16 (.inl rfl) rfl

theorem loadedBy_debounce :
    Setting.debounce.LoadedBy (readSpan Duration.ofMillis) (Duration.ofMillis 0) fun d =>
      .span d.toNanos :=
  Setting.loadedBy_ofMillis rfl

theorem loadedBy_passTimeout :
    Setting.passTimeout.LoadedBy (readSpan Duration.ofSecs) (Duration.ofSecs 30) fun d =>
      .span d.toNanos :=
  Setting.loadedBy_ofSecs (.inl rfl) rfl

theorem loadedBy_backoffMin :
    Setting.backoffMin.LoadedBy (readSpan Duration.ofSecs) (Duration.ofSecs 5) fun d =>
      .span d.toNanos :=
  Setting.loadedBy_ofSecs (.inr (.inl rfl)) rfl

theorem loadedBy_backoffMax :
    Setting.backoffMax.LoadedBy (readSpan Duration.ofSecs) (Duration.ofSecs 300) fun d =>
      .span d.toNanos :=
  Setting.loadedBy_ofSecs (.inr (.inr rfl)) rfl

theorem loadedBy_driftPolicy : Setting.driftPolicy.LoadedBy readPolicy .ignore .policy :=
  Setting.loadedBy_readPolicy rfl

theorem loadedBy_metricsPort :
    Setting.metricsPort.LoadedBy readUInt16 8080 fun n => .number n.toNat :=
  Setting.loadedBy_readUInt16 (.inr rfl) rfl

variable {lookup : Lookup} {c : Config}

/-- The namespace is the one setting that is never misread: it is taken as it stands. -/
theorem Setting.given?_ns_eq_iff :
    Setting.ns.given? lookup = c.ns ↔ Setting.ns.Settles lookup (c.value .ns) := by
  constructor
  · intro h
    -- no text for the namespace stands for all of them
    cases hns : c.ns with
    | none =>
      rw [hns] at h
      exact .absent (Setting.given?_eq_none_iff.1 h) (by simp [Config.value, hns, Setting.default])
    | some t =>
      rw [hns] at h
      refine .given (Setting.given?_eq_some_iff.1 h) (Setting.denotes_ns_iff.2 ?_)
      simp [Config.value, hns]
  · intro h
    cases h with
    | given h hv =>
      rw [Setting.given?_eq_some_iff.2 h]
      have hvalue := Setting.denotes_ns_iff.1 hv
      cases hns : c.ns with
      | none => simp [Config.value, hns] at hvalue
      | some t => simpa [Config.value, hns, eq_comm] using hvalue
    | absent h hv =>
      rw [Setting.given?_eq_none_iff.2 h]
      cases hns : c.ns with
      | none => rfl
      | some t => simp [Config.value, hns, Setting.default] at hv

/-- Everything that is given reads exactly if a configuration has the values that are set. -/
theorem read_eq_ok_iff : Config.read lookup = .ok c ↔ c.SettledBy lookup := by
  -- one step of the reading for each setting but the namespace, which always reads
  unfold Config.read
  simp only [bind_eq_ok_iff]
  constructor
  · rintro ⟨_, hconcurrency, _, hdebounce, _, htimeout, _, hmin, _, hmax, _, hpolicy, _, hport, h⟩
    cases h
    intro s
    cases s with
    | ns => exact Setting.given?_ns_eq_iff.1 rfl
    | concurrency => exact loadedBy_concurrency.load_eq_ok_iff.1 hconcurrency
    | debounce => exact loadedBy_debounce.load_eq_ok_iff.1 hdebounce
    | passTimeout => exact loadedBy_passTimeout.load_eq_ok_iff.1 htimeout
    | backoffMin => exact loadedBy_backoffMin.load_eq_ok_iff.1 hmin
    | backoffMax => exact loadedBy_backoffMax.load_eq_ok_iff.1 hmax
    | driftPolicy => exact loadedBy_driftPolicy.load_eq_ok_iff.1 hpolicy
    | metricsPort => exact loadedBy_metricsPort.load_eq_ok_iff.1 hport
  · intro h
    refine ⟨c.concurrency, loadedBy_concurrency.load_eq_ok_iff.2 (h _),
      c.debounce, loadedBy_debounce.load_eq_ok_iff.2 (h _),
      c.passTimeout, loadedBy_passTimeout.load_eq_ok_iff.2 (h _),
      c.backoffMin, loadedBy_backoffMin.load_eq_ok_iff.2 (h _),
      c.backoffMax, loadedBy_backoffMax.load_eq_ok_iff.2 (h _),
      c.driftPolicy, loadedBy_driftPolicy.load_eq_ok_iff.2 (h _),
      c.metricsPort, loadedBy_metricsPort.load_eq_ok_iff.2 (h _), ?_⟩
    rw [Setting.given?_ns_eq_iff.2 (h .ns)]
    rfl

/-- A computation that goes through settings in turn fails at the first that is misread. -/
def FailsFirst {α : Type} (lookup : Lookup) (settings : List Setting) (x : Except ConfigFault α) :
    Prop :=
  ∀ fault, x = .error fault → ∃ s, FirstWith (·.Misread lookup) settings s ∧ fault.Blames s

/-- Where no settings are left there is nothing to fail at. -/
theorem FailsFirst.nil {α : Type} (a : α) : FailsFirst lookup [] (.ok a) := by
  intro fault h
  cases h

/-- A setting in front of others is read before them, and what it fails at comes first. -/
theorem FailsFirst.load {α β : Type} {s : Setting} {settings : List Setting}
    {read : String → Except ValueFault α} {view : α → SettingValue} {d : α}
    {rest : α → Except ConfigFault β} (hload : s.LoadedBy read d view)
    (hrest : ∀ a, FailsFirst lookup settings (rest a)) :
    FailsFirst lookup (s :: settings) (s.load lookup read d >>= rest) := by
  intro fault h
  cases hresult : s.load lookup read d with
  | error fault' =>
    rw [hresult] at h
    cases h
    obtain ⟨hmisread, t, cause, -, rfl⟩ := hload.load_eq_error hresult
    exact ⟨s, .here hmisread, ConfigFault.blames_badValue s t cause⟩
  | ok a =>
    rw [hresult] at h
    obtain ⟨s', hfirst, hblames⟩ := hrest a fault h
    exact ⟨s', .later (hload.load_eq_ok_iff.1 hresult).not_misread hfirst, hblames⟩

/-- Reading fails at the first setting that is misread, and at nothing else. -/
theorem failsFirst_read (lookup : Lookup) :
    FailsFirst lookup Setting.readingOrder (Config.read lookup) := by
  refine .load loadedBy_concurrency fun _ => ?_
  refine .load loadedBy_debounce fun _ => ?_
  refine .load loadedBy_passTimeout fun _ => ?_
  refine .load loadedBy_backoffMin fun _ => ?_
  refine .load loadedBy_backoffMax fun _ => ?_
  refine .load loadedBy_driftPolicy fun _ => ?_
  refine .load loadedBy_metricsPort fun _ => ?_
  exact .nil _

/-- What a lookup gives either stands for a configuration, or is misread somewhere. -/
theorem settled_or_misread (lookup : Lookup) :
    (∃ c : Config, Config.read lookup = .ok c ∧ c.SettledBy lookup) ∨
      ∃ fault s, Config.read lookup = .error fault ∧
        FirstWith (·.Misread lookup) Setting.readingOrder s ∧ fault.Blames s := by
  cases hread : Config.read lookup with
  | ok c => exact .inl ⟨c, rfl, read_eq_ok_iff.1 hread⟩
  | error fault =>
    obtain ⟨s, hfirst, hblames⟩ := failsFirst_read lookup fault hread
    exact .inr ⟨fault, s, rfl, hfirst, hblames⟩

end read

/-! ## Ranges -/

/-- A setting in seconds is set to whole seconds. -/
theorem Setting.Settles.whole_seconds {s : Setting} {lookup : Lookup} {nanos : Nat}
    (hs : s = .passTimeout ∨ s = .backoffMin ∨ s = .backoffMax)
    (h : s.Settles lookup (.span nanos)) : ∃ n, nanos = n * nanosPerSecond := by
  cases h with
  | given _ hv =>
    obtain ⟨n, -, -, hn⟩ := (Setting.denotes_seconds_iff hs).1 hv
    exact ⟨n, SettingValue.span.inj hn⟩
  | absent _ hv =>
    rcases hs with rfl | rfl | rfl <;> exact ⟨_, SettingValue.span.inj hv⟩

/-- Of whole seconds, only none at all are less than one. -/
theorem Duration.eq_zero_iff_of_whole_seconds {d : Duration}
    (h : ∃ n, d.toNanos = n * nanosPerSecond) : d = zero ↔ d.toNanos < 1 * nanosPerSecond := by
  obtain ⟨n, hn⟩ := h
  rw [eq_zero_iff, hn, Nat.mul_lt_mul_right nanosPerSecond_pos, Nat.lt_one_iff,
    Nat.mul_eq_zero]
  simp [Nat.ne_of_gt nanosPerSecond_pos]

section ranges

variable {lookup : Lookup} {c : Config}

theorem Config.outOfRange_concurrency_iff : c.OutOfRange .concurrency ↔ c.concurrency = 0 := by
  rw [OutOfRange, Nat.lt_one_iff, ← UInt16.toNat_inj]
  rfl

theorem Config.SettledBy.outOfRange_passTimeout_iff (hc : c.SettledBy lookup) :
    c.OutOfRange .passTimeout ↔ c.passTimeout = Duration.zero :=
  (Duration.eq_zero_iff_of_whole_seconds ((hc .passTimeout).whole_seconds (.inl rfl))).symm

/-- The shortest delay is out of range only if it is zero. -/
theorem Config.SettledBy.outOfRange_backoffMin_iff (hc : c.SettledBy lookup) :
    c.OutOfRange .backoffMin ↔ c.backoffMin = Duration.zero :=
  (Duration.eq_zero_iff_of_whole_seconds ((hc .backoffMin).whole_seconds (.inr (.inl rfl)))).symm

/-- Only settings whose range is checked can be out of range. -/
theorem Config.OutOfRange.mem_checkingOrder {s : Setting} (h : c.OutOfRange s) :
    s ∈ Setting.checkingOrder := by
  cases s with
  | concurrency | passTimeout | backoffMin | backoffMax => decide
  | ns | debounce | driftPolicy | metricsPort => exact h.elim

/-- Checks that go through settings in turn report the first of which something holds, and nothing
only if it holds of none. -/
def ReportsFirst (p : Setting → Prop) (settings : List Setting) (x : Option ConfigFault) : Prop :=
  (x = none ∧ ∀ s ∈ settings, ¬ p s) ∨
    ∃ fault s, x = some fault ∧ FirstWith p settings s ∧ fault.Blames s

theorem ReportsFirst.nil {p : Setting → Prop} : ReportsFirst p [] none :=
  .inl ⟨rfl, fun _ hs => nomatch hs⟩

/-- A check in front of others is reported before them. -/
theorem ReportsFirst.check {p : Setting → Prop} {cond : Prop} [Decidable cond] {s : Setting}
    {settings : List Setting} {fault : ConfigFault} {x : Option ConfigFault} (hcond : p s ↔ cond)
    (hblames : fault.Blames s) (hrest : ReportsFirst p settings x) :
    ReportsFirst p (s :: settings) (if cond then some fault else x) := by
  split
  · next h => exact .inr ⟨fault, s, rfl, .here (hcond.2 h), hblames⟩
  · next h =>
    have hnot : ¬ p s := fun hs => h (hcond.1 hs)
    rcases hrest with ⟨hx, hnone⟩ | ⟨fault', s', hx, hfirst, hblames'⟩
    · exact .inl ⟨hx, List.forall_mem_cons.2 ⟨hnot, hnone⟩⟩
    · exact .inr ⟨fault', s', hx, .later hnot hfirst, hblames'⟩

/-- The ranges of a configuration that a lookup sets are checked in turn. -/
theorem Config.SettledBy.reportsFirst (hc : c.SettledBy lookup) :
    ReportsFirst c.OutOfRange Setting.checkingOrder c.rangeFault? := by
  refine .check c.outOfRange_concurrency_iff (ConfigFault.blames_zero _) ?_
  refine .check hc.outOfRange_passTimeout_iff (ConfigFault.blames_zero _) ?_
  refine .check hc.outOfRange_backoffMin_iff (ConfigFault.blames_zero _) ?_
  refine .check Iff.rfl (ConfigFault.blames_backoffOrder _ _) ?_
  exact .nil

end ranges

/-! ## The decision -/

variable {lookup : Lookup}

/-- The values that are set make one configuration. -/
theorem Config.SettledBy.unique {c c' : Config} (h : c.SettledBy lookup)
    (h' : c'.SettledBy lookup) : c = c' := by
  rw [← read_eq_ok_iff] at h h'
  exact Except.ok.inj (h.symm.trans h')

/-- One setting at most is to blame. -/
theorem FirstOffence.unique {s s' : Setting} (h : FirstOffence lookup s)
    (h' : FirstOffence lookup s') : s = s' := by
  -- what is misread is set to nothing, so that no range is looked at
  cases h with
  | misread h =>
    cases h' with
    | misread h' => exact h.unique h'
    | outOfRange hc => exact absurd h.holds (hc s).not_misread
  | outOfRange hc h =>
    cases h' with
    | misread h' => exact absurd h'.holds (hc s').not_misread
    | outOfRange hc' h' =>
      cases hc.unique hc'
      exact h.unique h'

/-- Nothing is to blame where the values that are set are in range. -/
theorem Config.SettledBy.not_firstOffence {c : Config} {s : Setting} (hc : c.SettledBy lookup)
    (hrange : ∀ s, ¬ c.OutOfRange s) : ¬ FirstOffence lookup s := by
  intro h
  cases h with
  | misread h => exact (hc s).not_misread h.holds
  | outOfRange hc' h =>
    cases hc.unique hc'
    exact hrange s h.holds

/-- A lookup yields the values that it sets if they are in range, or a refusal that names the
setting to blame. -/
theorem load_cases (lookup : Lookup) :
    (∃ c : Config, Config.load lookup = .ok c ∧ c.SettledBy lookup ∧ ∀ s, ¬ c.OutOfRange s) ∨
      ∃ fault s, Config.load lookup = .error fault ∧ fault.Blames s ∧ FirstOffence lookup s := by
  -- ranges are checked on a configuration only, which is there once everything reads
  unfold Config.load
  rcases settled_or_misread lookup with ⟨c, hread, hc⟩ | ⟨fault, s, hread, hfirst, hblames⟩
  · rcases hc.reportsFirst with ⟨hnone, hin⟩ | ⟨fault, s, hsome, hfirst, hblames⟩
    · have hrange : ∀ s, ¬ c.OutOfRange s := fun s hs => hin s hs.mem_checkingOrder hs
      exact .inl ⟨c, by simp [hread, hnone], hc, hrange⟩
    · exact .inr ⟨fault, s, by simp [hread, hsome], hblames, .outOfRange hc hfirst⟩
  · exact .inr ⟨fault, s, by simp [hread], hblames, .misread hfirst⟩

/-- A configuration is loaded exactly if it has the values that the lookup sets and all are in
range. -/
theorem load_eq_ok_iff {c : Config} :
    Config.load lookup = .ok c ↔ c.SettledBy lookup ∧ ∀ s, ¬ c.OutOfRange s := by
  constructor
  · intro h
    rcases load_cases lookup with ⟨c', hload, hc'⟩ | ⟨fault, s, hload, -, -⟩
    · cases h.symm.trans hload
      exact hc'
    · cases h.symm.trans hload
  · rintro ⟨hc, hrange⟩
    rcases load_cases lookup with ⟨c', hload, hc', -⟩ | ⟨fault, s, -, -, hoffence⟩
    · rw [hc.unique hc']
      exact hload
    · exact absurd hoffence (hc.not_firstOffence hrange)

/-- A refusal names the setting that is to blame. -/
theorem load_blames_iff {s : Setting} :
    (∃ fault, Config.load lookup = .error fault ∧ fault.Blames s) ↔ FirstOffence lookup s := by
  constructor
  · rintro ⟨fault, h, hblames⟩
    rcases load_cases lookup with ⟨c, hload, -⟩ | ⟨fault', s', hload, hblames', hoffence⟩
    · cases h.symm.trans hload
    · cases h.symm.trans hload
      rw [hblames.unique hblames']
      exact hoffence
  · intro h
    rcases load_cases lookup with ⟨c, -, hc, hrange⟩ | ⟨fault, s', hload, hblames, hoffence⟩
    · exact absurd h (hc.not_firstOffence hrange)
    · rw [h.unique hoffence]
      exact ⟨fault, hload, hblames⟩

/-- Acceptance in terms of the texts that are given. -/
theorem exists_load_eq_ok_iff :
    (∃ c, Config.load lookup = .ok c) ↔
      (∀ s t, Setting.Given s lookup t → ∃ v, s.Denotes t v) ∧
        ∀ c : Config, c.SettledBy lookup → ∀ s, ¬ c.OutOfRange s := by
  constructor
  · rintro ⟨c, h⟩
    obtain ⟨hc, hrange⟩ := load_eq_ok_iff.1 h
    constructor
    · intro s t ht
      by_contra hnone
      exact (hc s).not_misread ⟨t, ht, not_exists.1 hnone⟩
    · intro c' hc'
      -- lookups determine what is set, so the configuration in question is the loaded one
      rw [hc'.unique hc]
      exact hrange
  · rintro ⟨hread, hrange⟩
    -- a refusal would have a first offence, of one of the two sorts that are excluded
    rcases load_cases lookup with ⟨c, hload, -⟩ | ⟨fault, s, -, -, hoffence⟩
    · exact ⟨c, hload⟩
    · cases hoffence with
      | misread h =>
        obtain ⟨t, ht, hnone⟩ := h.holds
        obtain ⟨v, hv⟩ := hread s t ht
        exact absurd hv (hnone v)
      | outOfRange hc h => exact absurd h.holds (hrange _ hc s)

/-- Only the variables of the settings count. -/
theorem load_congr {lookup' : Lookup} (h : ∀ s : Setting, lookup' s.name = lookup s.name) :
    Config.load lookup' = Config.load lookup := by
  -- the lookup is only asked for the names of settings
  have hgiven : ∀ s : Setting, s.given? lookup' = s.given? lookup := by
    intro s
    rw [Setting.given?, h]
    rfl
  simp only [Config.load, Config.read, Setting.load, hgiven]

/-- A configuration is loaded exactly if each text that is given stands for a value and the values,
with the defaults for what is not given, are in range; it has these values. Any other lookup is
refused, and the refusal names the setting that is first to blame: the first that is misread, or
if none is, the first that is out of range. Other variables never matter. -/
theorem load_decides (lookup : Lookup) :
    (∀ c, Config.load lookup = .ok c ↔ c.SettledBy lookup ∧ ∀ s, ¬ c.OutOfRange s) ∧
    ((∃ c, Config.load lookup = .ok c) ↔
      (∀ s t, Setting.Given s lookup t → ∃ v, s.Denotes t v) ∧
        ∀ c : Config, c.SettledBy lookup → ∀ s, ¬ c.OutOfRange s) ∧
    (∀ s, (∃ fault, Config.load lookup = .error fault ∧ fault.Blames s) ↔
      FirstOffence lookup s) ∧
    ((∀ c, Config.load lookup ≠ .ok c) → ∃ s, FirstOffence lookup s) ∧
    ∀ lookup' : Lookup, (∀ s : Setting, lookup' s.name = lookup s.name) →
      Config.load lookup' = Config.load lookup := by
  refine ⟨fun _ => load_eq_ok_iff, exists_load_eq_ok_iff, fun _ => load_blames_iff, ?_,
    fun _ => load_congr⟩
  intro h
  rcases load_cases lookup with ⟨c, hload, -⟩ | ⟨fault, s, -, -, hoffence⟩
  · exact absurd hload (h c)
  · exact ⟨s, hoffence⟩

/-- Two settings out of range and two that are misread: the drift policy is read first of these
two. A variable of no setting changes nothing. -/
def muddledVariables : List (String × String) :=
  [("METRICS_PORT", "65536"), ("RECONCILE_CONCURRENCY", "0"), ("BACKOFF_MAX_SECS", " +04 "),
   ("DRIFT_POLICY", "Reports")]

theorem policy_to_blame :
    (∀ c, Config.load (fun name => List.lookup name muddledVariables) ≠ .ok c) ∧
    FirstOffence (fun name => List.lookup name muddledVariables) .driftPolicy ∧
    (∀ s : Setting, List.lookup s.name (("HOME", "7") :: muddledVariables) =
      List.lookup s.name muddledVariables) ∧
    Config.load (fun name => List.lookup name (("HOME", "7") :: muddledVariables)) =
      Config.load (fun name => List.lookup name muddledVariables) := by
  obtain ⟨-, -, herror, -, hother⟩ := load_decides fun name => List.lookup name muddledVariables
  have hload : Config.load (fun name => List.lookup name muddledVariables) =
      .error (.badValue .driftPolicy "Reports" (.policy "Reports")) := by
    rfl
  have hsame : ∀ s : Setting, List.lookup s.name (("HOME", "7") :: muddledVariables) =
      List.lookup s.name muddledVariables := by
    intro s
    cases s <;> rfl
  refine ⟨?_, ?_, hsame, hother _ hsame⟩
  · intro c h
    rw [hload] at h
    cases h
  · exact (herror _).1 ⟨_, hload, ConfigFault.blames_badValue _ _ _⟩

/-- A greatest delay alone is compared with the first delay that is the default. -/
example : Config.load (fun name => List.lookup name [("BACKOFF_MAX_SECS", " 4 ")]) =
    .error (.backoffOrder 4 5) := rfl

end InstanceOperator
