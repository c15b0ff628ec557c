import InstanceOperator.Proofs.Config.Decision

/-!
# Writing a configuration as variables

A configuration is put into variables: a number or a span by decimal digits, a policy by its name in
letters of any case, the namespace as it is, and no variable at all for every namespace. Around each
value there may be blanks. What is loaded from such variables is the configuration itself, as long
as its spans are whole numbers of their units and its ranges are kept; and no other configuration is
ever loaded.

* `Config.Writable`: the configurations that can be put into variables.
* `Config.Spells`, `Config.Writes`: the texts of a setting, and a lookup that gives one of them.
* `Config.Writable.of_load`: what is loaded can be written.
* `written_config_loads`: what is written is loaded.
-/

namespace InstanceOperator

/-! ## Numbers and policies as texts -/

/-- A number is written without blanks. -/
theorem Text.trimmed_toString (n : Nat) : toString n ≠ "" ∧ Trimmed (toString n) (toString n) := by
  have hdigits : ∀ c ∈ (toString n).toList, isBlank c = false := by
    intro c hc
    exact not_isBlank_of_isDigit (isDigit_of_mem_toString hc)
  refine ⟨?_, trimmed_of_no_blank hdigits⟩
  intro hempty
  have hnil : Nat.toDigits 10 n = [] := by
    rw [← Nat.toList_repr, ← Nat.toString_eq_repr, hempty, String.toList_empty]
  exact Nat.toDigits_ne_nil hnil

/-- The name of a policy has no blanks, in letters of any case. -/
theorem DriftPolicy.trimmed_of_sameLetters {p : DriftPolicy} {t : String}
    (h : Text.SameLetters t p.name) : t ≠ "" ∧ Text.Trimmed t t := by
  have hall : p.name.toList.all (·.isLower) = true := by
    cases p <;> rfl
  refine ⟨?_, Text.trimmed_of_no_blank (h.no_blank (List.all_eq_true.1 hall))⟩
  rintro rfl
  have hlength : p.name.toList.length = 0 := h.length_eq.symm
  cases p <;> simp [name] at hlength

namespace Config

/-! ## Configurations and their texts -/

/-- A configuration whose spans are whole numbers of their units, whose ranges are kept, and whose
namespace, if it has one, is a text with no blanks at its ends. -/
structure Writable (c : Config) : Prop where
  ns : ∀ t, c.ns = some t → t ≠ "" ∧ Text.Trimmed t t
  concurrency : 1 ≤ c.concurrency.toNat
  debounce : ∃ n < UInt64.size, c.debounce.toNanos = n * 1000000
  passTimeout : c.passTimeout.nanos = 0 ∧ 1 ≤ c.passTimeout.secs
  backoffMin : c.backoffMin.nanos = 0 ∧ 1 ≤ c.backoffMin.secs
  backoffMax : c.backoffMax.nanos = 0 ∧ c.backoffMin.secs ≤ c.backoffMax.secs

/-- The texts that a configuration has for its settings. -/
inductive Spells (c : Config) : Setting → String → Prop where
  | ns {t : String} (h : c.ns = some t) : Spells c .ns t
  | concurrency : Spells c .concurrency (toString c.concurrency.toNat)
  | debounce {n : Nat} (h : c.debounce.toNanos = n * 1000000) : Spells c .debounce (toString n)
  | passTimeout : Spells c .passTimeout (toString c.passTimeout.secs)
  | backoffMin : Spells c .backoffMin (toString c.backoffMin.secs)
  | backoffMax : Spells c .backoffMax (toString c.backoffMax.secs)
  | driftPolicy {t : String} (h : Text.SameLetters t c.driftPolicy.name) : Spells c .driftPolicy t
  | metricsPort : Spells c .metricsPort (toString c.metricsPort.toNat)

/-- A lookup gives a setting as the configuration has it, with any blanks around it. There is no
variable for the namespace if all namespaces are served. -/
inductive Writes (c : Config) (lookup : Lookup) : Setting → Prop where
  | given {s : Setting} (before text after : String) (htext : c.Spells s text)
      (hlookup : lookup s.name = some (before ++ text ++ after))
      (hbefore : ∀ ch ∈ before.toList, Text.isBlank ch = true)
      (hafter : ∀ ch ∈ after.toList, Text.isBlank ch = true) : Writes c lookup s
  | everywhere (hns : c.ns = none) (hlookup : lookup Setting.ns.name = none) : Writes c lookup .ns

variable {c : Config} {lookup : Lookup} {s : Setting} {t : String}

/-! ## What the texts stand for -/

/-- Whatever stands for a setting has no blanks at its ends. -/
theorem Spells.trimmed (hc : c.Writable) (h : c.Spells s t) : t ≠ "" ∧ Text.Trimmed t t := by
  cases h with
  | ns h => exact hc.ns t h
  | driftPolicy h => exact DriftPolicy.trimmed_of_sameLetters h
  | concurrency | debounce | passTimeout | backoffMin | backoffMax | metricsPort =>
    exact Text.trimmed_toString _

/-- A text of a setting stands for what the configuration sets it to. -/
theorem Spells.denotes (hc : c.Writable) (h : c.Spells s t) : s.Denotes t (c.value s) := by
  have hdecimal := Text.decimal_toString
  cases h with
  | ns h =>
    rw [value, h]
    exact .ns t
  | concurrency => exact .number (.inl rfl) (hdecimal _) c.concurrency.toNat_lt
  | @debounce n h =>
    rcases hc.debounce with ⟨m, hm, hspan⟩
    -- the text is that of the one count of milliseconds that the span has
    have hcount : n < UInt64.size := by omega
    rw [value, h]
    exact .millis (hdecimal n) hcount
  | passTimeout =>
    rw [value, Duration.toNanos_of_nanos_eq_zero hc.passTimeout.1]
    exact .seconds (.inl rfl) (hdecimal _) c.passTimeout.secs_lt
  | backoffMin =>
    rw [value, Duration.toNanos_of_nanos_eq_zero hc.backoffMin.1]
    exact .seconds (.inr (.inl rfl)) (hdecimal _) c.backoffMin.secs_lt
  | backoffMax =>
    rw [value, Duration.toNanos_of_nanos_eq_zero hc.backoffMax.1]
    exact .seconds (.inr (.inr rfl)) (hdecimal _) c.backoffMax.secs_lt
  | driftPolicy h => exact .policy h
  | metricsPort => exact .number (.inr rfl) (hdecimal _) c.metricsPort.toNat_lt

/-! ## Variables -/

/-- A lookup sets a setting to what was written. -/
theorem Writes.settles (hc : c.Writable) (h : c.Writes lookup s) :
    s.Settles lookup (c.value s) := by
  cases h with
  | given before text after htext hlookup hbefore hafter =>
    obtain ⟨hne, htrimmed⟩ := htext.trimmed hc
    exact .given ⟨_, hlookup, htrimmed.padded hbefore hafter, hne⟩ (htext.denotes hc)
  | everywhere hns hlookup =>
    have hnone : ∀ t, ¬ Setting.ns.Given lookup t := by
      rintro t ⟨raw, hraw, -⟩
      rw [hlookup] at hraw
      cases hraw
    have hvalue : c.value .ns = Setting.ns.default := by
      rw [value, hns]
      rfl
    exact .absent hnone hvalue

/-- What can be written has been checked, so that its settings are in range. -/
theorem Writable.in_range (hc : c.Writable) (s : Setting) : ¬ c.OutOfRange s := by
  have hconcurrency := hc.concurrency
  have htimeout := hc.passTimeout
  have hmin := hc.backoffMin
  have hmax := hc.backoffMax
  intro h
  cases s with
  | concurrency =>
    have hzero : c.concurrency.toNat < 1 := h
    omega
  | passTimeout =>
    have hzero : c.passTimeout.secs < 1 := (Duration.toNanos_lt_iff htimeout.1).1 h
    omega
  | backoffMin =>
    have hzero : c.backoffMin.secs < 1 := (Duration.toNanos_lt_iff hmin.1).1 h
    omega
  | backoffMax =>
    have hbelow : c.backoffMax.toNanos < c.backoffMin.toNanos := h
    -- the range is about nanoseconds, and both spans are whole seconds
    rw [Duration.toNanos_of_nanos_eq_zero hmin.1, Duration.toNanos_lt_iff hmax.1] at hbelow
    omega
  | ns | debounce | driftPolicy | metricsPort => exact h

/-- What is loaded can be written. -/
theorem Writable.of_load (h : Config.load lookup = .ok c) : c.Writable := by
  obtain ⟨hsettled, hrange⟩ := load_eq_ok_iff.1 h
  -- spans that are loaded in seconds have no fraction, be they given or the defaults
  have htimeout := Duration.nanos_eq_zero_of_whole ((hsettled .passTimeout).whole_seconds (.inl rfl))
  have hmin := Duration.nanos_eq_zero_of_whole ((hsettled .backoffMin).whole_seconds (.inr (.inl rfl)))
  have hmax := Duration.nanos_eq_zero_of_whole ((hsettled .backoffMax).whole_seconds (.inr (.inr rfl)))
  constructor
  · intro t ht
    have hgiven := hsettled .ns
    rw [value, ht] at hgiven
    cases hgiven with
    | given hraw hv =>
      cases Setting.denotes_ns_iff.1 hv
      rcases hraw with ⟨raw, -, htrimmed, hne⟩
      exact ⟨hne, htrimmed.self⟩
    | absent _ hv => cases hv
  · have hzero := hrange .concurrency
    simp only [OutOfRange] at hzero
    omega
  · cases hsettled .debounce with
    | given _ hv =>
      rcases Setting.denotes_debounce_iff.1 hv with ⟨n, -, hn, hvalue⟩
      exact ⟨n, hn, SettingValue.span.inj hvalue⟩
    | absent _ hv => exact ⟨0, by decide, SettingValue.span.inj hv⟩
  · have hzero := hrange .passTimeout
    rw [OutOfRange, Duration.toNanos_lt_iff htimeout] at hzero
    exact ⟨htimeout, by omega⟩
  · have hzero := hrange .backoffMin
    rw [OutOfRange, Duration.toNanos_lt_iff hmin] at hzero
    exact ⟨hmin, by omega⟩
  · have hbelow := hrange .backoffMax
    rw [OutOfRange, Duration.toNanos_of_nanos_eq_zero hmin, Duration.toNanos_lt_iff hmax] at hbelow
    exact ⟨hmax, by omega⟩

end Config

/-- **A configuration that is written as variables is loaded as it is.** Every setting that a
writable configuration has a text for is given as that text, a policy in letters of any case, with
any blanks around it, and there is no variable for the namespace if all are served. -/
theorem written_config_loads {c : Config} {lookup : Lookup} (hc : c.Writable)
    (h : ∀ s, c.Writes lookup s) : Config.load lookup = .ok c :=
  load_eq_ok_iff.2 ⟨fun s => (h s).settles hc, hc.in_range⟩

/-- A configuration with the greatest number that each setting takes. -/
def farthestConfig : Config where
  ns := some "demo team"
  concurrency := 65535
  debounce := Duration.ofMillis 18446744073709551615
  passTimeout := Duration.ofSecs 18446744073709551615
  backoffMin := Duration.ofSecs 18446744073709551615
  backoffMax := Duration.ofSecs 18446744073709551615
  driftPolicy := .report
  metricsPort := 65535

/-- Variables for it, with blanks of several sorts around the values. -/
def farthestVariables : List (String × String) :=
  [("WATCH_NAMESPACE", "\u3000demo team\t"), ("RECONCILE_CONCURRENCY", "65535\u0085"),
   ("DEBOUNCE_MILLIS", " 18446744073709551615"), ("PASS_TIMEOUT_SECS", "\n18446744073709551615\n"),
   ("BACKOFF_MIN_SECS", "18446744073709551615"), ("BACKOFF_MAX_SECS", "18446744073709551615\u00a0"),
   ("DRIFT_POLICY", "\u2003rePORT "), ("METRICS_PORT", "\r\n65535")]

theorem farthest_config_loads :
    farthestConfig.Writable ∧
    (∀ s, farthestConfig.Writes (fun name => List.lookup name farthestVariables) s) ∧
    Config.load (fun name => List.lookup name farthestVariables) = .ok farthestConfig := by
  have hwritable : farthestConfig.Writable := by
    constructor
    · intro t ht
      cases ht
      exact ⟨by decide, Text.trim_eq_iff.1 rfl⟩
    · decide
    · exact ⟨18446744073709551615, by decide, rfl⟩
    · decide
    · decide
    · decide
  have hwrites : ∀ s, farthestConfig.Writes (fun name => List.lookup name farthestVariables) s := by
    -- blanks are told one by one, so that each side of each value is a short evaluation
    have hblank : ∀ {t : String}, t.toList.all Text.isBlank = true →
        ∀ c ∈ t.toList, Text.isBlank c = true := List.all_eq_true.1
    intro s
    cases s with
    | ns => exact .given "\u3000" _ "\t" (.ns rfl) rfl (hblank rfl) (hblank rfl)
    | concurrency => exact .given "" _ "\u0085" .concurrency rfl (hblank rfl) (hblank rfl)
    | debounce =>
      have hmillis : farthestConfig.debounce.toNanos = 18446744073709551615 * 1000000 := rfl
      exact .given " " _ "" (.debounce hmillis) rfl (hblank rfl) (hblank rfl)
    | passTimeout => exact .given "\n" _ "\n" .passTimeout rfl (hblank rfl) (hblank rfl)
    | backoffMin => exact .given "" _ "" .backoffMin rfl (hblank rfl) (hblank rfl)
    | backoffMax => exact .given "" _ "\u00a0" .backoffMax rfl (hblank rfl) (hblank rfl)
    | driftPolicy =>
      have hletters : Text.SameLetters "rePORT" farthestConfig.driftPolicy.name :=
        readPolicy_eq_ok_iff.1 rfl
      exact .given "\u2003" _ " " (.driftPolicy hletters) rfl (hblank rfl) (hblank rfl)
    | metricsPort => exact .given "\r\n" _ "" .metricsPort rfl (hblank rfl) (hblank rfl)
  exact ⟨hwritable, hwrites, written_config_loads hwritable hwrites⟩

end InstanceOperator
