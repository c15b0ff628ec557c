import InstanceOperator.Proofs.Config.Decision

/-!
# Settings from the environment

The variables of a process hold bytes. Where a setting's variable is absent or holds a text, nothing
is left aside: the setting has its default only if the variable is absent or blank, and any other
text either stands for the value that the setting has or is refused.

Bytes that are no text are left aside: they count as an absent variable, so that the setting has its
default and nothing is refused (`Environment.settles_default_of_not_text`).

* `Environment.HoldsText`: the variable of a setting holds no bytes that are not a text.
* `Environment.Explains`: what the variable of a setting holds accounts for a value.
* `settings_explained`: the result.
-/

namespace InstanceOperator

/-- Bytes are read as the text whose encoding they are. -/
theorem fromUTF8?_eq_some_iff {bytes : ByteArray} {raw : String} :
    String.fromUTF8? bytes = some raw ↔ raw.toUTF8 = bytes := by
  constructor
  · intro h
    unfold String.fromUTF8? at h
    split at h
    · cases h
      rfl
    · cases h
  · rintro rfl
    rw [String.toUTF8_eq_toByteArray, String.fromUTF8?, dif_pos raw.isValidUTF8]
    rfl

namespace Environment

/-- The variable of a setting is absent or holds a text. -/
def HoldsText (env : Environment) (s : Setting) : Prop :=
  ∀ bytes, List.lookup s.name env = some bytes → ∃ raw : String, raw.toUTF8 = bytes

/-- What the variable of a setting holds accounts for a value of the setting. -/
inductive Explains (env : Environment) (s : Setting) : SettingValue → Prop where
  | absent (h : List.lookup s.name env = none) : Explains env s s.default
  | blank {raw : String} (h : List.lookup s.name env = some raw.toUTF8)
      (hblank : Text.Trimmed raw "") : Explains env s s.default
  | value {raw t : String} {v : SettingValue} (h : List.lookup s.name env = some raw.toUTF8)
      (ht : Text.Trimmed raw t) (hne : t ≠ "") (hv : s.Denotes t v) : Explains env s v

variable {env : Environment} {s : Setting} {v : SettingValue} {raw : String}

/-- A lookup of bytes yields the texts that they encode, and no others. -/
theorem lookup_eq_some_iff :
    env.lookup s.name = some raw ↔ List.lookup s.name env = some raw.toUTF8 := by
  rw [lookup, Option.bind_eq_some_iff]
  constructor
  · rintro ⟨bytes, hbytes, hraw⟩
    rw [fromUTF8?_eq_some_iff.1 hraw]
    exact hbytes
  · intro h
    exact ⟨_, h, fromUTF8?_eq_some_iff.2 rfl⟩

/-- Where the variable holds a text, there is a text if there is a variable. -/
theorem HoldsText.lookup_eq_none_iff (htext : env.HoldsText s) :
    env.lookup s.name = none ↔ List.lookup s.name env = none := by
  constructor
  · intro h
    cases hbytes : List.lookup s.name env with
    | none => rfl
    | some bytes =>
      obtain ⟨raw, rfl⟩ := htext bytes hbytes
      rw [lookup_eq_some_iff.2 hbytes] at h
      cases h
  · intro h
    rw [lookup, h]
    rfl

/-- What accounts for a value sets it. -/
theorem Explains.settles (h : env.Explains s v) : s.Settles env.lookup v := by
  cases h with
  | absent h =>
    refine .absent ?_ rfl
    rintro t ⟨raw, hraw, -, -⟩
    rw [lookup_eq_some_iff, h] at hraw
    cases hraw
  | blank h hblank =>
    refine .absent ?_ rfl
    rintro t ⟨raw, hraw, ht, hne⟩
    rw [lookup_eq_some_iff, h, Option.some.injEq] at hraw
    cases String.toByteArray_inj.1 hraw
    exact hne ((Text.trim_eq_iff.2 ht).symm.trans (Text.trim_eq_iff.2 hblank))
  | value h ht hne hv => exact .given ⟨_, lookup_eq_some_iff.2 h, ht, hne⟩ hv

/-- Where the variable holds a text, it accounts for the value that is set. -/
theorem HoldsText.explains (htext : env.HoldsText s) (h : s.Settles env.lookup v) :
    env.Explains s v := by
  cases h with
  | given h hv =>
    obtain ⟨raw, hraw, ht, hne⟩ := h
    exact .value (lookup_eq_some_iff.1 hraw) ht hne hv
  | absent h hv =>
    rw [hv]
    cases hlookup : env.lookup s.name with
    | none => exact .absent (htext.lookup_eq_none_iff.1 hlookup)
    | some raw =>
      have htrim : Text.Trimmed raw (Text.trim raw) := Text.trim_eq_iff.1 rfl
      have hblank : Text.trim raw = "" := by
        by_contra hne
        exact h _ ⟨raw, hlookup, htrim, hne⟩
      rw [hblank] at htrim
      exact .blank (lookup_eq_some_iff.1 hlookup) htrim

/-- Bytes that are no text account for nothing. -/
theorem Explains.holdsText (h : env.Explains s v) : env.HoldsText s := by
  intro bytes hbytes
  cases h with
  | absent h =>
    rw [h] at hbytes
    cases hbytes
  | blank h => exact ⟨_, Option.some.inj (h.symm.trans hbytes)⟩
  | value h => exact ⟨_, Option.some.inj (h.symm.trans hbytes)⟩

/-- Bytes that are no text count as an absent variable. -/
theorem settles_default_of_not_holdsText (h : ¬ env.HoldsText s) :
    s.Settles env.lookup s.default := by
  refine .absent ?_ rfl
  rintro t ⟨raw, hraw, -, -⟩
  refine h fun bytes hbytes => ⟨raw, ?_⟩
  rw [lookup_eq_some_iff, hbytes] at hraw
  exact (Option.some.inj hraw).symm

end Environment

/-- Where the variable of a setting is absent or holds a text, it accounts for the value that the
setting has in a configuration that is loaded, and for no other; if it accounts for no value, the
configuration is refused. Where it holds no text, it accounts for no value either, but the setting
has its default. -/
theorem settings_explained (env : Environment) (s : Setting) :
    (env.HoldsText s →
      (∀ c, Config.ofEnvironment env = .ok c → ∀ v, env.Explains s v ↔ v = c.value s) ∧
        ((∀ v, ¬ env.Explains s v) → ∃ fault, Config.ofEnvironment env = .error fault)) ∧
    (¬ env.HoldsText s →
      (∀ v, ¬ env.Explains s v) ∧
        ∀ c, Config.ofEnvironment env = .ok c → c.value s = s.default) := by
  -- the lookup sets the value whatever the bytes are; what they account for is another matter
  have hset : ∀ c, Config.ofEnvironment env = .ok c → s.Settles env.lookup (c.value s) :=
    fun c h => (load_eq_ok_iff.1 h).1 s
  constructor
  · intro htext
    constructor
    · intro c h v
      constructor
      · intro hv
        exact hv.settles.unique (hset c h)
      · rintro rfl
        exact htext.explains (hset c h)
    · intro hnone
      cases h : Config.ofEnvironment env with
      | ok c => exact absurd (htext.explains (hset c h)) (hnone _)
      | error fault => exact ⟨fault, rfl⟩
  · intro htext
    refine ⟨fun v hv => htext hv.holdsText, ?_⟩
    intro c h
    exact (hset c h).unique (Environment.settles_default_of_not_holdsText htext)

/-- A namespace in bytes that are no text, and a port in a text. -/
def halfReadable : Environment :=
  [("WATCH_NAMESPACE", .mk #[255, 254]), ("METRICS_PORT", "\t+09090 ".toUTF8)]

theorem halfReadable_port_explained :
    halfReadable.HoldsText .metricsPort ∧
    Config.ofEnvironment halfReadable = .ok { metricsPort := 9090 } ∧
    ∀ v, halfReadable.Explains .metricsPort v ↔ v = .number 9090 := by
  have htext : halfReadable.HoldsText .metricsPort := by
    intro bytes h
    have hbytes : some "\t+09090 ".toUTF8 = some bytes := h
    exact ⟨_, Option.some.inj hbytes⟩
  have hload : Config.ofEnvironment halfReadable = .ok { metricsPort := 9090 } := by
    rfl
  exact ⟨htext, hload, ((settings_explained _ _).1 htext).1 _ hload⟩

/-- Bytes that are no text are neither read nor refused: the operator serves all namespaces although
a variable is there that asks for one. -/
theorem namespace_left_aside :
    Config.ofEnvironment [("WATCH_NAMESPACE", .mk #[255, 254])] = .ok {} ∧
      ∀ v, ¬ Environment.Explains [("WATCH_NAMESPACE", .mk #[255, 254])] .ns v := by
  refine ⟨by rfl, ?_⟩
  intro v h
  obtain ⟨raw, hraw⟩ := h.holdsText (.mk #[255, 254]) rfl
  have hvalid : (ByteArray.mk #[255, 254]).IsValidUTF8 := hraw ▸ raw.isValidUTF8
  exact absurd hvalid (by decide)

end InstanceOperator
