import InstanceOperator.Text.Natural

/-!
# Decimal numbers

The texts that stand for a number, and the number that each stands for: an optional plus sign, and
then one decimal digit or more, leading zeros included. The reader stops at the first digit that
takes the value above its limit. That this is no other condition than the one on the final value is
because digits never take a value down.

* `Text.Decimal`: the texts and their values.
* `Text.readNatural_eq_ok_iff`: what the reader accepts.
* `Text.decimal_toString`: a number is written as a text that stands for it.
-/

namespace InstanceOperator.Text

/-- A text is an optional plus sign and at least one decimal digit, with this value. -/
def Decimal (s : String) (n : Nat) : Prop :=
  ∃ ds, (s.toList = ds ∨ s.toList = '+' :: ds) ∧ ds ≠ [] ∧ (∀ c ∈ ds, c.isDigit = true) ∧
    Nat.ofDigitChars 10 ds 0 = n

theorem digit?_eq_some_iff {c : Char} {d : Nat} :
    digit? c = some d ↔ c.isDigit = true ∧ c.toNat - '0'.toNat = d := by
  simp [digit?, Char.isDigit, Char.le_def]

theorem digit?_eq_none_iff {c : Char} : digit? c = none ↔ ¬ c.isDigit = true := by
  simp [digit?, Char.isDigit, Char.le_def]

/-- Digits never take a value down. -/
theorem le_ofDigitChars (ds : List Char) (value : Nat) :
    value ≤ Nat.ofDigitChars 10 ds value := by
  rw [Nat.ofDigitChars_eq_ofDigitChars_zero]
  have hpow : 1 ≤ 10 ^ ds.length := Nat.pow_pos (by decide)
  have hle : value ≤ 10 ^ ds.length * value := Nat.le_mul_of_pos_left value hpow
  omega

/-- The limit is checked at every digit, but as a number only grows by further ones, the final value
decides. -/
theorem readDigits_eq_ok_iff {limit value n : Nat} {cs : List Char} (hvalue : value ≤ limit) :
    readDigits limit value cs = .ok n ↔
      (∀ c ∈ cs, c.isDigit = true) ∧ Nat.ofDigitChars 10 cs value = n ∧ n ≤ limit := by
  induction cs generalizing value with
  | nil =>
    simp only [readDigits, Except.ok.injEq, List.not_mem_nil, false_implies, implies_true,
      Nat.ofDigitChars_nil, true_and]
    constructor
    · rintro rfl
      exact ⟨rfl, hvalue⟩
    · exact fun h => h.1
  | cons c cs ih =>
    rw [List.forall_mem_cons, Nat.ofDigitChars_cons]
    cases hdigit : digit? c with
    | none =>
      have hc := digit?_eq_none_iff.1 hdigit
      simp [readDigits, hdigit, hc]
    | some d =>
      obtain ⟨hc, rfl⟩ := digit?_eq_some_iff.1 hdigit
      simp only [readDigits, hdigit, hc, true_and, Nat.mul_comm value 10]
      split
      · next hfits => exact ih hfits
      · next hover =>
        -- the value is above the limit from here on
        constructor
        · intro h
          cases h
        · rintro ⟨-, rfl, hle⟩
          exact absurd (Nat.le_trans (le_ofDigitChars cs _) hle) hover

/-! ## The sign -/

/-- A plus sign is dropped once. -/
theorem eq_dropPlus_or (cs : List Char) : cs = dropPlus cs ∨ cs = '+' :: dropPlus cs := by
  unfold dropPlus
  split
  · exact .inr rfl
  · exact .inl rfl

/-- Digits have no sign in front of them. -/
theorem dropPlus_of_isDigit {ds : List Char} (h : ∀ c ∈ ds, c.isDigit = true) :
    dropPlus ds = ds := by
  unfold dropPlus
  split
  · next cs =>
    have hplus : '+'.isDigit = true := h '+' List.mem_cons_self
    exact absurd hplus (by decide)
  · rfl

/-- What follows the sign are the digits. -/
theorem decimal_iff {s : String} {n : Nat} :
    Decimal s n ↔ dropPlus s.toList ≠ [] ∧ (∀ c ∈ dropPlus s.toList, c.isDigit = true) ∧
      Nat.ofDigitChars 10 (dropPlus s.toList) 0 = n := by
  constructor
  · rintro ⟨ds, hs, hne, hdigits, hvalue⟩
    have hds : dropPlus s.toList = ds := by
      rcases hs with hs | hs
      · rw [hs, dropPlus_of_isDigit hdigits]
      · rw [hs]
        rfl
    rw [hds]
    exact ⟨hne, hdigits, hvalue⟩
  · rintro ⟨hne, hdigits, hvalue⟩
    exact ⟨_, eq_dropPlus_or _, hne, hdigits, hvalue⟩

/-- A text stands for one number at most. -/
theorem Decimal.unique {s : String} {n m : Nat} (hn : Decimal s n) (hm : Decimal s m) : n = m := by
  rw [decimal_iff] at hn hm
  exact hn.2.2.symm.trans hm.2.2

/-! ## The reader -/

/-- A number is read exactly from the texts that stand for it, if it is within the limit. -/
theorem readNatural_eq_ok_iff {limit n : Nat} {s : String} :
    readNatural limit s = .ok n ↔ Decimal s n ∧ n ≤ limit := by
  rw [decimal_iff, and_assoc, and_assoc, ← readDigits_eq_ok_iff (Nat.zero_le limit)]
  unfold readNatural
  split
  · next hnil => simp [hnil, dropPlus]
  · split
    · next hnil => simp [hnil]
    · next hne =>
      constructor
      · exact fun h => ⟨hne, h⟩
      · exact fun h => h.2

/-! ## The digits of a number -/

theorem isDigit_of_mem_toString {n : Nat} {c : Char} (h : c ∈ (toString n).toList) :
    c.isDigit = true := by
  rw [Nat.toString_eq_repr, Nat.toList_repr] at h
  exact Nat.isDigit_of_mem_toDigits (by decide) (by decide) h

/-- The text that a number is written as stands for it. -/
theorem decimal_toString (n : Nat) : Decimal (toString n) n := by
  have hdigits : (toString n).toList = Nat.toDigits 10 n := by
    rw [Nat.toString_eq_repr, Nat.toList_repr]
  refine ⟨_, .inl hdigits, Nat.toDigits_ne_nil, ?_, Nat.ofDigitChars_ten_toDigits⟩
  rw [← hdigits]
  intro c hc
  exact isDigit_of_mem_toString hc

/-- A given width takes the numbers below its size. -/
example : readNatural 65535 "+0065535" = .ok 65535 := rfl

end InstanceOperator.Text
