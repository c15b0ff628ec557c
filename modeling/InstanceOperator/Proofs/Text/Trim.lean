import InstanceOperator.Text.Blank
import Mathlib.Data.List.Forall2
import Mathlib.Data.List.TakeWhile

/-!
# Blanks around a text, and the case of its letters

Two things that do not count in the value of a setting, each said without the function that puts
them aside: the blanks at both ends, and the case of letters.

* `Text.Trimmed`: a text and what is left of it without the blanks around it.
* `Text.trim_eq_iff`: this is what trimming gives.
* `Text.Trimmed.padded`: blanks can be put around what has none at its ends.
* `Text.SameLetters`: texts whose letters differ in case at most.
* `Text.lowerAscii_eq_iff`: how a text is compared with one in small letters.
-/

namespace InstanceOperator.Text

/-! ## Blanks at the ends -/

/-- A text begins and ends with characters that are not blank, and has only blanks around it in the
raw one. -/
structure Trimmed (raw text : String) : Prop where
  around : ∃ before after, raw.toList = before ++ text.toList ++ after ∧
    (∀ c ∈ before, isBlank c = true) ∧ ∀ c ∈ after, isBlank c = true
  first : ∀ c, text.toList.head? = some c → isBlank c = false
  last : ∀ c, text.toList.getLast? = some c → isBlank c = false

section ends

variable {α : Type} {p : α → Bool} {l before after : List α}

theorem dropWhile_of_head? (h : ∀ a, l.head? = some a → p a = false) : l.dropWhile p = l := by
  cases l with
  | nil => rfl
  | cons a l => simp [h a rfl]

theorem not_of_head?_dropWhile {a : α} (h : (l.dropWhile p).head? = some a) : p a = false := by
  have hhead := l.head?_dropWhile_not p
  rw [h] at hhead
  exact hhead

end ends

/-- Blanks around a text are dropped if it has none at its ends. -/
theorem trimChars_of_around {before cs after : List Char} (hbefore : ∀ c ∈ before, isBlank c = true)
    (hafter : ∀ c ∈ after, isBlank c = true) (hfirst : ∀ c, cs.head? = some c → isBlank c = false)
    (hlast : ∀ c, cs.getLast? = some c → isBlank c = false) :
    trimChars (before ++ cs ++ after) = cs := by
  have hafter' : ∀ c ∈ after.reverse, isBlank c = true := by
    simpa using hafter
  have hlast' : ∀ c, cs.reverse.head? = some c → isBlank c = false := by
    simpa [List.head?_reverse] using hlast
  rw [trimChars, List.append_assoc, List.dropWhile_append_of_pos hbefore]
  cases cs with
  | nil =>
    have hnil : after.dropWhile isBlank = [] := by
      simpa using @List.dropWhile_append_of_pos _ isBlank after [] hafter
    simp [hnil]
  | cons c cs =>
    have hkept : ((c :: cs) ++ after).dropWhile isBlank = (c :: cs) ++ after :=
      dropWhile_of_head? fun a ha => hfirst a ha
    rw [hkept, List.reverse_append, List.dropWhile_append_of_pos hafter',
      dropWhile_of_head? hlast', List.reverse_reverse]

/-- What is left of a text has blanks around it and none at its ends. -/
theorem trimmed_trim (raw : String) : Trimmed raw (trim raw) := by
  have htrim : (trim raw).toList = trimChars raw.toList := String.toList_ofList
  -- blanks are dropped in front, and then behind what is left
  let rest := raw.toList.dropWhile isBlank
  have hraw : raw.toList = raw.toList.takeWhile isBlank ++ rest :=
    List.takeWhile_append_dropWhile.symm
  have hrest : rest = trimChars raw.toList ++ (rest.reverse.takeWhile isBlank).reverse := by
    rw [trimChars, ← List.reverse_append, List.takeWhile_append_dropWhile, List.reverse_reverse]
  constructor
  · refine ⟨raw.toList.takeWhile isBlank, (rest.reverse.takeWhile isBlank).reverse, ?_, ?_, ?_⟩
    · rw [htrim, List.append_assoc, ← hrest]
      exact hraw
    · intro c hc
      exact List.mem_takeWhile_imp hc
    · intro c hc
      exact List.mem_takeWhile_imp (List.mem_reverse.1 hc)
  · intro c hc
    rw [htrim] at hc
    apply not_of_head?_dropWhile (l := raw.toList)
    change rest.head? = some c
    rw [hrest, List.head?_append, hc]
    rfl
  · intro c hc
    rw [htrim, trimChars, List.getLast?_reverse] at hc
    exact not_of_head?_dropWhile hc

/-- Trimming takes off the blanks at both ends, and nothing else. -/
theorem trim_eq_iff {raw text : String} : trim raw = text ↔ Trimmed raw text := by
  constructor
  · rintro rfl
    exact trimmed_trim raw
  · intro h
    obtain ⟨before, after, hraw, hbefore, hafter⟩ := h.around
    rw [trim, hraw, trimChars_of_around hbefore hafter h.first h.last, String.ofList_toList]

/-! ## Putting blanks around a text -/

/-- A text without blanks at its ends is what is left when blanks are put around it. -/
theorem Trimmed.padded {before text after : String} (h : Trimmed text text)
    (hbefore : ∀ c ∈ before.toList, isBlank c = true)
    (hafter : ∀ c ∈ after.toList, isBlank c = true) : Trimmed (before ++ text ++ after) text where
  around := ⟨before.toList, after.toList, by rw [String.toList_append, String.toList_append],
    hbefore, hafter⟩
  first := h.first
  last := h.last

/-- Nothing is left to take off what has been trimmed. -/
theorem Trimmed.self {raw text : String} (h : Trimmed raw text) : Trimmed text text where
  around := ⟨[], [], by simp, by simp, by simp⟩
  first := h.first
  last := h.last

theorem trimmed_of_no_blank {text : String} (h : ∀ c ∈ text.toList, isBlank c = false) :
    Trimmed text text where
  around := ⟨[], [], by simp, by simp, by simp⟩
  first := fun c hc => h c (List.mem_of_head? hc)
  last := fun c hc => h c (List.mem_of_getLast? hc)

/-- No digit is blank. -/
theorem not_isBlank_of_isDigit {c : Char} (h : c.isDigit = true) : isBlank c = false := by
  have hrange : 48 ≤ c.toNat ∧ c.toNat ≤ 57 := by
    simpa [Char.isDigit, UInt32.le_iff_toNat_le] using h
  simp only [isBlank, blankRanges, List.any_cons, List.any_nil, Bool.or_false, Bool.or_eq_false_iff,
    Bool.and_eq_false_iff, decide_eq_false_iff_not]
  omega

/-! ## Case -/

/-- The same character, or the capital and the small form of an ASCII letter. -/
def SameLetter (a b : Char) : Prop :=
  a = b ∨ (a.isUpper ∧ b.toNat = a.toNat + 32) ∨ (b.isUpper ∧ a.toNat = b.toNat + 32)

/-- Two texts are the same up to the case of their ASCII letters. -/
def SameLetters (s t : String) : Prop := List.Forall₂ SameLetter s.toList t.toList

theorem toNat_toLower_of_isUpper {c : Char} (h : c.isUpper = true) :
    c.toLower.toNat = c.toNat + 32 := by
  have hval : c.val ≥ 'A'.val ∧ c.val ≤ 'Z'.val := of_decide_eq_true h
  have hrange : c.toNat ≤ 90 := UInt32.le_iff_toNat_le.1 hval.2
  have hlower : c.toLower = _ := dif_pos hval
  rw [hlower]
  change (c.val + 32).toNat = c.val.toNat + 32
  rw [UInt32.toNat_add]
  change (c.toNat + 32) % 2 ^ 32 = c.toNat + 32
  omega

theorem toLower_of_not_isUpper {c : Char} (h : ¬ c.isUpper = true) : c.toLower = c := by
  have hval : ¬ (c.val ≥ 'A'.val ∧ c.val ≤ 'Z'.val) := fun hval => h (decide_eq_true hval)
  exact dif_neg hval

/-- Two characters agree in lower case if they are the same letter. -/
theorem toLower_eq_iff {a b : Char} (hb : ¬ b.isUpper = true) :
    a.toLower = b ↔ SameLetter a b := by
  unfold SameLetter
  -- a capital letter is not equal to the other, since that is none
  by_cases ha : a.isUpper = true
  · have hne : a ≠ b := by
      rintro rfl
      exact hb ha
    rw [← Char.toNat_inj, toNat_toLower_of_isUpper ha]
    simp [ha, hb, hne, eq_comm]
  · simp [toLower_of_not_isUpper ha, ha, hb]

/-- Comparing in small letters is comparing up to case. -/
theorem lowerAscii_eq_iff {s t : String} (ht : ∀ c ∈ t.toList, ¬ c.isUpper = true) :
    lowerAscii s = t ↔ SameLetters s t := by
  have hmap : ∀ as bs : List Char, (∀ b ∈ bs, ¬ b.isUpper = true) →
      (as.map Char.toLower = bs ↔ List.Forall₂ SameLetter as bs) := by
    intro as
    induction as with
    | nil =>
      intro bs _
      rw [List.map_nil, List.forall₂_nil_left_iff, eq_comm]
    | cons a as ih =>
      intro bs hbs
      cases bs with
      | nil =>
        constructor
        · intro h
          cases h
        · intro h
          cases h
      | cons b bs =>
        have hb := toLower_eq_iff (a := a) (hbs b List.mem_cons_self)
        rw [List.map_cons, List.cons.injEq, List.forall₂_cons, hb,
          ih bs fun c hc => hbs c (List.mem_cons_of_mem _ hc)]
  rw [SameLetters, ← hmap _ _ ht, lowerAscii, ← String.toList_inj, String.toList_ofList]

/-- What differs from a small letter in case at most is no blank. -/
theorem SameLetter.not_isBlank {a b : Char} (h : SameLetter a b) (hb : b.isLower = true) :
    isBlank a = false := by
  have hsmall : 97 ≤ b.toNat ∧ b.toNat ≤ 122 := by
    have hval : decide (b.val ≥ 'a'.val) = true ∧ decide (b.val ≤ 'z'.val) = true :=
      Bool.and_eq_true_iff.1 hb
    exact ⟨UInt32.le_iff_toNat_le.1 (of_decide_eq_true hval.1),
      UInt32.le_iff_toNat_le.1 (of_decide_eq_true hval.2)⟩
  have hletter : (97 ≤ a.toNat ∧ a.toNat ≤ 122) ∨ (65 ≤ a.toNat ∧ a.toNat ≤ 90) := by
    rcases h with rfl | ⟨-, h⟩ | ⟨hupper, -⟩
    · exact .inl hsmall
    · omega
    · have hval : b.val ≥ 'A'.val ∧ b.val ≤ 'Z'.val := of_decide_eq_true hupper
      have hcapital : b.toNat ≤ 90 := UInt32.le_iff_toNat_le.1 hval.2
      omega
  simp only [isBlank, blankRanges, List.any_cons, List.any_nil, Bool.or_false, Bool.or_eq_false_iff,
    Bool.and_eq_false_iff, decide_eq_false_iff_not]
  omega

/-- A name in any mixture of upper and lower case has no blanks. -/
theorem SameLetters.no_blank {s t : String} (h : SameLetters s t)
    (ht : ∀ c ∈ t.toList, c.isLower = true) : ∀ c ∈ s.toList, isBlank c = false := by
  unfold SameLetters at h
  generalize s.toList = as at h ⊢
  generalize t.toList = bs at h ht
  induction h with
  | nil => simp
  | cons hletter _ ih =>
    rw [List.forall_mem_cons] at ht ⊢
    exact ⟨hletter.not_isBlank ht.1, ih ht.2⟩

end InstanceOperator.Text
