import InstanceOperator.Http.Target
import Mathlib.Data.List.TakeWhile

/-!
# Reading request targets

A path made of characters that a path may hold is read as it stands, alone (`Target.read?_path`) or
with a query behind it (`Target.read?_query`). Lower-case letters, digits, hyphens, dots and slashes
are such characters.
-/

namespace InstanceOperator.Http

/-! ## Characters -/

/-- A character in the ranges is none that is outside of them. -/
theorem ne_of_inRanges {ranges : List (Nat × Nat)} {c d : Char} (hc : inRanges ranges c = true)
    (hd : inRanges ranges d = false) : c ≠ d := by
  intro heq
  rw [heq, hd] at hc
  cases hc

/-- A character of a path neither begins a query nor ends the target. -/
theorem ne_marks_of_pathRanges {c : Char} (hc : inRanges pathRanges c = true) :
    c ≠ '?' ∧ c ≠ '#' := by
  have hquery : c ≠ '?' := ne_of_inRanges hc (by decide)
  have hend : c ≠ '#' := ne_of_inRanges hc (by decide)
  exact ⟨hquery, hend⟩

theorem inRanges_of_le {ranges : List (Nat × Nat)} {c : Char} {r : Nat × Nat} (hr : r ∈ ranges)
    (hlow : r.1 ≤ c.toNat) (hhigh : c.toNat ≤ r.2) : inRanges ranges c = true := by
  unfold inRanges
  rw [List.any_eq_true]
  refine ⟨r, hr, ?_⟩
  simp [hlow, hhigh]

/-! ## Paths and queries -/

namespace Target

/-- A path is read as it stands. -/
theorem readPath?_of_clean {cs : List Char} (hcs : ∀ c ∈ cs, inRanges pathRanges c = true) :
    readPath? cs = some ⟨String.ofList cs, none⟩ := by
  have hend : cs.takeWhile (· ≠ '#') = cs := by
    rw [List.takeWhile_eq_self_iff]
    intro c hc
    simpa using (ne_marks_of_pathRanges (hcs c hc)).2
  have hpath : cs.takeWhile (· ≠ '?') = cs := by
    rw [List.takeWhile_eq_self_iff]
    intro c hc
    simpa using (ne_marks_of_pathRanges (hcs c hc)).1
  have hrest : cs.dropWhile (· ≠ '?') = [] := by
    rw [List.dropWhile_eq_nil_iff]
    intro c hc
    simpa using (ne_marks_of_pathRanges (hcs c hc)).1
  have hall : cs.all (inRanges pathRanges) = true := List.all_eq_true.2 hcs
  unfold readPath?
  simp only [hend, hpath, hrest, hall]
  rfl

/-- A path with a query behind it is read as it stands. -/
theorem readPath?_of_query {cs query : List Char} (hcs : ∀ c ∈ cs, inRanges pathRanges c = true)
    (hquery : ∀ c ∈ query, inRanges queryRanges c = true) :
    readPath? (cs ++ '?' :: query) = some ⟨String.ofList cs, some (String.ofList query)⟩ := by
  have hend : (cs ++ '?' :: query).takeWhile (· ≠ '#') = cs ++ '?' :: query := by
    rw [List.takeWhile_eq_self_iff]
    intro c hc
    rcases List.mem_append.1 hc with hc | hc
    · simpa using (ne_marks_of_pathRanges (hcs c hc)).2
    · rcases List.mem_cons.1 hc with hc | hc
      · rw [hc]
        decide
      · have hne : c ≠ '#' := ne_of_inRanges (hquery c hc) (by decide)
        simpa using hne
  -- no character of a path is a mark, so the first mark is the one in front of the query
  have hmark : ∀ c ∈ cs, decide (c ≠ '?') = true := by
    intro c hc
    simpa using (ne_marks_of_pathRanges (hcs c hc)).1
  have hpath : (cs ++ '?' :: query).takeWhile (· ≠ '?') = cs := by
    rw [List.takeWhile_append_of_pos hmark, List.takeWhile_cons_of_neg (by simp), List.append_nil]
  have hrest : (cs ++ '?' :: query).dropWhile (· ≠ '?') = '?' :: query := by
    rw [List.dropWhile_append_of_pos hmark, List.dropWhile_cons_of_neg (by simp)]
  have hall : cs.all (inRanges pathRanges) = true := List.all_eq_true.2 hcs
  have hall' : query.all (inRanges queryRanges) = true := List.all_eq_true.2 hquery
  unfold readPath?
  simp only [hend, hpath, hrest, hall, hall']
  rfl

/-- A text that begins with a slash and is not too long is read as a path. -/
theorem read?_of_slash {s : String} (hs : s.toList.head? = some '/')
    (hsize : s.utf8ByteSize ≤ targetLimit) : read? s = readPath? s.toList := by
  rcases List.head?_eq_some_iff.1 hs with ⟨cs, hcs⟩
  unfold read?
  rw [if_neg (by omega), hcs]
  rfl

/-- A path is the whole target. -/
theorem read?_path {s : String} (hs : s.toList.head? = some '/')
    (hsize : s.utf8ByteSize ≤ targetLimit) (hclean : ∀ c ∈ s.toList, inRanges pathRanges c = true) :
    read? s = some ⟨s, none⟩ := by
  rw [read?_of_slash hs hsize, readPath?_of_clean hclean, String.ofList_toList]

/-- A path and a query make up the target. -/
theorem read?_query {s query : String} (hs : s.toList.head? = some '/')
    (hsize : (s ++ "?" ++ query).utf8ByteSize ≤ targetLimit)
    (hclean : ∀ c ∈ s.toList, inRanges pathRanges c = true)
    (hquery : ∀ c ∈ query.toList, inRanges queryRanges c = true) :
    read? (s ++ "?" ++ query) = some ⟨s, some query⟩ := by
  have hlist : (s ++ "?" ++ query).toList = s.toList ++ '?' :: query.toList := by simp
  have hslash : (s ++ "?" ++ query).toList.head? = some '/' := by
    rw [hlist, List.head?_append, hs, Option.some_or]
  rw [read?_of_slash hslash hsize, hlist, readPath?_of_query hclean hquery, String.ofList_toList,
    String.ofList_toList]

end Target

end InstanceOperator.Http
