/-!
# Registries

A finite map, held as a list of entries with distinct keys. The latest entry stands in front. What a
registry holds is seen through `get?`, and each operation is described by what it does to that view.
-/

namespace InstanceOperator

/-- A finite map from keys to values. -/
structure Registry (κ α : Type) where
  entries : List (κ × α)
  distinct : (entries.map (·.1)).Nodup
deriving DecidableEq

namespace Registry

variable {κ α : Type}

def empty : Registry κ α := ⟨[], by simp⟩

def size (r : Registry κ α) : Nat := r.entries.length

def keys (r : Registry κ α) : List κ := r.entries.map (·.1)

/-- Keep the entries that satisfy a condition. -/
def filter (r : Registry κ α) (p : κ → α → Bool) : Registry κ α :=
  ⟨r.entries.filter fun e => p e.1 e.2,
    r.distinct.sublist (List.Sublist.map _ List.filter_sublist)⟩

variable [DecidableEq κ]

def get? (r : Registry κ α) (k : κ) : Option α :=
  (r.entries.find? fun e => e.1 = k).map (·.2)

def contains (r : Registry κ α) (k : κ) : Bool := (r.get? k).isSome

def erase (r : Registry κ α) (k : κ) : Registry κ α :=
  r.filter fun l _ => l ≠ k

theorem not_mem_keys_erase (r : Registry κ α) (k : κ) : k ∉ (r.erase k).keys := by
  simp [erase, filter, keys]

/-- Set the value of a key. -/
def insert (r : Registry κ α) (k : κ) (a : α) : Registry κ α :=
  ⟨(k, a) :: (r.erase k).entries,
    List.nodup_cons.2 ⟨r.not_mem_keys_erase k, (r.erase k).distinct⟩⟩

/-! ## The view -/

@[simp] theorem get?_empty (k : κ) : (empty : Registry κ α).get? k = none := rfl

/-- A lookup finds the entries that are held, since no key comes twice. -/
theorem get?_eq_some_iff {r : Registry κ α} {k : κ} {a : α} :
    r.get? k = some a ↔ (k, a) ∈ r.entries := by
  obtain ⟨es, h⟩ := r
  simp only [get?]
  induction es with
  | nil => simp
  | cons e es ih =>
    obtain ⟨l, b⟩ := e
    have h' := List.nodup_cons.1 h
    by_cases hl : l = k
    · subst hl
      have : ∀ c, (l, c) ∉ es := fun c hc => h'.1 (List.mem_map.2 ⟨(l, c), hc, rfl⟩)
      simp only [List.find?_cons, decide_true, Option.map_some, Option.some.injEq, List.mem_cons,
        Prod.mk.injEq, true_and]
      exact ⟨fun e => .inl e.symm, fun e => e.elim Eq.symm fun hc => absurd hc (this a)⟩
    · simp only [List.find?_cons, hl, decide_false, List.mem_cons, Prod.mk.injEq, Ne.symm hl,
        false_and, false_or]
      exact ih h'.2

theorem get?_eq_none_iff {r : Registry κ α} {k : κ} : r.get? k = none ↔ k ∉ r.keys := by
  constructor
  · intro h hk
    obtain ⟨⟨l, a⟩, ha, rfl⟩ := List.mem_map.1 hk
    rw [get?_eq_some_iff.2 ha] at h
    cases h
  · intro h
    cases hg : r.get? k with
    | none => rfl
    | some a => exact absurd (List.mem_map.2 ⟨(k, a), get?_eq_some_iff.1 hg, rfl⟩) h

/-- Filtering is seen key by key. -/
@[simp] theorem get?_filter (r : Registry κ α) (p : κ → α → Bool) (k : κ) :
    (r.filter p).get? k = (r.get? k).filter (p k) := by
  cases hg : r.get? k with
  | none =>
    have hk := get?_eq_none_iff.1 hg
    refine get?_eq_none_iff.2 fun h => hk ?_
    obtain ⟨e, he, rfl⟩ := List.mem_map.1 h
    exact List.mem_map.2 ⟨e, (List.mem_filter.1 he).1, rfl⟩
  | some a =>
    have ha := get?_eq_some_iff.1 hg
    cases hp : p k a with
    | true =>
      simp only [Option.filter, hp, if_true]
      exact get?_eq_some_iff.2 (List.mem_filter.2 ⟨ha, hp⟩)
    | false =>
      simp only [Option.filter, hp]
      refine get?_eq_none_iff.2 fun h => ?_
      obtain ⟨⟨l, b⟩, hb, rfl⟩ := List.mem_map.1 h
      obtain ⟨hb, hq⟩ := List.mem_filter.1 hb
      rw [get?_eq_some_iff.2 hb] at hg
      cases hg
      exact absurd hq (by simp [hp])

/-- Dropping a key leaves the others. -/
theorem get?_erase (r : Registry κ α) (k l : κ) :
    (r.erase k).get? l = if k = l then none else r.get? l := by
  rw [erase, get?_filter]
  by_cases h : k = l
  · subst h
    cases r.get? k <;> simp [Option.filter]
  · have : l ≠ k := Ne.symm h
    cases r.get? l <;> simp [Option.filter, this, h]

/-- Setting a key leaves the others. -/
theorem get?_insert (r : Registry κ α) (k l : κ) (a : α) :
    (r.insert k a).get? l = if k = l then some a else r.get? l := by
  by_cases h : k = l
  · subst h
    exact (get?_eq_some_iff.2 List.mem_cons_self).trans (if_pos rfl).symm
  · have he := r.get?_erase k l
    rw [if_neg h] at he ⊢
    rw [← he]
    simp [get?, insert, h]

/-- A new key makes the registry larger by one. -/
theorem size_insert (r : Registry κ α) (k : κ) (a : α) (h : r.get? k = none) :
    (r.insert k a).size = r.size + 1 := by
  have hk := get?_eq_none_iff.1 h
  have : (r.erase k).entries = r.entries := by
    refine List.filter_eq_self.2 fun e he => ?_
    have : e.1 ≠ k := fun hek => hk (List.mem_map.2 ⟨e, he, hek⟩)
    simpa using this
  simp [size, insert, this]

end Registry

end InstanceOperator
