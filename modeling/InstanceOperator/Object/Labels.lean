import InstanceOperator.Json.Member

/-!
# Labels

A finite map from texts to texts, sorted by key. Labels, annotations and selectors are such maps;
two of them are equal exactly when they give the same value to every key.
-/

namespace InstanceOperator

/-- A map from texts to texts. -/
structure Labels where
  /-- The entries, in strictly increasing order of their keys. -/
  entries : List (String × String)
  sorted : entries.Pairwise (fun a b => a.1 < b.1)
deriving DecidableEq

namespace Labels

def empty : Labels := ⟨[], .nil⟩

/-- Put an entry into a sorted list, in place of one of the same key. -/
def insertEntry (key value : String) : List (String × String) → List (String × String)
  | [] => [(key, value)]
  | (k, v) :: rest =>
    if key < k then (key, value) :: (k, v) :: rest
    else if key = k then (key, value) :: rest
    else (k, v) :: insertEntry key value rest

theorem mem_insertEntry {key value : String} {e : String × String} :
    ∀ {es : List (String × String)}, e ∈ insertEntry key value es → e = (key, value) ∨ e ∈ es
  | [], h => by simpa [insertEntry] using h
  | (k, v) :: rest, h => by
    simp only [insertEntry] at h
    split at h
    · simpa using h
    · split at h
      · rcases List.mem_cons.1 h with h | h
        · exact .inl h
        · exact .inr (List.mem_cons_of_mem _ h)
      · rcases List.mem_cons.1 h with h | h
        · exact .inr (h ▸ List.mem_cons_self)
        · rcases mem_insertEntry h with h | h
          · exact .inl h
          · exact .inr (List.mem_cons_of_mem _ h)

/-- Putting an entry into a sorted list keeps it sorted. -/
theorem pairwise_insertEntry (key value : String) :
    ∀ {es : List (String × String)}, es.Pairwise (fun a b => a.1 < b.1) →
      (insertEntry key value es).Pairwise (fun a b => a.1 < b.1)
  | [], _ => by simp [insertEntry]
  | (k, v) :: rest, h => by
    obtain ⟨hk, hrest⟩ := List.pairwise_cons.1 h
    simp only [insertEntry]
    split
    · next hlt =>
      refine List.pairwise_cons.2 ⟨fun e he => ?_, h⟩
      rcases List.mem_cons.1 he with rfl | he
      · exact hlt
      · exact String.lt_trans hlt (hk e he)
    · next hlt =>
      split
      · next heq => exact heq ▸ List.pairwise_cons.2 ⟨hk, hrest⟩
      · next hne =>
        refine List.pairwise_cons.2 ⟨fun e he => ?_, pairwise_insertEntry key value hrest⟩
        rcases mem_insertEntry he with rfl | he
        · exact Std.lt_of_le_of_ne (String.not_lt.1 hlt) (Ne.symm hne)
        · exact hk e he

/-- Put an entry into the map, in place of one of the same key. -/
def insert (l : Labels) (key value : String) : Labels :=
  ⟨insertEntry key value l.entries, pairwise_insertEntry key value l.sorted⟩

/-- The map of a list of entries, the last of a key winning. -/
def ofList (es : List (String × String)) : Labels :=
  es.foldl (fun l e => l.insert e.1 e.2) empty

def get? (l : Labels) (key : String) : Option String :=
  l.entries.lookup key

/-! ## JSON -/

/-- The map of an object whose members are all texts. -/
def ofJson? : Json → Option Labels
  | .obj members =>
    (members.mapM fun m => (Json.str? m.2).map (m.1, ·)).map ofList
  | _ => none

/-- The object of a map. -/
def toJson (l : Labels) : Json :=
  .obj (l.entries.map fun e => (e.1, .str e.2))

end Labels

end InstanceOperator
