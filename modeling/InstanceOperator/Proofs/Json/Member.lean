import InstanceOperator.Json.Member

/-!
# Reading back members of objects

An object is written from members of which some are given. To look for a name among them is to go
through the list (`findAll_given_cons`), which `simp` does for names that are literals. What is
found reads back if the value does so alone (`ReadsBack`): as an optional member (`lastOf_given`),
as a required one (`lastOf_required`), and as the item of a list (`readsBack_list`).

Where the names of an object are distinct, as they are at every depth of an unambiguous value, each
way of looking for a name finds the same (`single?_of_nodup`).
-/

namespace InstanceOperator.Json

variable {α : Type}

/-- What is written for a value reads as that value, and does not count as absent. -/
structure ReadsBack (read : Json → Option α) (write : α → Json) (a : α) : Prop where
  read_write : read (write a) = some a
  ne_null : write a ≠ .null

/-! ## Members -/

/-- The members that are given. -/
def given (members : List (String × Option Json)) : List (String × Json) :=
  members.filterMap fun m => m.2.map (m.1, ·)

theorem ofMembers_eq (members : List (String × Option Json)) :
    ofMembers members = .obj (given members) := rfl

theorem given_cons (name : String) (v : Option Json) (members : List (String × Option Json)) :
    given ((name, v) :: members) = (v.map (name, ·)).toList ++ given members := by
  cases v <;> rfl

theorem findAll_append (name : String) (ms ms' : List (String × Json)) :
    findAll name (ms ++ ms') = findAll name ms ++ findAll name ms' :=
  List.filterMap_append

/-- A name that none of the members has is not found. -/
theorem findAll_given_of_not_mem {name : String} {members : List (String × Option Json)}
    (h : name ∉ members.map (·.1)) : findAll name (given members) = [] := by
  induction members with
  | nil => rfl
  | cons m members ih =>
    obtain ⟨name', v⟩ := m
    rw [List.map_cons, List.mem_cons, not_or] at h
    rw [given_cons, findAll_append, ih h.2]
    cases v with
    | none => rfl
    | some j => simp [findAll, Ne.symm h.1]

@[simp] theorem findAll_given_nil (name : String) : findAll name (given []) = [] := rfl

/-- A member is found if it was given. -/
@[simp] theorem findAll_given_cons (name name' : String) (v : Option Json)
    (members : List (String × Option Json)) :
    findAll name (given ((name', v) :: members)) =
      if name' = name then v.toList ++ findAll name (given members)
      else findAll name (given members) := by
  rw [given_cons, findAll_append]
  by_cases h : name' = name
  · rw [if_pos h]
    cases v <;> simp [findAll, h]
  · rw [if_neg h]
    cases v <;> simp [findAll, h]

section reading

variable {read : Json → Option α} {write : α → Json}

/-- An optional member is read back. -/
theorem lastOf_given {v : Option α} (h : ∀ a, v = some a → ReadsBack read write a) :
    lastOf read (v.map write).toList = some v := by
  cases v with
  | none => rfl
  | some a =>
    obtain ⟨hread, hnull⟩ := h a rfl
    simp [lastOf, hread, hnull]

/-- A required member is read back. -/
theorem lastOf_required {a : α} (h : ReadsBack read write a) :
    lastOf read [write a] = some (some a) :=
  lastOf_given (v := some a) fun _ hb => Option.some.inj hb ▸ h

end reading

/-! ## Values -/

theorem readsBack_str (s : String) : ReadsBack str? .str s :=
  ⟨rfl, by simp⟩

@[simp] theorem lastOf_str (v : Option String) : lastOf str? (ofStr? v).toList = some v :=
  lastOf_given fun s _ => readsBack_str s

@[simp] theorem lastOf_str_required (s : String) : lastOf str? [.str s] = some (some s) :=
  lastOf_required (readsBack_str s)

theorem readsBack_bool (b : Bool) : ReadsBack bool? .bool b :=
  ⟨rfl, by simp⟩

@[simp] theorem lastOf_bool (v : Option Bool) : lastOf bool? (v.map .bool).toList = some v :=
  lastOf_given fun b _ => readsBack_bool b

/-- A signed number of 32 bits fits them. -/
theorem readsBack_int32 (n : Int32) : ReadsBack int32? ofInt32 n := by
  refine ⟨?_, by simp [ofInt32]⟩
  have hlow : -2 ^ 31 ≤ n.toInt := n.le_toInt
  have hhigh : n.toInt < 2 ^ 31 := n.toInt_lt
  have hbound : ((Nat.pow 2 (32 - 1) : Nat) : Int) = 2 ^ 31 := rfl
  have hfits : fits 32 n.toInt = true := by
    simp only [fits, Bool.and_eq_true, decide_eq_true_eq, hbound]
    omega
  rw [ofInt32, int32?, if_pos hfits, Int32.ofInt_toInt]

@[simp] theorem lastOf_int32 (v : Option Int32) : lastOf int32? (v.map ofInt32).toList = some v :=
  lastOf_given fun n _ => readsBack_int32 n

@[simp] theorem lastOf_int32_required (n : Int32) : lastOf int32? [ofInt32 n] = some (some n) :=
  lastOf_required (readsBack_int32 n)

/-- A signed number of 64 bits fits them. -/
theorem readsBack_int64 (n : Int64) : ReadsBack int64? ofInt64 n := by
  refine ⟨?_, by simp [ofInt64]⟩
  have hlow : -2 ^ 63 ≤ n.toInt := n.le_toInt
  have hhigh : n.toInt < 2 ^ 63 := n.toInt_lt
  have hbound : ((Nat.pow 2 (64 - 1) : Nat) : Int) = 2 ^ 63 := rfl
  have hfits : fits 64 n.toInt = true := by
    simp only [fits, Bool.and_eq_true, decide_eq_true_eq, hbound]
    omega
  rw [ofInt64, int64?, if_pos hfits, Int64.ofInt_toInt]

@[simp] theorem lastOf_int64 (v : Option Int64) : lastOf int64? (v.map ofInt64).toList = some v :=
  lastOf_given fun n _ => readsBack_int64 n

/-- A list is read back if its items are. -/
theorem readsBack_list {read : Json → Option α} {write : α → Json} {as : List α}
    (h : ∀ a ∈ as, read (write a) = some a) :
    ReadsBack (list? read) (fun as => .arr (as.map write)) as := by
  refine ⟨?_, by simp⟩
  show (as.map write).mapM read = some as
  induction as with
  | nil => rfl
  | cons a as ih =>
    rw [List.map_cons, List.mapM_cons, h a List.mem_cons_self,
      ih fun b hb => h b (List.mem_cons_of_mem _ hb)]
    rfl

/-! ## Names that occur once -/

/-- An object has no member of a name, or a single one with a given value. -/
def HasOnly (ms : List (String × Json)) (name : String) (v : Option Json) : Prop :=
  findAll name ms = v.toList

theorem single?_eq_some_iff {name : String} {ms : List (String × Json)} {v : Option Json} :
    single? name ms = some v ↔ HasOnly ms name v := by
  unfold single? HasOnly
  cases v <;> split <;> simp_all

/-- No object of the value has two members of one name. -/
inductive Unambiguous : Json → Prop where
  | null : Unambiguous .null
  | bool (b : Bool) : Unambiguous (.bool b)
  | int (n : Int) : Unambiguous (.int n)
  | real (d : Number.Decimal) : Unambiguous (.real d)
  | str (s : String) : Unambiguous (.str s)
  | arr {items : List Json} (hitems : ∀ j ∈ items, Unambiguous j) : Unambiguous (.arr items)
  | obj {members : List (String × Json)} (hnames : (members.map (·.1)).Nodup)
      (hmembers : ∀ m ∈ members, Unambiguous m.2) : Unambiguous (.obj members)

@[simp] theorem findAll_nil (name : String) : findAll name [] = [] := rfl

theorem findAll_cons (name name' : String) (v : Json) (ms : List (String × Json)) :
    findAll name ((name', v) :: ms) =
      if name' = name then v :: findAll name ms else findAll name ms := by
  by_cases h : name' = name <;> simp [findAll, h]

/-- A name that no member bears has no values. -/
theorem findAll_of_not_mem {name : String} {ms : List (String × Json)}
    (h : name ∉ ms.map (·.1)) : findAll name ms = [] := by
  rw [findAll, List.filterMap_eq_nil_iff]
  intro m hm
  have hne : m.1 ≠ name := by
    rintro rfl
    exact h (List.mem_map_of_mem hm)
  rw [if_neg hne]

/-- What is found under a name stands among the members. -/
theorem mem_of_find? {name : String} {ms : List (String × Json)} {v : Json}
    (h : find? name ms = some v) : (name, v) ∈ ms := by
  obtain ⟨⟨name', v'⟩, hm, hv⟩ := List.mem_filterMap.1 (List.mem_of_getLast? h)
  split at hv
  · next heq =>
    cases hv
    cases heq
    exact hm
  · cases hv

/-- Where names are distinct, the last member of a name is the only one. -/
theorem single?_of_nodup {ms : List (String × Json)} (h : (ms.map (·.1)).Nodup) (name : String) :
    single? name ms = some (find? name ms) := by
  have hone : findAll name ms = (find? name ms).toList := by
    induction ms with
    | nil => rfl
    | cons m ms ih =>
      obtain ⟨hnot, hrest⟩ := List.nodup_cons.1 h
      by_cases heq : m.1 = name
      · have hnone : findAll name ms = [] := findAll_of_not_mem (heq ▸ hnot)
        rw [find?, findAll_cons, if_pos heq, hnone]
        rfl
      · rw [find?, findAll_cons, if_neg heq]
        exact ih hrest
  exact single?_eq_some_iff.2 hone

end InstanceOperator.Json
