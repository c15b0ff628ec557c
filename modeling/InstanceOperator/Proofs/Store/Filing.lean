import InstanceOperator.Proofs.Desired.Dependents
import InstanceOperator.Proofs.Store.Replies

/-!
# Where instances are stored

An instance is stored under its own namespace and name, whatever is done to a store
(`MemoryStore.Reachable.filed`). The instance found under a key that has a desired state is thus
the one that the names of its dependents are made from, and the dependents of instances that are
stored under different keys have no key in common (`MemoryStore.Filed.key_inj`).
-/

namespace InstanceOperator

namespace MemoryStore

/-- Every instance is stored under its own namespace and name. -/
def Filed (s : MemoryStore) : Prop :=
  ∀ key i, s.instances.get? key = some i → instanceKey i = key

/-- Filing goes by the instances alone. -/
theorem Filed.of_instances {s t : MemoryStore} (hs : s.Filed) (h : t.instances = s.instances) :
    t.Filed := by
  intro key i hi
  rw [h] at hi
  exact hs key i hi

theorem filed_empty : Filed {} := by
  intro key i hi
  cases hi

/-- An instance is stored under what its metadata say, in place of one filed there. -/
theorem Filed.addInstance {s : MemoryStore} (hs : s.Filed) (i : Instance) :
    (s.addInstance i).Filed := by
  intro key j hj
  rw [MemoryStore.addInstance, Registry.get?_insert] at hj
  by_cases hkey : instanceKey i = key
  · rw [if_pos hkey] at hj
    cases hj
    exact hkey
  · rw [if_neg hkey] at hj
    exact hs key j hj

/-- Deleting leaves the others where they are filed. -/
theorem Filed.deleteInstance {s : MemoryStore} (hs : s.Filed) (key : ObjectKey) :
    (s.deleteInstance key).Filed := by
  unfold MemoryStore.deleteInstance
  split
  · exact hs
  · intro key' j hj
    have herase : (s.instances.erase key).get? key' = some j := hj
    rw [Registry.get?_erase] at herase
    by_cases hkey : key = key'
    · rw [if_pos hkey] at herase
      cases herase
    · rw [if_neg hkey] at herase
      exact hs key' j herase

/-- The stores that come about: from the empty one, by storing and deleting objects, by making calls
fail or succeed, and by serving calls. -/
inductive Reachable : MemoryStore → Prop where
  | empty : Reachable {}
  | addInstance {s : MemoryStore} (h : Reachable s) (i : Instance) : Reachable (s.addInstance i)
  | addDependent {s : MemoryStore} (h : Reachable s) (d : Dependent) :
      Reachable (s.addDependent d)
  | deleteInstance {s : MemoryStore} (h : Reachable s) (key : ObjectKey) :
      Reachable (s.deleteInstance key)
  | failInstance {s : MemoryStore} (h : Reachable s) (key : ObjectKey) (f : Failure) :
      Reachable (s.failInstance key f)
  | failLookup {s : MemoryStore} (h : Reachable s) (kind : Kind) (f : Failure) :
      Reachable (s.failLookup kind f)
  | failCreate {s : MemoryStore} (h : Reachable s) (kind : Kind) (f : Failure) :
      Reachable (s.failCreate kind f)
  | clearFailures {s : MemoryStore} (h : Reachable s) : Reachable s.clearFailures
  | resetCalls {s : MemoryStore} (h : Reachable s) : Reachable s.resetCalls
  | serve {s : MemoryStore} (h : Reachable s) (c : Call) : Reachable (s.serve c).2

/-- In every store that comes about, instances are stored under their own namespace and name. -/
theorem Reachable.filed {s : MemoryStore} (h : s.Reachable) : s.Filed := by
  induction h with
  | empty => exact filed_empty
  | addInstance h i ih => exact ih.addInstance i
  | addDependent h d ih => exact ih.of_instances rfl
  | deleteInstance h key ih => exact ih.deleteInstance key
  | failInstance h key f ih => exact ih.of_instances rfl
  | failLookup h kind f ih => exact ih.of_instances rfl
  | failCreate h kind f ih => exact ih.of_instances rfl
  | clearFailures h ih => exact ih.of_instances rfl
  | resetCalls h ih => exact ih.of_instances rfl
  | serve h c ih => exact ih.of_instances (touched_serve _ c).instances

/-- An instance with an identity is stored under its namespace and name. -/
theorem Filed.key_eq {s : MemoryStore} (hs : s.Filed) {key : ObjectKey} {i : Instance}
    {identity : Identity} (hi : s.instances.get? key = some i)
    (hidentity : Identity.ofInstance i = .ok identity) : key = ⟨identity.ns, identity.name⟩ := by
  obtain ⟨hname, hns, -⟩ := Identity.metadata_of_ofInstance hidentity
  rw [← hs key i hi, instanceKey, hns, Metadata.nameAny, hname]
  rfl

/-- The desired dependents of instances that are stored under different keys have no key in
common. -/
theorem Filed.key_inj {s : MemoryStore} (hs : s.Filed) {key key' : ObjectKey} {i j : Instance}
    {desired desired' : PerKind Dependent} {kind : Kind} (hi : s.instances.get? key = some i)
    (hd : desiredState i = .ok desired) (hj : s.instances.get? key' = some j)
    (hd' : desiredState j = .ok desired')
    (heq : (desired.get kind).key = (desired'.get kind).key) : key = key' := by
  obtain ⟨identity, hidentity, hget⟩ := exists_identity_of_desiredState hd
  obtain ⟨identity', hidentity', hget'⟩ := exists_identity_of_desiredState hd'
  rw [hget, hget', Identity.key_dependent, Identity.key_dependent] at heq
  obtain ⟨hns, hname⟩ := Identity.key_inj heq
  rw [hs.key_eq hi hidentity, hs.key_eq hj hidentity', hns, hname]

end MemoryStore

end InstanceOperator
