import InstanceOperator.Proofs.Object.ReadBack

/-!
# The forms of an instance

An instance can be given in many forms: as an object with members in any order, among others that do
not count, or by position in an array; with or without `foo`; with a status that is missing, `null`,
or an object or array of its own. What is written for an instance is one form for all of these, from
which the same instance is read again. The metadata are not looked into: an instance survives writing
as far as its metadata do.

* `InstanceSpec.Form`, `InstanceStatus.Form`, `Instance.Form`: the forms, without the readers of
  instances.
* `Instance.ofJson?_eq_some_iff`: these forms are what is read.
* `instances_survive_writing`: the result.
-/

namespace InstanceOperator

/-! ## Specifications -/

namespace InstanceSpec

/-- The forms of a specification. Its one field may be left out, as a member or in its place. -/
inductive Form : Json → InstanceSpec → Prop where
  | noMember {ms : List (String × Json)} (h : Json.HasOnly ms "foo" none) : Form (.obj ms) {}
  | member {ms : List (String × Json)} {s : String} (h : Json.HasOnly ms "foo" (some (.str s))) :
      Form (.obj ms) { foo := s }
  | noItem : Form (.arr []) {}
  | item (s : String) : Form (.arr [.str s]) { foo := s }

/-- A specification is read from its forms and from nothing else. -/
theorem ofJson?_eq_some_iff {j : Json} {spec : InstanceSpec} :
    ofJson? j = some spec ↔ Form j spec := by
  constructor
  · intro h
    unfold ofJson? at h
    split at h
    · split at h
      · next hnone =>
        cases h
        exact .noMember (Json.single?_eq_some_iff.1 hnone)
      · next hstr =>
        cases h
        exact .member (Json.single?_eq_some_iff.1 hstr)
      · cases h
    · cases h
      exact .noItem
    · cases h
      exact .item _
    · cases h
  · intro h
    cases h with
    | noMember h => rw [ofJson?, Json.single?_eq_some_iff.2 h]
    | member h => rw [ofJson?, Json.single?_eq_some_iff.2 h]
    | noItem => rfl
    | item s => rfl

end InstanceSpec

/-! ## States -/

/-- The forms of a status. Nothing in it counts. -/
inductive InstanceStatus.Form : Json → InstanceStatus → Prop where
  | members (ms : List (String × Json)) : Form (.obj ms) {}
  | noItem : Form (.arr []) {}

theorem InstanceStatus.ofJson?_eq_some_iff {j : Json} {status : InstanceStatus} :
    ofJson? j = some status ↔ Form j status := by
  constructor
  · intro h
    unfold ofJson? at h
    split at h
    · exact .members _
    · exact .noItem
    · cases h
  · intro h
    cases h <;> rfl

namespace Instance

/-- The forms of a status that need not be there. `null` stands for none, not for an empty one. -/
inductive StatusForm : Option Json → Option InstanceStatus → Prop where
  | absent : StatusForm none none
  | null : StatusForm (some .null) none
  | given {j : Json} {status : InstanceStatus} (h : InstanceStatus.Form j status) :
      StatusForm (some j) (some status)

/-- A status is read from its forms, also where it is left out. -/
theorem status?_eq_some_iff {t : Option Json} {status : Option InstanceStatus} :
    status? (t.getD .null) = some status ↔ StatusForm t status := by
  constructor
  · intro h
    cases t with
    | none =>
      cases h
      exact .absent
    | some j =>
      rw [Option.getD_some] at h
      unfold status? at h
      split at h
      · cases h
        exact .null
      · rcases Option.map_eq_some_iff.1 h with ⟨s, hs, rfl⟩
        exact .given (InstanceStatus.ofJson?_eq_some_iff.1 hs)
  · intro h
    cases h with
    | absent => rfl
    | null => rfl
    | given h => cases h <;> rfl

/-! ## Instances -/

/-- The forms of an instance. As an object it has its metadata and its specification once, and its
status at most once. In an array each of the three has its place. -/
inductive Form : Json → Instance → Prop where
  | members {ms : List (String × Json)} {m s : Json} {t : Option Json} {i : Instance}
      (hm : Json.HasOnly ms "metadata" (some m)) (hs : Json.HasOnly ms "spec" (some s))
      (ht : Json.HasOnly ms "status" t) (hmetadata : Metadata.ofJson? m = some i.metadata)
      (hspec : InstanceSpec.Form s i.spec) (hstatus : StatusForm t i.status) : Form (.obj ms) i
  | items {m s t : Json} {i : Instance} (hmetadata : Metadata.ofJson? m = some i.metadata)
      (hspec : InstanceSpec.Form s i.spec) (hstatus : StatusForm (some t) i.status) :
      Form (.arr [m, s, t]) i

/-- An instance is read from its forms, by member or by position, and from nothing else. -/
theorem ofJson?_eq_some_iff {j : Json} {i : Instance} : ofJson? j = some i ↔ Form j i := by
  constructor
  · intro h
    unfold ofJson? at h
    split at h
    · -- an object, read by the names of its members
      next ms =>
      simp only [Option.bind_eq_bind, Option.bind_eq_some_iff, Option.map_eq_some_iff,
        Json.single?_eq_some_iff] at h
      obtain ⟨_, hm, _, ⟨m, rfl, rfl⟩, metadata, hmetadata, _, hs, _, ⟨s, rfl, rfl⟩, spec, hspec,
        t, ht, status, hstatus, hi⟩ := h
      cases hi
      exact .members hm hs ht hmetadata (InstanceSpec.ofJson?_eq_some_iff.1 hspec)
        (status?_eq_some_iff.1 hstatus)
    · -- an array, read by position
      next m s t =>
      simp only [Option.bind_eq_bind, Option.bind_eq_some_iff] at h
      obtain ⟨metadata, hmetadata, spec, hspec, status, hstatus, hi⟩ := h
      cases hi
      exact .items hmetadata (InstanceSpec.ofJson?_eq_some_iff.1 hspec)
        (status?_eq_some_iff.1 hstatus)
    · cases h
  · intro h
    cases h with
    | members hm hs ht hmetadata hspec hstatus =>
      rw [← Json.single?_eq_some_iff] at hm hs ht
      rw [← InstanceSpec.ofJson?_eq_some_iff] at hspec
      rw [← status?_eq_some_iff] at hstatus
      simp [ofJson?, hm, hs, ht, hmetadata, hspec, hstatus]
    | items hmetadata hspec hstatus =>
      rw [← InstanceSpec.ofJson?_eq_some_iff] at hspec
      rw [← status?_eq_some_iff, Option.getD_some] at hstatus
      simp [ofJson?, hmetadata, hspec, hstatus]

end Instance

/-! ## The result -/

/-- Metadata are read back as they are written. -/
def Metadata.Survives (m : Metadata) : Prop := ofJson? m.toJson = some m

theorem Instance.ofJson?_toJson_of_survives {i : Instance} (h : i.metadata.Survives) :
    ofJson? i.toJson = some i := by
  rw [ofJson?_toJson, h]
  rfl

/-- **Instances survive writing if their metadata do.** What is read as an instance is what has a
form of one. Whatever the form was, what is written for the instance reads as the same instance,
and is written again in the same way. Every instance is read back from what is written for it, the
empty `foo`, no status and the empty status included. In general, what is written reads as the
instance with its metadata written and read. -/
theorem instances_survive_writing :
    (∀ j i, Instance.ofJson? j = some i ↔ Instance.Form j i) ∧
    (∀ j i, Instance.ofJson? j = some i → i.metadata.Survives →
      ∃ i', Instance.ofJson? i.toJson = some i' ∧ i' = i ∧ i'.toJson = i.toJson) ∧
    (∀ i : Instance, i.metadata.Survives → Instance.ofJson? i.toJson = some i) ∧
    ∀ i : Instance, Instance.ofJson? i.toJson =
      (Metadata.ofJson? i.metadata.toJson).map fun m => { i with metadata := m } := by
  refine ⟨?_, ?_, ?_, ?_⟩
  · intro j i
    exact Instance.ofJson?_eq_some_iff
  · intro j i _ hmetadata
    exact ⟨i, Instance.ofJson?_toJson_of_survives hmetadata, rfl, rfl⟩
  · intro i hmetadata
    exact Instance.ofJson?_toJson_of_survives hmetadata
  · intro i
    exact i.ofJson?_toJson

/-- An instance by position, with labels out of order, a member that does not count, and a point in
time that is given with an offset. -/
def placedDocument : Json :=
  .arr
    [.obj
      [("name", .str "mine"), ("namespace", .str "prod"), ("colour", .str "red"),
       ("labels", .obj [("tier", .str "web"), ("app", .str "site")]),
       ("creationTimestamp", .str "2024-02-29T23:30:00+02:00")],
     .arr [], .arr []]

/-- The instance that it stands for. -/
def placedInstance : Instance where
  metadata :=
    { name := some "mine"
      ns := some "prod"
      labels := some (Labels.ofList [("app", "site"), ("tier", "web")])
      creationTimestamp := some ⟨1709242200, 0⟩ }
  status := some {}

theorem placed_instance_survives :
    Instance.ofJson? placedDocument = some placedInstance ∧ placedInstance.metadata.Survives ∧
    ∃ i', Instance.ofJson? placedInstance.toJson = some i' ∧ i' = placedInstance ∧
      i'.toJson = placedInstance.toJson := by
  have hread : Instance.ofJson? placedDocument = some placedInstance := by
    decide +kernel
  have hsettled : placedInstance.metadata.Settled := by
    constructor
    · intro t ht
      cases ht
      rfl
    · intro t ht
      cases ht
    · intro fs hfs
      cases hfs
  have hmetadata : placedInstance.metadata.Survives := (Metadata.readsBack hsettled).read_write
  exact ⟨hread, hmetadata, instances_survive_writing.2.1 _ _ hread hmetadata⟩

end InstanceOperator
