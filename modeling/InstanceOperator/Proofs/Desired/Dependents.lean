import InstanceOperator.Desired.State

/-!
# The dependents that an instance implies

What the desired state of an instance says about kinds and keys: the desired dependent of a kind is
of that kind, is named after the instance, and lies in the instance's namespace. Instances that
differ in name or namespace have no key of a kind in common (`Identity.key_inj`).

The dependents are made from an identity and an owner. With the reference that the client answers
the owner is a function of the identity too (`Base.eq_base_of_ofInstance`), so that what is desired
goes by the identity alone (`desiredState_eq`).
-/

namespace InstanceOperator

/-- Every kind has its place in the order of convergence. -/
theorem Kind.mem_ordered (kind : Kind) : kind ∈ ordered := by
  cases kind <;> decide

/-- No kind comes twice in the order of convergence. -/
theorem Kind.nodup_ordered : ordered.Nodup := by
  decide

theorem Identity.nonempty_eq_some_iff {s : Option String} {t : String} :
    nonempty s = some t ↔ s = some t ∧ t ≠ "" := by
  simp [nonempty, Option.filter_eq_some_iff]

/-! ## The base of the dependents -/

/-- Of which instances there is a base, and which. -/
theorem Base.ofInstance_eq_ok_iff {reference? : Metadata → Option OwnerReference} {i : Instance}
    {b : Base} :
    ofInstance reference? i = .ok b ↔
      Identity.nonempty i.metadata.name = some b.name ∧
      Identity.nonempty i.metadata.ns = some b.ns ∧
      Identity.nonempty i.metadata.uid = some b.uid ∧
      (∃ owner, reference? i.metadata = some owner ∧
        b.owner = { owner with blockOwnerDeletion := some true }) ∧
      Identity.rejectedKind? b.name = none := by
  constructor
  · intro h
    unfold ofInstance at h
    split at h
    · cases h
    · next name hname =>
      split at h
      · cases h
      · next ns hns =>
        split at h
        · cases h
        · next uid huid =>
          split at h
          · cases h
          · next owner howner =>
            split at h
            · cases h
            · next hnone =>
              cases h
              exact ⟨hname, hns, huid, ⟨owner, howner, rfl⟩, hnone⟩
  · rintro ⟨hname, hns, huid, ⟨owner, howner, hb⟩, hnone⟩
    obtain ⟨⟨name, ns, uid⟩, o⟩ := b
    cases hb
    simp [ofInstance, hname, hns, huid, howner, hnone]

namespace Identity

/-- The reference by which the dependents name the instance as their managing owner. -/
def owner (i : Identity) : OwnerReference where
  apiVersion := instanceApiVersion
  kind := instanceKind
  name := i.name
  uid := i.uid
  controller := some true
  blockOwnerDeletion := some true

/-- What all dependents of an instance with this identity are made from. -/
def base (i : Identity) : Base where
  toIdentity := i
  owner := i.owner

/-- The identity of an instance of which there are dependents. -/
def ofInstance (i : Instance) : Except Malformed Identity :=
  (Base.ofInstance managingReference? i).map Base.toIdentity

def metadata (i : Identity) (kind : Kind) : Metadata := i.base.metadata kind

def deployment (i : Identity) : Deployment := i.base.deployment

def service (i : Identity) : Service := i.base.service

def ingress (i : Identity) : Ingress := i.base.ingress

def dependent (i : Identity) (kind : Kind) : Dependent := i.base.dependent kind

/-- The desired dependents of an instance with this identity. -/
def dependents (i : Identity) : PerKind Dependent := i.base.dependents

@[simp] theorem kind_dependent (i : Identity) (kind : Kind) : (i.dependent kind).kind = kind :=
  i.base.kind_dependent kind

@[simp] theorem key_dependent (i : Identity) (kind : Kind) :
    (i.dependent kind).key = i.key kind :=
  i.base.key_dependent kind

theorem get_dependents (i : Identity) (kind : Kind) : i.dependents.get kind = i.dependent kind := by
  cases kind <;> rfl

end Identity

/-- The client's reference to an instance makes the base that of its identity. -/
theorem Base.eq_base_of_ofInstance {i : Instance} {b : Base}
    (h : ofInstance managingReference? i = .ok b) : b = b.toIdentity.base := by
  obtain ⟨hname, -, huid, ⟨owner, howner, hb⟩, -⟩ := ofInstance_eq_ok_iff.1 h
  have hname' := (Identity.nonempty_eq_some_iff.1 hname).1
  have huid' := (Identity.nonempty_eq_some_iff.1 huid).1
  obtain ⟨identity, o⟩ := b
  simp only [managingReference?, hname', huid', Option.some.injEq] at howner
  cases howner
  cases hb
  rfl

/-- What is desired are the dependents of the identity. -/
theorem desiredState_eq (i : Instance) :
    desiredState i = (Identity.ofInstance i).map Identity.dependents := by
  unfold desiredState derivedState Identity.ofInstance
  cases h : Base.ofInstance managingReference? i with
  | error cause => rfl
  | ok b => exact congrArg (fun b => Except.ok (Base.dependents b)) (Base.eq_base_of_ofInstance h)

/-- An instance is named by its identity. -/
theorem Identity.metadata_of_ofInstance {i : Instance} {identity : Identity}
    (h : ofInstance i = .ok identity) :
    i.metadata.name = some identity.name ∧ i.metadata.ns = some identity.ns ∧
      i.metadata.uid = some identity.uid := by
  unfold ofInstance at h
  cases hb : Base.ofInstance managingReference? i with
  | error cause =>
    rw [hb] at h
    cases h
  | ok b =>
    rw [hb] at h
    cases h
    obtain ⟨hname, hns, huid, -, -⟩ := Base.ofInstance_eq_ok_iff.1 hb
    exact ⟨(nonempty_eq_some_iff.1 hname).1, (nonempty_eq_some_iff.1 hns).1,
      (nonempty_eq_some_iff.1 huid).1⟩

/-- What is desired are the dependents of an identity, kind by kind. -/
theorem exists_identity_of_desiredState {i : Instance} {desired : PerKind Dependent}
    (h : desiredState i = .ok desired) :
    ∃ identity, Identity.ofInstance i = .ok identity ∧
      ∀ kind, desired.get kind = identity.dependent kind := by
  rw [desiredState_eq] at h
  cases hi : Identity.ofInstance i with
  | error cause =>
    rw [hi] at h
    cases h
  | ok identity =>
    rw [hi] at h
    cases h
    exact ⟨identity, rfl, identity.get_dependents⟩

/-- Name, namespace and unique identifier decide what is desired. -/
theorem desiredState_congr {i j : Instance} (hname : j.metadata.name = i.metadata.name)
    (hns : j.metadata.ns = i.metadata.ns) (huid : j.metadata.uid = i.metadata.uid) :
    desiredState j = desiredState i := by
  simp only [desiredState, derivedState, Base.ofInstance, managingReference?, hname, hns, huid]

/-- The desired dependent of a kind is of that kind. -/
theorem kind_get_of_desiredState {i : Instance} {desired : PerKind Dependent}
    (h : desiredState i = .ok desired) (kind : Kind) : (desired.get kind).kind = kind := by
  obtain ⟨identity, -, hget⟩ := exists_identity_of_desiredState h
  rw [hget, Identity.kind_dependent]

/-- Instances of different names have dependents of different names. -/
theorem dependentName_inj {name name' : String} {kind : Kind}
    (h : dependentName name kind = dependentName name' kind) : name = name' :=
  String.append_left_inj _ |>.1 h

/-- Instances that differ in name or namespace have no key of a kind in common. -/
theorem Identity.key_inj {i j : Identity} {kind : Kind} (h : i.key kind = j.key kind) :
    i.ns = j.ns ∧ i.name = j.name := by
  have hns := congrArg ObjectKey.ns h
  have hname := congrArg ObjectKey.name h
  exact ⟨hns, dependentName_inj hname⟩

/-- An instance with this identity that says nothing else. -/
def Identity.bare (i : Identity) : Instance where
  metadata := { name := some i.name, ns := some i.ns, uid := some i.uid }

/-- An instance that is named well and says nothing else has its desired dependents. -/
theorem Identity.desiredState_bare {i : Identity} (hname : i.name ≠ "") (hns : i.ns ≠ "")
    (huid : i.uid ≠ "") (haccepted : rejectedKind? i.name = none) :
    desiredState i.bare = .ok i.dependents := by
  have hbase : Base.ofInstance managingReference? i.bare = .ok i.base :=
    Base.ofInstance_eq_ok_iff.2 ⟨nonempty_eq_some_iff.2 ⟨rfl, hname⟩,
      nonempty_eq_some_iff.2 ⟨rfl, hns⟩, nonempty_eq_some_iff.2 ⟨rfl, huid⟩, ⟨_, rfl, rfl⟩,
      haccepted⟩
  rw [desiredState, derivedState, hbase]
  rfl

end InstanceOperator
