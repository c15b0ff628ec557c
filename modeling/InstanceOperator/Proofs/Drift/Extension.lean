import InstanceOperator.Proofs.Desired.Contents

/-!
# Dependents to which something was added

A live dependent *extends* one that was built if it keeps the labels, the owners and what is
particular to the kind, and has anything else besides: other labels, owners, metadata and status;
containers of other names before and behind the container, and further ports of it; further ports
of a service; further rules and paths of an ingress; and any other field of the specification.

* `Dependent.Extends`: the relation.
* `Identity.no_difference_of_extends`: no difference is found in what extends a desired dependent.
-/

namespace InstanceOperator

/-! ## Extending -/

/-- The metadata keeps the labels and the owners. -/
structure Metadata.Extends (live built : Metadata) : Prop where
  labels : ∀ key value, built.HasLabel key value → live.HasLabel key value
  owners : ∀ owner, built.HasOwner owner → live.HasOwner owner

/-- A container keeps its name, its image and its ports. -/
structure Container.Extends (live built : Container) : Prop where
  name : live.name = built.name
  image : live.image = built.image
  ports : ∀ p ∈ built.ports.getD [], ∃ kept ∈ live.ports.getD [],
    kept.containerPort = p.containerPort ∧ kept.name = p.name

/-- A deployment keeps its selector, and every container as the only one of its name. -/
structure Deployment.Extends (live built : Deployment) : Prop where
  selector : ∀ labels, built.Selects labels → live.Selects labels
  containers : ∀ c, built.Runs c → ∃ before kept after, live.Lists (before ++ kept :: after) ∧
    kept.Extends c ∧ ∀ other ∈ before ++ after, other.name ≠ c.name

/-- A service keeps its selector and its ports. -/
structure Service.Extends (live built : Service) : Prop where
  selector : ∀ labels, built.Selects labels → live.Selects labels
  ports : ∀ p, built.Offers p → ∃ kept, live.Offers kept ∧ kept.name = p.name ∧
    kept.port = p.port ∧ kept.protocol = p.protocol ∧ kept.targetPort = p.targetPort

/-- An ingress keeps its paths, in whatever rule. -/
def Ingress.Extends (live built : Ingress) : Prop :=
  ∀ r p, built.Has r p → ∃ r' kept, live.Has r' kept ∧ kept.path = p.path ∧
    kept.pathType = p.pathType ∧ kept.backend.service = p.backend.service

/-- A live dependent has all that was built, and perhaps more. -/
inductive Dependent.Extends : Dependent → Dependent → Prop where
  | deployment {live built : Deployment} (metadata : live.metadata.Extends built.metadata)
      (spec : live.Extends built) : Extends (.deployment live) (.deployment built)
  | service {live built : Service} (metadata : live.metadata.Extends built.metadata)
      (spec : live.Extends built) : Extends (.service live) (.service built)
  | ingress {live built : Ingress} (metadata : live.metadata.Extends built.metadata)
      (spec : live.Extends built) : Extends (.ingress live) (.ingress built)

/-! ## Desired dependents extend themselves -/

theorem Metadata.Extends.refl (m : Metadata) : m.Extends m :=
  ⟨fun _ _ h => h, fun _ h => h⟩

theorem Container.Extends.refl (c : Container) : c.Extends c :=
  ⟨rfl, rfl, fun p hp => ⟨p, hp, rfl, rfl⟩⟩

namespace Identity

variable {i : Identity}

/-- The built deployment has one container, so no other bears its name. -/
theorem extends_deployment (i : Identity) : i.deployment.Extends i.deployment where
  selector := fun _ h => h
  containers := by
    intro c hc
    obtain rfl := deployment_runs_iff.1 hc
    exact ⟨[], container, [], deployment_lists_iff.2 rfl, .refl _, by simp⟩

theorem extends_service (i : Identity) : i.service.Extends i.service where
  selector := fun _ h => h
  ports := fun p hp => ⟨p, hp, rfl, rfl, rfl, rfl⟩

theorem extends_ingress (i : Identity) : i.ingress.Extends i.ingress :=
  fun r p h => ⟨r, p, h, rfl, rfl, rfl⟩

/-- A desired dependent is an extension of itself, by nothing. -/
theorem extends_dependent (i : Identity) (kind : Kind) :
    (i.dependent kind).Extends (i.dependent kind) := by
  cases kind with
  | deployment => exact .deployment (.refl _) i.extends_deployment
  | service => exact .service (.refl _) i.extends_service
  | ingress => exact .ingress (.refl _) i.extends_ingress

end Identity

/-! ## Extensions cover what they extend -/

/-- Metadata that keep what was built cover it. -/
theorem Metadata.Extends.covers {live built : Metadata} (h : live.Extends built) :
    live.Covers built where
  labels := h.labels
  owners := fun owner howner => ⟨owner, h.owners owner howner, rfl⟩

theorem Container.Extends.exposes {live built : Container} (h : live.Extends built) {port : Int32}
    (hport : built.Exposes port) : live.Exposes port := by
  obtain ⟨p, hp, rfl⟩ := List.mem_map.1 (mem_portNumbers_iff.2 hport)
  obtain ⟨kept, hkept, hnumber, -⟩ := h.ports p hp
  exact mem_portNumbers_iff.1 (List.mem_map.2 ⟨kept, hkept, hnumber⟩)

/-- A deployment has one selector at most. -/
theorem Deployment.Selects.unique {d : Deployment} {labels labels' : Labels}
    (h : d.Selects labels) (h' : d.Selects labels') : labels = labels' := by
  rw [← selector_eq_some_iff] at h h'
  exact Option.some.inj (h.symm.trans h')

/-- A service has one selector at most. -/
theorem Service.Selects.unique {s : Service} {labels labels' : Labels}
    (h : s.Selects labels) (h' : s.Selects labels') : labels = labels' := by
  rw [← selector_eq_some_iff] at h h'
  exact Option.some.inj (h.symm.trans h')

namespace Identity

variable {i : Identity}

/-- A container that is the only one of its name is the first one that the comparison finds. -/
theorem covers_of_extends_deployment {live : Deployment} (h : live.Extends i.deployment) :
    live.Covers i.deployment where
  selector := by
    intro labels
    constructor
    · exact h.selector labels
    · intro hlive
      exact deployment_selects_iff.2
        (hlive.unique (h.selector _ (deployment_selects_iff.2 rfl)))
  containers := by
    intro c hc
    obtain ⟨before, kept, after, hlists, hkept, hothers⟩ := h.containers c hc
    refine ⟨kept, ⟨before, after, hlists, ?_⟩, hkept.name, hkept.image, fun _ => hkept.exposes⟩
    intro b hb
    rw [hkept.name]
    exact hothers b (List.mem_append_left _ hb)

/-- Further ports of a service are not compared with anything. -/
theorem covers_of_extends_service {live : Service} (h : live.Extends i.service) :
    live.Covers i.service where
  selector := by
    intro labels
    constructor
    · exact h.selector labels
    · intro hlive
      exact service_selects_iff.2 (hlive.unique (h.selector _ (service_selects_iff.2 rfl)))
  ports := by
    intro p hp
    obtain ⟨kept, hoffers, -, hport, -, htarget⟩ := h.ports p hp
    exact ⟨kept, hoffers, hport, htarget⟩

/-- A path may move to another rule without being missed. -/
theorem covers_of_extends_ingress {live : Ingress} (h : live.Extends i.ingress) :
    live.Covers i.ingress := by
  rintro path service port ⟨r, p, backend, hhas, hbackend, hpath, hname, hport⟩
  obtain ⟨r', kept, hkept, hpath', -, hbackend'⟩ := h r p hhas
  exact ⟨r', kept, backend, hkept, by rw [hbackend', hbackend], by rw [hpath', hpath], hname,
    hport⟩

/-- No difference is found in what extends a desired dependent. -/
theorem no_difference_of_extends {kind : Kind} {live : Dependent}
    (h : live.Extends (i.dependent kind)) : detectDrift (i.dependent kind) live = [] := by
  cases kind with
  | deployment =>
    cases h with
    | deployment hmetadata hspec =>
      exact detectDrift_deployment_eq_nil_iff.2
        ⟨hmetadata.covers, covers_of_extends_deployment hspec⟩
  | service =>
    cases h with
    | service hmetadata hspec =>
      exact detectDrift_service_eq_nil_iff.2 ⟨hmetadata.covers, covers_of_extends_service hspec⟩
  | ingress =>
    cases h with
    | ingress hmetadata hspec =>
      exact detectDrift_ingress_eq_nil_iff.2 ⟨hmetadata.covers, covers_of_extends_ingress hspec⟩

end Identity

end InstanceOperator
