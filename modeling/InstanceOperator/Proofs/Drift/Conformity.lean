import InstanceOperator.Proofs.Desired.Contents

/-!
# What the comparison leaves unseen

Everything that the operator sets in a dependent is said here of a live one: it `Conforms` to the
identity of an instance. A comparison that finds nothing tells less, that the live dependent
`Upholds` the identity, because the comparison does not look at everything that is set: not at the
flags of the owner reference, not at the replicas and the labels of the pods, not at the type of a
service and the protocol of its port, and not at the host of a rule and the type of a path. Where
these are as they were set (`KeepsUnseen`), a live dependent without differences conforms.

* `conforms_of_no_difference`: the result.
* `scaled_down_unseen`: a deployment that has been scaled down shows no difference.
-/

namespace InstanceOperator

/-! ## Metadata -/

/-- The two labels of an instance's objects are there. -/
structure Metadata.Labelled (m : Metadata) (i : Identity) : Prop where
  app : m.HasLabel "app" appLabel
  named : m.HasLabel "instance" i.name

/-- The labels are there, and the instance is an owner. -/
structure Metadata.Upholds (m : Metadata) (i : Identity) : Prop where
  labelled : m.Labelled i
  owned : ∃ o, m.HasOwner o ∧ o.uid = i.uid

/-- The labels are there, and the instance is the owner that manages the object and waits for it. -/
structure Metadata.Conforms (m : Metadata) (i : Identity) : Prop where
  labelled : m.Labelled i
  owned : ∃ o, m.HasOwner o ∧ o.uid = i.uid ∧ o.controller = some true ∧
    o.blockOwnerDeletion = some true

/-- Where the instance is an owner, it manages the object and waits for it. -/
def Metadata.KeepsUnseen (m : Metadata) (i : Identity) : Prop :=
  ∀ o, m.HasOwner o → o.uid = i.uid → o.controller = some true ∧ o.blockOwnerDeletion = some true

namespace Metadata

variable {m : Metadata} {i : Identity}

/-- Of the metadata a comparison looks at labels and owners. -/
theorem Covers.upholds {kind : Kind} (h : m.Covers (i.metadata kind)) : m.Upholds i where
  labelled :=
    { app := h.labels _ _ (Identity.hasLabel_iff.2 (.inl ⟨rfl, rfl⟩))
      named := h.labels _ _ (Identity.hasLabel_iff.2 (.inr ⟨rfl, rfl⟩)) }
  owned := h.owners _ (Identity.hasOwner_iff.2 rfl)

/-- The flags of the owner reference are what a comparison of metadata leaves open. -/
theorem Upholds.conforms (h : m.Upholds i) (hunseen : m.KeepsUnseen i) : m.Conforms i where
  labelled := h.labelled
  owned := by
    obtain ⟨o, ho, huid⟩ := h.owned
    exact ⟨o, ho, huid, hunseen o ho huid⟩

end Metadata

/-! ## Deployments -/

namespace Deployment

/-- The deployment chooses the instance's pods and runs the container with its image and port. -/
structure Upholds (d : Deployment) (i : Identity) : Prop where
  metadata : d.metadata.Upholds i
  selector : d.Selects i.labels
  container : ∃ c, d.Runs c ∧ c.name = containerName ∧ c.image = some containerImage ∧
    c.Exposes appPort

/-- The deployment is as it was set: it also makes one pod, which has the instance's labels. -/
structure Conforms (d : Deployment) (i : Identity) : Prop where
  metadata : d.metadata.Conforms i
  replicas : ∃ spec, d.spec = some spec ∧ spec.replicas = some 1
  selector : d.Selects i.labels
  template : ∃ spec m, d.spec = some spec ∧ spec.template.metadata = some m ∧ m.Labelled i
  container : ∃ c, d.Runs c ∧ c.name = containerName ∧ c.image = some containerImage ∧
    c.Exposes appPort

/-- The number of pods and their labels are as they were set. -/
structure KeepsUnseen (d : Deployment) (i : Identity) : Prop where
  metadata : d.metadata.KeepsUnseen i
  replicas : ∀ spec, d.spec = some spec → spec.replicas = some 1
  template : ∀ spec, d.spec = some spec → ∃ m, spec.template.metadata = some m ∧ m.Labelled i

variable {d : Deployment} {i : Identity}

theorem RunsFirst.runs {c : Container} (h : d.RunsFirst c) : d.Runs c := by
  obtain ⟨before, after, hlists, -⟩ := h
  exact ⟨_, hlists, List.mem_append_right _ List.mem_cons_self⟩

/-- Of a deployment a comparison looks at the selector and at the one container. -/
theorem Covers.upholds (hmetadata : d.metadata.Covers (i.metadata .deployment))
    (h : d.Covers i.deployment) : d.Upholds i where
  metadata := hmetadata.upholds
  selector := (h.selector _).1 (Identity.deployment_selects_iff.2 rfl)
  container := by
    obtain ⟨c, hfirst, hname, himage, hports⟩ :=
      h.containers _ (Identity.deployment_runs_iff.2 rfl)
    exact ⟨c, hfirst.runs, hname, himage, hports _ (Identity.container_exposes_iff.2 rfl)⟩

/-- The replicas and the labels of the pods are what a comparison of deployments leaves open. -/
theorem Upholds.conforms (h : d.Upholds i) (hunseen : d.KeepsUnseen i) : d.Conforms i := by
  obtain ⟨spec, hspec, -⟩ := h.selector
  obtain ⟨m, hm, hlabelled⟩ := hunseen.template spec hspec
  exact
    { metadata := h.metadata.conforms hunseen.metadata
      replicas := ⟨spec, hspec, hunseen.replicas spec hspec⟩
      selector := h.selector
      template := ⟨spec, m, hspec, hm, hlabelled⟩
      container := h.container }

end Deployment

/-! ## Services -/

namespace Service

/-- The service chooses the instance's pods and forwards its port to theirs. -/
structure Upholds (s : Service) (i : Identity) : Prop where
  metadata : s.metadata.Upholds i
  selector : s.Selects i.labels
  port : ∃ p, s.Offers p ∧ p.port = appPort ∧ p.targetPort = some (.number appPort)

/-- The service is as it was set: it also is of its type, and its port of its protocol. -/
structure Conforms (s : Service) (i : Identity) : Prop where
  metadata : s.metadata.Conforms i
  type : ∃ spec, s.spec = some spec ∧ spec.type = some "ClusterIP"
  selector : s.Selects i.labels
  port : ∃ p, s.Offers p ∧ p.port = appPort ∧ p.targetPort = some (.number appPort) ∧
    p.protocol = some "TCP"

/-- The type of the service and the protocol of its port are as they were set. -/
structure KeepsUnseen (s : Service) (i : Identity) : Prop where
  metadata : s.metadata.KeepsUnseen i
  type : ∀ spec, s.spec = some spec → spec.type = some "ClusterIP"
  protocol : ∀ p, s.Offers p → p.port = appPort → p.targetPort = some (.number appPort) →
    p.protocol = some "TCP"

variable {s : Service} {i : Identity}

/-- Of a service a comparison looks at the selector and at the port. -/
theorem Covers.upholds (hmetadata : s.metadata.Covers (i.metadata .service))
    (h : s.Covers i.service) : s.Upholds i where
  metadata := hmetadata.upholds
  selector := (h.selector _).1 (Identity.service_selects_iff.2 rfl)
  port := h.ports _ (Identity.service_offers_iff.2 rfl)

/-- The type and the protocol are what a comparison of services leaves open. -/
theorem Upholds.conforms (h : s.Upholds i) (hunseen : s.KeepsUnseen i) : s.Conforms i := by
  obtain ⟨spec, hspec, -⟩ := h.selector
  obtain ⟨p, hoffers, hport, htarget⟩ := h.port
  exact
    { metadata := h.metadata.conforms hunseen.metadata
      type := ⟨spec, hspec, hunseen.type spec hspec⟩
      selector := h.selector
      port := ⟨p, hoffers, hport, htarget, hunseen.protocol p hoffers hport htarget⟩ }

end Service

/-! ## Ingresses -/

/-- The path leads to the service of an instance. -/
def IngressPath.LeadsTo (p : IngressPath) (i : Identity) : Prop :=
  p.path = some "/" ∧ ∃ backend, p.backend.service = some backend ∧
    backend.name = dependentName i.name .service ∧ backend.port.bind (·.number) = some appPort

namespace Ingress

/-- The ingress leads to the instance's service. -/
structure Upholds (g : Ingress) (i : Identity) : Prop where
  metadata : g.metadata.Upholds i
  route : ∃ r p, g.Has r p ∧ p.LeadsTo i

/-- The ingress is as it was set: it leads to the service from any host and for whatever begins
with the path. -/
structure Conforms (g : Ingress) (i : Identity) : Prop where
  metadata : g.metadata.Conforms i
  route : ∃ r p, g.Has r p ∧ p.LeadsTo i ∧ r.host = none ∧ p.pathType = "Prefix"

/-- Where the ingress leads to the service, hosts and the type of the path are as they were set. -/
structure KeepsUnseen (g : Ingress) (i : Identity) : Prop where
  metadata : g.metadata.KeepsUnseen i
  route : ∀ r p, g.Has r p → p.LeadsTo i → r.host = none ∧ p.pathType = "Prefix"

variable {g : Ingress} {i : Identity}

theorem exists_leadsTo (h : g.Leads "/" (dependentName i.name .service) (some appPort)) :
    ∃ r p, g.Has r p ∧ p.LeadsTo i := by
  obtain ⟨r, p, backend, hhas, hbackend, hpath, hname, hport⟩ := h
  refine ⟨r, p, hhas, ?_, backend, hbackend, hname, hport⟩
  -- a path that is not given would be the empty one
  cases hp : p.path with
  | none =>
    rw [hp] at hpath
    exact absurd hpath (by decide)
  | some path =>
    rw [hp] at hpath
    exact congrArg some hpath

/-- Of an ingress a comparison looks at the route. -/
theorem Covers.upholds (hmetadata : g.metadata.Covers (i.metadata .ingress))
    (h : g.Covers i.ingress) : g.Upholds i where
  metadata := hmetadata.upholds
  route := exists_leadsTo (h _ _ _ (Identity.ingress_leads_iff.2 ⟨rfl, rfl, rfl⟩))

/-- The host and the type of the path are what a comparison of ingresses leaves open. -/
theorem Upholds.conforms (h : g.Upholds i) (hunseen : g.KeepsUnseen i) : g.Conforms i where
  metadata := h.metadata.conforms hunseen.metadata
  route := by
    obtain ⟨r, p, hhas, hleads⟩ := h.route
    exact ⟨r, p, hhas, hleads, hunseen.route r p hhas hleads⟩

end Ingress

/-! ## Dependents -/

namespace Dependent

/-- A dependent has what a comparison with the desired one looks at. -/
def Upholds (live : Dependent) (i : Identity) : Prop :=
  match live with
  | .deployment d => d.Upholds i
  | .service s => s.Upholds i
  | .ingress g => g.Upholds i

/-- A dependent has everything that the operator sets. -/
def Conforms (live : Dependent) (i : Identity) : Prop :=
  match live with
  | .deployment d => d.Conforms i
  | .service s => s.Conforms i
  | .ingress g => g.Conforms i

/-- What a comparison does not look at is as the operator sets it. -/
def KeepsUnseen (live : Dependent) (i : Identity) : Prop :=
  match live with
  | .deployment d => d.KeepsUnseen i
  | .service s => s.KeepsUnseen i
  | .ingress g => g.KeepsUnseen i

variable {live : Dependent} {i : Identity}

/-- What a comparison has seen and what it leaves open make up everything that was set. -/
theorem Upholds.conforms (h : live.Upholds i) (hunseen : live.KeepsUnseen i) :
    live.Conforms i := by
  cases live with
  | deployment d => exact Deployment.Upholds.conforms h hunseen
  | service s => exact Service.Upholds.conforms h hunseen
  | ingress g => exact Ingress.Upholds.conforms h hunseen

/-- A comparison without differences has seen what it looks at. -/
theorem upholds_of_no_difference {kind : Kind} (hkind : live.kind = kind)
    (h : detectDrift (i.dependent kind) live = []) : live.Upholds i := by
  subst hkind
  cases live with
  | deployment d =>
    obtain ⟨hmetadata, hspec⟩ := detectDrift_deployment_eq_nil_iff.1 h
    exact hspec.upholds hmetadata
  | service s =>
    obtain ⟨hmetadata, hspec⟩ := detectDrift_service_eq_nil_iff.1 h
    exact hspec.upholds hmetadata
  | ingress g =>
    obtain ⟨hmetadata, hspec⟩ := detectDrift_ingress_eq_nil_iff.1 h
    exact Ingress.Covers.upholds hmetadata hspec

end Dependent

/-- **What a comparison without differences tells.** A live dependent of the kind in which no
difference from the desired one is found upholds the identity of the instance. It conforms to it,
so that everything the operator sets is as it was set, if that also goes for what the comparison
does not look at. -/
theorem conforms_of_no_difference {i : Instance} {desired : PerKind Dependent}
    (hd : desiredState i = .ok desired) {kind : Kind} {live : Dependent} (hkind : live.kind = kind)
    (hnone : detectDrift (desired.get kind) live = []) :
    ∃ identity, Identity.ofInstance i = .ok identity ∧ live.Upholds identity ∧
      (live.KeepsUnseen identity → live.Conforms identity) := by
  obtain ⟨identity, hidentity, hget⟩ := exists_identity_of_desiredState hd
  rw [hget] at hnone
  have hupholds := Dependent.upholds_of_no_difference hkind hnone
  exact ⟨identity, hidentity, hupholds, hupholds.conforms⟩

section live

/-- The instance of the dependents below. -/
private def app : Identity := ⟨"app1", "demo", "uid-1"⟩

/-- Its service, to which someone has added a label, an annotation and a port. -/
private def sharedService : Service where
  metadata := { app.metadata .service with
    labels := some (app.labels.insert "team" "data")
    annotations := some (Labels.ofList [("note", "shared")]) }
  spec := some {
    type := some "ClusterIP"
    selector := some app.labels
    ports := some [{ name := some "admin", port := 9090 }, Identity.servicePort] }

/-- Its deployment, which someone has scaled down to no pods at all. -/
private def stoppedDeployment : Deployment :=
  { app.deployment with spec := app.deployment.spec.map ({ · with replicas := some 0 }) }

/-- A service that has been extended shows no difference, and conforms. -/
theorem shared_service_conforms :
    desiredState app.bare = .ok app.dependents ∧
      detectDrift (app.dependents.get .service) (.service sharedService) = [] ∧
      (Dependent.service sharedService).KeepsUnseen app ∧
      (Dependent.service sharedService).Conforms app := by
  have haccepted : desiredState app.bare = .ok app.dependents := rfl
  have hnone : detectDrift (app.dependents.get .service) (.service sharedService) = [] := by
    decide +kernel
  -- the added port has another number, so it is not the one that is built
  have hunseen : (Dependent.service sharedService).KeepsUnseen app := by
    refine ⟨?_, ?_, ?_⟩
    · rintro o ⟨owners, howners, ho⟩ -
      cases howners
      obtain rfl := List.mem_singleton.1 ho
      exact ⟨rfl, rfl⟩
    · intro spec hspec
      cases hspec
      rfl
    · rintro p ⟨spec, ports, hspec, hports, hp⟩ hport -
      cases hspec
      cases hports
      rcases List.mem_cons.1 hp with rfl | hp
      · exact absurd hport (by decide)
      · obtain rfl := List.mem_singleton.1 hp
        rfl
  obtain ⟨identity, hidentity, -, hconforms⟩ :=
    @conforms_of_no_difference _ _ haccepted .service _ rfl hnone
  cases hidentity
  exact ⟨haccepted, hnone, hunseen, hconforms hunseen⟩

/-- A deployment that has been scaled down is not as it was set, and shows no difference. -/
theorem scaled_down_unseen :
    desiredState app.bare = .ok app.dependents ∧
      (Dependent.deployment stoppedDeployment).kind = .deployment ∧
      detectDrift (app.dependents.get .deployment) (.deployment stoppedDeployment) = [] ∧
      ¬ (Dependent.deployment stoppedDeployment).Conforms app := by
  refine ⟨rfl, rfl, by decide +kernel, ?_⟩
  intro hconforms
  -- one pod is asked for, and the live deployment asks for none
  obtain ⟨spec, hspec, hreplicas⟩ := Deployment.Conforms.replicas hconforms
  cases hspec
  exact absurd hreplicas (by decide)

end live

end InstanceOperator
