import InstanceOperator.Proofs.Desired.Dependents
import InstanceOperator.Proofs.Drift.Coverage

/-!
# What the desired dependents hold

The parts of the desired dependents that a comparison asks for, each given completely: two labels
and one owner, one selector, one container with one port, one port of the service, and one route.
With them a statement about what a live object has to cover is one about these parts.
-/

namespace InstanceOperator.Identity

variable {i : Identity}

/-! ## Metadata -/

/-- There are two labels. -/
theorem labels_entries (i : Identity) :
    i.labels.entries = [("app", appLabel), ("instance", i.name)] := by
  have horder : ¬ "instance" < "app" := by decide
  simp [labels, Labels.ofList, Labels.insert, Labels.insertEntry, Labels.empty, horder]

/-- The two labels, as a lookup finds them. -/
theorem hasLabel_iff {kind : Kind} {key value : String} :
    (i.metadata kind).HasLabel key value ↔
      key = "app" ∧ value = appLabel ∨ key = "instance" ∧ value = i.name := by
  simp [Metadata.HasLabel, metadata, base, Base.metadata, labels_entries]

/-- There is one owner only. -/
theorem hasOwner_iff {kind : Kind} {owner : OwnerReference} :
    (i.metadata kind).HasOwner owner ↔ owner = i.owner := by
  simp [Metadata.HasOwner, metadata, base, Base.metadata]

/-! ## Deployments -/

theorem deployment_selects_iff {labels : Labels} :
    i.deployment.Selects labels ↔ labels = i.labels := by
  simp [Deployment.Selects, deployment, base, Base.deployment, eq_comm]

theorem deployment_lists_iff {containers : List Container} :
    i.deployment.Lists containers ↔ containers = [container] := by
  simp [Deployment.Lists, deployment, base, Base.deployment, eq_comm]

/-- The pods run one container. -/
theorem deployment_runs_iff {c : Container} : i.deployment.Runs c ↔ c = container := by
  simp [Deployment.Runs, deployment_lists_iff]

theorem container_exposes_iff {port : Int32} : container.Exposes port ↔ port = appPort := by
  simp [Container.Exposes, container, eq_comm]

/-! ## Services -/

theorem service_selects_iff {labels : Labels} :
    i.service.Selects labels ↔ labels = i.labels := by
  simp [Service.Selects, service, base, Base.service, eq_comm]

theorem service_offers_iff {p : ServicePort} : i.service.Offers p ↔ p = servicePort := by
  simp [Service.Offers, service, base, Base.service]

/-! ## Ingresses -/

theorem ingress_has_iff {r : IngressRule} {p : IngressPath} :
    i.ingress.Has r p ↔ r = { paths := some [i.route] } ∧ p = i.route := by
  rw [Ingress.has_iff]
  constructor
  · rintro ⟨hr, hp⟩
    obtain rfl : r = { paths := some [i.route] } := List.mem_singleton.1 hr
    exact ⟨rfl, List.mem_singleton.1 hp⟩
  · rintro ⟨rfl, rfl⟩
    exact ⟨List.mem_singleton_self _, List.mem_singleton_self _⟩

/-- All requests go to the port of the service, and nowhere else. -/
theorem ingress_leads_iff {path service : String} {port : Option Int32} :
    i.ingress.Leads path service port ↔
      path = "/" ∧ service = dependentName i.name .service ∧ port = some appPort := by
  constructor
  · rintro ⟨r, p, backend, hhas, hbackend, hpath, hservice, hport⟩
    obtain ⟨-, rfl⟩ := ingress_has_iff.1 hhas
    cases hbackend
    exact ⟨hpath.symm, hservice.symm, hport.symm⟩
  · rintro ⟨rfl, rfl, rfl⟩
    exact ⟨_, i.route, _, ingress_has_iff.2 ⟨rfl, rfl⟩, rfl, rfl, rfl, rfl⟩

end InstanceOperator.Identity
