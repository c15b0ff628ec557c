import InstanceOperator.Proofs.Drift.Difference

/-!
# When no difference is found

A live dependent *covers* a desired one if it is of the same kind and has all that the comparison
asks for: the labels, an owner of the same identifier for every owner, and what is particular to the
kind. What is asked for is said here of the objects' own fields, one layer of optional parts after
the other, and not through the functions of the comparison.

* `metadataDifferences_eq_nil_iff`, `deploymentDifferences_eq_nil_iff`,
  `serviceDifferences_eq_nil_iff`, `ingressDifferences_eq_nil_iff`: the parts of the comparison.
* `detectDrift_eq_nil_iff_covers`: nothing is found exactly if the live dependent covers the
  desired one, whatever the two are.
-/

namespace InstanceOperator

/-! ## One difference at most -/

theorem unless_eq_none_iff {p : Prop} [Decidable p] {d : Difference} :
    (if p then none else some d) = none ↔ p := by
  by_cases hp : p <;> simp [hp]

theorem unless_eq_nil_iff {p : Prop} [Decidable p] {d : Difference} :
    (if p then [] else [d]) = [] ↔ p := by
  by_cases hp : p <;> simp [hp]

/-! ## Labels and owners -/

/-- The metadata gives a label this value. -/
def Metadata.HasLabel (m : Metadata) (key value : String) : Prop :=
  ∃ labels, m.labels = some labels ∧ (key, value) ∈ labels.entries

/-- The metadata names an owner. -/
def Metadata.HasOwner (m : Metadata) (owner : OwnerReference) : Prop :=
  ∃ owners, m.ownerReferences = some owners ∧ owner ∈ owners

/-- What the metadata of a live object has to have. -/
structure Metadata.Covers (live want : Metadata) : Prop where
  labels : ∀ key value, want.HasLabel key value → live.HasLabel key value
  owners : ∀ owner, want.HasOwner owner → ∃ found, live.HasOwner found ∧ found.uid = owner.uid

/-- In a sorted list every key occurs once, so that a lookup finds each entry. -/
theorem lookup_eq_some_iff_of_sorted {es : List (String × String)}
    (hsorted : es.Pairwise fun a b => a.1 < b.1) {key value : String} :
    es.lookup key = some value ↔ (key, value) ∈ es := by
  induction es with
  | nil => simp
  | cons e es ih =>
    obtain ⟨k, v⟩ := e
    obtain ⟨hbelow, hrest⟩ := List.pairwise_cons.1 hsorted
    by_cases hk : key = k
    · subst hk
      -- the key comes only once, as all later ones are greater
      have hnot : (key, value) ∉ es := fun h => String.lt_irrefl key (hbelow (key, value) h)
      simp [hnot, eq_comm]
    · have hbeq : (key == k) = false := by simpa using hk
      simp [List.lookup_cons, hbeq, hk, ih hrest]

theorem Labels.get?_eq_some_iff {l : Labels} {key value : String} :
    l.get? key = some value ↔ (key, value) ∈ l.entries :=
  lookup_eq_some_iff_of_sorted l.sorted

/-- A label is reported unless the live object has it with the desired value. -/
theorem labelDifference?_eq_none_iff {live : Labels} {label : String × String} :
    labelDifference? live label = none ↔ live.get? label.1 = some label.2 := by
  unfold labelDifference?
  cases live.get? label.1 with
  | none => simp
  | some value => simp

namespace Metadata

variable {m : Metadata}

theorem get?_labels_iff {key value : String} :
    (m.labels.getD Labels.empty).get? key = some value ↔ m.HasLabel key value := by
  unfold HasLabel
  cases m.labels with
  | none => simp [Labels.get?, Labels.empty]
  | some labels => simp [Labels.get?_eq_some_iff]

theorem mem_labels_iff {key value : String} :
    (key, value) ∈ (m.labels.map Labels.entries).getD [] ↔ m.HasLabel key value := by
  unfold HasLabel
  cases m.labels <;> simp

theorem mem_owners_iff {owner : OwnerReference} :
    owner ∈ m.ownerReferences.getD [] ↔ m.HasOwner owner := by
  unfold HasOwner
  cases m.ownerReferences <;> simp

end Metadata

/-- The metadata show no difference exactly if labels and owners are there. An owner is known by its
unique identifier. -/
theorem metadataDifferences_eq_nil_iff {want live : Metadata} :
    metadataDifferences want live = [] ↔ live.Covers want := by
  unfold metadataDifferences
  rw [List.append_eq_nil_iff, List.filterMap_eq_nil_iff, List.filterMap_eq_nil_iff]
  constructor
  · rintro ⟨hlabels, howners⟩
    constructor
    · intro key value h
      -- every label and every owner is compared by itself, and all of these come to nothing
      have hnone := hlabels _ (Metadata.mem_labels_iff.2 h)
      exact Metadata.get?_labels_iff.1 (labelDifference?_eq_none_iff.1 hnone)
    · intro owner h
      have hany := unless_eq_none_iff.1 (howners _ (Metadata.mem_owners_iff.2 h))
      obtain ⟨found, hfound, huid⟩ := List.any_eq_true.1 hany
      exact ⟨found, Metadata.mem_owners_iff.1 hfound, of_decide_eq_true huid⟩
  · rintro ⟨hlabels, howners⟩
    constructor
    · rintro ⟨key, value⟩ h
      have hlive := hlabels key value (Metadata.mem_labels_iff.1 h)
      exact labelDifference?_eq_none_iff.2 (Metadata.get?_labels_iff.2 hlive)
    · intro owner h
      obtain ⟨found, hfound, huid⟩ := howners owner (Metadata.mem_owners_iff.1 h)
      exact unless_eq_none_iff.2
        (List.any_eq_true.2 ⟨found, Metadata.mem_owners_iff.2 hfound, decide_eq_true huid⟩)

/-! ## Deployments -/

def Container.Exposes (c : Container) (port : Int32) : Prop :=
  ∃ ports p, c.ports = some ports ∧ p ∈ ports ∧ p.containerPort = port

namespace Deployment

/-- A deployment chooses its pods by these labels. -/
def Selects (d : Deployment) (labels : Labels) : Prop :=
  ∃ spec, d.spec = some spec ∧ spec.selector.matchLabels = some labels

/-- The pods of a deployment run these containers, in this order. -/
def Lists (d : Deployment) (containers : List Container) : Prop :=
  ∃ spec pod, d.spec = some spec ∧ spec.template.spec = some pod ∧ pod.containers = containers

/-- The pods of a deployment run a container. -/
def Runs (d : Deployment) (c : Container) : Prop :=
  ∃ containers, d.Lists containers ∧ c ∈ containers

/-- The pods of a deployment run a container, and none of its name stands before it. -/
def RunsFirst (d : Deployment) (c : Container) : Prop :=
  ∃ before after, d.Lists (before ++ c :: after) ∧ ∀ b ∈ before, b.name ≠ c.name

/-- What a live deployment has to have. -/
structure Covers (live want : Deployment) : Prop where
  selector : ∀ labels, want.Selects labels ↔ live.Selects labels
  containers : ∀ c, want.Runs c → ∃ found, live.RunsFirst found ∧ found.name = c.name ∧
    found.image = c.image ∧ ∀ port, c.Exposes port → found.Exposes port

end Deployment

theorem Container.mem_portNumbers_iff {c : Container} {port : Int32} :
    port ∈ c.portNumbers ↔ c.Exposes port := by
  unfold portNumbers Exposes
  cases c.ports <;> simp

namespace Deployment

variable {d : Deployment}

theorem selector_eq_some_iff {labels : Labels} : d.selector = some labels ↔ d.Selects labels :=
  Option.bind_eq_some_iff

/-- Selectors are compared as a whole, also where there is none. -/
theorem selector_eq_iff {want live : Deployment} :
    want.selector = live.selector ↔ ∀ labels, want.Selects labels ↔ live.Selects labels := by
  simp only [← selector_eq_some_iff]
  exact Option.ext_iff

/-- Pods list their containers, and a deployment without pods has none. -/
theorem lists_or_none : d.Lists d.containers ∨ d.containers = [] ∧ ∀ cs, ¬ d.Lists cs := by
  unfold Lists containers
  cases hspec : d.spec with
  | none => simp
  | some spec => cases hpod : spec.template.spec <;> simp [hpod]

theorem eq_containers_of_lists {containers : List Container} (h : d.Lists containers) :
    d.containers = containers := by
  obtain ⟨spec, pod, hspec, hpod, rfl⟩ := h
  simp [Deployment.containers, hspec, hpod]

/-- Where something on the way to the containers is absent, none are run. -/
theorem mem_containers_iff {c : Container} : c ∈ d.containers ↔ d.Runs c := by
  constructor
  · intro h
    rcases d.lists_or_none with hlists | ⟨hnil, -⟩
    · exact ⟨_, hlists, h⟩
    · rw [hnil] at h
      cases h
  · rintro ⟨containers, hlists, h⟩
    rw [eq_containers_of_lists hlists]
    exact h

/-- A container is looked for by its name, and the first one of this name is taken. -/
theorem find?_containers_iff {name : String} {c : Container} :
    d.containers.find? (·.name = name) = some c ↔ d.RunsFirst c ∧ c.name = name := by
  rw [List.find?_eq_some_iff_append]
  simp only [decide_eq_true_eq, Bool.not_eq_true', decide_eq_false_iff_not]
  constructor
  · rintro ⟨hname, before, after, hcs, hbefore⟩
    rcases d.lists_or_none with hlists | ⟨hnil, -⟩
    · rw [hcs] at hlists
      refine ⟨⟨before, after, hlists, ?_⟩, hname⟩
      intro b hb
      rw [hname]
      exact hbefore b hb
    · simp [hnil] at hcs
  · rintro ⟨⟨before, after, hlists, hbefore⟩, rfl⟩
    exact ⟨rfl, before, after, eq_containers_of_lists hlists, hbefore⟩

end Deployment

/-- A container shows no difference exactly if the first live one of its name has its image and its
ports. -/
theorem containerDifferences_eq_nil_iff {live : Deployment} {want : Container} :
    containerDifferences live.containers want = [] ↔
      ∃ found, live.RunsFirst found ∧ found.name = want.name ∧ found.image = want.image ∧
        ∀ port, want.Exposes port → found.Exposes port := by
  unfold containerDifferences
  cases hfind : live.containers.find? (·.name = want.name) with
  | none =>
    constructor
    · intro h
      cases h
    · rintro ⟨found, hfirst, hname, -⟩
      rw [Deployment.find?_containers_iff.2 ⟨hfirst, hname⟩] at hfind
      cases hfind
  | some found =>
    have hfound := Deployment.find?_containers_iff.1 hfind
    simp only [List.append_eq_nil_iff, unless_eq_nil_iff, List.filterMap_eq_nil_iff,
      unless_eq_none_iff, Container.mem_portNumbers_iff]
    constructor
    · rintro ⟨himage, hports⟩
      exact ⟨found, hfound.1, hfound.2, himage, hports⟩
    · rintro ⟨found', hfirst, hname, himage, hports⟩
      -- there is only one first container of a name
      rw [Deployment.find?_containers_iff.2 ⟨hfirst, hname⟩] at hfind
      cases hfind
      exact ⟨himage, hports⟩

/-- A deployment shows no difference exactly if selector and containers are as desired. -/
theorem deploymentDifferences_eq_nil_iff {want live : Deployment} :
    deploymentDifferences want live = [] ↔ live.Covers want := by
  unfold deploymentDifferences
  simp only [List.append_eq_nil_iff, unless_eq_nil_iff, Deployment.selector_eq_iff,
    List.flatMap_eq_nil_iff, Deployment.mem_containers_iff, containerDifferences_eq_nil_iff]
  constructor
  · rintro ⟨hselector, hcontainers⟩
    exact ⟨hselector, hcontainers⟩
  · rintro ⟨hselector, hcontainers⟩
    exact ⟨hselector, hcontainers⟩

/-! ## Services -/

namespace Service

/-- A service chooses its pods by these labels. -/
def Selects (s : Service) (labels : Labels) : Prop :=
  ∃ spec, s.spec = some spec ∧ spec.selector = some labels

def Offers (s : Service) (p : ServicePort) : Prop :=
  ∃ spec ports, s.spec = some spec ∧ spec.ports = some ports ∧ p ∈ ports

/-- What a live service has to have. -/
structure Covers (live want : Service) : Prop where
  selector : ∀ labels, want.Selects labels ↔ live.Selects labels
  ports : ∀ p, want.Offers p → ∃ found, live.Offers found ∧ found.port = p.port ∧
    found.targetPort = p.targetPort

variable {s : Service}

theorem selector_eq_some_iff {labels : Labels} : s.selector = some labels ↔ s.Selects labels :=
  Option.bind_eq_some_iff

theorem selector_eq_iff {want live : Service} :
    want.selector = live.selector ↔ ∀ labels, want.Selects labels ↔ live.Selects labels := by
  simp only [← selector_eq_some_iff]
  exact Option.ext_iff

theorem mem_ports_iff {p : ServicePort} : p ∈ s.ports ↔ s.Offers p := by
  unfold ports Offers
  cases hspec : s.spec with
  | none => simp
  | some spec => cases hports : spec.ports <;> simp [hports]

end Service

/-- A service shows no difference exactly if selector and ports are as desired. -/
theorem serviceDifferences_eq_nil_iff {want live : Service} :
    serviceDifferences want live = [] ↔ live.Covers want := by
  unfold serviceDifferences
  simp only [List.append_eq_nil_iff, unless_eq_nil_iff, Service.selector_eq_iff,
    List.filterMap_eq_nil_iff, unless_eq_none_iff, List.any_eq_true, decide_eq_true_eq,
    Service.mem_ports_iff]
  constructor
  · rintro ⟨hselector, hports⟩
    exact ⟨hselector, hports⟩
  · rintro ⟨hselector, hports⟩
    exact ⟨hselector, hports⟩

/-! ## Ingresses -/

namespace Ingress

/-- An ingress has a path in one of its rules. -/
def Has (i : Ingress) (r : IngressRule) (p : IngressPath) : Prop :=
  ∃ spec rules paths, i.spec = some spec ∧ spec.rules = some rules ∧ r ∈ rules ∧
    r.paths = some paths ∧ p ∈ paths

/-- An ingress leads a path to a port of a service, under any host. A path that is not given is the
empty one. -/
def Leads (i : Ingress) (path service : String) (port : Option Int32) : Prop :=
  ∃ r p backend, i.Has r p ∧ p.backend.service = some backend ∧ p.path.getD "" = path ∧
    backend.name = service ∧ backend.port.bind (·.number) = port

/-- What a live ingress has to have. -/
def Covers (live want : Ingress) : Prop :=
  ∀ path service port, want.Leads path service port → live.Leads path service port

variable {i : Ingress}

/-- A path is in an ingress as soon as one of its rules has it. -/
theorem has_iff {r : IngressRule} {p : IngressPath} :
    i.Has r p ↔ r ∈ (i.spec.bind (·.rules)).getD [] ∧ p ∈ r.paths.getD [] := by
  unfold Has
  cases hspec : i.spec with
  | none => simp
  | some spec =>
    cases hrules : spec.rules with
    | none => simp [hrules]
    | some rules => cases hpaths : r.paths <;> simp [hrules]

/-- A route is what a path comes to once everything that is absent is taken as empty. -/
theorem mem_routes_iff {path service : String} {port : Option Int32} :
    ⟨path, service, port⟩ ∈ i.routes ↔ i.Leads path service port := by
  simp only [routes, List.mem_flatMap, List.mem_filterMap, IngressPath.route?,
    Option.map_eq_some_iff, Route.mk.injEq, Leads, has_iff]
  constructor
  · rintro ⟨r, hr, p, hp, backend, hbackend, hpath, hservice, hport⟩
    exact ⟨r, p, backend, ⟨hr, hp⟩, hbackend, hpath, hservice, hport⟩
  · rintro ⟨r, p, backend, ⟨hr, hp⟩, hbackend, hpath, hservice, hport⟩
    exact ⟨r, hr, p, hp, backend, hbackend, hpath, hservice, hport⟩

end Ingress

/-- An ingress shows no difference exactly if every desired route is there, in whatever rule. -/
theorem ingressDifferences_eq_nil_iff {want live : Ingress} :
    ingressDifferences want live = [] ↔ live.Covers want := by
  unfold ingressDifferences
  simp only [List.filterMap_eq_nil_iff, unless_eq_none_iff]
  constructor
  · intro h path service port hwant
    exact Ingress.mem_routes_iff.1 (h _ (Ingress.mem_routes_iff.2 hwant))
  · rintro h ⟨path, service, port⟩ hwant
    exact Ingress.mem_routes_iff.2 (h path service port (Ingress.mem_routes_iff.1 hwant))

/-! ## Dependents -/

theorem detectDrift_deployment_eq_nil_iff {want live : Deployment} :
    detectDrift (.deployment want) (.deployment live) = [] ↔
      live.metadata.Covers want.metadata ∧ live.Covers want := by
  rw [← metadataDifferences_eq_nil_iff, ← deploymentDifferences_eq_nil_iff]
  exact List.append_eq_nil_iff

theorem detectDrift_service_eq_nil_iff {want live : Service} :
    detectDrift (.service want) (.service live) = [] ↔
      live.metadata.Covers want.metadata ∧ live.Covers want := by
  rw [← metadataDifferences_eq_nil_iff, ← serviceDifferences_eq_nil_iff]
  exact List.append_eq_nil_iff

theorem detectDrift_ingress_eq_nil_iff {want live : Ingress} :
    detectDrift (.ingress want) (.ingress live) = [] ↔
      live.metadata.Covers want.metadata ∧ live.Covers want := by
  rw [← metadataDifferences_eq_nil_iff, ← ingressDifferences_eq_nil_iff]
  exact List.append_eq_nil_iff

/-- A live dependent has what the comparison with a desired one asks for. -/
inductive Dependent.Covers : Dependent → Dependent → Prop where
  | deployment {live want : Deployment} (metadata : live.metadata.Covers want.metadata)
      (spec : live.Covers want) : Covers (.deployment live) (.deployment want)
  | service {live want : Service} (metadata : live.metadata.Covers want.metadata)
      (spec : live.Covers want) : Covers (.service live) (.service want)
  | ingress {live want : Ingress} (metadata : live.metadata.Covers want.metadata)
      (spec : live.Covers want) : Covers (.ingress live) (.ingress want)

/-- **No difference is found exactly if the live dependent covers the desired one**, whatever the
two are: they are of one kind, and the live one has every label, every owner by its identifier, and
everything particular to the kind that the desired one has. -/
theorem detectDrift_eq_nil_iff_covers (want live : Dependent) :
    detectDrift want live = [] ↔ live.Covers want := by
  constructor
  · intro h
    -- a difference of kinds would be found, so only the three pairs of one kind are left
    have hkind : live.kind = want.kind := by
      apply Classical.byContradiction
      intro hne
      obtain ⟨k, l, hmem⟩ := kind_mem_detectDrift_iff.2 hne
      rw [h] at hmem
      cases hmem
    cases want <;> cases live
    case deployment.deployment want live =>
      obtain ⟨hmetadata, hspec⟩ := detectDrift_deployment_eq_nil_iff.1 h
      exact .deployment hmetadata hspec
    case service.service want live =>
      obtain ⟨hmetadata, hspec⟩ := detectDrift_service_eq_nil_iff.1 h
      exact .service hmetadata hspec
    case ingress.ingress want live =>
      obtain ⟨hmetadata, hspec⟩ := detectDrift_ingress_eq_nil_iff.1 h
      exact .ingress hmetadata hspec
    all_goals cases hkind
  · intro h
    cases h with
    | deployment hmetadata hspec =>
      exact detectDrift_deployment_eq_nil_iff.2 ⟨hmetadata, hspec⟩
    | service hmetadata hspec => exact detectDrift_service_eq_nil_iff.2 ⟨hmetadata, hspec⟩
    | ingress hmetadata hspec => exact detectDrift_ingress_eq_nil_iff.2 ⟨hmetadata, hspec⟩

end InstanceOperator
