import InstanceOperator.Proofs.Desired.Acceptance
import InstanceOperator.Proofs.Desired.Contents
import Mathlib.Data.String.Basic

/-!
# Dependents that fit together

The three dependents of an instance refer to each other: the deployment and the service choose pods
by their labels, the service forwards to a port of the pods, and the ingress leads to a port of the
service. What it means to choose a pod is said here of the objects' own fields, as the cluster has
it: a selector asks for labels, expressions in it can only narrow the choice, and a service that
asks for nothing chooses nothing.

* `Fits`: three dependents whose references meet.
* `StandApart`: dependents of two instances that neither choose each other's pods nor share a name.
* `LabelValue`: the values that the cluster accepts for a label.
* `dependents_fit`: the desired dependents fit together, stand apart from those of an instance of
  another name, and bear accepted labels if the instance is named as the cluster has it.
-/

namespace InstanceOperator

open Dns (Letter Edge Inner Part LabelText SubdomainText)

/-! ## Choosing pods -/

/-- A pod has all labels that are asked for. -/
def Labels.MetBy (wanted pod : Labels) : Prop :=
  ∀ key value, wanted.get? key = some value → pod.get? key = some value

namespace Deployment

/-- The pods that a deployment makes have these labels. -/
def LabelsPods (d : Deployment) (pod : Labels) : Prop :=
  ∃ spec m, d.spec = some spec ∧ spec.template.metadata = some m ∧ m.labels = some pod

/-- As far as labels go, a deployment chooses a pod. -/
def MayChoose (d : Deployment) (pod : Labels) : Prop :=
  ∃ spec, d.spec = some spec ∧
    ∀ wanted, spec.selector.matchLabels = some wanted → wanted.MetBy pod

/-- A deployment chooses a pod by its labels, and by nothing else. -/
def Chooses (d : Deployment) (pod : Labels) : Prop :=
  d.MayChoose pod ∧ ∀ spec, d.spec = some spec → spec.selector.carried = []

end Deployment

def Service.Chooses (s : Service) (pod : Labels) : Prop :=
  ∃ wanted, s.Selects wanted ∧ wanted.entries ≠ [] ∧ wanted.MetBy pod

namespace Dependent

/-- The pods that a dependent makes have these labels. -/
inductive LabelsPods : Dependent → Labels → Prop where
  | deployment {d : Deployment} {pod : Labels} (h : d.LabelsPods pod) :
      LabelsPods (.deployment d) pod

/-- As far as labels go, a dependent chooses a pod. -/
inductive MayChoose : Dependent → Labels → Prop where
  | deployment {d : Deployment} {pod : Labels} (h : d.MayChoose pod) :
      MayChoose (.deployment d) pod
  | service {s : Service} {pod : Labels} (h : s.Chooses pod) : MayChoose (.service s) pod

/-- Labels stand somewhere in a dependent: as its own, in its selector, or for its pods. -/
inductive Bears : Dependent → Labels → Prop where
  | own {d : Dependent} {labels : Labels} (h : d.metadata.labels = some labels) : Bears d labels
  | chosen {d : Deployment} {labels : Labels} (h : d.Selects labels) : Bears (.deployment d) labels
  | made {d : Deployment} {labels : Labels} (h : d.LabelsPods labels) :
      Bears (.deployment d) labels
  | served {s : Service} {labels : Labels} (h : s.Selects labels) : Bears (.service s) labels

end Dependent

/-! ## Fitting together and standing apart -/

/-- A deployment, a service and an ingress of a namespace whose references meet. -/
structure Fits (d : Deployment) (s : Service) (g : Ingress) (ns : String) : Prop where
  pods : ∃ pod, d.LabelsPods pod ∧ d.Chooses pod ∧ s.Chooses pod
  offered : ∃ p, s.Offers p
  targets : ∀ p, s.Offers p →
    ∃ port c, p.targetPort = some (.number port) ∧ d.Runs c ∧ c.Exposes port
  routed : ∃ r p, g.Has r p
  backends : ∀ r p, g.Has r p → ∃ backend port number offered,
    p.backend.service = some backend ∧ s.metadata.name = some backend.name ∧
    backend.port = some port ∧ port.name = none ∧ port.number = some number ∧
    s.Offers offered ∧ offered.port = number
  namespaces : d.metadata.ns = some ns ∧ s.metadata.ns = some ns ∧ g.metadata.ns = some ns

def PerKind.names (p : PerKind Dependent) : List String :=
  Kind.ordered.map fun kind => (p.get kind).key.name

/-- None of the dependents chooses a pod of the others, and no name comes twice in all. -/
structure StandApart (these others : PerKind Dependent) : Prop where
  pods : ∀ kind kind' pod, (others.get kind').LabelsPods pod → ¬ (these.get kind).MayChoose pod
  names : (these.names ++ others.names).Nodup

/-! ## Values of labels -/

/-- A character of `[A-Za-z0-9]`. -/
def Alphanumeric (c : Char) : Prop := Edge c ∨ ('A' ≤ c ∧ c ≤ 'Z')

/-- The cluster accepts a text that is not empty as the value of a label. -/
structure LabelValue (v : String) : Prop where
  size : v.length ≤ 63
  first : ∃ c, v.toList.head? = some c ∧ Alphanumeric c
  last : ∃ c, v.toList.getLast? = some c ∧ Alphanumeric c
  chars : ∀ c ∈ v.toList, Alphanumeric c ∨ c = '-' ∨ c = '_' ∨ c = '.'

/-- A character takes a byte at least. -/
theorem length_le_utf8ByteSize (s : String) : s.length ≤ s.utf8ByteSize := by
  have hlen : ∀ cs : List Char, cs.length ≤ String.utf8Len cs := by
    intro cs
    induction cs with
    | nil => exact Nat.le_refl 0
    | cons c cs ih =>
      have hc := c.utf8Size_pos
      rw [List.length_cons, String.utf8Len_cons]
      omega
  calc s.length = s.toList.length := s.length_toList.symm
    _ ≤ String.utf8Len s.toList := hlen _
    _ = s.utf8ByteSize := by rw [← String.utf8ByteSize_ofList, String.ofList_toList]

/-- A part is also a value of a label, unless it is too long. -/
theorem LabelValue.of_part {v : String} (h : Part Edge v.toList) (hsize : v.utf8ByteSize ≤ 63) :
    LabelValue v := by
  obtain ⟨a, z, hhead, hlast, ha, hz, hchars⟩ := (Dns.part_iff fun _ => id).1 h
  refine ⟨?_, ⟨a, hhead, .inl ha⟩, ⟨z, hlast, .inl hz⟩, ?_⟩
  · exact Nat.le_trans (length_le_utf8ByteSize v) hsize
  · intro c hc
    rcases hchars c hc with hedge | hhyphen
    · exact .inl (.inl hedge)
    · exact .inr (.inl hhyphen)

theorem labelValue_appLabel : LabelValue appLabel :=
  .of_part (Dns.isPart_isAlphanumeric_iff.1 (by decide)) (by decide)

/-- A subdomain without a dot is a single part. -/
theorem Dns.Subdomain.part_of_inner {cs : List Char} (h : Dns.Subdomain cs)
    (hchars : ∀ c ∈ cs, Inner c) : Part Edge cs := by
  cases h with
  | part h => exact h
  | dotted h hrest => exact absurd (hchars '.' (by simp)) Dns.not_inner_dot

/-- A good name that is also a name of the cluster is the value of a label. -/
theorem GoodName.labelValue {name : String} (h : GoodName name) (hname : SubdomainText name) :
    LabelValue name :=
  .of_part (hname.1.part_of_inner h.chars) (Nat.le_trans h.size.2 (by decide))

/-! ## Names -/

/-- The last letter of its name tells the kind of a dependent. -/
theorem getLast?_dependentName (name : String) (kind : Kind) :
    (dependentName name kind).toList.getLast? = kind.suffix.toList.getLast? := by
  obtain ⟨-, ⟨z, hlast, -⟩, -⟩ := kind.suffix_shape
  rw [dependentName, String.toList_append, List.getLast?_append, hlast]
  rfl

/-- The three suffixes end in different letters. -/
theorem Kind.getLast?_suffix_inj {kind kind' : Kind}
    (h : kind.suffix.toList.getLast? = kind'.suffix.toList.getLast?) : kind = kind' := by
  revert h
  cases kind <;> cases kind' <;> decide

/-- No name is given to dependents of two kinds, or of two instances of different names. -/
theorem dependentName_eq_iff {name name' : String} {kind kind' : Kind} :
    dependentName name kind = dependentName name' kind' ↔ name = name' ∧ kind = kind' := by
  constructor
  · intro h
    have hkind : kind = kind' := by
      apply Kind.getLast?_suffix_inj
      rw [← getLast?_dependentName name, h, getLast?_dependentName]
    subst hkind
    exact ⟨dependentName_inj h, rfl⟩
  · rintro ⟨rfl, rfl⟩
    rfl

/-! ## The dependents of an identity -/

namespace Identity

variable {i j : Identity}

/-- Only the deployment makes pods, and they bear the labels of the instance. -/
theorem labelsPods_iff {kind : Kind} {pod : Labels} :
    (i.dependent kind).LabelsPods pod ↔ kind = .deployment ∧ pod = i.labels := by
  constructor
  · intro h
    cases kind with
    | deployment =>
      cases h with
      | deployment h =>
        obtain ⟨spec, m, hspec, hm, hpod⟩ := h
        cases hspec
        cases hm
        cases hpod
        exact ⟨rfl, rfl⟩
    | service => cases h
    | ingress => cases h
  · rintro ⟨rfl, rfl⟩
    exact .deployment ⟨_, _, rfl, rfl, rfl⟩

/-- Labels are only met by those of an instance of the same name. -/
theorem labels_metBy_iff : i.labels.MetBy j.labels ↔ i.name = j.name := by
  constructor
  · intro h
    have hinstance : j.labels.get? "instance" = some i.name := by
      apply h
      simp [Labels.get?_eq_some_iff, labels_entries]
    simpa [Labels.get?_eq_some_iff, labels_entries] using hinstance
  · intro h key value hkey
    simpa only [labels, h] using hkey

theorem deployment_mayChoose_iff {pod : Labels} :
    i.deployment.MayChoose pod ↔ i.labels.MetBy pod := by
  simp [Deployment.MayChoose, deployment, base, Base.deployment]

/-- A selector that asks for nothing would choose nothing, but that of the service asks for two
labels. -/
theorem service_chooses_iff {pod : Labels} : i.service.Chooses pod ↔ i.labels.MetBy pod := by
  simp [Service.Chooses, service_selects_iff, labels_entries]

/-- Whatever chooses pods asks for the labels of its own instance. -/
theorem mayChoose_imp {kind : Kind} {pod : Labels} (h : (i.dependent kind).MayChoose pod) :
    i.labels.MetBy pod := by
  cases kind with
  | deployment =>
    cases h with
    | deployment h => exact deployment_mayChoose_iff.1 h
  | service =>
    cases h with
    | service h => exact service_chooses_iff.1 h
  | ingress => cases h

/-- All labels in the desired dependents are the same two. -/
theorem eq_labels_of_bears {kind : Kind} {labels : Labels} (h : (i.dependent kind).Bears labels) :
    labels = i.labels := by
  cases kind with
  | deployment =>
    cases h with
    | own h => exact (Option.some.inj h).symm
    | chosen h => exact deployment_selects_iff.1 h
    | made h =>
      have hpods : (i.dependent .deployment).LabelsPods labels := .deployment h
      exact (labelsPods_iff.1 hpods).2
  | service =>
    cases h with
    | own h => exact (Option.some.inj h).symm
    | served h => exact service_selects_iff.1 h
  | ingress =>
    cases h with
    | own h => exact (Option.some.inj h).symm

theorem labelValue_of_bears (hgood : GoodName i.name) (hname : SubdomainText i.name) {kind : Kind}
    {labels : Labels} (h : (i.dependent kind).Bears labels) :
    ∀ e ∈ labels.entries, LabelValue e.2 := by
  rw [eq_labels_of_bears h, labels_entries]
  intro e he
  rw [List.mem_cons, List.mem_singleton] at he
  rcases he with rfl | rfl
  · exact labelValue_appLabel
  · exact hgood.labelValue hname

/-- The desired dependents fit together. -/
theorem fits (i : Identity) : Fits i.deployment i.service i.ingress i.ns where
  pods := by
    have hmet : i.labels.MetBy i.labels := fun _ _ h => h
    refine ⟨i.labels, ⟨_, _, rfl, rfl, rfl⟩, ⟨deployment_mayChoose_iff.2 hmet, ?_⟩,
      service_chooses_iff.2 hmet⟩
    intro spec hspec
    cases hspec
    rfl
  offered := ⟨servicePort, service_offers_iff.2 rfl⟩
  targets := by
    intro p hp
    obtain rfl := service_offers_iff.1 hp
    exact ⟨appPort, container, rfl, deployment_runs_iff.2 rfl, container_exposes_iff.2 rfl⟩
  routed := ⟨_, i.route, ingress_has_iff.2 ⟨rfl, rfl⟩⟩
  backends := by
    intro r p h
    obtain ⟨-, rfl⟩ := ingress_has_iff.1 h
    exact ⟨_, _, appPort, servicePort, rfl, rfl, rfl, rfl, rfl, service_offers_iff.2 rfl, rfl⟩
  namespaces := ⟨rfl, rfl, rfl⟩

/-- The dependents of instances of different names stand apart. -/
theorem standApart (hname : i.name ≠ j.name) : StandApart i.dependents j.dependents where
  pods := by
    intro kind kind' pod hpod hchoose
    rw [get_dependents] at hpod hchoose
    -- the pods bear the name of their instance as a label, and the selectors ask for it
    obtain ⟨-, rfl⟩ := labelsPods_iff.1 hpod
    exact hname (labels_metBy_iff.1 (mayChoose_imp hchoose))
  names := by
    have hnames : ∀ i : Identity, i.dependents.names = Kind.ordered.map (dependentName i.name) :=
      fun i => rfl
    have hnodup : ∀ i : Identity, (Kind.ordered.map (dependentName i.name)).Nodup := by
      intro i
      refine List.Pairwise.map _ ?_ Kind.nodup_ordered
      intro k l hne h
      exact hne (dependentName_eq_iff.1 h).2
    rw [hnames, hnames, List.nodup_append]
    refine ⟨hnodup i, hnodup j, ?_⟩
    intro mine hmine theirs htheirs h
    obtain ⟨k, -, rfl⟩ := List.mem_map.1 hmine
    obtain ⟨l, -, rfl⟩ := List.mem_map.1 htheirs
    exact hname (dependentName_eq_iff.1 h).1

end Identity

/-! ## The result -/

/-- An instance whose desired state can be derived has an identity, with a good name, and what is
desired are the dependents of this identity. -/
theorem exists_good_identity {i : Instance} {desired : PerKind Dependent}
    (h : desiredState i = .ok desired) :
    ∃ identity : Identity, i.metadata.name = some identity.name ∧
      i.metadata.ns = some identity.ns ∧ GoodName identity.name ∧
      desired = identity.dependents := by
  have hacceptable : i.metadata.Acceptable :=
    (derivedState_ok_iff hasReferences_managingReference?).1 ⟨desired, h⟩
  obtain ⟨identity, hidentity, hget⟩ := exists_identity_of_desiredState h
  obtain ⟨hname, hns, -⟩ := Identity.metadata_of_ofInstance hidentity
  refine ⟨identity, hname, hns, ?_, ?_⟩
  · obtain ⟨name, -, -, hgiven, -, -, hgood⟩ := hacceptable
    rw [Option.some.inj (hname.symm.trans hgiven.1)]
    exact hgood
  · have hdeployment := hget .deployment
    have hservice := hget .service
    have hingress := hget .ingress
    cases desired
    cases hdeployment
    cases hservice
    cases hingress
    rfl

/-- **The dependents of an instance fit together.** The pods that the deployment makes are chosen by
it and by the service, the service forwards to a port of theirs, the ingress leads to that service
by its name and at a port that it offers, and all three lie in the instance's namespace. The
dependents of two instances of different names stand apart: none chooses a pod of the other's, and
their six names are different. The service has an accepted name, and all values of labels are
accepted as well if the instance's own name is one that the cluster accepts. -/
theorem dependents_fit :
    (∀ i desired, desiredState i = .ok desired → ∃ name ns d s g,
      i.metadata.name = some name ∧ i.metadata.ns = some ns ∧
      desired = ⟨.deployment d, .service s, .ingress g⟩ ∧ Fits d s g ns ∧
      (SubdomainText name → ∀ kind labels, (desired.get kind).Bears labels →
        ∀ e ∈ labels.entries, LabelValue e.2) ∧
      ∃ serviceName, s.metadata.name = some serviceName ∧ LabelText serviceName) ∧
    ∀ i j desired desired', desiredState i = .ok desired → desiredState j = .ok desired' →
      i.metadata.name ≠ j.metadata.name → StandApart desired desired' := by
  constructor
  · intro i desired h
    obtain ⟨identity, hname, hns, hgood, rfl⟩ := exists_good_identity h
    refine ⟨identity.name, identity.ns, identity.deployment, identity.service, identity.ingress,
      hname, hns, rfl, identity.fits, ?_, _, rfl, labelText_service_iff.2 hgood⟩
    intro haccepted kind labels hbears
    rw [Identity.get_dependents] at hbears
    exact Identity.labelValue_of_bears hgood haccepted hbears
  · intro i j desired desired' hi hj hne
    obtain ⟨identity, hname, -, -, rfl⟩ := exists_good_identity hi
    obtain ⟨identity', hname', -, -, rfl⟩ := exists_good_identity hj
    rw [hname, hname'] at hne
    exact Identity.standApart fun h => hne (congrArg some h)

section neighbours

/-- An instance, and one that is called like the service of the first. -/
private def neighbour : Identity := ⟨"app1", "demo", "u-1"⟩

private def namesake : Identity := ⟨"app1-service", "demo", "u-2"⟩

/-- The names of two instances may differ by the suffix of a kind, and their dependents stand apart
all the same. -/
theorem namesake_stands_apart :
    desiredState neighbour.bare = .ok neighbour.dependents ∧
    desiredState namesake.bare = .ok namesake.dependents ∧
    StandApart neighbour.dependents namesake.dependents ∧
    Fits neighbour.deployment neighbour.service neighbour.ingress "demo" ∧
    ∀ e ∈ neighbour.labels.entries, LabelValue e.2 := by
  have hneighbour : desiredState neighbour.bare = .ok neighbour.dependents := rfl
  have hnamesake : desiredState namesake.bare = .ok namesake.dependents := rfl
  obtain ⟨hfit, hapart⟩ := dependents_fit
  obtain ⟨name, ns, d, s, g, hname, hns, hdesired, hfits, hvalues, -⟩ := hfit _ _ hneighbour
  cases hname
  cases hns
  cases hdesired
  refine ⟨hneighbour, hnamesake, hapart _ _ _ _ hneighbour hnamesake (by decide), hfits, ?_⟩
  have haccepted : SubdomainText "app1" := Dns.isSubdomain_iff.1 (by decide)
  exact hvalues haccepted .ingress _ (.own rfl)

end neighbours

end InstanceOperator
