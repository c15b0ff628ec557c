import InstanceOperator.Desired.State
import InstanceOperator.Proofs.Json.Member

/-!
# Reading back objects

What is written for an object reads as that object. For metadata this takes points in time and
records of managers that have been read before, since these are brought into one form in reading;
the parts of deployments, services and ingresses are read back where nothing is only carried along,
as in everything that is made for an instance.

* `Metadata.readsBack`: metadata, for all objects.
* `Base.readsBack_dependent`: the dependents of an instance.
* `Instance.readsBack`: instances.
-/

namespace InstanceOperator

open Json (ReadsBack)

/-! ## Labels -/

namespace Labels

/-- An entry whose key is above all others is put behind them. -/
theorem insertEntry_of_lt {key value : String} {es : List (String × String)}
    (h : ∀ e ∈ es, e.1 < key) : insertEntry key value es = es ++ [(key, value)] := by
  induction es with
  | nil => rfl
  | cons e es ih =>
    have hlt : e.1 < key := h e List.mem_cons_self
    have hnot : ¬ key < e.1 := String.lt_asymm hlt
    have hne : key ≠ e.1 := by
      intro heq
      rw [heq] at hlt
      exact String.lt_irrefl _ hlt
    rw [insertEntry, if_neg hnot, if_neg hne, ih fun e' he' => h e' (List.mem_cons_of_mem _ he')]
    rfl

/-- Entries in order are put behind what is there, if they are above it. -/
theorem entries_foldl {es : List (String × String)} (hsorted : es.Pairwise (fun a b => a.1 < b.1))
    {l : Labels} (habove : ∀ e ∈ es, ∀ e' ∈ l.entries, e'.1 < e.1) :
    (es.foldl (fun l e => l.insert e.1 e.2) l).entries = l.entries ++ es := by
  induction es generalizing l with
  | nil => simp
  | cons e es ih =>
    obtain ⟨hfirst, hrest⟩ := List.pairwise_cons.1 hsorted
    have hput : (l.insert e.1 e.2).entries = l.entries ++ [e] :=
      insertEntry_of_lt (habove e List.mem_cons_self)
    have habove' : ∀ e' ∈ es, ∀ e'' ∈ (l.insert e.1 e.2).entries, e''.1 < e'.1 := by
      intro e' he' e'' he''
      rw [hput] at he''
      rcases List.mem_append.1 he'' with he'' | he''
      · exact habove e' (List.mem_cons_of_mem _ he') e'' he''
      · rw [List.mem_singleton.1 he'']
        exact hfirst e' he'
    rw [List.foldl_cons, ih hrest habove', hput, List.append_assoc]
    rfl

/-- The entries of a map are sorted already, so that making a map of them changes nothing. -/
theorem ofList_entries (l : Labels) : ofList l.entries = l := by
  have hentries : (ofList l.entries).entries = l.entries :=
    entries_foldl l.sorted (by intro e _ e' he'; cases he')
  cases l
  cases hl : ofList _
  rw [hl] at hentries
  cases hentries
  rfl

theorem mapM_entries (es : List (String × String)) :
    (es.map fun e => (e.1, Json.str e.2)).mapM (fun m => (Json.str? m.2).map (m.1, ·)) =
      some es := by
  induction es with
  | nil => rfl
  | cons e es ih =>
    rw [List.map_cons, List.mapM_cons, ih]
    rfl

theorem readsBack (l : Labels) : ReadsBack ofJson? toJson l := by
  refine ⟨?_, by simp [toJson]⟩
  rw [toJson, ofJson?, mapM_entries, Option.map_some, ofList_entries]

end Labels

@[simp] theorem Json.lastOf_labels (v : Option Labels) :
    lastOf Labels.ofJson? (v.map Labels.toJson).toList = some v :=
  lastOf_given fun l _ => l.readsBack

/-! ## Fields that are only carried along -/

/-- Where no field is given, and none is required, none is carried along. -/
theorem Shape.readFields_eq_nil {fields : List (String × Bool × Shape)}
    {members : List (String × Json)}
    (h : ∀ f ∈ fields, f.2.1 = false ∧ Json.findAll f.1 members = []) :
    readFields fields members = some [] := by
  induction fields with
  | nil => rfl
  | cons f fields ih =>
    obtain ⟨name, isRequired, shape⟩ := f
    obtain ⟨hoptional, hnone⟩ := h _ List.mem_cons_self
    have hrest := ih fun f hf => h f (List.mem_cons_of_mem _ hf)
    simp only at hoptional hnone
    simp only [readFields, Json.optional, hnone, Json.lastOf, hrest, hoptional]
    rfl

/-- Nothing is carried along among members that bear other names. -/
theorem Shape.readFields_given {fields : List (String × Bool × Shape)}
    {members : List (String × Option Json)} (names : List String)
    (hfree : ∀ f ∈ fields, f.2.1 = false ∧ f.1 ∉ names) (hnames : members.map (·.1) = names) :
    readFields fields (Json.given members) = some [] := by
  apply readFields_eq_nil
  intro f hf
  have hf' : f.2.1 = false ∧ f.1 ∉ names := hfree f hf
  rw [← hnames] at hf'
  exact ⟨hf'.1, Json.findAll_given_of_not_mem hf'.2⟩

/-! ## Metadata -/

theorem OwnerReference.readsBack (o : OwnerReference) : ReadsBack ofJson? toJson o := by
  refine ⟨?_, by simp [toJson, Json.ofMembers]⟩
  simp [ofJson?, toJson, Json.ofMembers_eq, Json.optional, Json.required]

namespace Metadata

/-- Points in time and records of managers are as they are when they have been read. -/
structure Settled (m : Metadata) : Prop where
  created : ∀ t, m.creationTimestamp = some t → Timestamp.read? t.text = some t
  deleted : ∀ t, m.deletionTimestamp = some t → Timestamp.read? t.text = some t
  managed : ∀ fs, m.managedFields = some fs →
    ∀ f ∈ fs, Shape.read Shape.managedFields f = some f

/-- A point in time is read back if reading it again does not change it. -/
theorem readsBack_timestamp {t : Timestamp} (h : Timestamp.read? t.text = some t) :
    ReadsBack timestamp? (fun t => .str t.text) t := by
  refine ⟨?_, by simp⟩
  unfold timestamp?
  rw [Json.str?, Option.bind_some, h]

/-- Metadata are read back if their points in time and records of managers are. -/
theorem readsBack {m : Metadata} (h : m.Settled) : ReadsBack ofJson? toJson m := by
  refine ⟨?_, by simp [toJson, Json.ofMembers]⟩
  have hcreated := Json.lastOf_given fun t ht => readsBack_timestamp (h.created t ht)
  have hdeleted := Json.lastOf_given fun t ht => readsBack_timestamp (h.deleted t ht)
  have hfinalizers : Json.lastOf (Json.list? Json.str?)
      (m.finalizers.map fun fs => .arr (fs.map .str)).toList = some m.finalizers :=
    Json.lastOf_given fun fs _ => Json.readsBack_list fun f _ => (Json.readsBack_str f).read_write
  have hmanaged : Json.lastOf (Json.list? (Shape.read Shape.managedFields))
      (m.managedFields.map .arr).toList = some m.managedFields := by
    apply Json.lastOf_given
    intro fs hfs
    refine ⟨?_, by simp⟩
    have hback : Json.list? (Shape.read Shape.managedFields) (.arr (fs.map id)) = some fs :=
      (Json.readsBack_list (h.managed fs hfs)).read_write
    rw [List.map_id] at hback
    exact hback
  have howners : Json.lastOf (Json.list? OwnerReference.ofJson?)
      (m.ownerReferences.map fun os => .arr (os.map OwnerReference.toJson)).toList =
        some m.ownerReferences :=
    Json.lastOf_given fun os _ => Json.readsBack_list fun o _ => o.readsBack.read_write
  simp [ofJson?, toJson, Json.ofMembers_eq, Json.optional, hcreated, hdeleted, hfinalizers,
    hmanaged, howners]

end Metadata

/-! ## Deployments -/

/-- A port is read back if nothing is carried along with it. -/
theorem ContainerPort.readsBack {p : ContainerPort} (hp : p.carried = []) :
    ReadsBack ofJson? toJson p := by
  refine ⟨?_, by simp [toJson, Json.ofMembers]⟩
  cases p with
  | mk port name carried =>
    subst hp
    -- none of the members that are written bears the name of a carried field
    have hcarried : Shape.readFields fields (Json.given
        [("containerPort", some (Json.ofInt32 port)), ("name", Json.ofStr? name)]) = some [] :=
      Shape.readFields_given ["containerPort", "name"] (by decide) rfl
    simp [ofJson?, toJson, Json.ofMembers_eq, Json.optional, Json.required, hcarried]

/-- A container is read back if its ports are and nothing is carried along with it. -/
theorem Container.readsBack {c : Container} (hc : c.carried = [])
    (hports : ∀ ps, c.ports = some ps → ∀ p ∈ ps, p.carried = []) :
    ReadsBack ofJson? toJson c := by
  refine ⟨?_, by simp [toJson, Json.ofMembers]⟩
  cases c with
  | mk name image ports carried =>
    subst hc
    have hback : Json.lastOf (Json.list? ContainerPort.ofJson?)
        (ports.map fun ps => .arr (ps.map ContainerPort.toJson)).toList = some ports :=
      Json.lastOf_given fun ps hps =>
        Json.readsBack_list fun p hp => (ContainerPort.readsBack (hports ps hps p hp)).read_write
    have hcarried : Shape.readFields Shape.containerFields (Json.given
        [("image", Json.ofStr? image), ("name", some (.str name)),
          ("ports", ports.map fun ps => .arr (ps.map ContainerPort.toJson))]) = some [] :=
      Shape.readFields_given ["image", "name", "ports"] (by decide) rfl
    simp [ofJson?, toJson, Json.ofMembers_eq, Json.optional, Json.required, hback, hcarried]

/-- The specification of a pod is read back if its containers are and nothing is carried along. -/
theorem PodSpec.readsBack {s : PodSpec} (hs : s.carried = [])
    (hcontainers : ∀ c ∈ s.containers, ReadsBack Container.ofJson? Container.toJson c) :
    ReadsBack ofJson? toJson s := by
  refine ⟨?_, by simp [toJson, Json.ofMembers]⟩
  cases s with
  | mk containers carried =>
    subst hs
    have hback : Json.lastOf (Json.list? Container.ofJson?)
        [.arr (containers.map Container.toJson)] = some (some containers) :=
      Json.lastOf_required (Json.readsBack_list fun c hc => (hcontainers c hc).read_write)
    have hcarried : Shape.readFields Shape.podFields (Json.given
        [("containers", some (.arr (containers.map Container.toJson)))]) = some [] :=
      Shape.readFields_given ["containers"] (by decide) rfl
    simp [ofJson?, toJson, Json.ofMembers_eq, Json.optional, Json.required, hback, hcarried]

/-- A template of pods is read back if its parts are. -/
theorem PodTemplate.readsBack {t : PodTemplate} (hmetadata : ∀ m, t.metadata = some m → m.Settled)
    (hspec : ∀ s, t.spec = some s → ReadsBack PodSpec.ofJson? PodSpec.toJson s) :
    ReadsBack ofJson? toJson t := by
  refine ⟨?_, by simp [toJson, Json.ofMembers]⟩
  have hback : Json.lastOf Metadata.ofJson? (t.metadata.map Metadata.toJson).toList =
      some t.metadata :=
    Json.lastOf_given fun m hm => Metadata.readsBack (hmetadata m hm)
  have hback' : Json.lastOf PodSpec.ofJson? (t.spec.map PodSpec.toJson).toList = some t.spec :=
    Json.lastOf_given hspec
  simp [ofJson?, toJson, Json.ofMembers_eq, Json.optional, hback, hback']

/-- A selector is read back if nothing is carried along with it. -/
theorem LabelSelector.readsBack {s : LabelSelector} (hs : s.carried = []) :
    ReadsBack ofJson? toJson s := by
  refine ⟨?_, by simp [toJson, Json.ofMembers]⟩
  cases s with
  | mk labels carried =>
    subst hs
    have hcarried : Shape.readFields fields (Json.given
        [("matchLabels", labels.map Labels.toJson)]) = some [] :=
      Shape.readFields_given ["matchLabels"] (by decide) rfl
    simp [ofJson?, toJson, Json.ofMembers_eq, Json.optional, hcarried]

/-- The specification of a deployment is read back if its parts are and nothing is carried
along. -/
theorem DeploymentSpec.readsBack {s : DeploymentSpec} (hs : s.carried = [])
    (hselector : s.selector.carried = [])
    (htemplate : ReadsBack PodTemplate.ofJson? PodTemplate.toJson s.template) :
    ReadsBack ofJson? toJson s := by
  refine ⟨?_, by simp [toJson, Json.ofMembers]⟩
  cases s with
  | mk replicas selector template carried =>
    subst hs
    have hback := Json.lastOf_required (LabelSelector.readsBack hselector)
    have hback' := Json.lastOf_required htemplate
    have hcarried : Shape.readFields fields (Json.given
        [("replicas", replicas.map Json.ofInt32), ("selector", some selector.toJson),
          ("template", some template.toJson)]) = some [] :=
      Shape.readFields_given ["replicas", "selector", "template"] (by decide) rfl
    simp only at hback hback'
    simp [ofJson?, toJson, Json.ofMembers_eq, Json.optional, Json.required, hback, hback', hcarried]

/-- A deployment is read back if its parts are and nothing is carried along with it. -/
theorem Deployment.readsBack {d : Deployment} (hd : d.carried = []) (hmetadata : d.metadata.Settled)
    (hspec : ∀ s, d.spec = some s → ReadsBack DeploymentSpec.ofJson? DeploymentSpec.toJson s) :
    ofJson? d.toJson = some d := by
  cases d with
  | mk metadata spec carried =>
    subst hd
    have hback := Json.lastOf_required (Metadata.readsBack hmetadata)
    have hback' := Json.lastOf_given hspec
    have hcarried : Shape.readFields fields (Json.given
        [("apiVersion", some (.str "apps/v1")), ("kind", some (.str "Deployment")),
          ("metadata", some metadata.toJson), ("spec", spec.map DeploymentSpec.toJson)]) =
        some [] :=
      Shape.readFields_given ["apiVersion", "kind", "metadata", "spec"] (by decide) rfl
    simp only at hback hback'
    simp [ofJson?, toJson, Json.ofMembers_eq, Json.optional, Json.required, Json.allEqual, hback,
      hback', hcarried]

/-! ## Services -/

/-- A port target is read back as the number or the name that it is. -/
theorem PortTarget.readsBack (t : PortTarget) : ReadsBack ofJson? toJson t := by
  cases t with
  | number n =>
    refine ⟨?_, by simp [toJson, Json.ofInt32]⟩
    have hback : Json.int32? (Json.ofInt32 n) = some n := (Json.readsBack_int32 n).read_write
    rw [Json.ofInt32] at hback
    rw [toJson, Json.ofInt32, ofJson?, hback]
    · rfl
    · intro s hs
      cases hs
  | name s => exact ⟨rfl, by simp [toJson]⟩

/-- A port is read back if nothing is carried along with it. -/
theorem ServicePort.readsBack {p : ServicePort} (hp : p.carried = []) :
    ReadsBack ofJson? toJson p := by
  refine ⟨?_, by simp [toJson, Json.ofMembers]⟩
  cases p with
  | mk name port protocol target carried =>
    subst hp
    have hback : Json.lastOf PortTarget.ofJson? (target.map PortTarget.toJson).toList =
        some target :=
      Json.lastOf_given fun t _ => t.readsBack
    have hcarried : Shape.readFields fields (Json.given
        [("name", Json.ofStr? name), ("port", some (Json.ofInt32 port)),
          ("protocol", Json.ofStr? protocol), ("targetPort", target.map PortTarget.toJson)]) =
        some [] :=
      Shape.readFields_given ["name", "port", "protocol", "targetPort"] (by decide) rfl
    simp [ofJson?, toJson, Json.ofMembers_eq, Json.optional, Json.required, hback, hcarried]

/-- The specification of a service is read back if nothing is carried along with it and its
ports. -/
theorem ServiceSpec.readsBack {s : ServiceSpec} (hs : s.carried = [])
    (hports : ∀ ps, s.ports = some ps → ∀ p ∈ ps, p.carried = []) :
    ReadsBack ofJson? toJson s := by
  refine ⟨?_, by simp [toJson, Json.ofMembers]⟩
  cases s with
  | mk ports selector type carried =>
    subst hs
    have hback : Json.lastOf (Json.list? ServicePort.ofJson?)
        (ports.map fun ps => .arr (ps.map ServicePort.toJson)).toList = some ports :=
      Json.lastOf_given fun ps hps =>
        Json.readsBack_list fun p hp => (ServicePort.readsBack (hports ps hps p hp)).read_write
    have hcarried : Shape.readFields fields (Json.given
        [("ports", ports.map fun ps => .arr (ps.map ServicePort.toJson)),
          ("selector", selector.map Labels.toJson), ("type", Json.ofStr? type)]) = some [] :=
      Shape.readFields_given ["ports", "selector", "type"] (by decide) rfl
    simp [ofJson?, toJson, Json.ofMembers_eq, Json.optional, hback, hcarried]

/-- A service is read back if its parts are and nothing is carried along with it. -/
theorem Service.readsBack {s : Service} (hs : s.carried = []) (hmetadata : s.metadata.Settled)
    (hspec : ∀ p, s.spec = some p → ReadsBack ServiceSpec.ofJson? ServiceSpec.toJson p) :
    ofJson? s.toJson = some s := by
  cases s with
  | mk metadata spec carried =>
    subst hs
    have hback := Json.lastOf_required (Metadata.readsBack hmetadata)
    have hback' := Json.lastOf_given hspec
    have hcarried : Shape.readFields fields (Json.given
        [("apiVersion", some (.str "v1")), ("kind", some (.str "Service")),
          ("metadata", some metadata.toJson), ("spec", spec.map ServiceSpec.toJson)]) = some [] :=
      Shape.readFields_given ["apiVersion", "kind", "metadata", "spec"] (by decide) rfl
    simp only at hback hback'
    simp [ofJson?, toJson, Json.ofMembers_eq, Json.optional, Json.required, Json.allEqual, hback,
      hback', hcarried]

/-! ## Ingresses -/

theorem BackendPort.readsBack (p : BackendPort) : ReadsBack ofJson? toJson p := by
  refine ⟨?_, by simp [toJson, Json.ofMembers]⟩
  simp [ofJson?, toJson, Json.ofMembers_eq, Json.optional]

theorem BackendService.readsBack (s : BackendService) : ReadsBack ofJson? toJson s := by
  refine ⟨?_, by simp [toJson, Json.ofMembers]⟩
  have hback : Json.lastOf BackendPort.ofJson? (s.port.map BackendPort.toJson).toList =
      some s.port :=
    Json.lastOf_given fun p _ => p.readsBack
  simp [ofJson?, toJson, Json.ofMembers_eq, Json.optional, Json.required, hback]

/-- A backend is read back if nothing is carried along with it. -/
theorem IngressBackend.readsBack {b : IngressBackend} (hb : b.carried = []) :
    ReadsBack ofJson? toJson b := by
  refine ⟨?_, by simp [toJson, Json.ofMembers]⟩
  cases b with
  | mk service carried =>
    subst hb
    have hback : Json.lastOf BackendService.ofJson? (service.map BackendService.toJson).toList =
        some service :=
      Json.lastOf_given fun s _ => s.readsBack
    have hcarried : Shape.readFields fields (Json.given
        [("service", service.map BackendService.toJson)]) = some [] :=
      Shape.readFields_given ["service"] (by decide) rfl
    simp [ofJson?, toJson, Json.ofMembers_eq, Json.optional, hback, hcarried]

/-- A path is read back if nothing is carried along with its backend. -/
theorem IngressPath.readsBack {p : IngressPath} (hp : p.backend.carried = []) :
    ReadsBack ofJson? toJson p := by
  refine ⟨?_, by simp [toJson, Json.ofMembers]⟩
  have hback := Json.lastOf_required (IngressBackend.readsBack hp)
  simp [ofJson?, toJson, Json.ofMembers_eq, Json.optional, Json.required, hback]

/-- A rule is read back if nothing is carried along with the backends of its paths. -/
theorem IngressRule.readsBack {r : IngressRule}
    (hr : ∀ ps, r.paths = some ps → ∀ p ∈ ps, p.backend.carried = []) :
    ReadsBack ofJson? toJson r := by
  refine ⟨?_, by simp [toJson, Json.ofMembers]⟩
  have hback : Json.lastOf httpPaths?
      (r.paths.map fun ps => .obj [("paths", .arr (ps.map IngressPath.toJson))]).toList =
        some r.paths := by
    apply Json.lastOf_given
    intro ps hps
    refine ⟨?_, by simp⟩
    have hpaths : Json.lastOf (Json.list? IngressPath.ofJson?)
        [.arr (ps.map IngressPath.toJson)] = some (some ps) :=
      Json.lastOf_required
        (Json.readsBack_list fun p hp => (IngressPath.readsBack (hr ps hps p hp)).read_write)
    simp [httpPaths?, Json.required, Json.optional, Json.findAll, hpaths]
  simp [ofJson?, toJson, Json.ofMembers_eq, Json.optional, hback]

/-- The specification of an ingress is read back if its rules are and nothing is carried along. -/
theorem IngressSpec.readsBack {s : IngressSpec} (hs : s.carried = [])
    (hrules : ∀ rs, s.rules = some rs →
      ∀ r ∈ rs, ReadsBack IngressRule.ofJson? IngressRule.toJson r) :
    ReadsBack ofJson? toJson s := by
  refine ⟨?_, by simp [toJson, Json.ofMembers]⟩
  cases s with
  | mk rules carried =>
    subst hs
    have hback : Json.lastOf (Json.list? IngressRule.ofJson?)
        (rules.map fun rs => .arr (rs.map IngressRule.toJson)).toList = some rules :=
      Json.lastOf_given fun rs hrs =>
        Json.readsBack_list fun r hr => (hrules rs hrs r hr).read_write
    have hcarried : Shape.readFields fields (Json.given
        [("rules", rules.map fun rs => .arr (rs.map IngressRule.toJson))]) = some [] :=
      Shape.readFields_given ["rules"] (by decide) rfl
    simp [ofJson?, toJson, Json.ofMembers_eq, Json.optional, hback, hcarried]

/-- An ingress is read back if its parts are and nothing is carried along with it. -/
theorem Ingress.readsBack {i : Ingress} (hi : i.carried = []) (hmetadata : i.metadata.Settled)
    (hspec : ∀ s, i.spec = some s → ReadsBack IngressSpec.ofJson? IngressSpec.toJson s) :
    ofJson? i.toJson = some i := by
  cases i with
  | mk metadata spec carried =>
    subst hi
    have hback := Json.lastOf_required (Metadata.readsBack hmetadata)
    have hback' := Json.lastOf_given hspec
    have hcarried : Shape.readFields fields (Json.given
        [("apiVersion", some (.str "networking.k8s.io/v1")), ("kind", some (.str "Ingress")),
          ("metadata", some metadata.toJson), ("spec", spec.map IngressSpec.toJson)]) = some [] :=
      Shape.readFields_given ["apiVersion", "kind", "metadata", "spec"] (by decide) rfl
    simp only at hback hback'
    simp [ofJson?, toJson, Json.ofMembers_eq, Json.optional, Json.required, Json.allEqual, hback,
      hback', hcarried]

/-! ## Instances -/

/-- An empty placeholder is left out in writing, and what is left out reads as empty. -/
theorem InstanceSpec.read_write (s : InstanceSpec) : ofJson? s.toJson = some s := by
  cases s with
  | mk foo =>
    by_cases hfoo : foo = ""
    · simp [ofJson?, toJson, Json.ofMembers_eq, Json.single?, hfoo]
    · simp [ofJson?, toJson, Json.ofMembers_eq, Json.single?, hfoo]

/-- What is written for an instance reads as the instance with what its metadata are read back as. -/
theorem Instance.ofJson?_toJson (i : Instance) :
    ofJson? i.toJson = (Metadata.ofJson? i.metadata.toJson).map fun m => { i with metadata := m } := by
  -- specification and status are read back, so the metadata alone decide
  have hspec : InstanceSpec.ofJson? i.spec.toJson = some i.spec := i.spec.read_write
  cases i with
  | mk metadata spec status =>
    simp only at hspec
    cases hmetadata : Metadata.ofJson? metadata.toJson <;> cases status <;>
      simp [ofJson?, toJson, Json.ofMembers_eq, Json.single?, hmetadata, hspec, status?,
        InstanceStatus.toJson, InstanceStatus.ofJson?]

/-- **An instance whose metadata are settled is read back as it is.** -/
theorem Instance.readsBack {i : Instance} (hi : i.metadata.Settled) :
    ofJson? i.toJson = some i := by
  rw [ofJson?_toJson, (Metadata.readsBack hi).read_write]
  rfl

/-! ## What is made for an instance -/

namespace Base

/-- What is built has neither points in time nor records of managers. -/
theorem settled_metadata (b : Base) (kind : Kind) : (b.metadata kind).Settled := by
  constructor <;> simp [metadata]

/-- The built deployment carries nothing along, and is read back part by part. -/
theorem readsBack_deployment (b : Base) :
    Deployment.ofJson? b.deployment.toJson = some b.deployment := by
  have hcontainer : ReadsBack Container.ofJson? Container.toJson Identity.container :=
    Container.readsBack rfl (by simp [Identity.container])
  have hpods : ReadsBack PodSpec.ofJson? PodSpec.toJson { containers := [Identity.container] } :=
    PodSpec.readsBack rfl (by simpa using hcontainer)
  have htemplate : ReadsBack PodTemplate.ofJson? PodTemplate.toJson
      { metadata := some { labels := some b.labels }
        spec := some { containers := [Identity.container] } } := by
    apply PodTemplate.readsBack
    · intro m hm
      cases hm
      constructor <;> simp
    · intro s hs
      cases hs
      exact hpods
  apply Deployment.readsBack rfl (b.settled_metadata .deployment)
  intro s hs
  cases hs
  exact DeploymentSpec.readsBack rfl rfl htemplate

theorem readsBack_service (b : Base) : Service.ofJson? b.service.toJson = some b.service := by
  apply Service.readsBack rfl (b.settled_metadata .service)
  intro s hs
  cases hs
  exact ServiceSpec.readsBack rfl (by simp [Identity.servicePort])

theorem readsBack_ingress (b : Base) : Ingress.ofJson? b.ingress.toJson = some b.ingress := by
  have hrule : ReadsBack IngressRule.ofJson? IngressRule.toJson { paths := some [b.route] } :=
    IngressRule.readsBack (by simp [Identity.route])
  apply Ingress.readsBack rfl (b.settled_metadata .ingress)
  intro s hs
  cases hs
  exact IngressSpec.readsBack rfl (by simpa using hrule)

/-- **What is made for an instance is read back as it is.** -/
theorem readsBack_dependent (b : Base) (kind : Kind) :
    Dependent.ofJson? kind (b.dependent kind).toJson = some (b.dependent kind) := by
  cases kind with
  | deployment => simp [Dependent.ofJson?, Dependent.toJson, dependent, b.readsBack_deployment]
  | service => simp [Dependent.ofJson?, Dependent.toJson, dependent, b.readsBack_service]
  | ingress => simp [Dependent.ofJson?, Dependent.toJson, dependent, b.readsBack_ingress]

end Base

end InstanceOperator
