import InstanceOperator.Proofs.Object.ReadBack
import InstanceOperator.Proofs.Store.Address
import InstanceOperator.Proofs.Store.Calm
import InstanceOperator.Proofs.Store.Server

/-!
# The two stores agree

The store of a cluster answers a call by way of requests and replies, the store in memory by looking
it up. Started from the same content they give the same answers, as long as keys are proper and what
is created is made for an instance. What ties them together is that at the path of every object the
cluster keeps what reads as the object held in memory (`SameContent`): the contents of the beginning
are of this kind (`Stocked.sameContent`), every call keeps it so (`SameContent.step`), and hence so
does every sequence of calls (`SameContent.run`).

* `Stocked.stores_agree`: the answers to any sequence of calls.
-/

namespace InstanceOperator

/-! ## Calls to a cluster -/

/-- A call to the store of a cluster: it becomes a request, which a server answers, or it cannot be
sent. -/
inductive Cluster.Serves (objects : Registry String Json) (c : Call) :
    c.Result → Registry String Json → Prop where
  | sent {request : Request} {reply : Reply} {objects' : Registry String Json}
      (hrequest : c.request = .ok request) (hanswer : Answers objects request reply objects') :
      Serves objects c (c.receive .whole reply) objects'
  | unsent {e : ClientError} (hrequest : c.request = .error e) :
      Serves objects c (c.classify (.error e)) objects

/-- The dependent is made for an instance. -/
def Dependent.Made (d : Dependent) : Prop :=
  ∃ i desired kind, desiredState i = .ok desired ∧ d = desired.get kind

/-- The key of the call is proper, and what it creates is made for an instance. -/
def Call.Proper : Call → Prop
  | .getInstance key => key.Proper
  | .get _ key => key.Proper
  | .create d => d.key.Proper ∧ d.Made

theorem Dependent.Made.exists_base {d : Dependent} (h : d.Made) :
    ∃ (b : Base) (kind : Kind), d = b.dependent kind := by
  rcases h with ⟨i, desired, kind, hdesired, hd⟩
  rcases exists_identity_of_desiredState hdesired with ⟨identity, -, hget⟩
  rw [hget] at hd
  exact ⟨identity.base, kind, hd⟩

/-- What is written for a dependent that is made for an instance reads as this dependent. -/
theorem Dependent.Made.read_write {d : Dependent} (h : d.Made) :
    ofJson? d.kind d.toJson = some d := by
  rcases h.exists_base with ⟨b, kind, hd⟩
  rw [hd, Base.kind_dependent, Base.readsBack_dependent]

/-- A dependent that is made for an instance is stored under the name of its key. -/
theorem Dependent.Made.nameOf_eq {d : Dependent} (h : d.Made) : nameOf d.toJson = d.key.name := by
  rcases h.exists_base with ⟨b, kind, hd⟩
  rw [hd, Base.nameOf_dependent, Base.key_dependent]

/-- A creation goes to the path at which the object is looked up. -/
theorem Dependent.Made.path_eq {d : Dependent} (h : d.Made) :
    objectPath (Address.ofDependent d.kind d.key).collection (nameOf d.toJson) =
      (Address.ofDependent d.kind d.key).path := by
  rw [h.nameOf_eq]
  rfl

/-! ## Contents -/

namespace MemoryStore

/-- What the store holds at an address. -/
def lookup? (s : MemoryStore) : (a : Address) → Option a.call.Value
  | .ofInstance key => s.instances.get? key
  | .ofDependent kind key => s.dependents.get? (kind, key)

/-- A store without failures answers what it holds, or that there is nothing. -/
theorem FailureFree.serve_call {s : MemoryStore} (hs : s.FailureFree) (a : Address) :
    s.serve a.call = (some (match s.lookup? a with
      | some v => .ok v
      | none => .error (.notFound a.call.target)), s.remember a.call) := by
  rw [serve_of_free (hs a.call)]
  cases a with
  | ofInstance key =>
    show (some ((s.remember (.getInstance key)).fulfil (.getInstance key)).1, _) = _
    unfold fulfil
    cases hi : s.instances.get? key <;> simp [remember, lookup?, hi, Address.call]
  | ofDependent kind key =>
    show (some ((s.remember (.get kind key)).fulfil (.get kind key)).1, _) = _
    unfold fulfil
    cases hd : s.dependents.get? (kind, key) <;> simp [remember, lookup?, hd, Address.call]

/-- A store without failures creates what it does not hold. -/
theorem FailureFree.serve_create {s : MemoryStore} (hs : s.FailureFree) {d : Dependent}
    (h : s.lookup? (.ofDependent d.kind d.key) = none) :
    ∃ t, s.Serves (.create d) (.ok ()) t ∧ t.instances = s.instances ∧
      t.dependents = s.dependents.insert (d.kind, d.key) d := by
  refine ⟨{ (s.remember (.create d)).addDependent d with creations := s.creations + 1 }, ?_, rfl,
    rfl⟩
  have hfree : s.dependents.contains (d.kind, d.key) = false := by
    have hnone : s.dependents.get? (d.kind, d.key) = none := h
    rw [Registry.contains, hnone]
    rfl
  rw [Serves, serve_of_free (hs _)]
  simp [fulfil, remember, hfree]

/-- A store without failures refuses to create what it holds. -/
theorem FailureFree.serve_create_held {s : MemoryStore} (hs : s.FailureFree) {d d' : Dependent}
    (h : s.lookup? (.ofDependent d.kind d.key) = some d') :
    s.Serves (.create d) (.error (.alreadyExists (Call.create d).target))
      (s.remember (.create d)) := by
  have hheld : s.dependents.contains (d.kind, d.key) = true := by
    have hsome : s.dependents.get? (d.kind, d.key) = some d' := h
    rw [Registry.contains, hsome]
    rfl
  rw [Serves, serve_of_free (hs _)]
  simp [fulfil, remember, hheld]

end MemoryStore

/-- At the path of every object of a proper key the cluster keeps what reads as the object held in
memory, or both have none. -/
def SameContent (objects : Registry String Json) (s : MemoryStore) : Prop :=
  ∀ a : Address, a.key.Proper → (objects.get? a.path).map a.call.read = (s.lookup? a).map some

namespace SameContent

variable {objects objects' : Registry String Json} {s t : MemoryStore}

/-- What the server keeps reads as something that is held in memory. -/
theorem of_kept (h : SameContent objects s) {a : Address} (ha : a.key.Proper) {object : Json}
    (hkept : objects.get? a.path = some object) :
    ∃ v, s.lookup? a = some v ∧ a.call.read object = some v := by
  have hsame := h a ha
  rw [hkept, Option.map_some] at hsame
  cases hheld : s.lookup? a with
  | none =>
    rw [hheld] at hsame
    cases hsame
  | some v =>
    rw [hheld] at hsame
    exact ⟨v, rfl, Option.some.inj hsame⟩

/-- Where the server keeps nothing, nothing is held in memory. -/
theorem of_free (h : SameContent objects s) {a : Address} (ha : a.key.Proper)
    (hfree : objects.get? a.path = none) : s.lookup? a = none := by
  have hsame := h a ha
  rw [hfree, Option.map_none] at hsame
  exact Option.map_eq_none_iff.1 hsame.symm

/-- Contents stay the same if what memory holds does not change. -/
theorem of_lookup? (h : SameContent objects s) (ht : ∀ a, t.lookup? a = s.lookup? a) :
    SameContent objects t := by
  intro a ha
  rw [ht a]
  exact h a ha

/-- Contents stay the same if one object is put into both. -/
theorem insert (h : SameContent objects s) {a : Address} (ha : a.key.Proper) {object : Json}
    {v : a.call.Value} (hread : a.call.read object = some v) (hself : t.lookup? a = some v)
    (hother : ∀ b, b ≠ a → t.lookup? b = s.lookup? b) :
    SameContent (objects.insert a.path object) t := by
  intro b hb
  rw [Registry.get?_insert]
  by_cases hba : b = a
  · subst hba
    rw [if_pos rfl, hself, Option.map_some, Option.map_some, hread]
  · -- what is put at one path is not seen at another
    have hpath : a.path ≠ b.path := by
      intro heq
      exact hba (Address.path_inj ha hb heq).symm
    rw [if_neg hpath, hother b hba]
    exact h b hb

/-- A dependent that is made for an instance is put into both. -/
theorem insert_made (h : SameContent objects s) {d : Dependent} (hkey : d.key.Proper)
    (hmade : d.Made) (hinstances : t.instances = s.instances)
    (hdependents : t.dependents = s.dependents.insert (d.kind, d.key) d) :
    SameContent (objects.insert (Address.ofDependent d.kind d.key).path d.toJson) t := by
  have hself : t.lookup? (.ofDependent d.kind d.key) = some d := by
    show t.dependents.get? (d.kind, d.key) = some d
    rw [hdependents, Registry.get?_insert, if_pos rfl]
  apply h.insert (a := .ofDependent d.kind d.key) hkey hmade.read_write hself
  intro b hb
  cases b with
  | ofInstance key =>
    show t.instances.get? key = s.instances.get? key
    rw [hinstances]
  | ofDependent kind key =>
    show t.dependents.get? (kind, key) = s.dependents.get? (kind, key)
    have hne : (d.kind, d.key) ≠ (kind, key) := by
      intro heq
      cases heq
      exact hb rfl
    rw [hdependents, Registry.get?_insert, if_neg hne]

/-- The two stores answer alike when they are asked for an object. -/
theorem step_call (h : SameContent objects s) (hs : s.FailureFree) {a : Address}
    (ha : a.key.Proper) {result : a.call.Result}
    (hserves : Cluster.Serves objects a.call result objects') :
    ∃ t, s.Serves a.call result t ∧ SameContent objects' t := by
  refine ⟨s.remember a.call, ?_⟩
  have hlookup : ∀ b, (s.remember a.call).lookup? b = s.lookup? b := by
    intro b
    cases b <;> rfl
  rw [MemoryStore.Serves, hs.serve_call a]
  cases hserves with
  | unsent hrequest =>
    -- the request for an object of a proper key can be sent
    rw [Address.request_call ha] at hrequest
    cases hrequest
  | sent hrequest hanswer =>
    rw [Address.request_call ha] at hrequest
    cases hrequest
    cases hanswer with
    | found hkept hbody =>
      rcases h.of_kept ha hkept with ⟨v, hheld, hread⟩
      rw [Call.receive_of_object _ (by decide) hbody hread, hheld]
      exact ⟨rfl, h.of_lookup? hlookup⟩
    | missing hfree hbody =>
      rw [Call.receive_of_missing _ hbody, h.of_free ha hfree]
      exact ⟨rfl, h.of_lookup? hlookup⟩

/-- The two stores answer alike when they are to create a dependent that is made for an instance. -/
theorem step_create (h : SameContent objects s) (hs : s.FailureFree) {d : Dependent}
    (hkey : d.key.Proper) (hmade : d.Made) {result : (Call.create d).Result}
    (hserves : Cluster.Serves objects (.create d) result objects') :
    ∃ t, s.Serves (.create d) result t ∧ SameContent objects' t := by
  have haddress : (Address.ofDependent d.kind d.key).key.Proper := hkey
  cases hserves with
  | unsent hrequest =>
    rw [Call.request_create hkey] at hrequest
    cases hrequest
  | sent hrequest hanswer =>
    rw [Call.request_create hkey] at hrequest
    cases hrequest
    cases hanswer with
    | stored hfree hbody =>
      have hread : (Call.create d).read d.toJson = some () := by
        show (Dependent.ofJson? d.kind d.toJson).map _ = _
        rw [hmade.read_write]
        rfl
      -- the server stores the object where it is looked up later
      rw [hmade.path_eq] at hfree ⊢
      rw [Call.receive_of_object _ (by decide) hbody hread]
      rcases hs.serve_create (h.of_free haddress hfree) with
        ⟨t, hcreated, hinstances, hdependents⟩
      exact ⟨t, hcreated, h.insert_made hkey hmade hinstances hdependents⟩
    | taken hkept hbody =>
      rw [hmade.path_eq] at hkept
      rw [Call.receive_of_taken _ hbody]
      rcases h.of_kept haddress hkept with ⟨d', hheld, -⟩
      refine ⟨_, hs.serve_create_held hheld, h.of_lookup? ?_⟩
      intro b
      cases b <;> rfl

/-- **One call.** What the store of the cluster answers, the store in memory answers as well, and
their contents stay the same. -/
theorem step (h : SameContent objects s) (hs : s.FailureFree) {c : Call} (hc : c.Proper)
    {result : c.Result} (hserves : Cluster.Serves objects c result objects') :
    ∃ t, s.Serves c result t ∧ SameContent objects' t := by
  cases c with
  | getInstance key => exact h.step_call (a := .ofInstance key) hs hc hserves
  | get kind key => exact h.step_call (a := .ofDependent kind key) hs hc hserves
  | create d => exact h.step_create hs hc.1 hc.2 hserves

end SameContent

/-! ## Sequences of calls -/

/-- The moves are the calls, one after the other, each with a result. -/
def Transcript : List Call → List Move → Prop
  | [], ms => ms = []
  | c :: cs, ms => ∃ result tail, ms = .asked c result :: tail ∧ Transcript cs tail

/-- What was answered was asked. -/
theorem Transcript.mem_of_asked {cs : List Call} {ms : List Move} (h : Transcript cs ms) {c : Call}
    {result : c.Result} (hm : .asked c result ∈ ms) : c ∈ cs := by
  induction cs generalizing ms with
  | nil =>
    have hms : ms = [] := h
    rw [hms] at hm
    cases hm
  | cons c' cs ih =>
    rcases h with ⟨result', tail, hms, hrest⟩
    rw [hms] at hm
    rcases List.mem_cons.1 hm with hm | hm
    · cases hm
      exact List.mem_cons_self
    · exact List.mem_cons_of_mem _ (ih hrest hm)

/-- A call that a server of a cluster serves is a call to the store of the cluster. -/
theorem Cluster.serves_serveBy {objects : Registry String Json} {server : Request → Reply}
    (hserver : ∀ request, ∃ objects', Answers objects request (server request) objects')
    (c : Call) : ∃ objects', Serves objects c (c.serveBy server) objects' := by
  unfold Call.serveBy
  cases hrequest : c.request with
  | error e => exact ⟨objects, .unsent hrequest⟩
  | ok request =>
    rcases hserver request with ⟨objects', hanswer⟩
    exact ⟨objects', .sent hrequest hanswer⟩

/-- The store of a cluster answers every call. -/
theorem Cluster.exists_serves (objects : Registry String Json) (c : Call) :
    ∃ result objects', Serves objects c result objects' := by
  -- the server of the rehearsal would answer
  have hserver : ∀ request, ∃ objects',
      Answers objects request ((ApiServer.mk objects).answer request).1 objects' := by
    intro request
    exact ⟨_, (ApiServer.mk objects).answers request⟩
  exact ⟨_, serves_serveBy hserver c⟩

/-- The store of a cluster answers every sequence of calls. -/
theorem Cluster.exists_run (cs : List Call) (objects : Registry String Json) :
    ∃ ms objects', Transcript cs ms ∧ Along Serves objects ms objects' := by
  induction cs generalizing objects with
  | nil => exact ⟨[], objects, rfl, rfl⟩
  | cons c cs ih =>
    rcases exists_serves objects c with ⟨result, between, hfirst⟩
    rcases ih between with ⟨ms, objects', hms, hrest⟩
    exact ⟨.asked c result :: ms, objects', ⟨result, ms, rfl, hms⟩, between, hfirst, hrest⟩

/-- The store in memory gives the same answers to the same calls. -/
theorem MemoryStore.transcript_unique {cs : List Call} {s t t' : MemoryStore} {ms ms' : List Move}
    (hms : Transcript cs ms) (hms' : Transcript cs ms') (h : Along Serves s ms t)
    (h' : Along Serves s ms' t') : ms = ms' := by
  induction cs generalizing s ms ms' with
  | nil =>
    have hnil : ms = [] := hms
    have hnil' : ms' = [] := hms'
    rw [hnil, hnil']
  | cons c cs ih =>
    rcases hms with ⟨result, tail, hms, hrest⟩
    rcases hms' with ⟨result', tail', hms', hrest'⟩
    rw [hms] at h ⊢
    rw [hms'] at h' ⊢
    rcases h with ⟨u, hserves, h⟩
    rcases h' with ⟨u', hserves', h'⟩
    -- serving is a function of the store and the call
    have hboth : (some result, u) = (some result', u') := Eq.trans (Eq.symm hserves) hserves'
    cases hboth
    rw [ih hrest hrest' h h']

namespace SameContent

variable {objects objects' : Registry String Json} {s : MemoryStore}

/-- **A sequence of calls.** What the store of the cluster answers, the store in memory answers as
well, and their contents stay the same. -/
theorem run (h : SameContent objects s) (hs : s.FailureFree) {cs : List Call}
    (hcs : ∀ c ∈ cs, c.Proper) {ms : List Move} (hms : Transcript cs ms)
    (halong : Along Cluster.Serves objects ms objects') :
    ∃ t, Along MemoryStore.Serves s ms t ∧ SameContent objects' t ∧ t.FailureFree := by
  induction cs generalizing objects s ms with
  | nil =>
    have hnil : ms = [] := hms
    rw [hnil] at halong ⊢
    have hend : objects' = objects := halong
    rw [hend]
    exact ⟨s, rfl, h, hs⟩
  | cons c cs ih =>
    rcases hms with ⟨result, tail, hms, hrest⟩
    rw [hms] at halong ⊢
    rcases halong with ⟨between, hserves, halong⟩
    -- the contents agree behind the first call again, so the rest goes on from there
    rcases h.step hs (hcs c List.mem_cons_self) hserves with ⟨u, hserves', hu⟩
    have hfree : u.FailureFree := hs.of_replies hserves'.replies
    have hcs' : ∀ c ∈ cs, c.Proper := fun c hc => hcs c (List.mem_cons_of_mem _ hc)
    rcases ih hu hfree hcs' hrest halong with ⟨t, halong', ht⟩
    exact ⟨t, ⟨u, hserves', halong'⟩, ht⟩

end SameContent

/-! ## The same beginning -/

/-- The two stores are filled alike: with instances, of which the cluster keeps what reads as the
instance, and with dependents that are made for instances, of which it keeps what is written for
them. -/
inductive Stocked : Registry String Json → MemoryStore → Prop where
  | empty : Stocked .empty {}
  | addInstance {objects : Registry String Json} {s : MemoryStore} (h : Stocked objects s)
      {key : ObjectKey} {i : Instance} {object : Json} (hkey : key.Proper)
      (hns : i.metadata.ns = some key.ns) (hname : i.metadata.name = some key.name)
      (hread : Instance.ofJson? object = some i) :
      Stocked (objects.insert i.path object) (s.addInstance i)
  | addDependent {objects : Registry String Json} {s : MemoryStore} (h : Stocked objects s)
      {d : Dependent} (hkey : d.key.Proper) (hmade : d.Made) :
      Stocked (objects.insert d.path d.toJson) (s.addDependent d)

namespace Stocked

variable {objects : Registry String Json} {s : MemoryStore}

/-- Nothing stands in the way of calls in the beginning. -/
theorem failureFree (h : Stocked objects s) : s.FailureFree := by
  induction h with
  | empty =>
    intro c
    cases c with
    | getInstance key => rfl
    | get kind key => exact PerKind.get_const none kind
    | create d => exact PerKind.get_const none d.kind
  | addInstance h hkey hns hname hread ih =>
    intro c
    have hc := ih c
    cases c <;> exact hc
  | addDependent h hkey hmade ih =>
    intro c
    have hc := ih c
    cases c <;> exact hc

/-- The contents are the same in the beginning. -/
theorem sameContent (h : Stocked objects s) : SameContent objects s := by
  induction h with
  | empty =>
    intro a ha
    cases a <;> rfl
  | @addInstance objects s h key i object hkey hns hname hread ih =>
    have hstored : MemoryStore.instanceKey i = key := by
      rw [MemoryStore.instanceKey, Metadata.nameAny, hns, hname]
      rfl
    -- the cluster files the instance by namespace and name, as the store in memory does
    have hpath : i.path = (Address.ofInstance key).path := by
      rw [Instance.path, hns, hname]
      rfl
    have hself : (s.addInstance i).lookup? (.ofInstance key) = some i := by
      show (s.addInstance i).instances.get? key = some i
      rw [MemoryStore.addInstance, hstored, Registry.get?_insert, if_pos rfl]
    rw [hpath]
    apply ih.insert (a := .ofInstance key) hkey hread hself
    intro b hb
    cases b with
    | ofInstance key' =>
      show (s.addInstance i).instances.get? key' = s.instances.get? key'
      have hne : key ≠ key' := by
        intro heq
        rw [heq] at hb
        exact hb rfl
      rw [MemoryStore.addInstance, hstored, Registry.get?_insert, if_neg hne]
    | ofDependent kind key' => rfl
  | addDependent h hkey hmade ih => exact ih.insert_made hkey hmade rfl rfl

/-- **The two stores agree.** Filled alike, they answer every sequence of calls with proper keys,
in which only dependents that are made for instances are created, with the same results, errors and
what they say included: there is one transcript, it is the one in memory, and the store of the
cluster has no other. Requests for different objects go to different paths. What has been created is
found as it was given. -/
theorem stores_agree (h : Stocked objects s) :
    (∀ cs : List Call, (∀ c ∈ cs, c.Proper) →
      ∃ ms, Transcript cs ms ∧ (∃ t, Along MemoryStore.Serves s ms t) ∧
        (∃ objects', Along Cluster.Serves objects ms objects') ∧
        ∀ ms' objects', Transcript cs ms' → Along Cluster.Serves objects ms' objects' →
          ms' = ms) ∧
    (∀ a b : Address, a.key.Proper → b.key.Proper → a ≠ b →
      ∃ target target', a.call.request = .ok (.fetch target) ∧
        b.call.request = .ok (.fetch target') ∧ target.path ≠ target'.path) ∧
    ∀ cs ms objects' d, (∀ c ∈ cs, c.Proper) → Transcript cs ms →
      Along Cluster.Serves objects ms objects' → .asked (.create d) (.ok ()) ∈ ms →
      (∃ result objects'', Cluster.Serves objects' (.get d.kind d.key) result objects'') ∧
        ∀ result objects'', Cluster.Serves objects' (.get d.kind d.key) result objects'' →
          result = .ok d := by
  have hfree : s.FailureFree := h.failureFree
  have hsame : SameContent objects s := h.sameContent
  refine ⟨?_, ?_, ?_⟩
  · intro cs hcs
    -- the run in memory is determined, and every run of the cluster is one in memory
    rcases Cluster.exists_run cs objects with ⟨ms, objects', hms, halong⟩
    rcases hsame.run hfree hcs hms halong with ⟨t, hmemory, -, -⟩
    refine ⟨ms, hms, ⟨t, hmemory⟩, ⟨objects', halong⟩, ?_⟩
    intro ms' objects'' hms' halong'
    rcases hsame.run hfree hcs hms' halong' with ⟨t', hmemory', -, -⟩
    exact MemoryStore.transcript_unique hms' hms hmemory' hmemory
  · intro a b ha hb hne
    refine ⟨_, _, Address.request_call ha, Address.request_call hb, ?_⟩
    intro hpath
    exact hne (Address.path_inj ha hb hpath)
  · intro cs ms objects' d hcs hms halong hcreated
    refine ⟨Cluster.exists_serves _ _, ?_⟩
    intro result objects'' hserves
    have hproper : (Call.create d).Proper := hcs _ (hms.mem_of_asked hcreated)
    rcases hsame.run hfree hcs hms halong with ⟨t, hmemory, ht, hfree'⟩
    -- what a creation has told in memory goes on to hold
    have hheld : (Move.asked (.create d) (.ok ())).Holds t :=
      (hfree.calm.holds_of_along hmemory).2 _ hcreated
    have hlookup : t.lookup? (.ofDependent d.kind d.key) = some d := hheld
    rcases ht.step (c := .get d.kind d.key) hfree' hproper.1 hserves with ⟨u, hfound, -⟩
    have hanswer := hfree'.serve_call (.ofDependent d.kind d.key)
    rw [hlookup] at hanswer
    have hboth := Eq.trans (Eq.symm hfound) hanswer
    cases hboth
    rfl

/-- An instance is fetched, its service is missed, created, found, and not created again. -/
theorem service_created_and_found :
    ∃ objects', Along Cluster.Serves
      (Registry.empty.insert (Identity.mk "mine" "prod" "u-1").bare.path
        (Identity.mk "mine" "prod" "u-1").bare.toJson)
      [.asked (.getInstance ⟨"prod", "mine"⟩) (.ok (Identity.mk "mine" "prod" "u-1").bare),
        .asked (.get .service ⟨"prod", "mine-service"⟩)
          (.error (.notFound "Service prod/mine-service")),
        .asked (.create ((Identity.mk "mine" "prod" "u-1").dependent .service)) (.ok ()),
        .asked (.get .service ⟨"prod", "mine-service"⟩)
          (.ok ((Identity.mk "mine" "prod" "u-1").dependent .service)),
        .asked (.create ((Identity.mk "mine" "prod" "u-1").dependent .service))
          (.error (.alreadyExists "Service prod/mine-service"))] objects' := by
  have hread : Instance.ofJson? (Identity.mk "mine" "prod" "u-1").bare.toJson =
      some (Identity.mk "mine" "prod" "u-1").bare := by
    apply Instance.readsBack
    constructor <;> simp [Identity.bare]
  have hstocked := @Stocked.addInstance _ _ .empty ⟨"prod", "mine"⟩ _ _
    ⟨by decide, by decide⟩ rfl rfl hread
  have hmade : ((Identity.mk "mine" "prod" "u-1").dependent .service).Made :=
    ⟨_, _, .service,
      Identity.desiredState_bare (by decide) (by decide) (by decide) (by decide), rfl⟩
  have hkey : ObjectKey.Proper ⟨"prod", "mine-service"⟩ := ⟨by decide, by decide⟩
  have hproper : ∀ c ∈ [Call.getInstance ⟨"prod", "mine"⟩,
      .get .service ⟨"prod", "mine-service"⟩,
      .create ((Identity.mk "mine" "prod" "u-1").dependent .service),
      .get .service ⟨"prod", "mine-service"⟩,
      .create ((Identity.mk "mine" "prod" "u-1").dependent .service)], c.Proper := by
    simp only [List.forall_mem_cons]
    exact ⟨⟨by decide, by decide⟩, hkey, ⟨hkey, hmade⟩, hkey, ⟨hkey, hmade⟩, by simp⟩
  obtain ⟨ms, hms, ⟨t, hmemory⟩, hcluster, -⟩ := (stores_agree hstocked).1 _ hproper
  -- the transcript in memory is found by evaluation, and there is no other
  have hsame := MemoryStore.transcript_unique hms
    ⟨_, _, rfl, _, _, rfl, _, _, rfl, _, _, rfl, _, _, rfl, rfl⟩ hmemory
    ⟨_, rfl, _, rfl, _, rfl, _, rfl, _, rfl, rfl⟩
  rw [hsame] at hcluster
  exact hcluster

end Stocked

end InstanceOperator
