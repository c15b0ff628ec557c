import InstanceOperator.Proofs.Desired.Dependents
import InstanceOperator.Proofs.Pass.Journal

/-!
# The order of the calls of a pass

A pass fetches its instance and then looks its dependents up in the order of convergence, as long as
they are there. It makes one creation at most: of the dependent that it has just not found, and then
it makes no other call. A lookup that fails in any other way, or is given up, is the last call.

The calls of a series of lookups are described once, without the traces between them, by `Enquiry`;
what is said about their order is derived from that by induction.

* `enquiry_of_series`, `passCourse_enquiry`: the calls of a course.
* `Enquiry.orderly`, `Enquiry.cut`, `Enquiry.all_found`: their order.
* `pass_calls_in_order`: the result for a pass, whatever the store holds and however it fails.
-/

namespace InstanceOperator

/-! ## Calls among moves -/

def Move.isCall (m : Move) : Bool := m.call?.isSome

/-- Reporting differences makes no calls. -/
theorem filter_isCall_driftMoves (policy : DriftPolicy) (want live : Dependent) :
    (driftMoves policy want live).filter Move.isCall = [] := by
  rw [List.filter_eq_nil_iff]
  intro m hm
  rcases mem_driftMoves hm with rfl | rfl
  · exact Bool.false_ne_true
  · exact Bool.false_ne_true

theorem filterMap_call?_filter (ms : List Move) :
    (ms.filter Move.isCall).filterMap Move.call? = ms.filterMap Move.call? := by
  induction ms with
  | nil => rfl
  | cons m ms ih =>
    cases m with
    | asked c result => exact congrArg (c :: ·) ih
    | left e => exact ih

/-! ## The calls of a series -/

/-- The lookup of a dependent. -/
abbrev Dependent.lookup (d : Dependent) : Call := .get d.kind d.key

/-- The calls by which dependents are looked up in order, up to the first that is not found, which is
created. A pass that is done has found all of them. -/
inductive Enquiry : List Dependent → List Move → PassEnd → Prop where
  | nil : Enquiry [] [] (.ok .done)
  | found {want : Dependent} {rest : List Dependent} {ms : List Move} {result : PassEnd}
      (live : Dependent) (tail : Enquiry rest ms result) :
      Enquiry (want :: rest) (.asked want.lookup (.ok live) :: ms) result
  | unseen {want : Dependent} {rest : List Dependent} {result : PassEnd} (e : StoreError)
      (he : e.isNotFound = false) (hne : result ≠ .ok .done) :
      Enquiry (want :: rest) [.asked want.lookup (.error e)] result
  | missing {want : Dependent} {rest : List Dependent} {result : PassEnd} (target : String)
      (made : Except StoreError Unit) (hne : result ≠ .ok .done) :
      Enquiry (want :: rest)
        [.asked want.lookup (.error (.notFound target)), .asked (.create want) made] result

/-- The calls of a series are the lookups up to the first that finds nothing, and the creation
behind it. -/
theorem enquiry_of_series {policy : DriftPolicy} {key : ObjectKey} {wants : List Dependent}
    {ms : List Move} {result : PassEnd} (h : Series policy key wants ms result) :
    Enquiry wants (ms.filter Move.isCall) result := by
  induction h with
  | nil => exact .nil
  | @found want rest ms result live tail ih =>
    have hcalls : (.asked want.lookup (.ok live) :: (driftMoves policy want live ++ ms)).filter
        Move.isCall = .asked want.lookup (.ok live) :: ms.filter Move.isCall := by
      rw [List.filter_cons_of_pos rfl, List.filter_append, filter_isCall_driftMoves]
      rfl
    show Enquiry _ ((.asked want.lookup (.ok live) :: (driftMoves policy want live ++ ms)).filter
      Move.isCall) _
    rw [hcalls]
    exact .found live ih
  | unseen e he => exact .unseen e he (by simp)
  | created target => exact .missing target (.ok ()) (by simp)
  | outrun target target' => exact .missing target (.error (.alreadyExists target')) (by simp)
  | refused target e he => exact .missing target (.error e) (by simp)

/-- Calls follow a plan: they are the first calls of it, or these and then one creation, of what was
looked up last. -/
def Orderly (plan calls : List Call) : Prop :=
  calls <+: plan ∨
    ∃ looked d, looked <+: plan ∧ looked.getLast? = some (Dependent.lookup d) ∧
      calls = looked ++ [.create d]

/-- A call in front of orderly calls, if it is also in front of the plan, leaves them orderly. -/
theorem Orderly.cons {plan calls : List Call} (c : Call) (h : Orderly plan calls) :
    Orderly (c :: plan) (c :: calls) := by
  rcases h with h | ⟨looked, d, hlooked, hlast, rfl⟩
  · exact .inl (List.cons_prefix_cons.2 ⟨rfl, h⟩)
  · refine .inr ⟨c :: looked, d, List.cons_prefix_cons.2 ⟨rfl, hlooked⟩, ?_, rfl⟩
    rw [List.getLast?_cons, hlast]
    rfl

/-- Without the last of them, calls that follow a plan are the first calls of it. -/
theorem Orderly.of_concat {plan calls : List Call} {c : Call} (h : Orderly plan (calls ++ [c])) :
    Orderly plan calls := by
  rcases h with h | ⟨looked, d, hlooked, -, heq⟩
  · exact .inl ((List.prefix_append calls [c]).trans h)
  · obtain ⟨rfl, -⟩ := List.append_inj' heq rfl
    exact .inl hlooked

namespace Enquiry

variable {wants : List Dependent} {ms : List Move} {result : PassEnd}

/-- Dependents are looked up in order, and the last one looked up may be created. -/
theorem orderly (h : Enquiry wants ms result) :
    Orderly (wants.map Dependent.lookup) (ms.filterMap Move.call?) := by
  induction h with
  | nil => exact .inl (List.prefix_refl _)
  | found live tail ih => exact ih.cons _
  | unseen e he hne => exact .inl (List.cons_prefix_cons.2 ⟨rfl, List.nil_prefix⟩)
  | @missing want rest result target made hne =>
    exact .inr ⟨[want.lookup], want, List.cons_prefix_cons.2 ⟨rfl, List.nil_prefix⟩, rfl, rfl⟩

/-- What a call is. All dependents before the one that it is about were found. It is a lookup, and
then the last call if it fails otherwise than by not finding anything; or it is the creation of what
was just not found, and the last call. -/
theorem cut (h : Enquiry wants ms result) {before after : List Move} {m : Move}
    (hms : ms = before ++ m :: after) :
    ∃ (first : List Dependent) (want : Dependent) (rest : List Dependent),
      wants = first ++ want :: rest ∧
      (∀ w ∈ first, ∃ live : Dependent, .asked w.lookup (.ok live) ∈ before) ∧
      ((∃ looked : Except StoreError Dependent, m = .asked want.lookup looked ∧
          ∀ e, looked = .error e → e.isNotFound = false → after = []) ∨
        ∃ (made : Except StoreError Unit) (earlier : List Move) (target : String),
          m = .asked (.create want) made ∧ after = [] ∧
          before = earlier ++ [.asked want.lookup (.error (.notFound target))]) := by
  induction h generalizing before with
  | nil => simp at hms
  | @found want rest ms result live tail ih =>
    cases before with
    | nil =>
      cases hms
      exact ⟨[], want, rest, rfl, by simp, .inl ⟨.ok live, rfl, by simp⟩⟩
    | cons m' before =>
      obtain ⟨rfl, htail⟩ := List.cons.inj hms
      obtain ⟨first, w, rest', rfl, hfound, hcall⟩ := ih htail
      refine ⟨want :: first, w, rest', rfl, ?_, ?_⟩
      · intro v hv
        rcases List.mem_cons.1 hv with rfl | hv
        · exact ⟨live, List.mem_cons_self⟩
        · obtain ⟨live', hlive'⟩ := hfound v hv
          exact ⟨live', List.mem_cons_of_mem _ hlive'⟩
      · rcases hcall with hlookup | ⟨made, earlier, target, hm, hlast, rfl⟩
        · exact .inl hlookup
        · exact .inr ⟨made, _ :: earlier, target, hm, hlast, rfl⟩
  | @unseen want rest result e he hne =>
    cases before with
    | nil =>
      cases hms
      exact ⟨[], want, rest, rfl, by simp, .inl ⟨.error e, rfl, fun _ _ _ => rfl⟩⟩
    | cons m' before => simp at hms
  | @missing want rest result target made hne =>
    cases before with
    | nil =>
      cases hms
      -- not finding anything is no failure of this kind
      refine ⟨[], want, rest, rfl, by simp, .inl ⟨.error (.notFound target), rfl, ?_⟩⟩
      intro e heq he
      cases heq
      cases he
    | cons m' before =>
      obtain ⟨rfl, htail⟩ := List.cons.inj hms
      cases before with
      | nil =>
        cases htail
        exact ⟨[], want, rest, rfl, by simp, .inr ⟨made, [], target, rfl, rfl, rfl⟩⟩
      | cons m'' before => simp at htail

/-- A pass that is done has found every dependent. -/
theorem all_found (h : Enquiry wants ms result) (hdone : result = .ok .done) :
    ∀ want ∈ wants, ∃ live : Dependent, .asked want.lookup (.ok live) ∈ ms := by
  induction h with
  | nil => simp
  | @found want rest ms result live tail ih =>
    intro w hw
    rcases List.mem_cons.1 hw with rfl | hw
    · exact ⟨live, List.mem_cons_self⟩
    · obtain ⟨live', hlive'⟩ := ih hdone w hw
      exact ⟨live', List.mem_cons_of_mem _ hlive'⟩
  | unseen e he hne => exact absurd hdone hne
  | missing target made hne => exact absurd hdone hne

end Enquiry

/-! ## Kinds in order -/

/-- The kinds before a kind in the order of convergence are those of a smaller index. -/
theorem Kind.mem_of_index_lt {before after : List Kind} {kind kind' : Kind}
    (h : ordered = before ++ kind :: after) (hlt : kind'.index < kind.index) : kind' ∈ before := by
  have hsorted : ordered.Pairwise fun k l => k.index < l.index := by decide
  have hmem := kind'.mem_ordered
  rw [h] at hsorted hmem
  rcases List.mem_append.1 hmem with hmem | hmem
  · exact hmem
  · rcases List.mem_cons.1 hmem with rfl | hmem
    · omega
    · have hgt := (List.pairwise_cons.1 (List.pairwise_append.1 hsorted).2.1).1 kind' hmem
      omega

/-- What is desired before a dependent is what is desired of the kinds before its kind. -/
theorem PerKind.inOrder_cut {i : Instance} {desired : PerKind Dependent}
    (hd : desiredState i = .ok desired) {first rest : List Dependent} {want : Dependent}
    (h : desired.inOrder = first ++ want :: rest) :
    want = desired.get want.kind ∧
      ∀ kind, kind.index < want.kind.index → desired.get kind ∈ first := by
  obtain ⟨kinds, kinds', hkinds, rfl, hrest⟩ := List.map_eq_append_iff.1 h
  obtain ⟨kind, kinds'', rfl, rfl, -⟩ := List.map_eq_cons_iff.1 hrest
  have hkind := kind_get_of_desiredState hd kind
  rw [hkind]
  refine ⟨rfl, ?_⟩
  intro kind' hlt
  exact List.mem_map.2 ⟨kind', Kind.mem_of_index_lt hkinds hlt, rfl⟩

/-- The lookup of a desired dependent is the lookup of its kind. -/
theorem mem_of_lookup {i : Instance} {desired : PerKind Dependent}
    (hd : desiredState i = .ok desired) {kind : Kind} {live : Dependent} {ms : List Move}
    (h : .asked (desired.get kind).lookup (.ok live) ∈ ms) :
    .asked (.get kind (desired.get kind).key) (.ok live) ∈ ms := by
  have hseen : .asked (.get (desired.get kind).kind (desired.get kind).key) (.ok live) ∈ ms := h
  rw [kind_get_of_desiredState hd] at hseen
  exact hseen

/-- What is desired is looked up kind by kind, in the order of convergence. -/
theorem inOrder_map_lookup {i : Instance} {desired : PerKind Dependent}
    (hd : desiredState i = .ok desired) :
    desired.inOrder.map Dependent.lookup =
      Kind.ordered.map fun kind => .get kind (desired.get kind).key := by
  rw [PerKind.inOrder, List.map_map]
  refine List.map_congr_left ?_
  intro kind _
  show Call.get (desired.get kind).kind _ = _
  rw [kind_get_of_desiredState hd]

/-! ## The calls of a pass -/

namespace MemoryStore

/-- The dependents that a pass is to bring about: there are none if the instance is not stored, is on
its way out, or is malformed. -/
def wanted? (s : MemoryStore) (key : ObjectKey) : Option (PerKind Dependent) :=
  (s.instances.get? key).bind fun i =>
    if i.metadata.deletionTimestamp.isSome then none else (desiredState i).toOption

/-- The calls of a pass that finds everything there. -/
def itinerary (s : MemoryStore) (key : ObjectKey) : List Call :=
  .getInstance key :: match s.wanted? key with
    | none => []
    | some desired => Kind.ordered.map fun kind => .get kind (desired.get kind).key

theorem wanted?_of_accepted {s : MemoryStore} {key : ObjectKey} {i : Instance}
    {desired : PerKind Dependent} (hstored : s.instances.get? key = some i)
    (hlive : i.metadata.deletionTimestamp = none) (haccepted : desiredState i = .ok desired) :
    s.wanted? key = some desired := by
  simp [wanted?, hstored, hlive, haccepted, Except.toOption]

end MemoryStore

/-- The calls of a pass: it fetches its instance, and if that is stored, is not on its way out and has
a desired state, it looks up its dependents. -/
theorem passCourse_enquiry {policy : DriftPolicy} {key : ObjectKey} {ms : List Move}
    {result : PassEnd} (hcourse : PassCourse policy key ms result) {s t : MemoryStore}
    (halong : Along MemoryStore.Replies s ms t) :
    ∃ (fetched : Except StoreError Instance) (rest : List Move),
      ms.filter Move.isCall = .asked (.getInstance key) fetched :: rest ∧
      (rest = [] ∨ ∃ i desired, fetched = .ok i ∧ s.instances.get? key = some i ∧
        i.metadata.deletionTimestamp = none ∧ desiredState i = .ok desired ∧
        Enquiry desired.inOrder rest result) := by
  cases hcourse with
  | absent target => exact ⟨_, [], rfl, .inl rfl⟩
  | unfetched e he => exact ⟨_, [], rfl, .inl rfl⟩
  | terminating i hi => exact ⟨_, [], rfl, .inl rfl⟩
  | malformed i cause hi hd => exact ⟨_, [], rfl, .inl rfl⟩
  | @served i desired ms result hi hd hs =>
    obtain ⟨u, hfetch, -⟩ := halong
    exact ⟨.ok i, ms.filter Move.isCall, rfl,
      .inr ⟨i, desired, rfl, hfetch.fetched, hi, hd, enquiry_of_series hs⟩⟩

/-- What a call of a pass is: it fetches the instance, or that was fetched and the dependents of all
kinds before the one that the call is about were found. -/
theorem passCourse_cut {policy : DriftPolicy} {key : ObjectKey} {ms : List Move}
    {result : PassEnd} (hcourse : PassCourse policy key ms result) {s t : MemoryStore}
    (halong : Along MemoryStore.Replies s ms t) {before after : List Move} {m : Move}
    (hms : ms.filter Move.isCall = before ++ m :: after) :
    (∃ fetched, m = .asked (.getInstance key) fetched) ∨
    ∃ i desired kind, s.instances.get? key = some i ∧ i.metadata.deletionTimestamp = none ∧
      desiredState i = .ok desired ∧ .asked (.getInstance key) (.ok i) ∈ before ∧
      (∀ earlier : Kind, earlier.index < kind.index → ∃ live : Dependent,
        .asked (.get earlier (desired.get earlier).key) (.ok live) ∈ before) ∧
      ((∃ looked : Except StoreError Dependent,
          m = .asked (.get kind (desired.get kind).key) looked ∧
          ∀ e, looked = .error e → e.isNotFound = false → after = []) ∨
        ∃ (made : Except StoreError Unit) (earlier : List Move) (target : String),
          m = .asked (.create (desired.get kind)) made ∧ after = [] ∧
          before = earlier ++ [.asked (desired.get kind).lookup (.error (.notFound target))]) := by
  obtain ⟨fetched, rest, hasked, hrest⟩ := passCourse_enquiry hcourse halong
  rw [hasked] at hms
  -- the first call is the fetch, and every later one is a call of the enquiry behind it
  cases before with
  | nil =>
    cases hms
    exact .inl ⟨fetched, rfl⟩
  | cons m' before =>
    obtain ⟨rfl, htail⟩ := List.cons.inj hms
    rcases hrest with rfl | ⟨i, desired, rfl, hstored, hlive, hd, hseries⟩
    · simp at htail
    · obtain ⟨first, want, rest', hwants, hfound, hcall⟩ := hseries.cut htail
      -- what was asked before the cut are the lookups of the kinds before this one
      obtain ⟨hwant, hearlier⟩ := PerKind.inOrder_cut hd hwants
      refine .inr ⟨i, desired, want.kind, hstored, hlive, hd, List.mem_cons_self, ?_, ?_⟩
      · intro earlier hlt
        obtain ⟨live, hlive'⟩ := hfound _ (hearlier earlier hlt)
        exact ⟨live, List.mem_cons_of_mem _ (mem_of_lookup hd hlive')⟩
      · rw [← hwant]
        rcases hcall with hlookup | ⟨made, earlier, target, hm, hlast, rfl⟩
        · exact .inl hlookup
        · exact .inr ⟨made, _ :: earlier, target, hm, hlast, rfl⟩

/-- The calls of a pass follow its itinerary. -/
theorem passCourse_orderly {policy : DriftPolicy} {key : ObjectKey} {ms : List Move}
    {result : PassEnd} (hcourse : PassCourse policy key ms result) {s t : MemoryStore}
    (halong : Along MemoryStore.Replies s ms t) :
    Orderly (s.itinerary key) (ms.filterMap Move.call?) := by
  obtain ⟨fetched, rest, hasked, hrest⟩ := passCourse_enquiry hcourse halong
  have hcalls : ms.filterMap Move.call? = .getInstance key :: rest.filterMap Move.call? := by
    rw [← filterMap_call?_filter, hasked]
    rfl
  rw [hcalls]
  rcases hrest with rfl | ⟨i, desired, -, hstored, hlive, hd, hseries⟩
  · exact .inl (List.cons_prefix_cons.2 ⟨rfl, List.nil_prefix⟩)
  · -- the itinerary is that of the stored instance, which is the one that was fetched
    have hplan := hseries.orderly
    rw [inOrder_map_lookup hd] at hplan
    unfold MemoryStore.itinerary
    rw [MemoryStore.wanted?_of_accepted hstored hlive hd]
    exact hplan.cons _

/-- A pass that has looked dependents up and is done has found all of them. -/
theorem passCourse_all_found {policy : DriftPolicy} {key : ObjectKey} {ms : List Move}
    (hcourse : PassCourse policy key ms (.ok .done)) {s t : MemoryStore}
    (halong : Along MemoryStore.Replies s ms t)
    (hlookup : ∃ kind slot looked, .asked (.get kind slot) looked ∈ ms.filter Move.isCall)
    (kind : Kind) : ∃ (slot : ObjectKey) (live : Dependent),
      .asked (.get kind slot) (.ok live) ∈ ms.filter Move.isCall := by
  obtain ⟨fetched, rest, hasked, hrest⟩ := passCourse_enquiry hcourse halong
  obtain ⟨kind', slot, looked, hmem⟩ := hlookup
  rw [hasked] at hmem ⊢
  rcases hrest with rfl | ⟨i, desired, rfl, hstored, hlive, hd, hseries⟩
  · simp at hmem
  · have hwant : desired.get kind ∈ desired.inOrder :=
      List.mem_map.2 ⟨kind, kind.mem_ordered, rfl⟩
    obtain ⟨live, hlive'⟩ := hseries.all_found rfl _ hwant
    exact ⟨_, live, List.mem_cons_of_mem _ (mem_of_lookup hd hlive')⟩

/-! ## The result -/

/-- **The order of the calls of a pass.** Whatever a store holds, however its calls fail and however
long they wait, the calls of a pass follow its itinerary: the instance, then its dependents in the
order of convergence, with one creation at most, which is the last call. The store remembers all of
them in order, except for one that was given up. A dependent is looked up only if the instance was
fetched, is not on its way out and has a desired state, and if the dependents of all earlier kinds
were found. A lookup that fails otherwise than by not finding anything, or is given up, is the last
call. What is created was just not found. A pass that has looked dependents up and is done has found
all of them. -/
theorem pass_calls_in_order (policy : DriftPolicy) (key : ObjectKey) (deadline : Instant)
    (waits : Waits) (s : MemoryStore) :
    let start : Run := { store := s }
    let result := ((pass deadline policy key).run waits start).1
    let t := ((pass deadline policy key).run waits start).2.store
    let made := (pass deadline policy key).calls waits start
    let asked := ((pass deadline policy key).moves waits start).filter Move.isCall
    (∃ heard, t.calls = s.calls ++ heard.map Call.record ∧
      Orderly (s.itinerary key) heard ∧ Orderly (s.itinerary key) made ∧
      (made = heard ∨ ∃ c, made = heard ++ [c] ∧ .asked c (.error c.expired) ∈ asked)) ∧
    (∀ before kind slot looked after, asked = before ++ .asked (.get kind slot) looked :: after →
      (∃ i desired, s.instances.get? key = some i ∧ i.metadata.deletionTimestamp = none ∧
        desiredState i = .ok desired ∧ .asked (.getInstance key) (.ok i) ∈ before ∧
        slot = (desired.get kind).key ∧
        ∀ earlier : Kind, earlier.index < kind.index → ∃ live : Dependent,
          .asked (.get earlier (desired.get earlier).key) (.ok live) ∈ before) ∧
      ∀ e, looked = .error e → e.isNotFound = false → after = []) ∧
    (∀ before d made after, asked = before ++ .asked (.create d) made :: after →
      after = [] ∧ ∃ earlier target,
        before = earlier ++ [.asked (.get d.kind d.key) (.error (.notFound target))]) ∧
    (result = .ok .done → (∃ kind slot looked, .asked (.get kind slot) looked ∈ asked) →
      ∀ kind, ∃ (slot : ObjectKey) (live : Dependent), .asked (.get kind slot) (.ok live) ∈ asked) := by
  intro start result t made asked
  have hcourse : PassCourse policy key _ result :=
    passCourse_of_course (course_moves waits (pass deadline policy key) start)
  have halong := along_moves waits (pass deadline policy key) start
  have horderly : Orderly (s.itinerary key) made := passCourse_orderly hcourse halong
  refine ⟨?_, ?_, ?_, ?_⟩
  · -- what the store remembers, which is all but a call that was given up at the end
    obtain ⟨heard, hcalls, hheard⟩ :=
      calls_of_givesUp (pass_givesUp deadline policy key) waits start
    refine ⟨heard, hcalls, ?_, horderly, ?_⟩
    · rcases hheard with hheard | ⟨c, hheard, -⟩
      · rw [← hheard]
        exact horderly
      · have hconcat : made = heard ++ [c] := hheard
        rw [hconcat] at horderly
        exact horderly.of_concat
    · rcases hheard with hheard | ⟨c, hheard, hgiven⟩
      · exact .inl hheard
      · exact .inr ⟨c, hheard, List.mem_filter.2 ⟨hgiven, rfl⟩⟩
  · -- a lookup
    intro before kind slot looked after hcut
    rcases passCourse_cut hcourse halong hcut with ⟨fetched, hm⟩ |
      ⟨i, desired, kind', hstored, hlive, hd, hfetched, hfound, hcall⟩
    · cases hm
    · rcases hcall with ⟨looked', hm, hlast⟩ | ⟨made', _, _, hm, -⟩
      · cases hm
        exact ⟨⟨i, desired, hstored, hlive, hd, hfetched, rfl, hfound⟩, hlast⟩
      · cases hm
  · -- a creation
    intro before d made' after hcut
    rcases passCourse_cut hcourse halong hcut with ⟨fetched, hm⟩ |
      ⟨i, desired, kind', -, -, -, -, -, hcall⟩
    · cases hm
    · rcases hcall with ⟨looked', hm, -⟩ | ⟨made'', earlier, target, hm, hlast, hbefore⟩
      · cases hm
      · cases hm
        exact ⟨hlast, earlier, target, hbefore⟩
  · -- the end of a pass that is done
    intro hdone hlookup kind
    have hend : PassCourse policy key _ (.ok .done) := hdone ▸ hcourse
    exact passCourse_all_found hend halong hlookup kind

/-- An instance whose deployment is there, in a store where services cannot be looked up. -/
def halfway : MemoryStore :=
  ((MemoryStore.addInstance {} (Identity.mk "mine" "prod" "u-1").bare).addDependent
    ((Identity.mk "mine" "prod" "u-1").dependent .deployment)).failLookup .service .unavailable

/-- The pass ends with the lookup that fails, before which the deployment was found. -/
theorem failed_lookup_ends_pass :
    ∃ before target,
      ((pass Instant.origin .report ⟨"prod", "mine"⟩).moves Waits.zero
        { store := halfway }).filter Move.isCall =
      before ++ [.asked (.get .service ⟨"prod", "mine-service"⟩) (.error (.unavailable target))] ∧
    ∃ live, .asked (.get .deployment ⟨"prod", "mine-deployment"⟩) (.ok live) ∈ before := by
  obtain ⟨-, hlookups, -, -⟩ :=
    pass_calls_in_order .report ⟨"prod", "mine"⟩ Instant.origin Waits.zero halfway
  have hasked :
      ((pass Instant.origin .report ⟨"prod", "mine"⟩).moves Waits.zero
        { store := halfway }).filter Move.isCall =
      [.asked (.getInstance ⟨"prod", "mine"⟩) (.ok (Identity.mk "mine" "prod" "u-1").bare),
        .asked (.get .deployment ⟨"prod", "mine-deployment"⟩)
          (.ok ((Identity.mk "mine" "prod" "u-1").dependent .deployment))] ++
      [.asked (.get .service ⟨"prod", "mine-service"⟩)
        (.error (.unavailable "Service prod/mine-service"))] := rfl
  obtain ⟨⟨i, desired, hstored, -, hd, -, -, hfound⟩, -⟩ := hlookups _ _ _ _ _ hasked
  obtain ⟨live, hlive⟩ := hfound .deployment (by decide)
  refine ⟨_, _, hasked, live, ?_⟩
  cases hstored
  cases hd
  exact hlive

end InstanceOperator
