import InstanceOperator.OperatorError
import InstanceOperator.Proofs.Desired.Dependents
import InstanceOperator.Proofs.Name.Grammar

/-!
# Which instances are accepted

The desired state is derived in a fixed order: name, namespace and unique identifier are taken from
the instance, the client is asked for the reference to it, and the names of the three dependents are
checked. The client's part is left open, so that it is plain when it matters.

Three checks under two grammars come down to one condition on the instance's own name, which is the
one that the service needs. The ingress is never the one to be refused: whatever the service can be
called after is good for the others too.

* `HasReferences`: clients that have a reference to whatever has a name and a unique identifier.
* `GoodName`: the names that are accepted. They are the ones after which a service can be called
  (`labelText_service_iff`).
* `Metadata.FirstProblem`: the first thing that is wrong, and how it is worded.
* `desiredState_decided`: the result.
-/

namespace InstanceOperator

/-! ## The client -/

/-- A client has a reference to whatever has a name and a unique identifier. -/
def HasReferences (reference? : Metadata → Option OwnerReference) : Prop :=
  ∀ m name uid, m.name = some name → m.uid = some uid → ∃ owner, reference? m = some owner

/-- A reference to an instance as managing owner. -/
structure OwnerReference.Manages (o : OwnerReference) (m : Metadata) : Prop where
  apiVersion : o.apiVersion = instanceApiVersion
  kind : o.kind = instanceKind
  name : m.name = some o.name
  uid : m.uid = some o.uid
  controller : o.controller = some true

/-! ## Good names -/

/-- A name after which all dependents can be called. -/
structure GoodName (name : String) : Prop where
  size : 1 ≤ name.utf8ByteSize ∧ name.utf8ByteSize ≤ 55
  first : ∃ c cs, name.toList = c :: cs ∧ Dns.Letter c
  chars : ∀ c ∈ name.toList, Dns.Inner c

open Dns (Letter Edge Inner Part LabelText SubdomainText)

/-- What is put behind an instance's name begins with a hyphen and ends like a part. -/
theorem Kind.suffix_shape (kind : Kind) :
    kind.suffix.toList.head? = some '-' ∧ (∃ z, kind.suffix.toList.getLast? = some z ∧ Edge z) ∧
      ∀ c ∈ kind.suffix.toList, Inner c := by
  have hinner : ∀ c ∈ kind.suffix.toList, Inner c := by
    have hall : (kind.suffix.toList.all fun c => decide (Inner c)) = true := by
      cases kind <;> decide
    intro c hc
    exact of_decide_eq_true (List.all_eq_true.1 hall c hc)
  refine ⟨by cases kind <;> decide, ?_, hinner⟩
  cases kind with
  | deployment => exact ⟨'t', by decide, by decide⟩
  | service => exact ⟨'e', by decide, by decide⟩
  | ingress => exact ⟨'s', by decide, by decide⟩

/-- The name of a dependent is a part if the name of its instance begins like one. -/
theorem part_dependentName_iff {First : Char → Prop} (hedge : ∀ c, First c → Edge c)
    (hhyphen : ¬ First '-') {name : String} {kind : Kind} :
    Part First (dependentName name kind).toList ↔
      (∃ c cs, name.toList = c :: cs ∧ First c) ∧ ∀ c ∈ name.toList, Inner c := by
  obtain ⟨hhead, ⟨z, hlast, hz⟩, hinner⟩ := kind.suffix_shape
  rw [Dns.part_iff hedge, dependentName, String.toList_append]
  constructor
  · -- the suffix begins with a hyphen, so an empty name would make the first character one
    rintro ⟨a, b, ha, -, hfirst, -, hall⟩
    refine ⟨?_, fun c hc => hall c (List.mem_append_left _ hc)⟩
    cases hname : name.toList with
    | nil =>
      rw [hname, List.nil_append, hhead] at ha
      cases ha
      exact absurd hfirst hhyphen
    | cons c cs =>
      obtain rfl : c = a := by simpa [hname] using ha
      exact ⟨c, cs, rfl, hfirst⟩
  · rintro ⟨⟨a, cs, hname, hfirst⟩, hall⟩
    refine ⟨a, z, by simp [hname], by simp [List.getLast?_append, hlast], hfirst, hz, ?_⟩
    intro c hc
    rcases List.mem_append.1 hc with hc | hc
    · exact hall c hc
    · exact hinner c hc

/-- A service can be called after the good names, and after no others. -/
theorem labelText_service_iff {name : String} :
    LabelText (dependentName name .service) ↔ GoodName name := by
  have hsize : (dependentName name .service).utf8ByteSize = name.utf8ByteSize + 8 :=
    String.utf8ByteSize_append
  rw [LabelText, part_dependentName_iff (fun _ => Letter.edge) Dns.not_letter_hyphen, hsize]
  constructor
  · rintro ⟨⟨hfirst, hchars⟩, hle⟩
    have hpos : 1 ≤ name.utf8ByteSize := by
      obtain ⟨c, cs, hname, -⟩ := hfirst
      rw [Nat.one_le_iff_ne_zero, ne_eq, String.utf8ByteSize_eq_zero_iff]
      rintro rfl
      cases hname
    exact ⟨⟨hpos, by omega⟩, hfirst, hchars⟩
  · intro h
    have hle := h.size.2
    exact ⟨⟨h.first, h.chars⟩, by omega⟩

/-- What a service can be called after, a deployment and an ingress can be called after too. -/
theorem GoodName.subdomainText {name : String} (h : GoodName name) (kind : Kind) :
    SubdomainText (dependentName name kind) := by
  have hhyphen : ¬ Edge '-' := by
    decide
  have hpart : Part Edge (dependentName name kind).toList := by
    obtain ⟨c, cs, hname, hc⟩ := h.first
    exact (part_dependentName_iff (fun _ => id) hhyphen).2 ⟨⟨c, cs, hname, hc.edge⟩, h.chars⟩
  have hsuffix : kind.suffix.utf8ByteSize ≤ 11 := by
    cases kind <;> decide
  have hle := h.size.2
  refine ⟨.part hpart, ?_⟩
  rw [dependentName, String.utf8ByteSize_append]
  omega

/-! ## The kind that is refused -/

/-- None of the three names is refused if the name is good. -/
theorem rejectedKind?_of_good {name : String} (h : GoodName name) :
    Identity.rejectedKind? name = none := by
  have haccepts : ∀ kind : Kind, kind.acceptsName (dependentName name kind) = true := by
    intro kind
    cases kind with
    | deployment => exact Dns.isSubdomain_iff.2 (h.subdomainText _)
    | service => exact Dns.isLabel_iff.2 (labelText_service_iff.2 h)
    | ingress => exact Dns.isSubdomain_iff.2 (h.subdomainText _)
  simp [Identity.rejectedKind?, haccepts]

/-- The deployment comes first in the order of convergence, so its name is checked first. -/
theorem rejectedKind?_deployment {name : String}
    (hbad : ¬ SubdomainText (dependentName name .deployment)) :
    Identity.rejectedKind? name = some .deployment := by
  rw [← Dns.isSubdomain_iff] at hbad
  simp [Identity.rejectedKind?, Kind.ordered, Kind.acceptsName, hbad]

/-- The service comes second: it is named only if the name of the deployment is accepted. -/
theorem rejectedKind?_service {name : String}
    (hgood : SubdomainText (dependentName name .deployment))
    (hbad : ¬ LabelText (dependentName name .service)) :
    Identity.rejectedKind? name = some .service := by
  rw [← Dns.isSubdomain_iff] at hgood
  rw [← Dns.isLabel_iff] at hbad
  simp [Identity.rejectedKind?, Kind.ordered, Kind.acceptsName, hgood, hbad]

/-! ## The first problem -/

/-- A text is given, and is not empty. -/
def Gives (s : Option String) (t : String) : Prop := s = some t ∧ t ≠ ""

/-- No text is given, or an empty one. -/
def Lacks (s : Option String) : Prop := ∀ t, s = some t → t = ""

namespace Metadata

/-- Name, namespace and unique identifier are given, and the name is good. -/
def Acceptable (m : Metadata) : Prop :=
  ∃ name ns uid, Gives m.name name ∧ Gives m.ns ns ∧ Gives m.uid uid ∧ GoodName name

/-- The first thing that is wrong with the metadata of an instance, and how it is worded. -/
inductive FirstProblem (m : Metadata) : Malformed → String → Prop where
  | noName (hname : Lacks m.name) : FirstProblem m .noName "instance has no name"
  | noNamespace {name : String} (hname : Gives m.name name) (hns : Lacks m.ns) :
      FirstProblem m (.noNamespace name) ("instance " ++ name ++ " has no namespace")
  | noUid {name ns : String} (hname : Gives m.name name) (hns : Gives m.ns ns)
      (huid : Lacks m.uid) :
      FirstProblem m (.noUid ⟨ns, name⟩) ("instance " ++ (ns ++ "/" ++ name) ++ " has no uid")
  | badDeployment {name ns uid : String} (hname : Gives m.name name) (hns : Gives m.ns ns)
      (huid : Gives m.uid uid) (hbad : ¬ SubdomainText (name ++ "-deployment")) :
      FirstProblem m (.badName .deployment (name ++ "-deployment"))
        ("Deployment name '" ++ (name ++ "-deployment") ++ "' is not a valid object name")
  | badService {name ns uid : String} (hname : Gives m.name name) (hns : Gives m.ns ns)
      (huid : Gives m.uid uid) (hgood : SubdomainText (name ++ "-deployment"))
      (hbad : ¬ LabelText (name ++ "-service")) :
      FirstProblem m (.badName .service (name ++ "-service"))
        ("Service name '" ++ (name ++ "-service") ++ "' is not a valid object name")

variable {m : Metadata} {cause : Malformed} {text : String}

/-- The wording that goes with a problem is the one in which it is reported. -/
theorem FirstProblem.message (h : m.FirstProblem cause text) : cause.message = text := by
  cases h <;> rfl

/-- How the operator words a problem. -/
theorem FirstProblem.reported (h : m.FirstProblem cause text) :
    (OperatorError.malformed cause).message = "Malformed desired state: " ++ text :=
  congrArg ("Malformed desired state: " ++ ·) h.message

end Metadata

theorem gives_or_lacks (s : Option String) : (∃ t, Gives s t) ∨ Lacks s := by
  by_cases h : ∃ t, Gives s t
  · exact .inl h
  · right
    intro t hs
    apply Classical.byContradiction
    intro ht
    exact h ⟨t, hs, ht⟩

/-- Metadata are acceptable, or there is a first problem with them. -/
theorem Metadata.acceptable_or_problem (m : Metadata) :
    m.Acceptable ∨ ∃ cause text, m.FirstProblem cause text := by
  rcases gives_or_lacks m.name with ⟨name, hname⟩ | hname
  · rcases gives_or_lacks m.ns with ⟨ns, hns⟩ | hns
    · rcases gives_or_lacks m.uid with ⟨uid, huid⟩ | huid
      · by_cases hdeployment : SubdomainText (dependentName name .deployment)
        · by_cases hservice : LabelText (dependentName name .service)
          · exact .inl ⟨name, ns, uid, hname, hns, huid, labelText_service_iff.1 hservice⟩
          · exact .inr ⟨_, _, .badService hname hns huid hdeployment hservice⟩
        · exact .inr ⟨_, _, .badDeployment hname hns huid hdeployment⟩
      · exact .inr ⟨_, _, .noUid hname hns huid⟩
    · exact .inr ⟨_, _, .noNamespace hname hns⟩
  · exact .inr ⟨_, _, .noName hname⟩

/-! ## What the derivation comes to -/

section derived

variable {reference? : Metadata → Option OwnerReference} {i : Instance}

theorem nonempty_of_lacks {s : Option String} (h : Lacks s) : Identity.nonempty s = none := by
  cases s with
  | none => rfl
  | some t =>
    rw [h t rfl]
    rfl

theorem nonempty_of_gives {s : Option String} {t : String} (h : Gives s t) :
    Identity.nonempty s = some t :=
  Identity.nonempty_eq_some_iff.2 h

/-- A client that has a reference never stands in the way of an acceptable instance. -/
theorem derivedState_of_acceptable (hanswers : HasReferences reference?)
    (h : i.metadata.Acceptable) : ∃ desired, derivedState reference? i = .ok desired := by
  obtain ⟨name, ns, uid, hname, hns, huid, hgood⟩ := h
  obtain ⟨owner, howner⟩ := hanswers _ name uid hname.1 huid.1
  have hbase : Base.ofInstance reference? i =
      .ok ⟨⟨name, ns, uid⟩, { owner with blockOwnerDeletion := some true }⟩ :=
    Base.ofInstance_eq_ok_iff.2 ⟨nonempty_of_gives hname, nonempty_of_gives hns,
      nonempty_of_gives huid, ⟨owner, howner, rfl⟩, rejectedKind?_of_good hgood⟩
  rw [derivedState, hbase]
  exact ⟨_, rfl⟩

/-- Whatever reference the client has, the derivation stops at the first problem. -/
theorem derivedState_of_problem (hanswers : HasReferences reference?) {cause : Malformed}
    {text : String} (h : i.metadata.FirstProblem cause text) :
    derivedState reference? i = .error cause := by
  have hbase : Base.ofInstance reference? i = .error cause := by
    -- the checks are made in the order of the problems, each behind those that have passed
    cases h with
    | noName hname => simp [Base.ofInstance, nonempty_of_lacks hname]
    | noNamespace hname hns =>
      simp [Base.ofInstance, nonempty_of_gives hname, nonempty_of_lacks hns]
    | noUid hname hns huid =>
      simp [Base.ofInstance, nonempty_of_gives hname, nonempty_of_gives hns,
        nonempty_of_lacks huid]
    | badDeployment hname hns huid hbad =>
      obtain ⟨owner, howner⟩ := hanswers _ _ _ hname.1 huid.1
      simp only [Base.ofInstance, nonempty_of_gives hname, nonempty_of_gives hns,
        nonempty_of_gives huid, howner, rejectedKind?_deployment hbad]
      rfl
    | badService hname hns huid hgood hbad =>
      obtain ⟨owner, howner⟩ := hanswers _ _ _ hname.1 huid.1
      simp only [Base.ofInstance, nonempty_of_gives hname, nonempty_of_gives hns,
        nonempty_of_gives huid, howner, rejectedKind?_service hgood hbad]
      rfl
  rw [derivedState, hbase]
  rfl

theorem derivedState_ok_iff (hanswers : HasReferences reference?) :
    (∃ desired, derivedState reference? i = .ok desired) ↔ i.metadata.Acceptable := by
  refine ⟨?_, derivedState_of_acceptable hanswers⟩
  rintro ⟨desired, hok⟩
  rcases i.metadata.acceptable_or_problem with h | ⟨cause, text, h⟩
  · exact h
  · rw [derivedState_of_problem hanswers h] at hok
    cases hok

/-- The errors that are reported are exactly the first problems. -/
theorem derivedState_error_iff (hanswers : HasReferences reference?) {cause : Malformed} :
    derivedState reference? i = .error cause ↔ ∃ text, i.metadata.FirstProblem cause text := by
  constructor
  · intro herror
    rcases i.metadata.acceptable_or_problem with h | ⟨cause', text, h⟩
    · obtain ⟨desired, hok⟩ := derivedState_of_acceptable hanswers h
      rw [hok] at herror
      cases herror
    · rw [derivedState_of_problem hanswers h] at herror
      cases herror
      exact ⟨text, h⟩
  · rintro ⟨text, h⟩
    exact derivedState_of_problem hanswers h

/-- A managing reference to an instance is the one that the client makes, as far as it counts. -/
theorem OwnerReference.Manages.eq_of_manages {o o' : OwnerReference} {m : Metadata}
    (h : o.Manages m) (h' : o'.Manages m) :
    { o with blockOwnerDeletion := some true } = { o' with blockOwnerDeletion := some true } := by
  have hname : o.name = o'.name := Option.some.inj (h.name.symm.trans h'.name)
  have huid : o.uid = o'.uid := Option.some.inj (h.uid.symm.trans h'.uid)
  simp [h.apiVersion, h.kind, hname, huid, h.controller, h'.apiVersion, h'.kind, h'.controller]

/-- The reference that the client makes is there as soon as name and unique identifier are. -/
theorem hasReferences_managingReference? : HasReferences managingReference? := by
  intro m name uid hname huid
  simp [managingReference?, hname, huid]

theorem manages_of_managingReference? {m : Metadata} {owner : OwnerReference}
    (h : managingReference? m = some owner) : owner.Manages m := by
  unfold managingReference? at h
  split at h
  · next name uid hname huid =>
    cases h
    exact ⟨rfl, rfl, hname, huid, rfl⟩
  · cases h

/-- If the client answers with managing references, the derivation comes to the desired state. -/
theorem derivedState_eq_desiredState (hanswers : HasReferences reference?)
    (hmanages : ∀ owner, reference? i.metadata = some owner → owner.Manages i.metadata) :
    derivedState reference? i = desiredState i := by
  rcases i.metadata.acceptable_or_problem with h | ⟨cause, text, h⟩
  · obtain ⟨name, ns, uid, hname, hns, huid, hgood⟩ := h
    obtain ⟨owner, howner⟩ := hanswers _ name uid hname.1 huid.1
    -- both references manage the instance, so they are the same once deletion is blocked
    obtain ⟨owner', howner'⟩ := hasReferences_managingReference? _ name uid hname.1 huid.1
    have hbase : Base.ofInstance reference? i = Base.ofInstance managingReference? i := by
      simp only [Base.ofInstance, nonempty_of_gives hname, nonempty_of_gives hns,
        nonempty_of_gives huid, howner, howner',
        (hmanages owner howner).eq_of_manages (manages_of_managingReference? howner')]
    rw [desiredState, derivedState, derivedState, hbase]
  · rw [desiredState, derivedState_of_problem hanswers h,
      derivedState_of_problem hasReferences_managingReference? h]

end derived

/-! ## The result -/

/-- **Acceptance goes by name, namespace and unique identifier.** The desired state is derived of
exactly the instances that have all three and are well named; of any other instance it is told what
the first problem is; and nothing else in an instance makes a difference. This holds as well where
the client is asked for the reference to the instance, if it has one for whatever has a name and a
unique identifier: that there is none is never the problem, and neither is the name of the
ingress. -/
theorem desiredState_decided :
    (∀ i, (∃ desired, desiredState i = .ok desired) ↔ i.metadata.Acceptable) ∧
    (∀ i cause text,
      desiredState i = .error cause ∧ (OperatorError.malformed cause).message = text ↔
        ∃ problem, i.metadata.FirstProblem cause problem ∧
          text = "Malformed desired state: " ++ problem) ∧
    (∀ i j, j.metadata.name = i.metadata.name → j.metadata.ns = i.metadata.ns →
      j.metadata.uid = i.metadata.uid → desiredState j = desiredState i) ∧
    ∀ reference?, HasReferences reference? → ∀ i,
      (∀ cause, derivedState reference? i = .error cause ↔ desiredState i = .error cause) ∧
      (∀ reason, derivedState reference? i ≠ .error (.described reason)) ∧
      (∀ name, derivedState reference? i ≠ .error (.badName .ingress name)) ∧
      ((∀ owner, reference? i.metadata = some owner → owner.Manages i.metadata) →
        derivedState reference? i = desiredState i) := by
  refine ⟨?_, ?_, fun i j => desiredState_congr, ?_⟩
  · intro i
    exact derivedState_ok_iff hasReferences_managingReference?
  · intro i cause text
    rw [desiredState, derivedState_error_iff hasReferences_managingReference?]
    constructor
    · rintro ⟨⟨problem, h⟩, rfl⟩
      exact ⟨problem, h, h.reported⟩
    · rintro ⟨problem, h, rfl⟩
      exact ⟨⟨problem, h⟩, h.reported⟩
  · intro reference? hanswers i
    refine ⟨?_, ?_, ?_, derivedState_eq_desiredState hanswers⟩
    · intro cause
      rw [desiredState, derivedState_error_iff hanswers,
        derivedState_error_iff hasReferences_managingReference?]
    · intro reason herror
      obtain ⟨text, h⟩ := (derivedState_error_iff hanswers).1 herror
      cases h
    · intro name herror
      obtain ⟨text, h⟩ := (derivedState_error_iff hanswers).1 herror
      cases h

section refused

/-- The identity of the instance below. -/
private def numbered : Identity := ⟨"1st", "demo", "u-1"⟩

/-- The instance, which asks for something besides. -/
private def wordy : Instance where
  metadata := { numbered.bare.metadata with labels := some (Labels.ofList [("team", "data")]) }
  spec := { foo := "bar" }

/-- An instance whose name begins with a digit is refused for the name of its service, whatever else
it asks for, and also by way of a client. -/
theorem leading_digit_refused :
    ∃ problem, wordy.metadata.FirstProblem (.badName .service "1st-service") problem ∧
      "Malformed desired state: Service name '1st-service' is not a valid object name" =
        "Malformed desired state: " ++ problem ∧
      desiredState wordy = desiredState numbered.bare ∧
      derivedState managingReference? wordy = .error (.badName .service "1st-service") := by
  obtain ⟨-, hproblem, hcongr, hclient⟩ := desiredState_decided
  have herror : desiredState wordy = .error (.badName .service "1st-service") := rfl
  obtain ⟨problem, h, htext⟩ := (hproblem wordy _ _).1 ⟨herror, rfl⟩
  obtain ⟨-, -, -, hsame⟩ := hclient managingReference? hasReferences_managingReference? wordy
  refine ⟨problem, h, htext, hcongr numbered.bare wordy rfl rfl rfl, (hsame ?_).trans herror⟩
  intro owner howner
  cases howner
  exact ⟨rfl, rfl, rfl, rfl, rfl⟩

end refused

end InstanceOperator
