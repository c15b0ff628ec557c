import InstanceOperator.Desired.State
import InstanceOperator.Proofs.Http.Target
import InstanceOperator.Proofs.Json.Member
import InstanceOperator.Proofs.Name.Grammar
import InstanceOperator.Rehearsal.ApiServer

/-!
# Addresses of objects

An object of the cluster is an instance or a dependent of a kind, and goes by a key. Where namespace
and name are names of the domain name system, the requests for it can be sent, and their path tells
which object is meant.

* `Address.request_call`: the request for an object, `Call.request_create`: the one that creates it.
* `Address.path_inj`: different objects have different paths.
-/

namespace InstanceOperator

open Http (inRanges pathRanges queryRanges targetLimit)

/-! ## Names -/

namespace Dns

/-- A subdomain is made of inner characters and dots. -/
theorem Subdomain.inner_or_dot {cs : List Char} (h : Subdomain cs) {c : Char} (hc : c ∈ cs) :
    Inner c ∨ c = '.' := by
  induction h with
  | part h => exact .inl (h.inner c hc)
  | dotted h hrest ih =>
    rcases List.mem_append.1 hc with hc | hc
    · exact .inl (h.inner c hc)
    · rcases List.mem_cons.1 hc with hc | hc
      · exact .inr hc
      · exact ih hc

theorem size_of_isSubdomain {s : String} (h : isSubdomain s = true) :
    s.utf8ByteSize ≤ subdomainLimit :=
  (isSubdomain_iff.1 h).2

theorem ne_empty_of_isSubdomain {s : String} (h : isSubdomain s = true) : s ≠ "" := by
  intro hs
  rw [hs] at h
  revert h
  decide

/-- The characters of names may stand in paths. -/
theorem pathRanges_of_inner {c : Char} (h : Inner c) : inRanges pathRanges c = true := by
  rw [inner_iff, edge_iff] at h
  rcases h with (⟨hlow, hhigh⟩ | ⟨hlow, hhigh⟩) | hhyphen
  · exact Http.inRanges_of_le (r := (0x61, 0x7e)) (by decide) hlow (by omega)
  · exact Http.inRanges_of_le (r := (0x24, 0x3b)) (by decide) (by omega) (by omega)
  · exact Http.inRanges_of_le (r := (0x24, 0x3b)) (by decide) (by omega) (by omega)

/-- A name of the domain name system may stand in a path as it is. -/
theorem pathRanges_of_isSubdomain {s : String} (h : isSubdomain s = true) :
    ∀ c ∈ s.toList, inRanges pathRanges c = true := by
  intro c hc
  rcases (isSubdomain_iff.1 h).1.inner_or_dot hc with hinner | hdot
  · exact pathRanges_of_inner hinner
  · rw [hdot]
    decide

/-- A name of the domain name system does not split a path. -/
theorem slash_not_mem_of_isSubdomain {s : String} (h : isSubdomain s = true) : '/' ∉ s.toList := by
  intro hslash
  rcases (isSubdomain_iff.1 h).1.inner_or_dot hslash with hinner | hdot
  · revert hinner
    decide
  · cases hdot

end Dns

/-- Namespace and name are names of the domain name system. -/
structure ObjectKey.Proper (key : ObjectKey) : Prop where
  ns : Dns.isSubdomain key.ns = true
  name : Dns.isSubdomain key.name = true

/-! ## Addresses -/

/-- Which object of the cluster is meant. -/
inductive Address where
  | ofInstance (key : ObjectKey)
  | ofDependent (kind : Kind) (key : ObjectKey)
deriving DecidableEq

namespace Address

def key : Address → ObjectKey
  | .ofInstance key => key
  | .ofDependent _ key => key

/-- The path below which objects of this sort are served. -/
def apiPath : Address → String
  | .ofInstance _ => instanceApiPath
  | .ofDependent kind _ => kind.apiPath

/-- The name of the collection of objects of this sort. -/
def plural : Address → String
  | .ofInstance _ => instancePlural
  | .ofDependent kind _ => kind.plural

/-- The path of the collection that the object lies in. -/
def collection (a : Address) : String :=
  collectionPath a.apiPath a.plural (some a.key.ns)

def path (a : Address) : String :=
  objectPath a.collection a.key.name

/-- The call that asks for the object. -/
def call : Address → Call
  | .ofInstance key => .getInstance key
  | .ofDependent kind key => .get kind key

end Address

/-! ## What paths are made of -/

/-- A text whose characters may stand in paths, and which is short. -/
structure Clean (s : String) : Prop where
  chars : s.toList.all (inRanges pathRanges) = true
  size : s.utf8ByteSize ≤ 256

theorem Clean.mem {s : String} (h : Clean s) : ∀ c ∈ s.toList, inRanges pathRanges c = true :=
  List.all_eq_true.1 h.chars

theorem Kind.apiPath_clean (kind : Kind) :
    Clean kind.apiPath ∧ kind.apiPath.toList.head? = some '/' := by
  cases kind with
  | deployment => exact ⟨⟨by decide, by decide⟩, by decide⟩
  | service => exact ⟨⟨by decide, by decide⟩, by decide⟩
  | ingress => exact ⟨⟨by decide, by decide⟩, by decide⟩

theorem Kind.plural_clean (kind : Kind) : Clean kind.plural ∧ '/' ∉ kind.plural.toList := by
  cases kind with
  | deployment => exact ⟨⟨by decide, by decide⟩, by decide⟩
  | service => exact ⟨⟨by decide, by decide⟩, by decide⟩
  | ingress => exact ⟨⟨by decide, by decide⟩, by decide⟩

theorem Dns.clean_of_isSubdomain {s : String} (h : isSubdomain s = true) : Clean s := by
  have hsize : s.utf8ByteSize ≤ 253 := size_of_isSubdomain h
  exact ⟨List.all_eq_true.2 (pathRanges_of_isSubdomain h), by omega⟩

namespace Address

theorem apiPath_clean (a : Address) : Clean a.apiPath ∧ a.apiPath.toList.head? = some '/' := by
  cases a with
  | ofInstance key =>
    have hclean : Clean instanceApiPath := ⟨by decide, by decide⟩
    have hslash : instanceApiPath.toList.head? = some '/' := by decide
    exact ⟨hclean, hslash⟩
  | ofDependent kind key => exact kind.apiPath_clean

/-- The name of a collection is one segment of a path. -/
theorem plural_clean (a : Address) : Clean a.plural ∧ '/' ∉ a.plural.toList := by
  cases a with
  | ofInstance key =>
    have hclean : Clean instancePlural := ⟨by decide, by decide⟩
    have hslash : '/' ∉ instancePlural.toList := by decide
    exact ⟨hclean, hslash⟩
  | ofDependent kind key => exact kind.plural_clean

/-- The collection of an address in one piece. -/
theorem collection_eq (a : Address) :
    a.collection = a.apiPath ++ ("/namespaces/" ++ a.key.ns) ++ "/" ++ a.plural := rfl

theorem head?_collection (a : Address) : a.collection.toList.head? = some '/' := by
  have hslash : a.apiPath.toList.head? = some '/' := a.apiPath_clean.2
  rw [collection_eq]
  simp [List.head?_append, hslash]

/-- The characters of a collection may stand in paths. -/
theorem pathRanges_collection {a : Address} (ha : a.key.Proper) :
    ∀ c ∈ a.collection.toList, inRanges pathRanges c = true := by
  intro c hc
  have hmarks : Clean "/namespaces/" := ⟨by decide, by decide⟩
  have hslash : Clean "/" := ⟨by decide, by decide⟩
  rw [collection_eq] at hc
  simp only [String.toList_append, List.mem_append] at hc
  rcases hc with ((hc | hc | hc) | hc) | hc
  · exact a.apiPath_clean.1.mem c hc
  · exact hmarks.mem c hc
  · exact (Dns.clean_of_isSubdomain ha.ns).mem c hc
  · exact hslash.mem c hc
  · exact a.plural_clean.1.mem c hc

/-- The path of a collection is far below the limit, since names are short. -/
theorem size_collection {a : Address} (ha : a.key.Proper) :
    a.collection.utf8ByteSize ≤ 1024 := by
  -- each of the five pieces has its own bound
  have hpath : a.apiPath.utf8ByteSize ≤ 256 := a.apiPath_clean.1.size
  have hmarks : "/namespaces/".utf8ByteSize ≤ 12 := by decide
  have hns : a.key.ns.utf8ByteSize ≤ 256 := (Dns.clean_of_isSubdomain ha.ns).size
  have hslash : "/".utf8ByteSize ≤ 1 := by decide
  have hplural : a.plural.utf8ByteSize ≤ 256 := a.plural_clean.1.size
  rw [collection_eq]
  simp only [String.utf8ByteSize_append]
  omega

/-! ## Requests -/

/-- **The request for an object of a proper key is sent, to the path of the object.** -/
theorem request_call {a : Address} (ha : a.key.Proper) :
    a.call.request = .ok (.fetch ⟨a.path, none⟩) := by
  have hname : a.key.name ≠ "" := Dns.ne_empty_of_isSubdomain ha.name
  have hslash : a.path.toList.head? = some '/' := by
    rw [path, objectPath]
    simp [List.head?_append, a.head?_collection]
  have hsize : a.path.utf8ByteSize ≤ targetLimit := by
    have hcollection : a.collection.utf8ByteSize ≤ 1024 := size_collection ha
    have hmark : "/".utf8ByteSize ≤ 1 := by decide
    have hname' : a.key.name.utf8ByteSize ≤ 256 := (Dns.clean_of_isSubdomain ha.name).size
    rw [path, objectPath, targetLimit]
    simp only [String.utf8ByteSize_append]
    omega
  -- names of objects hold none of the characters that a path cannot
  have hclean : ∀ c ∈ a.path.toList, inRanges pathRanges c = true := by
    intro c hc
    rw [path, objectPath] at hc
    simp only [String.toList_append, List.mem_append] at hc
    rcases hc with (hc | hc) | hc
    · exact pathRanges_collection ha c hc
    · have hmark : Clean "/" := ⟨by decide, by decide⟩
      exact hmark.mem c hc
    · exact (Dns.clean_of_isSubdomain ha.name).mem c hc
  have hread : Http.Target.read? a.path = some ⟨a.path, none⟩ :=
    Http.Target.read?_path hslash hsize hclean
  have hrequest : a.call.request = fetchRequest a.collection a.key.name := by
    cases a <;> rfl
  rw [hrequest, fetchRequest, if_neg hname, sendable]
  rw [path, objectPath] at hread
  simp only [hread]
  rfl

end Address

/-- The query of a creation. -/
def creationQuery : String := "&fieldManager=" ++ fieldManager

/-- **The request that creates an object of a proper key is sent, to the collection of the
object.** -/
theorem Call.request_create {d : Dependent} (hd : d.key.Proper) :
    (Call.create d).request =
      .ok (.post ⟨(Address.ofDependent d.kind d.key).collection, some creationQuery⟩ d.toJson) := by
  have hkey : (Address.ofDependent d.kind d.key).key.Proper := hd
  have hsize : ((Address.ofDependent d.kind d.key).collection ++ "?" ++
      creationQuery).utf8ByteSize ≤ targetLimit := by
    have hcollection := Address.size_collection hkey
    have hmark : "?".utf8ByteSize ≤ 1 := by decide
    have hquery : creationQuery.utf8ByteSize ≤ 64 := by decide
    rw [targetLimit]
    simp only [String.utf8ByteSize_append]
    omega
  have hread := Http.Target.read?_query (Address.head?_collection _) hsize
    (Address.pathRanges_collection hkey) (List.all_eq_true.1 (by decide))
  have hwritten : d.kind.collection (some d.key.ns) ++ "?&fieldManager=" ++ fieldManager =
      (Address.ofDependent d.kind d.key).collection ++ "?" ++ creationQuery := by
    have hmark : "?&fieldManager=" = "?" ++ "&fieldManager=" := by decide
    rw [creationQuery, hmark, String.append_assoc, String.append_assoc, String.append_assoc]
    rfl
  rw [Call.request, hwritten, sendable, hread]
  rfl

/-- The name in what is written for a dependent that is made for an instance is that of its key. -/
theorem Base.nameOf_dependent (b : Base) (kind : Kind) :
    nameOf (b.dependent kind).toJson = (b.key kind).name := by
  cases kind with
  | deployment =>
    simp [nameOf, dependent, deployment, Dependent.toJson, Deployment.toJson, Json.ofMembers_eq,
      Json.get?, Json.find?, Metadata.toJson, metadata, Json.ofStr?, Json.str?, Identity.key]
  | service =>
    simp [nameOf, dependent, service, Dependent.toJson, Service.toJson, Json.ofMembers_eq,
      Json.get?, Json.find?, Metadata.toJson, metadata, Json.ofStr?, Json.str?, Identity.key]
  | ingress =>
    simp [nameOf, dependent, ingress, Dependent.toJson, Ingress.toJson, Json.ofMembers_eq,
      Json.get?, Json.find?, Metadata.toJson, metadata, Json.ofStr?, Json.str?, Identity.key]

/-! ## Different objects -/

namespace Address

/-- Texts are cut in one way only into a part in front of the last slash and a part behind it. -/
theorem append_slash_inj {xs ys name name' : List Char} (hname : '/' ∉ name)
    (hname' : '/' ∉ name') (h : xs ++ '/' :: name = ys ++ '/' :: name') :
    xs = ys ∧ name = name' := by
  rcases List.append_eq_append_iff.1 h with ⟨zs, hys, hrest⟩ | ⟨zs, hxs, hrest⟩
  · -- whichever of the two parts in front is the longer, what it has more would hold a slash
    cases zs with
    | nil =>
      rw [List.append_nil] at hys
      exact ⟨hys.symm, (List.cons.inj hrest).2⟩
    | cons z zs =>
      have hmem : '/' ∈ name := by
        rw [(List.cons.inj hrest).2]
        simp
      exact absurd hmem hname
  · cases zs with
    | nil =>
      rw [List.append_nil] at hxs
      exact ⟨hxs, (List.cons.inj hrest).2.symm⟩
    | cons z zs =>
      have hmem : '/' ∈ name' := by
        rw [(List.cons.inj hrest).2]
        simp
      exact absurd hmem hname'

/-- Collections of one name hold objects of one sort. -/
theorem same_sort_of_plural_eq {a b : Address} (h : a.plural = b.plural) :
    a.apiPath = b.apiPath ∧ (a.key = b.key → a = b) := by
  -- the four plurals differ
  have hother : ∀ kind : Kind, instancePlural ≠ kind.plural := by
    intro kind
    cases kind <;> decide
  have hkinds : ∀ kind kind' : Kind, kind.plural = kind'.plural → kind = kind' := by
    intro kind kind'
    cases kind <;> cases kind' <;> decide
  cases a with
  | ofInstance key =>
    cases b with
    | ofInstance key' =>
      refine ⟨rfl, ?_⟩
      intro hkey
      exact congrArg ofInstance hkey
    | ofDependent kind key' => exact absurd h (hother kind)
  | ofDependent kind key =>
    cases b with
    | ofInstance key' => exact absurd h.symm (hother kind)
    | ofDependent kind' key' =>
      have hkind : kind = kind' := hkinds kind kind' h
      rw [hkind]
      refine ⟨rfl, ?_⟩
      intro hkey
      exact congrArg (ofDependent kind') hkey

/-- **Different objects of proper keys have different paths.** -/
theorem path_inj {a b : Address} (ha : a.key.Proper) (hb : b.key.Proper) (h : a.path = b.path) :
    a = b := by
  have hpath : ∀ c : Address, c.path.toList = c.collection.toList ++ '/' :: c.key.name.toList := by
    intro c
    simp [path, objectPath]
  have hcollection : ∀ c : Address, c.collection.toList =
      (c.apiPath.toList ++ ("/namespaces/".toList ++ c.key.ns.toList)) ++
        '/' :: c.plural.toList := by
    intro c
    simp [collection_eq]
  -- the name stands behind the last slash
  have hlists : a.path.toList = b.path.toList := congrArg String.toList h
  rw [hpath a, hpath b] at hlists
  rcases append_slash_inj (Dns.slash_not_mem_of_isSubdomain ha.name)
    (Dns.slash_not_mem_of_isSubdomain hb.name) hlists with ⟨hlists', hname⟩
  -- the name of the collection stands behind the one before
  rw [hcollection a, hcollection b] at hlists'
  rcases append_slash_inj a.plural_clean.2 b.plural_clean.2 hlists' with ⟨hfront, hplural⟩
  rcases same_sort_of_plural_eq (String.toList_inj.1 hplural) with ⟨hapi, hsame⟩
  -- the sort tells how long the part in front of the namespace is
  rw [hapi] at hfront
  have hns : a.key.ns.toList = b.key.ns.toList :=
    List.append_cancel_left (List.append_cancel_left hfront)
  apply hsame
  have hns' : a.key.ns = b.key.ns := String.toList_inj.1 hns
  have hname' : a.key.name = b.key.name := String.toList_inj.1 hname
  cases hka : a.key with
  | mk ns name =>
    cases hkb : b.key with
    | mk ns' name' =>
      rw [hka, hkb] at hns' hname'
      simp only at hns' hname'
      rw [hns', hname']

end Address

end InstanceOperator
