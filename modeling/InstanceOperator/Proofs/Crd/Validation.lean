import InstanceOperator.Crd.Definition
import InstanceOperator.Proofs.Json.Member

/-!
# The published schema and the reader of instances

The cluster checks instances against the schema that the definition of the custom resource publishes
for their version; the operator reads them with `Instance.ofJson?`. `Crd.Admits` says which values a
published schema admits, going by what the schema states: the type, the required properties, whether
`null` is allowed, and the schemas of properties; other members may be there. What is known of a
schema that has been published is said once for each form of schema (`admits_string_iff`,
`admits_object_iff`), and what the definition declares in one statement (`declares_definition_iff`).

* `Crd.Admits`: the values that a published schema admits.
* `Crd.Declares`: what a definition tells the cluster about its resource.
* `reader_agrees_with_schema`: what the schema admits is read, and what is written is admitted.
-/

namespace InstanceOperator

namespace Crd

/-! ## Published schemas -/

/-- The properties that a published schema describes, each with its own schema. -/
def propertiesOf (schema : Json) : List (String × Json) :=
  match schema.get? "properties" with
  | some (.obj properties) => properties
  | _ => []

/-- The properties that a published schema requires. -/
def requiredOf (schema : Json) : List String :=
  match schema.get? "required" with
  | some (.arr names) => names.filterMap Json.str?
  | _ => []

/-- A published schema admits a value. -/
inductive Admits : (schema value : Json) → Prop where
  | null {schema : Json} (hnullable : schema.get? "nullable" = some (.bool true)) :
      Admits schema .null
  | string {schema : Json} (htype : schema.get? "type" = some (.str "string")) (s : String) :
      Admits schema (.str s)
  | object {schema : Json} {members : List (String × Json)}
      (htype : schema.get? "type" = some (.str "object"))
      (hrequired : ∀ name ∈ requiredOf schema, (Json.find? name members).isSome)
      (hproperties : ∀ name inner, (name, inner) ∈ propertiesOf schema →
        ∀ v, Json.find? name members = some v → Admits inner v) :
      Admits schema (.obj members)

/-- What a definition tells the cluster: the group and the kind of its resource, and the schema of
one of its versions. -/
structure Declares (definition : Json) (group kind version : String) (schema : Json) : Prop where
  group : (definition.get? "spec").bind (·.get? "group") = some (.str group)
  kind : ((definition.get? "spec").bind (·.get? "names")).bind (·.get? "kind") = some (.str kind)
  version : ∃ versions v, (definition.get? "spec").bind (·.get? "versions") = some (.arr versions) ∧
    v ∈ versions ∧ v.get? "name" = some (.str version) ∧
    (v.get? "schema").bind (·.get? "openAPIV3Schema") = some schema

/-- The definition declares one group, one kind, one version and one schema. -/
theorem declares_definition_iff {group kind version : String} {schema : Json} :
    Declares definition group kind version schema ↔
      group = apiGroup ∧ kind = instanceKind ∧ version = instanceVersion ∧
        schema = instanceSchema.toJson := by
  have hgroup : (definition.get? "spec").bind (·.get? "group") = some (.str apiGroup) := by
    simp [definition, Json.get?, Json.find?, Json.findAll]
  have hkind : ((definition.get? "spec").bind (·.get? "names")).bind (·.get? "kind") =
      some (.str instanceKind) := by
    simp [definition, names, Json.get?, Json.find?, Json.findAll]
  have hversions : (definition.get? "spec").bind (·.get? "versions") =
      some (.arr [Crd.version]) := by
    simp [definition, Json.get?, Json.find?, Json.findAll]
  have hname : Crd.version.get? "name" = some (.str instanceVersion) := by
    simp [Crd.version, Json.get?, Json.find?, Json.findAll]
  have hschema : (Crd.version.get? "schema").bind (·.get? "openAPIV3Schema") =
      some instanceSchema.toJson := by
    simp [Crd.version, Json.get?, Json.find?, Json.findAll]
  constructor
  · -- each of the four is at one place of the definition, which holds one value
    rintro ⟨hg, hk, versions, v, hvs, hv, hn, hs⟩
    cases hversions.symm.trans hvs
    obtain rfl := List.mem_singleton.1 hv
    cases hgroup.symm.trans hg
    cases hkind.symm.trans hk
    cases hname.symm.trans hn
    cases hschema.symm.trans hs
    exact ⟨rfl, rfl, rfl, rfl⟩
  · rintro ⟨rfl, rfl, rfl, rfl⟩
    exact ⟨hgroup, hkind, [Crd.version], Crd.version, hversions, List.mem_singleton.2 rfl, hname,
      hschema⟩

/-! ## What is published of a schema -/

section published

variable {notes : SchemaNotes} {properties : List (String × Schema)} {required : List String}
  {v : Json}

theorem get?_type (notes : SchemaNotes) (inner : List (String × Json)) (type : String) :
    (Schema.published notes inner type).get? "type" = some (.str type) := by
  simp [Schema.published, Json.get?, Json.find?, Json.findAll]

/-- No other member of a published schema is called `nullable`. -/
theorem nullable_published_iff (notes : SchemaNotes) {inner : List (String × Json)} (type : String)
    (hinner : Json.findAll "nullable" inner = []) :
    (Schema.published notes inner type).get? "nullable" = some (.bool true) ↔
      notes.nullable = true := by
  obtain ⟨title, description, nullable⟩ := notes
  cases title <;> cases description <;> cases nullable <;>
    simp [Schema.published, Json.get?, Json.find?, Json.findAll_append, Json.findAll_cons, hinner]

theorem propertiesToJson_eq (properties : List (String × Schema)) :
    Schema.propertiesToJson properties = properties.map fun p => (p.1, p.2.toJson) := by
  induction properties with
  | nil => rfl
  | cons p properties ih => rw [Schema.propertiesToJson, ih, List.map_cons]

/-- Of the members of a published schema of objects, the listed ones alone bear these names. -/
theorem get?_listed {name : String} (hname : name = "properties" ∨ name = "required")
    (notes : SchemaNotes) (inner : List (String × Json)) :
    (Schema.published notes inner "object").get? name = Json.find? name inner := by
  obtain ⟨title, description, nullable⟩ := notes
  rcases hname with rfl | rfl <;> cases title <;> cases description <;> cases nullable <;>
    simp [Schema.published, Json.get?, Json.find?, Json.findAll_append, Json.findAll_cons]

/-- The properties of a schema can be read off its published form. -/
theorem propertiesOf_object (notes : SchemaNotes) (properties : List (String × Schema))
    (required : List String) :
    propertiesOf (Schema.object notes properties required).toJson =
      properties.map fun p => (p.1, p.2.toJson) := by
  rw [propertiesOf, Schema.toJson, get?_listed (.inl rfl), propertiesToJson_eq]
  cases properties <;> cases required <;>
    simp [Schema.listed, Json.find?, Json.findAll_cons]

/-- A name is required in the published form exactly if it is required. -/
theorem requiredOf_object (notes : SchemaNotes) (properties : List (String × Schema))
    (required : List String) :
    requiredOf (Schema.object notes properties required).toJson = required := by
  have hread : (required.map Json.str).filterMap Json.str? = required := by
    induction required with
    | nil => rfl
    | cons name required ih => simp [Json.str?, ih]
  rw [requiredOf, Schema.toJson, get?_listed (.inr rfl), propertiesToJson_eq]
  cases properties <;> cases required <;>
    simp_all [Schema.listed, Json.find?, Json.findAll_cons]

/-- Nothing that is listed bears the name of another member. -/
theorem findAll_nullable_listed (properties : List (String × Json)) (required : List String) :
    Json.findAll "nullable" (Schema.listed properties required) = [] := by
  cases properties <;> cases required <;> simp [Schema.listed, Json.findAll_cons]

/-! ## What a published schema admits -/

/-- A schema of texts admits texts, and `null` where it is allowed. -/
theorem admits_string_iff :
    Admits (Schema.string notes).toJson v ↔
      (v = .null ∧ notes.nullable = true) ∨ ∃ s, v = .str s := by
  have htype := get?_type notes [] "string"
  constructor
  · intro h
    cases h with
    | null hnullable => exact .inl ⟨rfl, (nullable_published_iff notes "string" rfl).1 hnullable⟩
    | string _ s => exact .inr ⟨s, rfl⟩
    | object hobject =>
      rw [Schema.toJson, htype] at hobject
      simp at hobject
  · rintro (⟨rfl, hnullable⟩ | ⟨s, rfl⟩)
    · exact .null ((nullable_published_iff notes "string" rfl).2 hnullable)
    · exact .string htype s

/-- A schema of objects admits objects with the required members, whose described members are
admitted; other members may be there. -/
theorem admits_object_iff :
    Admits (Schema.object notes properties required).toJson v ↔
      (v = .null ∧ notes.nullable = true) ∨
        ∃ ms, v = .obj ms ∧ (∀ name ∈ required, (Json.find? name ms).isSome) ∧
          ∀ name schema, (name, schema) ∈ properties →
            ∀ w, Json.find? name ms = some w → Admits schema.toJson w := by
  have htype := get?_type notes (Schema.listed (Schema.propertiesToJson properties) required) "object"
  -- `nullable` is the only way in for a value that is no object
  have hnull := nullable_published_iff notes "object"
    (findAll_nullable_listed (Schema.propertiesToJson properties) required)
  constructor
  · intro h
    cases h with
    | null hnullable => exact .inl ⟨rfl, hnull.1 hnullable⟩
    | string hstring s =>
      rw [Schema.toJson, htype] at hstring
      simp at hstring
    | @object _ ms _ hrequired hproperties =>
      refine .inr ⟨ms, rfl, ?_, ?_⟩
      · rw [requiredOf_object] at hrequired
        exact hrequired
      · intro name schema hmem
        apply hproperties
        rw [propertiesOf_object]
        exact List.mem_map_of_mem hmem
  · rintro (⟨rfl, hnullable⟩ | ⟨ms, rfl, hrequired, hproperties⟩)
    · exact .null (hnull.2 hnullable)
    · refine .object htype ?_ ?_
      · rw [requiredOf_object]
        exact hrequired
      · intro name inner hmem
        rw [propertiesOf_object] at hmem
        obtain ⟨⟨name', schema⟩, hmem', heq⟩ := List.mem_map.1 hmem
        cases heq
        exact hproperties name' schema hmem'

end published

end Crd

/-! ## The parts of an instance -/

open Crd (Admits)

/-- A placeholder that the schema admits is one that is read: it is a text if it is there. -/
theorem InstanceSpec.exists_of_admitted {v : Json} (hv : v.Unambiguous)
    (h : Admits Crd.specSchema.toJson v) : ∃ spec, ofJson? v = some spec := by
  rcases Crd.admits_object_iff.1 h with ⟨rfl, hnullable⟩ | ⟨ms, rfl, -, hproperties⟩
  · cases hnullable
  · cases hv with
    | obj hnames hmembers =>
      have hfoo := hproperties "foo" _ (List.mem_singleton.2 rfl)
      rw [ofJson?, Json.single?_of_nodup hnames]
      -- the member may be left out, for which there is a default
      cases hfind : Json.find? "foo" ms with
      | none => exact ⟨_, rfl⟩
      | some w =>
        rcases Crd.admits_string_iff.1 (hfoo w hfind) with ⟨-, hnullable⟩ | ⟨s, rfl⟩
        · cases hnullable
        · exact ⟨_, rfl⟩

/-- The schema admits `null` and objects for a status, and both are read. -/
theorem Instance.status?_of_admitted {v : Json} (h : Admits Crd.statusSchema.toJson v) :
    ∃ status, status? v = some status := by
  rcases Crd.admits_object_iff.1 h with ⟨rfl, -⟩ | ⟨ms, rfl, -, -⟩
  · exact ⟨none, rfl⟩
  · exact ⟨some {}, rfl⟩

/-- A placeholder is written as the text it is, or not at all. -/
theorem InstanceSpec.admits_toJson (s : InstanceSpec) : Admits Crd.specSchema.toJson s.toJson := by
  refine Crd.admits_object_iff.2 (.inr ⟨_, rfl, by simp, ?_⟩)
  intro name schema hmem w hw
  obtain ⟨rfl, rfl⟩ := Prod.mk.inj (List.mem_singleton.1 hmem)
  have hgiven : Json.find? "foo" (Json.given [("foo", if s.foo = "" then none else some (.str s.foo))]) =
      some w := hw
  refine Crd.admits_string_iff.2 (.inr ?_)
  by_cases hfoo : s.foo = ""
  · simp [Json.find?, hfoo] at hgiven
  · simp [Json.find?, hfoo] at hgiven
    exact ⟨s.foo, hgiven.symm⟩

theorem InstanceStatus.admits_toJson (s : InstanceStatus) :
    Admits Crd.statusSchema.toJson s.toJson :=
  Crd.admits_object_iff.2 (.inr ⟨[], rfl, by simp, by simp⟩)

namespace Instance

/-! ## Instances -/

/-- What the schema admits is read, with its metadata, if they are. -/
theorem exists_of_admitted {ms : List (String × Json)} (hplain : (Json.obj ms).Unambiguous)
    {m : Json} {metadata : Metadata} (hm : Json.find? "metadata" ms = some m)
    (hmetadata : Metadata.ofJson? m = some metadata)
    (h : Admits Crd.instanceSchema.toJson (.obj ms)) :
    ∃ i, ofJson? (.obj ms) = some i ∧ i.metadata = metadata := by
  rcases Crd.admits_object_iff.1 h with ⟨hnull, -⟩ | ⟨_, hms, hrequired, hproperties⟩
  · cases hnull
  · cases hms
    cases hplain with
    | obj hnames hmembers =>
      -- the specification is required, the status is not
      obtain ⟨s, hs⟩ := Option.isSome_iff_exists.1 (hrequired "spec" (List.mem_singleton.2 rfl))
      obtain ⟨spec, hspec⟩ := InstanceSpec.exists_of_admitted
        (hmembers ("spec", s) (Json.mem_of_find? hs)) (hproperties "spec" _ (by simp) s hs)
      obtain ⟨status, hstatus⟩ : ∃ status,
          status? ((Json.find? "status" ms).getD .null) = some status := by
        cases hfind : Json.find? "status" ms with
        | none => exact ⟨none, rfl⟩
        | some t => exact status?_of_admitted (hproperties "status" _ (by simp) t hfind)
      refine ⟨⟨metadata, spec, status⟩, ?_, rfl⟩
      simp [ofJson?, Json.single?_of_nodup hnames, hm, hmetadata, hs, hspec, hstatus]

/-- What is written for an instance the schema admits. -/
theorem admits_toJson (i : Instance) : Admits Crd.instanceSchema.toJson i.toJson := by
  have hspec : Json.find? "spec" (Json.given
      [("apiVersion", some (.str instanceApiVersion)), ("kind", some (.str instanceKind)),
        ("metadata", some i.metadata.toJson), ("spec", some i.spec.toJson),
        ("status", i.status.map InstanceStatus.toJson)]) = some i.spec.toJson := by
    simp [Json.find?]
  have hstatus : Json.find? "status" (Json.given
      [("apiVersion", some (.str instanceApiVersion)), ("kind", some (.str instanceKind)),
        ("metadata", some i.metadata.toJson), ("spec", some i.spec.toJson),
        ("status", i.status.map InstanceStatus.toJson)]) =
      i.status.map InstanceStatus.toJson := by
    cases i.status <;> simp [Json.find?]
  refine Crd.admits_object_iff.2 (.inr ⟨_, rfl, ?_, ?_⟩)
  · intro name hname
    obtain rfl := List.mem_singleton.1 hname
    exact Option.isSome_iff_exists.2 ⟨_, hspec⟩
  · -- the schema describes the specification and the status, and no other member
    intro name schema hmem w hw
    rcases List.mem_cons.1 hmem with heq | hmem
    · cases heq
      cases hspec.symm.trans hw
      exact i.spec.admits_toJson
    · cases List.mem_singleton.1 hmem
      obtain ⟨status, -, rfl⟩ := Option.map_eq_some_iff.1 (hstatus.symm.trans hw)
      exact status.admits_toJson

end Instance

/-! ## The result -/

/-- **Schema and reader agree.** The definition of the custom resource publishes a schema for its
version. An object in which no name is repeated, whose metadata are read and which the schema
admits, is read as an instance with these metadata, whatever else it holds. What is written for an
instance is admitted by the schema, and names the group, the version and the kind that the
definition declares. -/
theorem reader_agrees_with_schema :
    ∃ group kind version schema, Crd.Declares Crd.definition group kind version schema ∧
      version = "v1alpha1" ∧
      (∀ ms m metadata, (Json.obj ms).Unambiguous → Json.find? "metadata" ms = some m →
        Metadata.ofJson? m = some metadata → Admits schema (.obj ms) →
        ∃ i, Instance.ofJson? (.obj ms) = some i ∧ i.metadata = metadata) ∧
      (∀ i : Instance, Admits schema i.toJson ∧
        i.toJson.get? "apiVersion" = some (.str (group ++ "/" ++ version)) ∧
        i.toJson.get? "kind" = some (.str kind)) := by
  refine ⟨apiGroup, instanceKind, instanceVersion, Crd.instanceSchema.toJson,
    Crd.declares_definition_iff.2 ⟨rfl, rfl, rfl, rfl⟩, rfl, ?_, ?_⟩
  · intro ms m metadata hplain hm hmetadata hadmits
    exact Instance.exists_of_admitted hplain hm hmetadata hadmits
  · intro i
    refine ⟨i.admits_toJson, ?_, ?_⟩
    · simp [Instance.toJson, Json.ofMembers_eq, Json.get?, Json.find?, instanceApiVersion]
    · simp [Instance.toJson, Json.ofMembers_eq, Json.get?, Json.find?]

/-- An instance as a cluster may keep it: no placeholder, `null` for its status, and members that
the schema does not describe. -/
def keptMembers : List (String × Json) :=
  [("apiVersion", .str instanceApiVersion), ("kind", .str instanceKind),
   ("metadata", .obj [("name", .str "mine"), ("namespace", .str "prod")]),
   ("spec", .obj [("colour", .str "red")]), ("status", .null)]

theorem unambiguous_keptMembers : (Json.obj keptMembers).Unambiguous := by
  refine .obj (by decide) fun m hm => ?_
  simp only [keptMembers, List.mem_cons, List.not_mem_nil, or_false] at hm
  rcases hm with rfl | rfl | rfl | rfl | rfl
  · exact .str _
  · exact .str _
  · refine .obj (by decide) fun m hm => ?_
    simp only [List.mem_cons, List.not_mem_nil, or_false] at hm
    rcases hm with rfl | rfl
    · exact .str _
    · exact .str _
  · refine .obj (by decide) fun m hm => ?_
    obtain rfl := List.mem_singleton.1 hm
    exact .str _
  · exact .null

/-- The schema leaves a member that it does not describe alone, and lets the status be `null`. -/
theorem admits_keptMembers : Admits Crd.instanceSchema.toJson (.obj keptMembers) := by
  refine Crd.admits_object_iff.2 (.inr ⟨_, rfl, ?_, ?_⟩)
  · intro name hname
    obtain rfl := List.mem_singleton.1 hname
    rfl
  · intro name schema hmem w hw
    rcases List.mem_cons.1 hmem with heq | hmem
    · cases heq
      cases hw
      refine Crd.admits_object_iff.2 (.inr ⟨_, rfl, by simp, ?_⟩)
      intro name schema hmem w hw
      obtain ⟨rfl, -⟩ := Prod.mk.inj (List.mem_singleton.1 hmem)
      cases hw
    · cases List.mem_singleton.1 hmem
      cases hw
      exact Crd.admits_object_iff.2 (.inl ⟨rfl, rfl⟩)

theorem kept_instance_is_read :
    Admits Crd.instanceSchema.toJson (.obj keptMembers) ∧
      ∃ i, Instance.ofJson? (.obj keptMembers) = some i ∧
        i.metadata = { name := some "mine", ns := some "prod" } := by
  -- The result speaks of a schema that is declared; there is only one.
  obtain ⟨group, kind, version, schema, hdeclares, -, hread, -⟩ := reader_agrees_with_schema
  obtain ⟨-, -, -, rfl⟩ := Crd.declares_definition_iff.1 hdeclares
  exact ⟨admits_keptMembers,
    hread keptMembers _ _ unambiguous_keptMembers rfl rfl admits_keptMembers⟩

end InstanceOperator
