import InstanceOperator.Json.Basic

/-!
# Schemas

A description of the values that a field of a custom resource may hold, in the form in which it is
published to the cluster.
-/

namespace InstanceOperator

/-- What a schema says beside the type. -/
structure SchemaNotes where
  title : Option String := none
  description : Option String := none
  /-- Whether `null` is allowed in place of a value. -/
  nullable : Bool := false
deriving DecidableEq, Repr

/-- A schema of texts, or of objects with properties, some of which are required. -/
inductive Schema where
  | string (notes : SchemaNotes)
  | object (notes : SchemaNotes) (properties : List (String × Schema)) (required : List String)

namespace Schema

/-- The properties that hold something, and the required ones among them. -/
def listed (properties : List (String × Json)) (required : List String) : List (String × Json) :=
  (if properties.isEmpty then [] else [("properties", .obj properties)])
    ++ if required.isEmpty then [] else [("required", .arr (required.map .str))]

/-- The published form of a schema, its members in the order of their names. -/
def published (notes : SchemaNotes) (inner : List (String × Json)) (type : String) : Json :=
  .obj
    ((notes.description.map fun d => ("description", .str d)).toList
      ++ (if notes.nullable then [("nullable", .bool true)] else [])
      ++ inner
      ++ (notes.title.map fun t => ("title", .str t)).toList
      ++ [("type", .str type)])

mutual

/-- The published form of a schema. -/
def toJson : Schema → Json
  | .string notes => published notes [] "string"
  | .object notes properties required =>
    published notes (listed (propertiesToJson properties) required) "object"

def propertiesToJson : List (String × Schema) → List (String × Json)
  | [] => []
  | (name, schema) :: rest => (name, toJson schema) :: propertiesToJson rest

end

end Schema

end InstanceOperator
