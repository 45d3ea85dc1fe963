import FilterQuery.Json.RecordReader

/-!
# Property schemas

The schema of a property names its attribute and says what type its values have. An attribute may be
written with or without the leading colon of a keyword. Schemas are read from JSON values and
directly from text, with the same fields and the same spellings.
-/

namespace FilterQuery

open Json (Mismatch Variants)

inductive ValueType
  | bool
  | reference
  | number
  | instant
  | text
deriving DecidableEq, Repr

inductive Cardinality
  | one
  | many
deriving DecidableEq, Repr

structure PropertySchema where
  ident : String
  valueType : ValueType
  cardinality : Cardinality
deriving DecidableEq, Repr

namespace ValueType

/-- The accepted spellings, the host application's keyword before the plain name. -/
def variants : Variants ValueType :=
  [(":db.type/boolean", .bool), ("boolean", .bool),
   (":db.type/ref", .reference), ("ref", .reference),
   (":db.type/number", .number), ("number", .number),
   (":db.type/instant", .instant), ("instant", .instant),
   (":db.type/string", .text), ("text", .text)]

def name : ValueType → String
  | .bool => "boolean"
  | .reference => "ref"
  | .number => "number"
  | .instant => "instant"
  | .text => "text"

/-- The name as a heading. -/
def title : ValueType → String
  | .bool => "Boolean"
  | .reference => "Ref"
  | .number => "Number"
  | .instant => "Instant"
  | .text => "Text"

theorem read?_name (type : ValueType) : variants.read? (.string type.name) = some type := by
  cases type <;> rfl

end ValueType

namespace Cardinality

def variants : Variants Cardinality :=
  [(":db.cardinality/one", .one), ("one", .one), (":db.cardinality/many", .many), ("many", .many)]

def name : Cardinality → String
  | .one => "one"
  | .many => "many"

/-- Anything that is no cardinality counts as one. -/
def read (value : Json) : Cardinality := (variants.read? value).getD .one

theorem read_name (cardinality : Cardinality) :
    read (.string cardinality.name) = cardinality := by
  cases cardinality <;> rfl

end Cardinality

/-- A text without any colons at its start. -/
def dropColons (s : String) : String := String.ofList (s.toList.dropWhile (· == ':'))

namespace PropertySchema

/-- The attribute as it stands in a query, with a colon in front. -/
def keyword (schema : PropertySchema) : String :=
  if schema.ident.toList.head? = some ':' then schema.ident else ":" ++ schema.ident

/-- Whether the schema names an attribute at all. -/
def isNamed (schema : PropertySchema) : Bool := dropColons schema.ident != ""

/-! ## Reading -/

/-- What is known of a schema while its fields are read. -/
structure Draft where
  ident : Option String
  valueType : Option ValueType
  cardinality : Cardinality
deriving DecidableEq, Repr

namespace Draft

def empty : Draft := ⟨none, none, .one⟩

/-- The schema, or the first field that it lacks. -/
def finish (draft : Draft) (isList : Bool) : Except Mismatch PropertySchema :=
  let title := "struct PropertySchema with 3 elements"
  match draft.ident, draft.valueType with
  | some ident, some valueType => .ok ⟨ident, valueType, draft.cardinality⟩
  | none, _ => .error (if isList then .invalidLength 0 title else .missingField "ident")
  | some _, none => .error (if isList then .invalidLength 1 title else .missingField "valueType")

def field (draft : Draft) (name : String) (value : Json) : Except Mismatch Draft :=
  match name with
  | "ident" => do return { draft with ident := some (← Json.expectString value) }
  | "valueType" => do return { draft with valueType := some (← ValueType.variants.expect value) }
  | "cardinality" => .ok { draft with cardinality := .read value }
  | _ => .ok draft

def fieldReader (depth : Nat) : Json.Reader.FieldReader Draft := fun draft name cs ↦
  match name with
  | "ident" => do
    let (ident, cs) ← Json.Reader.expectString "a string" cs
    return ({ draft with ident := some ident }, cs)
  | "valueType" => do
    let (valueType, cs) ← Json.Reader.expectVariant ValueType.variants cs
    return ({ draft with valueType := some valueType }, cs)
  | "cardinality" => do
    let (value, cs) ← Json.Reader.value depth cs
    return ({ draft with cardinality := .read value }, cs)
  | _ => .ok (draft, cs)

end Draft

def fieldNames : List String := ["ident", "valueType", "cardinality"]

/-- A schema from a value. -/
def decode (value : Json) : Except Mismatch PropertySchema := do
  let draft ← Json.expectRecord "PropertySchema" fieldNames Draft.field .empty value
  draft.finish value.asArray?.isSome

/-- A schema directly from text; `depth` bounds the nesting of its fields. -/
def reader (depth : Nat) (cs : List Char) :
    Except Json.Stop (PropertySchema × List Char) := do
  let ((draft, isList), cs) ←
    Json.Reader.expectRecord "PropertySchema" fieldNames (Draft.fieldReader depth) .empty cs
  match draft.finish isList with
  | .ok schema => return (schema, cs)
  | .error fault => .error (.here (.mismatch fault) cs)

/-- The members of an object as schemas by name. -/
def decodeTable (value : Json) : Except Mismatch (Keyed PropertySchema) := do
  (← Json.expectMap value).mapM fun (name, schema) ↦ do return (name, ← decode schema)

def toJson (schema : PropertySchema) : Json :=
  .object [("cardinality", .string schema.cardinality.name), ("ident", .string schema.ident),
    ("valueType", .string schema.valueType.name)]

end PropertySchema

end FilterQuery
