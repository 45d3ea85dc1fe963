import FilterQuery.Filter.Basic
import FilterQuery.Json.Reader

/-!
# Reading filter trees leniently

Every JSON value is a filter tree. An object that calls itself a group or has children is a group,
everything else is a filter, of an unknown kind if need be. A field that is missing or of the wrong
type takes its default, and an operator that is present but not known is kept as unrecognized, so
that a fault in one field never changes another one.

A filter may also be written as a list: its kind, then the values of its fields in their order.
-/

namespace FilterQuery

open Json (Variants)

/-- The fields of a filter by their names. -/
abbrev Fields := List (String × Json)

namespace Fields

/-- A field that is read, or its default. -/
def readOr {α : Type} (fields : Fields) (name : String) (read? : Json → Option α) (default : α) :
    α :=
  ((fields.lookup name).bind read?).getD default

/-- A field that is absent takes its default; one that cannot be read is unrecognized. -/
def operator {α : Type} (fields : Fields) (variants : Variants α) (default unrecognized : α) : α :=
  match fields.lookup "operator" with
  | none => default
  | some value => (variants.read? value).getD unrecognized

end Fields

namespace FilterValue

/-- One text or a list of texts. -/
def read? : Json → Option FilterValue
  | .string text => some (.single text)
  | .array items => (items.mapM Json.asString?).map .multiple
  | _ => none

/-- A value that is one text or a list of texts, strictly. -/
def decode (value : Json) : Except Json.Mismatch FilterValue :=
  match read? value with
  | some value => .ok value
  | none => .error (.noVariant "FilterValue")

end FilterValue

namespace Filter

/-- The fields of a kind of filter in their order. -/
def fieldNames : FilterKind → List String
  | .page => ["operator", "value"]
  | .tags => ["value", "includeExtensions"]
  | .fullText => ["operator", "value"]
  | .property => ["propertyName", "propertyIdent", "propertySchema", "operator", "value"]
  | .pageReference => ["value"]
  | .task => ["value", "includeExtensions", "includeAllStatusProperties"]
  | .priority => ["value"]
  | .between => ["startDate", "endDate", "dateProperty"]

/-- The filter of a kind with these fields. -/
def ofFields (fields : Fields) : FilterKind → Filter
  | .page =>
    .page (fields.operator NameOperator.variants .contains .unrecognized) (value fields)
  | .tags => .tags (value fields) (flag fields "includeExtensions")
  | .fullText =>
    .fullText (fields.operator TextOperator.variants .contains .unrecognized) (value fields)
  | .property => .property
    { propertyName := text fields "propertyName"
      propertyIdent := (fields.lookup "propertyIdent").bind Json.asString?
      propertySchema := (fields.lookup "propertySchema").bind fun schema ↦
        (PropertySchema.decode schema).toOption
      operator := fields.operator PropertyOperator.variants .is .unrecognized
      value := value fields }
  | .pageReference => .pageReference (value fields)
  | .task => .task (value fields) (flag fields "includeExtensions")
      (flag fields "includeAllStatusProperties")
  | .priority => .priority (value fields)
  | .between => .between (text fields "startDate") (text fields "endDate")
      (fields.readOr "dateProperty" DateProperty.variants.read? .createdAt)
where
  value (fields : Fields) : FilterValue := fields.readOr "value" FilterValue.read? .empty
  flag (fields : Fields) (name : String) : Bool := fields.readOr name Json.asBool? false
  text (fields : Fields) (name : String) : String := fields.readOr name Json.asString? ""

/-- The kind that a value names. -/
def readKind? (value : Json) : Option FilterKind :=
  value.asString?.bind fun name ↦ FilterKind.variants.lookup name

/-- The filter that an object describes. -/
def ofObject (fields : Fields) : Filter :=
  match (fields.lookup "kind").bind readKind? with
  | some kind => ofFields fields kind
  | none => .unknown

/-- The filter that a list describes: too many fields make it unknown. -/
def ofList : List Json → Filter
  | [] => .unknown
  | first :: rest =>
    match readKind? first with
    | some kind =>
      if rest.length ≤ (fieldNames kind).length then ofFields ((fieldNames kind).zip rest) kind
      else .unknown
    | none => .unknown

end Filter

namespace Node

/-- Whether an object is a group. -/
def isGroup (fields : Fields) : Bool :=
  (fields.lookup "type").bind Json.asString? == some "group" || (fields.lookup "children").isSome

mutual

/-- The tree that a value describes. -/
def read : Json → Node
  | .object fields =>
    if isGroup fields then
      .group (Fields.readOr fields "matchMode" MatchMode.variants.read? .all) (readChildren fields)
    else .leaf (.ofObject fields)
  | .array items => .leaf (.ofList items)
  | _ => .leaf .unknown

/-- The children among the fields of a group. -/
def readChildren : Fields → List Node
  | [] => []
  | (name, value) :: rest => if name = "children" then readItems value else readChildren rest

def readItems : Json → List Node
  | .array items => readList items
  | _ => []

def readList : List Json → List Node
  | [] => []
  | item :: items => read item :: readList items

end

theorem readList_eq_map (items : List Json) : readList items = items.map read := by
  induction items with
  | nil => simp [readList]
  | cons item items ih => simp [readList, ih]

/-- The tree that a text describes. -/
def parse (text : String) : Except Json.ReadError Node := (Json.parse text).map read

end Node

end FilterQuery
