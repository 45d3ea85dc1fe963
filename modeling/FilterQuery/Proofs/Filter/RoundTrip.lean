import FilterQuery.Filter.Printer
import FilterQuery.Filter.Reader

/-!
# Reading undoes writing

A filter tree that is written and read again is the same tree, so the lenient reader loses nothing
that the printer wrote: no field falls back to its default, no operator becomes unrecognized, no
filter unknown, and no group a filter. Reading is therefore idempotent by way of writing, whatever
value was read first.
-/

namespace FilterQuery

open Json (Variants)

/-! ## Names of enumerated values -/

/-- A text is read as the value that is spelled like it. -/
theorem Json.Variants.read?_string {α : Type} {variants : Variants α} {name : String} {a : α}
    (h : variants.lookup name = some a) : variants.read? (.string name) = some a := by
  have hnamed : variants.named name = .ok a := by
    unfold Variants.named
    rw [h]
  show (variants.named name).toOption = some a
  rw [hnamed]
  rfl

theorem MatchMode.read?_name (mode : MatchMode) : variants.read? (.string mode.name) = some mode :=
  Variants.read?_string (by cases mode <;> rfl)

theorem NameOperator.read?_name (operator : NameOperator) :
    variants.read? (.string operator.name) = some operator :=
  Variants.read?_string (by cases operator <;> rfl)

theorem TextOperator.read?_name (operator : TextOperator) :
    variants.read? (.string operator.name) = some operator :=
  Variants.read?_string (by cases operator <;> rfl)

theorem PropertyOperator.read?_name (operator : PropertyOperator) :
    variants.read? (.string operator.name) = some operator :=
  Variants.read?_string (by cases operator <;> rfl)

theorem DateProperty.read?_name (property : DateProperty) :
    variants.read? (.string property.name) = some property :=
  Variants.read?_string (by cases property <;> rfl)

theorem Filter.readKind?_name (kind : FilterKind) : readKind? (.string kind.name) = some kind := by
  cases kind <;> rfl

/-! ## Values and schemas -/

theorem mapM_asString?_map (texts : List String) :
    (texts.map Json.string).mapM Json.asString? = some texts := by
  induction texts with
  | nil => rfl
  | cons text texts ih =>
    rw [List.map_cons, List.mapM_cons, ih]
    rfl

theorem FilterValue.read?_toJson (value : FilterValue) : read? value.toJson = some value := by
  cases value with
  | single text => rfl
  | multiple texts =>
    show ((texts.map Json.string).mapM Json.asString?).map multiple = some (multiple texts)
    rw [mapM_asString?_map, Option.map_some]

theorem PropertySchema.decode_toJson (schema : PropertySchema) :
    decode schema.toJson = .ok schema := by
  obtain ⟨ident, valueType, cardinality⟩ := schema
  cases valueType <;> cases cardinality <;> rfl

/-! ## Filters -/

namespace Fields

variable {α : Type} {fields : Fields} {value : Json} {a : α}

theorem readOr_of_lookup {name : String} {read? : Json → Option α} (default : α)
    (hvalue : fields.lookup name = some value) (hread : read? value = some a) :
    fields.readOr name read? default = a := by
  rw [readOr, hvalue, Option.bind_some, hread, Option.getD_some]

theorem operator_of_lookup {variants : Variants α} (default unrecognized : α)
    (hvalue : fields.lookup "operator" = some value) (hread : variants.read? value = some a) :
    fields.operator variants default unrecognized = a := by
  unfold operator
  rw [hvalue]
  simp only [hread, Option.getD_some]

end Fields

namespace Filter

/-- The fields that a filter is written with. -/
def written (filter : Filter) : Fields := filter.toJson.asObject?.getD []

theorem toJson_eq_object (filter : Filter) : filter.toJson = .object filter.written := by
  cases filter <;> rfl

/-- No filter is written with anything that a group is known by. -/
theorem isGroup_written (filter : Filter) : Node.isGroup filter.written = false := by
  cases filter <;> rfl

theorem lookup_kind_written {filter : Filter} {kind : FilterKind} (h : filter.kind? = some kind) :
    filter.written.lookup "kind" = some (.string kind.name) := by
  cases filter <;> cases h <;> rfl

theorem ofObject_of_kind {fields : Fields} {kind : FilterKind}
    (h : fields.lookup "kind" = some (.string kind.name)) :
    ofObject fields = ofFields fields kind := by
  unfold ofObject
  rw [h, Option.bind_some, readKind?_name]

section

variable {fields : Fields}

theorem value_of_lookup {value : FilterValue} (h : fields.lookup "value" = some value.toJson) :
    ofFields.value fields = value :=
  Fields.readOr_of_lookup FilterValue.empty h value.read?_toJson

theorem flag_of_lookup {name : String} {b : Bool} (h : fields.lookup name = some (.bool b)) :
    ofFields.flag fields name = b :=
  Fields.readOr_of_lookup false h rfl

theorem text_of_lookup {name text : String} (h : fields.lookup name = some (.string text)) :
    ofFields.text fields name = text :=
  Fields.readOr_of_lookup "" h rfl

theorem ident_of_lookup {ident : Option String}
    (h : fields.lookup "propertyIdent" = some (.ofOption .string ident)) :
    (fields.lookup "propertyIdent").bind Json.asString? = ident := by
  rw [h, Option.bind_some]
  cases ident <;> rfl

theorem schema_of_lookup {schema : Option PropertySchema}
    (h : fields.lookup "propertySchema" = some (.ofOption PropertySchema.toJson schema)) :
    ((fields.lookup "propertySchema").bind fun value ↦
      (PropertySchema.decode value).toOption) = schema := by
  rw [h, Option.bind_some]
  cases schema with
  | none => rfl
  | some schema =>
    rw [Json.ofOption, PropertySchema.decode_toJson]
    rfl

end

/-- The fields of a filter are read back one by one. -/
theorem ofFields_written {filter : Filter} {kind : FilterKind} (h : filter.kind? = some kind) :
    ofFields filter.written kind = filter := by
  cases filter with
  | page operator value =>
    cases h
    rw [ofFields, Fields.operator_of_lookup _ _ rfl operator.read?_name, value_of_lookup rfl]
  | tags value includeExtensions =>
    cases h
    rw [ofFields, value_of_lookup rfl, flag_of_lookup rfl]
  | fullText operator value =>
    cases h
    rw [ofFields, Fields.operator_of_lookup _ _ rfl operator.read?_name, value_of_lookup rfl]
  | property filter =>
    cases h
    rw [ofFields, text_of_lookup rfl, ident_of_lookup rfl, schema_of_lookup rfl,
      Fields.operator_of_lookup _ _ rfl filter.operator.read?_name, value_of_lookup rfl]
  | pageReference value =>
    cases h
    rw [ofFields, value_of_lookup rfl]
  | task value includeExtensions includeAllStatusProperties =>
    cases h
    rw [ofFields, value_of_lookup rfl, flag_of_lookup rfl, flag_of_lookup rfl]
  | priority value =>
    cases h
    rw [ofFields, value_of_lookup rfl]
  | between startDate endDate dateProperty =>
    cases h
    rw [ofFields, text_of_lookup rfl, text_of_lookup rfl,
      Fields.readOr_of_lookup _ rfl dateProperty.read?_name]
  | unknown => cases h

/-- A filter that is written and read again is the same filter. -/
theorem ofObject_written (filter : Filter) : ofObject filter.written = filter := by
  cases hkind : filter.kind? with
  | none =>
    cases filter with
    | unknown => rfl
    | _ => cases hkind
  | some kind =>
    rw [ofObject_of_kind (lookup_kind_written hkind), ofFields_written hkind]

end Filter

/-! ## Trees -/

namespace Node

mutual

/-- A tree that is written and read again is the same tree. -/
theorem read_toJson (node : Node) : read node.toJson = node := by
  cases node with
  | leaf filter =>
    rw [toJson, filter.toJson_eq_object, read, filter.isGroup_written, filter.ofObject_written]
    rfl
  | group mode children =>
    have hmode : Fields.readOr [("children", .array (toJsonList children)),
        ("matchMode", .string mode.name)] "matchMode" MatchMode.variants.read? .all = mode :=
      Fields.readOr_of_lookup .all rfl mode.read?_name
    have hchildren : readChildren [("children", .array (toJsonList children)),
        ("matchMode", .string mode.name)] = children := by
      rw [readChildren, if_pos rfl, readItems, readList_toJsonList]
    have hgroup : isGroup [("children", .array (toJsonList children)),
        ("matchMode", .string mode.name)] = true := rfl
    rw [toJson, read, if_pos hgroup, hmode, hchildren]

theorem readList_toJsonList (nodes : List Node) : readList (toJsonList nodes) = nodes := by
  cases nodes with
  | nil => rw [toJsonList, readList]
  | cons node nodes => rw [toJsonList, readList, read_toJson, readList_toJsonList]

end

/-- Reading gives back every tree that was written; so after one reading of any value, writing and
reading again changes nothing. -/
theorem reading_undoes_writing :
    (∀ node : Node, read node.toJson = node) ∧
      ∀ value : Json, read (read value).toJson = read value :=
  ⟨read_toJson, fun value ↦ read_toJson (read value)⟩

end Node

end FilterQuery
