import FilterQuery.Proofs.Filter.RoundTrip

/-!
# Reading keeps defects apart

Every value is read as a tree, and a defect stays where it is. A group is read child by child, a
filter of a known kind field by field: each field of it is a function of the value under its own
name alone. Replacing what stands at a place of a value therefore replaces what is read at that
place of the tree, and nothing else.
-/

namespace FilterQuery

open Json (Variants)

/-! ## Fields -/

/-- How one field is read: what is kept of a value that it accepts, and what stands for a value that
is missing or that cannot be read. -/
structure FieldReading where
  accept? : Json → Option Json
  missing : Json
  unreadable : Json

namespace FieldReading

variable {α : Type} (read? : Json → Option α) (write : α → Json) (variants : Variants α)
  (name : α → String) (default unrecognized : α) (fields : Fields) (field : String)

/-- What is read from the value of the field, if it has one. -/
def read (reading : FieldReading) : Option Json → Json
  | none => reading.missing
  | some value => (reading.accept? value).getD reading.unreadable

/-- A field that takes its default where it cannot be read. -/
def lenient : FieldReading where
  accept? value := (read? value).map write
  missing := write default
  unreadable := write default

/-- A field that is empty where it cannot be read. -/
def optional : FieldReading where
  accept? value := (read? value).map write
  missing := .null
  unreadable := .null

/-- A field that takes its default where it is missing, and is unrecognized where it cannot be
read. -/
def operator : FieldReading where
  accept? value := (variants.read? value).map fun operator ↦ .string (name operator)
  missing := .string (name default)
  unreadable := .string (name unrecognized)

def text : FieldReading := lenient Json.asString? .string ""

def flag : FieldReading := lenient Json.asBool? .bool false

def value : FieldReading := lenient FilterValue.read? FilterValue.toJson .empty

def ident : FieldReading := optional Json.asString? .string

def schema : FieldReading :=
  optional (fun value ↦ (PropertySchema.decode value).toOption) PropertySchema.toJson

def date : FieldReading :=
  lenient DateProperty.variants.read? (fun property ↦ .string property.name) .createdAt

theorem read_lenient :
    (lenient read? write default).read (fields.lookup field) =
      write (fields.readOr field read? default) := by
  unfold Fields.readOr
  cases fields.lookup field with
  | none => rfl
  | some value =>
    show ((read? value).map write).getD (write default) = write ((read? value).getD default)
    cases read? value <;> rfl

theorem read_optional :
    (optional read? write).read (fields.lookup field) =
      .ofOption write ((fields.lookup field).bind read?) := by
  cases fields.lookup field with
  | none => rfl
  | some value =>
    show ((read? value).map write).getD .null = .ofOption write (read? value)
    cases read? value <;> rfl

theorem read_operator :
    (operator variants name default unrecognized).read (fields.lookup "operator") =
      .string (name (fields.operator variants default unrecognized)) := by
  unfold Fields.operator
  cases fields.lookup "operator" with
  | none => rfl
  | some value =>
    show ((variants.read? value).map fun operator ↦ Json.string (name operator)).getD
      (.string (name unrecognized)) = .string (name ((variants.read? value).getD unrecognized))
    cases variants.read? value <;> rfl

end FieldReading

namespace Filter

/-- The field of a filter under a name, as it is written. -/
def field? (filter : Filter) (name : String) : Option Json := filter.toJson.get? name

/-- The fields of a kind of filter and how each of them is read. -/
def fieldReadings : FilterKind → List (String × FieldReading)
  | .page =>
    [("operator", .operator NameOperator.variants NameOperator.name .contains .unrecognized),
     ("value", .value)]
  | .tags => [("value", .value), ("includeExtensions", .flag)]
  | .fullText =>
    [("operator", .operator TextOperator.variants TextOperator.name .contains .unrecognized),
     ("value", .value)]
  | .property =>
    [("propertyName", .text), ("propertyIdent", .ident), ("propertySchema", .schema),
     ("operator", .operator PropertyOperator.variants PropertyOperator.name .is .unrecognized),
     ("value", .value)]
  | .pageReference => [("value", .value)]
  | .task =>
    [("value", .value), ("includeExtensions", .flag), ("includeAllStatusProperties", .flag)]
  | .priority => [("value", .value)]
  | .between => [("startDate", .text), ("endDate", .text), ("dateProperty", .date)]

theorem map_fst_fieldReadings (kind : FilterKind) :
    (fieldReadings kind).map Prod.fst = fieldNames kind := by
  cases kind <;> rfl

/-- A filter of a kind, each field of which is read from the value under its own name. -/
structure IsReadFrom (filter : Filter) (kind : FilterKind) (fields : Fields) : Prop where
  kind?_eq : filter.kind? = some kind
  field?_eq : ∀ field ∈ fieldReadings kind,
    filter.field? field.1 = some (field.2.read (fields.lookup field.1))

theorem isReadFrom_ofFields (fields : Fields) (kind : FilterKind) :
    (ofFields fields kind).IsReadFrom kind fields where
  kind?_eq := by cases kind <;> rfl
  field?_eq := by
    have htext (name : String) :
        FieldReading.text.read (fields.lookup name) = .string (ofFields.text fields name) :=
      FieldReading.read_lenient Json.asString? .string "" fields name
    have hflag (name : String) :
        FieldReading.flag.read (fields.lookup name) = .bool (ofFields.flag fields name) :=
      FieldReading.read_lenient Json.asBool? .bool false fields name
    have hvalue : FieldReading.value.read (fields.lookup "value") =
        (ofFields.value fields).toJson :=
      FieldReading.read_lenient FilterValue.read? FilterValue.toJson .empty fields "value"
    cases kind with
    | page | fullText =>
      simp only [fieldReadings, List.forall_mem_cons, hvalue, FieldReading.read_operator]
      exact ⟨rfl, rfl, nofun⟩
    | tags =>
      simp only [fieldReadings, List.forall_mem_cons, hvalue, hflag]
      exact ⟨rfl, rfl, nofun⟩
    | property =>
      simp only [fieldReadings, List.forall_mem_cons, hvalue, htext, FieldReading.read_operator,
        FieldReading.ident, FieldReading.schema, FieldReading.read_optional]
      exact ⟨rfl, rfl, rfl, rfl, rfl, nofun⟩
    | pageReference | priority =>
      simp only [fieldReadings, List.forall_mem_cons, hvalue]
      exact ⟨rfl, nofun⟩
    | task =>
      simp only [fieldReadings, List.forall_mem_cons, hvalue, hflag]
      exact ⟨rfl, rfl, rfl, nofun⟩
    | between =>
      simp only [fieldReadings, List.forall_mem_cons, htext, FieldReading.date,
        FieldReading.read_lenient]
      exact ⟨rfl, rfl, rfl, nofun⟩

/-- The same value under the name of a field is read as the same field. -/
theorem IsReadFrom.field?_eq_of_lookup {filter filter' : Filter} {kind : FilterKind}
    {fields fields' : Fields} {name : String} (h : filter.IsReadFrom kind fields)
    (h' : filter'.IsReadFrom kind fields') (hname : name ∈ fieldNames kind)
    (hsame : fields.lookup name = fields'.lookup name) :
    filter.field? name = filter'.field? name := by
  rw [← map_fst_fieldReadings] at hname
  obtain ⟨field, hfield, rfl⟩ := List.mem_map.mp hname
  rw [h.field?_eq field hfield, h'.field?_eq field hfield, hsame]

/-- The filter of a kind is a function of the values under the names of its fields. -/
theorem ofFields_congr {fields fields' : Fields} {kind : FilterKind}
    (h : ∀ name ∈ fieldNames kind, fields.lookup name = fields'.lookup name) :
    ofFields fields kind = ofFields fields' kind := by
  cases kind <;>
    simp only [fieldNames, List.forall_mem_cons] at h <;>
    simp only [ofFields, Fields.operator, ofFields.value, ofFields.text, ofFields.flag,
      Fields.readOr, h]

/-- The kind and the fields determine a filter. -/
theorem IsReadFrom.eq_ofFields {filter : Filter} {kind : FilterKind} {fields : Fields}
    (h : filter.IsReadFrom kind fields) : filter = ofFields fields kind := by
  have hread := isReadFrom_ofFields fields kind
  have hsame : ∀ name ∈ fieldNames kind,
      filter.written.lookup name = (ofFields fields kind).written.lookup name := by
    intro name hname
    have heq := h.field?_eq_of_lookup hread hname rfl
    rwa [field?, field?, toJson_eq_object, toJson_eq_object] at heq
  calc
    filter = ofFields filter.written kind := (ofFields_written h.kind?_eq).symm
    _ = ofFields (ofFields fields kind).written kind := ofFields_congr hsame
    _ = ofFields fields kind := ofFields_written hread.kind?_eq

/-! ## Kinds -/

/-- A value names a kind of filter only as the text that is that kind's name. -/
theorem readKind?_eq_some_iff {value : Json} {kind : FilterKind} :
    readKind? value = some kind ↔ value = .string kind.name := by
  constructor
  · intro h
    obtain ⟨name, hvalue, hname⟩ := Option.bind_eq_some_iff.mp h
    obtain ⟨before, after, hvariants, -⟩ := List.lookup_eq_some_iff.mp hname
    have hmem : (name, kind) ∈ FilterKind.variants := by simp [hvariants]
    have hspelled : ∀ entry ∈ FilterKind.variants, entry.1 = entry.2.name := by
      simp [FilterKind.variants, FilterKind.name]
    cases value with
    | string text =>
      cases hvalue
      exact congrArg Json.string (hspelled _ hmem)
    | _ => cases hvalue
  · rintro rfl
    exact readKind?_name kind

/-- An object describes an unknown filter exactly if it names no kind. -/
theorem ofObject_eq_unknown_iff {fields : Fields} :
    ofObject fields = .unknown ↔
      ∀ kind : FilterKind, fields.lookup "kind" ≠ some (.string kind.name) := by
  constructor
  · intro h kind hkind
    have hnone := (isReadFrom_ofFields fields kind).kind?_eq
    rw [← ofObject_of_kind hkind, h] at hnone
    cases hnone
  · intro h
    unfold ofObject
    cases hkind : (fields.lookup "kind").bind readKind? with
    | none => rfl
    | some kind =>
      obtain ⟨value, hvalue, hread⟩ := Option.bind_eq_some_iff.mp hkind
      exact absurd (readKind?_eq_some_iff.mp hread ▸ hvalue) (h kind)

end Filter

/-! ## Groups -/

/-- Whether a value calls itself a group or has children, whatever these are. -/
def Json.DescribesGroup (value : Json) : Prop :=
  value.get? "type" = some (.string "group") ∨ ∃ children, value.get? "children" = some children

/-- The items under the name of the children, none if what stands there is no list. -/
def Json.childItems (value : Json) : List Json :=
  ((value.get? "children").bind asArray?).getD []

namespace Node

theorem isGroup_iff {fields : Fields} :
    isGroup fields = true ↔ (Json.object fields).DescribesGroup := by
  have htype : (fields.lookup "type").bind Json.asString? = some "group" ↔
      fields.lookup "type" = some (.string "group") := by
    cases fields.lookup "type" with
    | none => simp
    | some value => cases value <;> simp [Json.asString?]
  simp only [isGroup, Json.DescribesGroup, Json.get?, Bool.or_eq_true, beq_iff_eq, htype,
    Option.isSome_iff_exists]

theorem readChildren_eq_map (fields : Fields) :
    readChildren fields = (Json.object fields).childItems.map read := by
  have hitems (value : Json) : readItems value = (value.asArray?.getD []).map read := by
    cases value with
    | array items => exact readList_eq_map items
    | _ => rfl
  induction fields with
  | nil => rfl
  | cons entry rest ih =>
    obtain ⟨name, value⟩ := entry
    by_cases hname : name = "children"
    · subst hname
      rw [readChildren, if_pos rfl, hitems]
      rfl
    · have hne : ("children" == name) = false := beq_false_of_ne (Ne.symm hname)
      rw [readChildren, if_neg hname, ih, Json.childItems, Json.childItems, Json.get?, Json.get?,
        List.lookup_cons, hne]

/-- A value that describes a group is read as one, child by child. -/
theorem read_of_describesGroup {value : Json} (h : value.DescribesGroup) :
    read value = .group (((value.get? "matchMode").bind MatchMode.variants.read?).getD .all)
      (value.childItems.map read) := by
  cases value with
  | object fields =>
    rw [read, if_pos (isGroup_iff.mpr h), readChildren_eq_map]
    rfl
  | _ => obtain h | ⟨_, h⟩ := h <;> cases h

/-- An object that describes no group is read as a filter. -/
theorem read_object_of_not_describesGroup {fields : Fields}
    (h : ¬(Json.object fields).DescribesGroup) :
    read (.object fields) = .leaf (.ofObject fields) := by
  rw [read, if_neg (mt isGroup_iff.mp h)]

end Node

/-! ## Places in a tree -/

/-- Changes the items of a list. -/
def Json.modifyItems (change : List Json → List Json) : Json → Json
  | .array items => .array (change items)
  | value => value

/-- Puts a value in the place of the child that a path of positions leads to, if there is one. -/
def Json.replaceAt : Json → List Nat → Json → Json
  | _, [], new => new
  | .object members, position :: path, new =>
    .object (Keyed.modify "children"
      (modifyItems fun items ↦ items.modify position fun item ↦ item.replaceAt path new) members)
  | value, _ :: _, _ => value

/-- Puts a tree in the place of the child that a path of positions leads to, if there is one. -/
def Node.replaceAt : Node → List Nat → Node → Node
  | _, [], new => new
  | .group mode children, position :: path, new =>
    .group mode (children.modify position fun child ↦ child.replaceAt path new)
  | .leaf filter, _ :: _, _ => .leaf filter

section

variable (value : Json) (position : Nat) (path : List Nat) (new : Json)

/-- Replacing below the root leaves all members but the children as they are. -/
theorem Json.get?_replaceAt_cons {name : String} (h : name ≠ "children") :
    (value.replaceAt (position :: path) new).get? name = value.get? name := by
  cases value with
  | object members => exact Keyed.lookup_modify_of_ne h _ members
  | _ => rfl

theorem Json.get?_children_replaceAt_cons :
    (value.replaceAt (position :: path) new).get? "children" =
      (value.get? "children").map
        (modifyItems fun items ↦ items.modify position fun item ↦ item.replaceAt path new) := by
  cases value with
  | object members => exact Keyed.lookup_modify_self "children" _ members
  | _ => rfl

/-- Replacing below the root replaces inside one child. -/
theorem Json.childItems_replaceAt_cons :
    (value.replaceAt (position :: path) new).childItems =
      value.childItems.modify position fun item ↦ item.replaceAt path new := by
  rw [childItems, childItems, get?_children_replaceAt_cons]
  cases value.get? "children" with
  | none => exact (List.modify_nil ..).symm
  | some children =>
    cases children with
    | array items => rfl
    | _ => exact (List.modify_nil ..).symm

theorem Json.describesGroup_replaceAt_cons :
    (value.replaceAt (position :: path) new).DescribesGroup ↔ value.DescribesGroup := by
  rw [DescribesGroup, DescribesGroup, get?_replaceAt_cons _ _ _ _ (by decide),
    get?_children_replaceAt_cons]
  simp only [Option.map_eq_some_iff, exists_comm, exists_and_left, exists_eq', and_true]

/-- There is no place below a value that describes no group. -/
theorem Json.replaceAt_cons_of_not_describesGroup (h : ¬value.DescribesGroup) :
    value.replaceAt (position :: path) new = value := by
  cases value with
  | object members =>
    refine congrArg Json.object (Keyed.modify_eq_self fun children hchildren ↦ ?_)
    exact absurd (.inr ⟨children, hchildren⟩) h
  | _ => rfl

end

theorem map_modify_of_comm {α β : Type} {read : α → β} {change : α → α} (change' : β → β)
    (h : ∀ a, read (change a) = change' (read a)) (position : Nat) (items : List α) :
    (items.modify position change).map read = (items.map read).modify position change' := by
  refine List.ext_getElem? fun index ↦ ?_
  simp only [List.getElem?_map, List.getElem?_modify]
  cases items[index]? with
  | none => rfl
  | some item => by_cases heq : position = index <;> simp [heq, h]

namespace Node

/-- What does not describe a group is read as one filter. -/
theorem read_eq_leaf_of_not_describesGroup {value : Json} (h : ¬value.DescribesGroup) :
    ∃ filter, read value = .leaf filter := by
  cases value with
  | object fields => exact ⟨.ofObject fields, read_object_of_not_describesGroup h⟩
  | array items => exact ⟨.ofList items, by rw [read]⟩
  | _ => exact ⟨.unknown, by rw [read] <;> exact nofun⟩

/-- Replacing at a place of a value replaces what is read at that place of the tree. -/
theorem read_replaceAt (value : Json) (path : List Nat) (new : Json) :
    read (value.replaceAt path new) = (read value).replaceAt path (read new) := by
  induction path generalizing value with
  | nil => rw [Json.replaceAt, replaceAt]
  | cons position path ih =>
    by_cases hgroup : value.DescribesGroup
    · have hgroup' := (Json.describesGroup_replaceAt_cons value position path new).mpr hgroup
      rw [read_of_describesGroup hgroup', read_of_describesGroup hgroup, replaceAt,
        Json.get?_replaceAt_cons _ _ _ _ (by decide), Json.childItems_replaceAt_cons,
        map_modify_of_comm (fun child ↦ child.replaceAt path (read new)) ih]
    · -- below a filter there is no place, in the value as little as in the tree
      obtain ⟨filter, hfilter⟩ := read_eq_leaf_of_not_describesGroup hgroup
      rw [Json.replaceAt_cons_of_not_describesGroup _ _ _ _ hgroup, hfilter, replaceAt]

/-- An object that describes a filter still does so with another value for one of its fields, and
names the same kind. -/
theorem describes_of_agree {kind : FilterKind} {name : String} {fields fields' : Fields}
    (hname : name ∈ Filter.fieldNames kind)
    (hagree : ∀ other ≠ name, fields'.lookup other = fields.lookup other) :
    ((Json.object fields').DescribesGroup ↔ (Json.object fields).DescribesGroup) ∧
      fields'.lookup "kind" = fields.lookup "kind" := by
  have hreserved : "type" ≠ name ∧ "children" ≠ name ∧ "kind" ≠ name := by
    revert name
    cases kind <;> simp [Filter.fieldNames]
  obtain ⟨htype, hchildren, hkind⟩ := hreserved
  refine ⟨?_, hagree "kind" hkind⟩
  simp only [Json.DescribesGroup, Json.get?, hagree "type" htype, hagree "children" hchildren]

/-- Every value is read as a tree: a group exactly if the value describes one, and then from its
items one by one; else a filter, of no kind if it names none, and else from the values under the
names of its fields. Changing the value of one field of a filter keeps its kind and its other
fields, and replacing what stands at one place of a value keeps the rest of the tree. -/
theorem reading_isolates_defects (value : Json) :
    (∀ text, Json.parse text = .ok value → parse text = .ok (read value)) ∧
    (value.DescribesGroup →
      read value = .group (((value.get? "matchMode").bind MatchMode.variants.read?).getD .all)
        (value.childItems.map read)) ∧
    (¬value.DescribesGroup → ∃ filter, read value = .leaf filter ∧
      ∀ fields, value = .object fields →
        (filter = .unknown ↔
          ∀ kind : FilterKind, fields.lookup "kind" ≠ some (.string kind.name)) ∧
        ∀ kind : FilterKind, fields.lookup "kind" = some (.string kind.name) →
          (∀ other : Filter, other.IsReadFrom kind fields ↔ other = filter) ∧
          ∀ name ∈ Filter.fieldNames kind, ∀ fields' : Fields,
            (∀ other ≠ name, fields'.lookup other = fields.lookup other) →
            ∃ filter' : Filter, read (.object fields') = .leaf filter' ∧
              filter'.IsReadFrom kind fields' ∧
              ∀ other ∈ Filter.fieldNames kind, other ≠ name →
                filter'.field? other = filter.field? other) ∧
    ∀ path new, read (value.replaceAt path new) = (read value).replaceAt path (read new) := by
  refine ⟨fun text htext ↦ by rw [parse, htext]; rfl, read_of_describesGroup, fun hfilter ↦ ?_,
    read_replaceAt value⟩
  obtain ⟨filter, hread⟩ := read_eq_leaf_of_not_describesGroup hfilter
  refine ⟨filter, hread, ?_⟩
  rintro fields rfl
  obtain rfl : Filter.ofObject fields = filter := by
    rw [read_object_of_not_describesGroup hfilter] at hread
    exact leaf.inj hread
  refine ⟨Filter.ofObject_eq_unknown_iff, fun kind hkind ↦ ?_⟩
  rw [Filter.ofObject_of_kind hkind]
  have hfields := Filter.isReadFrom_ofFields fields kind
  refine ⟨fun other ↦ ⟨fun hother ↦ hother.eq_ofFields, fun heq ↦ heq ▸ hfields⟩, ?_⟩
  intro name hname fields' hagree
  obtain ⟨hgroup, hkind'⟩ := describes_of_agree hname hagree
  have hfields' := Filter.isReadFrom_ofFields fields' kind
  refine ⟨Filter.ofFields fields' kind, ?_, hfields', fun other hother hne ↦ ?_⟩
  · rw [read_object_of_not_describesGroup (mt hgroup.mp hfilter),
      Filter.ofObject_of_kind (hkind'.trans hkind)]
  · exact hfields'.field?_eq_of_lookup hfields hother (hagree other hne)

end Node

end FilterQuery
