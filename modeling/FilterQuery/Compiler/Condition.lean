import FilterQuery.Datalog.Clause
import FilterQuery.Datalog.Scope
import FilterQuery.Calendar.Timestamp
import FilterQuery.Filter.Basic
import FilterQuery.Schema.Lookup

/-!
# Conditions on an entity

A condition is what a filter asks of an entity once its schema is known and its numbers and dates
have been read. Filters that cannot be read this way have no condition. Every condition states the
names of the helper variables that it needs, each at most once, and its clauses for any choice of
variables under these names; the clauses of a condition that no entity could meet by any of its
alternatives are none at all.
-/

namespace FilterQuery

open Datalog (Clause Comparison Operand Predicate)

inductive Condition
  | pageName (name : String)
  | pageNameTest (predicate : Predicate) (text : String)
  | tag (title : String) (includeExtensions : Bool)
  | content (pattern : Datalog.SearchPattern)
  | flag (attr : String) (isChecked : Bool)
  | link (attr title : String)
  | linkToAny (attr : String) (titles : List String)
  | number (attr : String) (comparison : Comparison) (value : Binary64)
  | instant (attr : String) (comparison : Comparison) (milliseconds : Int)
  | property (name : String) (texts : List String)
  | propertyContains (name : String) (texts : List String) (ignoreCase : Bool)
  | reference (name : String)
  | status (titles : List String) (includeExtensions includeAllStatusProperties : Bool)
  | priority (titles : List String)
  | period (attr : String) (first last : Int)
deriving Repr

/-! ## From filters to conditions -/

namespace PropertyOperator

/-- The comparison of numbers and dates; `is` is equality. -/
def comparison? : PropertyOperator → Option Comparison
  | .is => some .eq
  | .eq => some .eq
  | .lt => some .lt
  | .gt => some .gt
  | .lte => some .lte
  | .gte => some .gte
  | .contains => none
  | .unrecognized => none

end PropertyOperator

namespace NameOperator

/-- The condition on a page's name. -/
def condition? (text : String) : NameOperator → Option Condition
  | .is => some (.pageName text)
  | .contains => some (.pageNameTest .includes text)
  | .startsWith => some (.pageNameTest .startsWith text)
  | .endsWith => some (.pageNameTest .endsWith text)
  | .unrecognized => none

end NameOperator

namespace TextOperator

def condition? (text : String) : TextOperator → Option Condition
  | .contains => some (.content ⟨text, false⟩)
  | .equals => some (.content ⟨text, true⟩)
  | .unrecognized => none

end TextOperator

namespace DateProperty

def attr : DateProperty → String
  | .createdAt => ":block/created-at"
  | .updatedAt => ":block/updated-at"
  | .journalDay => ":block/journal-day"

end DateProperty

/-- The finite number that a text writes, blanks around it aside. -/
def parseNumber? (s : String) : Option Binary64 :=
  (Decimal.parse? (Text.trim s).toList).bind Decimal.nearest?

namespace PropertyFilter

/-- The condition without a usable schema: the property is looked for by its name. -/
def probe? (filter : PropertyFilter) (ignoreCase : Bool) : Option Condition :=
  let name := Text.trim filter.propertyName
  match filter.operator with
  | .is => some (.property name filter.value.texts)
  | .contains => some (.propertyContains name filter.value.texts ignoreCase)
  | _ => none

/-- The condition on an entity reference, by the titles of what it refers to. -/
def linkCondition? (attr : String) : FilterValue → Option Condition
  | .single title => some (.link attr title)
  | .multiple [] => none
  | .multiple titles => some (.linkToAny attr titles)

/-- The condition for a value of a known type. -/
def typed? (filter : PropertyFilter) (ignoreCase : Bool) (schema : PropertySchema) :
    Option Condition :=
  match schema.valueType with
  | .bool => do
    let text ← filter.value.asSingle?
    return .flag schema.keyword (text == "checked")
  | .reference => linkCondition? schema.keyword filter.value
  | .number => do
    let text ← filter.value.asSingle?
    let value ← parseNumber? text
    return .number schema.keyword (← filter.operator.comparison?) value
  | .instant => do
    let text ← filter.value.asSingle?
    let milliseconds ← Calendar.parseTimestamp? text
    return .instant schema.keyword (← filter.operator.comparison?) milliseconds
  | .text => filter.probe? ignoreCase

/-- The condition under the schema that has been found; one without an attribute does not count. -/
def condition? (filter : PropertyFilter) (ignoreCase : Bool) (schema : Option PropertySchema) :
    Option Condition :=
  match schema with
  | some schema =>
    if schema.isNamed then filter.typed? ignoreCase schema else filter.probe? ignoreCase
  | none => filter.probe? ignoreCase

/-- The schema of a property: its own, or the one found by its attribute, or else by its name. -/
def findSchema {Step : Type} (filter : PropertyFilter) (lookup : SchemaLookup Step) :
    Recorded Step (Option PropertySchema) :=
  match filter.propertySchema with
  | some schema => pure (some schema)
  | none => lookup.firstOf filter.propertyIdent (Text.trim filter.propertyName)

end PropertyFilter

namespace Filter

/-- The condition of a filter. Only a property with a known operator looks for a schema. -/
def condition {Step : Type} (ignoreCase : Bool) (lookup : SchemaLookup Step) :
    Filter → Recorded Step (Option Condition)
  | .page operator value => pure (value.asSingle?.bind operator.condition?)
  | .tags value includeExtensions =>
    pure (value.asSingle?.map fun title ↦ .tag title includeExtensions)
  | .fullText operator value => pure (value.asSingle?.bind operator.condition?)
  | .property filter =>
    if filter.operator = .unrecognized then pure none
    else do return filter.condition? ignoreCase (← filter.findSchema lookup)
  | .pageReference value => pure (value.asSingle?.map .reference)
  | .task value includeExtensions includeAllStatusProperties =>
    pure (if value.texts.isEmpty then none
      else some (.status value.texts includeExtensions includeAllStatusProperties))
  | .priority value => pure (if value.texts.isEmpty then none else some (.priority value.texts))
  | .between startDate endDate dateProperty => pure do
    let first ← Calendar.parseTimestamp? startDate
    let last ← Calendar.parseTimestamp? endDate
    return .period dateProperty.attr first last
  | .unknown => pure none

end Filter

/-! ## From conditions to clauses -/

namespace Condition

/-- The names of the helper variables that a condition needs, in the order of their request. -/
def bases : Condition → List String
  | .pageName _ => []
  | .pageNameTest .. => ["name"]
  | .tag _ includeExtensions => if includeExtensions then ["t", "child", "parent"] else ["t"]
  | .content _ => ["title", "pattern"]
  | .flag .. => []
  | .link .. => ["val"]
  | .linkToAny .. => ["ref"]
  | .number .. => ["num"]
  | .instant .. => ["date"]
  | .property .. => []
  | .propertyContains .. => ["v1", "v2", "pattern"]
  | .reference _ => ["ref"]
  | .status _ includeExtensions includeAllStatusProperties =>
    (if includeExtensions || includeAllStatusProperties then ["t", "child", "parent"] else ["t"]) ++
      (if includeAllStatusProperties then ["tag"] else []) ++ ["status"]
  | .priority _ => ["priority"]
  | .period .. => ["date"]

section

variable (entity : String) (helper : String → String)

/-- The variable that takes the place of a name. -/
def var (base : String) : Operand := .var (helper base)

/-- What is tagged with the title itself. -/
def directTag (title : String) : List Clause :=
  [.pattern entity ":block/tags" (some (var helper "t")),
   .pattern (helper "t") ":block/title" (some (.text title))]

/-- What is tagged with an extension of the title. -/
def extendedTag (title : String) : List Clause :=
  [.pattern entity ":block/tags" (some (var helper "child")),
   .pattern (helper "child") ":logseq.property.class/extends" (some (var helper "parent")),
   .pattern (helper "parent") ":block/title" (some (.text title))]

/-- What is tagged with anything that has a status. -/
def statusTag : List Clause :=
  [.pattern entity ":block/tags" (some (var helper "tag")),
   .pattern (helper "tag") ":logseq.property.class/properties"
     (some (.keyword ":logseq.property/status"))]

/-- An attribute whose value has one of the titles. -/
def titled (attr base : String) : List String → List Clause
  | [title] =>
    [.pattern entity attr (some (var helper base)),
     .pattern (helper base) ":block/title" (some (.text title))]
  | titles =>
    [.pattern entity attr (some (var helper base)),
     .either (titles.map fun title ↦ .pattern (helper base) ":block/title" (some (.text title)))]

/-- Any of some alternatives about the entity; no clause if there is none. -/
def anyOf : List Clause → List Clause
  | [] => []
  | branches => [.orJoin entity 2 branches]

/-- One way to hold a text under an attribute. -/
def containing (ignoreCase : Bool) (attr base text : String) : Clause :=
  let bound : Clause := .pattern entity attr (some (var helper base))
  .conj .aligned (if ignoreCase then
    [bound, .regex ⟨text, false⟩ (helper "pattern"),
      .test .find (var helper "pattern") (var helper base)]
  else [bound, .test .includes (var helper base) (.text text)])

end

/-- The attribute of a property that a user has made. -/
def userAttribute (name : String) : String := ":user.property/" ++ name

/-- The attribute of a property that comes with the application. -/
def builtinAttribute (name : String) : String := ":logseq.property/" ++ name

/-- The clauses of a condition on an entity, with `helper` naming its variables. -/
def clauses (entity : String) (helper : String → String) : Condition → List Clause
  | .pageName name => [.pattern entity ":block/name" (some (.text name))]
  | .pageNameTest predicate text =>
    [.pattern entity ":block/name" (some (var helper "name")),
     .test predicate (var helper "name") (.text text)]
  | .tag title includeExtensions =>
    if includeExtensions then
      anyOf entity [.conj .aligned (directTag entity helper title),
        .conj .aligned (extendedTag entity helper title)]
    else directTag entity helper title
  | .content pattern =>
    [.pattern entity ":block/title" (some (var helper "title")),
     .regex pattern (helper "pattern"),
     .test (if pattern.isWhole then .matches else .find) (var helper "pattern")
       (var helper "title")]
  | .flag attr isChecked => [.pattern entity attr (some (.flag isChecked))]
  | .link attr title => titled entity helper attr "val" [title]
  | .linkToAny attr titles =>
    anyOf entity (titles.map fun title ↦
      .conj .inline (titled entity helper attr "ref" [title]))
  | .number attr comparison value =>
    [.pattern entity attr (some (var helper "num")),
     .test (.compare comparison) (var helper "num") (.number value)]
  | .instant attr comparison milliseconds =>
    [.pattern entity attr (some (var helper "date")),
     .test (.compare comparison) (var helper "date") (.instant milliseconds)]
  | .property name texts =>
    anyOf entity (texts.flatMap fun text ↦
      [.pattern entity (userAttribute name) (some (.text text)),
       .pattern entity (builtinAttribute name) (some (.text text))])
  | .propertyContains name texts ignoreCase =>
    anyOf entity (texts.flatMap fun text ↦
      [containing entity helper ignoreCase (userAttribute name) "v1" text,
       containing entity helper ignoreCase (builtinAttribute name) "v2" text])
  | .reference name =>
    [.pattern entity ":block/refs" (some (var helper "ref")),
     .pattern (helper "ref") ":block/name" (some (.text name))]
  | .status titles includeExtensions includeAllStatusProperties =>
    (if includeExtensions || includeAllStatusProperties then
      anyOf entity (
        [.conj .aligned (directTag entity helper "Task")] ++
        (if includeExtensions then [.conj .aligned (extendedTag entity helper "Task")] else []) ++
        (if includeAllStatusProperties then [.conj .aligned (statusTag entity helper)] else []))
    else directTag entity helper "Task") ++
      titled entity helper ":logseq.property/status" "status" titles
  | .priority titles => titled entity helper ":logseq.property/priority" "priority" titles
  | .period attr first last =>
    [.pattern entity attr (some (var helper "date")),
     .test (.compare .gte) (var helper "date") (.instant first),
     .test (.compare .lte) (var helper "date") (.instant last)]

end Condition

end FilterQuery
