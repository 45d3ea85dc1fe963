import FilterQuery.Graph.Keyword
import FilterQuery.Reference.Resolver

/-!
# Searching a graph

Titles and schemas are looked up in a graph by a query each. A search sends its main query, takes
the rows that are entities as its records, resolves their references and keeps the first of them.
-/

namespace FilterQuery.Graph

/-- The title that the first row gives. -/
def titleOfRows? (rows : List Json) : Option String :=
  ((firstEntity? rows).bind (attribute? · "block/title")).bind Json.asString?

/-- Looks up the title of an entity in the graph. -/
def titleLookup (executor : Executor) (graph : String) : Reference.TitleLookup Call :=
  fun uuid ↦ do
    match ← executor.run graph (titleQuery uuid) with
    | .ok rows => return .ok (titleOfRows? rows)
    | .error error => return .error (.execution error)

/-- The schema under a keyword that the first row gives; it must have a type. -/
def schemaOfRows? (ident : String) (rows : List Json) : Option PropertySchema := do
  let entity ← firstEntity? rows
  let valueType ← (attribute? entity "db/valueType").bind ValueType.variants.read?
  let cardinality := ((attribute? entity "db/cardinality").map Cardinality.read).getD .one
  return ⟨Text.trim ident, valueType, cardinality⟩

/-- Looks up the schema of an attribute in the graph; a failure counts as no schema. -/
def schemaLookup (executor : Executor) (graph : String) : SchemaLookup Call :=
  fun ident ↦ do
    match schemaQuery? ident with
    | none => return none
    | some query =>
      match ← executor.run graph query with
      | .ok rows => return schemaOfRows? ident rows
      | .error _ => return none

structure SearchResult where
  records : List Reference.Record
  total : Nat
  unresolved : List Reference.Unresolved
deriving Repr

/-- Searches with a query, and keeps at most `limit` records. -/
def search (executor : Executor) (graph query : String) (settings : Reference.Settings)
    (schedule : Reference.Schedule) (limit : Nat) :
    Recorded Call (Except ExecutionError SearchResult) := do
  match ← executor.run graph query with
  | .error error => return .error error
  | .ok rows =>
    let records := rows.filterMap rowEntity?
    let outcome ← Reference.resolve settings schedule (titleLookup executor graph) records
    return .ok ⟨outcome.records.take limit, outcome.records.length, outcome.unresolved⟩

end FilterQuery.Graph
