import FilterQuery.Schema.Lookup

/-!
# Running queries against a graph

An executor answers the text of a query on a named graph with rows or with a failure, which is not
the same as no rows. Every call of an executor is recorded. A row is an entity, or a list that
starts with one; the attributes of an entity are written with or without a leading colon.
-/

namespace FilterQuery.Graph

inductive ExecutionError
  | failed (reason : String)
  | invalidResponse (reason : String)
deriving DecidableEq, Repr

def ExecutionError.message : ExecutionError → String
  | .failed reason => "query execution failed: " ++ reason
  | .invalidResponse reason => "unexpected query response: " ++ reason

/-- A query that was sent to a graph. -/
structure Call where
  graph : String
  query : String
deriving DecidableEq, Repr

/-- Answers a query on a graph. -/
abbrev Executor := String → String → Except ExecutionError (List Json)

namespace Executor

/-- Sends a query and records it. -/
def run (executor : Executor) (graph query : String) :
    Recorded Call (Except ExecutionError (List Json)) :=
  ⟨executor graph query, [⟨graph, query⟩]⟩

end Executor

/-- The entity of a row. -/
def rowEntity? : Json → Option (Keyed Json)
  | .object entity => some entity
  | .array items => items.head?.bind Json.asObject?
  | _ => none

/-- The value of an attribute, with or without its colon. -/
def attribute? (entity : Keyed Json) (name : String) : Option Json :=
  (entity.lookup name).or (entity.lookup (":" ++ name))

/-- The entity of the first row, if the query has been answered. -/
def firstEntity? (rows : List Json) : Option (Keyed Json) := rows.head?.bind rowEntity?

end FilterQuery.Graph
