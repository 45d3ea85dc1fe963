import FilterQuery.Compiler.Condition

/-!
# From filter trees to queries

A tree is first planned: every filter that is valid is replaced by its condition, and every schema
that is needed is looked up, in the order of the document. A plan is then turned into clauses, which
draw their helper variables from one scope. What has no clauses leaves no trace: a group combines
only those of its children that have some.
-/

namespace FilterQuery

open Datalog (Clause Query Scope)

/-- A filter tree with conditions for filters. -/
inductive Plan
  | leaf (condition : Option Condition)
  | group (mode : MatchMode) (children : List Plan)
deriving Repr

/-- How a tree is compiled: whether searching a property without a schema ignores case, and where
schemas are looked up. -/
structure Compiler (Step : Type) where
  ignoreCase : Bool
  lookup : SchemaLookup Step

namespace Compiler

variable {Step : Type}

def condition (compiler : Compiler Step) (filter : Filter) : Recorded Step (Option Condition) :=
  filter.condition compiler.ignoreCase compiler.lookup

mutual

/-- The plan of a tree; filters that are not valid have no condition. -/
def plan (compiler : Compiler Step) : Node → Recorded Step Plan
  | .group mode children => do return .group mode (← compiler.planList children)
  | .leaf filter =>
    if filter.isValid then do return .leaf (← compiler.condition filter)
    else pure (.leaf none)

def planList (compiler : Compiler Step) : List Node → Recorded Step (List Plan)
  | [] => pure []
  | child :: children => do
    let first ← compiler.plan child
    return first :: (← compiler.planList children)

end

end Compiler

/-- The clauses of a group from the clauses of its children, each of which has some. -/
def MatchMode.combine (entity : String) : MatchMode → List (List Clause) → List Clause
  | _, [] => []
  | .all, parts => parts.flatten
  | .any, [part] => part
  | .any, parts => [.orJoin entity 1 (parts.map (.conj .block))]
  | .none, parts => [.pattern entity ":block/uuid" Option.none, .notJoin entity parts.flatten]

/-- The clauses of a condition in a scope, and the scope after them. -/
def Condition.build (entity : String) (condition : Condition) (scope : Scope) :
    List Clause × Scope :=
  (condition.clauses entity scope.next, scope.issue condition.bases)

namespace Plan

mutual

/-- The clauses of a plan in a scope, and the scope after them. -/
def build (entity : String) : Plan → Scope → List Clause × Scope
  | .leaf none, scope => ([], scope)
  | .leaf (some condition), scope => condition.build entity scope
  | .group mode children, scope =>
    let (parts, scope) := buildList entity children scope
    (mode.combine entity parts, scope)

/-- The clauses of those children that have some. -/
def buildList (entity : String) : List Plan → Scope → List (List Clause) × Scope
  | [], scope => ([], scope)
  | child :: children, scope =>
    let (part, scope) := build entity child scope
    let (parts, scope) := buildList entity children scope
    (if part.isEmpty then parts else part :: parts, scope)

end

/-- The clauses of a plan with variables of its own. -/
def clauses (entity : String) (plan : Plan) : List Clause := (plan.build entity .empty).1

end Plan

/-! ## The entity of a query -/

/-- What a query is about. -/
inductive EntityKind
  | page
  | block
deriving DecidableEq, Repr

namespace EntityKind

def variableName : EntityKind → String
  | .page => "?p"
  | .block => "?b"

/-- Pages, if some filter asks for a page and none asks for something that only blocks have. -/
def ofFilters (filters : List Filter) : EntityKind :=
  let kinds := filters.filterMap Filter.kind?
  if .page ∈ kinds ∧ .fullText ∉ kinds ∧ .task ∉ kinds ∧ .priority ∉ kinds then .page else .block

end EntityKind

namespace Node

/-- The filters of a tree that are valid. -/
def validFilters (node : Node) : List Filter := node.filters.filter Filter.isValid

/-- What a query for the tree is about. -/
def entity (node : Node) : String := (EntityKind.ofFilters node.validFilters).variableName

end Node

namespace Compiler

variable {Step : Type}

/-- The clauses of one filter, valid or not, in a scope, and the scope after them. -/
def buildFilter (compiler : Compiler Step) (entity : String) (filter : Filter) (scope : Scope) :
    Recorded Step (List Clause × Scope) := do
  match ← compiler.condition filter with
  | some condition => return condition.build entity scope
  | none => return ([], scope)

/-- The clauses of a tree about a given entity. -/
def combine (compiler : Compiler Step) (entity : String) (node : Node) :
    Recorded Step (List Clause) := do
  return (← compiler.plan node).clauses entity

/-- The query of a tree whose root is a group, if any of its filters has clauses. -/
def compile (compiler : Compiler Step) : Node → Recorded Step (Option Query)
  | .leaf _ => pure none
  | .group mode children => do
    let node := Node.group mode children
    let body ← compiler.combine node.entity node
    return if body.isEmpty then none else some ⟨node.entity, body⟩

end Compiler

end FilterQuery
