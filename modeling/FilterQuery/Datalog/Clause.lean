import FilterQuery.Number.Shortest
import FilterQuery.Text.Literal
import FilterQuery.Text.Pattern

/-!
# Clauses of a query and their text

A clause is a data pattern, a predicate, a function that binds a variable, or a combination of
clauses. Clauses that stand side by side are a conjunction and share their variables; the branches
of an or-join and the body of a not-join share only the entity variable with the clauses around
them.

The text of a clause is a function of the clause. Compound clauses carry their layout, which matters
to the eye only.
-/

namespace FilterQuery.Datalog

/-- A case-insensitive search for a text, anywhere or as the whole. -/
structure SearchPattern where
  text : String
  isWhole : Bool
deriving DecidableEq, Repr

namespace SearchPattern

/-- The regular expression of a search. -/
def source (pattern : SearchPattern) : String :=
  let quoted := Text.Pattern.quote pattern.text
  "(?i)" ++ if pattern.isWhole then "^" ++ quoted ++ "$" else quoted

end SearchPattern

/-- What a clause compares or binds. -/
inductive Operand
  | var (name : String)
  | text (content : String)
  | keyword (name : String)
  | flag (value : Bool)
  | number (value : Binary64)
  | instant (milliseconds : Int)
deriving DecidableEq, Repr

inductive Comparison
  | eq
  | lt
  | gt
  | lte
  | gte
deriving DecidableEq, Repr

inductive Predicate
  | includes
  | startsWith
  | endsWith
  | find
  | matches
  | compare (comparison : Comparison)
deriving DecidableEq, Repr

/-- How the parts of a conjunction are laid out: in indented lines of their own, under each other,
or in one line. -/
inductive Layout
  | block
  | aligned
  | inline
deriving DecidableEq, Repr

inductive Clause
  | pattern (entity attr : String) (value : Option Operand)
  | test (predicate : Predicate) (left right : Operand)
  | regex (pattern : SearchPattern) (bound : String)
  | either (alternatives : List Clause)
  | conj (layout : Layout) (parts : List Clause)
  | orJoin (entity : String) (indent : Nat) (branches : List Clause)
  | notJoin (entity : String) (parts : List Clause)
deriving Repr

/-! ## Text -/

/-- A number with the fewest digits that read back, of two nearest the greater one. -/
def renderNumber (x : Binary64) : String := String.ofList (Decimal.shortest .up x).positional

def Operand.render : Operand → String
  | .var name => name
  | .text content => Text.Literal.quote content
  | .keyword name => name
  | .flag value => if value then "true" else "false"
  | .number value => renderNumber value
  | .instant milliseconds => toString milliseconds

def Comparison.symbol : Comparison → String
  | .eq => "="
  | .lt => "<"
  | .gt => ">"
  | .lte => "<="
  | .gte => ">="

def Predicate.symbol : Predicate → String
  | .includes => "clojure.string/includes?"
  | .startsWith => "clojure.string/starts-with?"
  | .endsWith => "clojure.string/ends-with?"
  | .find => "re-find"
  | .matches => "re-matches"
  | .compare comparison => comparison.symbol

def spaces (n : Nat) : String := String.ofList (List.replicate n ' ')

/-- Puts blanks before every line of a text. -/
def indentLines (n : Nat) (s : String) : String :=
  spaces n ++ String.ofList (s.toList.flatMap fun c ↦
    if c = '\n' then '\n' :: List.replicate n ' ' else [c])

def joinLines (indent : Nat) (parts : List String) : String :=
  String.intercalate ("\n" ++ spaces indent) parts

def renderConj : Layout → List String → String
  | .block, parts => "(and\n" ++ indentLines 2 (joinLines 1 parts) ++ ")"
  | .aligned, parts => "(and " ++ joinLines 7 parts ++ ")"
  | .inline, parts => "(and " ++ String.intercalate " " parts ++ ")"

namespace Clause

mutual

def render : Clause → String
  | .pattern entity attr none => "[" ++ entity ++ " " ++ attr ++ "]"
  | .pattern entity attr (some value) =>
    "[" ++ entity ++ " " ++ attr ++ " " ++ value.render ++ "]"
  | .test predicate left right =>
    "[(" ++ predicate.symbol ++ " " ++ left.render ++ " " ++ right.render ++ ")]"
  | .regex search bound =>
    "[(re-pattern " ++ Text.Literal.quote search.source ++ ") " ++ bound ++ "]"
  | .either alternatives => "(or " ++ joinLines 1 (renderList alternatives) ++ ")"
  | .conj layout parts => renderConj layout (renderList parts)
  | .orJoin entity indent branches =>
    "(or-join [" ++ entity ++ "]\n" ++ spaces indent ++
      joinLines indent (renderList branches) ++ ")"
  | .notJoin entity parts =>
    "(not-join [" ++ entity ++ "]\n  " ++ joinLines 1 (renderList parts) ++ ")"

def renderList : List Clause → List String
  | [] => []
  | clause :: clauses => clause.render :: renderList clauses

end

theorem renderList_eq_map (clauses : List Clause) : renderList clauses = clauses.map render := by
  induction clauses with
  | nil => simp [renderList]
  | cons clause clauses ih => simp [renderList, ih]

/-- The text of a conjunction. -/
def renderAll (clauses : List Clause) : String := joinLines 1 (clauses.map render)

end Clause

/-- A query for all facts about the entities that satisfy a conjunction. -/
structure Query where
  entity : String
  body : List Clause
deriving Repr

namespace Query

def find (query : Query) : String := "(pull " ++ query.entity ++ " [*])"

/-- The query on its own. -/
def raw (query : Query) : String :=
  "[:find " ++ query.find ++ "\n :where\n " ++ Clause.renderAll query.body ++ "]"

/-- The query in the form that is pasted into a page. -/
def wrapped (query : Query) : String :=
  "\x7b:query\n [:find " ++ query.find ++ "\n  :where\n  " ++ Clause.renderAll query.body ++ "]\x7d"

end Query

end FilterQuery.Datalog
