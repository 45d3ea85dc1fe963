/-!
# Logic variables of one query

A logic variable is named after what it stands for. The first variable of a name gets it bare, later
ones with their number behind an underscore. A scope remembers the names that have been issued.
-/

namespace FilterQuery.Datalog

/-- The variable that is the `count`-th of its name. -/
def variableName (base : String) (count : Nat) : String :=
  if count = 1 then "?" ++ base else "?" ++ base ++ "_" ++ toString count

/-- The names issued so far, in order. -/
structure Scope where
  issued : List String
deriving DecidableEq, Repr

namespace Scope

def empty : Scope := ⟨[]⟩

/-- The variable that the next request for a name gets. -/
def next (scope : Scope) (base : String) : String :=
  variableName base (scope.issued.count base + 1)

/-- The scope after some names have been requested. -/
def issue (scope : Scope) (bases : List String) : Scope := ⟨scope.issued ++ bases⟩

/-- A new variable and the scope after it. -/
def fresh (scope : Scope) (base : String) : String × Scope := (scope.next base, scope.issue [base])

/-- The variables for a row of requests. -/
def freshList : Scope → List String → List String
  | _, [] => []
  | scope, base :: bases =>
    let (name, scope) := scope.fresh base
    name :: freshList scope bases

@[simp] theorem issue_nil (scope : Scope) : scope.issue [] = scope := by
  simp [issue]

theorem issue_append (scope : Scope) (bases others : List String) :
    scope.issue (bases ++ others) = (scope.issue bases).issue others := by
  simp [issue]

/-- In an empty scope every name is bare. -/
theorem next_empty (base : String) : empty.next base = "?" ++ base := by
  simp [next, empty, variableName]

end Scope

end FilterQuery.Datalog
