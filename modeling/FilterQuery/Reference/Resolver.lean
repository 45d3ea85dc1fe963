import FilterQuery.Graph.Executor
import FilterQuery.Reference.Marker

/-!
# Resolving references to titles

The records of a search refer to entities by their uuids. Every uuid that a text field refers to is
looked up once, and its title takes its place. A lookup that finds nothing, or fails, leaves its
references as they are and changes no other one.

Several workers may share the lookups. The order in which they come to them is a schedule, a
permutation of the uuids; the answers are put back into the order of the uuids.
-/

namespace FilterQuery

namespace Reference

/-- Why a title could not be looked up. -/
inductive LookupError
  | execution (error : Graph.ExecutionError)
  | other (reason : String)
deriving DecidableEq, Repr

def LookupError.message : LookupError → String
  | .execution error => error.message
  | .other reason => "lookup failed: " ++ reason

/-- A title, no title, or the reason why it could not be looked up. -/
abbrev Answer := Except LookupError (Option String)

/-- Looks up the title of a uuid. -/
abbrev TitleLookup (Step : Type) := String → Recorded Step Answer

/-- A record of a search. -/
abbrev Record := Keyed Json

/-! ## Settings -/

structure Settings where
  textField : String
  concurrency : Nat
deriving DecidableEq, Repr

namespace Settings

/-- One lookup after the other, for references in block titles. -/
def standard : Settings := ⟨"block/title", 1⟩

def fieldNames : List String := ["textField", "concurrency"]

def field (settings : Settings) (name : String) (value : Json) : Except Json.Mismatch Settings :=
  match name with
  | "textField" => do return { settings with textField := ← Json.expectString value }
  | "concurrency" => do return { settings with concurrency := ← Json.expectSize value }
  | _ => .ok settings

def decode : Json → Except Json.Mismatch Settings :=
  Json.expectRecord "ResolverConfig" fieldNames field standard

end Settings

/-! ## Collecting -/

/-- The text of a record's field. -/
def fieldText? (field : String) (record : Record) : Option String :=
  (record.lookup field).bind Json.asString?

/-- Puts a string into an ascending list, unless it is there. -/
def insertAscending (s : String) : List String → List String
  | [] => [s]
  | other :: rest =>
    if s = other then other :: rest
    else if s < other then s :: other :: rest
    else other :: insertAscending s rest

/-- The different strings of a list, in ascending order. -/
def ascending (strings : List String) : List String := strings.foldr insertAscending []

/-- The different uuids that some records refer to, in ascending order. -/
def collect (field : String) (records : List Record) : List String :=
  ascending ((records.filterMap (fieldText? field)).flatMap uuids)

/-! ## Resolving -/

/-- A uuid that kept its references, and why if its lookup failed. -/
structure Unresolved where
  uuid : String
  error : Option LookupError
deriving DecidableEq, Repr

structure Outcome where
  records : List Record
  titles : Keyed String
  unresolved : List Unresolved
deriving Repr

/-- Looks up uuids one after the other. -/
def lookUpAll {Step : Type} (lookup : TitleLookup Step) :
    List String → Recorded Step (List (String × Answer))
  | [] => pure []
  | uuid :: rest => do
    let answer ← lookup uuid
    return (uuid, answer) :: (← lookUpAll lookup rest)

/-- The title of an answer that has one. -/
def titleOf? (entry : String × Answer) : Option (String × String) :=
  match entry with
  | (uuid, .ok (some title)) => some (uuid, title)
  | _ => none

/-- What an answer without a title leaves unresolved. -/
def unresolvedOf? (entry : String × Answer) : Option Unresolved :=
  match entry with
  | (_, .ok (some _)) => none
  | (uuid, .ok none) => some ⟨uuid, none⟩
  | (uuid, .error error) => some ⟨uuid, some error⟩

/-- The title of a uuid. -/
def titleIn (titles : Keyed String) (uuid : String) : Option String := List.lookup uuid titles

/-- A value with titles in place of uuids, if it is a text. -/
def valueWithTitles (titles : Keyed String) : Json → Json
  | .string text => .string (withTitles (titleIn titles) text)
  | value => value

/-- A record with titles in place of uuids in its text field. Without titles the record stays. -/
def recordWithTitles (field : String) (titles : Keyed String) (record : Record) : Record :=
  if titles.isEmpty then record else Keyed.modify field (valueWithTitles titles) record

/-- The answers in the order of the uuids. -/
def inOrder (answers : List (String × Answer)) (ids : List String) : List (String × Answer) :=
  ids.filterMap fun uuid ↦ (answers.lookup uuid).map fun answer ↦ (uuid, answer)

/-- The order in which uuids are looked up. -/
abbrev Schedule := List String → List String

/-- Whether the lookups are shared by several workers. -/
def Settings.isShared (settings : Settings) (ids : List String) : Bool :=
  decide (1 < settings.concurrency) && decide (1 < ids.length)

/-- Resolves the references of some records. The schedule orders the lookups if they are shared.
Records without references are returned as they are. -/
def resolve {Step : Type} (settings : Settings) (schedule : Schedule) (lookup : TitleLookup Step)
    (records : List Record) : Recorded Step Outcome := do
  let ids := collect settings.textField records
  if ids.isEmpty then
    return { records := records, titles := [], unresolved := [] }
  let answers ← lookUpAll lookup (if settings.isShared ids then schedule ids else ids)
  let ordered := inOrder answers ids
  let titles := ordered.filterMap titleOf?
  return { records := records.map (recordWithTitles settings.textField titles)
           titles := titles
           unresolved := ordered.filterMap unresolvedOf? }

end Reference

end FilterQuery
