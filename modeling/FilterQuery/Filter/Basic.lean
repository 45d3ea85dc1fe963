import FilterQuery.Schema.Basic
import FilterQuery.Text.Blank

/-!
# Filter trees

A filter tree combines single filters by groups that ask for all, any or not all of their children.
A filter keeps what was entered, whether or not it makes sense: an operator that is not known, a
value that is blank, a kind that does not exist.
-/

namespace FilterQuery

open Json (Variants)

/-- What is entered as the value of a filter: one text, or a selection of several. -/
inductive FilterValue
  | single (text : String)
  | multiple (texts : List String)
deriving DecidableEq, Repr

namespace FilterValue

def empty : FilterValue := .single ""

def asSingle? : FilterValue → Option String
  | .single text => some text
  | .multiple _ => none

/-- All the texts of a value. -/
def texts : FilterValue → List String
  | .single text => [text]
  | .multiple texts => texts

def isPresentSingle : FilterValue → Bool
  | .single text => Text.isPresent text
  | .multiple _ => false

/-- A single text that is not blank, or a selection of at least one text. -/
def isPresent : FilterValue → Bool
  | .single text => Text.isPresent text
  | .multiple texts => !texts.isEmpty

end FilterValue

/-- How a group combines its children. -/
inductive MatchMode
  | all
  | any
  | none
deriving DecidableEq, Repr

namespace MatchMode

def variants : Variants MatchMode := [("all", .all), ("any", .any), ("none", .none)]

def name : MatchMode → String
  | .all => "all"
  | .any => "any"
  | .none => "none"

end MatchMode

/-- How the name of a page is compared. -/
inductive NameOperator
  | is
  | contains
  | startsWith
  | endsWith
  | unrecognized
deriving DecidableEq, Repr

namespace NameOperator

def variants : Variants NameOperator :=
  [("is", .is), ("contains", .contains), ("starts-with", .startsWith), ("ends-with", .endsWith),
   ("unrecognized", .unrecognized)]

def name : NameOperator → String
  | .is => "is"
  | .contains => "contains"
  | .startsWith => "starts-with"
  | .endsWith => "ends-with"
  | .unrecognized => "unrecognized"

end NameOperator

/-- How the text of a block is searched. -/
inductive TextOperator
  | contains
  | equals
  | unrecognized
deriving DecidableEq, Repr

namespace TextOperator

def variants : Variants TextOperator :=
  [("contains", .contains), ("equals", .equals), ("unrecognized", .unrecognized)]

def name : TextOperator → String
  | .contains => "contains"
  | .equals => "equals"
  | .unrecognized => "unrecognized"

end TextOperator

/-- How the value of a property is compared. -/
inductive PropertyOperator
  | is
  | contains
  | eq
  | lt
  | gt
  | lte
  | gte
  | unrecognized
deriving DecidableEq, Repr

namespace PropertyOperator

def variants : Variants PropertyOperator :=
  [("is", .is), ("contains", .contains), ("=", .eq), ("<", .lt), (">", .gt), ("<=", .lte),
   (">=", .gte), ("unrecognized", .unrecognized)]

def name : PropertyOperator → String
  | .is => "is"
  | .contains => "contains"
  | .eq => "="
  | .lt => "<"
  | .gt => ">"
  | .lte => "<="
  | .gte => ">="
  | .unrecognized => "unrecognized"

end PropertyOperator

/-- The date of an entity that a range of dates is about. -/
inductive DateProperty
  | createdAt
  | updatedAt
  | journalDay
deriving DecidableEq, Repr

namespace DateProperty

def variants : Variants DateProperty :=
  [("created-at", .createdAt), ("updated-at", .updatedAt), ("journal-day", .journalDay)]

def name : DateProperty → String
  | .createdAt => "created-at"
  | .updatedAt => "updated-at"
  | .journalDay => "journal-day"

end DateProperty

/-- A filter by a property, which is known by its name and perhaps by its attribute and schema. -/
structure PropertyFilter where
  propertyName : String
  propertyIdent : Option String
  propertySchema : Option PropertySchema
  operator : PropertyOperator
  value : FilterValue
deriving DecidableEq, Repr

inductive Filter
  | page (operator : NameOperator) (value : FilterValue)
  | tags (value : FilterValue) (includeExtensions : Bool)
  | fullText (operator : TextOperator) (value : FilterValue)
  | property (filter : PropertyFilter)
  | pageReference (value : FilterValue)
  | task (value : FilterValue) (includeExtensions includeAllStatusProperties : Bool)
  | priority (value : FilterValue)
  | between (startDate endDate : String) (dateProperty : DateProperty)
  | unknown
deriving DecidableEq, Repr

/-- The kinds of filter that can be entered. -/
inductive FilterKind
  | page
  | tags
  | fullText
  | property
  | pageReference
  | task
  | priority
  | between
deriving DecidableEq, Repr

namespace FilterKind

def variants : List (String × FilterKind) :=
  [("page", .page), ("tags", .tags), ("full-text", .fullText), ("property", .property),
   ("page-reference", .pageReference), ("task", .task), ("priority", .priority),
   ("between", .between)]

def name : FilterKind → String
  | .page => "page"
  | .tags => "tags"
  | .fullText => "full-text"
  | .property => "property"
  | .pageReference => "page-reference"
  | .task => "task"
  | .priority => "priority"
  | .between => "between"

end FilterKind

namespace Filter

/-- The kind of a filter; an unknown filter has none. -/
def kind? : Filter → Option FilterKind
  | .page .. => some .page
  | .tags .. => some .tags
  | .fullText .. => some .fullText
  | .property .. => some .property
  | .pageReference .. => some .pageReference
  | .task .. => some .task
  | .priority .. => some .priority
  | .between .. => some .between
  | .unknown => none

/-- Whether enough has been entered for the filter to be used. -/
def isValid : Filter → Bool
  | .page _ value => value.isPresentSingle
  | .tags value _ => value.isPresentSingle
  | .fullText _ value => value.isPresentSingle
  | .property filter => Text.isPresent filter.propertyName && filter.value.isPresent
  | .pageReference value => value.isPresentSingle
  | .task value _ _ => value.isPresent
  | .priority value => value.isPresent
  | .between startDate endDate _ => startDate != "" && endDate != ""
  | .unknown => false

end Filter

/-- A filter tree. -/
inductive Node
  | group (mode : MatchMode) (children : List Node)
  | leaf (filter : Filter)
deriving Repr

namespace Node

mutual

/-- The filters of a tree in the order of the document. -/
def filters : Node → List Filter
  | .group _ children => filtersOf children
  | .leaf filter => [filter]

def filtersOf : List Node → List Filter
  | [] => []
  | child :: children => child.filters ++ filtersOf children

end

end Node

end FilterQuery
