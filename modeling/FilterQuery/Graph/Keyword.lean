import FilterQuery.Text.Blank
import FilterQuery.Text.Word

/-!
# Keywords and the queries about them

A keyword is one segment, or two with a slash between them, of word characters and a few signs, with
an optional colon in front. Only keywords are put into a query for a schema, so that no other text
can become part of it.
-/

namespace FilterQuery.Graph

/-- The signs that a keyword may hold beside word characters. -/
def keywordSigns : List Char := ['.', '*', '+', '!', '?', '<', '>', '=', '-']

def isKeywordCharacter (c : Char) : Bool := Text.isWord c || c ∈ keywordSigns

/-- One segment, or two with a slash between them. -/
def isKeywordName (cs : List Char) : Bool :=
  !(cs.takeWhile isKeywordCharacter).isEmpty &&
    match cs.dropWhile isKeywordCharacter with
    | [] => true
    | c :: rest => c == '/' && !rest.isEmpty && rest.all isKeywordCharacter

/-- A text without one colon at its start. -/
def dropColon : List Char → List Char
  | ':' :: cs => cs
  | cs => cs

/-- The keyword that a text writes, without its colon; blanks around it do not count. -/
def keyword? (s : String) : Option String :=
  let name := dropColon (Text.trim s).toList
  if isKeywordName name then some (String.ofList name) else none

/-- The query for the schema of an attribute, if that is a keyword. -/
def schemaQuery? (ident : String) : Option String :=
  (keyword? ident).map fun keyword ↦
    "[:find (pull ?p [*]) :where [?p :db/ident :" ++ keyword ++ "]]"

/-- The query for the title of an entity. -/
def titleQuery (uuid : String) : String :=
  "[:find (pull ?b [:block/title]) :where [?b :block/uuid #uuid \"" ++ uuid ++ "\"]]"

end FilterQuery.Graph
