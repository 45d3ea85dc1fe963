/-!
# References in a text

A reference is a lower-case uuid with dashes between double brackets. A text is split from left to
right into references and single characters: where a reference starts, it is taken as a whole, and
the next piece starts behind it.
-/

namespace FilterQuery.Reference

def isHexDigit (c : Char) : Bool := c.isDigit || (decide ('a' ≤ c) && decide (c ≤ 'f'))

/-- Where the dashes of a uuid stand. -/
def dashPositions : List Nat := [8, 13, 18, 23]

def uuidLength : Nat := 36

def isUuid (cs : List Char) : Bool :=
  cs.length == uuidLength &&
    cs.zipIdx.all fun (c, position) ↦
      if position ∈ dashPositions then c == '-' else isHexDigit c

/-- A text between double brackets. -/
def marker (content : List Char) : List Char := '[' :: '[' :: (content ++ [']', ']'])

/-- The uuid of a reference at the start of a text. -/
def uuidAt? (cs : List Char) : Option (List Char) :=
  let uuid := (cs.drop 2).take uuidLength
  if isUuid uuid && cs.take (uuidLength + 4) == marker uuid then some uuid else none

/-- A reference, or a character that belongs to none. -/
inductive Piece
  | reference (uuid : String)
  | character (c : Char)
deriving DecidableEq, Repr

/-- The pieces of a text. -/
def pieces : List Char → List Piece
  | [] => []
  | c :: cs =>
    match uuidAt? (c :: cs) with
    | some uuid => .reference (String.ofList uuid) :: pieces (cs.drop (uuidLength + 3))
    | none => .character c :: pieces cs
termination_by cs => cs.length
decreasing_by all_goals simp only [List.length_drop, List.length_cons]; omega

namespace Piece

def uuid? : Piece → Option String
  | .reference uuid => some uuid
  | .character _ => none

/-- The piece as text, with a title in place of the uuid if there is one. -/
def render (title? : String → Option String) : Piece → List Char
  | .reference uuid => marker ((title? uuid).getD uuid).toList
  | .character c => [c]

end Piece

/-- The uuids that a text refers to, in order. -/
def uuids (text : String) : List String := (pieces text.toList).filterMap Piece.uuid?

/-- The text with titles in place of the uuids that have one. -/
def withTitles (title? : String → Option String) (text : String) : String :=
  String.ofList ((pieces text.toList).flatMap (Piece.render title?))

end FilterQuery.Reference
