import FilterQuery.Json.Decoder
import FilterQuery.Json.Reader

/-!
# Reading records directly from text

A record that is read from text, and not from a value that has been read before, finds its faults in
the order of the text: a field of the wrong type is reported where it stands even if the text after
it is no JSON. Members that the record does not know are skipped, and only checked for their outer
form. A field given twice is a fault.
-/

namespace FilterQuery.Json.Reader

/-! ## Skipping -/

def skipDigits (cs : List Char) : List Char := cs.dropWhile Char.isDigit

def skipExponent (cs : List Char) : Except Stop (List Char) :=
  match (Decimal.readSign cs).2 with
  | [] => .error (.here .invalidNumber [])
  | c :: rest =>
    if c.isDigit then .ok (skipDigits rest) else .error (.peeked .invalidNumber (c :: rest))

def skipFraction (cs : List Char) : Except Stop (List Char) :=
  if cs.head?.any Char.isDigit then
    match skipDigits cs with
    | c :: rest => if isExponentLetter c then skipExponent rest else .ok (c :: rest)
    | [] => .ok []
  else .error (.peeked .invalidNumber cs)

/-- Skips a number, of which the minus sign has been read. -/
def skipNumber (cs : List Char) : Except Stop (List Char) :=
  match cs with
  | [] => .error (.here .invalidNumber [])
  | first :: rest =>
    if !first.isDigit then .error (.peeked .invalidNumber cs)
    else if first == '0' && rest.head?.any Char.isDigit then .error (.peeked .invalidNumber rest)
    else match skipDigits cs with
      | '.' :: after => skipFraction after
      | c :: after => if isExponentLetter c then skipExponent after else .ok (c :: after)
      | [] => .ok []

/-- Skips an escape, of which the backslash has been read. -/
def skipEscape : List Char → Except Stop (List Char)
  | [] => .error (.here .endInString [])
  | c :: cs =>
    if c = 'u' then (hexEscape cs).map Prod.snd
    else if (shortEscape? c).isSome then .ok cs
    else .error (.peeked .invalidEscape (c :: cs))

/-- Skips a string, of which the opening quote has been read; `fuel` bounds its characters. -/
def skipString : (fuel : Nat) → List Char → Except Stop (List Char)
  | 0, cs => .error (.here .endInString cs)
  | _ + 1, [] => .error (.here .endInString [])
  | fuel + 1, c :: cs =>
    if c = '"' then .ok cs
    else if c = '\\' then do skipString fuel (← skipEscape cs)
    else if c.toNat < 0x20 then .error (.here .controlCharacter (c :: cs))
    else skipString fuel cs

/-- What a skipped value stands in. -/
inductive Enclosure
  | list
  | object
deriving DecidableEq, Repr

namespace Enclosure

def closing : Enclosure → Char
  | .list => ']'
  | .object => '\x7d'

def atEnd : Enclosure → Cause
  | .list => .endInList
  | .object => .endInObject

def expectedComma : Enclosure → Cause
  | .list => .expectedListCommaOrEnd
  | .object => .expectedObjectCommaOrEnd

end Enclosure

/-- Skips the name of a member and its colon, if the value stands in an object. -/
def skipName (enclosure : Enclosure) (cs : List Char) : Except Stop (List Char) :=
  match enclosure, skipBlanks cs with
  | .list, _ => .ok cs
  | .object, [] => .error (.here .endInObject [])
  | .object, c :: rest =>
    if c = '"' then do colon (← skipString (rest.length + 1) rest)
    else .error (.peeked .keyMustBeString (c :: rest))

mutual

/-- Skips a value and whatever follows it in the enclosures that are open around it. -/
def skipValue : (fuel : Nat) → List Enclosure → List Char → Except Stop (List Char)
  | 0, _, cs => .error (.here .endInValue cs)
  | fuel + 1, enclosures, cs =>
    match skipBlanks cs with
    | [] => .error (.here .endInValue [])
    | c :: rest =>
      if c = 'n' then do skipAfter fuel enclosures (← word ['u', 'l', 'l'] rest)
      else if c = 't' then do skipAfter fuel enclosures (← word ['r', 'u', 'e'] rest)
      else if c = 'f' then do skipAfter fuel enclosures (← word ['a', 'l', 's', 'e'] rest)
      else if c = '"' then do skipAfter fuel enclosures (← skipString (rest.length + 1) rest)
      else if c = '-' then do skipAfter fuel enclosures (← skipNumber rest)
      else if c.isDigit then do skipAfter fuel enclosures (← skipNumber (c :: rest))
      else if c = '[' then skipOpened fuel .list enclosures rest
      else if c = '\x7b' then skipOpened fuel .object enclosures rest
      else .error (.peeked .expectedValue (c :: rest))

/-- Skips from behind an opening bracket or brace. -/
def skipOpened : (fuel : Nat) → Enclosure → List Enclosure → List Char → Except Stop (List Char)
  | 0, _, _, cs => .error (.here .endInValue cs)
  | fuel + 1, enclosure, enclosures, cs =>
    match skipBlanks cs with
    | [] => .error (.here enclosure.atEnd [])
    | c :: rest =>
      if c = enclosure.closing then skipAfter fuel enclosures rest
      else do skipValue fuel (enclosure :: enclosures) (← skipName enclosure (c :: rest))

/-- Skips from behind a value to the end of the outermost enclosure. -/
def skipAfter : (fuel : Nat) → List Enclosure → List Char → Except Stop (List Char)
  | 0, _, cs => .error (.here .endInValue cs)
  | _ + 1, [], cs => .ok cs
  | fuel + 1, enclosure :: enclosures, cs =>
    match skipBlanks cs with
    | [] => .error (.here enclosure.atEnd [])
    | c :: rest =>
      if c = ',' then do skipValue fuel (enclosure :: enclosures) (← skipName enclosure rest)
      else if c = enclosure.closing then skipAfter fuel enclosures rest
      else .error (.peeked enclosure.expectedComma (c :: rest))

end

/-- Skips one value. -/
def skip (cs : List Char) : Except Stop (List Char) := skipValue (2 * cs.length + 2) [] cs

/-! ## Expected values -/

/-- The fault of a value that is not the expected one. A number, string or word is read first, and
may have a fault of its own. -/
def unexpected (expected : String) (cs : List Char) : Stop :=
  match cs with
  | '[' :: _ => .here (.mismatch (.invalidType .sequence expected)) cs
  | '\x7b' :: _ => .here (.mismatch (.invalidType .map expected)) cs
  | cs => match value 0 cs with
    | .ok (found, rest) => .here (.mismatch (invalidType expected found)) rest
    | .error stop => stop

def expectString (expected : String) (cs : List Char) : Except Stop (String × List Char) :=
  match skipBlanks cs with
  | '"' :: rest => string rest
  | cs => .error (unexpected expected cs)

def expectBool (cs : List Char) : Except Stop (Bool × List Char) :=
  match skipBlanks cs with
  | 't' :: rest => do return (true, ← word ['r', 'u', 'e'] rest)
  | 'f' :: rest => do return (false, ← word ['a', 'l', 's', 'e'] rest)
  | cs => .error (unexpected "a boolean" cs)

def expectNull (cs : List Char) : Except Stop (List Char) :=
  match skipBlanks cs with
  | 'n' :: rest => word ['u', 'l', 'l'] rest
  | cs => .error (unexpected "unit" cs)

def variantNamed {α : Type} (variants : Variants α) (cs : List Char) :
    Except Stop (α × List Char) := do
  let (name, cs) ← expectString "variant identifier" cs
  match variants.named name with
  | .ok a => return (a, cs)
  | .error fault => .error (.here (.mismatch fault) cs)

/-- The name of a value that is written as an object, of which the brace has been read. -/
def variantMember {α : Type} (variants : Variants α) (cs : List Char) :
    Except Stop (α × List Char) :=
  match skipBlanks cs with
  | [] => .error (.here .endInObject [])
  | c :: rest =>
    if c = '"' then variantNamed variants (c :: rest)
    else if c = '\x7d' then .error (.peeked .expectedValue (c :: rest))
    else .error (.peeked .keyMustBeString (c :: rest))

/-- A value of an enumeration: its name, or an object with its name and null. -/
def expectVariant {α : Type} (variants : Variants α) (cs : List Char) :
    Except Stop (α × List Char) :=
  match skipBlanks cs with
  | [] => .error (.here .endInValue [])
  | '"' :: rest => variantNamed variants ('"' :: rest)
  | '\x7b' :: rest => do
    let (a, cs) ← variantMember variants rest
    let cs ← colon cs
    let cs ← expectNull cs
    match skipBlanks cs with
    | [] => .error (.here .endInObject [])
    | c :: after =>
      if c = '\x7d' then return (a, after) else .error (.here .expectedValue (c :: after))
  | cs => .error (.peeked .expectedValue cs)

/-! ## Records -/

/-- How one field of a record is read into what is known of the record. -/
abbrev FieldReader (σ : Type) := σ → String → List Char → Except Stop (σ × List Char)

/-- The text after a name that has been given before: behind the closing brace, if that is next. -/
def afterName (cs : List Char) : List Char :=
  match skipBlanks cs with
  | c :: rest => if c = '\x7d' then rest else c :: rest
  | [] => []

/-- The members of a record up to its closing brace; `seen` are the fields that have been read. -/
def recordMembers {σ : Type} (names : List String) (field : FieldReader σ) :
    (fuel : Nat) → (seen : List String) → (isFirst : Bool) → σ → List Char →
    Except Stop (σ × List Char)
  | 0, _, _, _, cs => .error (.here .endInObject cs)
  | fuel + 1, seen, isFirst, state, cs => do
    match ← nextName? isFirst cs with
    | none => return (state, afterClosing cs)
    | some cs =>
      let (name, cs) ← string cs
      if name ∈ seen then .error (.here (.mismatch (.duplicateField name)) (afterName cs))
      else if name ∈ names then
        let (state, cs) ← field state name (← colon cs)
        recordMembers names field fuel (name :: seen) false state cs
      else
        let cs ← skip (← colon cs)
        recordMembers names field fuel seen false state cs

/-- The end of a list of which all fields have been read. -/
def closeList (cs : List Char) : Except Stop (List Char) :=
  match skipBlanks cs with
  | [] => .error (.here .endInList [])
  | c :: rest =>
    if c = ']' then .ok rest
    else if c = ',' then
      match skipBlanks rest with
      | ']' :: after => .error (.peeked .trailingComma (']' :: after))
      | cs => .error (.peeked .trailingCharacters cs)
    else .error (.peeked .trailingCharacters (c :: rest))

/-- The fields of a record that is written as a list, up to its closing bracket. -/
def recordItems {σ : Type} (field : FieldReader σ) :
    (names : List String) → (isFirst : Bool) → σ → List Char → Except Stop (σ × List Char)
  | [], _, state, cs => do return (state, ← closeList cs)
  | name :: names, isFirst, state, cs => do
    match ← nextItem? isFirst cs with
    | none => return (state, afterClosing cs)
    | some cs =>
      let (state, cs) ← field state name cs
      recordItems field names false state cs

/-- A record, and whether it is written as a list. -/
def expectRecord {σ : Type} (title : String) (names : List String) (field : FieldReader σ)
    (start : σ) (cs : List Char) : Except Stop ((σ × Bool) × List Char) :=
  match skipBlanks cs with
  | '[' :: rest => do
    let (state, cs) ← recordItems field names true start rest
    return ((state, true), cs)
  | '\x7b' :: rest => do
    let (state, cs) ← recordMembers names field (rest.length + 1) [] true start rest
    return ((state, false), cs)
  | cs => .error (unexpected ("struct " ++ title) cs)

/-- An object as a map from the names of its members. -/
def expectMap {α : Type} (value : List Char → Except Stop (α × List Char)) (cs : List Char) :
    Except Stop (List (String × α) × List Char) :=
  match skipBlanks cs with
  | '\x7b' :: rest => members value (rest.length + 1) true rest
  | cs => .error (unexpected "a map" cs)

end FilterQuery.Json.Reader
