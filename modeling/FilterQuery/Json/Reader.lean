import FilterQuery.Json.Mismatch

/-!
# Reading JSON text

The reader works on the characters that are still ahead. It stops at the first fault and says how
many bytes were still ahead there; the place in the text, a line and a column in bytes, is computed
from that afterwards, so that what is read never depends on where in a text it stands.

Some faults are found by looking at the next byte without taking it, and are reported behind that
byte (`Stop.peeked`); the others are reported where the reader stands (`Stop.here`). Values nested
deeper than a given depth are refused. A number with a point or a power of ten, or too large for 64
bits, is the correctly rounded significand times or divided by a rounded power of ten. `skipValue`
passes over a value that nobody asked for, with a looser check of its numbers and escapes.
-/

namespace FilterQuery.Json

/-- Why reading stopped: the text is no JSON, or the value is not the expected one. -/
inductive Cause
  | endInList
  | endInObject
  | endInString
  | endInValue
  | expectedColon
  | expectedListCommaOrEnd
  | expectedObjectCommaOrEnd
  | expectedIdent
  | expectedValue
  | invalidEscape
  | invalidNumber
  | numberOutOfRange
  | loneSurrogate
  | unfinishedSurrogatePair
  | controlCharacter
  | keyMustBeString
  | trailingComma
  | trailingCharacters
  | nestedTooDeep
  | mismatch (fault : Mismatch)
deriving Repr

def Cause.message : Cause → String
  | .endInList => "EOF while parsing a list"
  | .endInObject => "EOF while parsing an object"
  | .endInString => "EOF while parsing a string"
  | .endInValue => "EOF while parsing a value"
  | .expectedColon => "expected " ++ code ":"
  | .expectedListCommaOrEnd => "expected " ++ code "," ++ " or " ++ code "]"
  | .expectedObjectCommaOrEnd => "expected " ++ code "," ++ " or " ++ code "\x7d"
  | .expectedIdent => "expected ident"
  | .expectedValue => "expected value"
  | .invalidEscape => "invalid escape"
  | .invalidNumber => "invalid number"
  | .numberOutOfRange => "number out of range"
  | .loneSurrogate => "lone leading surrogate in hex escape"
  | .unfinishedSurrogatePair => "unexpected end of hex escape"
  | .controlCharacter => "control character (\\u0000-\\u001F) found while parsing a string"
  | .keyMustBeString => "key must be a string"
  | .trailingComma => "trailing comma"
  | .trailingCharacters => "trailing characters"
  | .nestedTooDeep => "recursion limit exceeded"
  | .mismatch fault => fault.message

/-- A fault and the number of bytes that were still ahead of it. -/
structure Stop where
  cause : Cause
  bytesAhead : Nat
deriving Repr

def byteCount (cs : List Char) : Nat := cs.foldl (fun n c ↦ n + c.utf8Size) 0

namespace Stop

/-- A fault where the reader stands. -/
def here (cause : Cause) (ahead : List Char) : Stop := ⟨cause, byteCount ahead⟩

/-- A fault in the byte that the reader looks at. -/
def peeked (cause : Cause) (ahead : List Char) : Stop := ⟨cause, byteCount ahead - 1⟩

end Stop

namespace Reader

def isBlank (c : Char) : Bool := c == ' ' || c == '\n' || c == '\t' || c == '\r'

def skipBlanks (cs : List Char) : List Char := cs.dropWhile isBlank

/-! ## Words, strings and numbers -/

/-- The rest of a word such as `true`, of which the first letter has been read. -/
def word : List Char → List Char → Except Stop (List Char)
  | [], cs => .ok cs
  | _ :: _, [] => .error (.here .endInValue [])
  | expected :: word', c :: cs =>
    if c = expected then word word' cs else .error (.peeked .expectedIdent (c :: cs))

def hexValue? (c : Char) : Option Nat :=
  if c.isDigit then some (c.toNat - '0'.toNat)
  else if 'a' ≤ c ∧ c ≤ 'f' then some (c.toNat - 'a'.toNat + 10)
  else if 'A' ≤ c ∧ c ≤ 'F' then some (c.toNat - 'A'.toNat + 10)
  else none

def ofHexDigits? (cs : List Char) : Option Nat :=
  (cs.mapM hexValue?).map fun values ↦ values.foldl (fun n v ↦ 16 * n + v) 0

/-- The four hexadecimal digits of an escape; anything else is faulty behind its four bytes. -/
def hexEscape (cs : List Char) : Except Stop (Nat × List Char) :=
  if byteCount cs < 4 then .error (.here .endInString [])
  else match ofHexDigits? (cs.take 4) with
    | some unit => .ok (unit, cs.drop 4)
    | none => .error ⟨.invalidEscape, byteCount cs - 4⟩

def isLeadingSurrogate (unit : Nat) : Bool := decide (0xD800 ≤ unit) && decide (unit ≤ 0xDBFF)

def isTrailingSurrogate (unit : Nat) : Bool := decide (0xDC00 ≤ unit) && decide (unit ≤ 0xDFFF)

/-- An expected character inside a surrogate pair. -/
def pairCharacter (expected : Char) : List Char → Except Stop (List Char)
  | [] => .error (.here .endInString [])
  | c :: cs => if c = expected then .ok cs else .error (.peeked .unfinishedSurrogatePair (c :: cs))

/-- The character of an escape by code unit; two units of a surrogate pair make one character. -/
def unicodeEscape (cs : List Char) : Except Stop (Char × List Char) := do
  let (unit, cs) ← hexEscape cs
  if isTrailingSurrogate unit then .error (.here .loneSurrogate cs)
  else if isLeadingSurrogate unit then do
    let cs ← pairCharacter '\\' cs
    let cs ← pairCharacter 'u' cs
    let (second, cs) ← hexEscape cs
    if isTrailingSurrogate second then
      .ok (Char.ofNat ((unit - 0xD800) * 0x400 + (second - 0xDC00) + 0x10000), cs)
    else .error (.here .loneSurrogate cs)
  else .ok (Char.ofNat unit, cs)

/-- The character that an escape of one letter stands for. -/
def shortEscape? : Char → Option Char
  | '"' => some '"'
  | '\\' => some '\\'
  | '/' => some '/'
  | 'b' => some '\x08'
  | 'f' => some '\x0c'
  | 'n' => some '\n'
  | 'r' => some '\r'
  | 't' => some '\t'
  | _ => none

/-- The character of an escape, of which the backslash has been read. -/
def escape : List Char → Except Stop (Char × List Char)
  | [] => .error (.here .endInString [])
  | c :: cs =>
    if c = 'u' then unicodeEscape cs
    else match shortEscape? c with
      | some character => .ok (character, cs)
      | none => .error (.peeked .invalidEscape (c :: cs))

/-- The characters of a string whose opening quote has been read; `fuel` bounds their number. -/
def characters : (fuel : Nat) → List Char → Except Stop (List Char × List Char)
  | 0, cs => .error (.here .endInString cs)
  | _ + 1, [] => .error (.here .endInString [])
  | fuel + 1, c :: cs =>
    if c = '"' then .ok ([], cs)
    else if c = '\\' then do
      let (character, cs) ← escape cs
      let (rest, cs) ← characters fuel cs
      return (character :: rest, cs)
    else if c.toNat < 0x20 then .error (.peeked .controlCharacter (c :: cs))
    else do
      let (rest, cs) ← characters fuel cs
      return (c :: rest, cs)

/-- A string whose opening quote has been read. -/
def string (cs : List Char) : Except Stop (String × List Char) := do
  let (content, cs) ← characters (cs.length + 1) cs
  return (String.ofList content, cs)

/-- Digits added to a significand while it stays below `2 ^ 64`, and how many of them were left. -/
def addDigits : Nat → List Char → Nat × Nat
  | significand, [] => (significand, 0)
  | significand, c :: cs =>
    let next := 10 * significand + digitValue c
    if next < 2 ^ 64 then addDigits next cs else (significand, cs.length + 1)

/-- The greatest power of ten in one step of scaling. -/
def greatestPower : Nat := 308

def powerOfTen? (n : Nat) : Option Binary64 := Binary64.ofNat? (Nat.pow 10 n)

/-- A number divided by a power of ten, in steps of at most `10 ^ 308`. -/
def divideByPower (x : Binary64) (power : Nat) : Option Binary64 :=
  if power ≤ greatestPower then (powerOfTen? power).bind x.div?
  else if x.isZero then some x
  else ((powerOfTen? greatestPower).bind x.div?).bind fun y ↦
    divideByPower y (power - greatestPower)
termination_by power
decreasing_by simp only [greatestPower] at *; omega

/-- A significand times a power of ten, unless that lies beyond the floating-point range. -/
def scaledFloat? (negative : Bool) (significand : Nat) (power : Int) : Option Binary64 :=
  (Binary64.ofNat? significand).bind fun x ↦
    let magnitude :=
      if power < 0 then divideByPower x (-power).toNat
      else if power ≤ greatestPower then (powerOfTen? power.toNat).bind x.mul?
      else if x.isZero then some x
      else none
    magnitude.map fun y ↦ if negative then y.neg else y

/-- The number that has been read as a significand and a power of ten. -/
def float (negative : Bool) (significand : Nat) (power : Int) (cs : List Char) :
    Except Stop (Number × List Char) :=
  match scaledFloat? negative significand power with
  | some x => .ok (.float x, cs)
  | none => .error (.here .numberOutOfRange cs)

/-- The greatest power of ten that is counted. -/
def greatestExponent : Nat := Nat.pow 2 31 - 1

/-- Reads the digits of a power of ten up to the one that makes it too great, if there is one. -/
def exponentDigits : Nat → List Char → Nat × Bool × List Char
  | n, [] => (n, false, [])
  | n, c :: cs =>
    if c.isDigit then
      let next := 10 * n + digitValue c
      if next ≤ greatestExponent then exponentDigits next cs else (n, true, cs)
    else (n, false, c :: cs)

/-- The power of ten of a number, of which the letter has been read. -/
def exponentPart (negative : Bool) (significand : Nat) (power : Int) (cs : List Char) :
    Except Stop (Number × List Char) :=
  let (small, cs) := Decimal.readSign cs
  match cs with
  | [] => .error (.here .endInValue [])
  | c :: _ =>
    if c.isDigit then
      let (n, isGreat, cs) := exponentDigits 0 cs
      if !isGreat then float negative significand (if small then power - n else power + n) cs
      else if significand ≠ 0 ∧ !small then .error (.here .numberOutOfRange cs)
      else .ok (.float (.zero negative), cs.dropWhile Char.isDigit)
    else .error (.peeked .invalidNumber cs)

def isExponentLetter (c : Char) : Bool := c == 'e' || c == 'E'

/-- The fraction of a number, of which the point has been read. -/
def fractionPart (negative : Bool) (significand : Nat) (power : Int) (cs : List Char) :
    Except Stop (Number × List Char) :=
  let (digits, rest) := Decimal.readDigits cs
  if digits.isEmpty then
    .error (.peeked (if cs.isEmpty then .endInValue else .invalidNumber) cs)
  else
    let (significand, left) := addDigits significand digits
    let power := power - ((digits.length - left : Nat) : Int)
    match rest with
    | c :: after =>
      if isExponentLetter c then exponentPart negative significand power after
      else float negative significand power rest
    | [] => float negative significand power rest

/-- An integer that fits in 64 bits; the negative zero and smaller integers are floating point. -/
def integer (negative : Bool) (significand : Nat) : Number :=
  if !negative then .integer significand
  else if significand = 0 then .float (.zero true)
  else if significand ≤ Nat.pow 2 63 then .integer (-significand)
  else .float (((Binary64.ofNat? significand).map Binary64.neg).getD (.zero true))

/-- A number, of which the minus sign has been read. -/
def number (negative : Bool) (cs : List Char) : Except Stop (Number × List Char) :=
  match cs with
  | [] => .error (.here .endInValue [])
  | first :: rest =>
    if !first.isDigit then .error (.peeked .invalidNumber cs)
    else if first == '0' && (rest.head?.any Char.isDigit) then .error (.peeked .invalidNumber rest)
    else
      let (digits, rest) := Decimal.readDigits cs
      let (significand, left) := addDigits 0 digits
      match rest with
      | '.' :: after => fractionPart negative significand left after
      | c :: after =>
        if isExponentLetter c then exponentPart negative significand left after
        else if left = 0 then .ok (integer negative significand, rest)
        else float negative significand left rest
      | [] =>
        if left = 0 then .ok (integer negative significand, rest)
        else float negative significand left rest

/-! ## Lists and objects -/

/-- Where the next item of a list starts; nothing before the closing bracket. -/
def nextItem? (isFirst : Bool) (cs : List Char) : Except Stop (Option (List Char)) :=
  match skipBlanks cs with
  | [] => .error (.here .endInList [])
  | c :: rest =>
    if c = ']' then .ok none
    else if isFirst then .ok (some (c :: rest))
    else if c = ',' then
      match skipBlanks rest with
      | [] => .error (.here .endInValue [])
      | d :: after =>
        if d = ']' then .error (.peeked .trailingComma (d :: after)) else .ok (some (d :: after))
    else .error (.peeked .expectedListCommaOrEnd (c :: rest))

/-- Where the name of the next member starts, behind its quote; nothing before the closing brace. -/
def nextName? (isFirst : Bool) (cs : List Char) : Except Stop (Option (List Char)) :=
  match skipBlanks cs with
  | [] => .error (.here .endInObject [])
  | c :: rest =>
    if c = '\x7d' then .ok none
    else if isFirst then
      if c = '"' then .ok (some rest) else .error (.peeked .keyMustBeString (c :: rest))
    else if c = ',' then
      match skipBlanks rest with
      | [] => .error (.here .endInValue [])
      | d :: after =>
        if d = '"' then .ok (some after)
        else .error (.peeked (if d = '\x7d' then .trailingComma else .keyMustBeString) (d :: after))
    else .error (.peeked .expectedObjectCommaOrEnd (c :: rest))

def colon (cs : List Char) : Except Stop (List Char) :=
  match skipBlanks cs with
  | [] => .error (.here .endInObject [])
  | c :: rest =>
    if c = ':' then .ok rest else .error (.peeked .expectedColon (c :: rest))

/-- The text after a closing bracket or brace that is known to come next. -/
def afterClosing (cs : List Char) : List Char := (skipBlanks cs).drop 1

/-- The items of a list up to its closing bracket. -/
def items {α : Type} (item : List Char → Except Stop (α × List Char)) :
    (fuel : Nat) → (isFirst : Bool) → List Char → Except Stop (List α × List Char)
  | 0, _, cs => .error (.here .endInList cs)
  | fuel + 1, isFirst, cs => do
    match ← nextItem? isFirst cs with
    | none => return ([], afterClosing cs)
    | some cs =>
      let (a, cs) ← item cs
      let (as, cs) ← items item fuel false cs
      return (a :: as, cs)

/-- The members of an object up to its closing brace. -/
def members {α : Type} (value : List Char → Except Stop (α × List Char)) :
    (fuel : Nat) → (isFirst : Bool) → List Char → Except Stop (List (String × α) × List Char)
  | 0, _, cs => .error (.here .endInObject cs)
  | fuel + 1, isFirst, cs => do
    match ← nextName? isFirst cs with
    | none => return ([], afterClosing cs)
    | some cs =>
      let (name, cs) ← string cs
      let cs ← colon cs
      let (a, cs) ← value cs
      let (as, cs) ← members value fuel false cs
      return ((name, a) :: as, cs)

/-! ## Values -/

/-- A value nested less than `depth` deep. Each level of nesting uses up one unit of `depth`. -/
def value : (depth : Nat) → List Char → Except Stop (Json × List Char)
  | depth, cs =>
    match skipBlanks cs with
    | [] => .error (.here .endInValue [])
    | c :: rest =>
      if c = 'n' then do return (.null, ← word ['u', 'l', 'l'] rest)
      else if c = 't' then do return (.bool true, ← word ['r', 'u', 'e'] rest)
      else if c = 'f' then do return (.bool false, ← word ['a', 'l', 's', 'e'] rest)
      else if c = '"' then do
        let (s, cs) ← string rest
        return (.string s, cs)
      else if c = '-' then do
        let (n, cs) ← number true rest
        return (.number n, cs)
      else if c.isDigit then do
        let (n, cs) ← number false (c :: rest)
        return (.number n, cs)
      else if c = '[' ∨ c = '\x7b' then
        match depth with
        | 0 => .error (.peeked .nestedTooDeep (c :: rest))
        | depth + 1 =>
          if c = '[' then do
            let (elements, cs) ← items (value depth) (rest.length + 1) true rest
            return (.array elements, cs)
          else do
            let (fields, cs) ← members (value depth) (rest.length + 1) true rest
            return (.ofMembers fields, cs)
      else .error (.peeked .expectedValue (c :: rest))

/-- Only blanks may follow what has been read. -/
def finish (cs : List Char) : Except Stop Unit :=
  match skipBlanks cs with
  | [] => .ok ()
  | c :: rest => .error (.peeked .trailingCharacters (c :: rest))

/-- What a whole text holds. -/
def whole {α : Type} (read : List Char → Except Stop (α × List Char)) (cs : List Char) :
    Except Stop α := do
  let (a, cs) ← read cs
  finish cs
  return a

end Reader

/-- How deep values may be nested. -/
def depthLimit : Nat := 127

/-! ## Places in the text -/

/-- A line, counted from one, and a number of bytes in it. -/
structure Place where
  line : Nat
  column : Nat
deriving DecidableEq, Repr

/-- The place after some bytes of the text, counted from a given place. -/
def placeAfter : (bytes : Nat) → List Char → Place → Place
  | _, [], place => place
  | bytes, c :: cs, place =>
    if bytes < c.utf8Size then ⟨place.line, place.column + bytes⟩
    else if c = '\n' then placeAfter (bytes - 1) cs ⟨place.line + 1, 0⟩
    else placeAfter (bytes - c.utf8Size) cs ⟨place.line, place.column + c.utf8Size⟩

/-- A fault and its place in the text. -/
structure ReadError where
  cause : Cause
  place : Place
deriving Repr

def ReadError.message (error : ReadError) : String :=
  error.cause.message ++ " at line " ++ toString error.place.line ++ " column " ++
    toString error.place.column

def Stop.locate (text : List Char) (stop : Stop) : ReadError :=
  ⟨stop.cause, placeAfter (byteCount text - stop.bytesAhead) text ⟨1, 0⟩⟩

/-- Reads a whole text, and says where in the text a fault is. -/
def readText {α : Type} (read : List Char → Except Stop (α × List Char)) (text : String) :
    Except ReadError α :=
  (Reader.whole read text.toList).mapError (Stop.locate text.toList)

/-- The JSON value of a text. -/
def parse (text : String) : Except ReadError Json := readText (Reader.value depthLimit) text

end FilterQuery.Json
