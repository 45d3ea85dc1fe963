import FilterQuery.Json.Basic
import FilterQuery.Number.Shortest

/-!
# JSON text

Values are written without blanks. Strings escape the quote, the backslash, the control characters
and the three line separators beyond ASCII, so that every value stays on one line.
-/

namespace FilterQuery.Json

def hexDigits (width n : Nat) : List Char :=
  let digits := Nat.toDigits 16 n
  List.replicate (width - digits.length) '0' ++ digits

def spell (c : Char) : List Char :=
  match c with
  | '"' => ['\\', '"']
  | '\\' => ['\\', '\\']
  | '\x08' => ['\\', 'b']
  | '\x0c' => ['\\', 'f']
  | '\n' => ['\\', 'n']
  | '\r' => ['\\', 'r']
  | '\t' => ['\\', 't']
  | c =>
    if c.toNat < 0x20 ∨ c.toNat ∈ [0x85, 0x2028, 0x2029] then '\\' :: 'u' :: hexDigits 4 c.toNat
    else [c]

def renderString (s : String) : String := "\"" ++ String.ofList (s.toList.flatMap spell) ++ "\""

/-- A power of ten behind its mantissa, always with a sign. -/
def renderExponent (n : Int) : String := (if n < 0 then "e-" else "e+") ++ toString n.natAbs

/-- The shortest decimal of a floating-point number: with a point while at most sixteen digits come
before it and at most four zeros directly behind it, with a power of ten otherwise. -/
def renderFloat (x : Binary64) : String :=
  let d := Decimal.shortest .even x
  let digits := Nat.toDigits 10 d.digits
  let sign := if d.negative then "-" else ""
  let point : Int := digits.length + d.exponent
  if d.digits = 0 then sign ++ "0.0"
  else if 0 ≤ d.exponent ∧ point ≤ 16 then String.ofList d.positional ++ ".0"
  else if -5 < point ∧ point ≤ 16 then String.ofList d.positional
  else
    let mantissa := match digits with
      | first :: second :: rest => String.ofList (first :: '.' :: second :: rest)
      | digits => String.ofList digits
    sign ++ mantissa ++ renderExponent (point - 1)

def Number.render : Number → String
  | .integer n => toString n
  | .float x => renderFloat x

def bracket (left right : String) (parts : List String) : String :=
  left ++ String.intercalate "," parts ++ right

mutual

def render : Json → String
  | .null => "null"
  | .bool b => if b then "true" else "false"
  | .number n => n.render
  | .string s => renderString s
  | .array items => bracket "[" "]" (renderItems items)
  | .object members => bracket "\x7b" "\x7d" (renderMembers members)

def renderItems : List Json → List String
  | [] => []
  | item :: items => item.render :: renderItems items

def renderMembers : List (String × Json) → List String
  | [] => []
  | (name, value) :: members => (renderString name ++ ":" ++ value.render) :: renderMembers members

end

end FilterQuery.Json
