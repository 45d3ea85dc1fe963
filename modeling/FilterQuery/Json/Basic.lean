import FilterQuery.Keyed
import FilterQuery.Number.Binary64

/-!
# JSON values

The members of an object are a keyed list: ascending names, each once. A number is an integer where
it was written as one that fits in 64 bits, and a binary floating-point number otherwise.
-/

namespace FilterQuery

inductive Json.Number
  | integer (value : Int)
  | float (value : Binary64)
deriving DecidableEq, Repr

inductive Json
  | null
  | bool (value : Bool)
  | number (value : Json.Number)
  | string (value : String)
  | array (items : List Json)
  | object (members : List (String × Json))
deriving Repr, BEq, Inhabited

namespace Json

/-- The object with these members, in whatever order they are given. -/
def ofMembers (members : List (String × Json)) : Json := .object (Keyed.ofList members)

/-- The value of a member, of an object that has it. -/
def get? (name : String) : Json → Option Json
  | .object members => members.lookup name
  | _ => none

def asString? : Json → Option String
  | .string s => some s
  | _ => none

def asBool? : Json → Option Bool
  | .bool b => some b
  | _ => none

def asArray? : Json → Option (List Json)
  | .array items => some items
  | _ => none

def asObject? : Json → Option (Keyed Json)
  | .object members => some members
  | _ => none

def ofInt (n : Int) : Json := .number (.integer n)

def ofOption {α : Type} (encode : α → Json) : Option α → Json
  | none => .null
  | some a => encode a

/-- An array of strings. -/
def ofStrings (strings : List String) : Json := .array (strings.map .string)

/-- All the elements, if each of them is a string. -/
def asStrings? (value : Json) : Option (List String) :=
  value.asArray?.bind fun items ↦ items.mapM asString?

end Json

end FilterQuery
