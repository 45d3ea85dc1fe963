import FilterQuery.Json.Printer
import FilterQuery.Text.Quotation

/-!
# Values that do not have the expected shape

A mismatch says what was found and what was expected of a value: another type, a value or a length
that is not allowed, a name that is none of the variants, a member that is missing or given twice.
-/

namespace FilterQuery.Json

/-- What a mismatch found in place of the expected value. -/
inductive Found
  | null
  | bool (value : Bool)
  | number (value : Number)
  | string (value : String)
  | sequence
  | map
deriving Repr

def found : Json → Found
  | .null => .null
  | .bool b => .bool b
  | .number n => .number n
  | .string s => .string s
  | .array _ => .sequence
  | .object _ => .map

inductive Mismatch
  | invalidType (found : Found) (expected : String)
  | invalidValue (found : Found) (expected : String)
  | invalidLength (length : Nat) (expected : String)
  | unknownVariant (name : String) (variants : List String)
  | missingField (name : String)
  | duplicateField (name : String)
  | noVariant (type : String)
deriving Repr

def code (s : String) : String := "`" ++ s ++ "`"

def Found.message : Found → String
  | .null => "null"
  | .bool b => "boolean " ++ code (if b then "true" else "false")
  | .number (.integer n) => "integer " ++ code (toString n)
  | .number (.float x) => "floating point " ++ code (renderFloat x)
  | .string s => "string " ++ Text.Quotation.render s
  | .sequence => "sequence"
  | .map => "map"

/-- The names that were possible: one, either of two, or one of several. -/
def oneOf : List String → String
  | [name] => code name
  | [first, second] => code first ++ " or " ++ code second
  | names => "one of " ++ String.intercalate ", " (names.map code)

def Mismatch.message : Mismatch → String
  | .invalidType found expected => "invalid type: " ++ found.message ++ ", expected " ++ expected
  | .invalidValue found expected => "invalid value: " ++ found.message ++ ", expected " ++ expected
  | .invalidLength length expected =>
    "invalid length " ++ toString length ++ ", expected " ++ expected
  | .unknownVariant name variants =>
    "unknown variant " ++ code name ++ ", expected " ++ oneOf variants
  | .missingField name => "missing field " ++ code name
  | .duplicateField name => "duplicate field " ++ code name
  | .noVariant type => "data did not match any variant of untagged enum " ++ type

end FilterQuery.Json
