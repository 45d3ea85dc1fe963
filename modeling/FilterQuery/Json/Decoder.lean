import FilterQuery.Json.Mismatch

/-!
# Decoding values strictly

A strict decoder accepts a value of exactly one shape and otherwise says what is wrong with it. A
record is decoded from an object, whose members are visited in the order of their names and whose
unknown members are ignored, or from a list of its fields in their own order. The state of the visit
is the record as far as it is known.
-/

namespace FilterQuery.Json

def invalidType (expected : String) (value : Json) : Mismatch := .invalidType value.found expected

def expectString : Json → Except Mismatch String
  | .string s => .ok s
  | value => .error (invalidType "a string" value)

def expectBool : Json → Except Mismatch Bool
  | .bool b => .ok b
  | value => .error (invalidType "a boolean" value)

/-- A natural number of at most 64 bits. -/
def expectSize : Json → Except Mismatch Nat
  | .number (.integer n) =>
    if n < 0 then .error (.invalidValue (.number (.integer n)) "usize") else .ok n.toNat
  | value => .error (invalidType "usize" value)

def expectMap : Json → Except Mismatch (Keyed Json)
  | .object members => .ok members
  | value => .error (invalidType "a map" value)

/-- The spellings of the values of an enumeration. -/
abbrev Variants (α : Type) := List (String × α)

def Variants.named {α : Type} (variants : Variants α) (name : String) : Except Mismatch α :=
  match variants.lookup name with
  | some a => .ok a
  | none => .error (.unknownVariant name (variants.map Prod.fst))

/-- A value of an enumeration: its name, or an object with its name as the only member and null as
that member's value. -/
def Variants.expect {α : Type} (variants : Variants α) : Json → Except Mismatch α
  | .string name => variants.named name
  | .object [(name, value)] => do
    let a ← variants.named name
    match value with
    | .null => return a
    | value => .error (invalidType "unit" value)
  | .object _ => .error (.invalidValue .map "map with a single key")
  | value => .error (invalidType "string or map" value)

/-- A value of an enumeration, if it is one. -/
def Variants.read? {α : Type} (variants : Variants α) (value : Json) : Option α :=
  (variants.expect value).toOption

/-- Visits members in their order. -/
def visit {σ : Type} (field : σ → String → Json → Except Mismatch σ) (start : σ)
    (members : List (String × Json)) : Except Mismatch σ :=
  members.foldlM (fun state member ↦ field state member.1 member.2) start

/-- A record with the given title and field names. -/
def expectRecord {σ : Type} (title : String) (names : List String)
    (field : σ → String → Json → Except Mismatch σ) (start : σ) : Json → Except Mismatch σ
  | .object members => visit field start members
  | .array items => do
    let state ← visit field start (names.zip items)
    if names.length < items.length then
      .error (.invalidLength items.length "fewer elements in array")
    else return state
  | value => .error (invalidType ("struct " ++ title) value)

end FilterQuery.Json
