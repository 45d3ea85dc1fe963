import FilterQuery.Schema.Basic

/-!
# Schema lookup

A lookup answers a name with the schema of the property it stands for. What it does on the way, such
as the queries that it sends to a graph, is recorded beside the answer. A fixed table answers by
key; a table of attributes answers also by attribute, whatever colons lead the name.
-/

namespace FilterQuery

/-- A result together with what was done to get it, in order. -/
structure Recorded (Step α : Type) where
  value : α
  steps : List Step
deriving Repr

namespace Recorded

variable {Step α β : Type}

instance : Monad (Recorded Step) where
  pure a := ⟨a, []⟩
  bind x f := ⟨(f x.value).value, x.steps ++ (f x.value).steps⟩

instance : LawfulMonad (Recorded Step) where
  map_const := rfl
  id_map _ := by simp [Functor.map]
  seqLeft_eq _ _ := by simp [SeqLeft.seqLeft, Functor.map, Seq.seq]
  seqRight_eq _ _ := by simp [SeqRight.seqRight, Functor.map, Seq.seq]
  pure_seq _ _ := by simp [Functor.map, Seq.seq, pure]
  bind_pure_comp _ _ := rfl
  bind_map _ _ := rfl
  pure_bind _ _ := by simp [pure, bind]
  bind_assoc _ _ _ := by simp [bind]

@[simp] theorem pure_value (a : α) : (pure a : Recorded Step α).value = a := rfl

@[simp] theorem pure_steps (a : α) : (pure a : Recorded Step α).steps = [] := rfl

@[simp] theorem bind_value (x : Recorded Step α) (f : α → Recorded Step β) :
    (x >>= f).value = (f x.value).value := rfl

@[simp] theorem bind_steps (x : Recorded Step α) (f : α → Recorded Step β) :
    (x >>= f).steps = x.steps ++ (f x.value).steps := rfl

end Recorded

/-- Answers a name with a schema. -/
abbrev SchemaLookup (Step : Type) := String → Recorded Step (Option PropertySchema)

/-- Schemas by the name of their property. -/
abbrev SchemaTable := Keyed PropertySchema

namespace SchemaTable

variable {Step : Type}

/-- The schema with exactly this key. -/
def byKey (table : SchemaTable) : SchemaLookup Step := fun name ↦ pure (table.lookup name)

/-- The schema with this key, or else with this attribute; leading colons do not count. -/
def find? (table : SchemaTable) (name : String) : Option PropertySchema :=
  (table.lookup name).or
    ((table.map Prod.snd).find? fun schema ↦ dropColons schema.ident == dropColons name)

def byKeyOrIdent (table : SchemaTable) : SchemaLookup Step := fun name ↦ pure (table.find? name)

end SchemaTable

namespace SchemaLookup

variable {Step : Type}

/-- Knows no schema. -/
def empty : SchemaLookup Step := fun _ ↦ pure none

/-- The answer to the first name, if there is one, or else to the second name. -/
def firstOf (lookup : SchemaLookup Step) (first : Option String) (second : String) :
    Recorded Step (Option PropertySchema) := do
  match ← (match first with
    | some name => lookup name
    | none => pure none) with
  | some schema => return some schema
  | none => lookup second

end SchemaLookup

end FilterQuery
