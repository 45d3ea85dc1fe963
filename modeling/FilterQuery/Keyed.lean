/-!
# Lists of named values in the order of their names

A keyed list holds each name once, in ascending order of code points. Inserting a name that is there
already replaces its value, so that of several values under one name the last one stays.
-/

namespace FilterQuery

abbrev Keyed (α : Type) := List (String × α)

namespace Keyed

variable {α : Type}

/-- Puts a value under a name, in the place of that name. -/
def insert (name : String) (value : α) : Keyed α → Keyed α
  | [] => [(name, value)]
  | (other, held) :: rest =>
    if name = other then (name, value) :: rest
    else if name < other then (name, value) :: (other, held) :: rest
    else (other, held) :: insert name value rest

/-- The values in the order of their names, the last one under a repeated name. -/
def ofList (entries : List (String × α)) : Keyed α :=
  entries.foldl (fun table entry ↦ insert entry.1 entry.2 table) []

/-- Changes the value under a name, if there is one. -/
def modify (name : String) (change : α → α) : Keyed α → Keyed α
  | [] => []
  | (other, held) :: rest =>
    if name = other then (other, change held) :: rest
    else (other, held) :: modify name change rest

@[simp] theorem insert_nil (name : String) (value : α) :
    insert name value [] = [(name, value)] := rfl

theorem insert_cons (name : String) (value : α) (other : String) (held : α) (rest : Keyed α) :
    insert name value ((other, held) :: rest) =
      if name = other then (name, value) :: rest
      else if name < other then (name, value) :: (other, held) :: rest
      else (other, held) :: insert name value rest := rfl

theorem modify_cons (name : String) (change : α → α) (other : String) (held : α)
    (rest : Keyed α) :
    modify name change ((other, held) :: rest) =
      if name = other then (other, change held) :: rest
      else (other, held) :: modify name change rest := rfl

theorem lookup_insert_self (name : String) (value : α) (table : Keyed α) :
    (insert name value table).lookup name = some value := by
  induction table with
  | nil => simp
  | cons entry rest ih =>
    obtain ⟨other, held⟩ := entry
    by_cases h : name = other
    · simp [insert_cons, h]
    · by_cases hlt : name < other
      · simp [insert_cons, h, hlt]
      · have hne : (name == other) = false := by simpa using h
        simp [insert_cons, h, hlt, List.lookup_cons, hne, ih]

theorem lookup_insert_of_ne {name other : String} (h : other ≠ name) (value : α)
    (table : Keyed α) : (insert name value table).lookup other = table.lookup other := by
  induction table with
  | nil => simp [List.lookup_cons, beq_false_of_ne h]
  | cons entry rest ih =>
    obtain ⟨key, held⟩ := entry
    by_cases hkey : name = key
    · subst hkey
      simp [insert_cons, List.lookup_cons, beq_false_of_ne h]
    · by_cases hlt : name < key
      · simp [insert_cons, hkey, hlt, List.lookup_cons, beq_false_of_ne h]
      · simp only [insert_cons, hkey, hlt, ↓reduceIte, List.lookup_cons, ih]

/-- Changing a value leaves all names in their places. -/
theorem map_fst_modify (name : String) (change : α → α) (table : Keyed α) :
    (modify name change table).map Prod.fst = table.map Prod.fst := by
  induction table with
  | nil => rfl
  | cons entry rest ih =>
    obtain ⟨other, held⟩ := entry
    rw [modify_cons]
    split
    · rfl
    · rw [List.map_cons, List.map_cons, ih]

theorem lookup_modify_self (name : String) (change : α → α) (table : Keyed α) :
    (modify name change table).lookup name = (table.lookup name).map change := by
  induction table with
  | nil => rfl
  | cons entry rest ih =>
    obtain ⟨other, held⟩ := entry
    by_cases h : name = other
    · simp [modify_cons, h]
    · have hne : (name == other) = false := by simpa using h
      simp [modify_cons, h, List.lookup_cons, hne, ih]

theorem lookup_modify_of_ne {name other : String} (h : other ≠ name) (change : α → α)
    (table : Keyed α) : (modify name change table).lookup other = table.lookup other := by
  induction table with
  | nil => rfl
  | cons entry rest ih =>
    obtain ⟨key, held⟩ := entry
    by_cases hkey : name = key
    · subst hkey
      simp [modify_cons, List.lookup_cons, beq_false_of_ne h]
    · simp only [modify_cons, hkey, ↓reduceIte, List.lookup_cons, ih]

/-- Changing a value to itself changes nothing. -/
theorem modify_eq_self {name : String} {change : α → α} {table : Keyed α}
    (h : ∀ value ∈ table.lookup name, change value = value) : modify name change table = table := by
  induction table with
  | nil => rfl
  | cons entry rest ih =>
    obtain ⟨other, held⟩ := entry
    by_cases hname : name = other
    · have hheld : change held = held := h held (by simp [hname])
      simp [modify_cons, hname, hheld]
    · have hne : (name == other) = false := by simpa using hname
      have hrest : modify name change rest = rest := ih fun value hvalue ↦
        h value (by simpa [List.lookup_cons, hne] using hvalue)
      simp [modify_cons, hname, hrest]

end Keyed

end FilterQuery
