import FilterQuery.Proofs.Datalog.Vocabulary

/-!
# What clauses ask of an assignment

There is one law for each way to write a clause, which says when it holds under an assignment of
values to variables. A join asks nothing of an assignment but the value of its entity, so that its
branches may use helper variables that are used elsewhere too.

An assignment is of interest only for the value of the entity. The other variables of a conjunction
are eliminated: they may have any values that go together.
-/

namespace FilterQuery.Datalog

variable {Value : Type}

/-- What an operand stands for. -/
def Operand.value (I : Interpretation Value) (env : String → Value) : Operand → Value
  | .var name => env name
  | .text content => I.text content
  | .keyword name => I.constant name
  | .flag isSet => I.constant (if isSet then "true" else "false")
  | .number value => I.constant (renderNumber value)
  | .instant milliseconds => I.constant (toString milliseconds)

/-- An operand whose variable is one, and whose keyword is none. -/
def Operand.IsProper : Operand → Prop
  | .var name => isVariable name = true
  | .keyword name => isVariable name = false
  | _ => True

section

variable {I : Interpretation Value} {facts : Database Value} {env : String → Value}

theorem value?_variable {name : String} (h : isVariable name = true) :
    (Form.word name).value? I env = some (env name) := by
  simp [Form.value?, h]

theorem value?_constant {word : String} (h : isVariable word = false) :
    (Form.word word).value? I env = some (I.constant word) := by
  simp [Form.value?, h]

theorem Operand.IsProper.value?_form {operand : Operand} (h : operand.IsProper) :
    operand.form.value? I env = some (operand.value I env) := by
  cases operand with
  | var name => exact value?_variable h
  | text content => rfl
  | keyword name => exact value?_constant h
  | flag isSet => cases isSet <;> exact value?_constant (by decide)
  | number value => exact value?_constant (isConstant_renderNumber value).2
  | instant milliseconds => exact value?_constant (isConstant_toString milliseconds).2

/-! ## Clauses -/

theorem holdsAll_append {forms others : List Form} :
    HoldsAll I facts (forms ++ others) env ↔
      HoldsAll I facts forms env ∧ HoldsAll I facts others env := by
  rw [holdsAll_iff, holdsAll_iff, holdsAll_iff, List.forall_mem_append]

theorem holds_pattern {subject attr : String} {value : Operand}
    (hsubject : isVariable subject = true) (hattr : isVariable attr = false)
    (hvalue : value.IsProper) :
    (Clause.pattern subject attr (some value)).form.Holds I facts env ↔
      (env subject, I.constant attr, value.value I env) ∈ facts := by
  simp [holds_vector, Form.Matches, Form.values?, value?_variable hsubject,
    value?_constant hattr, hvalue.value?_form, Database.Has]

theorem holds_test {predicate : Predicate} {left right : Operand} (hleft : left.IsProper)
    (hright : right.IsProper) :
    (Clause.test predicate left right).form.Holds I facts env ↔
      I.calls predicate.symbol [left.value I env, right.value I env] [] := by
  have hsymbol := (isConstant_symbol predicate).2
  simp [holds_vector, Form.Matches, Form.values?, hleft.value?_form,
    hright.value?_form, hsymbol]

theorem holds_regex {search : SearchPattern} {bound : String} (hbound : isVariable bound = true) :
    (Clause.regex search bound).form.Holds I facts env ↔
      I.calls "re-pattern" [I.text search.source] [env bound] := by
  have hname : isVariable "re-pattern" = false := by decide
  have htext : (Form.text search.source).value? I env = some (I.text search.source) := rfl
  simp [holds_vector, Form.Matches, Form.values?, hname, htext, value?_variable hbound]

theorem holds_either {alternatives : List Clause} :
    (Clause.either alternatives).form.Holds I facts env ↔
      ∃ c ∈ alternatives, c.form.Holds I facts env := by
  simp only [Clause.form_either, holds_or, holdsAny_iff, List.mem_map,
    exists_exists_and_eq_and]

theorem holds_conj {layout : Layout} {parts : List Clause} :
    (Clause.conj layout parts).form.Holds I facts env ↔
      HoldsAll I facts (parts.map Clause.form) env := by
  rw [Clause.form_conj, holds_and]

/-- A branch of a join is solved on its own, for the value of the entity. -/
theorem holds_join {entity : String} (hentity : isVariable entity = true) {indent : Nat}
    {branches : List Clause} :
    (Clause.orJoin entity indent branches).form.Holds I facts env ↔
      ∃ c ∈ branches, Solves I facts entity [c.form] (env entity) := by
  simp only [Clause.form_orJoin, holds_orJoin, share_word hentity, holdsAny_iff,
    List.mem_map, exists_exists_and_eq_and, Solves, holdsAll_cons, holdsAll_nil, and_true]
  constructor
  · rintro ⟨inner, hsame, c, hc, hholds⟩
    exact ⟨c, hc, inner, hsame, hholds⟩
  · rintro ⟨c, hc, inner, hsame, hholds⟩
    exact ⟨inner, hsame, c, hc, hholds⟩

end

/-! ## Elimination of variables -/

/-- A variable other than that of the entity. -/
structure IsHelperOf (entity v : String) : Prop where
  isVariable : isVariable v = true
  ne : v ≠ entity

/-- Helper variables of an entity, a different one for each of some names. -/
structure Draws (entity : String) (helper : String → String) (bases : List String) : Prop where
  isHelperOf : ∀ base ∈ bases, IsHelperOf entity (helper base)
  injOn : Set.InjOn helper {base | base ∈ bases}

section

variable (I : Interpretation Value) (facts : Database Value) (entity : String)

/-- Clauses that are solved by the entities with a property. -/
def Asks (clauses : List Clause) (P : Value → Prop) : Prop :=
  ∀ x, Solves I facts entity (clauses.map Clause.form) x ↔ P x

/-- Alternatives one of which is solved by the entities with a property. -/
def Offers (branches : List Clause) (P : Value → Prop) : Prop :=
  ∀ x, (∃ c ∈ branches, Solves I facts entity [c.form] x) ↔ P x

end

section

variable {I : Interpretation Value} {facts : Database Value} {entity : String}
  {clauses branches others : List Clause}

theorem asks_of_entity {P : Value → Prop}
    (h : ∀ env, HoldsAll I facts (clauses.map Clause.form) env ↔ P (env entity)) :
    Asks I facts entity clauses P := by
  intro x
  constructor
  · rintro ⟨env, rfl, hholds⟩
    exact (h env).1 hholds
  · intro hP
    exact ⟨fun _ ↦ x, rfl, (h _).2 hP⟩

theorem asks_of_one {v : String} (hv : IsHelperOf entity v) {P : Value → Value → Prop}
    (h : ∀ env, HoldsAll I facts (clauses.map Clause.form) env ↔ P (env entity) (env v)) :
    Asks I facts entity clauses fun x ↦ ∃ a, P x a := by
  intro x
  constructor
  · rintro ⟨env, rfl, hholds⟩
    exact ⟨env v, (h env).1 hholds⟩
  · rintro ⟨a, hP⟩
    refine ⟨fun name ↦ if name = entity then x else a, if_pos rfl, (h _).2 ?_⟩
    rwa [if_pos rfl, if_neg hv.ne]

theorem asks_of_two {v w : String} (hv : IsHelperOf entity v) (hw : IsHelperOf entity w)
    (hne : v ≠ w) {P : Value → Value → Value → Prop} (h : ∀ env,
      HoldsAll I facts (clauses.map Clause.form) env ↔ P (env entity) (env v) (env w)) :
    Asks I facts entity clauses fun x ↦ ∃ a b, P x a b := by
  intro x
  constructor
  · rintro ⟨env, rfl, hholds⟩
    exact ⟨env v, env w, (h env).1 hholds⟩
  · rintro ⟨a, b, hP⟩
    refine ⟨fun name ↦ if name = entity then x else if name = v then a else b, if_pos rfl,
      (h _).2 ?_⟩
    rwa [if_pos rfl, if_neg hv.ne, if_neg hw.ne, if_pos rfl, if_neg hne.symm]

/-- Two conjunctions that use one helper variable each, and not the same, are solved apart. -/
theorem asks_append {v w : String} (hv : IsHelperOf entity v) (hw : IsHelperOf entity w)
    (hne : v ≠ w) {P Q : Value → Value → Prop}
    (h : ∀ env, HoldsAll I facts (clauses.map Clause.form) env ↔ P (env entity) (env v))
    (h' : ∀ env, HoldsAll I facts (others.map Clause.form) env ↔ Q (env entity) (env w)) :
    Asks I facts entity (clauses ++ others) fun x ↦ (∃ a, P x a) ∧ ∃ b, Q x b := by
  have hboth : Asks I facts entity (clauses ++ others) fun x ↦ ∃ a b, P x a ∧ Q x b := by
    refine asks_of_two hv hw hne fun env ↦ ?_
    rw [List.map_append, holdsAll_append, h, h']
  intro x
  simp only [hboth x, exists_and_left, exists_and_right]

theorem Asks.conj {P : Value → Prop} (h : Asks I facts entity clauses P) (layout : Layout) :
    Asks I facts entity [.conj layout clauses] P := by
  intro x
  rw [← h x]
  simp only [Solves, List.map_cons, List.map_nil, holdsAll_cons, holdsAll_nil, holds_conj, and_true]

theorem Asks.offers {c : Clause} {P : Value → Prop} (h : Asks I facts entity [c] P) :
    Offers I facts entity [c] P := by
  intro x
  simp only [List.mem_singleton, exists_eq_left]
  exact h x

theorem Offers.append {P Q : Value → Prop} (h : Offers I facts entity branches P)
    (h' : Offers I facts entity others Q) :
    Offers I facts entity (branches ++ others) fun x ↦ P x ∨ Q x := by
  intro x
  simp only [← h x, ← h' x, List.mem_append, or_and_right, exists_or]

theorem offers_given {flag : Bool} {P : Value → Prop}
    (h : flag = true → Offers I facts entity branches P) :
    Offers I facts entity (if flag then branches else []) fun x ↦ flag = true ∧ P x := by
  intro x
  cases flag with
  | false => simp
  | true => simpa using h rfl x

theorem offers_map {α : Type} {items : List α} {f : α → Clause} {P : α → Value → Prop}
    (h : ∀ a, Asks I facts entity [f a] (P a)) :
    Offers I facts entity (items.map f) fun x ↦ ∃ a ∈ items, P a x := by
  intro x
  simp only [List.mem_map, exists_exists_and_eq_and]
  exact exists_congr fun a ↦ and_congr_right fun _ ↦ h a x

theorem offers_flatMap {α : Type} {items : List α} {f : α → List Clause} {P : α → Value → Prop}
    (h : ∀ a, Offers I facts entity (f a) (P a)) :
    Offers I facts entity (items.flatMap f) fun x ↦ ∃ a ∈ items, P a x := by
  intro x
  simp only [← h _ x, List.mem_flatMap]
  constructor
  · rintro ⟨c, ⟨a, ha, hc⟩, hsolves⟩
    exact ⟨a, ha, c, hc, hsolves⟩
  · rintro ⟨a, ha, c, hc, hsolves⟩
    exact ⟨c, ⟨a, ha, hc⟩, hsolves⟩

/-- The branches of a join are alternatives. -/
theorem Offers.holds (hentity : isVariable entity = true) {P : Value → Prop}
    (h : Offers I facts entity branches P) {indent : Nat} {env : String → Value} :
    (Clause.orJoin entity indent branches).form.Holds I facts env ↔ P (env entity) :=
  (holds_join hentity).trans (h (env entity))

end

end FilterQuery.Datalog
