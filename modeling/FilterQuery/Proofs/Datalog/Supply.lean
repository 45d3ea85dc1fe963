import FilterQuery.Proofs.Datalog.Vocabulary

/-!
# What a clause is composed of

A supply says what may stand in a clause: the entity that it is about and that its joins are on,
helper variables, attributes, and literals. Every way to combine clauses keeps to a supply.
-/

namespace FilterQuery.Datalog

/-- What may stand in a clause about an entity. -/
structure Supply where
  entity : String
  IsHelper : String → Prop
  IsAttribute : String → Prop
  IsLiteral : String → Prop

/-- A variable or literal of the supply, or a constant. -/
def Operand.ComposedOf (supply : Supply) : Operand → Prop
  | .var name => supply.IsHelper name
  | .text content => supply.IsLiteral content
  | .keyword name => IsConstant name
  | _ => True

namespace Clause

/-- A clause whose parts come from a supply. -/
inductive ComposedOf (supply : Supply) : Clause → Prop
  | has {subject attr : String} (hsubject : subject = supply.entity ∨ supply.IsHelper subject)
      (hattr : supply.IsAttribute attr) : ComposedOf supply (.pattern subject attr none)
  | pattern {subject attr : String} {value : Operand}
      (hsubject : subject = supply.entity ∨ supply.IsHelper subject)
      (hattr : supply.IsAttribute attr) (hvalue : value.ComposedOf supply) :
      ComposedOf supply (.pattern subject attr (some value))
  | test {predicate : Predicate} {left right : Operand} (hleft : left.ComposedOf supply)
      (hright : right.ComposedOf supply) : ComposedOf supply (.test predicate left right)
  | regex {search : SearchPattern} {bound : String} (hsource : supply.IsLiteral search.source)
      (hbound : supply.IsHelper bound) : ComposedOf supply (.regex search bound)
  | either {alternatives : List Clause} (h : ∀ c ∈ alternatives, ComposedOf supply c) :
      ComposedOf supply (.either alternatives)
  | conj {layout : Layout} {parts : List Clause} (h : ∀ c ∈ parts, ComposedOf supply c) :
      ComposedOf supply (.conj layout parts)
  | orJoin {indent : Nat} {branches : List Clause} (h : ∀ c ∈ branches, ComposedOf supply c) :
      ComposedOf supply (.orJoin supply.entity indent branches)
  | notJoin {parts : List Clause} (h : ∀ c ∈ parts, ComposedOf supply c) :
      ComposedOf supply (.notJoin supply.entity parts)

end Clause

section

variable {vocabulary : Vocabulary} {entity : String}

theorem Operand.ComposedOf.madeOf {operand : Operand} (h : operand.ComposedOf
    ⟨entity, (· ∈ vocabulary.names), IsConstant, (· ∈ vocabulary.literals)⟩) :
    operand.form.MadeOf vocabulary := by
  cases operand with
  | var name => exact madeOf_var.2 (.inl h)
  | text content => exact madeOf_literal.2 h
  | keyword name => exact madeOf_keyword.2 (.inr h)
  | flag value => exact madeOf_flag
  | number value => exact madeOf_number
  | instant milliseconds => exact madeOf_instant

/-- A clause about one of the names, with other names, constants and literals, is made of these. -/
theorem Clause.ComposedOf.madeOf {clause : Clause} (hentity : entity ∈ vocabulary.names)
    (h : clause.ComposedOf
      ⟨entity, (· ∈ vocabulary.names), IsConstant, (· ∈ vocabulary.literals)⟩) :
    clause.form.MadeOf vocabulary := by
  have hsubject {subject : String} (h : subject = entity ∨ subject ∈ vocabulary.names) :
      subject ∈ vocabulary.names := h.elim (· ▸ hentity) id
  induction h with
  | has h hattr =>
    have hconstant : IsConstant _ := hattr
    simp [form, hsubject h, hconstant]
  | pattern h hattr hvalue =>
    have hconstant : IsConstant _ := hattr
    simp [form, hsubject h, hconstant, hvalue.madeOf]
  | test hleft hright => exact madeOf_test hleft.madeOf hright.madeOf
  | regex hsource hbound => exact madeOf_regex hsource hbound
  | either _ ih => exact madeOf_either ih
  | conj _ ih => exact madeOf_conj ih
  | orJoin _ ih =>
    have hhead : IsConstant "or-join" := by decide
    simpa [form, hentity, hhead] using ih
  | notJoin _ ih =>
    have hhead : IsConstant "not-join" := by decide
    simpa [form, hentity, hhead] using ih

end

end FilterQuery.Datalog
