import FilterQuery.Proofs.Calendar.Reading
import FilterQuery.Proofs.Compiler.Attributes
import FilterQuery.Proofs.Compiler.Denotation

/-!
# The instants of a period

A period is given by its first and its last date. Its clauses compare an instant with the starts of
these two days, so that the first day belongs to the period from its start on, while the last day
belongs to it with its first millisecond only.
-/

namespace FilterQuery

open Calendar Datalog

variable {Step Value : Type}

/-- Integers stand for instants, and these are compared in the order of time. -/
structure Datalog.Interpretation.ReadsInstants (I : Interpretation Value) (instant : Int → Value) :
    Prop where
  constant (t : Int) : I.constant (toString t) = instant t
  from_iff (t bound : Int) : I.calls ">=" [instant t, instant bound] [] ↔ bound ≤ t
  until_iff (t bound : Int) : I.calls "<=" [instant t, instant bound] [] ↔ t ≤ bound

section

variable {I : Interpretation Value} {facts : Database Value} {entity : String} {x : Value}

/-- An entity solves the clauses of a period if it has a value that passes both comparisons. -/
theorem solves_period (hentity : isVariable entity = true) {attr : String}
    (hattr : IsConstant attr) {helper : String → String}
    (hdate : IsHelperOf entity (helper "date")) (first last : Int) :
    Solves I facts entity (((Condition.period attr first last).clauses entity helper).map
        Clause.form) x ↔
      ∃ value, (x, I.constant attr, value) ∈ facts ∧
        I.calls ">=" [value, I.constant (toString first)] [] ∧
        I.calls "<=" [value, I.constant (toString last)] [] := by
  have hhelper : Draws entity helper (Condition.period attr first last).bases :=
    ⟨List.forall_mem_singleton.2 hdate, fun _ h _ h' _ ↦
      (List.mem_singleton.1 h).trans (List.mem_singleton.1 h').symm⟩
  have hplain : (Condition.period attr first last).IsPlain := hattr
  exact Condition.asks_clauses hentity hplain id hhelper x

end

/-! ## Periods of calendar dates -/

theorem buildFilter_between (compiler : Compiler Step) (entity : String) {first last : Date}
    (hfirst : first.isReal = true) (hlast : last.isReal = true) (property : DateProperty)
    (scope : Scope) :
    compiler.buildFilter entity (.between first.text last.text property) scope =
      pure ((Condition.period property.attr (timestamp first .midnight)
        (timestamp last .midnight)).build entity scope) := by
  rw [Compiler.buildFilter, Compiler.condition, Filter.condition, Date.parseTimestamp?_text hfirst,
    Date.parseTimestamp?_text hlast]
  rfl

section

variable (compiler : Compiler Step) {I : Interpretation Value} {instant : Int → Value}
  (hinstants : I.ReadsInstants instant) {entity : String} (hentity : IsWord entity)
  (hvariable : isVariable entity = true) {scope : Scope} (hfresh : scope.next "date" ≠ entity)
  {first last : Date} (hfirst : first.isReal = true) (hlast : last.isReal = true)
  (property : DateProperty)

include hinstants hentity hvariable hfresh hfirst hlast

theorem solvesText_between {facts : Database Value} {x : Value}
    (hvalues : ∀ value, (x, I.constant property.attr, value) ∈ facts → ∃ t, value = instant t) :
    SolvesText I facts entity (Clause.renderAll (compiler.buildFilter entity
        (.between first.text last.text property) scope).value.1) x ↔
      ∃ t, (x, I.constant property.attr, instant t) ∈ facts ∧
        timestamp first .midnight ≤ t ∧ t ≤ timestamp last .midnight := by
  let clauses : List Clause := (Condition.period property.attr (timestamp first .midnight)
    (timestamp last .midnight)).clauses entity scope.next
  have hbuilt : (compiler.buildFilter entity (.between first.text last.text property)
      scope).value.1 = clauses := by
    rw [buildFilter_between compiler entity hfirst hlast]
    rfl
  have hread : readForms? (Clause.renderAll clauses) = some (clauses.map Clause.form) :=
    hbuilt ▸ compiler.readForms?_buildFilter hentity (fun _ ↦ Filter.noConfusion) scope
  have hattr : IsConstant property.attr :=
    isConstant_of_mem_applicationAttributes _ property.attr_mem_applicationAttributes
  have hdate : IsHelperOf entity (scope.next "date") := ⟨isVariable_variableName _ _, hfresh⟩
  rw [hbuilt, SolvesText, hread]
  simp only [Option.some.injEq, exists_eq_left']
  rw [solves_period hvariable hattr hdate]
  simp only [hinstants.constant]
  constructor
  · rintro ⟨value, hfact, hfrom, huntil⟩
    obtain ⟨t, rfl⟩ := hvalues value hfact
    exact ⟨t, hfact, (hinstants.from_iff t _).1 hfrom, (hinstants.until_iff t _).1 huntil⟩
  · rintro ⟨t, hfact, hfrom, huntil⟩
    exact ⟨instant t, hfact, (hinstants.from_iff t _).2 hfrom, (hinstants.until_iff t _).2 huntil⟩

end

/-! ## One day -/

/-- Words stand for themselves, and those of integers are compared as instants. -/
def wordInstants : Interpretation String where
  constant word := word
  text content := content
  calls name inputs outputs := outputs = [] ∧ ∃ t bound : Int,
    inputs = [toString t, toString bound] ∧ (name = ">=" ∧ bound ≤ t ∨ name = "<=" ∧ t ≤ bound)

/-- Different integers are written differently. -/
theorem toString_injective : Function.Injective (toString : Int → String) := by
  have hnatural {m n : Nat} (h : m.repr = n.repr) : m = n := by
    have hdigits : Nat.toDigits 10 m = Nat.toDigits 10 n := by
      rw [← Nat.toList_repr, h, Nat.toList_repr]
    rw [← @Nat.ofDigitChars_ten_toDigits m, hdigits, Nat.ofDigitChars_ten_toDigits]
  have hsign (m n : Nat) : m.repr ≠ "-" ++ n.repr := by
    intro h
    have hmem : '-' ∈ Nat.toDigits 10 m := by
      rw [← Nat.toList_repr, h]
      simp
    exact absurd (Nat.isDigit_of_mem_toDigits (by decide) (by decide) hmem) (by decide)
  intro t bound h
  rw [Int.toString_eq_repr, Int.toString_eq_repr, Int.repr_eq_if, Int.repr_eq_if] at h
  split_ifs at h with ht hbound hbound
  · have hsize := hnatural h
    omega
  · exact absurd h (hsign _ _)
  · exact absurd h.symm (hsign _ _)
  · have hsize := hnatural ((String.append_right_inj _).1 h)
    omega

theorem readsInstants_wordInstants : wordInstants.ReadsInstants toString := by
  have hsame {t bound t' bound' : Int}
      (h : [toString t, toString bound] = [toString t', toString bound']) :
      t = t' ∧ bound = bound' := by
    obtain ⟨ht, hbound⟩ := List.cons.inj h
    exact ⟨toString_injective ht, toString_injective (List.cons.inj hbound).1⟩
  constructor
  · exact fun t ↦ rfl
  · intro t bound
    constructor
    · rintro ⟨-, t', bound', hinputs, ⟨-, h⟩ | ⟨hname, -⟩⟩
      · obtain ⟨rfl, rfl⟩ := hsame hinputs
        exact h
      · exact absurd hname (by decide)
    · exact fun h ↦ ⟨rfl, t, bound, rfl, .inl ⟨rfl, h⟩⟩
  · intro t bound
    constructor
    · rintro ⟨-, t', bound', hinputs, ⟨hname, -⟩ | ⟨-, h⟩⟩
      · exact absurd hname (by decide)
      · obtain ⟨rfl, rfl⟩ := hsame hinputs
        exact h
    · exact fun h ↦ ⟨rfl, t, bound, rfl, .inr ⟨rfl, h⟩⟩

end FilterQuery
