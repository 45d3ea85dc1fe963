import FilterQuery.Proofs.Compiler.Attributes
import FilterQuery.Proofs.Number.Shortest
import FilterQuery.Proofs.Text.FirstWord

/-!
# The numerals of number clauses

The value of a number property is entered as a text. The clause that it gives holds a plain numeral,
which depends on the number only: entering this numeral gives the same clause again. However a
natural number up to `2 ^ 53` or its negative is spelled, the numeral is the usual one.
-/

namespace FilterQuery

open Datalog (Clause Comparison IsWord Scope readForms? renderNumber)
open Text (isBlank trim)

/-! ## Numbers from texts -/

namespace Decimal

/-- The number that a decimal stands for. -/
def value (d : Decimal) : ℚ := if d.negative then -d.size else d.size

/-- Numerals are written with digits, signs, a point and the letter of a power of ten. -/
theorem Spells.mem {cs : List Char} {d : Decimal} (h : Spells cs d) {c : Char} (hc : c ∈ cs) :
    c.isDigit = true ∨ c ∈ ['+', '-', '.', 'e', 'E'] := by
  have hsign {sign : List Char} {negative : Bool} (h : SpellsSign sign negative)
      (hc : c ∈ sign) : c ∈ ['+', '-', '.', 'e', 'E'] := by
    cases h <;> simp_all
  cases h with
  | numeral hleading hwhole hfraction hdigits hpower =>
    simp only [List.mem_append] at hc
    rcases hc with hc | hc | hc | hc
    · exact .inr (hsign hleading hc)
    · exact .inl (hwhole c hc)
    · cases hfraction with
      | none => cases hc
      | point h =>
        rcases List.mem_cons.1 hc with rfl | hc
        · exact .inr (by decide)
        · exact .inl (h c hc)
    · cases hpower with
      | none => cases hc
      | power hletter hsigned hne h =>
        rcases List.mem_cons.1 hc with rfl | hc
        · rcases hletter with rfl | rfl <;> exact .inr (by decide)
        · exact (List.mem_append.1 hc).elim (fun hc ↦ .inr (hsign hsigned hc))
            fun hc ↦ .inl (h c hc)

theorem Spells.not_isBlank {cs : List Char} {d : Decimal} (h : Spells cs d) :
    ∀ c ∈ cs, isBlank c = false := by
  intro c hc
  rcases h.mem hc with hdigit | hother
  · exact Calendar.isBlank_of_isDigit hdigit
  · have hnone : (['+', '-', '.', 'e', 'E'].all fun c ↦ !isBlank c) = true := by decide
    simpa using List.all_eq_true.1 hnone c hother

end Decimal

/-- A numeral for a number, with any blanks around it. -/
def Denotes (text : String) (q : ℚ) : Prop :=
  ∃ before numeral after d, text.toList = before ++ (numeral ++ after) ∧
    (∀ c ∈ before, isBlank c = true) ∧ (∀ c ∈ after, isBlank c = true) ∧
      Decimal.Spells numeral d ∧ d.value = q

/-- The blanks around a numeral do not count. -/
theorem parse?_of_spells {before numeral after : List Char} {text : String} {d : Decimal}
    (htext : text.toList = before ++ (numeral ++ after))
    (hbefore : ∀ c ∈ before, isBlank c = true) (hafter : ∀ c ∈ after, isBlank c = true)
    (h : Decimal.Spells numeral d) : Decimal.parse? (trim text).toList = some d := by
  have htrim : trim text = String.ofList numeral := by
    calc trim text
      _ = trim (String.ofList (before ++ ((String.ofList numeral).toList ++ after))) := by
        rw [String.toList_ofList, ← htext, String.ofList_toList]
      _ = trim (String.ofList numeral) := Calendar.trim_blanks hbefore hafter _
      _ = String.ofList numeral := by
        apply Calendar.trim_of_forall
        rw [String.toList_ofList]
        exact h.not_isBlank
  rw [htrim, String.toList_ofList]
  exact Decimal.parse?_eq_some_iff.2 h

/-- Only numerals are read as numbers. -/
theorem exists_denotes_of_parseNumber? {text : String} {x : Binary64}
    (h : parseNumber? text = some x) : ∃ q, Denotes text q := by
  obtain ⟨d, hparse, -⟩ := Option.bind_eq_some_iff.1 h
  obtain ⟨before, after, htext, hbefore, hafter⟩ := Text.exists_append_trim text
  exact ⟨d.value, before, _, after, d, htext, hbefore, hafter,
    Decimal.parse?_eq_some_iff.1 hparse, rfl⟩

theorem isCanonical_of_parseNumber? {text : String} {x : Binary64}
    (h : parseNumber? text = some x) : x.IsCanonical := by
  obtain ⟨d, -, hnearest⟩ := Option.bind_eq_some_iff.1 h
  exact (Decimal.nearest?_eq_some hnearest).1

/-- The text of a number is read as this number. -/
theorem parseNumber?_renderNumber {x : Binary64} (hx : x.IsCanonical) :
    parseNumber? (renderNumber x) = some x := by
  obtain ⟨d, hparse, hnegative, hsize⟩ :=
    (Decimal.shortest .up x).exists_parse?_positional
  have hspells : Decimal.Spells (renderNumber x).toList d := by
    rw [renderNumber, String.toList_ofList]
    exact Decimal.parse?_eq_some_iff.1 hparse
  have hread : Decimal.parse? (trim (renderNumber x)).toList = some d := by
    rw [Calendar.trim_of_forall hspells.not_isBlank]
    exact Decimal.parse?_eq_some_iff.2 hspells
  rw [parseNumber?, hread, Option.bind_some, Decimal.nearest?_congr hnegative hsize]
  exact Decimal.nearest?_shortest .up hx

theorem toList_toString (n : ℤ) :
    (toString n).toList = Decimal.minusIf (decide (n < 0)) ++ Nat.toDigits 10 n.natAbs := by
  rw [Int.toString_eq_repr, Int.repr_eq_if]
  split_ifs with hn
  · have hnatAbs : n.toNat = n.natAbs := by omega
    have hpositive : ¬n < 0 := by omega
    simp [hnatAbs, hpositive, Decimal.minusIf, Nat.toList_repr]
  · have hnatAbs : (-n).toNat = n.natAbs := by omega
    have hnegative : n < 0 := by omega
    simp [hnatAbs, hnegative, Decimal.minusIf, Nat.toList_repr]

theorem Decimal.size_nonneg (d : Decimal) : 0 ≤ d.size :=
  mul_nonneg (Nat.cast_nonneg _) (zpow_pos (by norm_num) _).le

/-- A decimal for an integer that is not zero has its sign and its magnitude. -/
theorem Decimal.of_value_eq {d : Decimal} {n : ℤ} (h : d.value = n) (hn : n ≠ 0) :
    d.negative = decide (n < 0) ∧ d.size = n.natAbs := by
  have hnonneg := d.size_nonneg
  have habs : ((n.natAbs : ℕ) : ℚ) = |(n : ℚ)| := by
    rw [Nat.cast_natAbs, Int.cast_abs]
  unfold value at h
  rw [habs, ← h]
  split_ifs at h ⊢ with hnegative
  · have hle : (n : ℚ) ≤ 0 := by linarith
    have hlt : n < 0 := lt_of_le_of_ne (by exact_mod_cast hle) hn
    exact ⟨by simp [hnegative, hlt], by rw [abs_neg, abs_of_nonneg hnonneg]⟩
  · have hle : (0 : ℚ) ≤ n := h ▸ hnonneg
    have hlt : ¬n < 0 := Int.not_lt.2 (by exact_mod_cast hle)
    exact ⟨by simp [hnegative, hlt], (abs_of_nonneg hnonneg).symm⟩

/-- An integer that is not zero and not beyond `2 ^ 53` is read as a number with its usual
numeral. -/
theorem exists_of_denotes {text : String} {n : ℤ} (h : Denotes text n) (hn : n ≠ 0)
    (hle : |n| ≤ 2 ^ 53) : ∃ x, parseNumber? text = some x ∧ renderNumber x = toString n := by
  obtain ⟨before, numeral, after, d, htext, hbefore, hafter, hspells, hvalue⟩ := h
  have hparse := parse?_of_spells htext hbefore hafter hspells
  obtain ⟨hnegative, hsize⟩ := Decimal.of_value_eq hvalue hn
  have hmagnitude : n.natAbs ≤ 2 ^ 53 := by
    rw [Int.abs_eq_natAbs] at hle
    exact_mod_cast hle
  obtain ⟨x, hx, hsign, hnumber⟩ :=
    Binary64.exists_isCanonical d.negative (Int.natAbs_ne_zero.2 hn) hmagnitude
  refine ⟨x, ?_, ?_⟩
  · rw [parseNumber?, hparse, Option.bind_some]
    exact Decimal.nearest?_of_size_eq hx hsign.symm (hsize.trans hnumber.symm)
  · rw [← String.toList_inj, toList_toString, renderNumber, String.toList_ofList,
      Decimal.positional_shortest .up hx (Int.natAbs_ne_zero.2 hn) hnumber hmagnitude, hsign,
      hnegative]

/-! ## Number clauses -/

/-- The text of the clauses that compare a value with a literal. -/
def numberClause (entity attr symbol name literal : String) : String :=
  "[" ++ entity ++ " " ++ attr ++ " " ++ name ++ "]" ++ "\n " ++
    ("[(" ++ symbol ++ " " ++ name ++ " " ++ literal ++ ")]")

/-- The text of the clauses determines the literal. -/
theorem numberClause_injective (entity attr symbol name : String) :
    Function.Injective (numberClause entity attr symbol name) := by
  intro literal other h
  have htest := (String.append_right_inj _).1 h
  exact (String.append_right_inj _).1 ((String.append_left_inj _).1 htest)

theorem renderAll_pair (first second : Clause) :
    Clause.renderAll [first, second] = first.render ++ "\n " ++ second.render := by
  have hseparator : "\n" ++ Datalog.spaces 1 = "\n " := by decide
  rw [Clause.renderAll, Datalog.joinLines, hseparator, List.map_cons, List.map_singleton,
    String.intercalate_cons_cons, String.intercalate_singleton]

theorem renderAll_number (entity attr : String) (helper : String → String)
    (comparison : Comparison) (x : Binary64) :
    Clause.renderAll ((Condition.number attr comparison x).clauses entity helper) =
      numberClause entity attr comparison.symbol (helper "num") (renderNumber x) :=
  renderAll_pair (.pattern entity attr (some (.var (helper "num"))))
    (.test (.compare comparison) (.var (helper "num")) (.number x))

/-- Between words the literal is a word of its own. -/
theorem readForms?_number {entity attr : String} {helper : String → String}
    (hentity : IsWord entity) (hattr : IsWord attr) (hhelper : IsWord (helper "num"))
    (comparison : Comparison) (x : Binary64) :
    readForms? (Clause.renderAll ((Condition.number attr comparison x).clauses entity helper)) =
      some [.vector [.word entity, .word attr, .word (helper "num")],
        .vector [.list [.word comparison.symbol, .word (helper "num"),
          .word (renderNumber x)]]] := by
  have hsymbol : IsWord comparison.symbol := Datalog.isWord_symbol (.compare comparison)
  have hliteral := Datalog.isWord_renderNumber x
  apply (Datalog.reads_renderAll ?_).readForms?_eq
  have hfirst : ∀ w ∈ [entity, attr, helper "num"], IsWord w := by simp [hentity, hattr, hhelper]
  have hsecond : ∀ w ∈ [comparison.symbol, helper "num", renderNumber x], IsWord w := by
    simp [hsymbol, hhelper, hliteral]
  intro c hc
  rcases List.mem_pair.1 hc with rfl | rfl
  · exact hfirst
  · exact hsecond

section

variable {Step : Type} (compiler : Compiler Step) {filter : PropertyFilter}
  {schema : PropertySchema} {comparison : Comparison}
  (hschema : (filter.findSchema compiler.lookup).value = some schema)
  (hnamed : schema.isNamed = true) (htype : schema.valueType = .number)
  (hcomparison : filter.operator.comparison? = some comparison)

include hschema hnamed htype hcomparison

theorem condition_number (text : String) :
    compiler.condition (.property { filter with value := .single text }) =
      ⟨(parseNumber? text).map (.number schema.keyword comparison),
        (filter.findSchema compiler.lookup).steps⟩ := by
  have hoperator : filter.operator ≠ .unrecognized := by
    intro hunrecognized
    rw [hunrecognized] at hcomparison
    cases hcomparison
  have hfound : PropertyFilter.findSchema { filter with value := .single text } compiler.lookup =
      ⟨some schema, (filter.findSchema compiler.lookup).steps⟩ := by
    rw [← hschema]
    rfl
  have htyped : PropertyFilter.condition? { filter with value := .single text } compiler.ignoreCase
      (some schema) = (parseNumber? text).map (.number schema.keyword comparison) := by
    simp only [PropertyFilter.condition?, hnamed, if_true, PropertyFilter.typed?, htype,
      FilterValue.asSingle?, hcomparison]
    cases hnumber : parseNumber? text <;> simp [hnumber]
  rw [Compiler.condition_property_eq, if_neg hoperator, hfound, ← htyped]
  exact congrArg _ (List.append_nil _)

variable (entity : String) (scope : Scope)

/-- A number clause depends on the number that the text stands for. -/
theorem buildFilter_number (text : String) :
    compiler.buildFilter entity (.property { filter with value := .single text }) scope =
      ⟨((parseNumber? text).map (Condition.number schema.keyword comparison)).elim ([], scope)
          fun condition ↦ condition.build entity scope,
        (filter.findSchema compiler.lookup).steps⟩ := by
  rw [Compiler.buildFilter, condition_number compiler hschema hnamed htype hcomparison]
  cases parseNumber? text with
  | none => exact congrArg _ (List.append_nil _)
  | some x => exact congrArg _ (List.append_nil _)

/-- Only numerals give a number clause. Its literal is a plain numeral and one word of the query,
and entering it gives the same clauses. For an integer that is not zero and not beyond `2 ^ 53` it
is the usual numeral, however the integer is spelled. -/
theorem number_clauses_hold_plain_numerals :
    let built (text : String) :=
      compiler.buildFilter entity (.property { filter with value := .single text }) scope
    let clause := numberClause entity schema.keyword comparison.symbol (scope.next "num")
    (∀ text, (built text).value.1 ≠ [] → (∃ q, Denotes text q) ∧ ∃ literal,
      Clause.renderAll (built text).value.1 = clause literal ∧
      Decimal.IsPlainNumeral literal.toList ∧ readForms? literal = some [.word literal] ∧
      (IsWord entity → IsWord schema.keyword → readForms? (clause literal) =
        some [.vector [.word entity, .word schema.keyword, .word (scope.next "num")],
          .vector [.list [.word comparison.symbol, .word (scope.next "num"), .word literal]]]) ∧
      built literal = built text) ∧
    ∀ (text : String) (n : ℤ), Denotes text n → n ≠ 0 → |n| ≤ 2 ^ 53 →
      Clause.renderAll (built text).value.1 = clause (toString n) := by
  intro built clause
  have hbuilt (text : String) : built text = _ :=
    buildFilter_number compiler hschema hnamed htype hcomparison entity scope text
  have hrender {text : String} {x : Binary64} (h : parseNumber? text = some x) :
      Clause.renderAll (built text).value.1 = clause (renderNumber x) := by
    rw [hbuilt text, h]
    exact renderAll_number entity schema.keyword scope.next comparison x
  constructor
  · intro text hne
    cases hnumber : parseNumber? text with
    | none =>
      rw [hbuilt text, hnumber] at hne
      exact absurd rfl hne
    | some x =>
      have hx := isCanonical_of_parseNumber? hnumber
      refine ⟨exists_denotes_of_parseNumber? hnumber, renderNumber x, hrender hnumber,
        ?_, ?_, ?_, ?_⟩
      · rw [renderNumber, String.toList_ofList]
        exact Decimal.isPlainNumeral_positional _
      · exact (Datalog.reads_word (Datalog.isWord_renderNumber x)).readForms?_eq
      · intro hentity hkeyword
        rw [← readForms?_number hentity hkeyword (Compiler.isWord_next scope "num" (by decide)),
          renderAll_number]
      · rw [hbuilt, hbuilt, parseNumber?_renderNumber hx, hnumber]
  · intro text n hdenotes hn hle
    obtain ⟨x, hnumber, hnumeral⟩ := exists_of_denotes hdenotes hn hle
    rw [hrender hnumber, hnumeral]

end

/-- A numeral with a sign, a point, zeros at the end and a power of ten. -/
theorem number_clauses_hold_plain_numerals_of_exponent :
    let filter : PropertyFilter := ⟨"size", none, some ⟨"size", .number, .one⟩, .gt, .empty⟩
    let compiler : Compiler Empty := ⟨true, SchemaLookup.empty⟩
    let built (text : String) :=
      compiler.buildFilter "?b" (.property { filter with value := .single text }) .empty
    Denotes " +4.20e1 " 42 ∧ built "42" = built " +4.20e1 " ∧
      Clause.renderAll (built "42").value.1 = "[?b :size ?num]\n [(> ?num 42)]" := by
  intro filter compiler built
  have hclauses := number_clauses_hold_plain_numerals compiler
    (rfl : (filter.findSchema compiler.lookup).value = some ⟨"size", .number, .one⟩) (by decide) rfl
    rfl "?b" .empty
  have hspells : Decimal.Spells "+4.20e1".toList ⟨false, 420, -1⟩ :=
    Decimal.parse?_eq_some_iff.1 (by decide)
  have hdenotes : Denotes " +4.20e1 " 42 := by
    have hblank : ∀ c ∈ [' '], isBlank c = true := List.forall_mem_singleton.2 (by decide)
    refine ⟨[' '], "+4.20e1".toList, [' '], _, by decide, hblank, hblank, hspells, ?_⟩
    norm_num [Decimal.value, Decimal.size]
  have htext := hclauses.2 " +4.20e1 " 42 hdenotes (by decide) (by decide)
  have hne : (built " +4.20e1 ").value.1 ≠ [] := by
    intro hnil
    rw [hnil] at htext
    exact absurd htext (by decide)
  obtain ⟨-, literal, hliteral, -, -, -, hagain⟩ := hclauses.1 " +4.20e1 " hne
  have hnumeral : literal = toString (42 : ℤ) :=
    numberClause_injective _ _ _ _ (hliteral.symm.trans htext)
  have hbuilt : built "42" = built " +4.20e1 " := by
    rw [hnumeral] at hagain
    exact hagain
  refine ⟨hdenotes, hbuilt, ?_⟩
  rw [hbuilt]
  exact htext.trans (by decide)

end FilterQuery
