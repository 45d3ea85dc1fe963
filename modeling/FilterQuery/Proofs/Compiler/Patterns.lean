import FilterQuery.Proofs.Compiler.Contribution
import FilterQuery.Proofs.Datalog.Escaping

/-!
# Searches find what was entered

The patterns of a query are those of the texts that a full text or a property is searched for. So
whatever the reader of a query makes of them, they match an entered text, up to case, and nothing
else.
-/

namespace FilterQuery

open Datalog Text

namespace Condition

/-- The patterns that a condition puts into its clauses. -/
def patterns : Condition → List SearchPattern
  | .content pattern => [pattern]
  | .propertyContains _ texts ignoreCase => if ignoreCase then texts.map (⟨·, false⟩) else []
  | _ => []

section

variable {entity : String} {helper : String → String}

theorem patterns_anyOf (branches : List Clause) :
    (anyOf entity branches).flatMap Clause.patterns = branches.flatMap Clause.patterns := by
  cases branches with
  | nil => rfl
  | cons branch branches =>
    exact (List.flatMap_singleton _ _).trans (Clause.patternsList_eq_flatMap (branch :: branches))

theorem patterns_titled (attr base : String) (titles : List String) :
    (titled entity helper attr base titles).flatMap Clause.patterns = [] := by
  have hnone : (Clause.either (titles.map fun title ↦
      .pattern (helper base) ":block/title" (some (.text title)))).patterns = [] := by
    rw [Clause.patterns, Clause.patternsList_eq_flatMap, List.flatMap_map]
    exact List.flatMap_eq_nil_iff.2 fun _ _ ↦ rfl
  unfold titled
  split
  · rfl
  · rw [List.flatMap_cons, List.flatMap_singleton, hnone]
    rfl

theorem patterns_containing (ignoreCase : Bool) (attr base s : String) :
    (containing entity helper ignoreCase attr base s).patterns =
      if ignoreCase then [⟨s, false⟩] else [] := by
  cases ignoreCase <;> rfl

theorem patterns_status (titles : List String)
    (includeExtensions includeAllStatusProperties : Bool) :
    ((status titles includeExtensions includeAllStatusProperties).clauses entity helper).flatMap
      Clause.patterns = [] := by
  rw [clauses, List.flatMap_append, patterns_titled, List.append_nil]
  cases includeExtensions <;> cases includeAllStatusProperties <;> rfl

/-- The clauses of a condition hold no other patterns. -/
theorem mem_patterns_of_mem_clauses {condition : Condition} {pattern : SearchPattern}
    (h : pattern ∈ (condition.clauses entity helper).flatMap Clause.patterns) :
    pattern ∈ condition.patterns := by
  cases condition with
  | content => exact h
  | tag _ includeExtensions => cases includeExtensions <;> cases h
  | link | priority =>
    rw [clauses, patterns_titled] at h
    cases h
  | linkToAny attr titles =>
    rw [clauses, patterns_anyOf, List.flatMap_map, List.mem_flatMap] at h
    obtain ⟨title, -, h⟩ := h
    cases h
  | property name texts =>
    rw [clauses, patterns_anyOf, List.flatMap_assoc, List.mem_flatMap] at h
    obtain ⟨s, -, h⟩ := h
    cases h
  | propertyContains name texts ignoreCase =>
    rw [clauses, patterns_anyOf, List.flatMap_assoc, List.mem_flatMap] at h
    obtain ⟨s, hs, h⟩ := h
    simp only [List.flatMap_cons, List.flatMap_nil, patterns_containing] at h
    cases ignoreCase with
    | false => cases h
    | true =>
      obtain rfl : pattern = ⟨s, false⟩ := by simpa using h
      exact List.mem_map_of_mem hs
  | status =>
    rw [patterns_status] at h
    cases h
  | _ => cases h

end

end Condition

/-- The texts that a filter searches for, whether in full texts or in a property. -/
def Filter.searched : Filter → List String
  | .fullText _ value => value.asSingle?.toList
  | .property filter => if filter.operator = .contains then filter.value.texts else []
  | _ => []

namespace PropertyFilter

variable {filter : PropertyFilter} {ignoreCase : Bool} {condition : Condition}

theorem text_mem_searched_of_probe? (h : filter.probe? ignoreCase = some condition) :
    ∀ pattern ∈ condition.patterns, pattern.text ∈ (Filter.property filter).searched := by
  unfold probe? at h
  split at h
  · cases h
    exact nofun
  case h_2 hoperator =>
    cases h
    rw [Filter.searched, if_pos hoperator, Condition.patterns]
    split
    · exact List.forall_mem_map.2 fun _ ↦ id
    · exact nofun
  · cases h

theorem text_mem_searched_of_condition? {schema : Option PropertySchema}
    (h : filter.condition? ignoreCase schema = some condition) :
    ∀ pattern ∈ condition.patterns, pattern.text ∈ (Filter.property filter).searched := by
  rcases condition?_cases h with hprobe | ⟨schema, -, -, htyped⟩
  · exact text_mem_searched_of_probe? hprobe
  rcases typed?_cases htyped with ⟨_, rfl⟩ | hlink | ⟨_, _, rfl⟩ | ⟨_, _, rfl⟩ | hprobe
  · exact nofun
  · unfold linkCondition? at hlink
    split at hlink <;> cases hlink <;> exact nofun
  · exact nofun
  · exact nofun
  · exact text_mem_searched_of_probe? hprobe

end PropertyFilter

namespace Compiler

variable {Step : Type} {compiler : Compiler Step}

/-- The patterns in the clauses of a filter are for the texts that it searches for. -/
theorem text_mem_searched {entity : String} {filter : Filter} {scope : Scope} :
    ∀ pattern ∈ (compiler.buildFilter entity filter scope).value.1.flatMap Clause.patterns,
      pattern.text ∈ filter.searched := by
  rw [buildFilter_value]
  cases hcondition : (compiler.condition filter).value with
  | none => exact nofun
  | some condition =>
    intro pattern hpattern
    have hmem : pattern ∈ condition.patterns := Condition.mem_patterns_of_mem_clauses hpattern
    cases gives_of_condition hcondition with
    | fullText _ hs =>
      obtain rfl := List.mem_singleton.1 hmem
      rw [Filter.searched, hs]
      exact List.mem_singleton_self _
    | property _ h => exact PropertyFilter.text_mem_searched_of_condition? h pattern hmem
    | _ => cases hmem

end Compiler

/-- What is written for a text inside a literal stands in one line and is read back as this text, by
a reader that stops at the closing quote and goes on behind it, whatever comes there. What is
written for a search is read back in two steps: as an expression, and from it as the row of the
characters of the text. So no two texts are written alike, and each pattern of a query, which is for
a text that was entered to be searched for, matches this text only. -/
theorem entered_texts_are_read_back :
    (∀ s rest, readLiteral? ((Literal.escape s).toList ++ '"' :: rest) = some (s.toList, rest)) ∧
    (∀ s rest enclosing forms, Reader.run ⟨enclosing, forms, .literal []⟩
        ((Literal.escape s).toList ++ '"' :: rest) =
      Reader.run ⟨enclosing, forms ++ [.text s], .between⟩ rest) ∧
    (∀ s, ∀ c ∈ ['\n', '\r', '\t'], c ∉ (Literal.escape s).toList) ∧
    (∀ s rest, readLiteral? ((Literal.escape (Pattern.quote s)).toList ++ '"' :: rest) =
        some ((Pattern.quote s).toList, rest) ∧
      Regex.read? (Pattern.quote s).toList = some (Regex.ofText s.toList)) ∧
    Function.Injective Literal.escape ∧
    (Function.Injective fun s ↦ Literal.escape (Pattern.quote s)) ∧
    (∀ (pattern : SearchPattern) bound,
      (Clause.regex pattern bound).render =
        "[(re-pattern \"" ++ pattern.body ++ "\") " ++ bound ++ "]" ∧
      (∀ rest, readLiteral? (pattern.body.toList ++ '"' :: rest) =
        some (pattern.source.toList, rest)) ∧
      ∃ search, Regex.Search.read? pattern.source.toList = some search ∧
        ∀ alike, pattern.IsMatchedBy search alike) ∧
    ∀ {Step : Type} (compiler : Compiler Step) entity filter scope,
      ∀ pattern ∈ (compiler.buildFilter entity filter scope).value.1.flatMap Clause.patterns,
        pattern.text ∈ filter.searched := by
  refine ⟨readLiteral?_escape, fun s rest enclosing forms ↦ ?_, fun s c hc ↦ ?_, fun s rest ↦ ?_,
    escape_injective, escape_injective.comp quote_injective, fun pattern bound ↦ ?_,
    fun compiler entity filter scope ↦ Compiler.text_mem_searched⟩
  · rw [Reader.run_of_readLiteral? (readLiteral?_escape s rest), List.nil_append,
      String.ofList_toList]
  · rw [toList_escape]
    exact notMem_encode hc s.toList
  · exact ⟨readLiteral?_escape _ rest, by rw [toList_quote, Regex.read?_encode]⟩
  · refine ⟨pattern.render_regex bound, fun rest ↦ ?_, pattern.exists_search⟩
    rw [← SearchPattern.escape_source, readLiteral?_escape]

/-- A backslash, a quote and two operators, with more behind the closing quote. -/
example : (Literal.escape (Pattern.quote "a\\\".*")).toList ++ "\") ?x]".toList =
      "a\\\\\\\\\\\"\\\\.\\\\*\") ?x]".toList ∧
    readLiteral? "a\\\\\\\\\\\"\\\\.\\\\*\") ?x]".toList =
      some ("a\\\\\"\\.\\*".toList, ") ?x]".toList) ∧
    Regex.read? "a\\\\\"\\.\\*".toList = some (Regex.ofText "a\\\".*".toList) := by
  decide +kernel

end FilterQuery
