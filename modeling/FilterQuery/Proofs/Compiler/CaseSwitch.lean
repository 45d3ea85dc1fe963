import FilterQuery.Proofs.Compiler.Redundancy
import FilterQuery.Proofs.Compiler.Selection
import FilterQuery.Proofs.Datalog.Escaping

/-!
# What ignoring case changes

Whether case is ignored makes a difference only to a property that is searched for texts without a
schema that says otherwise. In a query it makes this difference and no other: in each branch for a
text there is an expression that is searched for instead of the text itself. The variables of such
branches are requested either way, also those that are not used, so that no variable of another
filter is named differently.

Ignoring case loses nothing: what holds a text as it stands also holds it up to case.
-/

namespace FilterQuery

open Datalog

variable {Step Value : Type}

/-- A property is searched for texts, and no schema with an attribute says that its values are
anything else. -/
def Filter.SearchesTexts (lookup : SchemaLookup Step) : Filter → Prop
  | .property filter => filter.operator = .contains ∧
    ∀ schema ∈ (filter.findSchema lookup).value, schema.isNamed = true → schema.valueType = .text
  | _ => False

/-! ## Conditions -/

namespace PropertyFilter

variable {filter : PropertyFilter}

theorem probe?_eq_of_ne_contains (h : filter.operator ≠ .contains) (ignoreCase other : Bool) :
    filter.probe? ignoreCase = filter.probe? other := by
  unfold probe?
  split
  · rfl
  case h_2 hoperator => exact absurd hoperator h
  · rfl

theorem typed?_eq {schema : PropertySchema}
    (h : filter.operator ≠ .contains ∨ schema.valueType ≠ .text) (ignoreCase other : Bool) :
    filter.typed? ignoreCase schema = filter.typed? other schema := by
  unfold typed?
  split
  case h_5 htext =>
    exact probe?_eq_of_ne_contains (h.resolve_right (not_not.2 htext)) ignoreCase other
  all_goals rfl

/-- The condition of a property has nothing to do with case, unless it is searched for texts. -/
theorem condition?_eq {found : Option PropertySchema}
    (h : filter.operator = .contains →
      ¬∀ schema ∈ found, schema.isNamed = true → schema.valueType = .text)
    (ignoreCase other : Bool) :
    filter.condition? ignoreCase found = filter.condition? other found := by
  by_cases hoperator : filter.operator = .contains
  · obtain ⟨schema, hschema⟩ := not_forall.1 (h hoperator)
    obtain ⟨hfound, hnamed, htype⟩ : schema ∈ found ∧ schema.isNamed = true ∧
        schema.valueType ≠ .text := by
      simpa only [Classical.not_imp] using hschema
    obtain rfl : found = some schema := hfound
    rw [condition?, condition?, if_pos hnamed, if_pos hnamed]
    exact typed?_eq (.inr htype) ignoreCase other
  · unfold condition?
    split
    · rw [typed?_eq (.inl hoperator) ignoreCase other,
        probe?_eq_of_ne_contains hoperator ignoreCase other]
    · exact probe?_eq_of_ne_contains hoperator ignoreCase other

end PropertyFilter

namespace Compiler

variable {lookup : SchemaLookup Step}

theorem condition_eq_of_not_searchesTexts {filter : Filter} (h : ¬filter.SearchesTexts lookup)
    (ignoreCase other : Bool) : ((⟨ignoreCase, lookup⟩ : Compiler Step).condition filter).value =
      ((⟨other, lookup⟩ : Compiler Step).condition filter).value := by
  cases filter with
  | property filter =>
    by_cases hoperator : filter.operator = .unrecognized
    · have hunrecognized : (Filter.property filter).IsUnrecognized := hoperator
      rw [condition_of_isUnrecognized hunrecognized, condition_of_isUnrecognized hunrecognized]
    · rw [condition_property hoperator, condition_property hoperator]
      exact PropertyFilter.condition?_eq (not_and.1 h) ignoreCase other
  | _ => rfl

theorem condition_of_searchesTexts {filter : PropertyFilter}
    (h : (Filter.property filter).SearchesTexts lookup) (ignoreCase : Bool) :
    ((⟨ignoreCase, lookup⟩ : Compiler Step).condition (.property filter)).value =
      some (.propertyContains (Text.trim filter.propertyName) filter.value.texts ignoreCase) := by
  obtain ⟨hoperator, hfound⟩ := h
  have hrecognized : filter.operator ≠ .unrecognized := by
    rw [hoperator]
    decide
  rw [condition_property hrecognized, PropertyFilter.condition?_of_text hfound,
    PropertyFilter.probe?, hoperator]

/-- What is requested for a filter has nothing to do with case. -/
theorem requests_eq (filter : Filter) (ignoreCase other : Bool) :
    (⟨ignoreCase, lookup⟩ : Compiler Step).requests filter =
      (⟨other, lookup⟩ : Compiler Step).requests filter := by
  unfold requests condition?
  split
  · by_cases hsearches : filter.SearchesTexts lookup
    · cases filter with
      | property filter =>
        rw [condition_of_searchesTexts hsearches, condition_of_searchesTexts hsearches]
        rfl
      | _ => cases hsearches
    · rw [condition_eq_of_not_searchesTexts hsearches ignoreCase other]
  · rfl

theorem counts_iff_counts (filter : Filter) (ignoreCase other : Bool) :
    (⟨ignoreCase, lookup⟩ : Compiler Step).Counts filter ↔
      (⟨other, lookup⟩ : Compiler Step).Counts filter := by
  unfold Counts condition?
  split
  · by_cases hsearches : filter.SearchesTexts lookup
    · cases filter with
      | property filter =>
        simp [condition_of_searchesTexts hsearches, Condition.IsVoid]
      | _ => cases hsearches
    · rw [condition_eq_of_not_searchesTexts hsearches ignoreCase other]
  · rfl

end Compiler

/-! ## Forms -/

/-- The text is part of the value as it stands. -/
def includesForms (v s : String) : List Form :=
  [.vector [.list [.word "clojure.string/includes?", .word v, .text s]]]

/-- The expression for the text is found in the value. -/
def findForms (pattern v s : String) : List Form :=
  [.vector [.list [.word "re-pattern", .text (SearchPattern.source ⟨s, false⟩)], .word pattern],
   .vector [.list [.word "re-find", .word pattern, .word v]]]

/-- A value under the attribute passes some tests. -/
def heldForm (entity attr v : String) (tests : List Form) : Form :=
  .list (.word "and" :: .vector [.word entity, .word attr, .word v] :: tests)

/-- One of the texts is held under one of the attributes that a property may have. -/
def searchForm (entity name : String) (scope : Scope) (tests : String → String → List Form)
    (texts : List String) : Form :=
  .list (.word "or-join" :: .vector [.word entity] :: texts.flatMap fun s ↦
    [heldForm entity (Condition.userAttribute name) (scope.next "v1") (tests (scope.next "v1") s),
     heldForm entity (Condition.builtinAttribute name) (scope.next "v2")
       (tests (scope.next "v2") s)])

/-- The forms of a filter in a query that respects case and in one that ignores it. -/
inductive CaseForms (lookup : SchemaLookup Step) (entity : String) :
    Filter → List Form × List Form → Prop
  | same {filter : Filter} (forms : List Form)
      (h : filter.isValid = true → ¬filter.SearchesTexts lookup) :
      CaseForms lookup entity filter (forms, forms)
  | search {filter : PropertyFilter} (scope : Scope)
      (hvalid : (Filter.property filter).isValid = true)
      (h : (Filter.property filter).SearchesTexts lookup) :
      CaseForms lookup entity (.property filter)
        ([searchForm entity (Text.trim filter.propertyName) scope includesForms filter.value.texts],
         [searchForm entity (Text.trim filter.propertyName) scope
           (findForms (scope.next "pattern")) filter.value.texts])

theorem map_form_propertyContains {entity name : String} {texts : List String}
    (htexts : texts ≠ []) (scope : Scope) (ignoreCase : Bool) :
    ((Condition.propertyContains name texts ignoreCase).clauses entity scope.next).map Clause.form =
      [searchForm entity name scope
        (if ignoreCase then findForms (scope.next "pattern") else includesForms) texts] := by
  have hcontaining (attr base s : String) :
      (Condition.containing entity scope.next ignoreCase attr base s).form =
        heldForm entity attr (scope.next base)
          ((if ignoreCase then findForms (scope.next "pattern") else includesForms)
            (scope.next base) s) := by
    cases ignoreCase <;> rfl
  obtain ⟨s, texts, rfl⟩ := List.exists_cons_of_ne_nil htexts
  simp only [Condition.clauses, List.flatMap_cons, List.cons_append, Condition.anyOf,
    List.map_cons, List.map_nil, Clause.form, Clause.formList_eq_map, hcontaining, List.nil_append,
    List.map_flatMap, searchForm]

namespace Compiler

variable {lookup : SchemaLookup Step} {entity : String}

/-- What a filter contributes in a scope, with and without regard to case. -/
theorem caseForms_contribute (lookup : SchemaLookup Step) (entity : String) (filter : Filter)
    (scope : Scope) : CaseForms lookup entity filter
      (((⟨false, lookup⟩ : Compiler Step).contribute entity filter scope).1.map Clause.form,
        ((⟨true, lookup⟩ : Compiler Step).contribute entity filter scope).1.map Clause.form) := by
  by_cases hsearches : filter.isValid = true ∧ filter.SearchesTexts lookup
  · obtain ⟨hvalid, hsearches⟩ := hsearches
    cases filter with
    | property filter =>
      have htexts : filter.value.texts ≠ [] :=
        FilterValue.texts_ne_nil (Bool.and_eq_true_iff.1 hvalid).2
      have hforms (ignoreCase : Bool) : ((⟨ignoreCase, lookup⟩ : Compiler Step).contribute entity
          (.property filter) scope).1.map Clause.form = [searchForm entity
            (Text.trim filter.propertyName) scope
            (if ignoreCase then findForms (scope.next "pattern") else includesForms)
            filter.value.texts] := by
        rw [contribute_eq, condition?, if_pos hvalid, condition_of_searchesTexts hsearches]
        exact map_form_propertyContains htexts scope ignoreCase
      rw [hforms, hforms]
      exact .search scope hvalid hsearches
    | _ => cases hsearches
  · have hsame : (⟨false, lookup⟩ : Compiler Step).contribute entity filter scope =
        (⟨true, lookup⟩ : Compiler Step).contribute entity filter scope := by
      rw [contribute_eq, contribute_eq, requests_eq filter false true, condition?, condition?]
      split
      case isTrue hvalid =>
        rw [condition_eq_of_not_searchesTexts (not_and.1 hsearches hvalid) false true]
      case isFalse => rfl
    rw [hsame]
    exact .same _ (not_and.1 hsearches)

theorem exists_caseForms_parts (lookup : SchemaLookup Step) (entity : String)
    (filters : List Filter) (scope : Scope) : ∃ pairs : List (List Form × List Form),
      List.Forall₂ (CaseForms lookup entity) filters pairs ∧
        (⟨false, lookup⟩ : Compiler Step).parts entity scope filters = pairs.map Prod.fst ∧
        (⟨true, lookup⟩ : Compiler Step).parts entity scope filters = pairs.map Prod.snd := by
  induction filters generalizing scope with
  | nil => exact ⟨[], .nil, rfl, rfl⟩
  | cons filter filters ih =>
    -- both runs request the same names for the filter, and so go on in the same scope
    obtain ⟨pairs, hpairs, hrespecting, hignoring⟩ :=
      ih (scope.issue ((⟨false, lookup⟩ : Compiler Step).requests filter))
    refine ⟨_ :: pairs, .cons (caseForms_contribute lookup entity filter scope) hpairs, ?_, ?_⟩
    · rw [parts_cons, hrespecting, List.map_cons]
    · rw [parts_cons, requests_eq filter true false, hignoring, List.map_cons]

end Compiler

/-! ## Matches -/

/-- Strings are searched for strings and for expressions, where `alike` are the characters that
differ in case at most. -/
structure Datalog.Interpretation.ReadsSearches (I : Interpretation Value)
    (alike : Char → Char → Prop) (expression : Text.Regex.Search → Value) : Prop where
  alike_refl (c : Char) : alike c c
  includes_iff (y : Value) (s : String) : I.calls "clojure.string/includes?" [y, I.text s] [] ↔
    ∃ whole, y = I.text whole ∧ s.toList <:+: whole.toList
  pattern_iff {source : String} {search : Text.Regex.Search}
    (h : Text.Regex.Search.read? source.toList = some search) (y : Value) :
    I.calls "re-pattern" [I.text source] [y] ↔ y = expression search
  find_iff (search : Text.Regex.Search) (y : Value) :
    I.calls "re-find" [expression search, y] [] ↔
      ∃ whole, y = I.text whole ∧ search.Finds alike whole.toList

section

variable {I : Interpretation Value} {alike : Char → Char → Prop}
  {expression : Text.Regex.Search → Value} (hsearches : I.ReadsSearches alike expression)
  {facts : Database Value} {x : Value}

include hsearches

/-- A text that is held as it stands is found by the search for it. -/
theorem Condition.hasText_of_ignoreCase {attr s : String}
    (h : HasText I facts false attr s x) : HasText I facts true attr s x := by
  obtain ⟨y, hfact, hincludes⟩ := h
  obtain ⟨whole, rfl, hpart⟩ := (hsearches.includes_iff y s).1 hincludes
  obtain ⟨search, hread, hmatched⟩ := SearchPattern.exists_search ⟨s, false⟩
  have hsame : List.Forall₂ alike s.toList s.toList :=
    List.forall₂_same.2 fun c _ ↦ hsearches.alike_refl c
  have hfinds : search.Finds alike whole.toList :=
    ((hmatched alike).finds_iff whole.toList).2 ⟨s.toList, hpart, hsame⟩
  exact ⟨I.text whole, expression search, hfact, (hsearches.pattern_iff hread _).2 rfl,
    (hsearches.find_iff search _).2 ⟨whole, rfl, hfinds⟩⟩

/-- What a search for texts matches with regard to case it matches without. -/
theorem Compiler.matches_of_ignoreCase {lookup : SchemaLookup Step} {entity : String}
    {scope : Scope} (hentity : scope.Admits entity) {filter : Filter}
    (hplain : (⟨false, lookup⟩ : Compiler Step).IsPlain filter)
    (htexts : filter.SearchesTexts lookup)
    (h : (⟨false, lookup⟩ : Compiler Step).Matches entity scope I facts filter x) :
    (⟨true, lookup⟩ : Compiler Step).Matches entity scope I facts filter x := by
  cases filter with
  | property filter =>
    have hplain' : (⟨true, lookup⟩ : Compiler Step).IsPlain (.property filter) := hplain
    rw [matches_iff hentity hplain] at h
    rw [matches_iff hentity hplain']
    simp only [condition_of_searchesTexts htexts, Option.some.injEq, exists_eq_left'] at h ⊢
    obtain ⟨hvoid, s, hs, hheld⟩ := h
    exact ⟨hvoid, s, hs, hheld.imp (Condition.hasText_of_ignoreCase hsearches)
      (Condition.hasText_of_ignoreCase hsearches)⟩
  | _ => cases htexts

end

/-- Two queries of a tree, one that respects case and one that ignores it, exist together or not at
all. Both are read as the same assembly of forms, one row for each filter; the rows are the same but
for properties that are searched for texts, in which an expression takes the place of each text.
What such a filter matches with regard to case, it matches without. -/
theorem ignoreCase_changes_only_text_searches (lookup : SchemaLookup Step) {node : Node}
    (hplain : ∀ filter ∈ node.validFilters, (⟨false, lookup⟩ : Compiler Step).IsPlain filter) :
    let respecting : Compiler Step := ⟨false, lookup⟩
    let ignoring : Compiler Step := ⟨true, lookup⟩
    ((respecting.compile node).value.isSome ↔ (ignoring.compile node).value.isSome) ∧
    (∀ query query', (respecting.compile node).value = some query →
      (ignoring.compile node).value = some query' → ∃ pairs : List (List Form × List Form),
        List.Forall₂ (CaseForms lookup node.entity) node.filters pairs ∧
        let form := Form.query node.entity (node.assemble node.entity (pairs.map Prod.fst))
        let form' := Form.query node.entity (node.assemble node.entity (pairs.map Prod.snd))
        readForms? query.raw = some [form] ∧ readForms? query'.raw = some [form'] ∧
        readForms? query.wrapped = some [.map [.word ":query", form]] ∧
        readForms? query'.wrapped = some [.map [.word ":query", form']]) ∧
    ∀ filter ∈ node.validFilters, filter.SearchesTexts lookup →
      ∀ (I : Interpretation Value) (alike : Char → Char → Prop)
        (expression : Text.Regex.Search → Value), I.ReadsSearches alike expression →
      ∀ facts x, respecting.Matches node.entity .empty I facts filter x →
        ignoring.Matches node.entity .empty I facts filter x := by
  intro respecting ignoring
  refine ⟨?_, fun query query' h h' ↦ ?_, fun filter hfilter htexts I alike expression hsearches
    facts x ↦ ?_⟩
  · rw [Compiler.isSome_compile_iff, Compiler.isSome_compile_iff]
    simp only [respecting, ignoring, Compiler.counts_iff_counts _ false true]
  · obtain ⟨pairs, hpairs, hrespecting, hignoring⟩ :=
      Compiler.exists_caseForms_parts lookup node.entity node.filters .empty
    have hplain' : ∀ filter ∈ node.validFilters, ignoring.IsPlain filter := hplain
    refine ⟨pairs, hpairs, ?_⟩
    rw [← hrespecting, ← hignoring]
    exact ⟨readForms?_compile hplain h, readForms?_compile hplain' h',
      readForms?_compile_wrapped hplain h, readForms?_compile_wrapped hplain' h'⟩
  · have hentity : Scope.empty.Admits node.entity :=
      (EntityKind.ofFilters node.validFilters).admits .empty
    exact Compiler.matches_of_ignoreCase hsearches hentity (hplain filter hfilter) htexts

/-- Strings and expressions, where letters that differ in case are alike. -/
def stringSearches : Interpretation (String ⊕ Text.Regex.Search) where
  constant := .inl
  text := .inl
  calls
    | "clojure.string/includes?", [.inl whole, .inl s], [] => s.toList <:+: whole.toList
    | "re-pattern", [.inl source], [.inr search] =>
      Text.Regex.Search.read? source.toList = some search
    | "re-find", [.inr search, .inl whole], [] =>
      search.Finds (fun c d ↦ c.toLower = d.toLower) whole.toList
    | _, _, _ => False

theorem readsSearches_stringSearches :
    stringSearches.ReadsSearches (fun c d ↦ c.toLower = d.toLower) .inr where
  alike_refl _ := rfl
  includes_iff y s := by cases y <;> simp [stringSearches]
  pattern_iff h y := by cases y <;> simp [stringSearches, h, eq_comm]
  find_iff search y := by cases y <;> simp [stringSearches]

/-- A point in a text is no operator of its expression. -/
theorem ignoreCase_changes_only_text_searches_of_area :
    let respecting : Compiler Unit := ⟨false, SchemaLookup.empty⟩
    let ignoring : Compiler Unit := ⟨true, SchemaLookup.empty⟩
    let filter := Filter.property ⟨"area", none, none, .contains, .multiple ["a.b", "c"]⟩
    let node := Node.group .any [.leaf filter, .leaf (.page .contains (.single "d"))]
    let facts : Database (String ⊕ Text.Regex.Search) :=
      {(.inl "1", .inl ":user.property/area", .inl "xa.by")}
    ((respecting.compile node).value.isSome ↔ (ignoring.compile node).value.isSome) ∧
      respecting.Matches node.entity .empty stringSearches facts filter (.inl "1") ∧
      ignoring.Matches node.entity .empty stringSearches facts filter (.inl "1") := by
  intro respecting ignoring filter node facts
  have harea : IsPlainText (Text.trim "area") := by decide
  have hfilter : respecting.IsPlain filter := ⟨harea, nofun⟩
  have hplain : ∀ filter ∈ node.validFilters, respecting.IsPlain filter :=
    forall_mem_pair.2 ⟨hfilter, trivial⟩
  have htexts : filter.SearchesTexts (SchemaLookup.empty : SchemaLookup Unit) := ⟨rfl, nofun⟩
  have hentity : Scope.empty.Admits node.entity :=
    (EntityKind.ofFilters node.validFilters).admits .empty
  have hmatches : respecting.Matches node.entity .empty stringSearches facts filter (.inl "1") := by
    have hattr : Condition.userAttribute (Text.trim "area") = ":user.property/area" := by decide
    have hpart : "a.b".toList <:+: "xa.by".toList := by decide
    rw [Compiler.matches_iff_of_condition hentity hfilter
      (Compiler.condition_of_searchesTexts htexts false) (List.cons_ne_nil _ _)]
    refine ⟨"a.b", List.mem_cons_self, .inl ⟨.inl "xa.by", ?_, hpart⟩⟩
    rw [hattr]
    rfl
  obtain ⟨hsome, -, hmono⟩ := ignoreCase_changes_only_text_searches
    (SchemaLookup.empty : SchemaLookup Unit) hplain
  exact ⟨hsome, hmatches, hmono filter List.mem_cons_self htexts stringSearches _ _
    readsSearches_stringSearches facts _ hmatches⟩

end FilterQuery
