import FilterQuery.Proofs.Compiler.Soundness

/-!
# Which trees have a query, and what it is about

A tree has a query exactly if its root is a group and some valid filter in it has clauses when it is
built alone, however deep the filter stands and whatever the groups around it ask for. For whether a
filter has clauses depends neither on the entity nor on the names of variables, and no group makes
clauses of none or none of some.

A query is about a single entity: the one that is found, the one that every filter asks something
of, and the one that all joins are on. Which entity this is follows from the kinds of the valid
filters.
-/

namespace FilterQuery

open Datalog

/-! ## Clauses about an entity -/

namespace Datalog.Clause

/-- What a clause asks something of. -/
def subject? : Clause → Option String
  | .pattern entity .. => some entity
  | .orJoin entity .. => some entity
  | .notJoin entity .. => some entity
  | _ => none

/-- There are some clauses, and the first asks something of the entity. -/
def Begins (entity : String) (clauses : List Clause) : Prop :=
  ∃ first rest, clauses = first :: rest ∧ first.subject? = some entity

/-- All joins in a clause are on the entity, and all other variables in it are helpers. -/
inductive About (entity : String) (isHelper : String → Prop) : Clause → Prop
  | pattern {subject attr : String} {value : Option Operand}
      (hsubject : subject = entity ∨ isHelper subject)
      (hvalue : ∀ v, value = some (.var v) → isHelper v) :
      About entity isHelper (.pattern subject attr value)
  | test {predicate : Predicate} {left right : Operand}
      (hleft : ∀ v, left = .var v → isHelper v) (hright : ∀ v, right = .var v → isHelper v) :
      About entity isHelper (.test predicate left right)
  | regex {search : SearchPattern} {bound : String} (hbound : isHelper bound) :
      About entity isHelper (.regex search bound)
  | either {alternatives : List Clause} (h : ∀ c ∈ alternatives, About entity isHelper c) :
      About entity isHelper (.either alternatives)
  | conj {layout : Layout} {parts : List Clause} (h : ∀ c ∈ parts, About entity isHelper c) :
      About entity isHelper (.conj layout parts)
  | orJoin {indent : Nat} {branches : List Clause} (h : ∀ c ∈ branches, About entity isHelper c) :
      About entity isHelper (.orJoin entity indent branches)
  | notJoin {parts : List Clause} (h : ∀ c ∈ parts, About entity isHelper c) :
      About entity isHelper (.notJoin entity parts)

/-- Clauses that are composed for an entity are about it. -/
theorem ComposedOf.about {supply : Supply} {clause : Clause} (h : clause.ComposedOf supply) :
    clause.About supply.entity supply.IsHelper := by
  have hoperand {operand : Operand} (h : operand.ComposedOf supply) :
      ∀ v, operand = .var v → supply.IsHelper v := by
    rintro v rfl
    exact h
  induction h with
  | has hsubject _ => exact .pattern hsubject nofun
  | pattern hsubject _ hvalue =>
    exact .pattern hsubject fun v hv ↦ hoperand hvalue v (Option.some.inj hv)
  | test hleft hright => exact .test (hoperand hleft) (hoperand hright)
  | regex _ hbound => exact .regex hbound
  | either _ ih => exact .either ih
  | conj _ ih => exact .conj ih
  | orJoin _ ih => exact .orJoin ih
  | notJoin _ ih => exact .notJoin ih

end Datalog.Clause

namespace Condition

/-! ## Conditions without clauses -/

/-- A condition by alternatives of which there are none. -/
def IsVoid : Condition → Prop
  | .linkToAny _ titles => titles = []
  | .property _ texts => texts = []
  | .propertyContains _ texts _ => texts = []
  | _ => False

section

variable {entity : String} {helper : String → String}

theorem begins_anyOf {branches : List Clause} (h : branches ≠ []) :
    Clause.Begins entity (anyOf entity branches) := by
  cases branches with
  | nil => exact absurd rfl h
  | cons branch branches => exact ⟨_, _, rfl, rfl⟩

theorem begins_titled {attr base : String} (titles : List String) :
    Clause.Begins entity (titled entity helper attr base titles) := by
  unfold titled
  split
  · exact ⟨_, _, rfl, rfl⟩
  · exact ⟨_, _, rfl, rfl⟩

/-- A condition asks something of the entity first, if it has anything to ask. -/
theorem begins_clauses {condition : Condition} (h : ¬condition.IsVoid) :
    Clause.Begins entity (condition.clauses entity helper) := by
  cases condition with
  | tag title includeExtensions => cases includeExtensions <;> exact ⟨_, _, rfl, rfl⟩
  | link attr title => exact begins_titled [title]
  | linkToAny attr titles => exact begins_anyOf (mt List.map_eq_nil_iff.1 h)
  | property name texts =>
    obtain ⟨s, texts, rfl⟩ := List.exists_cons_of_ne_nil h
    exact begins_anyOf (List.cons_ne_nil _ _)
  | propertyContains name texts ignoreCase =>
    obtain ⟨s, texts, rfl⟩ := List.exists_cons_of_ne_nil h
    exact begins_anyOf (List.cons_ne_nil _ _)
  | status titles includeExtensions includeAllStatusProperties =>
    cases includeExtensions <;> cases includeAllStatusProperties <;> exact ⟨_, _, rfl, rfl⟩
  | priority titles => exact begins_titled titles
  | _ => exact ⟨_, _, rfl, rfl⟩

theorem clauses_eq_nil {condition : Condition} (h : condition.IsVoid) :
    condition.clauses entity helper = [] := by
  cases condition with
  | linkToAny attr titles | property name titles | propertyContains name titles ignoreCase =>
    obtain rfl : titles = [] := h
    rfl
  | _ => cases h

/-- Whether a condition has clauses depends neither on the entity nor on the variables. -/
theorem clauses_eq_nil_iff (condition : Condition) :
    condition.clauses entity helper = [] ↔ condition.IsVoid := by
  refine ⟨fun hnil ↦ ?_, clauses_eq_nil⟩
  by_contra h
  obtain ⟨first, rest, hcons, -⟩ : Clause.Begins entity (condition.clauses entity helper) :=
    begins_clauses h
  rw [hnil] at hcons
  cases hcons

end

end Condition

/-! ## Filters that count -/

namespace Compiler

variable {Step : Type} (compiler : Compiler Step)

/-- A filter that is valid and asks for something. -/
def Counts (filter : Filter) : Prop :=
  ∃ condition, compiler.condition? filter = some condition ∧ ¬condition.IsVoid

/-- The variables that are not those of an entity. -/
def IsHelper (v : String) : Prop := v ≠ "?p" ∧ v ≠ "?b"

/-- What a filter contributes to a query about an entity. -/
structure IsPart (entity : String) (filter : Filter) (part : List Clause) : Prop where
  /-- Valid filters are built for the entity, in some scope; other ones are ignored. -/
  built : ∃ scope, part =
    if filter.isValid then (compiler.buildFilter entity filter scope).value.1 else []
  /-- A filter survives if it is valid and has clauses on its own. -/
  survives : part ≠ [] ↔
    filter.isValid = true ∧ (compiler.buildFilter entity filter .empty).value.1 ≠ []
  begins : part ≠ [] → Clause.Begins entity part
  about : ∀ c ∈ part, c.About entity IsHelper

variable {compiler} {entity : String} {filter : Filter} {scope : Scope}

theorem contribute_eq_nil_iff (entity : String) (filter : Filter) (scope : Scope) :
    (compiler.contribute entity filter scope).1 = [] ↔ ¬compiler.Counts filter := by
  rw [contribute_eq, Counts]
  cases compiler.condition? filter with
  | none => simp
  | some condition => simpa using condition.clauses_eq_nil_iff

/-- A filter counts if it is valid and has clauses on its own. -/
theorem counts_iff (entity : String) : compiler.Counts filter ↔ filter.isValid = true ∧
    (compiler.buildFilter entity filter .empty).value.1 ≠ [] := by
  rw [← not_iff_not, ← contribute_eq_nil_iff entity filter .empty, contribute]
  cases filter.isValid <;> simp

theorem begins_contribute (h : compiler.Counts filter) :
    Clause.Begins entity (compiler.contribute entity filter scope).1 := by
  obtain ⟨condition, hcondition, hvoid⟩ := h
  rw [contribute_eq, hcondition]
  exact Condition.begins_clauses hvoid

theorem isHelper_next (scope : Scope) (condition : Condition) :
    ∀ base ∈ condition.bases, IsHelper (scope.next base) := by
  intro base hbase
  obtain ⟨hp, hb⟩ := condition.ne_entity_of_mem hbase
  have hne {other : String} (hother : IsBase other) (hne : base ≠ other) :
      scope.next base ≠ variableName other 1 :=
    fun heq ↦ hne ((variableName_inj (condition.isBase_of_mem hbase) hother).1 heq).1
  exact ⟨hne (by decide) hp, hne (by decide) hb⟩

/-- An entity, helpers, and whatever attributes and literals there are. -/
def openSupply (entity : String) : Supply := ⟨entity, IsHelper, fun _ ↦ True, fun _ ↦ True⟩

theorem composedOf_contribute_open (entity : String) (filter : Filter) (scope : Scope) :
    ∀ c ∈ (compiler.contribute entity filter scope).1, c.ComposedOf (openSupply entity) := by
  have happlication : ∀ attr ∈ applicationAttributes, (openSupply entity).IsAttribute attr :=
    fun _ _ ↦ trivial
  exact composedOf_contribute happlication isHelper_next
    (fun _ _ ↦ ⟨fun _ _ ↦ trivial, fun _ _ ↦ trivial⟩) scope

theorem isPart_contribute (scope : Scope) :
    compiler.IsPart entity filter (compiler.contribute entity filter scope).1 where
  built := ⟨scope, by rw [contribute]; split <;> rfl⟩
  survives := by rw [← counts_iff, ne_eq, contribute_eq_nil_iff, not_not]
  begins h := begins_contribute (not_not.1 (mt (contribute_eq_nil_iff entity filter scope).2 h))
  about c hc := (composedOf_contribute_open entity filter scope c hc).about

end Compiler

/-! ## Trees -/

mutual

/-- An assembly is empty if and only if all of its parts are. -/
theorem Node.assemble_eq_nil_iff (entity : String) (node : Node) {parts : List (List Form)}
    (hlength : parts.length = node.filters.length) :
    node.assemble entity parts = [] ↔ ∀ part ∈ parts, part = [] := by
  cases node with
  | leaf filter =>
    unfold Node.assemble
    exact List.flatten_eq_nil_iff
  | group mode children =>
    rw [Node.filters] at hlength
    have hne : ∀ part ∈ (Node.assembleList entity children parts).filter (!·.isEmpty),
        part ≠ [] := by
      intro part hpart hnil
      simp [hnil] at hpart
    rw [Node.assemble, join_eq_nil_iff mode hne, List.filter_eq_nil_iff,
      ← Node.assembleList_eq_nil_iff entity children hlength]
    simp

theorem Node.assembleList_eq_nil_iff (entity : String) (children : List Node)
    {parts : List (List Form)} (hlength : parts.length = (Node.filtersOf children).length) :
    (∀ part ∈ Node.assembleList entity children parts, part = []) ↔
      ∀ part ∈ parts, part = [] := by
  cases children with
  | nil =>
    have hparts : parts = [] := List.length_eq_zero_iff.1 hlength
    simp [Node.assembleList, hparts]
  | cons child children =>
    rw [Node.filtersOf, List.length_append] at hlength
    have htake : (parts.take child.filters.length).length = child.filters.length := by
      rw [List.length_take]
      omega
    have hdrop : (parts.drop child.filters.length).length = (Node.filtersOf children).length := by
      rw [List.length_drop]
      omega
    rw [Node.assembleList, List.forall_mem_cons, Node.assemble_eq_nil_iff entity child htake,
      Node.assembleList_eq_nil_iff entity children hdrop, ← List.forall_mem_append,
      List.take_append_drop]

end

/-- Some valid filter is for pages, and none is for something that only blocks have. -/
def Node.AsksForPages (node : Node) : Prop :=
  (∃ filter ∈ node.filters, filter.isValid = true ∧ filter.kind? = some .page) ∧
    ∀ filter ∈ node.filters, filter.isValid = true → filter.kind? ≠ some .fullText ∧
      filter.kind? ≠ some .task ∧ filter.kind? ≠ some .priority

theorem EntityKind.ofFilters_eq_page_iff (node : Node) :
    EntityKind.ofFilters node.validFilters = .page ↔ node.AsksForPages := by
  have hmem (kind : FilterKind) : kind ∈ node.validFilters.filterMap Filter.kind? ↔
      ∃ filter ∈ node.filters, filter.isValid = true ∧ filter.kind? = some kind := by
    simp only [List.mem_filterMap, Node.validFilters, List.mem_filter, and_assoc]
  have hofFilters : EntityKind.ofFilters node.validFilters = .page ↔
      .page ∈ node.validFilters.filterMap Filter.kind? ∧
        .fullText ∉ node.validFilters.filterMap Filter.kind? ∧
        .task ∉ node.validFilters.filterMap Filter.kind? ∧
        .priority ∉ node.validFilters.filterMap Filter.kind? := by
    simp only [ofFilters]
    split
    case isTrue h => exact iff_of_true rfl h
    case isFalse h => exact iff_of_false nofun h
  rw [hofFilters, hmem, hmem, hmem, hmem, Node.AsksForPages]
  simp only [not_exists, not_and, ← forall_and]

theorem Node.entity_spec (node : Node) : node.AsksForPages ∧ node.entity = "?p" ∨
    ¬node.AsksForPages ∧ node.entity = "?b" := by
  rw [← EntityKind.ofFilters_eq_page_iff, Node.entity]
  cases EntityKind.ofFilters node.validFilters with
  | page => exact .inl ⟨rfl, rfl⟩
  | block => exact .inr ⟨nofun, rfl⟩

namespace Compiler

variable {Step : Type} {compiler : Compiler Step}

theorem forall_parts_eq_nil_iff {entity : String} {scope : Scope} {filters : List Filter} :
    (∀ part ∈ compiler.parts entity scope filters, part = []) ↔
      ∀ filter ∈ filters, ¬compiler.Counts filter := by
  induction filters generalizing scope with
  | nil => simp [parts]
  | cons filter filters ih =>
    rw [parts_cons, List.forall_mem_cons, List.forall_mem_cons, ih, List.map_eq_nil_iff,
      contribute_eq_nil_iff]

/-- A tree has no clauses if and only if none of its filters counts. -/
theorem build_eq_nil_iff (entity : String) (node : Node) (scope : Scope) :
    ((compiler.plan node).value.build entity scope).1 = [] ↔
      ∀ filter ∈ node.filters, ¬compiler.Counts filter := by
  calc ((compiler.plan node).value.build entity scope).1 = []
    _ ↔ node.assemble entity (compiler.parts entity scope node.filters) = [] := by
      rw [← (map_form_build node scope).1, List.map_eq_nil_iff]
    _ ↔ ∀ part ∈ compiler.parts entity scope node.filters, part = [] :=
      node.assemble_eq_nil_iff entity (compiler.length_parts _ _)
    _ ↔ ∀ filter ∈ node.filters, ¬compiler.Counts filter := forall_parts_eq_nil_iff

/-- A tree has a query if and only if it is a group with a filter that counts. -/
theorem isSome_compile_iff (node : Node) : (compiler.compile node).value.isSome ↔
    (∃ mode children, node = .group mode children) ∧
      ∃ filter ∈ node.filters, compiler.Counts filter := by
  cases node with
  | leaf filter =>
    refine iff_of_false nofun ?_
    rintro ⟨⟨mode, children, hgroup⟩, -⟩
    cases hgroup
  | group mode children =>
    have hcompile : (compiler.compile (.group mode children)).value.isSome ↔
        ((compiler.plan (.group mode children)).value.build (Node.group mode children).entity
          .empty).1 ≠ [] := by
      rw [value_compile_group]
      simp only
      split
      case isTrue hempty => exact iff_of_false nofun (not_not.2 (List.isEmpty_iff.1 hempty))
      case isFalse hne => exact iff_of_true rfl fun hnil ↦ hne (List.isEmpty_iff.2 hnil)
    rw [hcompile, ne_eq, build_eq_nil_iff]
    simp

/-- Clauses for each filter make the parts of a tree. -/
theorem exists_parts (entity : String) (filters : List Filter) (scope : Scope) :
    ∃ parts : List (List Clause),
      compiler.parts entity scope filters = parts.map (List.map Clause.form) ∧
        List.Forall₂ (compiler.IsPart entity) filters parts := by
  induction filters generalizing scope with
  | nil => exact ⟨[], rfl, .nil⟩
  | cons filter filters ih =>
    obtain ⟨parts, hparts, hall⟩ := ih (scope.issue (compiler.requests filter))
    refine ⟨(compiler.contribute entity filter scope).1 :: parts, ?_, ?_⟩
    · rw [parts_cons, hparts, List.map_cons]
    · exact .cons (isPart_contribute scope) hall

theorem about_body {node : Node} {query : Query} (h : (compiler.compile node).value = some query) :
    ∀ c ∈ query.body, c.About query.entity IsHelper := by
  obtain ⟨hentity, -, hbody⟩ := body_compile h
  rw [hbody, hentity]
  have hcomposed : ∀ c ∈ ((compiler.plan node).value.build node.entity .empty).1,
      c.ComposedOf (openSupply node.entity) :=
    composedOf_build (openSupply node.entity) trivial node .empty fun filter _ ↦
      composedOf_contribute_open node.entity filter
  exact fun c hc ↦ (hcomposed c hc).about

end Compiler

/-- A tree has a query exactly if it is a group and some valid filter in it has clauses on its own.
The query is then about pages or blocks, depending on the kinds of the valid filters alone, and the
variable for this is the one that is found, that every surviving filter begins with, and that all
joins are on; the other one does not occur. -/
theorem compile_decides_existence_and_entity {Step : Type} (compiler : Compiler Step)
    (node : Node) :
    (∀ entity, (compiler.compile node).value.isSome ↔
      (∃ mode children, node = .group mode children) ∧
        ∃ filter ∈ node.filters, filter.isValid = true ∧
          (compiler.buildFilter entity filter .empty).value.1 ≠ []) ∧
    ∀ query, (compiler.compile node).value = some query →
      (node.AsksForPages ∧ query.entity = "?p" ∨ ¬node.AsksForPages ∧ query.entity = "?b") ∧
      query.raw = "[:find " ++ ("(pull " ++ query.entity ++ " [*])") ++ "\n :where\n " ++
        Clause.renderAll query.body ++ "]" ∧
      (∀ c ∈ query.body, c.About query.entity Compiler.IsHelper) ∧
      ∃ parts : List (List Clause),
        query.body.map Clause.form =
          node.assemble query.entity (parts.map (List.map Clause.form)) ∧
        List.Forall₂ (compiler.IsPart query.entity) node.filters parts := by
  constructor
  · intro entity
    simp only [Compiler.isSome_compile_iff, Compiler.counts_iff entity]
  · intro query h
    obtain ⟨hentity, -, hforms⟩ := compile_spec h
    obtain ⟨parts, hparts, hall⟩ :=
      compiler.exists_parts query.entity node.filters .empty
    refine ⟨hentity ▸ node.entity_spec, rfl, Compiler.about_body h, parts, ?_, hall⟩
    rw [hforms, ← hparts, hentity]

end FilterQuery
