import FilterQuery.Proofs.Compiler.Separation
import Mathlib.Data.List.Forall2

/-!
# A query finds what its tree asks for

A filter is satisfied by the entities that solve its clauses when it is compiled alone. Filters that
are not valid or have no clauses are ignored, and so are groups of nothing else; an `all` group asks
for all of its other children, an `any` group for one of them, and a `none` group for an entity that
does not satisfy all of them.

A compiled query finds exactly the entities that satisfy its tree, in every database and under every
interpretation of constants, literals, predicates and functions. The clauses of a group stand side
by side, and share variables if these have the same name; that no two filters do carries the proof.
-/

namespace FilterQuery

open Datalog

variable {Step Value : Type}

namespace Compiler

section

variable (compiler : Compiler Step) (entity : String)

mutual

/-- Whether a tree leaves no trace in a query. -/
def Ignores : Node → Prop
  | .leaf filter =>
    filter.isValid = false ∨ (compiler.buildFilter entity filter .empty).value.1 = []
  | .group _ children => IgnoresAll children

def IgnoresAll : List Node → Prop
  | [] => True
  | child :: children => Ignores child ∧ IgnoresAll children

end

variable (I : Interpretation Value) (facts : Database Value) (x : Value)

mutual

/-- Whether an entity satisfies a tree that is not ignored. -/
def Satisfies : Node → Prop
  | .leaf filter => SolvesText I facts entity (compiler.aloneText filter entity) x
  | .group .all children => SatisfiesAll children
  | .group .any children => SatisfiesAny children
  | .group .none children =>
    (∃ value, (x, I.constant ":block/uuid", value) ∈ facts) ∧ ¬SatisfiesAll children

/-- Whether an entity satisfies every child that is not ignored. -/
def SatisfiesAll : List Node → Prop
  | [] => True
  | child :: children => (compiler.Ignores entity child ∨ Satisfies child) ∧ SatisfiesAll children

/-- Whether an entity satisfies a child that is not ignored. -/
def SatisfiesAny : List Node → Prop
  | [] => False
  | child :: children => (¬compiler.Ignores entity child ∧ Satisfies child) ∨ SatisfiesAny children

end

end

end Compiler

/-! ## Groups -/

section

variable {I : Interpretation Value} {facts : Database Value} {entity : String} {x : Value}
  {parts : List (List Form)}

theorem join_eq_nil_iff (mode : MatchMode) (hne : ∀ part ∈ parts, part ≠ []) :
    mode.join entity parts = [] ↔ parts = [] := by
  rcases parts with _ | ⟨part, rest⟩
  · cases mode <;> exact iff_of_true rfl rfl
  · have hpart : part ≠ [] := hne part List.mem_cons_self
    refine iff_of_false ?_ (List.cons_ne_nil part rest)
    cases mode with
    | all =>
      intro hnil
      exact hpart (List.flatten_eq_nil_iff.1 hnil part List.mem_cons_self)
    | any =>
      cases rest with
      | nil => exact hpart
      | cons other rest => exact List.cons_ne_nil _ _
    | none => exact List.cons_ne_nil _ _

theorem solves_join_all (hapart : parts.Pairwise (Apart entity)) :
    Solves I facts entity (MatchMode.all.join entity parts) x ↔
      ∀ part ∈ parts, Solves I facts entity part x := by
  rw [← solves_flatten hapart]
  cases parts <;> rfl

theorem solves_join_any (hentity : isVariable entity = true) (hne : parts ≠ []) :
    Solves I facts entity (MatchMode.any.join entity parts) x ↔
      ∃ part ∈ parts, Solves I facts entity part x := by
  rcases parts with _ | ⟨part, _ | ⟨other, rest⟩⟩
  · exact absurd rfl hne
  · simp [MatchMode.join]
  · exact solves_orJoin hentity

theorem solves_join_none (hentity : isVariable entity = true) (hne : parts ≠ [])
    (hapart : parts.Pairwise (Apart entity)) :
    Solves I facts entity (MatchMode.none.join entity parts) x ↔
      (∃ value, (x, I.constant ":block/uuid", value) ∈ facts) ∧
        ¬∀ part ∈ parts, Solves I facts entity part x := by
  obtain ⟨part, rest, rfl⟩ := List.exists_cons_of_ne_nil hne
  rw [← solves_flatten hapart]
  exact solves_notJoin hentity (by decide)

end

/-! ## Trees -/

/-- The part of a query that stands for a filter: none if the filter is ignored, and otherwise
clauses with the same solutions as those of the filter alone. -/
structure Compiler.Stands (compiler : Compiler Step) (entity : String) (I : Interpretation Value)
    (facts : Database Value) (x : Value) (part : List Form) (filter : Filter) : Prop where
  nil_iff : part = [] ↔ compiler.Ignores entity (.leaf filter)
  solves_iff : filter.isValid = true → (Solves I facts entity part x ↔
    SolvesText I facts entity (compiler.aloneText filter entity) x)

section

variable {compiler : Compiler Step} {entity : String} {I : Interpretation Value}
  {facts : Database Value} {x : Value}

theorem Node.pairwise_assembleList (children : List Node) {parts : List (List Form)}
    (hapart : parts.Pairwise (Apart entity)) :
    (Node.assembleList entity children parts).Pairwise (Apart entity) := by
  induction children generalizing parts with
  | nil => exact List.Pairwise.nil
  | cons child children ih =>
    have hsplit := hapart
    rw [← List.take_append_drop child.filters.length parts, List.pairwise_append] at hsplit
    rw [Node.assembleList, List.pairwise_cons]
    refine ⟨fun others hothers v hv hother ↦ ?_, ih hsplit.2.1⟩
    rcases Node.mem_varsOf_assemble hv with rfl | hv
    · rfl
    rcases Node.mem_varsOf_assembleList hothers hother with rfl | hother
    · rfl
    obtain ⟨part, hpart, hv⟩ := mem_varsOf_flatten.1 hv
    obtain ⟨other, hmem, hother⟩ := mem_varsOf_flatten.1 hother
    exact hsplit.2.2 part hpart other hmem v hv hother

mutual

/-- An assembly of parts that stand for the filters of a tree stands for the tree. -/
theorem Node.solves_assemble (hentity : isVariable entity = true) (node : Node)
    {parts : List (List Form)}
    (hparts : List.Forall₂ (compiler.Stands entity I facts x) parts node.filters)
    (hapart : parts.Pairwise (Apart entity)) :
    (node.assemble entity parts = [] ↔ compiler.Ignores entity node) ∧
      (¬compiler.Ignores entity node → (Solves I facts entity (node.assemble entity parts) x ↔
        compiler.Satisfies entity I facts x node)) := by
  cases node with
  | leaf filter =>
    have hfilters : (Node.leaf filter).filters = [filter] := by rw [Node.filters]
    rw [hfilters] at hparts
    cases hparts with
    | cons hstands hrest =>
      cases hrest
      have hassemble : ∀ part : List Form, (Node.leaf filter).assemble entity [part] = part := by
        intro part
        rw [Node.assemble, List.flatten_singleton]
      rw [hassemble]
      refine ⟨hstands.nil_iff, fun hcounts ↦ ?_⟩
      rw [Compiler.Ignores, not_or, Bool.not_eq_false] at hcounts
      rw [Compiler.Satisfies]
      exact hstands.solves_iff hcounts.1
  | group mode children =>
    have hfilters : (Node.group mode children).filters = Node.filtersOf children := by
      rw [Node.filters]
    rw [hfilters] at hparts
    obtain ⟨hignored, hall, hany⟩ := Node.solves_assembleList hentity children hparts hapart
    have hne : ∀ part ∈ (Node.assembleList entity children parts).filter (!·.isEmpty),
        part ≠ [] := by
      intro part hpart hnil
      simp [hnil] at hpart
    have hsurvivors := (Node.pairwise_assembleList children hapart).filter (!·.isEmpty)
    rw [Node.assemble, join_eq_nil_iff mode hne, Compiler.Ignores]
    refine ⟨hignored, fun hcounts ↦ ?_⟩
    rw [← hignored] at hcounts
    cases mode with
    | all => rw [solves_join_all hsurvivors, hall, Compiler.Satisfies]
    | any => rw [solves_join_any hentity hcounts, hany, Compiler.Satisfies]
    | none => rw [solves_join_none hentity hcounts hsurvivors, hall, Compiler.Satisfies]

theorem Node.solves_assembleList (hentity : isVariable entity = true) (children : List Node)
    {parts : List (List Form)}
    (hparts : List.Forall₂ (compiler.Stands entity I facts x) parts (Node.filtersOf children))
    (hapart : parts.Pairwise (Apart entity)) :
    ((Node.assembleList entity children parts).filter (!·.isEmpty) = [] ↔
        compiler.IgnoresAll entity children) ∧
      ((∀ part ∈ (Node.assembleList entity children parts).filter (!·.isEmpty),
          Solves I facts entity part x) ↔ compiler.SatisfiesAll entity I facts x children) ∧
      ((∃ part ∈ (Node.assembleList entity children parts).filter (!·.isEmpty),
          Solves I facts entity part x) ↔ compiler.SatisfiesAny entity I facts x children) := by
  cases children with
  | nil => simp [Node.assembleList, Compiler.IgnoresAll, Compiler.SatisfiesAll,
      Compiler.SatisfiesAny]
  | cons child children =>
    rw [Node.filtersOf] at hparts
    rw [← List.take_append_drop child.filters.length parts, List.pairwise_append] at hapart
    obtain ⟨hnil, hsolves⟩ := Node.solves_assemble hentity child
      (List.forall₂_take_append _ _ _ hparts) hapart.1
    obtain ⟨hignored, hall, hany⟩ := Node.solves_assembleList hentity children
      (List.forall₂_drop_append _ _ _ hparts) hapart.2.1
    rw [Node.assembleList, Compiler.IgnoresAll, Compiler.SatisfiesAll, Compiler.SatisfiesAny,
      List.filter_cons]
    by_cases hchild : compiler.Ignores entity child
    · -- a child that is ignored leaves no trace
      rw [hnil.2 hchild, if_neg (by decide)]
      simp only [hchild, true_and, true_or, not_true_eq_false, false_and, false_or]
      exact ⟨hignored, hall, hany⟩
    · have hkeep : (!(child.assemble entity (parts.take child.filters.length)).isEmpty) = true := by
        simpa using fun hempty ↦ hchild (hnil.1 hempty)
      rw [if_pos hkeep, List.forall_mem_cons, hall, hsolves hchild]
      simp only [hchild, List.cons_ne_nil, false_and, false_or, not_false_eq_true, true_and,
        List.mem_cons, exists_eq_or_imp, hsolves hchild, hany]

end

/-! ## Queries -/

theorem stands_contribute {earlier : List Filter} {filter : Filter}
    (hplain : filter.isValid → compiler.IsPlain filter) (kind : EntityKind) :
    compiler.Stands kind.variableName I facts x ((compiler.contribute kind.variableName filter
      (Scope.empty.issue (earlier.flatMap compiler.requests))).1.map Clause.form) filter := by
  have hrenames : ((compiler.contribute kind.variableName filter .empty).1.map Clause.form).map
      (Form.rename (compiler.translate earlier filter)) =
        (compiler.contribute kind.variableName filter
          (Scope.empty.issue (earlier.flatMap compiler.requests))).1.map Clause.form :=
    renames_contribute hplain kind
  rw [← hrenames]
  constructor
  · rw [List.map_eq_nil_iff, List.map_eq_nil_iff, Compiler.Ignores, Compiler.contribute]
    cases filter.isValid <;> simp
  · intro hvalid
    have hvar : ∀ v ∈ insert kind.variableName
        {v | ∃ base ∈ compiler.requests filter, v = "?" ++ base},
        isVariable (compiler.translate earlier filter v) = true := by
      rintro v (rfl | ⟨base, hbase, rfl⟩)
      · rw [translate_entity, kind.isVariable_variableName]
      · rw [translate_bare hbase, isVariable_variableName]
    calc Solves I facts kind.variableName (((compiler.contribute kind.variableName filter
          .empty).1.map Clause.form).map (Form.rename (compiler.translate earlier filter))) x
      _ ↔ Solves I facts kind.variableName
          ((compiler.contribute kind.variableName filter .empty).1.map Clause.form) x :=
        solves_rename hvar (translate_injOn kind) (translate_entity kind)
          (Set.mem_insert _ _) fun v hv ↦ mem_varsOf_alone hplain hv
      _ ↔ SolvesText I facts kind.variableName
          (compiler.aloneText filter kind.variableName) x := by
        unfold SolvesText
        rw [readForms?_aloneText hplain hvalid]
        simp

theorem forall₂_stands {filters : List Filter}
    (hplain : ∀ filter ∈ filters, filter.isValid → compiler.IsPlain filter)
    (earlier : List Filter) (kind : EntityKind) :
    List.Forall₂ (compiler.Stands kind.variableName I facts x)
      (compiler.parts kind.variableName (Scope.empty.issue (earlier.flatMap compiler.requests))
        filters) filters := by
  induction filters generalizing earlier with
  | nil => exact .nil
  | cons filter filters ih =>
    rw [List.forall_mem_cons] at hplain
    have hissued : (Scope.empty.issue (earlier.flatMap compiler.requests)).issue
        (compiler.requests filter) =
          Scope.empty.issue ((earlier ++ [filter]).flatMap compiler.requests) := by
      rw [List.flatMap_append, List.flatMap_singleton, Scope.issue_append]
    rw [compiler.parts_cons, hissued]
    exact .cons (stands_contribute hplain.1 kind) (ih hplain.2 (earlier ++ [filter]))

/-- The parts of a query share no variable but the entity. -/
theorem pairwise_parts {filters : List Filter}
    (hplain : ∀ filter ∈ filters, filter.isValid → compiler.IsPlain filter) (scope : Scope) :
    (compiler.parts entity scope filters).Pairwise (Apart entity) := by
  induction filters generalizing scope with
  | nil => exact .nil
  | cons filter filters ih =>
    rw [List.forall_mem_cons] at hplain
    have hbases : ∀ base ∈ compiler.requests filter ++ filters.flatMap compiler.requests,
        IsBase base := by
      rw [List.forall_mem_append, List.forall_mem_flatMap]
      exact ⟨fun base hbase ↦ compiler.isBase_of_mem_requests hbase,
        fun f _ base hbase ↦ compiler.isBase_of_mem_requests hbase⟩
    have hnodup := Scope.freshList_nodup scope hbases
    rw [Scope.freshList_append, Scope.freshList_eq_map (compiler.requests_nodup filter),
      List.nodup_append] at hnodup
    rw [compiler.parts_cons, List.pairwise_cons]
    refine ⟨fun part hpart v hv hother ↦ ?_, ih hplain.2 _⟩
    obtain ⟨form, hform, hv⟩ := List.mem_flatMap.1 hv
    obtain ⟨c, hc, rfl⟩ := List.mem_map.1 hform
    obtain ⟨other, hmem, hother⟩ := List.mem_flatMap.1 hother
    rcases List.mem_cons.1 ((compiler.madeOf_contribute hplain.1 c hc).mem_names hv) with h | hleft
    · exact h
    rcases List.mem_cons.1 ((compiler.madeOf_parts hplain.2 part hpart other hmem).mem_names
      hother) with h | hright
    · exact h
    exact absurd rfl (hnodup.2.2 v hleft v hright)

/-- A compiled query finds exactly the entities that satisfy its tree. -/
theorem compile_finds_satisfying {node : Node} {query : Query}
    (hplain : ∀ filter ∈ node.validFilters, compiler.IsPlain filter)
    (h : (compiler.compile node).value = some query) (I : Interpretation Value)
    (facts : Database Value) : ∃ form, readForms? query.raw = some [form] ∧
      ∀ x, form.Finds I facts x ↔ compiler.Satisfies node.entity I facts x node := by
  refine ⟨_, readForms?_compile hplain h, fun x ↦ ?_⟩
  have hvalid : ∀ filter ∈ node.filters, filter.isValid → compiler.IsPlain filter :=
    fun filter hfilter hvalid ↦ hplain filter (List.mem_filter.2 ⟨hfilter, hvalid⟩)
  have hentity : isVariable node.entity = true :=
    (EntityKind.ofFilters node.validFilters).isVariable_variableName
  obtain ⟨-, hne, hforms⟩ := compile_spec h
  have hstands : List.Forall₂ (compiler.Stands node.entity I facts x)
      (compiler.parts node.entity .empty node.filters) node.filters :=
    forall₂_stands hvalid [] (EntityKind.ofFilters node.validFilters)
  obtain ⟨hnil, hsolves⟩ :=
    Node.solves_assemble hentity node hstands (pairwise_parts hvalid .empty)
  have hcounts : ¬compiler.Ignores node.entity node := by
    rw [← hnil, ← hforms, List.map_eq_nil_iff]
    exact hne
  exact hsolves hcounts

end

/-- Pages that are not named so and are tagged, or are named otherwise, where a blank filter counts
for nothing. -/
theorem compile_finds_satisfying_of_nested_groups :
    let compiler : Compiler Unit := ⟨true, SchemaLookup.empty⟩
    let node := Node.group .any [.leaf (.page .is (.single "a")), .leaf (.page .is (.single " ")),
      .group .none [.leaf (.page .contains (.single "b")), .leaf (.tags (.single "c") true)]]
    let I : Interpretation String := ⟨id, id, fun _ _ _ ↦ False⟩
    let facts : Database String := {("1", ":block/name", "a")}
    ∃ query, (compiler.compile node).value = some query ∧
      ∃ form, readForms? query.raw = some [form] ∧
        ∀ x, form.Finds I facts x ↔ compiler.Satisfies node.entity I facts x node := by
  intro compiler node I facts
  have hplain : ∀ filter ∈ node.validFilters, compiler.IsPlain filter := by
    refine List.forall_mem_cons.2 ⟨trivial, forall_mem_pair.2 ⟨trivial, trivial⟩⟩
  exact ⟨_, rfl, compile_finds_satisfying hplain rfl I facts⟩

end FilterQuery
