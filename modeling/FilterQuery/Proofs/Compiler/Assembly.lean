import FilterQuery.Proofs.Compiler.Contribution

/-!
# Queries are assembled from the forms of their filters

How a tree puts together the forms of its filters depends on nothing but these forms: those of an
`all` group stand side by side, an `any` group of two or more is an or-join with one conjunction for
each, and a `none` group is one not-join around all of them. Children without forms are left out,
and so are groups without such children.

A compiled tree is assembled in this way from what each filter contributes in its turn.
-/

namespace FilterQuery

open Datalog

/-- The forms of a group from those of its children, each of which has some. -/
def MatchMode.join (entity : String) : MatchMode → List (List Form) → List Form
  | _, [] => []
  | .all, parts => parts.flatten
  | .any, [part] => part
  | .any, parts => [.list (.word "or-join" :: .vector [.word entity] ::
      parts.map fun part ↦ .list (.word "and" :: part))]
  | .none, parts => [.vector [.word entity, .word ":block/uuid"],
      .list (.word "not-join" :: .vector [.word entity] :: parts.flatten)]

namespace Node

mutual

/-- The forms of a tree from those of its filters, in the order of the document. -/
def assemble (entity : String) : Node → List (List Form) → List Form
  | .leaf _, parts => parts.flatten
  | .group mode children, parts =>
    mode.join entity ((assembleList entity children parts).filter (!·.isEmpty))

/-- The forms of each child. -/
def assembleList (entity : String) : List Node → List (List Form) → List (List Form)
  | [], _ => []
  | child :: children, parts =>
    assemble entity child (parts.take child.filters.length) ::
      assembleList entity children (parts.drop child.filters.length)

end

end Node

theorem MatchMode.map_form_combine (entity : String) (mode : MatchMode)
    (parts : List (List Clause)) :
    (mode.combine entity parts).map Clause.form =
      mode.join entity (parts.map (List.map Clause.form)) := by
  have hflatten : parts.flatten.map Clause.form = (parts.map (List.map Clause.form)).flatten :=
    List.map_flatten
  cases mode with
  | all =>
    rcases parts with _ | ⟨part, parts⟩
    · rfl
    · exact hflatten
  | any =>
    rcases parts with _ | ⟨part, _ | ⟨other, parts⟩⟩
    · rfl
    · rfl
    · simp [combine, join]
  | none =>
    rcases parts with _ | ⟨part, parts⟩
    · rfl
    · simp [combine, join]

/-- A group adds nothing to the clauses of its children but joins on the entity, and a pattern for
the attribute that all entities have. -/
theorem MatchMode.composedOf_combine {supply : Supply} (hattr : supply.IsAttribute ":block/uuid")
    (mode : MatchMode) {parts : List (List Clause)}
    (h : ∀ part ∈ parts, ∀ c ∈ part, c.ComposedOf supply) :
    ∀ c ∈ mode.combine supply.entity parts, c.ComposedOf supply := by
  have hflatten : ∀ c ∈ parts.flatten, c.ComposedOf supply := List.forall_mem_flatten.2 h
  unfold combine
  split
  · exact fun c hc ↦ absurd hc List.not_mem_nil
  · exact hflatten
  · exact h _ List.mem_cons_self
  · exact List.forall_mem_singleton.2 (.orJoin (List.forall_mem_map.2 fun part hpart ↦
      .conj (h part hpart)))
  · exact forall_mem_pair.2 ⟨.has (.inl rfl) hattr, .notJoin hflatten⟩

theorem Plan.buildList_cons (entity : String) (plan : Plan) (plans : List Plan) (scope : Scope) :
    Plan.buildList entity (plan :: plans) scope =
      (if (plan.build entity scope).1.isEmpty then
          (Plan.buildList entity plans (plan.build entity scope).2).1
        else (plan.build entity scope).1 ::
          (Plan.buildList entity plans (plan.build entity scope).2).1,
        (Plan.buildList entity plans (plan.build entity scope).2).2) := by
  rw [Plan.buildList]

section

variable {Step : Type} {compiler : Compiler Step} {entity : String}

mutual

/-- What holds of no clauses, of the clauses of every filter, and of a group whenever it holds of
the children that have clauses, holds of the clauses of a tree. -/
theorem forall_build {P : List Clause → Prop} (hnil : P [])
    (hcombine : ∀ (mode : MatchMode) (parts : List (List Clause)),
      (∀ part ∈ parts, part ≠ [] ∧ P part) → P (mode.combine entity parts))
    (node : Node) (scope : Scope)
    (hfilters : ∀ filter ∈ node.filters, ∀ scope, P (compiler.contribute entity filter scope).1) :
    P ((compiler.plan node).value.build entity scope).1 := by
  cases node with
  | leaf filter =>
    have hcontribution := hfilters filter (by simp [Node.filters]) scope
    rw [compiler.contribute_eq] at hcontribution
    rw [compiler.plan_leaf]
    cases hcondition : compiler.condition? filter with
    | none => exact hnil
    | some condition =>
      rw [hcondition] at hcontribution
      exact hcontribution
  | group mode children =>
    rw [compiler.plan_group]
    unfold Plan.build
    rw [Node.filters] at hfilters
    exact hcombine mode _ (forall_buildList hnil hcombine children scope hfilters)

theorem forall_buildList {P : List Clause → Prop} (hnil : P [])
    (hcombine : ∀ (mode : MatchMode) (parts : List (List Clause)),
      (∀ part ∈ parts, part ≠ [] ∧ P part) → P (mode.combine entity parts))
    (children : List Node) (scope : Scope)
    (hfilters : ∀ filter ∈ Node.filtersOf children, ∀ scope,
      P (compiler.contribute entity filter scope).1) :
    ∀ part ∈ (Plan.buildList entity (compiler.planList children).value scope).1,
      part ≠ [] ∧ P part := by
  cases children with
  | nil => simp [Compiler.planList, Plan.buildList]
  | cons child children =>
    rw [Node.filtersOf, List.forall_mem_append] at hfilters
    have hchild := forall_build hnil hcombine child scope hfilters.1
    have hchildren := forall_buildList hnil hcombine children
      ((compiler.plan child).value.build entity scope).2 hfilters.2
    rw [compiler.planList_cons, Plan.buildList_cons]
    simp only
    split
    case isTrue => exact hchildren
    case isFalse hpart =>
      have hne : ((compiler.plan child).value.build entity scope).1 ≠ [] :=
        fun hempty ↦ hpart (List.isEmpty_iff.2 hempty)
      exact List.forall_mem_cons.2 ⟨⟨hne, hchild⟩, hchildren⟩

end

/-- The clauses of a tree are composed of what the clauses of its filters are, if this includes the
attribute that all entities have. -/
theorem composedOf_build (supply : Supply) (hattr : supply.IsAttribute ":block/uuid") (node : Node)
    (scope : Scope) (hfilters : ∀ filter ∈ node.filters, ∀ scope,
      ∀ c ∈ (compiler.contribute supply.entity filter scope).1, c.ComposedOf supply) :
    ∀ c ∈ ((compiler.plan node).value.build supply.entity scope).1, c.ComposedOf supply := by
  apply forall_build (P := fun clauses ↦ ∀ c ∈ clauses, c.ComposedOf supply)
  · exact fun c hc ↦ absurd hc List.not_mem_nil
  · exact fun mode parts hparts ↦
      mode.composedOf_combine hattr fun part hpart ↦ (hparts part hpart).2
  · exact hfilters

mutual

/-- A tree is compiled by assembling the forms that its filters contribute. -/
theorem map_form_build (node : Node) (scope : Scope) :
    ((compiler.plan node).value.build entity scope).1.map Clause.form =
        node.assemble entity (compiler.parts entity scope node.filters) ∧
      ((compiler.plan node).value.build entity scope).2 =
        scope.issue (node.filters.flatMap compiler.requests) := by
  cases node with
  | leaf filter =>
    have hfilters : (Node.leaf filter).filters = [filter] := by simp [Node.filters]
    rw [compiler.plan_leaf, hfilters, List.flatMap_singleton]
    have hparts : compiler.parts entity scope [filter] =
        [(compiler.contribute entity filter scope).1.map Clause.form] := rfl
    rw [hparts, compiler.contribute_eq]
    unfold Compiler.requests Node.assemble
    cases compiler.condition? filter with
    | none => simp [Plan.build]
    | some condition => simp [Plan.build, Condition.build]
  | group mode children =>
    obtain ⟨hforms, hscope⟩ := map_form_buildList children scope
    have hfilters : (Node.group mode children).filters = Node.filtersOf children := by
      simp [Node.filters]
    rw [compiler.plan_group, hfilters]
    unfold Plan.build Node.assemble
    exact ⟨by rw [MatchMode.map_form_combine, hforms], hscope⟩

theorem map_form_buildList (children : List Node) (scope : Scope) :
    (Plan.buildList entity (compiler.planList children).value scope).1.map (List.map Clause.form) =
        (Node.assembleList entity children
          (compiler.parts entity scope (Node.filtersOf children))).filter (!·.isEmpty) ∧
      (Plan.buildList entity (compiler.planList children).value scope).2 =
        scope.issue ((Node.filtersOf children).flatMap compiler.requests) := by
  cases children with
  | nil => simp [Compiler.planList, Plan.buildList, Node.assembleList, Node.filtersOf]
  | cons child children =>
    obtain ⟨hchild, hscope⟩ := map_form_build child scope
    obtain ⟨hchildren, hrest⟩ := map_form_buildList children
      (scope.issue (child.filters.flatMap compiler.requests))
    rw [compiler.planList_cons, Plan.buildList_cons, hscope, Node.filtersOf,
      compiler.parts_append, Node.assembleList,
      List.take_left' (compiler.length_parts scope child.filters),
      List.drop_left' (compiler.length_parts scope child.filters), ← hchild, List.filter_cons,
      ← hchildren, hrest, List.flatMap_append, Scope.issue_append]
    refine ⟨?_, rfl⟩
    cases hpart : ((compiler.plan child).value.build entity scope).1 with
    | nil => simp
    | cons clause clauses => simp

end

/-- The query of a group has the clauses of its plan, if there are any. -/
theorem value_compile_group (mode : MatchMode) (children : List Node) :
    (compiler.compile (.group mode children)).value =
      let node := Node.group mode children
      let body := (compiler.combine node.entity node).value
      if body.isEmpty then none else some ⟨node.entity, body⟩ := rfl

/-- A query is about the entity of its tree, and its clauses are those of the plan. -/
theorem body_compile {node : Node} {query : Query}
    (h : (compiler.compile node).value = some query) :
    query.entity = node.entity ∧ query.body ≠ [] ∧
      query.body = ((compiler.plan node).value.build node.entity .empty).1 := by
  cases node with
  | leaf filter => cases h
  | group mode children =>
    rw [value_compile_group] at h
    simp only at h
    split at h
    case isTrue => cases h
    case isFalse hne =>
      cases h
      exact ⟨rfl, fun hnil ↦ hne (List.isEmpty_iff.2 hnil), rfl⟩

/-- A query is about the entity of its tree, and is assembled from what the filters contribute. -/
theorem compile_spec {node : Node} {query : Query}
    (h : (compiler.compile node).value = some query) :
    query.entity = node.entity ∧ query.body ≠ [] ∧ query.body.map Clause.form =
      node.assemble node.entity (compiler.parts node.entity .empty node.filters) := by
  obtain ⟨hentity, hne, hbody⟩ := body_compile h
  refine ⟨hentity, hne, ?_⟩
  rw [hbody]
  exact (map_form_build node .empty).1

end

/-! ## The vocabulary of an assembly -/

section

variable {vocabulary : Vocabulary} {entity : String}

theorem MatchMode.madeOf_join (hentity : entity ∈ vocabulary.names) {mode : MatchMode}
    {parts : List (List Form)}
    (h : ∀ part ∈ parts, ∀ f ∈ part, f.MadeOf vocabulary) :
    ∀ f ∈ mode.join entity parts, f.MadeOf vocabulary := by
  have hflatten : ∀ f ∈ parts.flatten, f.MadeOf vocabulary := List.forall_mem_flatten.2 h
  unfold join
  split
  · exact fun f hf ↦ absurd hf List.not_mem_nil
  · exact hflatten
  · exact h _ List.mem_cons_self
  · have hbranches : ∀ part ∈ parts, (Form.list (.word "and" :: part)).MadeOf vocabulary := by
      intro part hpart
      have hhead : IsConstant "and" := by decide
      exact madeOf_enclosed.2 (List.forall_mem_cons.2
        ⟨madeOf_word.2 (.inr hhead), h part hpart⟩)
    have hhead : IsConstant "or-join" := by decide
    simpa [hentity, hhead] using hbranches
  · have hattr : IsConstant ":block/uuid" := by decide
    have hhead : IsConstant "not-join" := by decide
    simpa [hentity, hattr, hhead] using hflatten

mutual

/-- An assembly is made of the entity and of what its parts are made of. -/
theorem Node.madeOf_assemble (hentity : entity ∈ vocabulary.names) (node : Node)
    {parts : List (List Form)}
    (h : ∀ part ∈ parts, ∀ f ∈ part, f.MadeOf vocabulary) :
    ∀ f ∈ node.assemble entity parts, f.MadeOf vocabulary := by
  cases node with
  | leaf filter =>
    unfold Node.assemble
    exact List.forall_mem_flatten.2 h
  | group mode children =>
    unfold Node.assemble
    apply MatchMode.madeOf_join hentity
    intro part hpart
    exact Node.madeOf_assembleList hentity children h part (List.mem_filter.1 hpart).1

theorem Node.madeOf_assembleList (hentity : entity ∈ vocabulary.names) (children : List Node)
    {parts : List (List Form)}
    (h : ∀ part ∈ parts, ∀ f ∈ part, f.MadeOf vocabulary) :
    ∀ part ∈ Node.assembleList entity children parts, ∀ f ∈ part, f.MadeOf vocabulary := by
  cases children with
  | nil => exact fun part hpart ↦ absurd hpart List.not_mem_nil
  | cons child children =>
    rw [Node.assembleList, List.forall_mem_cons]
    constructor
    · apply Node.madeOf_assemble hentity child
      exact fun part hpart ↦ h part (List.mem_of_mem_take hpart)
    · apply Node.madeOf_assembleList hentity children
      exact fun part hpart ↦ h part (List.mem_of_mem_drop hpart)

end

end

/-! ## The variables of an assembly -/

/-- The entity, and what is found in some forms. -/
def vocabularyOf (entity : String) (forms : List Form) : Vocabulary :=
  ⟨entity :: forms.flatMap Form.words, forms.flatMap Form.texts⟩

section

variable {entity v : String} {parts : List (List Form)}

theorem madeOf_vocabularyOf : ∀ part ∈ parts, ∀ form ∈ part,
    form.MadeOf (vocabularyOf entity parts.flatten) := by
  intro part hpart form hform
  have hmem : form ∈ parts.flatten := List.mem_flatten_of_mem hpart hform
  constructor
  · exact fun word hword ↦
      .inl (List.mem_cons_of_mem _ (List.mem_flatMap.2 ⟨form, hmem, hword⟩))
  · exact fun s hs ↦ List.mem_flatMap.2 ⟨form, hmem, hs⟩

theorem mem_varsOf_of_madeOf {forms : List Form}
    (h : ∀ form ∈ forms, form.MadeOf (vocabularyOf entity parts.flatten))
    (hv : v ∈ varsOf forms) : v = entity ∨ v ∈ varsOf parts.flatten := by
  obtain ⟨form, hform, hmem⟩ := List.mem_flatMap.1 hv
  rcases List.mem_cons.1 ((h form hform).mem_names hmem) with rfl | hword
  · exact .inl rfl
  · obtain ⟨other, hother, hword⟩ := List.mem_flatMap.1 hword
    exact .inr (varsOf_subset hother (List.mem_filter.2 ⟨hword, isVariable_of_mem hv⟩))

/-- The variables of an assembly are the entity and those of its parts. -/
theorem Node.mem_varsOf_assemble {node : Node}
    (hv : v ∈ varsOf (node.assemble entity parts)) :
    v = entity ∨ v ∈ varsOf parts.flatten :=
  mem_varsOf_of_madeOf
    (Node.madeOf_assemble List.mem_cons_self node madeOf_vocabularyOf) hv

theorem Node.mem_varsOf_assembleList {children : List Node} {part : List Form}
    (hpart : part ∈ Node.assembleList entity children parts) (hv : v ∈ varsOf part) :
    v = entity ∨ v ∈ varsOf parts.flatten :=
  mem_varsOf_of_madeOf
    (Node.madeOf_assembleList List.mem_cons_self children madeOf_vocabularyOf part hpart) hv

end

end FilterQuery
