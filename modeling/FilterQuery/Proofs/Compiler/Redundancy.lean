import FilterQuery.Proofs.Compiler.Existence
import Mathlib.Logic.Relation

/-!
# Dropped filters and needless groups leave no trace

A filter that is not valid or has no clauses, and a group of nothing else, may be left out of a
tree; an `all` or `any` group of one child may be replaced by the child, and the children of an
`all` group may be put into the `all` or `none` group around it. However often and wherever this is
done below the root of a tree, its clauses stay the same, with the same names for all variables, and
so does their text. Leaving out filters that are not valid, and groups of nothing, does not change
what a query is about either.

All of this comes down to what some children add to a group of a given mode: the clauses of those of
them that have some, next to those of whatever stands beside them, and the variables they request.
-/

namespace FilterQuery

open Datalog

/-! ## Exchanges in a tree -/

namespace Node

/-- Somewhere in a tree, neighbouring children of a group are exchanged for others. Which ones may
be exchanged depends on the mode of the group. -/
inductive Exchanges (admits : MatchMode → List Node → List Node → Prop) : Node → Node → Prop
  | atRoot {mode : MatchMode} {old new : List Node} (before after : List Node)
      (h : admits mode old new) : Exchanges admits (.group mode (before ++ old ++ after))
        (.group mode (before ++ new ++ after))
  | inChild {mode : MatchMode} {old new : Node} (before after : List Node)
      (h : Exchanges admits old new) : Exchanges admits (.group mode (before ++ [old] ++ after))
        (.group mode (before ++ [new] ++ after))

/-- A filter that is not valid, or a group of nothing, is left out. -/
inductive Prunes : MatchMode → List Node → List Node → Prop
  | filter {mode : MatchMode} {filter : Filter} (h : filter.isValid = false) :
      Prunes mode [.leaf filter] []
  | group {mode inner : MatchMode} : Prunes mode [.group inner []] []

theorem Exchanges.mono {admits others : MatchMode → List Node → List Node → Prop}
    (hsub : ∀ mode old new, admits mode old new → others mode old new) {node node' : Node}
    (h : Exchanges admits node node') : Exchanges others node node' := by
  induction h with
  | atRoot before after h => exact .atRoot before after (hsub _ _ _ h)
  | inChild before after _ ih => exact .inChild before after ih

theorem filtersOf_append (children others : List Node) :
    filtersOf (children ++ others) = filtersOf children ++ filtersOf others := by
  induction children with
  | nil => rfl
  | cons child children ih => rw [List.cons_append, filtersOf, ih, filtersOf, List.append_assoc]

/-- Pruning a tree keeps all filters that are valid. -/
theorem Exchanges.validFilters_eq {node node' : Node} (h : Exchanges Prunes node node') :
    node'.validFilters = node.validFilters := by
  induction h with
  | atRoot before after h =>
    cases h with
    | filter h => simp [validFilters, filters, filtersOf_append, filtersOf, h]
    | group => simp [validFilters, filters, filtersOf_append, filtersOf]
  | inChild before after _ ih =>
    unfold validFilters at ih ⊢
    simp only [filters, filtersOf_append, filtersOf, List.append_nil, List.filter_append, ih]

end Node

/-! ## What children add to a group -/

namespace MatchMode

variable {entity : String}

theorem combine_nil (mode : MatchMode) : mode.combine entity [] = [] := by
  cases mode <;> rfl

theorem combine_all (parts : List (List Clause)) :
    MatchMode.all.combine entity parts = parts.flatten := by
  cases parts <;> rfl

theorem combine_singleton {mode : MatchMode} (h : mode = .all ∨ mode = .any)
    (part : List Clause) : mode.combine entity [part] = part := by
  rcases h with rfl | rfl
  · exact List.flatten_singleton
  · rfl

/-- A conjunction depends on the row of all its clauses, and a negated one also on whether any child
is there at all. -/
theorem combine_congr {mode : MatchMode} (h : mode = .all ∨ mode = .none)
    {parts others : List (List Clause)} (hflatten : parts.flatten = others.flatten)
    (hnil : parts = [] ↔ others = []) : mode.combine entity parts = mode.combine entity others := by
  rcases h with rfl | rfl
  · rw [combine_all, combine_all, hflatten]
  · rcases parts with _ | ⟨part, parts⟩
    · rw [hnil.1 rfl]
    · obtain ⟨other, others, rfl⟩ :=
        List.exists_cons_of_ne_nil (mt hnil.2 (List.cons_ne_nil part parts))
      simp only [combine, hflatten]

end MatchMode

namespace Compiler

variable {Step : Type} (compiler : Compiler Step) (entity : String)

/-- A filter or a group that is ignored is left out, a group that combines one child only is
replaced by it, and an `all` group in another conjunction by its children. -/
inductive Simplifies : MatchMode → List Node → List Node → Prop
  | ignored {mode : MatchMode} {child : Node} (h : compiler.Ignores entity child) :
      Simplifies mode [child] []
  | single {mode inner : MatchMode} {child : Node} (h : inner = .all ∨ inner = .any) :
      Simplifies mode [.group inner [child]] [child]
  | nested {mode : MatchMode} {children : List Node} (h : mode = .all ∨ mode = .none) :
      Simplifies mode [.group .all children] children

/-- The clauses of a tree in a scope, and the scope after them. -/
def built (node : Node) (scope : Scope) : List Clause × Scope :=
  (compiler.plan node).value.build entity scope

/-- The clauses of those children that have some, and the scope after them. -/
def survivors (children : List Node) (scope : Scope) : List (List Clause) × Scope :=
  Plan.buildList entity (compiler.planList children).value scope

/-- Next to whatever children, the new ones add the same to a group of this mode as the old ones,
and they request the same variables. -/
structure Interchangeable (mode : MatchMode) (old new : List Node) : Prop where
  scope_eq : ∀ scope,
    (compiler.survivors entity new scope).2 = (compiler.survivors entity old scope).2
  combine_eq : ∀ scope left right,
    mode.combine entity (left ++ (compiler.survivors entity new scope).1 ++ right) =
      mode.combine entity (left ++ (compiler.survivors entity old scope).1 ++ right)

variable {compiler} {entity}

theorem built_group (mode : MatchMode) (children : List Node) (scope : Scope) :
    compiler.built entity (.group mode children) scope =
      (mode.combine entity (compiler.survivors entity children scope).1,
        (compiler.survivors entity children scope).2) := by
  rw [built, plan_group]
  unfold Plan.build
  rfl

theorem survivors_nil (scope : Scope) : compiler.survivors entity [] scope = ([], scope) := rfl

theorem survivors_cons (child : Node) (children : List Node) (scope : Scope) :
    compiler.survivors entity (child :: children) scope =
      (if (compiler.built entity child scope).1.isEmpty then
          (compiler.survivors entity children (compiler.built entity child scope).2).1
        else (compiler.built entity child scope).1 ::
          (compiler.survivors entity children (compiler.built entity child scope).2).1,
        (compiler.survivors entity children (compiler.built entity child scope).2).2) := by
  rw [survivors, planList_cons, Plan.buildList_cons]
  rfl

theorem survivors_append (children others : List Node) (scope : Scope) :
    compiler.survivors entity (children ++ others) scope =
      ((compiler.survivors entity children scope).1 ++
          (compiler.survivors entity others (compiler.survivors entity children scope).2).1,
        (compiler.survivors entity others (compiler.survivors entity children scope).2).2) := by
  induction children generalizing scope with
  | nil => rfl
  | cons child children ih =>
    rw [List.cons_append, survivors_cons, survivors_cons, ih]
    split <;> rfl

theorem survivors_singleton (child : Node) (scope : Scope) :
    compiler.survivors entity [child] scope =
      (if (compiler.built entity child scope).1 = [] then []
        else [(compiler.built entity child scope).1], (compiler.built entity child scope).2) := by
  rw [survivors_cons, survivors_nil]
  simp only [List.isEmpty_iff]

theorem ne_nil_of_mem_survivors {children : List Node} {scope : Scope} :
    ∀ part ∈ (compiler.survivors entity children scope).1, part ≠ [] := by
  have hall : ∀ part ∈ (compiler.survivors entity children scope).1, part ≠ [] ∧ True :=
    forall_buildList trivial (fun _ _ _ ↦ trivial) children scope fun _ _ _ ↦ trivial
  exact fun part hpart ↦ (hall part hpart).1

end Compiler

/-! ## Filters without clauses -/

theorem FilterValue.texts_ne_nil {value : FilterValue} (h : value.isPresent = true) :
    value.texts ≠ [] := by
  cases value with
  | single content => exact List.cons_ne_nil _ _
  | multiple titles =>
    rintro rfl
    cases h

namespace PropertyFilter

variable {filter : PropertyFilter} {ignoreCase : Bool} {condition : Condition}

theorem not_isVoid_of_probe? (hvalue : filter.value.texts ≠ [])
    (h : filter.probe? ignoreCase = some condition) : ¬condition.IsVoid := by
  unfold probe? at h
  split at h <;> cases h
  · exact hvalue
  · exact hvalue

theorem not_isVoid_of_linkCondition? {attr : String} {value : FilterValue}
    (h : linkCondition? attr value = some condition) : ¬condition.IsVoid := by
  unfold linkCondition? at h
  split at h <;> cases h
  · exact id
  case h_3 hne => exact hne

/-- Alternatives are made of the texts of a value, so a value that is present gives some. -/
theorem not_isVoid_of_condition? {schema : Option PropertySchema}
    (hvalue : filter.value.texts ≠ [])
    (h : filter.condition? ignoreCase schema = some condition) : ¬condition.IsVoid := by
  have hprobe : filter.probe? ignoreCase = some condition → ¬condition.IsVoid :=
    not_isVoid_of_probe? hvalue
  rcases condition?_cases h with h | ⟨s, -, -, htyped⟩
  · exact hprobe h
  · rcases typed?_cases htyped with ⟨_, rfl⟩ | hlink | ⟨_, _, rfl⟩ | ⟨_, _, rfl⟩ | h
    · exact id
    · exact not_isVoid_of_linkCondition? hlink
    · exact id
    · exact id
    · exact hprobe h

end PropertyFilter

namespace Compiler

variable {Step : Type} {compiler : Compiler Step} {entity : String}

/-- A valid filter with a condition has clauses. -/
theorem not_isVoid_of_condition? {filter : Filter} {condition : Condition}
    (h : compiler.condition? filter = some condition) : ¬condition.IsVoid := by
  unfold condition? at h
  split at h
  case isFalse => cases h
  case isTrue hvalid =>
    cases gives_of_condition h with
    | property _ h =>
      have hvalue := FilterValue.texts_ne_nil (Bool.and_eq_true_iff.1 hvalid).2
      exact PropertyFilter.not_isVoid_of_condition? hvalue h
    | _ => exact id

/-- What does not count requests no variables. -/
theorem requests_eq_nil {filter : Filter} (h : ¬compiler.Counts filter) :
    compiler.requests filter = [] := by
  unfold requests
  cases hcondition : compiler.condition? filter with
  | none => rfl
  | some condition => exact absurd ⟨condition, hcondition, not_isVoid_of_condition? hcondition⟩ h

mutual

theorem not_counts_of_ignores {node : Node} (h : compiler.Ignores entity node) :
    ∀ filter ∈ node.filters, ¬compiler.Counts filter := by
  cases node with
  | leaf filter =>
    rw [Node.filters, List.forall_mem_singleton, counts_iff entity]
    rw [Ignores] at h
    rintro ⟨hvalid, hne⟩
    rcases h with hinvalid | hnil
    · rw [hvalid] at hinvalid
      cases hinvalid
    · exact hne hnil
  | group mode children =>
    rw [Node.filters]
    rw [Ignores] at h
    exact not_counts_of_ignoresAll h

theorem not_counts_of_ignoresAll {children : List Node} (h : compiler.IgnoresAll entity children) :
    ∀ filter ∈ Node.filtersOf children, ¬compiler.Counts filter := by
  cases children with
  | nil => exact fun filter hfilter ↦ absurd hfilter List.not_mem_nil
  | cons child children =>
    rw [IgnoresAll] at h
    rw [Node.filtersOf, List.forall_mem_append]
    exact ⟨not_counts_of_ignores h.1, not_counts_of_ignoresAll h.2⟩

end

/-- What is ignored has no clauses and requests no variables. -/
theorem built_of_ignores {node : Node} (h : compiler.Ignores entity node) (scope : Scope) :
    compiler.built entity node scope = ([], scope) := by
  have hcounts := not_counts_of_ignores h
  have hrequests : node.filters.flatMap compiler.requests = [] :=
    List.flatMap_eq_nil_iff.2 fun filter hfilter ↦ requests_eq_nil (hcounts filter hfilter)
  apply Prod.ext
  · exact (build_eq_nil_iff entity node scope).2 hcounts
  · calc (compiler.built entity node scope).2
      _ = scope.issue (node.filters.flatMap compiler.requests) := (map_form_build node scope).2
      _ = scope := by rw [hrequests, Scope.issue_nil]

/-! ## Simplifying -/

theorem interchangeable_of_ignores {mode : MatchMode} {child : Node}
    (h : compiler.Ignores entity child) : compiler.Interchangeable entity mode [child] [] := by
  have hnone (scope : Scope) : compiler.survivors entity [child] scope = ([], scope) := by
    rw [survivors_singleton, built_of_ignores h, if_pos rfl]
  constructor
  · intro scope
    rw [hnone, survivors_nil]
  · intro scope left right
    rw [hnone, survivors_nil]

/-- A group of one child that combines its clauses as they are has the clauses of the child. -/
theorem interchangeable_of_single {mode inner : MatchMode} {child : Node}
    (h : inner = .all ∨ inner = .any) :
    compiler.Interchangeable entity mode [.group inner [child]] [child] := by
  have hbuilt (scope : Scope) : compiler.built entity (.group inner [child]) scope =
      compiler.built entity child scope := by
    rw [built_group, survivors_singleton]
    by_cases hnil : (compiler.built entity child scope).1 = []
    · rw [if_pos hnil, MatchMode.combine_nil, ← hnil]
    · rw [if_neg hnil, MatchMode.combine_singleton h]
  constructor
  · intro scope
    rw [survivors_singleton, survivors_singleton, hbuilt]
  · intro scope left right
    rw [survivors_singleton, survivors_singleton, hbuilt]

/-- A conjunction in a conjunction adds its own conjuncts. -/
theorem interchangeable_of_nested {mode : MatchMode} {children : List Node}
    (h : mode = .all ∨ mode = .none) :
    compiler.Interchangeable entity mode [.group .all children] children := by
  constructor
  · intro scope
    rw [survivors_singleton, built_group]
  · intro scope left right
    have hparts : (compiler.survivors entity children scope).1.flatten = [] ↔
        (compiler.survivors entity children scope).1 = [] := by
      rw [List.flatten_eq_nil_iff]
      refine ⟨fun hall ↦ ?_, fun hnil ↦ by rw [hnil]; exact nofun⟩
      exact List.eq_nil_iff_forall_not_mem.2 fun part hpart ↦
        ne_nil_of_mem_survivors part hpart (hall part hpart)
    rw [survivors_singleton, built_group, MatchMode.combine_all]
    apply MatchMode.combine_congr h
    · by_cases hnil : (compiler.survivors entity children scope).1.flatten = []
      · simp [hnil]
      · simp [hnil]
    · by_cases hnil : (compiler.survivors entity children scope).1.flatten = []
      · simp [hparts.1 hnil]
      · simp [hnil, mt hparts.2 hnil]

theorem interchangeable_of_simplifies {mode : MatchMode} {old new : List Node}
    (h : compiler.Simplifies entity mode old new) :
    compiler.Interchangeable entity mode old new := by
  cases h with
  | ignored h => exact interchangeable_of_ignores h
  | single h => exact interchangeable_of_single h
  | nested h => exact interchangeable_of_nested h

theorem built_eq_of_exchanges {admits : MatchMode → List Node → List Node → Prop}
    (hadmits : ∀ mode old new, admits mode old new → compiler.Interchangeable entity mode old new)
    {node node' : Node} (h : Node.Exchanges admits node node') (scope : Scope) :
    compiler.built entity node' scope = compiler.built entity node scope := by
  induction h generalizing scope with
  | atRoot before after h =>
    obtain ⟨hscope, hcombine⟩ := hadmits _ _ _ h
    rw [built_group, built_group, survivors_append, survivors_append, survivors_append,
      survivors_append]
    simp only [hscope, hcombine]
  | inChild before after _ ih =>
    rw [built_group, built_group, survivors_append, survivors_append, survivors_append,
      survivors_append]
    simp only [survivors_singleton, ih]

theorem interchangeable_of_prunes {mode : MatchMode} {old new : List Node}
    (h : Node.Prunes mode old new) : compiler.Interchangeable entity mode old new := by
  apply interchangeable_of_simplifies
  cases h with
  | filter h => exact .ignored (by rw [Ignores]; exact .inl h)
  | group => exact .ignored (by rw [Ignores, IgnoresAll]; trivial)

/-- A query follows from the clauses of its tree and from the filters that are valid. -/
theorem compile_eq_of_prunes {node node' : Node} (h : Node.Exchanges Node.Prunes node node') :
    (compiler.compile node').value = (compiler.compile node).value := by
  have hentity : node'.entity = node.entity := by
    rw [Node.entity, Node.entity, h.validFilters_eq]
  have hbody : (compiler.combine node.entity node').value =
      (compiler.combine node.entity node).value :=
    congrArg Prod.fst (built_eq_of_exchanges (fun _ _ _ ↦ interchangeable_of_prunes) h Scope.empty)
  cases h with
  | atRoot | inChild =>
    rw [value_compile_group, value_compile_group]
    simp only [hentity, hbody]

end Compiler

/-- Simplifying a tree below its root, in any number of steps, keeps its clauses with all their
variables, and pruning a tree keeps its whole query. -/
theorem redundant_nodes_leave_no_trace {Step : Type} (compiler : Compiler Step) :
    (∀ (entity : String) (node node' : Node),
      Relation.ReflTransGen (Node.Exchanges (compiler.Simplifies entity)) node node' →
        (compiler.combine entity node').value = (compiler.combine entity node).value) ∧
    ∀ node node' : Node, Relation.ReflTransGen (Node.Exchanges Node.Prunes) node node' →
      (compiler.compile node').value = (compiler.compile node).value := by
  constructor
  · intro entity node node' h
    induction h with
    | refl => rfl
    | tail _ hstep ih =>
      rw [← ih]
      exact congrArg Prod.fst (Compiler.built_eq_of_exchanges
        (fun _ _ _ ↦ Compiler.interchangeable_of_simplifies) hstep Scope.empty)
  · intro node node' h
    induction h with
    | refl => rfl
    | tail _ hstep ih => rw [← ih, Compiler.compile_eq_of_prunes hstep]

/-- Behind filters that are left out and groups that are opened, a third filter still gets the third
variables of its names. -/
theorem redundant_nodes_leave_no_trace_of_nested_groups :
    let compiler : Compiler Unit := ⟨true, SchemaLookup.empty⟩
    let rated := Node.leaf (.property ⟨"rating", none, none, .contains, .single "5"⟩)
    let unread := Node.leaf
      (.property ⟨"size", none, some ⟨"size", .number, .one⟩, .is, .single "large"⟩)
    let blank := Node.leaf (.tags (.single " ") true)
    let node := Node.group .none
      [rated, .group .all [blank, .group .any [unread, rated]], rated]
    let simplified := Node.group .none [rated, rated, rated]
    let pruned := Node.group .none [rated, .group .all [.group .any [unread, rated]], rated]
    (compiler.combine "?b" simplified).value = (compiler.combine "?b" node).value ∧
      (compiler.compile pruned).value = (compiler.compile node).value := by
  intro compiler rated unread blank node simplified pruned
  have hblank : Filter.isValid (.tags (.single " ") true) = false := by decide
  have hunread : compiler.Simplifies "?b" .any [unread] [] := .ignored (.inr rfl)
  have hignored : compiler.Simplifies "?b" .all [blank] [] := .ignored (.inl hblank)
  have hsingle : compiler.Simplifies "?b" .all [.group .any [rated]] [rated] := .single (.inr rfl)
  have hnested : compiler.Simplifies "?b" .none [.group .all [rated]] [rated] := .nested (.inr rfl)
  have hdrop : Node.Exchanges (compiler.Simplifies "?b") node (.group .none
      [rated, .group .all [blank, .group .any [rated]], rated]) :=
    .inChild [rated] [rated] (.inChild [blank] [] (.atRoot [] [rated] hunread))
  have hempty : Node.Exchanges (compiler.Simplifies "?b")
      (.group .none [rated, .group .all [blank, .group .any [rated]], rated])
      (.group .none [rated, .group .all [.group .any [rated]], rated]) :=
    .inChild [rated] [rated] (.atRoot [] [.group .any [rated]] hignored)
  have hopen : Node.Exchanges (compiler.Simplifies "?b")
      (.group .none [rated, .group .all [.group .any [rated]], rated])
      (.group .none [rated, .group .all [rated], rated]) :=
    .inChild [rated] [rated] (.atRoot [] [] hsingle)
  have hsimplified : Relation.ReflTransGen (Node.Exchanges (compiler.Simplifies "?b")) node
      simplified :=
    .head hdrop <| .head hempty <| .head hopen <|
      .single (.atRoot [rated] [rated] hnested)
  have hprunes : Node.Prunes .all [blank] [] := .filter hblank
  have hpruned : Node.Exchanges Node.Prunes node pruned :=
    .inChild [rated] [rated] (.atRoot [] [.group .any [unread, rated]] hprunes)
  have hall := redundant_nodes_leave_no_trace compiler
  exact ⟨hall.1 "?b" node simplified hsimplified, hall.2 node pruned (.single hpruned)⟩

end FilterQuery
