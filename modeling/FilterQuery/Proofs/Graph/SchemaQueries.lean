import FilterQuery.Graph.Search
import FilterQuery.Proofs.Compiler.Assembly
import Mathlib.Data.List.Basic

/-!
# The queries for schemas that compiling sends

A filter needs a schema if it is a valid property filter with a known operator and has none of its
own. The query for its attribute comes first, if it has one that is a keyword, and the query for its
name comes second, if that is a keyword and the first query was not sent or gave no schema.
Compiling a group sends these queries, filter by filter in the order of the document, and no other
ones, whatever becomes of the filters afterwards.

An answer that is a failure gives no schema and has no other effect, so it might as well be an
answer without rows.
-/

namespace FilterQuery

namespace Graph

/-- Whether the first row of an answer is an entity with a type that can be read. -/
def givesSchema : Except ExecutionError (List Json) → Bool
  | .ok (row :: _) =>
    ((rowEntity? row).bind (attribute? · "db/valueType")).any fun value ↦
      (ValueType.variants.read? value).isSome
  | _ => false

/-- The queries for the schema of a filter, in order. -/
def neededQueries (executor : Executor) (graph : String) : Filter → List String
  | .property filter =>
    if (Filter.property filter).isValid ∧ filter.operator ≠ .unrecognized ∧
        filter.propertySchema = none then
      let first := filter.propertyIdent.bind schemaQuery?
      first.toList ++ if first.any fun query ↦ givesSchema (executor graph query) then []
        else (schemaQuery? (Text.trim filter.propertyName)).toList
    else []
  | _ => []

/-- Some failures of the one executor are answers without rows of the other one; all other answers
are the same. -/
def Softens (executor executor' : Executor) : Prop :=
  ∀ graph query, executor' graph query = executor graph query ∨
    (∃ error, executor graph query = .error error) ∧ executor' graph query = .ok []

theorem isSome_schemaOfRows? (ident : String) (rows : List Json) :
    (schemaOfRows? ident rows).isSome = givesSchema (.ok rows) := by
  cases rows with
  | nil => rfl
  | cons row rows =>
    have hrows : schemaOfRows? ident (row :: rows) = (rowEntity? row).bind fun entity ↦
        ((attribute? entity "db/valueType").bind ValueType.variants.read?).bind fun type ↦
          some ⟨Text.trim ident, type,
            ((attribute? entity "db/cardinality").map Cardinality.read).getD .one⟩ := rfl
    rw [hrows, givesSchema]
    cases rowEntity? row with
    | none => rfl
    | some entity =>
      simp only [Option.bind_some]
      cases attribute? entity "db/valueType" with
      | none => rfl
      | some value => cases h : ValueType.variants.read? value <;> simp [h]

/-- A failure gives no schema. -/
def schemaOfAnswer? (ident : String) : Except ExecutionError (List Json) → Option PropertySchema
  | .ok rows => schemaOfRows? ident rows
  | .error _ => none

theorem isSome_schemaOfAnswer? (ident : String) (answer : Except ExecutionError (List Json)) :
    (schemaOfAnswer? ident answer).isSome = givesSchema answer := by
  cases answer with
  | error error => rfl
  | ok rows => exact isSome_schemaOfRows? ident rows

theorem schemaLookup_eq (executor : Executor) (graph ident : String) :
    schemaLookup executor graph ident =
      ⟨(schemaQuery? ident).bind fun query ↦ schemaOfAnswer? ident (executor graph query),
        (schemaQuery? ident).toList.map (Call.mk graph)⟩ := by
  unfold schemaLookup
  cases schemaQuery? ident with
  | none => rfl
  | some query =>
    have hrun : executor.run graph query = ⟨executor graph query, [⟨graph, query⟩]⟩ := rfl
    simp only [hrun]
    cases h : executor graph query <;> simp [bind, pure, h, schemaOfAnswer?]

/-- For a schema it makes no difference whether an answer is a failure or has no rows. -/
theorem schemaLookup_of_softens {executor executor' : Executor} (h : Softens executor executor')
    (graph : String) : schemaLookup executor' graph = schemaLookup executor graph := by
  have hanswer (ident query : String) : schemaOfAnswer? ident (executor' graph query) =
      schemaOfAnswer? ident (executor graph query) := by
    rcases h graph query with heq | ⟨⟨error, hfailed⟩, hempty⟩
    · rw [heq]
    · rw [hempty, hfailed]
      rfl
  funext ident
  rw [schemaLookup_eq, schemaLookup_eq]
  simp only [hanswer]

end Graph

/-- The second name is looked up if the first one, if any, gives no schema. -/
theorem SchemaLookup.steps_firstOf {Step : Type} (lookup : SchemaLookup Step)
    (first : Option String) (second : String) : (lookup.firstOf first second).steps =
      (first.elim [] fun name ↦ (lookup name).steps) ++
        if (first.bind fun name ↦ (lookup name).value).isSome then []
        else (lookup second).steps := by
  cases first with
  | none => rfl
  | some name =>
    refine (Recorded.bind_steps (lookup name) _).trans ?_
    rw [Option.elim_some, Option.bind_some]
    cases (lookup name).value <;> rfl

open FilterQuery.Graph

namespace Compiler

variable {Step : Type} (compiler : Compiler Step)

/-- What is done for a filter in the course of compiling a tree. -/
def stepsFor (filter : Filter) : List Step :=
  if filter.isValid then (compiler.condition filter).steps else []

variable {compiler}

mutual

/-- A tree is planned filter by filter. -/
theorem steps_plan (node : Node) :
    (compiler.plan node).steps = node.filters.flatMap compiler.stepsFor := by
  cases node with
  | leaf filter =>
    rw [Node.filters, List.flatMap_singleton, stepsFor, plan]
    split
    · rw [Recorded.bind_steps, Recorded.pure_steps, List.append_nil]
    · rfl
  | group mode children =>
    rw [Node.filters, plan, Recorded.bind_steps, Recorded.pure_steps, List.append_nil]
    exact steps_planList children

theorem steps_planList (children : List Node) :
    (compiler.planList children).steps =
      (Node.filtersOf children).flatMap compiler.stepsFor := by
  cases children with
  | nil => rfl
  | cons child children =>
    rw [planList, Node.filtersOf, List.flatMap_append, ← steps_plan child,
      ← steps_planList children]
    simp only [Recorded.bind_steps, Recorded.pure_steps, List.append_nil]

end

/-- Compiling a group does what planning it does. -/
theorem steps_compile_group (mode : MatchMode) (children : List Node) :
    (compiler.compile (.group mode children)).steps =
      (Node.group mode children).filters.flatMap compiler.stepsFor := by
  rw [← steps_plan]
  simp only [compile, combine, Recorded.bind_steps, Recorded.pure_steps, List.append_nil]

theorem steps_firstOf_schemaLookup (executor : Executor) (graph : String) (first : Option String)
    (second : String) : ((schemaLookup executor graph).firstOf first second).steps =
      ((first.bind schemaQuery?).toList ++
        if (first.bind schemaQuery?).any fun query ↦ givesSchema (executor graph query) then []
        else (schemaQuery? second).toList).map (Call.mk graph) := by
  have hfirst : (first.elim [] fun name ↦ (schemaLookup executor graph name).steps) =
      (first.bind schemaQuery?).toList.map (Call.mk graph) := by
    cases first with
    | none => rfl
    | some name => rw [Option.elim_some, schemaLookup_eq, Option.bind_some]
  have hgives : (first.bind fun name ↦ (schemaLookup executor graph name).value).isSome =
      (first.bind schemaQuery?).any fun query ↦ givesSchema (executor graph query) := by
    cases first with
    | none => rfl
    | some name =>
      rw [Option.bind_some, Option.bind_some, schemaLookup_eq]
      cases schemaQuery? name with
      | none => rfl
      | some query => exact isSome_schemaOfAnswer? name (executor graph query)
  rw [SchemaLookup.steps_firstOf, hfirst, hgives, schemaLookup_eq, List.map_append,
    apply_ite (List.map (Call.mk graph)), List.map_nil]

theorem stepsFor_eq_neededQueries (executor : Executor) (graph : String) (ignoreCase : Bool)
    (filter : Filter) :
    (⟨ignoreCase, schemaLookup executor graph⟩ : Compiler Call).stepsFor filter =
      (neededQueries executor graph filter).map (Call.mk graph) := by
  unfold stepsFor Compiler.condition Filter.condition
  cases filter with
  | property filter =>
    unfold neededQueries
    by_cases hvalid : (Filter.property filter).isValid = true
    case neg => simp [hvalid]
    case pos =>
      by_cases hoperator : filter.operator = .unrecognized
      · simp [hvalid, hoperator]
      · cases hschema : filter.propertySchema with
        | some schema => simp [hvalid, hoperator, hschema, PropertyFilter.findSchema]
        | none =>
          have hsteps := steps_firstOf_schemaLookup executor graph filter.propertyIdent
            (Text.trim filter.propertyName)
          simp only [hvalid, hoperator, hschema, PropertyFilter.findSchema, Recorded.bind_steps,
            Recorded.pure_steps, List.append_nil, hsteps, if_true, if_false, ne_eq,
            not_false_eq_true, and_self]
  | _ =>
    simp only [neededQueries, List.map_nil, Recorded.pure_steps, ite_self]

end Compiler

/-- Compiling a group sends the queries that its filters need, in the order of the document, and a
single filter, which is no query, needs none. With answers without rows in place of failures the
same queries are sent and the same result is given. -/
theorem compile_sends_needed_queries (executor : Executor) (graph : String) (ignoreCase : Bool) :
    let compiler : Compiler Call := ⟨ignoreCase, schemaLookup executor graph⟩
    (∀ (mode : MatchMode) (children : List Node),
      (compiler.compile (.group mode children)).steps =
        ((Node.group mode children).filters.flatMap (neededQueries executor graph)).map
          (Call.mk graph)) ∧
    (∀ filter : Filter, compiler.compile (.leaf filter) = ⟨none, []⟩) ∧
    ∀ executor', Softens executor executor' → ∀ node,
      (⟨ignoreCase, schemaLookup executor' graph⟩ : Compiler Call).compile node =
        compiler.compile node := by
  intro compiler
  refine ⟨?_, fun filter ↦ rfl, ?_⟩
  · intro mode children
    rw [Compiler.steps_compile_group, List.map_flatMap]
    exact List.flatMap_congr fun filter _ ↦
      Compiler.stepsFor_eq_neededQueries executor graph ignoreCase filter
  · intro executor' h node
    rw [schemaLookup_of_softens h graph]

/-- The query for an attribute fails, so the one for the name follows; filters that are not valid or
have a schema need none. -/
theorem compile_sends_needed_queries_of_failure :
    let byIdent := "[:find (pull ?p [*]) :where [?p :db/ident :user.property/size]]"
    let byName := "[:find (pull ?p [*]) :where [?p :db/ident :size]]"
    let executor : Executor := fun _ query ↦
      if query = byIdent then .error (.failed "offline") else .ok []
    let compiler : Compiler Call := ⟨true, schemaLookup executor "notes"⟩
    let children := [Node.leaf (.property ⟨" ", none, none, .is, .single "5"⟩), .group .none
      [.leaf (.property ⟨" size", some ":user.property/size", none, .lt, .single "5"⟩),
        .leaf (.property ⟨"age", none, some ⟨"age", .number, .one⟩, .lt, .single "5"⟩)]]
    (compiler.compile (.group .any children)).steps = [⟨"notes", byIdent⟩, ⟨"notes", byName⟩] ∧
      (⟨true, schemaLookup (fun _ _ ↦ .ok []) "notes"⟩ : Compiler Call).compile
        (.group .any children) = compiler.compile (.group .any children) := by
  intro byIdent byName executor compiler children
  have hsoftens : Softens executor fun _ _ ↦ .ok [] := by
    intro graph query
    by_cases h : query = byIdent
    · exact .inr ⟨⟨.failed "offline", if_pos h⟩, rfl⟩
    · exact .inl (if_neg h).symm
  have hqueries : (Node.group .any children).filters.flatMap (neededQueries executor "notes") =
      [byIdent, byName] := by decide +kernel
  obtain ⟨hsteps, -, hsame⟩ := compile_sends_needed_queries executor "notes" true
  exact ⟨(hsteps .any children).trans (by rw [hqueries]; rfl), hsame _ hsoftens _⟩

/-- A single filter is no query, and what it would need is not looked up. -/
theorem single_filter_sends_no_query :
    let executor : Executor := fun _ _ ↦ .ok []
    let compiler : Compiler Call := ⟨true, schemaLookup executor "notes"⟩
    let node := Node.leaf (.property ⟨"rating", none, none, .is, .single "5"⟩)
    (compiler.compile node).steps ≠
      (node.filters.flatMap (neededQueries executor "notes")).map (Call.mk "notes") := by
  decide +kernel

end FilterQuery
