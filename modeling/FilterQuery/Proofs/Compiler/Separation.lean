import FilterQuery.Proofs.Compiler.Faithful

/-!
# Filters share no helper variables

What a filter contributes to a query is what it is compiled to alone, with other names for its
helper variables. The variable that it asks for under a name is numbered by the filters before it
that ask for the same name, wherever they stand in the tree, so no two filters get the same one.
-/

namespace FilterQuery

open Datalog

variable {Step : Type}

namespace Compiler

variable (compiler : Compiler Step) (earlier : List Filter) (filter : Filter)

/-- The number of a filter among those that request a variable under this name. -/
def ordinal (base : String) : Nat :=
  earlier.countP (fun filter ↦ base ∈ compiler.requests filter) + 1

/-- The helper variables of a filter behind others. -/
def helpers : List String :=
  (compiler.requests filter).map fun base ↦ variableName base (compiler.ordinal earlier base)

/-- The name in a query of a variable of a filter that is compiled alone. -/
def translate (v : String) : String :=
  match (compiler.requests filter).find? (fun base ↦ "?" ++ base == v) with
  | some base => variableName base (compiler.ordinal earlier base)
  | none => v

/-- The text of a filter that is compiled alone. -/
def aloneText (entity : String) : String :=
  Clause.renderAll (compiler.buildFilter entity filter .empty).value.1

/-- What a filter behind others contributes to a query. -/
structure IsContribution (entity : String) (part : List Form) : Prop where
  /-- Filters that are not valid are ignored. -/
  ignored : filter.isValid = false → part = []
  /-- Valid ones contribute what they are compiled to alone, with other variables. -/
  renamed : filter.isValid = true → ∃ alone,
    readForms? (compiler.aloneText filter entity) = some alone ∧
    part = alone.map (Form.rename (compiler.translate earlier filter)) ∧
    ∀ v ∈ varsOf alone, v = entity ∨ ∃ base ∈ compiler.requests filter, v = "?" ++ base
  /-- Helper variables are numbered by the filters that request their name. -/
  numbered : ∀ base ∈ compiler.requests filter,
    compiler.translate earlier filter ("?" ++ base) =
      variableName base (compiler.ordinal earlier base)
  entity_eq : compiler.translate earlier filter entity = entity
  /-- Different variables get different names. -/
  injective : Set.InjOn (compiler.translate earlier filter)
    (insert entity {v | ∃ base ∈ compiler.requests filter, v = "?" ++ base})
  subset_helpers : ∀ v ∈ varsOf part, v = entity ∨ v ∈ compiler.helpers earlier filter
  /-- No helper variable is the variable of an entity. -/
  entity_notMem : ∀ kind : EntityKind, kind.variableName ∉ compiler.helpers earlier filter

end Compiler

variable {compiler : Compiler Step} {earlier : List Filter} {filter : Filter}

/-! ## Numbering -/

/-- Behind other filters, the next variable of a name is numbered by those that request it. -/
theorem next_eq_variableName (earlier : List Filter) (base : String) :
    (Scope.empty.issue (earlier.flatMap compiler.requests)).next base =
      variableName base (compiler.ordinal earlier base) := by
  have hcount : (earlier.flatMap compiler.requests).count base =
      earlier.countP (fun filter ↦ base ∈ compiler.requests filter) := by
    induction earlier with
    | nil => rfl
    | cons filter earlier ih =>
      rw [List.flatMap_cons, List.count_append, ih, (compiler.requests_nodup filter).count,
        List.countP_cons, Nat.add_comm]
      simp
  calc (Scope.empty.issue (earlier.flatMap compiler.requests)).next base
    _ = variableName base ((earlier.flatMap compiler.requests).count base + 1) := by
      simp [Scope.next, Scope.issue, Scope.empty]
    _ = variableName base (compiler.ordinal earlier base) := by rw [hcount, Compiler.ordinal]

theorem helpers_eq_freshList (earlier : List Filter) (filter : Filter) :
    compiler.helpers earlier filter =
      (Scope.empty.issue (earlier.flatMap compiler.requests)).freshList
        (compiler.requests filter) := by
  rw [Scope.freshList_eq_map (compiler.requests_nodup filter), Compiler.helpers]
  exact List.map_congr_left fun base _ ↦ (next_eq_variableName earlier base).symm

/-- No two filters share a helper variable. -/
theorem helpers_disjoint (earlier between : List Filter) (filter other : Filter) :
    ∀ v ∈ compiler.helpers earlier filter,
      v ∉ compiler.helpers (earlier ++ filter :: between) other := by
  have hbases : ∀ base ∈ compiler.requests filter ++ (between.flatMap compiler.requests ++
      compiler.requests other), IsBase base := by
    have hall : ∀ f, ∀ base ∈ compiler.requests f, IsBase base :=
      fun f base hbase ↦ compiler.isBase_of_mem_requests hbase
    rw [List.forall_mem_append, List.forall_mem_append]
    exact ⟨hall filter, List.forall_mem_flatMap.2 fun f _ ↦ hall f, hall other⟩
  have hnodup := Scope.freshList_nodup (Scope.empty.issue (earlier.flatMap compiler.requests))
    hbases
  rw [Scope.freshList_append, Scope.freshList_append, List.nodup_append] at hnodup
  have hissued : Scope.empty.issue ((earlier ++ filter :: between).flatMap compiler.requests) =
      ((Scope.empty.issue (earlier.flatMap compiler.requests)).issue
        (compiler.requests filter)).issue (between.flatMap compiler.requests) := by
    simp only [List.flatMap_append, List.flatMap_cons, Scope.issue_append]
  rw [helpers_eq_freshList, helpers_eq_freshList, hissued]
  exact fun v hv hother ↦ hnodup.2.2 v hv v (List.mem_append_right _ hother) rfl

theorem variableName_ne_entity {base : String} (hbase : base ∈ compiler.requests filter) (n : Nat)
    (kind : EntityKind) : variableName base n ≠ kind.variableName := by
  intro heq
  obtain ⟨condition, hmem⟩ := compiler.exists_condition hbase
  obtain ⟨hp, hb⟩ := condition.ne_entity_of_mem hmem
  have hisBase := compiler.isBase_of_mem_requests hbase
  cases kind with
  | page =>
    have hname : EntityKind.page.variableName = variableName "p" 1 := rfl
    exact hp ((variableName_inj hisBase (by decide)).1 (heq.trans hname)).1
  | block =>
    have hname : EntityKind.block.variableName = variableName "b" 1 := rfl
    exact hb ((variableName_inj hisBase (by decide)).1 (heq.trans hname)).1

/-! ## Translation -/

theorem translate_bare {base : String} (hbase : base ∈ compiler.requests filter) :
    compiler.translate earlier filter ("?" ++ base) =
      variableName base (compiler.ordinal earlier base) := by
  have hfind : (compiler.requests filter).find? (fun other ↦ "?" ++ other == "?" ++ base) =
      some base := by
    cases hcase : (compiler.requests filter).find? (fun other ↦ "?" ++ other == "?" ++ base) with
    | none => simpa using List.find?_eq_none.1 hcase base hbase
    | some other =>
      have heq : other = base := by simpa using List.find?_some hcase
      rw [heq]
  rw [Compiler.translate, hfind]

theorem translate_entity (kind : EntityKind) :
    compiler.translate earlier filter kind.variableName = kind.variableName := by
  have hfind : (compiler.requests filter).find? (fun base ↦ "?" ++ base == kind.variableName) =
      none := by
    rw [List.find?_eq_none]
    intro base hbase heq
    rw [beq_iff_eq, ← variableName_one] at heq
    exact variableName_ne_entity hbase 1 kind heq
  rw [Compiler.translate, hfind]

theorem translate_injOn (kind : EntityKind) : Set.InjOn (compiler.translate earlier filter)
    (insert kind.variableName {v | ∃ base ∈ compiler.requests filter, v = "?" ++ base}) := by
  rintro v (rfl | ⟨base, hbase, rfl⟩) w (rfl | ⟨other, hother, rfl⟩) heq
  · rfl
  · rw [translate_entity, translate_bare hother] at heq
    exact absurd heq.symm (variableName_ne_entity hother _ kind)
  · rw [translate_entity, translate_bare hbase] at heq
    exact absurd heq (variableName_ne_entity hbase _ kind)
  · rw [translate_bare hbase, translate_bare hother] at heq
    rw [((variableName_inj (compiler.isBase_of_mem_requests hbase)
      (compiler.isBase_of_mem_requests hother)).1 heq).1]

/-- Behind other filters, a filter has the clauses that it has alone, with other variables. -/
theorem renames_contribute (hplain : filter.isValid → compiler.IsPlain filter)
    (kind : EntityKind) : Renames (compiler.translate earlier filter)
      (compiler.contribute kind.variableName filter .empty).1
      (compiler.contribute kind.variableName filter
        (Scope.empty.issue (earlier.flatMap compiler.requests))).1 := by
  rw [compiler.contribute_eq, compiler.contribute_eq]
  cases hcondition : compiler.condition? filter with
  | none => exact renames_nil
  | some condition =>
    have hrequests : compiler.requests filter = condition.bases := by
      rw [Compiler.requests, hcondition]
      rfl
    obtain ⟨hfits, -⟩ := compiler.condition?_spec hplain hcondition
    apply Condition.renames_clauses hfits
    · rw [Form.rename, if_pos kind.isVariable_variableName, translate_entity]
    · intro base hbase
      rw [← hrequests] at hbase
      show (Form.word (Scope.empty.next base)).rename _ = .word (Scope.next _ base)
      rw [Scope.next_empty, ← variableName_one, Form.rename,
        if_pos (isVariable_variableName base 1), variableName_one, translate_bare hbase,
        next_eq_variableName]

/-! ## Contributions -/

theorem mem_varsOf_alone (hplain : filter.isValid → compiler.IsPlain filter) {entity v : String}
    (hv : v ∈ varsOf ((compiler.contribute entity filter .empty).1.map Clause.form)) :
    v = entity ∨ ∃ base ∈ compiler.requests filter, v = "?" ++ base := by
  obtain ⟨form, hform, hv⟩ := List.mem_flatMap.1 hv
  obtain ⟨c, hc, rfl⟩ := List.mem_map.1 hform
  rcases List.mem_cons.1 ((compiler.madeOf_contribute hplain c hc).mem_names hv) with rfl | hmem
  · exact .inl rfl
  · obtain ⟨base, hbase, rfl⟩ := List.mem_map.1 hmem
    exact .inr ⟨base, hbase, Scope.next_empty base⟩

/-- The text of a valid filter that is compiled alone is read as its clauses. -/
theorem readForms?_aloneText (hplain : filter.isValid → compiler.IsPlain filter)
    (hvalid : filter.isValid = true) (kind : EntityKind) :
    readForms? (compiler.aloneText filter kind.variableName) =
      some ((compiler.contribute kind.variableName filter .empty).1.map Clause.form) := by
  have hbuild : (compiler.buildFilter kind.variableName filter .empty).value =
      compiler.contribute kind.variableName filter .empty := by
    rw [Compiler.contribute, if_pos hvalid]
  rw [Compiler.aloneText, hbuild, compiler.contribute_eq]
  cases hcondition : compiler.condition? filter with
  | none => rfl
  | some condition =>
    exact Condition.readForms?_clauses (compiler.condition?_spec hplain hcondition).1
      kind.isWord_variableName .empty

theorem isContribution_contribute (hplain : filter.isValid → compiler.IsPlain filter)
    (kind : EntityKind) : compiler.IsContribution earlier filter kind.variableName
      ((compiler.contribute kind.variableName filter
        (Scope.empty.issue (earlier.flatMap compiler.requests))).1.map Clause.form) where
  ignored hinvalid := by simp [Compiler.contribute, hinvalid]
  renamed hvalid := ⟨_, readForms?_aloneText hplain hvalid kind,
    (renames_contribute hplain kind).symm, fun v hv ↦ mem_varsOf_alone hplain hv⟩
  numbered base hbase := translate_bare hbase
  entity_eq := translate_entity kind
  injective := translate_injOn kind
  subset_helpers v hv := by
    obtain ⟨form, hform, hv⟩ := List.mem_flatMap.1 hv
    obtain ⟨c, hc, rfl⟩ := List.mem_map.1 hform
    rw [helpers_eq_freshList, Scope.freshList_eq_map (compiler.requests_nodup filter)]
    exact List.mem_cons.1 ((compiler.madeOf_contribute hplain c hc).mem_names hv)
  entity_notMem other hmem := by
    obtain ⟨base, hbase, heq⟩ := List.mem_map.1 hmem
    exact variableName_ne_entity hbase _ other heq

theorem getElem?_parts {entity : String} (earlier : List Filter) (filter : Filter)
    (later : List Filter) :
    (compiler.parts entity .empty (earlier ++ filter :: later))[earlier.length]? =
      some ((compiler.contribute entity filter
        (Scope.empty.issue (earlier.flatMap compiler.requests))).1.map Clause.form) := by
  rw [compiler.parts_append, List.getElem?_append_right (by rw [compiler.length_parts]),
    compiler.length_parts, Nat.sub_self]
  rfl

/-- A query is assembled from one contribution for each filter, and the helper variables of
different filters are different. -/
theorem compile_separates_filters {node : Node} {query : Query}
    (hplain : ∀ filter ∈ node.validFilters, compiler.IsPlain filter)
    (h : (compiler.compile node).value = some query) :
    ∃ parts : List (List Form), parts.length = node.filters.length ∧
      readForms? query.raw = some [.query node.entity (node.assemble node.entity parts)] ∧
      ∀ earlier filter later, node.filters = earlier ++ filter :: later →
        (∃ part, parts[earlier.length]? = some part ∧
          compiler.IsContribution earlier filter node.entity part) ∧
        ∀ between other rest, later = between ++ other :: rest →
          ∀ v ∈ compiler.helpers earlier filter,
            v ∉ compiler.helpers (earlier ++ filter :: between) other := by
  refine ⟨compiler.parts node.entity .empty node.filters, compiler.length_parts _ _,
    readForms?_compile hplain h, ?_⟩
  intro earlier filter later hfilters
  refine ⟨?_, fun between other rest _ ↦ helpers_disjoint earlier between filter other⟩
  have hmem : filter ∈ node.filters := by
    rw [hfilters]
    exact List.mem_append_right _ List.mem_cons_self
  rw [hfilters]
  exact ⟨_, getElem?_parts earlier filter later, isContribution_contribute
    (fun hvalid ↦ hplain filter (List.mem_filter.2 ⟨hmem, hvalid⟩))
    (EntityKind.ofFilters node.validFilters)⟩

/-- Two property filters that search the same texts draw different variables. -/
theorem compile_separates_filters_of_same_names :
    let compiler : Compiler Unit := ⟨true, SchemaLookup.empty⟩
    let filter := Filter.property ⟨"rating", none, none, .contains, .single "?v1"⟩
    let node := Node.group .any [.leaf filter, .group .none [.leaf filter]]
    ∃ query, (compiler.compile node).value = some query ∧
      ∃ parts : List (List Form), parts.length = 2 ∧
        readForms? query.raw = some [.query "?b" (node.assemble "?b" parts)] ∧
        ∀ v ∈ compiler.helpers [] filter, v ∉ compiler.helpers [filter] filter := by
  intro compiler filter node
  have hplain : ∀ f ∈ node.validFilters, compiler.IsPlain f := by
    have hrating : compiler.IsPlain filter := by
      have hname : IsPlainText (Text.trim "rating") := by decide
      exact ⟨hname, fun schema hschema ↦ by cases hschema⟩
    exact forall_mem_pair.2 ⟨hrating, hrating⟩
  obtain ⟨parts, hlength, hreads, hparts⟩ := compile_separates_filters hplain rfl
  exact ⟨_, rfl, parts, hlength, hreads, (hparts [] filter [filter] rfl).2 [] filter [] rfl⟩

end FilterQuery
