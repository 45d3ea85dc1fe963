import FilterQuery.Graph.Search
import FilterQuery.Proofs.Reference.Accounting

/-!
# What a search does and finds

A search fails if its main query does, and for no other reason. Otherwise it asks once for the title
of every uuid that its records refer to, and its result is the front part of the resolved records
together with their number. How many of them are wanted has no influence on anything else, and
neither has the order in which the titles are looked up.
-/

namespace FilterQuery.Graph

open Reference

/-! ## Rows -/

/-- A row that is an entity, or a list that starts with one. -/
inductive IsEntityRow : Json → Record → Prop
  | object (entity : Record) : IsEntityRow (.object entity) entity
  | array (entity : Record) (rest : List Json) :
      IsEntityRow (.array (.object entity :: rest)) entity

theorem rowEntity?_eq_some_iff {row : Json} {entity : Record} :
    rowEntity? row = some entity ↔ IsEntityRow row entity := by
  constructor
  · intro h
    rcases row with _ | _ | _ | _ | (_ | ⟨first, rest⟩) | members <;> try cases h
    · cases first <;> cases h
      exact .array entity rest
    · exact .object entity
  · rintro (entity | ⟨entity, rest⟩) <;> rfl

/-- The entities of those rows that have one, in the order of the rows. -/
inductive HaveEntities : List Json → List Record → Prop
  | nil : HaveEntities [] []
  | entity {row : Json} {entity : Record} {rows : List Json} {entities : List Record}
      (h : IsEntityRow row entity) (hrows : HaveEntities rows entities) :
      HaveEntities (row :: rows) (entity :: entities)
  | other {row : Json} {rows : List Json} {entities : List Record}
      (h : ∀ entity, ¬IsEntityRow row entity) (hrows : HaveEntities rows entities) :
      HaveEntities (row :: rows) entities

theorem haveEntities_iff {rows : List Json} {entities : List Record} :
    HaveEntities rows entities ↔ rows.filterMap rowEntity? = entities := by
  constructor
  · intro h
    induction h with
    | nil => rfl
    | entity h _ ih => rw [List.filterMap_cons_some (rowEntity?_eq_some_iff.2 h), ih]
    | other h _ ih =>
      rw [List.filterMap_cons_none, ih]
      exact Option.eq_none_iff_forall_ne_some.2 fun entity hentity ↦
        h entity (rowEntity?_eq_some_iff.1 hentity)
  · rintro rfl
    induction rows with
    | nil => exact .nil
    | cons row rows ih =>
      cases h : rowEntity? row with
      | none =>
        rw [List.filterMap_cons_none h]
        refine .other (fun entity hentity ↦ ?_) ih
        rw [rowEntity?_eq_some_iff.2 hentity] at h
        cases h
      | some entity =>
        rw [List.filterMap_cons_some h]
        exact .entity (rowEntity?_eq_some_iff.1 h) ih

/-! ## Titles -/

variable {executor : Executor} {graph : String}

/-- The title that the graph gives for a uuid. A failure gives none. -/
def titleInGraph? (executor : Executor) (graph uuid : String) : Option String :=
  match executor graph (titleQuery uuid) with
  | .ok rows => titleOfRows? rows
  | .error _ => none

theorem titleLookup_eq (uuid : String) : titleLookup executor graph uuid =
    ⟨((executor graph (titleQuery uuid)).map titleOfRows?).mapError .execution,
      [⟨graph, titleQuery uuid⟩]⟩ := by
  have hrun : executor.run graph (titleQuery uuid) =
      ⟨executor graph (titleQuery uuid), [⟨graph, titleQuery uuid⟩]⟩ := rfl
  rw [titleLookup, hrun]
  cases executor graph (titleQuery uuid) <;> rfl

theorem foundTitle?_titleLookup :
    foundTitle? (titleLookup executor graph) = titleInGraph? executor graph := by
  funext uuid
  rw [foundTitle?, titleInGraph?, titleLookup_eq]
  cases executor graph (titleQuery uuid) <;> rfl

/-! ## Searches -/

/-- What a search for some entities does and finds: the main query is sent as it is, and then one
query for the title of each uuid that the entities refer to, in some order; the result is the front
part of the resolved entities. -/
structure IsSearch (executor : Executor) (graph query : String) (settings : Settings)
    (schedule : Schedule) (limit : Nat) (entities : List Record) (calls : List Call)
    (result : SearchResult) : Prop where
  calls : ∃ uuids : List String,
    calls = ⟨graph, query⟩ :: uuids.map (fun uuid ↦ ⟨graph, titleQuery uuid⟩) ∧ uuids.Nodup ∧
      ∀ uuid, uuid ∈ uuids ↔ IsReferenced settings.textField entities uuid
  total : result.total = entities.length
  records : result.records = (resolve settings schedule (titleLookup executor graph)
    entities).value.records.take (min limit result.total)
  rewritten : List.Forall₂ (Rewritten settings.textField (titleInGraph? executor graph)) entities
    (resolve settings schedule (titleLookup executor graph) entities).value.records
  unresolved : result.unresolved =
    (resolve settings schedule (titleLookup executor graph) entities).value.unresolved

/-- The same failure, or the same result but for more records at the end. -/
def Extends : Except ExecutionError SearchResult → Except ExecutionError SearchResult → Prop
  | .ok longer, .ok shorter => longer.total = shorter.total ∧
      longer.unresolved = shorter.unresolved ∧ shorter.records <+: longer.records
  | .error failure, .error other => failure = other
  | _, _ => False

section

variable {query : String} {settings : Settings} {schedule : Schedule} {limit : Nat}

theorem search_of_error {error : ExecutionError} (h : executor graph query = .error error) :
    search executor graph query settings schedule limit = ⟨.error error, [⟨graph, query⟩]⟩ := by
  have hrun : executor.run graph query = ⟨.error error, [⟨graph, query⟩]⟩ := by
    rw [Executor.run, h]
  rw [search, hrun]
  rfl

theorem search_of_ok {rows : List Json} (h : executor graph query = .ok rows) :
    let resolved := resolve settings schedule (titleLookup executor graph)
      (rows.filterMap rowEntity?)
    search executor graph query settings schedule limit =
      ⟨.ok ⟨resolved.value.records.take limit, resolved.value.records.length,
        resolved.value.unresolved⟩, ⟨graph, query⟩ :: resolved.steps⟩ := by
  intro resolved
  have hrun : executor.run graph query = ⟨.ok rows, [⟨graph, query⟩]⟩ := by
    rw [Executor.run, h]
  simp only [search, hrun, bind, pure, List.append_nil, List.cons_append, List.nil_append]
  rfl

/-- The titles are looked up in the order of the schedule. -/
theorem steps_resolve_titleLookup (entities : List Record) :
    (resolve settings schedule (titleLookup executor graph) entities).steps =
      (order settings schedule (collect settings.textField entities)).map fun uuid ↦
        ⟨graph, titleQuery uuid⟩ := by
  rw [steps_resolve]
  simp only [titleLookup_eq]
  exact List.map_eq_flatMap.symm

theorem isSearch_of_resolve (hschedule : ∀ ids, (schedule ids).Perm ids) (entities : List Record) :
    let resolved := resolve settings schedule (titleLookup executor graph) entities
    IsSearch executor graph query settings schedule limit entities
      (⟨graph, query⟩ :: resolved.steps)
      ⟨resolved.value.records.take limit, resolved.value.records.length,
        resolved.value.unresolved⟩ := by
  intro resolved
  have horder := perm_order settings hschedule (collect settings.textField entities)
  have hrewritten : List.Forall₂ (Rewritten settings.textField (titleInGraph? executor graph))
      entities resolved.value.records := by
    rw [← foundTitle?_titleLookup]
    exact rewritten_resolve hschedule _ entities
  constructor
  · refine ⟨_, congrArg _ (steps_resolve_titleLookup entities), ?_, fun uuid ↦ ?_⟩
    · exact horder.nodup_iff.mpr (nodup_collect settings.textField entities)
    · exact horder.mem_iff.trans mem_collect_iff
  · exact hrewritten.length_eq.symm
  · exact List.take_eq_take_min
  · exact hrewritten
  · rfl

/-- The outcome does not depend on the order of the lookups. -/
theorem value_resolve_of_perm (hschedule : ∀ ids, (schedule ids).Perm ids) {schedule' : Schedule}
    (hschedule' : ∀ ids, (schedule' ids).Perm ids) (lookup : TitleLookup Call)
    (records : List Record) : (resolve settings schedule' lookup records).value =
      (resolve settings schedule lookup records).value := by
  have hassemble {schedule : Schedule} (hschedule : ∀ ids, (schedule ids).Perm ids) :
      (resolve settings schedule lookup records).value = assemble settings.textField records
        ((collect settings.textField records).map fun uuid ↦ (uuid, (lookup uuid).value)) :=
    (value_resolve lookup).trans (assemble_of_perm (fun uuid ↦ (lookup uuid).value)
      (perm_order settings hschedule _))
  rw [hassemble hschedule, hassemble hschedule']

/-- If more records are wanted, or the titles are looked up in another order, the same calls are
made and nothing changes but the number of records. -/
theorem extends_search (hschedule : ∀ ids, (schedule ids).Perm ids) {schedule' : Schedule}
    (hschedule' : ∀ ids, (schedule' ids).Perm ids) {limit' : Nat} (hlimit : limit ≤ limit') :
    Extends (search executor graph query settings schedule' limit').value
        (search executor graph query settings schedule limit).value ∧
      (search executor graph query settings schedule' limit').steps.Perm
        (search executor graph query settings schedule limit).steps := by
  cases h : executor graph query with
  | error error =>
    rw [search_of_error h, search_of_error h]
    exact ⟨rfl, .refl _⟩
  | ok rows =>
    rw [search_of_ok h, search_of_ok h]
    simp only [steps_resolve_titleLookup, value_resolve_of_perm hschedule hschedule']
    refine ⟨⟨rfl, rfl, List.take_prefix_take_left hlimit⟩, .cons _ (.map _ ?_)⟩
    exact (perm_order settings hschedule' _).trans (perm_order settings hschedule _).symm

/-- A search fails exactly if its main query does, with the same failure and after this one call.
Otherwise it sends that query as it is and one query for each uuid that its entities refer to, and
its result is the front part of the resolved entities. The number of wanted records has an influence
on how many of them are given and on nothing else. -/
theorem search_resolves_and_cuts (executor : Executor) (graph query : String)
    (settings : Settings) {schedule schedule' : Schedule} {limit limit' : Nat}
    (hschedule : ∀ ids, (schedule ids).Perm ids)
    (hschedule' : ∀ ids, (schedule' ids).Perm ids) (hlimit : limit ≤ limit') :
    let searched := search executor graph query settings schedule limit
    let wider := search executor graph query settings schedule' limit'
    (∀ error, searched.value = .error error ↔ executor graph query = .error error) ∧
    (∀ error, searched.value = .error error → searched.steps = [⟨graph, query⟩]) ∧
    (∀ rows, executor graph query = .ok rows → ∃ entities result,
      HaveEntities rows entities ∧ searched.value = .ok result ∧
        IsSearch executor graph query settings schedule limit entities searched.steps result) ∧
    Extends wider.value searched.value ∧ wider.steps.Perm searched.steps := by
  intro searched wider
  have hextends : Extends wider.value searched.value ∧ wider.steps.Perm searched.steps :=
    extends_search hschedule hschedule' hlimit
  cases h : executor graph query with
  | error error =>
    have hsearched : searched = ⟨.error error, [⟨graph, query⟩]⟩ := search_of_error h
    refine ⟨fun failure ↦ ?_, fun failure _ ↦ ?_, nofun, hextends⟩
    · rw [hsearched, Except.error.injEq, Except.error.injEq]
    · rw [hsearched]
  | ok rows =>
    let entities := rows.filterMap rowEntity?
    let resolved := resolve settings schedule (titleLookup executor graph) entities
    have hsearched : searched = ⟨.ok ⟨resolved.value.records.take limit,
        resolved.value.records.length, resolved.value.unresolved⟩,
        ⟨graph, query⟩ :: resolved.steps⟩ :=
      search_of_ok h
    rw [hsearched]
    refine ⟨fun failure ↦ ⟨nofun, nofun⟩, nofun, fun rows' hrows ↦ ?_, hsearched ▸ hextends⟩
    obtain rfl : rows = rows' := Except.ok.inj hrows
    exact ⟨entities, _, haveEntities_iff.2 rfl, rfl, isSearch_of_resolve hschedule entities⟩

end

/-- A row without an entity is left out, and a title that cannot be looked up is no failure. -/
theorem search_resolves_and_cuts_of_failed_title :
    let uuid := "0a1b2c3d-0000-4000-8000-000000000001"
    let rows : List Json := [.array [.object [("block/title", .string ("[[" ++ uuid ++ "]]"))]],
      .array [.string "Alpha"], .object [(":block/title", .string "Beta")]]
    let executor : Executor := fun _ query ↦
      if query = "[:find (pull ?b [*])]" then .ok rows else .error (.failed "offline")
    let searched := search executor "notes" "[:find (pull ?b [*])]" .standard id 1
    let wider := search executor "notes" "[:find (pull ?b [*])]" .standard List.reverse 2
    (∀ error, searched.value ≠ .error error) ∧
    (∃ result, searched.value = .ok result ∧ result.total = 2 ∧ result.records.length = 1) ∧
    Extends wider.value searched.value := by
  intro uuid rows executor searched wider
  have hrows : executor "notes" "[:find (pull ?b [*])]" = .ok rows := if_pos rfl
  obtain ⟨hfailure, -, hfound, hextends, -⟩ := search_resolves_and_cuts executor "notes"
    "[:find (pull ?b [*])]" .standard (fun ids ↦ .refl ids) List.reverse_perm (by decide : 1 ≤ 2)
  obtain ⟨entities, result, hentities, hresult, hsearch⟩ := hfound rows hrows
  have htotal : result.total = 2 := by
    rw [hsearch.total, ← haveEntities_iff.1 hentities]
    rfl
  refine ⟨fun error herror ↦ ?_, ⟨result, hresult, htotal, ?_⟩, hextends⟩
  · rw [(hfailure error).1 herror] at hrows
    cases hrows
  · rw [hsearch.records, htotal, List.length_take, ← hsearch.rewritten.length_eq, ← hsearch.total,
      htotal]
    rfl

end FilterQuery.Graph
