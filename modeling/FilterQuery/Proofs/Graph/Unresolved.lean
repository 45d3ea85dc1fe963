import FilterQuery.Proofs.Graph.Search
import FilterQuery.Proofs.Reference.Remaining

/-!
# What a search reports as unresolved

A search resolves the references of all its entities and keeps the front part of the records
afterwards. What it reports as unresolved is not cut with them: a uuid is reported although the only
entities that refer to it are left out.
-/

namespace FilterQuery.Graph

open Reference

section

variable {executor : Executor} {graph query : String} {settings : Settings} {schedule : Schedule}
  {limit : Nat} {entities : List Record} {calls : List Call} {result : SearchResult}

/-- The records of a search refer to what is left of the references of the wanted entities. -/
theorem IsSearch.isReferenced_records_iff {uuid : String}
    (h : IsSearch executor graph query settings schedule limit entities calls result) :
    IsReferenced settings.textField result.records uuid ↔
      ∃ other, IsReferenced settings.textField (entities.take limit) other ∧
        uuid ∈ remains (titleInGraph? executor graph) other := by
  have hcut := List.forall₂_take limit h.rewritten
  have hrecords : result.records = (resolve settings schedule (titleLookup executor graph)
      entities).value.records.take limit := by
    rw [h.records, h.total, h.rewritten.length_eq, ← List.take_eq_take_min]
  rw [hrecords, isReferenced_rewritten_iff hcut]

theorem IsSearch.mem_unresolved_iff {uuid : String} (hschedule : ∀ ids, (schedule ids).Perm ids)
    (h : IsSearch executor graph query settings schedule limit entities calls result) :
    (∃ entry ∈ result.unresolved, entry.uuid = uuid) ↔
      IsReferenced settings.textField entities uuid ∧ titleInGraph? executor graph uuid = none := by
  rw [h.unresolved, mem_unresolved_resolve hschedule, mem_collect_iff, foundTitle?_titleLookup]

end

/-- A search reports every uuid without a title that any of its entities refers to. Its records
refer to a reported uuid exactly when one of the wanted entities refers to it, or to a uuid with a
title that mentions it. So when no record is cut off, they refer to all that are reported. -/
theorem search_reports_for_all_entities (executor : Executor) (graph query : String)
    (settings : Settings) {schedule : Schedule} (limit : Nat) {rows : List Json}
    {entities : List Record} (hschedule : ∀ ids, (schedule ids).Perm ids)
    (hrows : executor graph query = .ok rows) (hentities : HaveEntities rows entities) :
    ∃ result, (search executor graph query settings schedule limit).value = .ok result ∧
      (∀ uuid, (∃ entry ∈ result.unresolved, entry.uuid = uuid) ↔
        IsReferenced settings.textField entities uuid ∧
          titleInGraph? executor graph uuid = none) ∧
      (∀ entry ∈ result.unresolved, IsReferenced settings.textField result.records entry.uuid ↔
        ∃ other, IsReferenced settings.textField (entities.take limit) other ∧
          (other = entry.uuid ∨ ∃ title, titleInGraph? executor graph other = some title ∧
            Mentions title entry.uuid)) ∧
      (result.total ≤ limit → ∀ entry ∈ result.unresolved,
        IsReferenced settings.textField result.records entry.uuid) := by
  obtain rfl := haveEntities_iff.1 hentities
  let resolved := resolve settings schedule (titleLookup executor graph) (rows.filterMap rowEntity?)
  have hsearch : IsSearch executor graph query settings schedule limit (rows.filterMap rowEntity?)
      (⟨graph, query⟩ :: resolved.steps) ⟨resolved.value.records.take limit,
        resolved.value.records.length, resolved.value.unresolved⟩ :=
    isSearch_of_resolve hschedule _
  have hreported {entry : Unresolved} (hentry : entry ∈ resolved.value.unresolved) :=
    (hsearch.mem_unresolved_iff hschedule).1 ⟨entry, hentry, rfl⟩
  refine ⟨_, congrArg Recorded.value (search_of_ok hrows),
    fun uuid ↦ hsearch.mem_unresolved_iff hschedule, fun entry hentry ↦ ?_,
    fun htotal entry hentry ↦ ?_⟩
  · have hnone := (hreported hentry).2
    rw [hsearch.isReferenced_records_iff]
    refine exists_congr fun other ↦ and_congr_right fun _ ↦ ?_
    rw [mem_remains_iff]
    refine or_congr_left ⟨And.right, ?_⟩
    rintro rfl
    exact ⟨hnone, rfl⟩
  · obtain ⟨hreferenced, hnone⟩ := hreported hentry
    rw [hsearch.total] at htotal
    rw [hsearch.isReferenced_records_iff, List.take_of_length_le htotal]
    exact ⟨entry.uuid, hreferenced, mem_remains_iff.2 (.inl ⟨hnone, rfl⟩)⟩

/-- Both records are wanted, and a failed title query leaves the reference of the second one. -/
theorem search_reports_for_all_entities_of_two_records :
    let uuid := "0a1b2c3d-0000-4000-8000-000000000001"
    let rows : List Json := [.object [("block/title", .string "one")],
      .array [.object [("block/title", .string ("two [[" ++ uuid ++ "]]"))]]]
    let executor : Executor := fun _ query ↦
      if query = "[:find (pull ?b [*])]" then .ok rows else .error (.failed "offline")
    ∃ result, (search executor "notes" "[:find (pull ?b [*])]" .standard id 2).value = .ok result ∧
      (∃ entry ∈ result.unresolved, entry.uuid = uuid) ∧
      (result.total ≤ 2 → ∀ entry ∈ result.unresolved,
        IsReferenced "block/title" result.records entry.uuid) := by
  intro uuid rows executor
  have hrows : executor "notes" "[:find (pull ?b [*])]" = .ok rows := if_pos rfl
  have huuid : uuid ∈ collect "block/title" (rows.filterMap rowEntity?) := by decide +kernel
  have hschedule : ∀ ids : List String, (id ids).Perm ids := fun ids ↦ .refl ids
  obtain ⟨result, hresult, hreported, -, huncut⟩ := search_reports_for_all_entities executor "notes"
    "[:find (pull ?b [*])]" .standard 2 hschedule hrows (haveEntities_iff.2 rfl)
  exact ⟨result, hresult, (hreported uuid).2 ⟨mem_collect_iff.1 huuid, rfl⟩, huncut⟩

/-- The only record that refers to a uuid without a title is left out. -/
theorem search_reports_uuid_of_left_out_record :
    ¬ ∀ (executor : Executor) (graph query : String) (settings : Settings) (limit : Nat)
      (result : SearchResult),
      (search executor graph query settings id limit).value = .ok result →
        ∀ entry ∈ result.unresolved,
          IsReferenced settings.textField result.records entry.uuid := by
  intro h
  let uuid := "0a1b2c3d-0000-4000-8000-000000000001"
  let rows : List Json := [.object [("block/title", .string "one")],
    .object [("block/title", .string ("two [[" ++ uuid ++ "]]"))]]
  let executor : Executor := fun _ query ↦
    if query = "[:find (pull ?b [*])]" then .ok rows else .ok []
  let resolved := (resolve .standard id (titleLookup executor "notes")
    (rows.filterMap rowEntity?)).value
  have hrows : executor "notes" "[:find (pull ?b [*])]" = .ok rows := if_pos rfl
  have hreported : (⟨uuid, none⟩ : Unresolved) ∈ resolved.unresolved := by decide +kernel
  have hheld : collect "block/title" (resolved.records.take 1) = [] := by decide +kernel
  have hreferenced := h executor "notes" "[:find (pull ?b [*])]" .standard 1 _
    (congrArg Recorded.value (search_of_ok hrows)) _ hreported
  rw [← mem_collect_iff] at hreferenced
  exact List.not_mem_nil (hheld ▸ hreferenced)

end FilterQuery.Graph
