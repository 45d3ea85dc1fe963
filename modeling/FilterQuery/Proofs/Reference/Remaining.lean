import FilterQuery.Proofs.Reference.Accounting
import FilterQuery.Proofs.Reference.Rescan

/-!
# What is left to resolve

After resolving, the records refer to the uuids that are unresolved, and to those that the titles
refer to between the brackets that they were put in. Nothing else becomes a reference, however the
titles and the texts around them are made up.
-/

namespace FilterQuery.Reference

/-- A title refers to a uuid between the brackets that it is put in. -/
def Mentions (title uuid : String) : Prop :=
  isUuid uuid.toList = true ∧ marker uuid.toList <:+: marker title.toList

theorem mem_remains_iff {title? : String → Option String} {uuid other : String} :
    other ∈ remains title? uuid ↔
      (title? uuid = none ∧ uuid = other) ∨ ∃ title, title? uuid = some title ∧
        Mentions title other := by
  unfold remains
  cases title? uuid with
  | none => simp [eq_comm]
  | some title => simp [mem_uuids_iff, Mentions]

theorem mem_collect_iff_exists {field : String} {records : List Record} {uuid : String} :
    uuid ∈ collect field records ↔ ∃ record ∈ records, ∃ text,
      record.lookup field = some (.string text) ∧ uuid ∈ uuids text := by
  simp only [mem_collect_iff, IsReferenced, mem_uuids_iff]

section

variable {field : String} {uuid : String} {title? : String → Option String}

theorem isReferenced_cons {record : Record} {records : List Record} :
    IsReferenced field (record :: records) uuid ↔
      IsReferenced field [record] uuid ∨ IsReferenced field records uuid := by
  simp [IsReferenced]

theorem isReferenced_singleton {record : Record} :
    IsReferenced field [record] uuid ↔
      ∃ text, record.lookup field = some (.string text) ∧ uuid ∈ uuids text := by
  simp [IsReferenced, mem_uuids_iff]

/-- A rewritten record refers to what its references leave. -/
theorem Rewritten.isReferenced_iff {before after : Record}
    (h : Rewritten field title? before after) : IsReferenced field [after] uuid ↔
      ∃ other, IsReferenced field [before] other ∧ uuid ∈ remains title? other := by
  simp only [isReferenced_singleton]
  by_cases htext : ∃ text, before.lookup field = some (.string text)
  · obtain ⟨text, htext⟩ := htext
    have hafter := h.text text htext
    rw [← withTitles_eq_edited] at hafter
    simp [hafter, htext, uuids_withTitles]
  · rw [h.kept (not_exists.1 htext)]
    constructor
    · rintro ⟨text, hlookup, -⟩
      exact absurd ⟨text, hlookup⟩ htext
    · rintro ⟨_, ⟨text, hlookup, -⟩, -⟩
      exact absurd ⟨text, hlookup⟩ htext

theorem isReferenced_rewritten_iff {before after : List Record}
    (h : List.Forall₂ (Rewritten field title?) before after) : IsReferenced field after uuid ↔
      ∃ other, IsReferenced field before other ∧ uuid ∈ remains title? other := by
  induction h with
  | nil => simp [IsReferenced]
  | @cons before after befores afters hrecord _ ih =>
    have hbefore (other : String) : IsReferenced field (before :: befores) other ↔
        IsReferenced field [before] other ∨ IsReferenced field befores other :=
      isReferenced_cons
    rw [isReferenced_cons, hrecord.isReferenced_iff, ih, ← exists_or]
    simp only [hbefore, or_and_right]

end

section

variable {Step : Type} {settings : Settings} {schedule : Schedule} {records : List Record}
  (hschedule : ∀ ids, (schedule ids).Perm ids) (lookup : TitleLookup Step)

include hschedule

/-- What resolving gives for each uuid that the records refer to. -/
theorem accountedFor_resolve : AccountedFor (fun uuid ↦ (lookup uuid).value) settings.textField
    records (collect settings.textField records)
    (resolve settings schedule lookup records).value := by
  have horder := perm_order settings hschedule (collect settings.textField records)
  rw [value_resolve]
  exact accountedFor_assemble (fun uuid ↦ (lookup uuid).value) (.refl _) horder

theorem mem_titles_resolve {uuid title : String} :
    (uuid, title) ∈ (resolve settings schedule lookup records).value.titles ↔
      uuid ∈ collect settings.textField records ∧ foundTitle? lookup uuid = some title := by
  rw [(accountedFor_resolve hschedule lookup).mem_titles, mem_collect_iff, foundTitle?]
  rcases (lookup uuid).value with error | found <;> simp

theorem mem_unresolved_resolve {uuid : String} :
    (∃ entry ∈ (resolve settings schedule lookup records).value.unresolved, entry.uuid = uuid) ↔
      uuid ∈ collect settings.textField records ∧ foundTitle? lookup uuid = none := by
  simp only [(accountedFor_resolve hschedule lookup).mem_unresolved, ← mem_collect_iff]
  constructor
  · rintro ⟨⟨_, error⟩, ⟨hmem, hanswer⟩, rfl⟩
    refine ⟨hmem, ?_⟩
    rw [foundTitle?, hanswer]
    cases error <;> rfl
  · rintro ⟨hmem, hnone⟩
    unfold foundTitle? at hnone
    split at hnone
    case h_1 title hanswer =>
      subst hnone
      exact ⟨⟨uuid, none⟩, ⟨hmem, hanswer⟩, rfl⟩
    case h_2 error hanswer => exact ⟨⟨uuid, some error⟩, ⟨hmem, hanswer⟩, rfl⟩

/-- The records of the outcome refer to the uuids that are unresolved, and to those that the titles
refer to. -/
theorem mem_collect_resolve_iff {uuid : String} :
    uuid ∈ collect settings.textField (resolve settings schedule lookup records).value.records ↔
      (∃ entry ∈ (resolve settings schedule lookup records).value.unresolved, entry.uuid = uuid) ∨
        ∃ resolved title, (resolved, title) ∈
          (resolve settings schedule lookup records).value.titles ∧ Mentions title uuid := by
  have hremains : uuid ∈ collect settings.textField
      (resolve settings schedule lookup records).value.records ↔
        ∃ other ∈ collect settings.textField records,
          uuid ∈ remains (foundTitle? lookup) other := by
    simp only [mem_collect_iff]
    exact isReferenced_rewritten_iff (rewritten_resolve hschedule lookup records)
  rw [hremains, mem_unresolved_resolve hschedule]
  simp only [mem_titles_resolve hschedule, mem_remains_iff]
  constructor
  · rintro ⟨other, hother, ⟨hnone, rfl⟩ | ⟨title, htitle, hmentions⟩⟩
    · exact .inl ⟨hother, hnone⟩
    · exact .inr ⟨other, title, ⟨hother, htitle⟩, hmentions⟩
  · rintro (⟨huuid, hnone⟩ | ⟨other, title, ⟨hother, htitle⟩, hmentions⟩)
    · exact ⟨uuid, huuid, .inl ⟨hnone, rfl⟩⟩
    · exact ⟨other, hother, .inr ⟨title, htitle, hmentions⟩⟩

end

/-- The records of an outcome refer to exactly those uuids that are unresolved, or that some title
refers to in its place. A resolved uuid is among them only if a title brings it back. In each text,
the references are those that were there, in their order, with what the titles refer to in the place
of those that are resolved; no border makes one, or breaks one. -/
theorem resolve_leaves_references {Step : Type} {settings : Settings} {schedule : Schedule}
    (hschedule : ∀ ids, (schedule ids).Perm ids) (lookup : TitleLookup Step)
    (records : List Record) :
    let outcome := (resolve settings schedule lookup records).value
    (∀ uuid, uuid ∈ collect settings.textField outcome.records ↔
      (∃ entry ∈ outcome.unresolved, entry.uuid = uuid) ∨
        ∃ resolved title, (resolved, title) ∈ outcome.titles ∧ Mentions title uuid) ∧
    (∀ uuid title, (uuid, title) ∈ outcome.titles →
      uuid ∈ collect settings.textField outcome.records →
        ∃ resolved other, (resolved, other) ∈ outcome.titles ∧ Mentions other uuid) ∧
    List.Forall₂ (fun before after ↦ ∀ text,
      before.lookup settings.textField = some (.string text) → ∃ rewritten,
        after.lookup settings.textField = some (.string rewritten) ∧
        uuids rewritten = (uuids text).flatMap (remains (foundTitle? lookup)))
      records outcome.records := by
  intro outcome
  refine ⟨fun uuid ↦ mem_collect_resolve_iff hschedule lookup, fun uuid title htitle huuid ↦ ?_, ?_⟩
  · refine ((mem_collect_resolve_iff hschedule lookup).1 huuid).resolve_left fun hunresolved ↦ ?_
    have hnone := ((mem_unresolved_resolve hschedule lookup).1 hunresolved).2
    rw [((mem_titles_resolve hschedule lookup).1 htitle).2] at hnone
    cases hnone
  · simp only [outcome, records_resolve hschedule, List.forall₂_map_right_iff, List.forall₂_same]
    intro record hrecord text htext
    have hrewritten := rewritten_of_mem lookup settings.textField hrecord
    refine ⟨_, hrewritten.text text htext, ?_⟩
    rw [← withTitles_eq_edited, uuids_withTitles]

/-- The title of a reference refers to an unresolved uuid and to another resolved one, whose title
in turn looks like the beginning of a marker. -/
theorem resolve_leaves_references_of_titles :
    let alpha := "0a1b2c3d-0000-4000-8000-000000000001"
    let beta := "0a1b2c3d-0000-4000-8000-000000000002"
    let gamma := "0a1b2c3d-0000-4000-8000-000000000003"
    let lookup : TitleLookup Unit := fun uuid ↦ ⟨.ok (if uuid = alpha then
      some ("x]][[" ++ gamma ++ "]][[" ++ beta) else if uuid = beta then some "[[" else none), []⟩
    let records : List Record := [[("block/title",
      .string ("[[" ++ alpha ++ "]][[" ++ beta ++ "]]" ++ gamma ++ "]]"))]]
    let outcome := (resolve .standard id lookup records).value
    ∀ uuid, uuid ∈ collect Settings.standard.textField outcome.records ↔
      (∃ entry ∈ outcome.unresolved, entry.uuid = uuid) ∨
        ∃ resolved title, (resolved, title) ∈ outcome.titles ∧ Mentions title uuid := by
  intro alpha beta gamma lookup records outcome
  have hschedule : ∀ ids : List String, (id ids).Perm ids := fun ids ↦ .refl ids
  exact (resolve_leaves_references hschedule lookup records).1

end FilterQuery.Reference
