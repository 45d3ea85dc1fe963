import FilterQuery.Proofs.Reference.Occurrence
import FilterQuery.Reference.Resolver
import Mathlib.Data.List.Forall2

/-!
# Resolving rewrites references and nothing else

The records of an outcome are those that were given, one for one, and differ from them in their text
field only, in which every position is edited by what the lookup answers. This holds in whatever
order the lookups are made. That records without references are returned at once, and that records
are not gone through when no title was found, saves work and changes nothing.
-/

namespace FilterQuery.Reference

/-! ## Texts -/

theorem withTitles_congr {f g : String → Option String} {text : String}
    (h : ∀ uuid ∈ uuids text, f uuid = g uuid) : withTitles f text = withTitles g text := by
  have hpieces : ∀ piece ∈ pieces text.toList, piece.render f = piece.render g := by
    intro piece hpiece
    cases piece with
    | character c => rfl
    | reference uuid =>
      have hmem : uuid ∈ uuids text := List.mem_filterMap.2 ⟨_, hpiece, rfl⟩
      rw [Piece.render, Piece.render, h uuid hmem]
  rw [withTitles, withTitles, List.flatMap_congr hpieces]

/-- Without titles a text stays as it is. -/
theorem withTitles_none (text : String) : withTitles (fun _ ↦ none) text = text := by
  have hnone : ∀ i, titleAt? (fun _ ↦ none) text.toList i = none := by
    intro i
    rw [titleAt?, Option.bind_fun_none]
  have hedit : ∀ i ∈ List.range text.toList.length,
      edit (fun _ ↦ none) text.toList i = text.toList[i]?.toList := by
    intro i _
    have hcovered : ¬IsCovered (fun _ ↦ none) text.toList i := by
      rintro ⟨j, -, -, hsome⟩
      rw [hnone j] at hsome
      cases hsome
    rw [edit_of_none (hnone i), if_neg hcovered]
  calc withTitles (fun _ ↦ none) text
    _ = String.ofList ((List.range text.toList.length).flatMap (edit (fun _ ↦ none) text.toList)) :=
      withTitles_eq_edited text
    _ = String.ofList (text.toList.take text.toList.length) := by
      rw [List.flatMap_congr hedit, flatMap_getElem?_range]
    _ = text := by rw [List.take_length, String.ofList_toList]

theorem valueWithTitles_nil (value : Json) : valueWithTitles [] value = value := by
  cases value with
  | string text => exact congrArg Json.string (withTitles_none text)
  | _ => rfl

/-! ## Answers -/

section

variable {Step : Type} (lookup : TitleLookup Step)

/-- The title that a lookup finds for a uuid. -/
def foundTitle? (uuid : String) : Option String :=
  match (lookup uuid).value with
  | .ok title => title
  | .error _ => none

theorem lookUpAll_value (ids : List String) :
    (lookUpAll lookup ids).value = ids.map fun uuid ↦ (uuid, (lookup uuid).value) := by
  induction ids with
  | nil => rfl
  | cons uuid ids ih =>
    rw [lookUpAll, Recorded.bind_value, Recorded.bind_value, Recorded.pure_value, ih,
      List.map_cons]

theorem lookup_answers {order : List String} {uuid : String} (h : uuid ∈ order) :
    (order.map fun u ↦ (u, (lookup u).value)).lookup uuid = some (lookup uuid).value := by
  induction order with
  | nil => cases h
  | cons other order ih =>
    by_cases heq : uuid = other
    · simp [heq]
    · have hmem : uuid ∈ order := (List.mem_cons.1 h).resolve_left heq
      simp [List.lookup_cons, beq_false_of_ne heq, ih hmem]

/-- The answers come in the order of the uuids, in whatever order these are looked up. -/
theorem inOrder_lookUpAll {order ids : List String} (h : ∀ uuid ∈ ids, uuid ∈ order) :
    inOrder (lookUpAll lookup order).value ids =
      ids.map fun uuid ↦ (uuid, (lookup uuid).value) := by
  have hanswer : ∀ uuid ∈ ids, ((lookUpAll lookup order).value.lookup uuid).map
      (fun answer ↦ (uuid, answer)) = some (uuid, (lookup uuid).value) := by
    intro uuid huuid
    rw [lookUpAll_value, lookup_answers lookup (h uuid huuid), Option.map_some]
  rw [inOrder, List.filterMap_congr hanswer]
  exact congrFun List.filterMap_eq_map ids

theorem titleOf?_answer (uuid : String) : titleOf? (uuid, (lookup uuid).value) =
    (foundTitle? lookup uuid).map fun title ↦ (uuid, title) := by
  unfold foundTitle?
  cases (lookup uuid).value with
  | error error => rfl
  | ok title => cases title <;> rfl

theorem lookup_filterMap (title? : String → Option String) (ids : List String) (uuid : String) :
    (ids.filterMap fun u ↦ (title? u).map fun title ↦ (u, title)).lookup uuid =
      if uuid ∈ ids then title? uuid else none := by
  induction ids with
  | nil => rfl
  | cons other ids ih =>
    rw [List.filterMap_cons]
    by_cases heq : uuid = other
    · subst heq
      rw [if_pos List.mem_cons_self]
      cases htitle : title? uuid with
      | none =>
        rw [Option.map_none, ih, htitle, ite_self]
      | some title => simp
    · have hskip : (uuid == other) = false := beq_false_of_ne heq
      simp only [List.mem_cons, heq, false_or, ← ih]
      cases title? other with
      | none => rfl
      | some title => simp [List.lookup_cons, hskip]

/-- The titles of an outcome are those that the lookup finds for the uuids in question. -/
theorem titleIn_titles {ids : List String} {uuid : String} (h : uuid ∈ ids) :
    titleIn ((ids.map fun u ↦ (u, (lookup u).value)).filterMap titleOf?) uuid =
      foundTitle? lookup uuid := by
  have htitles : (ids.map fun u ↦ (u, (lookup u).value)).filterMap titleOf? =
      ids.filterMap fun u ↦ (foundTitle? lookup u).map fun title ↦ (u, title) := by
    rw [List.filterMap_map]
    exact congrArg (List.filterMap · ids) (funext fun u ↦ titleOf?_answer lookup u)
  rw [titleIn, htitles, lookup_filterMap, if_pos h]

end

/-! ## Records -/

theorem mem_insertAscending {s other : String} {strings : List String} :
    other ∈ insertAscending s strings ↔ other = s ∨ other ∈ strings := by
  induction strings with
  | nil => simp [insertAscending]
  | cons first rest ih =>
    unfold insertAscending
    split
    case isTrue heq => simp [heq]
    case isFalse =>
      split
      · simp
      · simp only [List.mem_cons, ih]
        exact or_left_comm

theorem mem_ascending {s : String} {strings : List String} :
    s ∈ ascending strings ↔ s ∈ strings := by
  induction strings with
  | nil => rfl
  | cons first rest ih =>
    rw [ascending, List.foldr_cons, mem_insertAscending, ← ascending, ih, List.mem_cons]

/-- All uuids that the text of a record refers to are collected. -/
theorem mem_collect {field text : String} {records : List Record} {record : Record}
    (hrecord : record ∈ records) (htext : record.lookup field = some (.string text)) {uuid : String}
    (huuid : uuid ∈ uuids text) : uuid ∈ collect field records := by
  have hfield : fieldText? field record = some text := by
    rw [fieldText?, htext]
    rfl
  exact mem_ascending.2 (List.mem_flatMap.2
    ⟨text, List.mem_filterMap.2 ⟨record, hrecord, hfield⟩, huuid⟩)

/-- A record that differs from another one in its text field only, where titles have taken the place
of uuids. -/
structure Rewritten (field : String) (title? : String → Option String) (before after : Record) :
    Prop where
  names : after.map Prod.fst = before.map Prod.fst
  others : ∀ name, name ≠ field → after.lookup name = before.lookup name
  text : ∀ s, before.lookup field = some (.string s) →
    after.lookup field = some (.string (edited title? s))
  kept : (∀ s, before.lookup field ≠ some (.string s)) → after = before

/-- Going through a record without titles changes nothing. -/
theorem recordWithTitles_eq_modify (field : String) (titles : Keyed String) (record : Record) :
    recordWithTitles field titles record = Keyed.modify field (valueWithTitles titles) record := by
  unfold recordWithTitles
  split
  case isTrue hempty =>
    rw [List.isEmpty_iff.1 hempty]
    exact (Keyed.modify_eq_self fun value _ ↦ valueWithTitles_nil value).symm
  case isFalse => rfl

theorem rewritten_recordWithTitles {field : String} {titles : Keyed String}
    {title? : String → Option String} {record : Record}
    (h : ∀ text, record.lookup field = some (.string text) →
      ∀ uuid ∈ uuids text, titleIn titles uuid = title? uuid) :
    Rewritten field title? record (recordWithTitles field titles record) := by
  rw [recordWithTitles_eq_modify]
  constructor
  · exact Keyed.map_fst_modify field _ record
  · exact fun name hname ↦ Keyed.lookup_modify_of_ne hname _ record
  · intro s hs
    rw [Keyed.lookup_modify_self, hs, Option.map_some, valueWithTitles,
      withTitles_congr (h s hs), withTitles_eq_edited]
  · intro hnot
    apply Keyed.modify_eq_self
    intro value hvalue
    cases value with
    | string s => exact absurd hvalue (hnot s)
    | _ => rfl

/-! ## Outcomes -/

variable {Step : Type}

/-- Resolving with a look at every record, whether or not there is anything to look up. -/
def resolveThroughout (settings : Settings) (schedule : Schedule) (lookup : TitleLookup Step)
    (records : List Record) : Recorded Step Outcome := do
  let ids := collect settings.textField records
  let answers ← lookUpAll lookup (if settings.isShared ids then schedule ids else ids)
  let ordered := inOrder answers ids
  let titles := ordered.filterMap titleOf?
  return { records := records.map (Keyed.modify settings.textField (valueWithTitles titles))
           titles := titles
           unresolved := ordered.filterMap unresolvedOf? }

theorem resolve_eq_resolveThroughout (settings : Settings) (schedule : Schedule)
    (lookup : TitleLookup Step) (records : List Record) :
    resolve settings schedule lookup records =
      resolveThroughout settings schedule lookup records := by
  have hmodify : ∀ titles, records.map (recordWithTitles settings.textField titles) =
      records.map (Keyed.modify settings.textField (valueWithTitles titles)) := fun titles ↦
    List.map_congr_left fun record _ ↦ recordWithTitles_eq_modify _ titles record
  unfold resolve resolveThroughout
  cases hids : collect settings.textField records with
  | nil =>
    have hkept : records.map (Keyed.modify settings.textField (valueWithTitles [])) = records := by
      rw [← hmodify]
      exact List.map_id' records
    have hshared : settings.isShared [] = false := by simp [Settings.isShared]
    simp only [List.isEmpty_nil, if_true, hshared, Bool.false_eq_true, if_false, lookUpAll,
      pure_bind, inOrder, List.filterMap_nil, hkept]
  | cons uuid ids =>
    simp only [List.isEmpty_cons, Bool.false_eq_true, if_false, hmodify]

/-- The answer for a uuid bears on the positions of its references only. -/
theorem edit_congr {f g : String → Option String} {uuid : String}
    (h : ∀ u, u ≠ uuid → f u = g u) {cs : List Char} {i : Nat}
    (hi : ∀ j ≤ i, i < j + markerLength → uuidAt? (cs.drop j) ≠ some uuid.toList) :
    edit f cs i = edit g cs i := by
  have htitle : ∀ j ≤ i, i < j + markerLength → titleAt? f cs j = titleAt? g cs j := by
    intro j hj hin
    unfold titleAt?
    cases huuid : uuidAt? (cs.drop j) with
    | none => rfl
    | some found =>
      have hne : String.ofList found ≠ uuid := by
        rintro rfl
        exact hi j hj hin (by rw [huuid, String.toList_ofList])
      exact h _ hne
  have hcovered : IsCovered f cs i ↔ IsCovered g cs i := by
    constructor
    · rintro ⟨j, hj, hin, hsome⟩
      exact ⟨j, hj, hin, by rwa [← htitle j (Nat.le_of_lt hj) hin]⟩
    · rintro ⟨j, hj, hin, hsome⟩
      exact ⟨j, hj, hin, by rwa [htitle j (Nat.le_of_lt hj) hin]⟩
  have hlength : i < i + markerLength := Nat.lt_add_of_pos_right (by decide)
  exact edit_eq_edit (htitle i (Nat.le_refl i) hlength) hcovered rfl

/-- The records of an outcome have the titles that the lookup finds for the collected uuids. -/
theorem records_resolve {settings : Settings} {schedule : Schedule}
    (hschedule : ∀ ids, (schedule ids).Perm ids) (lookup : TitleLookup Step)
    (records : List Record) : (resolve settings schedule lookup records).value.records =
      records.map (recordWithTitles settings.textField
        (((collect settings.textField records).map fun u ↦ (u, (lookup u).value)).filterMap
          titleOf?)) := by
  have horder : ∀ uuid ∈ collect settings.textField records, uuid ∈
      (if settings.isShared (collect settings.textField records) then
        schedule (collect settings.textField records) else collect settings.textField records) := by
    intro uuid huuid
    split
    · exact (hschedule _).mem_iff.2 huuid
    · exact huuid
  rw [resolve_eq_resolveThroughout]
  unfold resolveThroughout
  simp only [Recorded.bind_value, Recorded.pure_value, inOrder_lookUpAll lookup horder]
  exact List.map_congr_left fun record _ ↦ (recordWithTitles_eq_modify _ _ record).symm

/-- With the titles that the lookup finds for all collected uuids, every text is rewritten. -/
theorem rewritten_of_mem (lookup : TitleLookup Step) (field : String) {records : List Record}
    {record : Record} (hrecord : record ∈ records) :
    Rewritten field (foundTitle? lookup) record (recordWithTitles field
      (((collect field records).map fun u ↦ (u, (lookup u).value)).filterMap titleOf?) record) := by
  apply rewritten_recordWithTitles
  intro text htext uuid huuid
  exact titleIn_titles lookup (mem_collect hrecord htext huuid)

theorem rewritten_resolve {settings : Settings} {schedule : Schedule}
    (hschedule : ∀ ids, (schedule ids).Perm ids) (lookup : TitleLookup Step)
    (records : List Record) :
    List.Forall₂ (Rewritten settings.textField (foundTitle? lookup)) records
      (resolve settings schedule lookup records).value.records := by
  rw [records_resolve hschedule, List.forall₂_map_right_iff, List.forall₂_same]
  exact fun record hrecord ↦ rewritten_of_mem lookup _ hrecord

/-- Resolving keeps the records in their order and edits every position of their texts by what the
lookup answers; an answer bears on the references to its uuid only; and nothing depends on whether
records without references or without titles are gone through. -/
theorem resolve_rewrites_references {settings : Settings} {schedule : Schedule}
    (hschedule : ∀ ids, (schedule ids).Perm ids) (lookup : TitleLookup Step)
    (records : List Record) :
    List.Forall₂ (Rewritten settings.textField (foundTitle? lookup)) records
        (resolve settings schedule lookup records).value.records ∧
      (∀ (other : TitleLookup Step) (uuid : String),
        (∀ u, u ≠ uuid → (other u).value = (lookup u).value) → ∀ (cs : List Char) (i : Nat),
        (∀ j ≤ i, i < j + markerLength → uuidAt? (cs.drop j) ≠ some uuid.toList) →
          edit (foundTitle? other) cs i = edit (foundTitle? lookup) cs i) ∧
      resolve settings schedule lookup records =
        resolveThroughout settings schedule lookup records := by
  refine ⟨rewritten_resolve hschedule lookup records, ?_,
    resolve_eq_resolveThroughout settings schedule lookup records⟩
  intro other uuid hother cs i hi
  apply edit_congr _ hi
  intro u hu
  rw [foundTitle?, foundTitle?, hother u hu]

/-- A failed lookup leaves its reference and does not keep the other one from its title. -/
theorem resolve_rewrites_references_of_failure :
    let alpha := "0a1b2c3d-0000-4000-8000-000000000001"
    let beta := "0a1b2c3d-0000-4000-8000-000000000002"
    let lookup : TitleLookup Unit := fun uuid ↦
      ⟨if uuid = alpha then .ok (some "$1]]") else .error (.other "offline"), []⟩
    let text := "[[[" ++ alpha ++ "]] [[" ++ beta ++ "]]"
    let records : List Record := [[("block/title", .string text)]]
    List.Forall₂ (Rewritten Settings.standard.textField (foundTitle? lookup)) records
      (resolve .standard id lookup records).value.records := by
  intro alpha beta lookup text records
  have hschedule : ∀ ids : List String, (id ids).Perm ids := fun ids ↦ List.Perm.refl ids
  exact (resolve_rewrites_references hschedule lookup records).1

end FilterQuery.Reference
