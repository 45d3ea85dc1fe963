import FilterQuery.Proofs.Reference.Remaining

/-!
# Resolving again

Titles are put into a text as they are, and what they refer to is not looked up. So resolving the
records of an outcome once more can change them: it puts titles in place of the uuids that other
titles refer to. It changes nothing exactly if each of these uuids has no title, or is its own.

That no other texts stay as they are takes an argument: a title that is longer than its uuid shifts
the text behind it, and such a text would have to begin with what remains of itself without end.
-/

namespace FilterQuery.Reference

section

variable {title? : String → Option String}

/-! ## Texts that stay as they are -/

theorem rendered_of_short {cs : List Char} (h : cs.length < markerLength) :
    rendered title? cs = cs := by
  induction cs with
  | nil => exact rendered_nil
  | cons c cs ih =>
    have hnone : uuidAt? (c :: cs) = none := by
      cases hcase : uuidAt? (c :: cs) with
      | none => rfl
      | some uuid => exact absurd (length_le_of_uuidAt? hcase) (Nat.not_le.2 h)
    rw [rendered_of_character hnone, ih (Nat.lt_of_succ_lt h)]

/-- A text that ends with closing brackets does so after rewriting. -/
theorem closed_rendered {cs : List Char} (h : [']', ']'] <:+ cs) :
    [']', ']'] <:+ rendered title? cs := by
  fun_induction pieces cs with
  | case1 => exact absurd h (by decide)
  | case2 c cs uuid huuid ih =>
    let rest := (c :: cs).drop markerLength
    let content := ((title? (String.ofList uuid)).getD (String.ofList uuid)).toList
    have hrendered : rendered title? (c :: cs) = marker content ++ rendered title? rest :=
      rendered_of_reference huuid
    rw [hrendered]
    by_cases hlength : 2 ≤ rest.length
    · have hrest : [']', ']'] <:+ rest :=
        List.suffix_of_suffix_length_le h (List.drop_suffix _ _) hlength
      exact (ih hrest).trans (List.suffix_append _ _)
    · -- what is left behind the marker is nothing, or one more closing bracket
      have hshort : rest.length < markerLength := Nat.lt_trans (Nat.not_le.1 hlength) (by decide)
      rw [rendered_of_short hshort]
      have hclosed : [']', ']'] <:+ marker uuid ++ rest := eq_marker_append huuid ▸ h
      rcases rest with _ | ⟨d, _ | ⟨e, rest⟩⟩
      · rw [List.append_nil]
        exact closed_marker content
      · obtain ⟨front, hfront⟩ := hclosed
        have hlast : (front ++ [']']) ++ [']'] = marker uuid ++ [d] := by simpa using hfront
        obtain rfl : ']' = d := List.head_eq_of_cons_eq (List.append_inj_right' hlast rfl)
        exact ⟨'[' :: '[' :: (content ++ [']']), by simp [marker]⟩
      · exact absurd (Nat.le_add_left 2 rest.length) hlength
  | case3 c cs hnone ih =>
    by_cases hshort : (c :: cs).length < markerLength
    · rwa [rendered_of_short hshort]
    · have hlength : 2 ≤ cs.length := by
        rw [List.length_cons, Nat.not_lt] at hshort
        exact Nat.le_of_succ_le_succ (Nat.le_trans (by decide) hshort)
      have hrest : [']', ']'] <:+ cs :=
        List.suffix_of_suffix_length_le h (List.suffix_cons c cs) hlength
      rw [rendered_of_character hnone]
      exact (ih hrest).trans (List.suffix_cons _ _)

theorem uuidAt?_of_head_ne {c : Char} {cs : List Char} (h : c ≠ '[') :
    uuidAt? (c :: cs) = none := by
  cases hcase : uuidAt? (c :: cs) with
  | none => rfl
  | some uuid => exact absurd (Option.some.inj (getElem?_of_uuidAt? hcase).1) h

/-- No text begins with closing brackets and goes on with what remains of itself. -/
theorem cons_ne_append_rendered {front cs : List Char} (h : [']', ']'] <:+ front) :
    ']' :: cs ≠ front ++ rendered title? cs := by
  intro heq
  have hnext : ']' :: rendered title? cs =
      rendered title? front ++ rendered title? (rendered title? cs) := by
    rw [← rendered_of_character (uuidAt?_of_head_ne (by decide)), heq,
      rendered_append (apart_of_closed h _)]
  have hlength : (rendered title? cs).length < cs.length := by
    have htwo : [']', ']'].length ≤ front.length := h.length_le
    have hsum := congrArg List.length heq
    simp only [List.length_cons, List.length_append, List.length_nil] at htwo hsum
    omega
  exact cons_ne_append_rendered (closed_rendered h) hnext
termination_by cs.length

/-- A marker keeps its place in a text only if its content stays. -/
theorem eq_of_marker_append {uuid content rest : List Char} (huuid : isUuid uuid = true)
    (h : marker content ++ rendered title? rest = marker uuid ++ rest) : content = uuid := by
  have hinside : content ++ (']' :: ']' :: rendered title? rest) =
      uuid ++ (']' :: ']' :: rest) := by
    simpa [marker] using h
  rcases List.append_eq_append_iff.1 hinside with ⟨more, rfl, hmore⟩ | ⟨more, rfl, hmore⟩
  · -- a title that is shorter would put its brackets into the uuid
    cases more with
    | nil => simp
    | cons c more =>
      obtain ⟨rfl, -⟩ := List.cons.inj hmore
      exact absurd (List.mem_append_right _ List.mem_cons_self) (closing_notMem_of_isUuid huuid)
  · cases more with
    | nil => simp
    | cons c more =>
      obtain ⟨rfl, hshifted⟩ := List.cons.inj hmore
      have hclosed : [']', ']'] <:+ more ++ [']', ']'] := List.suffix_append _ _
      have hrest : ']' :: rest = (more ++ [']', ']']) ++ rendered title? rest := by
        simpa using hshifted
      exact absurd hrest (cons_ne_append_rendered hclosed)

theorem marker_append_eq_iff {uuid content rest : List Char} (huuid : isUuid uuid = true) :
    marker content ++ rendered title? rest = marker uuid ++ rest ↔
      content = uuid ∧ rendered title? rest = rest := by
  constructor
  · intro h
    obtain rfl := eq_of_marker_append huuid h
    exact ⟨rfl, List.append_cancel_left h⟩
  · rintro ⟨rfl, hkept⟩
    rw [hkept]

/-- A text stays as it is if and only if each uuid that it refers to has no title, or is its own. -/
theorem rendered_eq_self_iff (cs : List Char) : rendered title? cs = cs ↔
    ∀ uuid ∈ (pieces cs).filterMap Piece.uuid?, ∀ title, title? uuid = some title →
      title = uuid := by
  fun_induction pieces cs with
  | case1 => simp [rendered_nil]
  | case2 c cs uuid huuid ih =>
    obtain ⟨hisUuid, -⟩ := uuidAt?_eq_some_iff.1 huuid
    let rest := (c :: cs).drop markerLength
    have hsplit : c :: cs = marker uuid ++ rest := eq_marker_append huuid
    have hrendered : rendered title? (c :: cs) =
        marker ((title? (String.ofList uuid)).getD (String.ofList uuid)).toList ++
          rendered title? rest := rendered_of_reference huuid
    have hcontent : ((title? (String.ofList uuid)).getD (String.ofList uuid)).toList = uuid ↔
        ∀ title, title? (String.ofList uuid) = some title → title = String.ofList uuid := by
      cases title? (String.ofList uuid) with
      | none => simp
      | some title =>
        have hofList : title.toList = uuid ↔ title = String.ofList uuid :=
          ⟨fun h ↦ by rw [← h, String.ofList_toList], fun h ↦ by rw [h, String.toList_ofList]⟩
        simpa using hofList
    have hfilter (others : List Piece) :
        (Piece.reference (String.ofList uuid) :: others).filterMap Piece.uuid? =
          String.ofList uuid :: others.filterMap Piece.uuid? := rfl
    rw [hfilter, List.forall_mem_cons, ← hcontent, ← ih, hrendered, hsplit]
    exact marker_append_eq_iff hisUuid
  | case3 c cs hnone ih =>
    rw [rendered_of_character hnone, List.cons_inj_right]
    exact ih

theorem withTitles_eq_self_iff (text : String) : withTitles title? text = text ↔
    ∀ uuid ∈ uuids text, ∀ title, title? uuid = some title → title = uuid := by
  have hchars : withTitles title? text = text ↔ rendered title? text.toList = text.toList := by
    rw [← String.toList_inj, withTitles, String.toList_ofList]
    rfl
  rw [hchars, rendered_eq_self_iff]
  rfl

end

/-! ## Records that stay as they are -/

theorem recordWithTitles_eq_self_iff {field : String} {titles : Keyed String} {record : Record} :
    recordWithTitles field titles record = record ↔
      ∀ text, record.lookup field = some (.string text) →
        withTitles (titleIn titles) text = text := by
  rw [recordWithTitles_eq_modify]
  constructor
  · intro h text htext
    have hlookup := Keyed.lookup_modify_self field (valueWithTitles titles) record
    rw [h, htext] at hlookup
    simpa [valueWithTitles, eq_comm] using hlookup
  · intro h
    apply Keyed.modify_eq_self
    intro value hvalue
    cases value with
    | string text => exact congrArg Json.string (h text hvalue)
    | _ => rfl

section

variable {Step : Type} {settings : Settings} {schedule : Schedule} {records : List Record}
  (hschedule : ∀ ids, (schedule ids).Perm ids) (lookup : TitleLookup Step)

include hschedule

/-- Resolving leaves the records as they are if and only if each uuid that they refer to has no
title, or is its own. -/
theorem records_resolve_eq_self_iff :
    (resolve settings schedule lookup records).value.records = records ↔
      ∀ uuid ∈ collect settings.textField records, ∀ title,
        foundTitle? lookup uuid = some title → title = uuid := by
  have hmap (f : Record → Record) :
      records.map f = records ↔ ∀ record ∈ records, f record = record := by
    conv_lhs => rhs; rw [← List.map_id records]
    exact List.map_inj_left
  have htitles {record : Record} (hrecord : record ∈ records) {text : String}
      (htext : record.lookup settings.textField = some (.string text)) :
      withTitles (titleIn (((collect settings.textField records).map fun u ↦
        (u, (lookup u).value)).filterMap titleOf?)) text = withTitles (foundTitle? lookup) text :=
    withTitles_congr fun uuid huuid ↦ titleIn_titles lookup (mem_collect hrecord htext huuid)
  rw [records_resolve hschedule, hmap]
  simp only [recordWithTitles_eq_self_iff, mem_collect_iff_exists]
  constructor
  · rintro h uuid ⟨record, hrecord, text, htext, huuid⟩
    have hkept := h record hrecord text htext
    rw [htitles hrecord htext, withTitles_eq_self_iff] at hkept
    exact hkept uuid huuid
  · intro h record hrecord text htext
    rw [htitles hrecord htext, withTitles_eq_self_iff]
    exact fun uuid huuid ↦ h uuid ⟨record, hrecord, text, htext, huuid⟩

end

/-- Resolving the records of an outcome once more, with the same lookup, leaves them as they are if
and only if every uuid that a title refers to in its place has no title, or is its own. -/
theorem resolve_again_eq_iff {Step : Type} {settings : Settings} {schedule other : Schedule}
    (hschedule : ∀ ids, (schedule ids).Perm ids) (hother : ∀ ids, (other ids).Perm ids)
    (lookup : TitleLookup Step) (records : List Record) :
    let outcome := (resolve settings schedule lookup records).value
    (resolve settings other lookup outcome.records).value.records = outcome.records ↔
      ∀ resolved title, (resolved, title) ∈ outcome.titles → ∀ uuid, Mentions title uuid →
        ∀ found, foundTitle? lookup uuid = some found → found = uuid := by
  intro outcome
  rw [records_resolve_eq_self_iff hother]
  constructor
  · intro h resolved title htitle uuid hmentions
    exact h uuid ((mem_collect_resolve_iff hschedule lookup).2 (.inr ⟨_, _, htitle, hmentions⟩))
  · intro h uuid huuid found hfound
    rcases (mem_collect_resolve_iff hschedule lookup).1 huuid with hnone | hmentioned
    · rw [((mem_unresolved_resolve hschedule lookup).1 hnone).2] at hfound
      cases hfound
    · obtain ⟨resolved, title, htitle, hmentions⟩ := hmentioned
      exact h resolved title htitle uuid hmentions found hfound

/-- The title of one uuid is another uuid, which has a title as well. -/
theorem resolve_again_changes_records :
    let alpha := "0a1b2c3d-0000-4000-8000-000000000001"
    let beta := "0a1b2c3d-0000-4000-8000-000000000002"
    let lookup : TitleLookup Unit := fun uuid ↦
      ⟨.ok (if uuid = alpha then some beta else if uuid = beta then some "Beta" else none), []⟩
    let records : List Record := [[("block/title", .string ("[[" ++ alpha ++ "]]"))]]
    let outcome := (resolve .standard id lookup records).value
    let again := (resolve .standard id lookup outcome.records).value
    outcome.records.map (fieldText? "block/title") = [some ("[[" ++ beta ++ "]]")] ∧
      again.records.map (fieldText? "block/title") = [some "[[Beta]]"] ∧
      again.records ≠ outcome.records := by
  intro alpha beta lookup records outcome again
  have houtcome : outcome.records.map (fieldText? "block/title") =
      [some ("[[" ++ beta ++ "]]")] := by decide +kernel
  have hagain : again.records.map (fieldText? "block/title") = [some "[[Beta]]"] := by
    decide +kernel
  refine ⟨houtcome, hagain, fun heq ↦ ?_⟩
  rw [heq, houtcome] at hagain
  exact absurd hagain (by decide)

/-- The title of one uuid refers to another uuid, which has no title. -/
theorem resolve_again_eq_of_untitled :
    let alpha := "0a1b2c3d-0000-4000-8000-000000000001"
    let beta := "0a1b2c3d-0000-4000-8000-000000000002"
    let lookup : TitleLookup Unit := fun uuid ↦
      ⟨.ok (if uuid = alpha then some ("see [[" ++ beta) else none), []⟩
    let records : List Record := [[("block/title", .string ("[[" ++ alpha ++ "]]"))]]
    let outcome := (resolve .standard id lookup records).value
    (resolve .standard List.reverse lookup outcome.records).value.records = outcome.records := by
  intro alpha beta lookup records outcome
  have hid : ∀ ids : List String, (id ids).Perm ids := fun ids ↦ .refl ids
  have hreverse : ∀ ids : List String, (List.reverse ids).Perm ids := List.reverse_perm
  have htitles : outcome.titles = [(alpha, "see [[" ++ beta)] := by decide +kernel
  have huuids : uuids (String.ofList (marker ("see [[" ++ beta).toList)) = [beta] := by
    decide +kernel
  refine (resolve_again_eq_iff hid hreverse lookup records).2 ?_
  intro resolved title htitle uuid hmentions found hfound
  have htitle : (resolved, title) ∈ [(alpha, "see [[" ++ beta)] := htitles ▸ htitle
  obtain ⟨rfl, rfl⟩ := Prod.mk.inj (List.mem_singleton.1 htitle)
  have hbeta : uuid ∈ [beta] := by
    rw [← huuids, mem_uuids_iff, String.toList_ofList]
    exact hmentions
  obtain rfl := List.mem_singleton.1 hbeta
  have hnone : foundTitle? lookup beta = none := by decide +kernel
  rw [hnone] at hfound
  cases hfound

end FilterQuery.Reference
