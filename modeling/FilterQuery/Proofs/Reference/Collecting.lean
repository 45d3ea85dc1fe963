import FilterQuery.Proofs.Reference.Rewriting

/-!
# The references that are collected

The scan of a text finds every uuid that stands between double brackets somewhere in it. What is
collected from some records is therefore each uuid that the text field of one of them refers to,
once, and in ascending order.
-/

namespace FilterQuery.Reference

/-! ## The uuids of a text -/

/-- The scan finds the uuids of all references, wherever they start. -/
theorem reference_mem_pieces_iff {cs uuid : List Char} :
    Piece.reference (String.ofList uuid) ∈ pieces cs ↔ ∃ i, uuidAt? (cs.drop i) = some uuid := by
  fun_induction pieces cs with
  | case1 =>
    have hnone : uuidAt? [] = none := by decide
    simp [hnone]
  | case2 c cs found h ih =>
    have hdrop (k : Nat) :
        (c :: cs).drop (markerLength + k) = (cs.drop (uuidLength + 3)).drop k := by
      rw [← List.drop_drop]
      rfl
    rw [List.mem_cons, ih]
    constructor
    · rintro (heq | ⟨i, hi⟩)
      · obtain rfl : uuid = found := String.ofList_injective (Piece.reference.inj heq)
        exact ⟨0, h⟩
      · exact ⟨markerLength + i, by rw [hdrop, hi]⟩
    · rintro ⟨i, hi⟩
      by_cases hinside : i < markerLength
      · -- a reference that starts inside this one would overlap it
        obtain rfl : i = 0 := by
          by_contra hne
          rw [uuidAt?_drop_eq_none h (Nat.pos_of_ne_zero hne) hinside] at hi
          cases hi
        obtain rfl : uuid = found := Option.some.inj (hi.symm.trans h)
        exact .inl rfl
      · obtain ⟨k, rfl⟩ := Nat.exists_eq_add_of_le (Nat.le_of_not_lt hinside)
        exact .inr ⟨k, by rw [← hdrop, hi]⟩
  | case3 c cs h ih =>
    rw [List.mem_cons, ih]
    constructor
    · rintro (heq | ⟨i, hi⟩)
      · cases heq
      · exact ⟨i + 1, hi⟩
    · rintro ⟨i, hi⟩
      cases i with
      | zero =>
        rw [List.drop_zero, h] at hi
        cases hi
      | succ i => exact .inr ⟨i, hi⟩

/-- The uuids of a text are those that stand between double brackets somewhere in it. -/
theorem mem_uuids_iff {text uuid : String} : uuid ∈ uuids text ↔
    isUuid uuid.toList = true ∧ marker uuid.toList <:+: text.toList := by
  have hpiece : uuid ∈ uuids text ↔
      Piece.reference (String.ofList uuid.toList) ∈ pieces text.toList := by
    rw [String.ofList_toList]
    constructor
    · intro h
      obtain ⟨piece, hpiece, huuid⟩ := List.mem_filterMap.mp h
      cases piece with
      | character c => cases huuid
      | reference found =>
        cases huuid
        exact hpiece
    · exact fun h ↦ List.mem_filterMap.mpr ⟨_, h, rfl⟩
  rw [hpiece, reference_mem_pieces_iff]
  constructor
  · rintro ⟨i, hi⟩
    obtain ⟨huuid, hprefix⟩ := uuidAt?_eq_some_iff.mp hi
    exact ⟨huuid, hprefix.isInfix.trans (List.drop_suffix i _).isInfix⟩
  · rintro ⟨huuid, before, after, htext⟩
    refine ⟨before.length, uuidAt?_eq_some_iff.mpr ⟨huuid, after, ?_⟩⟩
    rw [← htext, List.append_assoc, List.drop_left]

/-! ## Ascending lists without repetition -/

theorem pairwise_insertAscending {s : String} {strings : List String}
    (h : strings.Pairwise (· < ·)) : (insertAscending s strings).Pairwise (· < ·) := by
  induction strings with
  | nil => exact List.pairwise_singleton _ s
  | cons other rest ih =>
    obtain ⟨hother, hrest⟩ := List.pairwise_cons.mp h
    unfold insertAscending
    split
    case isTrue => exact h
    case isFalse hne =>
      split
      case isTrue hlt =>
        refine List.pairwise_cons.mpr ⟨fun t ht ↦ ?_, h⟩
        rcases List.mem_cons.mp ht with rfl | ht
        · exact hlt
        · exact String.lt_trans hlt (hother t ht)
      case isFalse hnlt =>
        have hgt : other < s := by
          by_contra hngt
          exact hne (String.le_antisymm (String.not_lt.mp hngt) (String.not_lt.mp hnlt))
        refine List.pairwise_cons.mpr ⟨fun t ht ↦ ?_, ih hrest⟩
        rcases mem_insertAscending.mp ht with rfl | ht
        · exact hgt
        · exact hother t ht

theorem pairwise_ascending (strings : List String) : (ascending strings).Pairwise (· < ·) := by
  induction strings with
  | nil => exact List.Pairwise.nil
  | cons s rest ih => exact pairwise_insertAscending ih

/-! ## The uuids of records -/

/-- Whether the text field of one of the records refers to a uuid. -/
def IsReferenced (field : String) (records : List Record) (uuid : String) : Prop :=
  ∃ record ∈ records, ∃ text, record.lookup field = some (.string text) ∧
    isUuid uuid.toList = true ∧ marker uuid.toList <:+: text.toList

theorem fieldText?_eq_some_iff {field text : String} {record : Record} :
    fieldText? field record = some text ↔ record.lookup field = some (.string text) := by
  unfold fieldText?
  cases record.lookup field with
  | none => simp
  | some value => cases value <;> simp [Json.asString?]

/-- Exactly the uuids that the records refer to are collected. -/
theorem mem_collect_iff {field : String} {records : List Record} {uuid : String} :
    uuid ∈ collect field records ↔ IsReferenced field records uuid := by
  rw [collect, mem_ascending, List.mem_flatMap]
  simp only [List.mem_filterMap, fieldText?_eq_some_iff, mem_uuids_iff, IsReferenced]
  constructor
  · rintro ⟨text, ⟨record, hrecord, htext⟩, huuid⟩
    exact ⟨record, hrecord, text, htext, huuid⟩
  · rintro ⟨record, hrecord, text, htext, huuid⟩
    exact ⟨text, ⟨record, hrecord, htext⟩, huuid⟩

theorem pairwise_collect (field : String) (records : List Record) :
    (collect field records).Pairwise (· < ·) :=
  pairwise_ascending _

/-- No uuid is collected twice. -/
theorem nodup_collect (field : String) (records : List Record) : (collect field records).Nodup := by
  refine (pairwise_collect field records).imp ?_
  rintro uuid _ hlt rfl
  exact String.lt_irrefl uuid hlt

end FilterQuery.Reference
