import FilterQuery.Proofs.Reference.Collecting
import Mathlib.Data.List.Count
import Mathlib.Data.List.Infix

/-!
# The scan misses no reference

The scan goes on behind each reference it has found. Since a reference holds no opening bracket but
its first two, none starts inside another one, and the scan gives the same as a look at every
position of the text: each occurrence once, in order. So the uuids that are collected from records
are those between double brackets anywhere in their text fields, after partial markers, behind more
brackets and right behind each other.
-/

namespace FilterQuery.Reference

/-! ## The shape of a uuid -/

/-- So many digits of a lower-case hexadecimal number. -/
structure IsHexRow (width : Nat) (cs : List Char) : Prop where
  length_eq : cs.length = width
  isHexDigit : ∀ c ∈ cs, isHexDigit c = true

/-- Rows of eight, three times four and twelve hexadecimal digits with dashes between them. -/
inductive IsCanonical : List Char → Prop
  | rows {first second third fourth fifth : List Char} (hfirst : IsHexRow 8 first)
      (hsecond : IsHexRow 4 second) (hthird : IsHexRow 4 third) (hfourth : IsHexRow 4 fourth)
      (hfifth : IsHexRow 12 fifth) :
      IsCanonical (first ++ '-' :: (second ++ '-' :: (third ++ '-' :: (fourth ++ '-' :: fifth))))

/-- Whether a character may stand at a position of a uuid. -/
def fits (c : Char) (position : Nat) : Bool :=
  if position ∈ dashPositions then c == '-' else isHexDigit c

/-- Whether the characters may stand at the positions from a given one on. -/
def FitsFrom (start : Nat) (cs : List Char) : Prop :=
  ∀ i (h : i < cs.length), fits cs[i] (start + i) = true

theorem isUuid_iff {cs : List Char} :
    isUuid cs = true ↔ cs.length = uuidLength ∧ FitsFrom 0 cs := by
  simp only [isUuid, Bool.and_eq_true, beq_iff_eq, List.all_eq_true, Prod.forall,
    List.mk_mem_zipIdx_iff_getElem?, List.getElem?_eq_some_iff, FitsFrom, Nat.zero_add]
  refine and_congr_right fun _ ↦ ⟨fun h i hi ↦ h _ i ⟨hi, rfl⟩, ?_⟩
  rintro h _ i ⟨hi, rfl⟩
  exact h i hi

/-- A row of a uuid, between two dashes or at an end. -/
theorem isHexRow_of_isUuid {cs : List Char} (h : isUuid cs = true) {start width : Nat}
    (hend : start + width ≤ uuidLength)
    (hrow : ∀ i ∈ dashPositions, i < start ∨ start + width ≤ i) :
    IsHexRow width ((cs.drop start).take width) := by
  obtain ⟨hlength, hfits⟩ := isUuid_iff.1 h
  constructor
  · rw [List.length_take, List.length_drop]
    omega
  · intro c hc
    obtain ⟨k, hk, rfl⟩ := List.getElem_of_mem hc
    rw [List.length_take, List.length_drop] at hk
    have hplain : start + k ∉ dashPositions := by
      intro hdash
      have hapart := hrow _ hdash
      omega
    have hfit := hfits (start + k) (by omega)
    rw [Nat.zero_add, fits, if_neg hplain] at hfit
    rwa [List.getElem_take, List.getElem_drop]

/-- A uuid goes on with a dash where it has one. -/
theorem drop_of_isUuid {cs : List Char} (h : isUuid cs = true) {start width : Nat}
    (hdash : start + width ∈ dashPositions) :
    cs.drop start = (cs.drop start).take width ++ '-' :: cs.drop (start + width + 1) := by
  obtain ⟨hlength, hfits⟩ := isUuid_iff.1 h
  have hinside : ∀ i ∈ dashPositions, i < uuidLength := by decide
  have hlt : start + width < cs.length := hlength ▸ hinside _ hdash
  have hfit := hfits _ hlt
  rw [Nat.zero_add, fits, if_pos hdash] at hfit
  calc cs.drop start
    _ = (cs.drop start).take width ++ cs.drop (start + width) := by
      rw [← List.drop_drop, List.take_append_drop]
    _ = _ := by rw [List.drop_eq_getElem_cons hlt, beq_iff_eq.1 hfit]

theorem isCanonical_of_isUuid {cs : List Char} (h : isUuid cs = true) : IsCanonical cs := by
  have hlast : (cs.drop 24).take 12 = cs.drop 24 :=
    List.take_of_length_le (by rw [List.length_drop, length_of_isUuid h]; decide)
  have hrows : cs = (cs.drop 0).take 8 ++ '-' :: ((cs.drop 9).take 4 ++ '-' ::
      ((cs.drop 14).take 4 ++ '-' :: ((cs.drop 19).take 4 ++ '-' :: (cs.drop 24).take 12))) := by
    rw [hlast, ← drop_of_isUuid h (by decide : 19 + 4 ∈ dashPositions),
      ← drop_of_isUuid h (by decide : 14 + 4 ∈ dashPositions),
      ← drop_of_isUuid h (by decide : 9 + 4 ∈ dashPositions),
      ← drop_of_isUuid h (by decide : 0 + 8 ∈ dashPositions), List.drop_zero]
  rw [hrows]
  exact .rows (isHexRow_of_isUuid h (by decide) (by decide))
    (isHexRow_of_isUuid h (by decide) (by decide)) (isHexRow_of_isUuid h (by decide) (by decide))
    (isHexRow_of_isUuid h (by decide) (by decide)) (isHexRow_of_isUuid h (by decide) (by decide))

theorem FitsFrom.append {start : Nat} {cs ds : List Char} (h : FitsFrom start cs)
    (h' : FitsFrom (start + cs.length) ds) : FitsFrom start (cs ++ ds) := by
  intro i hi
  rw [List.getElem_append]
  split
  case isTrue hlt => exact h i hlt
  case isFalse hge =>
    rw [List.length_append] at hi
    have hfit := h' (i - cs.length) (by omega)
    have hposition : start + cs.length + (i - cs.length) = start + i := by omega
    rwa [hposition] at hfit

theorem FitsFrom.dash {start : Nat} (hdash : start ∈ dashPositions) {cs : List Char}
    (h : FitsFrom (start + 1) cs) : FitsFrom start ('-' :: cs) := by
  intro i hi
  cases i with
  | zero => simp [fits, hdash]
  | succ i =>
    have hposition : start + (i + 1) = start + 1 + i := by omega
    rw [List.getElem_cons_succ, hposition]
    exact h i (Nat.lt_of_succ_lt_succ hi)

theorem IsHexRow.fitsFrom {start width : Nat} {cs : List Char} (h : IsHexRow width cs)
    (hrow : ∀ i ∈ dashPositions, i < start ∨ start + width ≤ i) : FitsFrom start cs := by
  intro i hi
  have hplain : start + i ∉ dashPositions := by
    intro hdash
    have hapart := hrow _ hdash
    rw [h.length_eq] at hi
    omega
  rw [fits, if_neg hplain]
  exact h.isHexDigit _ (List.getElem_mem hi)

/-- The rows of a uuid and the dashes between them are checked position by position. -/
theorem isUuid_iff_isCanonical {cs : List Char} : isUuid cs = true ↔ IsCanonical cs := by
  refine ⟨isCanonical_of_isUuid, ?_⟩
  rintro ⟨hfirst, hsecond, hthird, hfourth, hfifth⟩
  refine isUuid_iff.2 ⟨?_, ?_⟩
  · simp only [List.length_append, List.length_cons, hfirst.length_eq, hsecond.length_eq,
      hthird.length_eq, hfourth.length_eq, hfifth.length_eq]
    decide
  · refine (hfirst.fitsFrom (by decide)).append ?_
    rw [hfirst.length_eq]
    refine .dash (by decide) ((hsecond.fitsFrom (by decide)).append ?_)
    rw [hsecond.length_eq]
    refine .dash (by decide) ((hthird.fitsFrom (by decide)).append ?_)
    rw [hthird.length_eq]
    refine .dash (by decide) ((hfourth.fitsFrom (by decide)).append ?_)
    rw [hfourth.length_eq]
    exact .dash (by decide) (hfifth.fitsFrom (by decide))

/-! ## Every occurrence -/

/-- Positions where no reference starts may be passed over. -/
theorem filterMap_tails_of_none {cs : List Char} {n : Nat}
    (h : ∀ i < n, uuidAt? (cs.drop i) = none) :
    cs.tails.filterMap uuidAt? = (cs.drop n).tails.filterMap uuidAt? := by
  induction n generalizing cs with
  | zero => rfl
  | succ n ih =>
    cases cs with
    | nil => rfl
    | cons c cs =>
      have hfirst : uuidAt? (c :: cs) = none := h 0 (Nat.succ_pos n)
      rw [List.tails_cons, List.filterMap_cons_none hfirst, List.drop_succ_cons]
      exact ih fun i hi ↦ h (i + 1) (Nat.succ_lt_succ hi)

/-- The scan gives what a look at every position gives. -/
theorem filterMap_pieces (cs : List Char) :
    (pieces cs).filterMap Piece.uuid? = (cs.tails.filterMap uuidAt?).map String.ofList := by
  fun_induction pieces cs with
  | case1 => decide
  | case2 c cs found h ih =>
    -- the reference that is found covers the positions up to its end
    have hinside : ∀ i < uuidLength + 3, uuidAt? (cs.drop i) = none :=
      fun i hi ↦ uuidAt?_drop_eq_none h (Nat.succ_pos i) (Nat.succ_lt_succ hi)
    have hfound : Piece.uuid? (.reference (String.ofList found)) = some (String.ofList found) := rfl
    rw [List.filterMap_cons_some hfound, ih, List.tails_cons, List.filterMap_cons_some h,
      filterMap_tails_of_none hinside, List.map_cons]
  | case3 c cs h ih =>
    have hnone : Piece.uuid? (.character c) = none := rfl
    rw [List.filterMap_cons_none hnone, ih, List.tails_cons, List.filterMap_cons_none h]

/-- A uuid is found as often as its marker starts at some position. -/
theorem count_uuids {uuid : String} (h : IsCanonical uuid.toList) (text : String) :
    (uuids text).count uuid = text.toList.tails.countP (marker uuid.toList).isPrefixOf := by
  have hstarts (rest : List Char) : (uuidAt? rest == some uuid.toList) = true ↔
      (marker uuid.toList).isPrefixOf rest = true := by
    rw [beq_iff_eq, uuidAt?_eq_some_iff, isUuid_iff_isCanonical, List.isPrefixOf_iff_prefix]
    exact and_iff_right h
  calc (uuids text).count uuid
    _ = ((text.toList.tails.filterMap uuidAt?).map String.ofList).count
        (String.ofList uuid.toList) := by rw [uuids, filterMap_pieces, String.ofList_toList]
    _ = (text.toList.tails.filterMap uuidAt?).count uuid.toList :=
      List.count_map_of_injective _ _ (fun _ _ ↦ String.ofList_injective) _
    _ = text.toList.tails.countP (uuidAt? · == some uuid.toList) := List.count_filterMap
    _ = _ := List.countP_congr fun rest _ ↦ hstarts rest

/-- The uuids that are collected from records, in ascending order and each once, are those of the
canonical shape that stand between double brackets anywhere in a text field. The scan finds each of
them as often as it occurs. -/
theorem collect_misses_no_reference (field : String) (records : List Record) :
    (collect field records).Pairwise (· < ·) ∧
    (∀ uuid, uuid ∈ collect field records ↔ ∃ record ∈ records, ∃ text,
      record.lookup field = some (.string text) ∧ IsCanonical uuid.toList ∧
        marker uuid.toList <:+: text.toList) ∧
    ∀ text uuid : String, IsCanonical uuid.toList →
      (uuids text).count uuid = text.toList.tails.countP (marker uuid.toList).isPrefixOf := by
  refine ⟨pairwise_collect field records, fun uuid ↦ ?_, fun text uuid h ↦ count_uuids h text⟩
  rw [mem_collect_iff, IsReferenced, isUuid_iff_isCanonical]

/-- Markers behind a partial one, behind another bracket and right behind each other are found, and
one in capitals is not. -/
theorem collect_misses_no_reference_of_adjacent_markers :
    let uuid := "0a1b2c3d-0000-4000-8000-000000000001"
    let capitals := "0A1B2C3D-0000-4000-8000-000000000001"
    let text := "[[0a1b2c3d-[[[" ++ uuid ++ "]][[" ++ uuid ++ "]]] [[" ++ capitals ++ "]]"
    let records : List Record := [[("block/title", .string text)], [("block/title", .null)]]
    IsCanonical uuid.toList ∧ (uuids text).count uuid = 2 ∧
      uuid ∈ collect "block/title" records := by
  intro uuid capitals text records
  have hcanonical : IsCanonical uuid.toList := isUuid_iff_isCanonical.1 (by decide +kernel)
  obtain ⟨-, hmem, hcount⟩ := collect_misses_no_reference "block/title" records
  refine ⟨hcanonical, ?_, ?_⟩
  · rw [hcount text uuid hcanonical]
    decide +kernel
  · refine (hmem uuid).2 ⟨_, List.mem_cons_self, text, rfl, hcanonical, ?_⟩
    decide +kernel

end FilterQuery.Reference
