import FilterQuery.Reference.Marker
import Mathlib.Data.List.Basic

/-!
# The occurrences of references

A reference occurs at a position of a text where its marker starts. Markers do not overlap, so the
scan from left to right passes every occurrence, and putting titles in place of uuids comes down to
what becomes of each position on its own.
-/

namespace FilterQuery.Reference

/-- How many characters a reference takes. -/
def markerLength : Nat := uuidLength + 4

/-- The title of the reference that starts at a position, if it has one. -/
def titleAt? (title? : String → Option String) (cs : List Char) (i : Nat) : Option String :=
  (uuidAt? (cs.drop i)).bind fun uuid ↦ title? (String.ofList uuid)

/-- Whether a reference with a title starts before a position and goes on there. -/
def IsCovered (title? : String → Option String) (cs : List Char) (i : Nat) : Prop :=
  ∃ j < i, i < j + markerLength ∧ (titleAt? title? cs j).isSome

instance (title? : String → Option String) (cs : List Char) (i : Nat) :
    Decidable (IsCovered title? cs i) :=
  inferInstanceAs (Decidable (∃ j < i, _))

/-- What stands in a rewritten text for a position: a marker with the title, where a reference that
has one starts; nothing, where such a reference goes on; and the character otherwise. -/
def edit (title? : String → Option String) (cs : List Char) (i : Nat) : List Char :=
  match titleAt? title? cs i with
  | some title => marker title.toList
  | none => if IsCovered title? cs i then [] else cs[i]?.toList

/-- A text with all of its positions edited. -/
def edited (title? : String → Option String) (text : String) : String :=
  String.ofList ((List.range text.toList.length).flatMap (edit title? text.toList))

/-! ## Markers do not overlap -/

theorem length_of_isUuid {uuid : List Char} (h : isUuid uuid = true) :
    uuid.length = uuidLength := by
  simp only [isUuid, Bool.and_eq_true, beq_iff_eq] at h
  exact h.1

theorem notMem_of_isUuid {uuid : List Char} (h : isUuid uuid = true) {c : Char}
    (hhex : isHexDigit c = false) (hdash : c ≠ '-') : c ∉ uuid := by
  simp only [isUuid, Bool.and_eq_true, List.all_eq_true] at h
  intro hmem
  obtain ⟨position, hget⟩ := List.mem_iff_getElem?.1 hmem
  have hclass := h.2 (c, position) (List.mk_mem_zipIdx_iff_getElem?.2 hget)
  simp only at hclass
  split at hclass
  · exact hdash (beq_iff_eq.1 hclass)
  · rw [hhex] at hclass
    cases hclass

theorem bracket_notMem_of_isUuid {uuid : List Char} (h : isUuid uuid = true) : '[' ∉ uuid :=
  notMem_of_isUuid h (by decide) (by decide)

/-- A reference occurs where the marker of a uuid starts. -/
theorem uuidAt?_eq_some_iff {cs uuid : List Char} :
    uuidAt? cs = some uuid ↔ isUuid uuid = true ∧ marker uuid <+: cs := by
  unfold uuidAt?
  constructor
  · intro h
    simp only [Option.ite_none_right_eq_some, Bool.and_eq_true, beq_iff_eq, Option.some.injEq] at h
    obtain ⟨⟨huuid, hmarker⟩, rfl⟩ := h
    refine ⟨huuid, ?_⟩
    rw [← hmarker]
    exact List.take_prefix _ _
  · rintro ⟨huuid, rest, rfl⟩
    have hlength := length_of_isUuid huuid
    have htake : (marker uuid ++ rest).take (uuidLength + 4) = marker uuid :=
      List.take_left' (by simp [marker, hlength])
    have hinside : ((marker uuid ++ rest).drop 2).take uuidLength = uuid := by
      have hdrop : (marker uuid ++ rest).drop 2 = uuid ++ ([']', ']'] ++ rest) := by simp [marker]
      rw [hdrop, List.take_left' hlength]
    simp only [hinside, htake, huuid, beq_self_eq_true, Bool.and_self, if_pos]

/-- Behind its first two characters a marker holds no opening bracket. -/
theorem getElem?_ne_bracket {cs uuid : List Char} (h : uuidAt? cs = some uuid) {i : Nat}
    (hlow : 2 ≤ i) (hhigh : i < markerLength) : cs[i]? ≠ some '[' := by
  obtain ⟨huuid, rest, rfl⟩ := uuidAt?_eq_some_iff.1 h
  have hlength := length_of_isUuid huuid
  obtain ⟨k, rfl⟩ := Nat.exists_eq_add_of_le' hlow
  have hget : (marker uuid ++ rest)[k + 2]? = (uuid ++ [']', ']'])[k]? := by
    have hk : k < (uuid ++ [']', ']']).length := by
      simp only [List.length_append, hlength, List.length_cons, List.length_nil]
      unfold markerLength at hhigh
      omega
    rw [marker, List.cons_append, List.cons_append, List.getElem?_cons_succ,
      List.getElem?_cons_succ, List.getElem?_append_left hk]
  rw [hget]
  intro hbracket
  rcases List.mem_append.1 (List.mem_of_getElem? hbracket) with hmem | hmem
  · exact bracket_notMem_of_isUuid huuid hmem
  · exact absurd hmem (by decide)

theorem getElem?_of_uuidAt? {cs uuid : List Char} (h : uuidAt? cs = some uuid) :
    cs[0]? = some '[' ∧ cs[1]? = some '[' := by
  obtain ⟨-, rest, rfl⟩ := uuidAt?_eq_some_iff.1 h
  exact ⟨rfl, rfl⟩

/-- No reference starts inside another one. -/
theorem uuidAt?_drop_eq_none {cs uuid : List Char} (h : uuidAt? cs = some uuid) {j : Nat}
    (hlow : 0 < j) (hhigh : j < markerLength) : uuidAt? (cs.drop j) = none := by
  cases hother : uuidAt? (cs.drop j) with
  | none => rfl
  | some other =>
    obtain ⟨hzero, hone⟩ := getElem?_of_uuidAt? hother
    rw [List.getElem?_drop] at hzero hone
    by_cases hj : j = 1
    · subst hj
      exact absurd hone (getElem?_ne_bracket h (Nat.le_refl 2) (by decide))
    · exact absurd hzero (getElem?_ne_bracket h (by omega) hhigh)

/-! ## The scan passes every occurrence -/

section

variable {title? : String → Option String}

theorem titleAt?_of_none {cs : List Char} {i : Nat} (h : uuidAt? (cs.drop i) = none) :
    titleAt? title? cs i = none := by
  rw [titleAt?, h, Option.bind_none]

theorem titleAt?_of_some {cs uuid : List Char} {i : Nat} (h : uuidAt? (cs.drop i) = some uuid) :
    titleAt? title? cs i = title? (String.ofList uuid) := by
  rw [titleAt?, h, Option.bind_some]

theorem edit_of_some {cs : List Char} {i : Nat} {title : String}
    (h : titleAt? title? cs i = some title) : edit title? cs i = marker title.toList := by
  rw [edit, h]

theorem edit_of_none {cs : List Char} {i : Nat} (h : titleAt? title? cs i = none) :
    edit title? cs i = if IsCovered title? cs i then [] else cs[i]?.toList := by
  rw [edit, h]

/-- What stands for a position follows from its title, its cover and its character. -/
theorem edit_eq_edit {title?' : String → Option String} {cs cs' : List Char} {i i' : Nat}
    (htitle : titleAt? title? cs i = titleAt? title?' cs' i')
    (hcovered : IsCovered title? cs i ↔ IsCovered title?' cs' i') (hget : cs[i]? = cs'[i']?) :
    edit title? cs i = edit title?' cs' i' := by
  cases h : titleAt? title?' cs' i' with
  | some title => rw [edit_of_some (htitle.trans h), edit_of_some h]
  | none => simp only [edit_of_none (htitle.trans h), edit_of_none h, hcovered, hget]

theorem edit_cons_zero {c : Char} {cs : List Char} (h : uuidAt? (c :: cs) = none) :
    edit title? (c :: cs) 0 = [c] := by
  have htitle : titleAt? title? (c :: cs) 0 = none := titleAt?_of_none h
  have hcovered : ¬IsCovered title? (c :: cs) 0 := by
    rintro ⟨j, hj, -⟩
    exact Nat.not_lt_zero j hj
  rw [edit_of_none htitle, if_neg hcovered]
  rfl

/-- Behind a character that starts no reference, the rest is edited as it is alone. -/
theorem edit_cons_succ {c : Char} {cs : List Char} (h : uuidAt? (c :: cs) = none) (i : Nat) :
    edit title? (c :: cs) (i + 1) = edit title? cs i := by
  have hcovered : IsCovered title? (c :: cs) (i + 1) ↔ IsCovered title? cs i := by
    constructor
    · rintro ⟨j, hj, hin, hsome⟩
      cases j with
      | zero =>
        have hfirst : titleAt? title? (c :: cs) 0 = none := titleAt?_of_none h
        rw [hfirst] at hsome
        cases hsome
      | succ j => exact ⟨j, by omega, by omega, hsome⟩
    · rintro ⟨j, hj, hin, hsome⟩
      exact ⟨j + 1, by omega, by omega, hsome⟩
  exact edit_eq_edit rfl hcovered List.getElem?_cons_succ

/-- Behind a reference, the rest is edited as it is alone. -/
theorem edit_add_markerLength {cs uuid : List Char} (h : uuidAt? cs = some uuid) (i : Nat) :
    edit title? cs (markerLength + i) = edit title? (cs.drop markerLength) i := by
  have htitle : ∀ j, titleAt? title? cs (markerLength + j) =
      titleAt? title? (cs.drop markerLength) j := by
    intro j
    rw [titleAt?, titleAt?, List.drop_drop]
  have hcovered : IsCovered title? cs (markerLength + i) ↔
      IsCovered title? (cs.drop markerLength) i := by
    constructor
    · rintro ⟨j, hj, hin, hsome⟩
      by_cases hinside : j < markerLength
      · -- only the reference at the start could reach over, and it does not
        have hpositive : 0 < j := by omega
        rw [titleAt?_of_none (uuidAt?_drop_eq_none h hpositive hinside)] at hsome
        cases hsome
      · obtain ⟨k, rfl⟩ := Nat.exists_eq_add_of_le (Nat.le_of_not_lt hinside)
        rw [htitle] at hsome
        exact ⟨k, by omega, by omega, hsome⟩
    · rintro ⟨j, hj, hin, hsome⟩
      exact ⟨markerLength + j, by omega, by omega, by rwa [htitle]⟩
  exact edit_eq_edit (htitle i) hcovered List.getElem?_drop.symm

theorem flatMap_getElem?_range (cs : List Char) (n : Nat) :
    (List.range n).flatMap (fun i ↦ cs[i]?.toList) = cs.take n := by
  induction n with
  | zero => simp
  | succ n ih => rw [List.range_succ, List.flatMap_append, ih, List.flatMap_singleton,
      List.take_add_one]

/-- The positions of a reference together become the reference with its title. -/
theorem flatMap_edit_marker {cs uuid : List Char} (h : uuidAt? cs = some uuid) :
    (List.range markerLength).flatMap (edit title? cs) =
      Piece.render title? (.reference (String.ofList uuid)) := by
  have hzero : titleAt? title? cs 0 = title? (String.ofList uuid) := titleAt?_of_some h
  have hinside : ∀ i, 0 < i → i < markerLength → titleAt? title? cs i = none :=
    fun i hlow hhigh ↦ titleAt?_of_none (uuidAt?_drop_eq_none h hlow hhigh)
  cases htitle : title? (String.ofList uuid) with
  | some title =>
    have hstart : edit title? cs 0 = marker title.toList := edit_of_some (hzero.trans htitle)
    have hrest : (List.range 39).flatMap (fun i ↦ edit title? cs (i + 1)) = [] := by
      rw [List.flatMap_eq_nil_iff]
      intro i hi
      have hlt : i + 1 < markerLength := Nat.succ_lt_succ (List.mem_range.1 hi)
      have hcovered : IsCovered title? cs (i + 1) :=
        ⟨0, Nat.succ_pos i, by omega, by rw [hzero, htitle]; rfl⟩
      rw [edit_of_none (hinside (i + 1) (Nat.succ_pos i) hlt), if_pos hcovered]
    have hlength : markerLength = 39 + 1 := rfl
    calc (List.range markerLength).flatMap (edit title? cs)
      _ = edit title? cs 0 ++ (List.range 39).flatMap (fun i ↦ edit title? cs (i + 1)) := by
        rw [hlength, List.range_succ_eq_map, List.flatMap_cons, List.flatMap_map]
      _ = marker title.toList := by rw [hstart, hrest, List.append_nil]
      _ = _ := by rw [Piece.render, htitle, Option.getD_some]
  | none =>
    have hnone : ∀ i < markerLength, titleAt? title? cs i = none := by
      intro i hi
      cases i with
      | zero => rw [hzero, htitle]
      | succ i => exact hinside (i + 1) (Nat.succ_pos i) hi
    have hedit : ∀ i ∈ List.range markerLength, edit title? cs i = cs[i]?.toList := by
      intro i hi
      have hlt := List.mem_range.1 hi
      have hcovered : ¬IsCovered title? cs i := by
        rintro ⟨j, hj, -, hsome⟩
        rw [hnone j (Nat.lt_trans hj hlt)] at hsome
        cases hsome
      rw [edit_of_none (hnone i hlt), if_neg hcovered]
    obtain ⟨huuid, hprefix⟩ := uuidAt?_eq_some_iff.1 h
    have hmarker : (marker uuid).length = markerLength := by
      simp [marker, length_of_isUuid huuid, markerLength]
    calc (List.range markerLength).flatMap (edit title? cs)
      _ = cs.take markerLength := by rw [List.flatMap_congr hedit, flatMap_getElem?_range]
      _ = marker uuid := by rw [← hmarker, ← List.prefix_iff_eq_take.1 hprefix]
      _ = _ := by rw [Piece.render, htitle, Option.getD_none, String.toList_ofList]

/-- What the scan writes for a text is what becomes of its positions. -/
theorem flatMap_render_pieces (cs : List Char) :
    (pieces cs).flatMap (Piece.render title?) =
      (List.range cs.length).flatMap (edit title? cs) := by
  fun_induction pieces cs with
  | case1 => rfl
  | case2 c cs uuid h ih =>
    have hlength : (c :: cs).length = markerLength + (cs.drop (uuidLength + 3)).length := by
      obtain ⟨huuid, hprefix⟩ := uuidAt?_eq_some_iff.1 h
      have hle := hprefix.length_le
      simp only [marker, length_of_isUuid huuid, List.length_cons, List.length_append,
        List.length_drop, List.length_nil, markerLength] at hle ⊢
      omega
    have hdrop : (c :: cs).drop markerLength = cs.drop (uuidLength + 3) := rfl
    calc
      _ = (List.range markerLength).flatMap (edit title? (c :: cs)) ++
          (List.range (cs.drop (uuidLength + 3)).length).flatMap fun i ↦
            edit title? (c :: cs) (markerLength + i) := by
        rw [List.flatMap_cons, ih, flatMap_edit_marker h]
        simp only [edit_add_markerLength h, hdrop]
      _ = (List.range (c :: cs).length).flatMap (edit title? (c :: cs)) := by
        rw [hlength, List.range_add, List.flatMap_append, List.flatMap_map]
  | case3 c cs h ih =>
    calc
      _ = edit title? (c :: cs) 0 ++
          (List.range cs.length).flatMap fun i ↦ edit title? (c :: cs) (i + 1) := by
        rw [List.flatMap_cons, ih, edit_cons_zero h]
        simp only [edit_cons_succ h]
        rfl
      _ = (List.range (c :: cs).length).flatMap (edit title? (c :: cs)) := by
        rw [List.length_cons, List.range_succ_eq_map, List.flatMap_cons, List.flatMap_map]

/-- Putting titles in place of uuids edits every position of a text. -/
theorem withTitles_eq_edited (text : String) : withTitles title? text = edited title? text := by
  rw [withTitles, flatMap_render_pieces, edited]

end

end FilterQuery.Reference
