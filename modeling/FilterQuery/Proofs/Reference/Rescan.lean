import FilterQuery.Proofs.Reference.Collecting

/-!
# Scanning a rewritten text

A marker holds opening brackets at its start and closing ones at its end, and nowhere else. So none
goes on behind two closing brackets, and none that starts before two opening brackets goes on behind
them. A text in which titles have taken the place of uuids is therefore scanned piece by piece: the
references in it are those inside of the markers that were put in, and those that were left.
-/

namespace FilterQuery.Reference

/-! ## Markers -/

theorem closing_notMem_of_isUuid {uuid : List Char} (h : isUuid uuid = true) : ']' ∉ uuid :=
  notMem_of_isUuid h (by decide) (by decide)

theorem length_marker {uuid : List Char} (h : isUuid uuid = true) :
    (marker uuid).length = markerLength := by
  simp [marker, length_of_isUuid h, markerLength]

theorem length_le_of_uuidAt? {cs uuid : List Char} (h : uuidAt? cs = some uuid) :
    markerLength ≤ cs.length := by
  obtain ⟨huuid, hprefix⟩ := uuidAt?_eq_some_iff.1 h
  rw [← length_marker huuid]
  exact hprefix.length_le

/-- A reference is its marker, and the rest stands behind it. -/
theorem eq_marker_append {cs uuid : List Char} (h : uuidAt? cs = some uuid) :
    cs = marker uuid ++ cs.drop markerLength := by
  obtain ⟨huuid, rest, rfl⟩ := uuidAt?_eq_some_iff.1 h
  rw [List.drop_left' (length_marker huuid)]

theorem uuidAt?_append {cs uuid : List Char} (h : uuidAt? cs = some uuid) (rest : List Char) :
    uuidAt? (cs ++ rest) = some uuid := by
  obtain ⟨huuid, hprefix⟩ := uuidAt?_eq_some_iff.1 h
  exact uuidAt?_eq_some_iff.2 ⟨huuid, hprefix.trans (List.prefix_append cs rest)⟩

theorem uuidAt?_of_append {cs rest uuid : List Char} (h : uuidAt? (cs ++ rest) = some uuid)
    (hlength : markerLength ≤ cs.length) : uuidAt? cs = some uuid := by
  obtain ⟨huuid, hprefix⟩ := uuidAt?_eq_some_iff.1 h
  refine uuidAt?_eq_some_iff.2 ⟨huuid, ?_⟩
  exact List.prefix_of_prefix_length_le hprefix (List.prefix_append cs rest)
    (length_marker huuid ▸ hlength)

/-- Before its last two characters a marker holds no closing bracket. -/
theorem getElem?_ne_closing {cs uuid : List Char} (h : uuidAt? cs = some uuid) {i : Nat}
    (hi : i + 2 < markerLength) : cs[i]? ≠ some ']' := by
  obtain ⟨huuid, rest, rfl⟩ := uuidAt?_eq_some_iff.1 h
  have hlength : ('[' :: '[' :: uuid).length + 2 = markerLength := by
    simp [length_of_isUuid huuid, markerLength]
  have hsplit : marker uuid ++ rest = ('[' :: '[' :: uuid) ++ (']' :: ']' :: rest) := by
    simp [marker]
  rw [hsplit, List.getElem?_append_left (by omega)]
  intro hclosing
  have hmem : ']' ∈ '[' :: '[' :: uuid := List.mem_of_getElem? hclosing
  simp [closing_notMem_of_isUuid huuid] at hmem

/-! ## Borders -/

/-- No reference goes on from one text into the other. -/
def Apart (cs rest : List Char) : Prop :=
  ∀ i < cs.length, (uuidAt? ((cs ++ rest).drop i)).isSome → i + markerLength ≤ cs.length

/-- Two closing brackets end every reference. -/
theorem apart_of_closed {cs : List Char} (h : [']', ']'] <:+ cs) (rest : List Char) :
    Apart cs rest := by
  obtain ⟨front, rfl⟩ := h
  intro i hi hsome
  obtain ⟨uuid, huuid⟩ := Option.isSome_iff_exists.1 hsome
  have hlength : (front ++ [']', ']']).length = front.length + 2 := by simp
  have hclosing {k : Nat} (hk : i + k = front.length ∨ i + k = front.length + 1) :
      ((front ++ [']', ']'] ++ rest).drop i)[k]? = some ']' := by
    rw [List.getElem?_drop, List.append_assoc]
    rcases hk with hk | hk <;> rw [hk, List.getElem?_append_right (by omega)] <;> simp
  by_contra hgoes
  by_cases hinside : i ≤ front.length
  · -- the first closing bracket stands inside the marker, before its end
    exact getElem?_ne_closing huuid (by omega) (hclosing (.inl (Nat.add_sub_cancel' hinside)))
  · have hlast : i + 0 = front.length + 1 := by omega
    exact getElem?_ne_closing huuid (by decide) (hclosing (.inr hlast))

theorem Apart.tail {c : Char} {cs rest : List Char} (h : Apart (c :: cs) rest) :
    Apart cs rest := by
  intro i hi hsome
  have hle := h (i + 1) (Nat.succ_lt_succ hi) hsome
  rw [List.length_cons] at hle
  omega

theorem Apart.drop {cs rest : List Char} (h : Apart cs rest) {n : Nat} (hn : n ≤ cs.length) :
    Apart (cs.drop n) rest := by
  intro i hi hsome
  rw [List.length_drop] at hi ⊢
  rw [← List.drop_append_of_le_length hn, List.drop_drop] at hsome
  have hle := h (n + i) (by omega) hsome
  omega

theorem pieces_nil : pieces [] = [] := by rw [pieces]

theorem pieces_of_reference {cs uuid : List Char} (h : uuidAt? cs = some uuid) :
    pieces cs = .reference (String.ofList uuid) :: pieces (cs.drop markerLength) := by
  cases cs with
  | nil => exact absurd (length_le_of_uuidAt? h) (by decide)
  | cons c cs =>
    rw [pieces, h]
    rfl

theorem pieces_of_character {c : Char} {cs : List Char} (h : uuidAt? (c :: cs) = none) :
    pieces (c :: cs) = .character c :: pieces cs := by
  rw [pieces, h]

/-- Texts that no reference goes across are scanned one after the other. -/
theorem pieces_append {cs rest : List Char} (h : Apart cs rest) :
    pieces (cs ++ rest) = pieces cs ++ pieces rest := by
  fun_induction pieces cs with
  | case1 => rfl
  | case2 c cs uuid huuid ih =>
    have hlength := length_le_of_uuidAt? huuid
    have hrest := ih (h.drop hlength)
    rw [pieces_of_reference (uuidAt?_append huuid rest),
      List.drop_append_of_le_length hlength, List.cons_append]
    exact congrArg _ hrest
  | case3 c cs hnone ih =>
    have hwhole : uuidAt? (c :: (cs ++ rest)) = none := by
      cases hcase : uuidAt? (c :: (cs ++ rest)) with
      | none => rfl
      | some uuid =>
        have hlength := h 0 (Nat.succ_pos _) (by simp [hcase])
        rw [Nat.zero_add] at hlength
        have hstart : uuidAt? (c :: cs) = some uuid := uuidAt?_of_append hcase hlength
        rw [hnone] at hstart
        cases hstart
    rw [List.cons_append, pieces_of_character hwhole, ih h.tail, List.cons_append]

/-! ## Rewritten texts -/

section

variable {title? : String → Option String}

/-- The characters of a text with titles in place of the uuids that have one. -/
def rendered (title? : String → Option String) (cs : List Char) : List Char :=
  (pieces cs).flatMap (Piece.render title?)

theorem rendered_nil : rendered title? [] = [] :=
  congrArg (List.flatMap (Piece.render title?)) pieces_nil

theorem rendered_of_reference {cs uuid : List Char} (h : uuidAt? cs = some uuid) :
    rendered title? cs =
      marker ((title? (String.ofList uuid)).getD (String.ofList uuid)).toList ++
        rendered title? (cs.drop markerLength) :=
  congrArg (List.flatMap (Piece.render title?)) (pieces_of_reference h)

theorem rendered_of_character {c : Char} {cs : List Char} (h : uuidAt? (c :: cs) = none) :
    rendered title? (c :: cs) = c :: rendered title? cs :=
  congrArg (List.flatMap (Piece.render title?)) (pieces_of_character h)

theorem rendered_append {cs rest : List Char} (h : Apart cs rest) :
    rendered title? (cs ++ rest) = rendered title? cs ++ rendered title? rest := by
  rw [rendered, pieces_append h, List.flatMap_append]
  rfl

/-- What stands in a rewritten text up to an opening bracket stood there before. -/
theorem prefix_of_prefix_rendered {front cs : List Char} (hfront : '[' ∉ front)
    (h : front <+: rendered title? cs) : front <+: cs := by
  induction cs generalizing front with
  | nil => rwa [rendered_nil] at h
  | cons c cs ih =>
    cases front with
    | nil => exact List.nil_prefix
    | cons d front =>
      rw [List.mem_cons, not_or] at hfront
      cases huuid : uuidAt? (c :: cs) with
      | some uuid =>
        rw [rendered_of_reference huuid] at h
        exact absurd (List.cons_prefix_cons.1 h).1.symm hfront.1
      | none =>
        rw [rendered_of_character huuid, List.cons_prefix_cons] at h
        exact List.cons_prefix_cons.2 ⟨h.1, ih hfront.2 h.2⟩

/-- Rewriting what follows a character does not make it start a reference. -/
theorem uuidAt?_cons_rendered {c : Char} {cs : List Char} (h : uuidAt? (c :: cs) = none) :
    uuidAt? (c :: rendered title? cs) = none := by
  cases hcase : uuidAt? (c :: rendered title? cs) with
  | none => rfl
  | some uuid =>
    obtain ⟨huuid, hprefix⟩ := uuidAt?_eq_some_iff.1 hcase
    obtain ⟨rfl, hrest⟩ := List.cons_prefix_cons.1 hprefix
    have hinside : '[' ∉ uuid ++ [']', ']'] := by
      simp [bracket_notMem_of_isUuid huuid]
    have hkept : '[' :: (uuid ++ [']', ']']) <+: cs := by
      cases cs with
      | nil => rwa [rendered_nil] at hrest
      | cons d cs =>
        cases hnext : uuidAt? (d :: cs) with
        | some other =>
          -- then three opening brackets would stand in a row
          rw [rendered_of_reference hnext] at hcase
          exact absurd rfl (getElem?_ne_bracket hcase (Nat.le_refl 2) (by decide))
        | none =>
          rw [rendered_of_character hnext, List.cons_prefix_cons] at hrest
          exact List.cons_prefix_cons.2 ⟨hrest.1, prefix_of_prefix_rendered hinside hrest.2⟩
    have hstart : uuidAt? ('[' :: cs) = some uuid :=
      uuidAt?_eq_some_iff.2 ⟨huuid, List.cons_prefix_cons.2 ⟨rfl, hkept⟩⟩
    rw [h] at hstart
    cases hstart

/-- The uuids that are referred to where a reference to a uuid stood. -/
def remains (title? : String → Option String) (uuid : String) : List String :=
  match title? uuid with
  | some title => uuids (String.ofList (marker title.toList))
  | none => [uuid]

theorem uuids_marker {uuid : List Char} (h : isUuid uuid = true) :
    (pieces (marker uuid)).filterMap Piece.uuid? = [String.ofList uuid] := by
  have hstart : uuidAt? (marker uuid) = some uuid :=
    uuidAt?_eq_some_iff.2 ⟨h, List.prefix_rfl⟩
  have hrest : (marker uuid).drop markerLength = [] := by
    rw [← length_marker h, List.drop_length]
  rw [pieces_of_reference hstart, hrest, pieces_nil]
  rfl

theorem closed_marker (content : List Char) : [']', ']'] <:+ marker content :=
  ⟨'[' :: '[' :: content, rfl⟩

/-- The uuids of a rewritten text are, in order, those of what stands for each reference now. -/
theorem uuids_rendered (cs : List Char) :
    (pieces (rendered title? cs)).filterMap Piece.uuid? =
      ((pieces cs).filterMap Piece.uuid?).flatMap (remains title?) := by
  fun_induction pieces cs with
  | case1 =>
    rw [rendered_nil, pieces_nil]
    rfl
  | case2 c cs uuid huuid ih =>
    have hcontent : (pieces (marker ((title? (String.ofList uuid)).getD
        (String.ofList uuid)).toList)).filterMap Piece.uuid? =
          remains title? (String.ofList uuid) := by
      unfold remains
      cases title? (String.ofList uuid) with
      | some title =>
        show _ = uuids (String.ofList (marker title.toList))
        rw [uuids, String.toList_ofList]
        rfl
      | none =>
        rw [Option.getD_none, String.toList_ofList]
        exact uuids_marker (uuidAt?_eq_some_iff.1 huuid).1
    rw [rendered_of_reference huuid, pieces_append (apart_of_closed (closed_marker _) _),
      List.filterMap_append, hcontent]
    exact congrArg _ ih
  | case3 c cs hnone ih =>
    rw [rendered_of_character hnone, pieces_of_character (uuidAt?_cons_rendered hnone)]
    exact ih

theorem uuids_withTitles (text : String) :
    uuids (withTitles title? text) = (uuids text).flatMap (remains title?) := by
  rw [uuids, withTitles, String.toList_ofList]
  exact uuids_rendered text.toList

end

end FilterQuery.Reference
