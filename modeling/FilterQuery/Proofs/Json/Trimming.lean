import FilterQuery.Proofs.Json.Extent
import FilterQuery.Proofs.Text.FirstWord

/-!
# Blanks around a value

Lists, objects and whole values are taken from a text as strings and numbers are, by induction along
their items and by recursion on their depth. So a text that holds a value holds the same value when
the blanks around it are trimmed.
-/

namespace FilterQuery.Json.Reader

section

variable {α β : Type}

theorem Local.mono {good good' : List Char → Prop} {read : List Char → Except Stop (α × List Char)}
    (h : Local good read) (hgood : ∀ ⦃cs⦄, good cs → good' cs) : Local good' read := by
  intro cs a rest hread
  obtain ⟨used, hused, hcs, hagain⟩ := h hread
  exact ⟨used, hgood hused, hcs, hagain⟩

theorem local_word {letters : List Char} (h : Marks letters) (a : α) :
    Local Marks fun cs ↦ do return (a, ← word letters cs) := by
  intro cs b rest hread
  obtain ⟨tail, hword, ⟨⟩⟩ := exists_of_bind_eq_ok hread
  refine ⟨letters, h, word_eq_ok_iff.1 hword, fun ahead _ ↦ ?_⟩
  show (word letters (letters ++ ahead) >>= _) = _
  rw [word_eq_ok_iff.2 rfl]
  rfl

theorem Local.colon {next : List Char → Except Stop (α × List Char)} (h : Local Sound next) :
    Local Sound fun cs ↦ colon cs >>= next := by
  intro cs a rest hread
  obtain ⟨tail, hcolon, hnext⟩ := exists_of_bind_eq_ok hread
  unfold Reader.colon at hcolon
  split at hcolon
  · cases hcolon
  next c after hskip =>
    obtain ⟨gap, hgap, -, -, rfl, hagain⟩ := exists_of_skipBlanks hskip
    split_ifs at hcolon with hc
    cases hcolon
    subst hc
    obtain ⟨used, hused, rfl, hagain'⟩ := h hnext
    have hnone : '\x08' ∉ gap ++ [':'] := by simp [hgap]
    refine ⟨gap ++ [':'] ++ used, hused.append hnone, by simp, fun ahead hahead ↦ ?_⟩
    have hcolon : Reader.colon (gap ++ ':' :: (used ++ ahead)) = .ok (used ++ ahead) := by
      simp only [Reader.colon, hagain, if_true]
    rw [List.append_assoc, List.append_assoc, List.singleton_append]
    show (Reader.colon (gap ++ ':' :: (used ++ ahead)) >>= next) = _
    rw [hcolon]
    exact hagain' hahead

/-! ## Rows -/

/-- Items behind what `next` asks for, up to the closing bracket. -/
def row (next : Bool → List Char → Except Stop (Option (List Char)))
    (item : List Char → Except Stop (α × List Char)) (exhausted : Cause) :
    (fuel : Nat) → (isFirst : Bool) → List Char → Except Stop (List α × List Char)
  | 0, _, cs => .error (.here exhausted cs)
  | fuel + 1, isFirst, cs => do
    match ← next isFirst cs with
    | none => return ([], afterClosing cs)
    | some cs =>
      let (a, cs) ← item cs
      let (as, cs) ← row next item exhausted fuel false cs
      return (a :: as, cs)

theorem row_succ (next : Bool → List Char → Except Stop (Option (List Char)))
    (item : List Char → Except Stop (α × List Char)) (exhausted : Cause) (fuel : Nat)
    (isFirst : Bool) (cs : List Char) :
    row next item exhausted (fuel + 1) isFirst cs = (do
      match ← next isFirst cs with
      | none => return ([], afterClosing cs)
      | some cs =>
        let (a, cs) ← item cs
        let (as, cs) ← row next item exhausted fuel false cs
        return (a :: as, cs)) := rfl

/-- A member of an object, of which the quote before the name has been read. -/
def member (value : List Char → Except Stop (α × List Char)) (cs : List Char) :
    Except Stop ((String × α) × List Char) := do
  let (name, cs) ← string cs
  let cs ← colon cs
  let (a, cs) ← value cs
  return ((name, a), cs)

theorem items_eq_row (item : List Char → Except Stop (α × List Char)) (fuel : Nat)
    (isFirst : Bool) (cs : List Char) :
    items item fuel isFirst cs = row nextItem? item .endInList fuel isFirst cs := by
  induction fuel generalizing isFirst cs with
  | zero => rfl
  | succ fuel ih =>
    have hrest : items item fuel false = row nextItem? item .endInList fuel false :=
      funext fun cs ↦ ih false cs
    rw [row_succ, ← hrest]
    rfl

theorem members_eq_row (value : List Char → Except Stop (α × List Char)) (fuel : Nat)
    (isFirst : Bool) (cs : List Char) :
    members value fuel isFirst cs =
      row nextName? (member value) .endInObject fuel isFirst cs := by
  induction fuel generalizing isFirst cs with
  | zero => rfl
  | succ fuel ih =>
    have hrest : members value fuel false = row nextName? (member value) .endInObject fuel false :=
      funext fun cs ↦ ih false cs
    rw [row_succ, ← hrest]
    simp only [member, bind_assoc, pure_bind]
    rfl

theorem local_member {value : List Char → Except Stop (α × List Char)} (h : Local Sound value) :
    Local Sound (member value) := by
  have hrest (name : String) : Local Sound fun cs ↦ colon cs >>= fun cs ↦ do
      let (a, cs) ← value cs
      return ((name, a), cs) := (h.map fun a ↦ (name, a)).colon
  exact local_string.bind hrest fun _ _ hname hvalue ↦ hvalue.append hname.notMem

/-- What stands before an item, or closes the row, does not depend on what follows; before an item
it may depend on the character that the item starts with. -/
structure Separates (next : Bool → List Char → Except Stop (Option (List Char))) : Prop where
  ends {isFirst : Bool} {cs : List Char} : next isFirst cs = .ok none →
    ∃ used, Sound used ∧ cs = used ++ afterClosing cs ∧
      ∀ other, next isFirst (used ++ other) = .ok none ∧ afterClosing (used ++ other) = other
  goesOn {isFirst : Bool} {cs start : List Char} : next isFirst cs = .ok (some start) →
    ∃ gap, '\x08' ∉ gap ∧ cs = gap ++ start ∧
      ∀ other, other.head? = start.head? → next isFirst (gap ++ other) = .ok (some other)

/-- The items of a row; one unit of fuel for every character will do. -/
theorem exists_of_row {next : Bool → List Char → Except Stop (Option (List Char))}
    {item : List Char → Except Stop (α × List Char)} {exhausted : Cause} (hnext : Separates next)
    (hitem : Local Sound item) {fuel : Nat} {isFirst : Bool} {cs rest : List Char} {as : List α}
    (h : row next item exhausted fuel isFirst cs = .ok (as, rest)) :
    ∃ used, Sound used ∧ cs = used ++ rest ∧ ∀ ⦃ahead⦄, ahead <+: rest → ∀ enough,
      used.length ≤ enough →
        row next item exhausted enough isFirst (used ++ ahead) = .ok (as, ahead) := by
  induction fuel generalizing isFirst cs as rest with
  | zero => cases h
  | succ fuel ih =>
    obtain ⟨start, hstart, h⟩ := exists_of_bind_eq_ok h
    cases start with
    | none =>
      cases h
      obtain ⟨used, hused, hcs, hagain⟩ := hnext.ends hstart
      refine ⟨used, hused, hcs, fun ahead hahead enough hle ↦ ?_⟩
      have hpositive := List.length_pos_of_ne_nil hused.ne_nil
      obtain ⟨enough, rfl, -⟩ := exists_of_succ_le (hpositive.trans_le hle)
      obtain ⟨hend, hafter⟩ := hagain ahead
      rw [row_succ, hend]
      show Except.ok ([], afterClosing (used ++ ahead)) = _
      rw [hafter]
    | some start =>
      obtain ⟨⟨a, middle⟩, ha, h⟩ := exists_of_bind_eq_ok h
      obtain ⟨⟨others, last⟩, hothers, ⟨⟩⟩ := exists_of_bind_eq_ok h
      obtain ⟨gap, hgap, rfl, hagain⟩ := hnext.goesOn hstart
      obtain ⟨used, hused, rfl, hread⟩ := hitem ha
      obtain ⟨more, hmore, rfl, hrest⟩ := ih hothers
      have hnone : '\x08' ∉ gap ++ used := by
        rw [List.mem_append]
        exact not_or.2 ⟨hgap, hused.notMem⟩
      refine ⟨gap ++ used ++ more, hmore.append hnone, by simp, fun ahead hahead enough hle ↦ ?_⟩
      have hpositive := List.length_pos_of_ne_nil hused.ne_nil
      have hlength : more.length + 1 ≤ enough := by
        simp only [List.length_append] at hle
        omega
      obtain ⟨enough, rfl, hfuel⟩ := exists_of_succ_le hlength
      have hhead : (used ++ (more ++ ahead)).head? = (used ++ (more ++ rest)).head? := by
        rw [List.head?_append_of_ne_nil _ hused.ne_nil, List.head?_append_of_ne_nil _ hused.ne_nil]
      have ha' := hread ((List.prefix_append_right_inj more).2 hahead)
      rw [List.append_assoc, List.append_assoc, row_succ, hagain _ hhead]
      show (item (used ++ (more ++ ahead)) >>= _) = _
      rw [ha']
      show (row next item exhausted enough false (more ++ ahead) >>= _) = _
      rw [hrest hahead enough hfuel]
      rfl

end

/-! ## Lists and objects -/

theorem separates_nextItem? : Separates nextItem? where
  ends {isFirst cs} h := by
    unfold nextItem? at h
    split at h
    · cases h
    next c rest hskip =>
      obtain ⟨gap, hgap, -, -, hcs, hagain⟩ := exists_of_skipBlanks hskip
      split_ifs at h with hc hfirst hcomma
      · subst hc
        have hread (other : List Char) : skipBlanks (gap ++ [']'] ++ other) = ']' :: other := by
          simpa using hagain other
        refine ⟨gap ++ [']'], (Sound.of_mark (by decide)).append hgap, ?_, fun other ↦ ⟨?_, ?_⟩⟩
        · simp [afterClosing, hcs, hagain]
        · simp only [nextItem?, hread, if_true]
        · simp only [afterClosing, hread, List.drop_one, List.tail_cons]
      · cases h
      · split at h
        · cases h
        · split_ifs at h
          cases h
  goesOn {isFirst cs start} h := by
    unfold nextItem? at h
    split at h
    · cases h
    next c rest hskip =>
      obtain ⟨gap, hgap, -, -, hcs, hagain⟩ := exists_of_skipBlanks hskip
      split_ifs at h with hc hfirst hcomma
      · cases h
      · cases h
        refine ⟨gap, hgap, hcs, fun other hother ↦ ?_⟩
        obtain ⟨other, rfl⟩ : ∃ tail, other = c :: tail :=
          ⟨other.tail, List.eq_cons_of_mem_head? hother⟩
        simp only [nextItem?, hagain, if_neg hc, if_pos hfirst]
      · split at h
        · cases h
        next d after hskip' =>
          obtain ⟨gap', hgap', -, -, hrest, hagain'⟩ := exists_of_skipBlanks hskip'
          split_ifs at h with hd
          cases h
          subst hcomma
          refine ⟨gap ++ ',' :: gap', by simp [hgap, hgap'], by simp [hcs, hrest],
            fun other hother ↦ ?_⟩
          obtain ⟨other, rfl⟩ : ∃ tail, other = d :: tail :=
            ⟨other.tail, List.eq_cons_of_mem_head? hother⟩
          simp only [nextItem?, List.append_assoc, List.cons_append, hagain, if_neg hc,
            if_neg hfirst, if_true, hagain', if_neg hd]

theorem separates_nextName? : Separates nextName? where
  ends {isFirst cs} h := by
    unfold nextName? at h
    split at h
    · cases h
    next c rest hskip =>
      obtain ⟨gap, hgap, -, -, hcs, hagain⟩ := exists_of_skipBlanks hskip
      split_ifs at h with hc hfirst hquote hcomma
      · subst hc
        have hread (other : List Char) :
            skipBlanks (gap ++ ['\x7d'] ++ other) = '\x7d' :: other := by
          simpa using hagain other
        refine ⟨gap ++ ['\x7d'], (Sound.of_mark (by decide)).append hgap, ?_,
          fun other ↦ ⟨?_, ?_⟩⟩
        · simp [afterClosing, hcs, hagain]
        · simp only [nextName?, hread, if_true]
        · simp only [afterClosing, hread, List.drop_one, List.tail_cons]
      · cases h
      · split at h
        · cases h
        · split_ifs at h
          cases h
  goesOn {isFirst cs start} h := by
    unfold nextName? at h
    split at h
    · cases h
    next c rest hskip =>
      obtain ⟨gap, hgap, -, -, hcs, hagain⟩ := exists_of_skipBlanks hskip
      split_ifs at h with hc hfirst hquote hcomma
      · cases h
      · cases h
        subst hquote
        refine ⟨gap ++ ['"'], by simp [hgap], by simp [hcs], fun other _ ↦ ?_⟩
        simp only [nextName?, List.append_assoc, List.cons_append, List.nil_append, hagain,
          if_neg hc, if_pos hfirst, if_true]
      · split at h
        · cases h
        next d after hskip' =>
          obtain ⟨gap', hgap', -, -, hrest, hagain'⟩ := exists_of_skipBlanks hskip'
          split_ifs at h with hquote
          cases h
          subst hcomma
          subst hquote
          refine ⟨gap ++ ',' :: (gap' ++ ['"']), by simp [hgap, hgap'], by simp [hcs, hrest],
            fun other _ ↦ ?_⟩
          simp only [nextName?, List.append_assoc, List.cons_append, List.nil_append, hagain,
            if_neg hc, if_neg hfirst, if_true, hagain']

/-! ## Values -/

theorem skipBlanks_cons {c : Char} (h : isBlank c = false) (cs : List Char) :
    skipBlanks (c :: cs) = c :: cs := List.dropWhile_cons_of_neg (by simp [h])

theorem Local.cons {α : Type} {read : List Char → Except Stop (α × List Char)}
    (h : Local Sound read) (c : Char) :
    Local (fun cs ↦ Sound (c :: cs)) fun cs ↦ read (c :: cs) := by
  intro cs a rest hread
  obtain ⟨used, hused, hcs, hagain⟩ := h hread
  obtain ⟨d, used, rfl⟩ := List.exists_cons_of_ne_nil hused.ne_nil
  obtain ⟨rfl, rfl⟩ := List.cons.inj hcs
  exact ⟨used, hused, rfl, hagain⟩

/-- A row of items that has enough fuel for every text. -/
theorem local_row {α : Type} {next : Bool → List Char → Except Stop (Option (List Char))}
    {item : List Char → Except Stop (α × List Char)} (hnext : Separates next)
    (hitem : Local Sound item) (exhausted : Cause) :
    Local Sound fun cs ↦ row next item exhausted (cs.length + 1) true cs := by
  intro cs as rest h
  obtain ⟨used, hused, rfl, hagain⟩ := exists_of_row hnext hitem h
  refine ⟨used, hused, rfl, fun ahead hahead ↦ hagain hahead _ ?_⟩
  rw [List.length_append]
  omega

/-- A value by the character that it starts with. -/
theorem local_value_cons {depth : Nat} (hnested : ∀ inner < depth, Local Sound (value inner))
    {c : Char} (hblank : isBlank c = false) :
    Local (fun cs ↦ Sound (c :: cs)) fun cs ↦ value depth (c :: cs) := by
  have hsound {α : Type} {read : List Char → Except Stop (α × List Char)}
      (hc : isMark c = true) (h : Local Sound read) : Local (fun cs ↦ Sound (c :: cs)) read :=
    h.mono fun cs hcs ↦ hcs.append (Marks.nil.cons hc).notMem
  have hword {letters : List Char} (hc : isMark c = true) (hletters : Marks letters)
      (json : Json) :
      Local (fun cs ↦ Sound (c :: cs)) fun cs ↦ do return (json, ← word letters cs) :=
    (local_word hletters json).mono fun cs hcs ↦ (hcs.cons hc).sound (List.cons_ne_nil _ _)
  have heq (cs : List Char) := value.eq_def depth (c :: cs)
  simp only [skipBlanks_cons hblank, items_eq_row, members_eq_row] at heq
  simp only [heq]
  refine .ite (fun hc ↦ hword (by rw [hc]; decide) (marks_of_all (by decide)) _) fun _ ↦
    .ite (fun hc ↦ hword (by rw [hc]; decide) (marks_of_all (by decide)) _) fun _ ↦
    .ite (fun hc ↦ hword (by rw [hc]; decide) (marks_of_all (by decide)) _) fun _ ↦
    .ite (fun hc ↦ hsound (by rw [hc]; decide) (local_string.map _)) fun _ ↦
    .ite (fun hc ↦ hsound (by rw [hc]; decide) ((local_number true).map _)) fun _ ↦
    .ite (fun _ ↦ ((local_number false).cons c).map _) fun _ ↦
    .ite (fun hc ↦ ?_) fun _ ↦ .fail _
  have hmark : isMark c = true := by rcases hc with rfl | rfl <;> decide
  cases depth with
  | zero => exact .fail _
  | succ depth =>
    have hinner := hnested depth (Nat.lt_succ_self depth)
    exact .ite (fun _ ↦ hsound hmark ((local_row separates_nextItem? hinner _).map _)) fun _ ↦
      hsound hmark ((local_row separates_nextName? (local_member hinner) _).map _)

theorem skipBlanks_skipBlanks (cs : List Char) : skipBlanks (skipBlanks cs) = skipBlanks cs := by
  cases hskip : skipBlanks cs with
  | nil => rfl
  | cons c rest =>
    obtain ⟨-, -, -, hc, -, -⟩ := exists_of_skipBlanks hskip
    exact skipBlanks_cons hc rest

/-- Blanks in front of a value do not count. -/
theorem value_skipBlanks (depth : Nat) (cs : List Char) :
    value depth (skipBlanks cs) = value depth cs := by
  rw [value.eq_def, value.eq_def depth cs]
  dsimp only
  rw [skipBlanks_skipBlanks]

theorem value_nil (depth : Nat) : value depth [] = .error (.here .endInValue []) := by
  cases depth <;> rfl

theorem exists_of_value {depth : Nat} {cs rest : List Char} {json : Json}
    (h : value depth cs = .ok (json, rest)) : ∃ c tail, skipBlanks cs = c :: tail := by
  cases hskip : skipBlanks cs with
  | nil =>
    rw [← value_skipBlanks, hskip, value_nil] at h
    cases h
  | cons c tail => exact ⟨c, tail, rfl⟩

theorem local_value (depth : Nat) : Local Sound (value depth) := by
  induction depth using Nat.strong_induction_on with
  | h depth ih =>
    intro cs json rest h
    obtain ⟨c, tail, hskip⟩ := exists_of_value h
    obtain ⟨gap, hgap, -, hc, rfl, hagain⟩ := exists_of_skipBlanks hskip
    rw [← value_skipBlanks, hskip] at h
    obtain ⟨used, hused, rfl, hread⟩ := local_value_cons ih hc h
    refine ⟨gap ++ c :: used, hused.append hgap, by simp, fun ahead hahead ↦ ?_⟩
    rw [List.append_assoc, List.cons_append, ← value_skipBlanks, hagain]
    exact hread hahead

/-- The first character of a value tells its kind. -/
theorem mem_of_value {depth : Nat} {c : Char} {cs rest : List Char} {json : Json}
    (hc : isBlank c = false) (h : value depth (c :: cs) = .ok (json, rest)) :
    c.isDigit = true ∨ c ∈ ['n', 't', 'f', '"', '-', '[', '\x7b'] := by
  by_contra hnot
  simp only [List.mem_cons, List.not_mem_nil, not_or, or_false] at hnot
  obtain ⟨hdigit, hn, ht, hf, hquote, hminus, hlist, hobject⟩ := hnot
  rw [value.eq_def] at h
  dsimp only at h
  rw [skipBlanks_cons hc] at h
  simp only [hdigit, hn, ht, hf, hquote, hminus, hlist, hobject, or_self, if_false] at h
  cases h

theorem isBlank_of_finish {cs : List Char} (h : finish cs = .ok ()) :
    ∀ c ∈ cs, isBlank c = true := by
  cases hskip : skipBlanks cs with
  | nil => exact List.dropWhile_eq_nil_iff.1 hskip
  | cons c rest =>
    rw [finish, hskip] at h
    cases h

/-- A text that holds a value: the text of this value, with blanks around it. -/
theorem exists_of_whole {depth : Nat} {cs : List Char} {json : Json}
    (h : whole (value depth) cs = .ok json) :
    ∃ before c used after, cs = before ++ (c :: used ++ after) ∧
      (∀ b ∈ before, isBlank b = true) ∧ (∀ b ∈ after, isBlank b = true) ∧
      Text.isBlank c = false ∧ c ≠ ':' ∧ Sound (c :: used) ∧
      whole (value depth) (c :: used) = .ok json := by
  obtain ⟨⟨_, after⟩, hvalue, hrest⟩ := exists_of_bind_eq_ok h
  obtain ⟨⟨⟩, hafter, ⟨⟩⟩ := exists_of_bind_eq_ok hrest
  obtain ⟨c, tail, hskip⟩ := exists_of_value hvalue
  obtain ⟨before, -, hbefore, hc, rfl, -⟩ := exists_of_skipBlanks hskip
  rw [← value_skipBlanks, hskip] at hvalue
  obtain ⟨used, hused, rfl, hagain⟩ := local_value_cons (fun inner _ ↦ local_value inner) hc hvalue
  have hstart : Text.isBlank c = false ∧ c ≠ ':' := by
    rcases mem_of_value hc hvalue with hdigit | hmem
    · refine ⟨Calendar.isBlank_of_isDigit hdigit, ?_⟩
      rintro rfl
      exact absurd hdigit (by decide)
    · have hall : (['n', 't', 'f', '"', '-', '[', '\x7b'].all fun c ↦
          !Text.isBlank c && c != ':') = true := by decide
      simpa using List.all_eq_true.1 hall c hmem
  have hwhole : whole (value depth) (c :: used) = .ok json := by
    have hread : value depth (c :: used) = .ok (json, []) := by
      simpa only [List.append_nil] using hagain (List.nil_prefix : [] <+: after)
    show (value depth (c :: used) >>= _) = _
    rw [hread]
    rfl
  exact ⟨before, c, used, after, rfl, hbefore, isBlank_of_finish hafter, hstart.1, hstart.2, hused,
    hwhole⟩

end FilterQuery.Json.Reader

/-! ## Whole texts -/

namespace FilterQuery.Json

open Reader

theorem parse_eq_ok_iff {text : String} {json : Json} :
    parse text = .ok json ↔ whole (value depthLimit) text.toList = .ok json := by
  unfold parse readText
  cases whole (value depthLimit) text.toList with
  | ok json' => simp [Except.mapError]
  | error stop => simp [Except.mapError]

/-- The blanks around a value are trimmed, and nothing else. What is left holds the same value and
starts like one, in particular with no colon. -/
theorem exists_of_parse {text : String} {json : Json} (h : parse text = .ok json) :
    '\x08' ∉ text.toList ∧ parse (Text.trim text) = .ok json ∧
      ∃ c cs, (Text.trim text).toList = c :: cs ∧ Text.isBlank c = false ∧ c ≠ ':' := by
  obtain ⟨before, c, used, after, htext, hbefore, hafter, hc, hcolon, hused, hwhole⟩ :=
    exists_of_whole (parse_eq_ok_iff.1 h)
  have htrim : Text.trim text = String.ofList (c :: used) := by
    obtain ⟨front, d, hends, hd⟩ := hused.last
    calc Text.trim text
      _ = Text.trim (String.ofList (before ++ ((String.ofList (c :: used)).toList ++ after))) := by
        rw [String.toList_ofList, ← htext, String.ofList_toList]
      _ = Text.trim (String.ofList (c :: used)) :=
        Calendar.trim_blanks (fun b hb ↦ isBlank_text (hbefore b hb))
          (fun b hb ↦ isBlank_text (hafter b hb)) _
      _ = String.ofList (c :: used) := Text.trim_of_ends hends hc hd
  refine ⟨?_, ?_, c, used, ?_, hc, hcolon⟩
  · rw [htext, List.mem_append, List.mem_append]
    exact not_or.2 ⟨notMem_of_isBlank hbefore, not_or.2 ⟨hused.notMem, notMem_of_isBlank hafter⟩⟩
  · rw [htrim, parse_eq_ok_iff, String.toList_ofList]
    exact hwhole
  · rw [htrim, String.toList_ofList]

end FilterQuery.Json
