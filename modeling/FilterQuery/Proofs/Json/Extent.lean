import FilterQuery.Json.Reader
import FilterQuery.Proofs.Number.Numeral

/-!
# What a reader takes from a text

A reader that succeeds takes the start of a text and leaves the rest. What it takes decides what it
reads: with less of the rest behind it the outcome is the same, and only that part is left. So a
text that holds a value may lose what stands behind the value. The text of a value ends with a
character that is no blank, and holds no backspace.
-/

namespace FilterQuery.Json.Reader

open Calendar (NoDigitFirst noDigitFirst_nil noDigitFirst_cons)

theorem exists_of_bind_eq_ok {ε α β : Type} {x : Except ε α} {f : α → Except ε β} {b : β}
    (h : (x >>= f) = .ok b) : ∃ a, x = .ok a ∧ f a = .ok b := by
  cases x with
  | error => cases h
  | ok a => exact ⟨a, rfl, h⟩

/-! ## Readers and the texts that they take -/

/-- What a reader takes is good and decides the outcome, whatever part of the rest follows. -/
def Local {α : Type} (good : List Char → Prop)
    (read : List Char → Except Stop (α × List Char)) : Prop :=
  ∀ ⦃cs : List Char⦄ ⦃a : α⦄ ⦃rest : List Char⦄, read cs = .ok (a, rest) →
    ∃ used, good used ∧ cs = used ++ rest ∧
      ∀ ⦃ahead : List Char⦄, ahead <+: rest → read (used ++ ahead) = .ok (a, ahead)

/-- Neither a blank nor a backspace. -/
def isMark (c : Char) : Bool := c != '\x08' && !Text.isBlank c

def Marks (cs : List Char) : Prop := ∀ c ∈ cs, isMark c = true

/-- No backspace, and at the end a character that is no blank. -/
structure Sound (cs : List Char) : Prop where
  notMem : '\x08' ∉ cs
  last : ∃ front c, cs = front ++ [c] ∧ Text.isBlank c = false

theorem Sound.ne_nil {cs : List Char} (h : Sound cs) : cs ≠ [] := by
  obtain ⟨front, c, rfl, -⟩ := h.last
  simp

theorem Sound.append {cs ds : List Char} (hcs : '\x08' ∉ cs) (h : Sound ds) : Sound (cs ++ ds) where
  notMem := by
    rw [List.mem_append]
    exact not_or.2 ⟨hcs, h.notMem⟩
  last := by
    obtain ⟨front, c, rfl, hc⟩ := h.last
    exact ⟨cs ++ front, c, (List.append_assoc _ _ _).symm, hc⟩

theorem Marks.notMem {cs : List Char} (h : Marks cs) : '\x08' ∉ cs := fun hmem ↦
  absurd (h _ hmem) (by decide)

theorem Marks.nil : Marks [] := nofun

theorem Marks.cons {c : Char} {cs : List Char} (hc : isMark c = true) (h : Marks cs) :
    Marks (c :: cs) := List.forall_mem_cons.2 ⟨hc, h⟩

theorem Marks.append {cs ds : List Char} (hcs : Marks cs) (hds : Marks ds) : Marks (cs ++ ds) :=
  List.forall_mem_append.2 ⟨hcs, hds⟩

theorem marks_of_all {cs : List Char} (h : cs.all isMark = true) : Marks cs :=
  List.all_eq_true.1 h

theorem Marks.sound {cs : List Char} (h : Marks cs) (hne : cs ≠ []) : Sound cs where
  notMem := h.notMem
  last := by
    refine ⟨cs.dropLast, cs.getLast hne, (List.dropLast_append_getLast hne).symm, ?_⟩
    have hlast := h _ (List.getLast_mem hne)
    simp only [isMark, Bool.and_eq_true, Bool.not_eq_true'] at hlast
    exact hlast.2

theorem Sound.of_mark {c : Char} (h : isMark c = true) : Sound [c] :=
  (Marks.nil.cons h).sound (List.cons_ne_nil _ _)

theorem isMark_of_isDigit {c : Char} (h : c.isDigit = true) : isMark c = true := by
  have hne : c ≠ '\x08' := by
    rintro rfl
    exact absurd h (by decide)
  simp [isMark, hne, Calendar.isBlank_of_isDigit h]

theorem marks_of_isDigit {cs : List Char} (h : ∀ c ∈ cs, c.isDigit = true) : Marks cs :=
  fun c hc ↦ isMark_of_isDigit (h c hc)

/-! ## Closure -/

section

variable {α β : Type} {good first second : List Char → Prop}

theorem Local.fail (stop : List Char → Stop) :
    Local good fun cs ↦ (.error (stop cs) : Except Stop (α × List Char)) := fun _ _ _ h ↦ by cases h

theorem Local.done (h : good []) (a : α) : Local good fun cs ↦ .ok (a, cs) := by
  rintro cs _ _ ⟨⟩
  exact ⟨[], h, rfl, fun ahead _ ↦ rfl⟩

theorem Local.ite {p : Prop} [Decidable p] {read read' : List Char → Except Stop (α × List Char)}
    (h : p → Local good read) (h' : ¬p → Local good read') :
    Local good fun cs ↦ if p then read cs else read' cs := by
  by_cases hp : p
  · simpa only [if_pos hp] using h hp
  · simpa only [if_neg hp] using h' hp

/-- A reader that goes on where another one has stopped. -/
theorem Local.bind {read : List Char → Except Stop (α × List Char)}
    {next : α × List Char → Except Stop (β × List Char)} (h : Local first read)
    (hnext : ∀ a, Local second fun cs ↦ next (a, cs))
    (happend : ∀ ⦃cs ds⦄, first cs → second ds → good (cs ++ ds)) :
    Local good fun cs ↦ read cs >>= next := by
  intro cs b rest hread
  obtain ⟨⟨a, middle⟩, hfirst, hsecond⟩ := exists_of_bind_eq_ok hread
  obtain ⟨used, hused, rfl, hagain⟩ := h hfirst
  obtain ⟨more, hmore, rfl, hagain'⟩ := hnext a hsecond
  refine ⟨used ++ more, happend hused hmore, (List.append_assoc _ _ _).symm, fun ahead hahead ↦ ?_⟩
  have hmiddle := hagain ((List.prefix_append_right_inj more).2 hahead)
  rw [List.append_assoc]
  show (read (used ++ (more ++ ahead)) >>= next) = .ok (b, ahead)
  rw [hmiddle]
  exact hagain' hahead

theorem Local.map {read : List Char → Except Stop (α × List Char)} (h : Local good read)
    (f : α → β) : Local good fun cs ↦ do
      let (a, cs) ← read cs
      return (f a, cs) := by
  intro cs b rest hread
  obtain ⟨⟨a, rest⟩, hfirst, ⟨⟩⟩ := exists_of_bind_eq_ok hread
  obtain ⟨used, hused, hcs, hagain⟩ := h hfirst
  refine ⟨used, hused, hcs, fun ahead hahead ↦ ?_⟩
  show (read (used ++ ahead) >>= _) = _
  rw [hagain hahead]
  rfl

end

/-! ## Blanks -/

theorem notMem_of_isBlank {cs : List Char} (h : ∀ c ∈ cs, isBlank c = true) : '\x08' ∉ cs :=
  fun hmem ↦ absurd (h _ hmem) (by decide)

theorem isBlank_text {c : Char} (h : isBlank c = true) : Text.isBlank c = true := by
  simp only [isBlank, Bool.or_eq_true, beq_iff_eq] at h
  rcases h with ((rfl | rfl) | rfl) | rfl <;> decide

theorem append_skipBlanks (cs : List Char) : cs.takeWhile isBlank ++ skipBlanks cs = cs :=
  List.takeWhile_append_dropWhile

theorem skipBlanks_append {blanks : List Char} (h : ∀ c ∈ blanks, isBlank c = true)
    (cs : List Char) : skipBlanks (blanks ++ cs) = skipBlanks cs :=
  List.dropWhile_append_of_pos h

/-- The text up to the first character that is no blank. -/
theorem exists_of_skipBlanks {cs rest : List Char} {c : Char} (h : skipBlanks cs = c :: rest) :
    ∃ blanks, '\x08' ∉ blanks ∧ (∀ b ∈ blanks, isBlank b = true) ∧ isBlank c = false ∧
      cs = blanks ++ c :: rest ∧ ∀ other, skipBlanks (blanks ++ c :: other) = c :: other := by
  have hblanks : ∀ b ∈ cs.takeWhile isBlank, isBlank b = true := fun b ↦ List.mem_takeWhile_imp
  have hc : isBlank c = false := by
    have hnot := List.head?_dropWhile_not isBlank cs
    rwa [← skipBlanks, h] at hnot
  refine ⟨cs.takeWhile isBlank, notMem_of_isBlank hblanks, hblanks, hc, ?_, fun other ↦ ?_⟩
  · rw [← h, append_skipBlanks]
  · rw [skipBlanks_append hblanks]
    exact List.dropWhile_cons_of_neg (by simp [hc])

/-! ## Words -/

theorem word_eq_ok_iff {letters cs rest : List Char} :
    word letters cs = .ok rest ↔ cs = letters ++ rest := by
  induction letters generalizing cs with
  | nil => simp [word]
  | cons letter letters ih =>
    cases cs with
    | nil => simp [word]
    | cons c cs =>
      by_cases hc : c = letter
      · simp [word, hc, ih]
      · simp [word, hc]

/-! ## Strings -/

theorem exists_of_mapM {α β : Type} {f : α → Option β} {as : List α} {bs : List β}
    (h : as.mapM f = some bs) : ∀ a ∈ as, ∃ b, f a = some b := by
  induction as generalizing bs with
  | nil => exact nofun
  | cons a as ih =>
    rw [List.mapM_cons] at h
    obtain ⟨b, hb, h⟩ := Option.bind_eq_some_iff.1 h
    obtain ⟨bs', hbs, -⟩ := Option.bind_eq_some_iff.1 h
    exact List.forall_mem_cons.2 ⟨⟨b, hb⟩, ih hbs⟩

theorem byteCount_eq_sum (cs : List Char) : byteCount cs = (cs.map Char.utf8Size).sum := by
  rw [List.sum_eq_foldl_nat, List.foldl_map]
  rfl

theorem length_le_byteCount (cs : List Char) : cs.length ≤ byteCount cs := by
  rw [byteCount_eq_sum]
  induction cs with
  | nil => exact le_rfl
  | cons c cs ih =>
    have hpos := c.utf8Size_pos
    simp only [List.length_cons, List.map_cons, List.sum_cons]
    omega

theorem byteCount_eq_length {cs : List Char} (h : ∀ c ∈ cs, c.utf8Size = 1) :
    byteCount cs = cs.length := by
  rw [byteCount_eq_sum, List.map_congr_left h]
  simp

theorem isMark_of_hexValue? {c : Char} {n : Nat} (h : hexValue? c = some n) :
    isMark c = true ∧ c.utf8Size = 1 := by
  have hascii : ∀ code < 128, hexValue? (Char.ofNat code) ≠ none →
      isMark (Char.ofNat code) = true ∧ (Char.ofNat code).utf8Size = 1 := by decide
  have hcode : c.toNat < 128 := by
    unfold hexValue? at h
    split_ifs at h with hdigit hlower hupper
    · exact Nat.lt_of_le_of_lt (Char.isDigit_iff_toNat.1 hdigit).2 (by decide)
    · exact Nat.lt_of_le_of_lt (Char.le_def.1 hlower.2) (by decide)
    · exact Nat.lt_of_le_of_lt (Char.le_def.1 hupper.2) (by decide)
  rw [← Char.ofNat_toNat c] at h ⊢
  exact hascii c.toNat hcode (by rw [h]; exact nofun)

theorem hexEscape_append {digits : List Char} {unit : Nat} (hlength : digits.length = 4)
    (h : ofHexDigits? digits = some unit) (rest : List Char) :
    hexEscape (digits ++ rest) = .ok (unit, rest) := by
  have hbytes : ¬byteCount (digits ++ rest) < 4 := by
    have hle := length_le_byteCount (digits ++ rest)
    rw [List.length_append] at hle
    omega
  have htake : (digits ++ rest).take 4 = digits := by rw [← hlength, List.take_left]
  have hdrop : (digits ++ rest).drop 4 = rest := by rw [← hlength, List.drop_left]
  simp only [hexEscape, hbytes, if_false, htake, hdrop, h]

theorem local_hexEscape : Local Marks hexEscape := by
  intro cs unit rest h
  unfold hexEscape at h
  split at h
  · cases h
  next hbytes =>
    split at h
    next value hvalue =>
      cases h
      obtain ⟨values, hvalues, -⟩ := Option.map_eq_some_iff.1 hvalue
      have hmarks : ∀ c ∈ cs.take 4, isMark c = true ∧ c.utf8Size = 1 := fun c hc ↦
        isMark_of_hexValue? (exists_of_mapM hvalues c hc).choose_spec
      have hlength : (cs.take 4).length = 4 := by
        by_contra hne
        have hshort : cs.take 4 = cs := by
          apply List.take_of_length_le
          rw [List.length_take] at hne
          omega
        rw [hshort] at hmarks hne
        have hcount := byteCount_eq_length fun c hc ↦ (hmarks c hc).2
        have hle : (cs.take 4).length ≤ 4 := List.length_take_le 4 cs
        rw [hshort] at hle
        omega
      exact ⟨cs.take 4, fun c hc ↦ (hmarks c hc).1, (List.take_append_drop 4 cs).symm,
        fun ahead _ ↦ hexEscape_append hlength hvalue ahead⟩
    · cases h

theorem pairCharacter_eq_ok_iff {expected : Char} {cs rest : List Char} :
    pairCharacter expected cs = .ok rest ↔ cs = expected :: rest := by
  cases cs with
  | nil => simp [pairCharacter]
  | cons c cs => by_cases hc : c = expected <;> simp [pairCharacter, hc]

theorem Local.pairCharacter {α : Type} {next : List Char → Except Stop (α × List Char)}
    (h : Local Marks next) {expected : Char} (hmark : isMark expected = true) :
    Local Marks fun cs ↦ pairCharacter expected cs >>= next := by
  intro cs a rest hread
  obtain ⟨tail, hfirst, hnext⟩ := exists_of_bind_eq_ok hread
  obtain rfl := pairCharacter_eq_ok_iff.1 hfirst
  obtain ⟨used, hused, rfl, hagain⟩ := h hnext
  refine ⟨expected :: used, hused.cons hmark, rfl, fun ahead hahead ↦ ?_⟩
  show (Reader.pairCharacter expected (expected :: (used ++ ahead)) >>= next) = _
  rw [pairCharacter_eq_ok_iff.2 rfl]
  exact hagain hahead

theorem local_unicodeEscape : Local Marks unicodeEscape := by
  refine local_hexEscape.bind (fun unit ↦ ?_) fun _ _ ↦ Marks.append
  refine .ite (fun _ ↦ .fail _) fun _ ↦ .ite (fun _ ↦ ?_) fun _ ↦ .done .nil _
  refine .pairCharacter (.pairCharacter ?_ (by decide)) (by decide)
  refine local_hexEscape.bind (fun second ↦ ?_) fun _ _ ↦ Marks.append
  exact .ite (fun _ ↦ .done .nil _) fun _ ↦ .fail _

theorem isMark_of_shortEscape? {c d : Char} (h : shortEscape? c = some d) : isMark c = true := by
  unfold shortEscape? at h
  split at h <;> first | decide | cases h

theorem local_escape : Local Marks escape := by
  intro cs character rest h
  cases cs with
  | nil => cases h
  | cons c cs =>
    simp only [escape] at h
    split_ifs at h with hletter
    · obtain ⟨used, hused, rfl, hagain⟩ := local_unicodeEscape h
      refine ⟨c :: used, hused.cons (by rw [hletter]; decide), rfl, fun ahead hahead ↦ ?_⟩
      simpa [escape, hletter] using hagain hahead
    · cases hshort : shortEscape? c with
      | none => simp [hshort] at h
      | some d =>
        simp only [hshort] at h
        cases h
        refine ⟨[c], Marks.nil.cons (isMark_of_shortEscape? hshort), rfl, fun ahead hahead ↦ ?_⟩
        simp [escape, hletter, hshort]

theorem exists_of_succ_le {n enough : Nat} (h : n + 1 ≤ enough) :
    ∃ m, enough = m + 1 ∧ n ≤ m := ⟨enough - 1, by omega, by omega⟩

/-- The content of a string up to its closing quote; one unit of fuel for every character is
enough. -/
theorem exists_of_characters {fuel : Nat} {cs content rest : List Char}
    (h : characters fuel cs = .ok (content, rest)) :
    ∃ used, Sound used ∧ cs = used ++ rest ∧ ∀ ⦃ahead⦄, ahead <+: rest →
      ∀ enough, used.length ≤ enough →
        characters enough (used ++ ahead) = .ok (content, ahead) := by
  induction fuel generalizing cs content rest with
  | zero => cases h
  | succ fuel ih =>
    cases cs with
    | nil => cases h
    | cons c cs =>
      simp only [characters] at h
      split_ifs at h with hquote hbackslash hcontrol
      · cases h
        refine ⟨[c], Sound.of_mark (by rw [hquote]; decide), rfl, fun ahead _ enough hle ↦ ?_⟩
        obtain ⟨enough, rfl, -⟩ := exists_of_succ_le hle
        simp [characters, hquote]
      · obtain ⟨⟨character, tail⟩, hescape, h⟩ := exists_of_bind_eq_ok h
        obtain ⟨⟨others, last⟩, hothers, ⟨⟩⟩ := exists_of_bind_eq_ok h
        obtain ⟨first, hfirst, rfl, hreadFirst⟩ := local_escape hescape
        obtain ⟨used, hused, rfl, hread⟩ := ih hothers
        have hmarks : Marks (c :: first) := hfirst.cons (by rw [hbackslash]; decide)
        refine ⟨c :: first ++ used, hused.append hmarks.notMem, by simp, ?_⟩
        intro ahead hahead enough hle
        have hlength : first.length + used.length + 1 ≤ enough := by simpa using hle
        obtain ⟨enough, rfl, hfuel⟩ := exists_of_succ_le hlength
        have hcharacter := hreadFirst ((List.prefix_append_right_inj used).2 hahead)
        have hcontent := hread hahead enough ((Nat.le_add_left _ _).trans hfuel)
        simp only [List.cons_append, List.append_assoc, characters, if_neg hquote,
          if_pos hbackslash, hcharacter]
        show (characters enough (used ++ ahead) >>= _) = _
        rw [hcontent]
        rfl
      · obtain ⟨⟨others, last⟩, hothers, ⟨⟩⟩ := exists_of_bind_eq_ok h
        obtain ⟨used, hused, rfl, hread⟩ := ih hothers
        have hplain : '\x08' ∉ [c] := by
          rw [List.mem_singleton]
          rintro rfl
          exact hcontrol (by decide)
        refine ⟨[c] ++ used, hused.append hplain, rfl, ?_⟩
        intro ahead hahead enough hle
        obtain ⟨enough, rfl, hfuel⟩ := exists_of_succ_le hle
        simp only [List.cons_append, List.nil_append, characters, if_neg hquote,
          if_neg hbackslash, if_neg hcontrol, hread hahead enough hfuel]
        rfl

theorem local_string : Local Sound string := by
  intro cs content rest h
  obtain ⟨⟨content, rest⟩, hread, ⟨⟩⟩ := exists_of_bind_eq_ok h
  obtain ⟨used, hused, rfl, hagain⟩ := exists_of_characters hread
  refine ⟨used, hused, rfl, fun ahead hahead ↦ ?_⟩
  have hfuel : used.length ≤ (used ++ ahead).length + 1 := by
    rw [List.length_append]
    omega
  rw [string, hagain hahead _ hfuel]
  rfl

/-! ## Numbers -/

theorem mem_head?_of_isPrefix {rest ahead : List Char} {c : Char} (hc : c ∈ ahead.head?)
    (hahead : ahead <+: rest) : c ∈ rest.head? := by
  obtain ⟨others, rfl⟩ := hahead
  cases ahead with
  | nil => cases hc
  | cons d cs => exact hc

theorem noDigitFirst_of_isPrefix {rest ahead : List Char} (h : NoDigitFirst rest)
    (hahead : ahead <+: rest) : NoDigitFirst ahead :=
  fun c hc ↦ h c (mem_head?_of_isPrefix hc hahead)

theorem noDigitFirst_of_readDigits {cs digits rest : List Char}
    (h : Decimal.readDigits cs = (digits, rest)) : NoDigitFirst rest := by
  cases h
  intro c hc
  have hnot := List.head?_dropWhile_not Char.isDigit cs
  rw [Option.mem_def.1 hc] at hnot
  exact hnot

theorem readDigits_ahead {digits rest ahead : List Char} (h : ∀ c ∈ digits, c.isDigit = true)
    (hrest : NoDigitFirst rest) (hahead : ahead <+: rest) :
    Decimal.readDigits (digits ++ ahead) = (digits, ahead) :=
  Decimal.readDigits_append h (noDigitFirst_of_isPrefix hrest hahead)

/-- A reader that takes nothing. -/
def Stays {α : Type} (read : List Char → Except Stop (α × List Char)) : Prop :=
  ∀ ⦃cs : List Char⦄ ⦃a : α⦄ ⦃rest : List Char⦄, read cs = .ok (a, rest) →
    rest = cs ∧ ∀ other, read other = .ok (a, other)

theorem Stays.done {α : Type} (a : α) : Stays fun cs ↦ .ok (a, cs) := by
  rintro cs _ _ ⟨⟩
  exact ⟨rfl, fun _ ↦ rfl⟩

theorem Stays.local {α : Type} {read : List Char → Except Stop (α × List Char)} (h : Stays read) :
    Local Marks read := by
  intro cs a rest hread
  obtain ⟨rfl, hagain⟩ := h hread
  exact ⟨[], .nil, rfl, fun ahead _ ↦ hagain ahead⟩

/-- A number goes on behind its digits with a power of ten, or has ended. -/
def behindDigits (plain power : List Char → Except Stop (Number × List Char)) :
    List Char → Except Stop (Number × List Char)
  | [] => plain []
  | c :: cs => if isExponentLetter c then power cs else plain (c :: cs)

theorem local_behindDigits {plain power : List Char → Except Stop (Number × List Char)}
    (hplain : Stays plain) (hpower : Local Marks power) :
    Local Marks (behindDigits plain power) := by
  intro cs x rest h
  cases cs with
  | nil =>
    obtain ⟨rfl, hagain⟩ := hplain h
    refine ⟨[], .nil, rfl, fun ahead hahead ↦ ?_⟩
    rw [List.prefix_nil.1 hahead]
    exact h
  | cons c cs =>
    by_cases hletter : isExponentLetter c = true
    · simp only [behindDigits, if_pos hletter] at h
      obtain ⟨used, hused, rfl, hagain⟩ := hpower h
      have hmark : isMark c = true := by
        simp only [isExponentLetter, Bool.or_eq_true, beq_iff_eq] at hletter
        rcases hletter with rfl | rfl <;> decide
      refine ⟨c :: used, hused.cons hmark, rfl, fun ahead hahead ↦ ?_⟩
      simpa only [List.cons_append, behindDigits, if_pos hletter] using hagain hahead
    · simp only [behindDigits, if_neg hletter] at h
      obtain ⟨rfl, hagain⟩ := hplain h
      refine ⟨[], .nil, rfl, fun ahead hahead ↦ ?_⟩
      obtain rfl | ⟨tail, rfl, -⟩ := List.prefix_cons_iff.1 hahead
      · exact hagain []
      · simpa only [List.nil_append, behindDigits, if_neg hletter] using hagain (c :: tail)

section

variable (negative : Bool) (significand : Nat) (power : Int)

theorem stays_float : Stays (float negative significand power) := by
  unfold float
  cases scaledFloat? negative significand power with
  | none => exact fun _ _ _ h ↦ by cases h
  | some x => exact .done _

/-- The digits of a power of ten, none of which is left behind by chance. -/
theorem exists_of_exponentDigits {n m : Nat} {isGreat : Bool} {cs rest : List Char}
    (h : exponentDigits n cs = (m, isGreat, rest)) :
    ∃ digits, (∀ c ∈ digits, c.isDigit = true) ∧ cs = digits ++ rest ∧
      (digits = [] → NoDigitFirst rest) ∧
      ∀ ⦃ahead⦄, ahead <+: rest → exponentDigits n (digits ++ ahead) = (m, isGreat, ahead) := by
  induction cs generalizing n with
  | nil =>
    cases h
    refine ⟨[], nofun, rfl, fun _ ↦ noDigitFirst_nil, fun ahead hahead ↦ ?_⟩
    rw [List.prefix_nil.1 hahead]
    rfl
  | cons c cs ih =>
    simp only [exponentDigits] at h
    split_ifs at h with hdigit hsmall
    · obtain ⟨digits, hdigits, rfl, -, hread⟩ := ih h
      refine ⟨c :: digits, List.forall_mem_cons.2 ⟨hdigit, hdigits⟩, rfl, nofun,
        fun ahead hahead ↦ ?_⟩
      simpa only [List.cons_append, exponentDigits, if_pos hdigit, if_pos hsmall] using hread hahead
    · cases h
      refine ⟨[c], List.forall_mem_singleton.2 hdigit, rfl, nofun, fun ahead _ ↦ ?_⟩
      simp only [List.cons_append, List.nil_append, exponentDigits, if_pos hdigit, if_neg hsmall]
    · cases h
      have hnone := noDigitFirst_cons (Bool.eq_false_iff.2 hdigit) cs
      refine ⟨[], nofun, rfl, fun _ ↦ hnone, fun ahead hahead ↦ ?_⟩
      obtain rfl | ⟨tail, rfl, -⟩ := List.prefix_cons_iff.1 hahead
      · rfl
      · simp only [List.nil_append, exponentDigits, if_neg hdigit]

theorem marks_of_spellsSign {sign : List Char} {isMinus : Bool}
    (h : Decimal.SpellsSign sign isMinus) : Marks sign := by
  cases h with
  | none => exact .nil
  | plus => exact Marks.nil.cons (by decide)
  | minus => exact Marks.nil.cons (by decide)

theorem local_dropDigits {α : Type} (a : α) :
    Local Marks fun cs ↦ .ok (a, cs.dropWhile Char.isDigit) := by
  rintro cs _ _ ⟨⟩
  have hdigits : ∀ c ∈ cs.takeWhile Char.isDigit, c.isDigit = true :=
    fun c ↦ List.mem_takeWhile_imp
  have hstop : NoDigitFirst (cs.dropWhile Char.isDigit) :=
    noDigitFirst_of_readDigits (rfl : Decimal.readDigits cs = _)
  refine ⟨cs.takeWhile Char.isDigit, marks_of_isDigit hdigits,
    List.takeWhile_append_dropWhile.symm, fun ahead hahead ↦ ?_⟩
  have hread := readDigits_ahead hdigits hstop hahead
  exact congrArg (fun tail ↦ Except.ok (a, tail)) (Prod.mk.inj hread).2

/-- What is made of the digits of a power of ten and the text behind them. -/
def scaled (small : Bool) (n : Nat) (isGreat : Bool) (cs : List Char) :
    Except Stop (Number × List Char) :=
  if !isGreat then float negative significand (if small then power - n else power + n) cs
  else if significand ≠ 0 ∧ !small then .error (.here .numberOutOfRange cs)
  else .ok (.float (.zero negative), cs.dropWhile Char.isDigit)

theorem local_scaled (small : Bool) (n : Nat) (isGreat : Bool) :
    Local Marks (scaled negative significand power small n isGreat) :=
  .ite (fun _ ↦ (stays_float _ _ _).local) fun _ ↦
    .ite (fun _ ↦ .fail _) fun _ ↦ local_dropDigits _

theorem exponentPart_append {sign : List Char} {small : Bool}
    (hsign : Decimal.SpellsSign sign small) {c : Char} (hdigit : c.isDigit = true)
    (cs : List Char) :
    exponentPart negative significand power (sign ++ c :: cs) =
      let (n, isGreat, tail) := exponentDigits 0 (c :: cs)
      scaled negative significand power small n isGreat tail := by
  have hsplit := Decimal.readSign_append hsign
    (Decimal.noSignFirst_cons (Decimal.not_isSign_of_isDigit hdigit) cs)
  simp only [exponentPart, hsplit, if_pos hdigit]
  rfl

theorem local_exponentPart : Local Marks (exponentPart negative significand power) := by
  intro cs x rest h
  rcases hsplit : Decimal.readSign cs with ⟨small, tail⟩
  obtain ⟨sign, hsign, rfl⟩ := Decimal.exists_of_readSign hsplit
  have hstart : ∃ c cs, tail = c :: cs ∧ c.isDigit = true := by
    cases tail with
    | nil =>
      simp only [exponentPart, hsplit] at h
      cases h
    | cons c cs =>
      by_cases hdigit : c.isDigit = true
      · exact ⟨c, cs, rfl, hdigit⟩
      · simp [exponentPart, hsplit, hdigit] at h
  obtain ⟨c, cs, rfl, hdigit⟩ := hstart
  rw [exponentPart_append negative significand power hsign hdigit] at h
  rcases hexponent : exponentDigits 0 (c :: cs) with ⟨n, isGreat, last⟩
  rw [hexponent] at h
  obtain ⟨digits, hdigits, hcut, hstop, hread⟩ := exists_of_exponentDigits hexponent
  obtain ⟨used, hused, rfl, hagain⟩ := local_scaled negative significand power small n isGreat h
  cases digits with
  | nil =>
    have hnone := hstop rfl
    rw [List.nil_append] at hcut
    rw [← hcut] at hnone
    exact absurd (hnone c rfl) (by simp [hdigit])
  | cons d digits =>
    obtain ⟨rfl, rfl⟩ := List.cons.inj hcut
    refine ⟨sign ++ (c :: digits ++ used),
      (marks_of_spellsSign hsign).append ((marks_of_isDigit hdigits).append hused), by simp,
      fun ahead hahead ↦ ?_⟩
    have hexponent' := hread ((List.prefix_append_right_inj used).2 hahead)
    rw [List.append_assoc, List.append_assoc, List.cons_append,
      exponentPart_append negative significand power hsign hdigit, ← List.cons_append, hexponent']
    exact hagain hahead

/-- The rest of a number behind its fraction digits. -/
def behindFraction (digits : List Char) : List Char → Except Stop (Number × List Char) :=
  let (significand, left) := addDigits significand digits
  let power := power - ((digits.length - left : Nat) : Int)
  behindDigits (float negative significand power) (exponentPart negative significand power)

theorem fractionPart_append {digits tail : List Char} (hne : digits ≠ [])
    (hdigits : ∀ c ∈ digits, c.isDigit = true) (htail : NoDigitFirst tail) :
    fractionPart negative significand power (digits ++ tail) =
      behindFraction negative significand power digits tail := by
  have hempty : digits.isEmpty = false := by simpa using hne
  simp only [fractionPart, Decimal.readDigits_append hdigits htail, hempty, Bool.false_eq_true,
    if_false, behindFraction]
  cases tail <;> rfl

theorem local_fractionPart : Local Marks (fractionPart negative significand power) := by
  intro cs x rest h
  rcases hsplit : Decimal.readDigits cs with ⟨digits, tail⟩
  obtain ⟨hdigits, rfl⟩ := Decimal.eq_append_of_readDigits hsplit
  have htail := noDigitFirst_of_readDigits hsplit
  have hne : digits ≠ [] := by
    rintro rfl
    simp only [fractionPart, hsplit] at h
    cases h
  rw [fractionPart_append negative significand power hne hdigits htail] at h
  obtain ⟨used, hused, rfl, hagain⟩ :=
    local_behindDigits (stays_float _ _ _) (local_exponentPart _ _ _) h
  refine ⟨digits ++ used, (marks_of_isDigit hdigits).append hused, by simp, fun ahead hahead ↦ ?_⟩
  have hstop := noDigitFirst_of_isPrefix htail ((List.prefix_append_right_inj used).2 hahead)
  rw [List.append_assoc, fractionPart_append negative significand power hne hdigits hstop]
  exact hagain hahead

end

/-- The rest of a number behind its whole digits. -/
def behindWhole (negative : Bool) (digits cs : List Char) : Except Stop (Number × List Char) :=
  let (significand, left) := addDigits 0 digits
  if cs.head? = some '.' then fractionPart negative significand left cs.tail
  else behindDigits
    (fun cs ↦ if left = 0 then .ok (integer negative significand, cs)
      else float negative significand left cs)
    (exponentPart negative significand left) cs

theorem local_behindWhole (negative : Bool) (digits : List Char) :
    Local Marks (behindWhole negative digits) := by
  intro cs x rest h
  by_cases hpoint : cs.head? = some '.'
  · obtain ⟨after, rfl⟩ : ∃ after, cs = '.' :: after := ⟨cs.tail, List.eq_cons_of_mem_head? hpoint⟩
    simp only [behindWhole, if_pos hpoint] at h
    obtain ⟨used, hused, hafter, hagain⟩ := local_fractionPart _ _ _ h
    obtain rfl : after = used ++ rest := hafter
    exact ⟨'.' :: used, hused.cons (by decide), rfl, fun ahead hahead ↦ hagain hahead⟩
  · simp only [behindWhole, if_neg hpoint] at h
    have hplain : Stays fun cs ↦ if (addDigits 0 digits).2 = 0 then
        .ok (integer negative (addDigits 0 digits).1, cs)
        else float negative (addDigits 0 digits).1 (addDigits 0 digits).2 cs := by
      by_cases hleft : (addDigits 0 digits).2 = 0
      · simpa only [if_pos hleft] using Stays.done _
      · simpa only [if_neg hleft] using stays_float _ _ _
    obtain ⟨used, hused, rfl, hagain⟩ := local_behindDigits hplain (local_exponentPart _ _ _) h
    refine ⟨used, hused, rfl, fun ahead hahead ↦ ?_⟩
    have hnone : (used ++ ahead).head? ≠ some '.' := fun hhead ↦
      hpoint (mem_head?_of_isPrefix hhead ((List.prefix_append_right_inj used).2 hahead))
    simp only [behindWhole, if_neg hnone]
    exact hagain hahead

/-- One digit or more, of which the first is zero only if it is the last. -/
def IsWhole (digits : List Char) : Prop :=
  (∀ c ∈ digits, c.isDigit = true) ∧ ∃ c cs, digits = c :: cs ∧ (c = '0' → cs = [])

theorem number_append (negative : Bool) {digits tail : List Char} (hdigits : IsWhole digits)
    (htail : NoDigitFirst tail) :
    number negative (digits ++ tail) = behindWhole negative digits tail := by
  obtain ⟨hall, c, cs, rfl, hzero⟩ := hdigits
  have hfirst : (!c.isDigit) = false := by simp [hall c List.mem_cons_self]
  have hleading : (c == '0' && (cs ++ tail).head?.any Char.isDigit) = false := by
    by_cases hc : c = '0'
    · rw [hzero hc, List.nil_append, Bool.and_eq_false_imp]
      rintro -
      cases tail with
      | nil => rfl
      | cons d ds => exact htail d rfl
    · simp [hc]
  have hread : Decimal.readDigits (c :: (cs ++ tail)) = (c :: cs, tail) :=
    Decimal.readDigits_append hall htail
  simp only [List.cons_append, number, hfirst, hleading, Bool.false_eq_true, if_false, hread]
  cases tail with
  | nil => rfl
  | cons d ds =>
    by_cases hpoint : d = '.'
    · rw [hpoint]
      rfl
    · have hhead : (d :: ds).head? ≠ some '.' := fun hd ↦ hpoint (Option.some.inj hd)
      simp only [behindWhole, if_neg hhead]
      rfl

/-- A number starts with its whole digits. -/
theorem exists_of_number {negative : Bool} {cs rest : List Char} {x : Number}
    (h : number negative cs = .ok (x, rest)) :
    ∃ digits tail, cs = digits ++ tail ∧ IsWhole digits ∧ NoDigitFirst tail := by
  cases cs with
  | nil => cases h
  | cons c cs =>
    rcases hsplit : Decimal.readDigits cs with ⟨digits, tail⟩
    obtain ⟨hdigits, rfl⟩ := Decimal.eq_append_of_readDigits hsplit
    have hdigit : c.isDigit = true := by
      by_contra hfirst
      have hnot : (!c.isDigit) = true := by simpa using hfirst
      simp only [number, hnot, if_true] at h
      cases h
    refine ⟨c :: digits, tail, rfl, ⟨List.forall_mem_cons.2 ⟨hdigit, hdigits⟩, c, digits, rfl, ?_⟩,
      noDigitFirst_of_readDigits hsplit⟩
    intro hzero
    cases digits with
    | nil => rfl
    | cons d digits =>
      have hd : d.isDigit = true := hdigits d List.mem_cons_self
      have hleading : (c == '0' && (d :: digits ++ tail).head?.any Char.isDigit) = true := by
        simp [hzero, hd]
      simp only [number, hdigit, Bool.not_true, Bool.false_eq_true, if_false, hleading,
        if_true] at h
      cases h

theorem local_number (negative : Bool) : Local Sound (number negative) := by
  intro cs x rest h
  obtain ⟨digits, tail, rfl, hdigits, htail⟩ := exists_of_number h
  rw [number_append negative hdigits htail] at h
  obtain ⟨used, hused, rfl, hagain⟩ := local_behindWhole negative digits h
  have hmarks := (marks_of_isDigit hdigits.1).append hused
  have hne : digits ++ used ≠ [] := by
    obtain ⟨-, c, cs, rfl, -⟩ := hdigits
    exact List.cons_ne_nil _ _
  refine ⟨digits ++ used, hmarks.sound hne, by simp, fun ahead hahead ↦ ?_⟩
  have hstop := noDigitFirst_of_isPrefix htail ((List.prefix_append_right_inj used).2 hahead)
  rw [List.append_assoc, number_append negative hdigits hstop]
  exact hagain hahead

end FilterQuery.Json.Reader
