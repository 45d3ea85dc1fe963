import FilterQuery.Proofs.Calendar.Reading

/-!
# All forms of a timestamp agree

A timestamp is written as a date, as a date with a time of day in UTC, or as a date-time of RFC 3339
with an offset. Whatever the form, the text stands for the day number of its date, its time of day
and its offset taken together, and for nothing if the calendar has no such date or the day has no
such time.

The forms are tried one after the other. So each has to be read by its own reader and refused by
those that come before it: a date-time of RFC 3339 ends with an offset, and its other characters
stand in fixed places.
-/

namespace FilterQuery.Calendar

open FilterQuery.Text (isBlank trimStart trimEnd trim)

/-! ## Forms -/

/-- A number in one digit or in two. -/
structure IsShort (cs : List Char) (n : Nat) : Prop where
  ne_nil : cs ≠ []
  length_le : cs.length ≤ 2
  isDigit : ∀ c ∈ cs, c.isDigit = true
  value : ofDigits cs = n

/-- Hour and minute, and a second or none, with colons between them. -/
inductive SpellsClock : List Char → Nat → Nat → Nat → Prop
  | minute {h m : List Char} {hour minute : Nat} (hh : IsShort h hour) (hm : IsShort m minute) :
      SpellsClock (h ++ ':' :: m) hour minute 0
  | second {h m s : List Char} {hour minute second : Nat} (hh : IsShort h hour)
      (hm : IsShort m minute) (hs : IsShort s second) :
      SpellsClock (h ++ ':' :: (m ++ ':' :: s)) hour minute second

/-- A fraction of a second, if there is one, in milliseconds and cut off behind them. -/
inductive SpellsFraction : List Char → Nat → Prop
  | none : SpellsFraction [] 0
  | some {digits : List Char} (hne : digits ≠ []) (h : ∀ c ∈ digits, c.isDigit = true) :
      SpellsFraction ('.' :: digits) (ofDigits digits * 1000 / 10 ^ digits.length)

/-- Hours and minutes of an offset. -/
def offsetSize (hour minute : Nat) : List Char := padded 2 hour ++ ':' :: padded 2 minute

/-- An offset from UTC of less than a day, in minutes and positive to the east. -/
inductive SpellsOffset : List Char → Int → Prop
  | utc : SpellsOffset ['Z'] 0
  | east {hour minute : Nat} (hhour : hour < 24) (hminute : minute < 60) :
      SpellsOffset ('+' :: offsetSize hour minute) (60 * hour + minute)
  | west {hour minute : Nat} (hhour : hour < 24) (hminute : minute < 60) :
      SpellsOffset ('-' :: offsetSize hour minute) (-(60 * hour + minute))

/-- Date and time of day in the fields of RFC 3339. -/
def Date.writeWithTime (date : Date) (hour minute second : Nat) : List Char :=
  date.write ++ 'T' :: (padded 2 hour ++ ':' :: (padded 2 minute ++ ':' :: padded 2 second))

/-- Which date, time of day and offset a text is a form of, be they real or not. -/
inductive Spells : String → Date → TimeOfDay → Int → Prop
  | date {date : Date} (h : date.HasShortFields) : Spells date.text date .midnight 0
  | clock {date : Date} (h : date.HasShortFields) {clock : List Char} {hour minute second : Nat}
      (hclock : SpellsClock clock hour minute second) :
      Spells (String.ofList (date.write ++ 'T' :: clock)) date ⟨hour, minute, second, 0⟩ 0
  | rfc3339 {date : Date} (h : date.HasShortFields) (hleast : 0 ≤ date.year)
      (hgreatest : date.year ≤ 9999) {hour minute second : Nat} (hhour : hour < 100)
      (hminute : minute < 100) (hsecond : second < 100) {fraction zone : List Char}
      {millisecond : Nat} {offset : Int} (hfraction : SpellsFraction fraction millisecond)
      (hzone : SpellsOffset zone offset) :
      Spells (String.ofList (date.writeWithTime hour minute second ++ (fraction ++ zone))) date
        ⟨hour, minute, second, millisecond⟩ offset

/-! ## Digits -/

theorem ofDigits_append (cs ds : List Char) :
    ofDigits (cs ++ ds) = 10 ^ ds.length * ofDigits cs + ofDigits ds := by
  simp only [ofDigits_eq_ofDigitChars]
  rw [Nat.ofDigitChars_append, Nat.ofDigitChars_eq_ofDigitChars_zero]

theorem ofDigits_lt {cs : List Char} (h : ∀ c ∈ cs, c.isDigit = true) :
    ofDigits cs < 10 ^ cs.length := by
  induction cs with
  | nil => decide
  | cons c cs ih =>
    rw [List.forall_mem_cons] at h
    have hnine : c.toNat ≤ 57 := (Char.isDigit_iff_toNat.1 h.1).2
    have hdigit : ofDigits [c] ≤ 9 := by
      show 10 * 0 + (c.toNat - 48) ≤ 9
      omega
    have hrest := ih h.2
    calc ofDigits (c :: cs)
      _ = 10 ^ cs.length * ofDigits [c] + ofDigits cs := ofDigits_append [c] cs
      _ < 10 ^ cs.length * (ofDigits [c] + 1) := by
        rw [Nat.mul_succ]
        exact Nat.add_lt_add_left hrest _
      _ ≤ 10 ^ cs.length * 10 := Nat.mul_le_mul_left _ (Nat.succ_le_succ hdigit)
      _ = 10 ^ (c :: cs).length := (Nat.pow_succ 10 cs.length).symm

theorem isShort_padded {n : Nat} (h : n < 100) : IsShort (padded 2 n) n where
  ne_nil := padded_ne_nil 2 n
  length_le := (length_padded (by decide) h).le
  isDigit := fun _ ↦ isDigit_of_mem_padded
  value := ofDigits_padded 2 n

theorem isShort_zeros : IsShort ['0', '0'] 0 := by
  have hpadded : padded 2 0 = ['0', '0'] := by decide
  exact hpadded ▸ isShort_padded (by decide : 0 < 100)

/-- The first three digits of a fraction are its milliseconds. -/
theorem ofDigits_take_three {digits : List Char} (hne : digits ≠ [])
    (h : ∀ c ∈ digits, c.isDigit = true) :
    ofDigits ((digits ++ ['0', '0']).take 3) = ofDigits digits * 1000 / 10 ^ digits.length := by
  obtain ⟨n, hn⟩ : ∃ n, digits.length = n + 1 :=
    Nat.exists_eq_succ_of_ne_zero (List.length_pos_iff.2 hne).ne'
  have hlength : ((digits ++ ['0', '0']).drop 3).length = n := by simp [hn]
  have hdigits : ∀ c ∈ (digits ++ ['0', '0']).drop 3, c.isDigit = true := by
    have hall : ∀ c ∈ digits ++ ['0', '0'], c.isDigit = true :=
      List.forall_mem_append.2 ⟨h, isShort_zeros.isDigit⟩
    exact fun c hc ↦ hall c (List.mem_of_mem_drop hc)
  have hrest : ofDigits ((digits ++ ['0', '0']).drop 3) < 10 ^ n := hlength ▸ ofDigits_lt hdigits
  have hsplit : 10 ^ n * ofDigits ((digits ++ ['0', '0']).take 3) +
      ofDigits ((digits ++ ['0', '0']).drop 3) = 100 * ofDigits digits := by
    calc 10 ^ n * ofDigits ((digits ++ ['0', '0']).take 3) +
        ofDigits ((digits ++ ['0', '0']).drop 3)
      _ = ofDigits (digits ++ ['0', '0']) := by
        rw [← hlength, ← ofDigits_append, List.take_append_drop]
      _ = 100 * ofDigits digits := ofDigits_append digits ['0', '0']
  calc ofDigits ((digits ++ ['0', '0']).take 3)
    _ = 100 * ofDigits digits / 10 ^ n := by
      rw [← hsplit, Nat.mul_add_div (Nat.pow_pos (by decide)), Nat.div_eq_of_lt hrest, Nat.add_zero]
    _ = 100 * ofDigits digits * 10 / (10 ^ n * 10) :=
      (Nat.mul_div_mul_right _ _ (by decide)).symm
    _ = ofDigits digits * 1000 / 10 ^ digits.length := by
      rw [hn, Nat.pow_succ]
      congr 1
      omega

/-! ## Reading fields -/

theorem bind_of_eq_some {α β : Type} {x : Option α} {a : α} (h : x = some a) {f : α → Option β} :
    x.bind f = f a := by
  rw [h, Option.bind_some]

/-- A text that does not go on with a digit. -/
def NoDigitFirst (cs : List Char) : Prop := ∀ c ∈ cs.head?, c.isDigit = false

theorem noDigitFirst_nil : NoDigitFirst [] := nofun

theorem noDigitFirst_cons {c : Char} (h : c.isDigit = false) (cs : List Char) :
    NoDigitFirst (c :: cs) := by
  rintro _ ⟨⟩
  exact h

theorem readNumber?_short {cs : List Char} {n : Nat} (h : IsShort cs n) {rest : List Char}
    (hrest : NoDigitFirst rest) :
    readNumber? 2 (cs ++ rest) = some (n, rest) := by
  obtain ⟨hne, hlength, hdigit, rfl⟩ := h
  have hstart : trimStart (cs ++ rest) = cs ++ rest := by
    obtain ⟨c, ds, rfl⟩ := List.exists_cons_of_ne_nil hne
    exact Text.trimStart_cons_of_not_isBlank _ (isBlank_of_isDigit (hdigit c List.mem_cons_self))
  have hstop : (rest.take (2 - cs.length)).takeWhile Char.isDigit = [] := by
    cases rest with
    | nil => simp
    | cons d rest =>
      have hd : d.isDigit = false := hrest d rfl
      cases 2 - cs.length <;> simp [hd]
  have hread : ((cs ++ rest).take 2).takeWhile Char.isDigit = cs := by
    rw [List.take_append, List.take_of_length_le hlength, List.takeWhile_append_of_pos hdigit,
      hstop, List.append_nil]
  simp only [readNumber?, hstart, hread, List.isEmpty_iff, hne, if_false, List.drop_left]

theorem readFixed?_padded {width n : Nat} (hwidth : 0 < width) (h : n < 10 ^ width)
    (rest : List Char) : readFixed? width (padded width n ++ rest) = some (n, rest) := by
  have hlength := length_padded hwidth h
  have htake : (padded width n ++ rest).take width = padded width n := List.take_left' hlength
  have hdrop : (padded width n ++ rest).drop width = rest := List.drop_left' hlength
  have hdigits : (padded width n).all Char.isDigit = true :=
    List.all_eq_true.2 fun c ↦ isDigit_of_mem_padded
  simp [readFixed?, htake, hdrop, hlength, hdigits, ofDigits_padded]

theorem readFixed?_two {n : Nat} (h : n < 100) (rest : List Char) :
    readFixed? 2 (padded 2 n ++ rest) = some (n, rest) :=
  readFixed?_padded (by decide) h rest

/-- The characters that an offset begins with. -/
def offsetSigns : List Char := ['Z', 'z', '+', '-', '\u2212']

theorem isDigit_of_mem_offsetSigns {c : Char} (hc : c ∈ offsetSigns) : c.isDigit = false := by
  have hall : offsetSigns.all (!·.isDigit) = true := by decide
  simpa using List.all_eq_true.1 hall c hc

/-- A fraction ends where the offset begins. -/
theorem readMilliseconds?_fraction {fraction : List Char} {millisecond : Nat}
    (h : SpellsFraction fraction millisecond) {c : Char} (hc : c ∈ offsetSigns)
    (rest : List Char) :
    readMilliseconds? (fraction ++ c :: rest) = some (millisecond, c :: rest) := by
  have hdigit : c.isDigit = false := isDigit_of_mem_offsetSigns hc
  cases h with
  | none =>
    unfold readMilliseconds?
    split
    case h_1 heq =>
      obtain rfl := (List.cons.inj heq).1
      exact absurd hc (by decide)
    case h_2 => rfl
  | @some digits hne hdigits =>
    have hread : Decimal.readDigits (digits ++ c :: rest) = (digits, c :: rest) := by
      rw [Decimal.readDigits, List.takeWhile_append_of_pos hdigits,
        List.dropWhile_append_of_pos hdigits, List.takeWhile_cons_of_neg (by simp [hdigit]),
        List.dropWhile_cons_of_neg (by simp [hdigit]), List.append_nil]
    simp only [List.cons_append, readMilliseconds?, hread, List.isEmpty_iff, hne, if_false,
      ofDigits_take_three hne hdigits]

theorem readOffsetSize?_offsetSize {hour minute : Nat} (hhour : hour < 100)
    (hminute : minute < 100) : readOffsetSize? (offsetSize hour minute) =
      if hour < 24 ∧ minute < 60 then some (60 * hour + minute, []) else none := by
  have hread := readFixed?_two hminute []
  rw [List.append_nil] at hread
  simp only [readOffsetSize?, offsetSize, readFixed?_two hhour, expect?_cons, hread,
    Option.bind_eq_bind, Option.bind_some]
  rfl

theorem readOffset?_zone {zone : List Char} {offset : Int} (h : SpellsOffset zone offset) :
    readOffset? zone = some (offset, []) := by
  cases h with
  | utc => rfl
  | @east hour minute hhour hminute =>
    have hsize := readOffsetSize?_offsetSize (hhour.trans (by decide)) (hminute.trans (by decide))
    rw [if_pos ⟨hhour, hminute⟩] at hsize
    simp [readOffset?, hsize]
  | @west hour minute hhour hminute =>
    have hsize := readOffsetSize?_offsetSize (hhour.trans (by decide)) (hminute.trans (by decide))
    rw [if_pos ⟨hhour, hminute⟩] at hsize
    simp [readOffset?, hsize]

/-! ## What each reader accepts -/

/-- A date is no date-time, and a date-time is no date. -/
theorem dateTimestamp?_write {date : Date} (h : date.HasShortFields) (rest : List Char) :
    dateTimestamp? (date.write ++ rest) =
      if rest.isEmpty then timestamp? date .midnight else none := by
  rw [dateTimestamp?, Date.readDate?_write h]
  rfl

section

variable {date : Date} (h : date.HasShortFields)

include h

theorem readMinute?_write {hh m : List Char} {hour minute : Nat} (hhour : IsShort hh hour)
    (hminute : IsShort m minute) {rest : List Char} (hrest : NoDigitFirst rest) :
    readMinute? (date.write ++ 'T' :: (hh ++ ':' :: (m ++ rest))) =
      some (date, hour, minute, rest) := by
  have hcolon : NoDigitFirst (':' :: (m ++ rest)) := noDigitFirst_cons (by decide) _
  simp only [readMinute?, Date.readDate?_write h, expect?_cons, readNumber?_short hhour hcolon,
    readNumber?_short hminute hrest, Option.bind_eq_bind, Option.bind_some]
  rfl

end

/-! ## What RFC 3339 asks for -/

theorem readFixed?_eq_some {width n : Nat} {cs rest : List Char}
    (h : readFixed? width cs = some (n, rest)) :
    rest = cs.drop width ∧ ∀ c ∈ cs.take width, c.isDigit = true := by
  simp only [readFixed?, Option.ite_none_right_eq_some, Option.some.injEq, Prod.mk.injEq,
    Bool.and_eq_true, List.all_eq_true] at h
  obtain ⟨⟨-, hdigits⟩, -, rfl⟩ := h
  exact ⟨rfl, hdigits⟩

theorem expect?_eq_some {c : Char} {cs rest : List Char} (h : expect? c cs = some rest) :
    rest = cs.drop 1 := by
  unfold expect? at h
  split at h
  · split at h <;> cases h
    rfl
  · cases h

theorem readSeparator?_eq_some {cs rest : List Char} (h : readSeparator? cs = some rest) :
    rest = cs.drop 1 := by
  unfold readSeparator? at h
  split at h
  · split at h <;> cases h
    rfl
  · cases h

theorem readMilliseconds?_eq_some {n : Nat} {cs rest : List Char}
    (h : readMilliseconds? cs = some (n, rest)) : (∃ k, rest = cs.drop k) ∧ n < 1000 := by
  unfold readMilliseconds? at h
  split at h
  case h_1 cs =>
    obtain ⟨-, h⟩ := Option.ite_none_left_eq_some.1 h
    cases h
    have hdigits : ∀ c ∈ (cs.takeWhile Char.isDigit ++ ['0', '0']).take 3, c.isDigit = true := by
      have hall : ∀ c ∈ cs.takeWhile Char.isDigit ++ ['0', '0'], c.isDigit = true :=
        List.forall_mem_append.2 ⟨List.all_eq_true.1 List.all_takeWhile, isShort_zeros.isDigit⟩
      exact fun c hc ↦ hall c (List.mem_of_mem_take hc)
    refine ⟨⟨(cs.takeWhile Char.isDigit).length + 1, ?_⟩, ?_⟩
    · have hsplit := List.takeWhile_append_dropWhile (p := Char.isDigit) (l := cs)
      rw [List.drop_succ_cons]
      exact (List.drop_left' rfl).symm.trans (congrArg _ hsplit)
    · calc ofDigits ((cs.takeWhile Char.isDigit ++ ['0', '0']).take 3)
        _ < 10 ^ ((cs.takeWhile Char.isDigit ++ ['0', '0']).take 3).length := ofDigits_lt hdigits
        _ ≤ 10 ^ 3 := Nat.pow_le_pow_right (by decide) (List.length_take_le 3 _)
  case h_2 =>
    cases h
    exact ⟨⟨0, rfl⟩, by decide⟩

theorem readOffsetSize?_eq_some {n : Nat} {cs rest : List Char}
    (h : readOffsetSize? cs = some (n, rest)) : n < 1440 := by
  obtain ⟨⟨hour, _⟩, -, h⟩ := Option.bind_eq_some_iff.1 h
  obtain ⟨_, -, h⟩ := Option.bind_eq_some_iff.1 h
  obtain ⟨⟨minute, _⟩, -, h⟩ := Option.bind_eq_some_iff.1 h
  simp only [Option.ite_none_right_eq_some] at h
  obtain ⟨⟨hhour, hminute⟩, h⟩ := h
  cases h
  omega

theorem readOffset?_eq_some {offset : Int} {cs rest : List Char}
    (h : readOffset? cs = some (offset, rest)) :
    (∃ c ∈ cs.head?, c ∈ offsetSigns) ∧ offset.natAbs < 1440 := by
  unfold readOffset? at h
  split at h
  case h_1 => cases h
  case h_2 c cs =>
    split_ifs at h with hutc heast hwest
    · cases h
      exact ⟨⟨c, rfl, List.mem_append_left ['+', '-', '\u2212'] hutc⟩, by decide⟩
    · obtain ⟨⟨size, _⟩, hsize, h⟩ := Option.map_eq_some_iff.1 h
      cases h
      exact ⟨⟨c, rfl, heast ▸ by decide⟩, readOffsetSize?_eq_some hsize⟩
    · obtain ⟨⟨size, _⟩, hsize, h⟩ := Option.map_eq_some_iff.1 h
      cases h
      refine ⟨⟨c, rfl, List.mem_append_right ['Z', 'z', '+'] hwest⟩, ?_⟩
      rw [Int.natAbs_neg]
      exact readOffsetSize?_eq_some hsize

/-- A text that RFC 3339 admits starts with four digits, has an offset behind its second, and stands
for a time that is real. -/
theorem rfc3339Timestamp?_eq_some {cs : List Char} {t : Int} (h : rfc3339Timestamp? cs = some t) :
    (∀ c ∈ cs.take 4, c.isDigit = true) ∧ (∃ c ∈ cs.drop 19, c ∈ offsetSigns) ∧
      ∃ date time offset, timestamp? date time = some (t + 60000 * offset) ∧
        time.millisecond < 1000 ∧ offset.natAbs < 1440 := by
  obtain ⟨⟨year, _⟩, hyear, h⟩ := Option.bind_eq_some_iff.1 h
  obtain ⟨rfl, hdigits⟩ := readFixed?_eq_some hyear
  obtain ⟨_, hdash, h⟩ := Option.bind_eq_some_iff.1 h
  obtain rfl := expect?_eq_some hdash
  obtain ⟨⟨month, _⟩, hmonth, h⟩ := Option.bind_eq_some_iff.1 h
  obtain ⟨rfl, -⟩ := readFixed?_eq_some hmonth
  obtain ⟨_, hdash', h⟩ := Option.bind_eq_some_iff.1 h
  obtain rfl := expect?_eq_some hdash'
  obtain ⟨⟨day, _⟩, hday, h⟩ := Option.bind_eq_some_iff.1 h
  obtain ⟨rfl, -⟩ := readFixed?_eq_some hday
  obtain ⟨_, hseparator, h⟩ := Option.bind_eq_some_iff.1 h
  obtain rfl := readSeparator?_eq_some hseparator
  obtain ⟨⟨hour, _⟩, hhour, h⟩ := Option.bind_eq_some_iff.1 h
  obtain ⟨rfl, -⟩ := readFixed?_eq_some hhour
  obtain ⟨_, hcolon, h⟩ := Option.bind_eq_some_iff.1 h
  obtain rfl := expect?_eq_some hcolon
  obtain ⟨⟨minute, _⟩, hminute, h⟩ := Option.bind_eq_some_iff.1 h
  obtain ⟨rfl, -⟩ := readFixed?_eq_some hminute
  obtain ⟨_, hcolon', h⟩ := Option.bind_eq_some_iff.1 h
  obtain rfl := expect?_eq_some hcolon'
  obtain ⟨⟨second, _⟩, hsecond, h⟩ := Option.bind_eq_some_iff.1 h
  obtain ⟨rfl, -⟩ := readFixed?_eq_some hsecond
  obtain ⟨⟨millisecond, _⟩, hfraction, h⟩ := Option.bind_eq_some_iff.1 h
  obtain ⟨⟨k, rfl⟩, hmillisecond⟩ := readMilliseconds?_eq_some hfraction
  obtain ⟨⟨offset, rest⟩, hoffset, h⟩ := Option.bind_eq_some_iff.1 h
  obtain ⟨⟨c, hhead, hsign⟩, hbound⟩ := readOffset?_eq_some hoffset
  obtain ⟨utc, hutc, h⟩ := Option.bind_eq_some_iff.1 h
  simp only [Option.ite_none_right_eq_some] at h
  obtain ⟨-, h⟩ := h
  cases h
  have hmem := List.mem_of_mem_head? hhead
  simp only [List.drop_drop] at hmem
  refine ⟨hdigits, ⟨c, List.drop_subset_drop_left cs (by omega) hmem, hsign⟩, ⟨year, month, day⟩,
    ⟨hour, minute, second, millisecond⟩, offset, ?_, hmillisecond, hbound⟩
  rw [hutc, Int.sub_add_cancel]

/-! ## Characters -/

/-- The characters of a form beside digits. -/
def formSigns : List Char := ['-', '+', 'T', ':', '.', 'Z']

/-- A text of digits and signs. -/
def IsForm (cs : List Char) : Prop := ∀ c ∈ cs, c.isDigit = true ∨ c ∈ formSigns

theorem IsForm.not_isBlank {cs : List Char} (h : IsForm cs) : ∀ c ∈ cs, isBlank c = false := by
  have hall : formSigns.all (!isBlank ·) = true := by decide
  have hsigns (c : Char) (hc : c ∈ formSigns) : isBlank c = false := by
    simpa using List.all_eq_true.1 hall c hc
  exact fun c hc ↦ (h c hc).elim isBlank_of_isDigit (hsigns c)

theorem IsForm.append {cs ds : List Char} (h : IsForm cs) (h' : IsForm ds) : IsForm (cs ++ ds) :=
  List.forall_mem_append.2 ⟨h, h'⟩

theorem IsForm.sign {c : Char} {cs : List Char} (hc : c ∈ formSigns) (h : IsForm cs) :
    IsForm (c :: cs) :=
  List.forall_mem_cons.2 ⟨.inr hc, h⟩

theorem isForm_of_isDigit {cs : List Char} (h : ∀ c ∈ cs, c.isDigit = true) : IsForm cs :=
  fun c hc ↦ .inl (h c hc)

theorem isForm_padded (width n : Nat) : IsForm (padded width n) :=
  isForm_of_isDigit fun _ ↦ isDigit_of_mem_padded

theorem Date.isForm_write (date : Date) : IsForm date.write := by
  intro c hc
  rcases mem_write hc with hdigit | rfl | rfl
  · exact .inl hdigit
  · exact .inr (by decide)
  · exact .inr (by decide)

theorem Date.isForm_writeWithTime (date : Date) (hour minute second : Nat) :
    IsForm (date.writeWithTime hour minute second) :=
  date.isForm_write.append (.sign (by decide) ((isForm_padded _ _).append
    (.sign (by decide) ((isForm_padded _ _).append (.sign (by decide) (isForm_padded _ _))))))

theorem isForm_offsetSize (hour minute : Nat) : IsForm (offsetSize hour minute) :=
  (isForm_padded _ _).append (.sign (by decide) (isForm_padded _ _))

theorem SpellsFraction.isForm {fraction : List Char} {millisecond : Nat}
    (h : SpellsFraction fraction millisecond) : IsForm fraction := by
  cases h with
  | none => exact nofun
  | some _ hdigits => exact .sign (by decide) (isForm_of_isDigit hdigits)

theorem SpellsOffset.isForm {zone : List Char} {offset : Int} (h : SpellsOffset zone offset) :
    IsForm zone := by
  cases h with
  | utc => exact .sign (by decide) nofun
  | east | west => exact .sign (by decide) (isForm_offsetSize _ _)

/-- A clock has digits and colons only. -/
theorem SpellsClock.forall_mem {clock : List Char} {hour minute second : Nat}
    (h : SpellsClock clock hour minute second) : ∀ c ∈ clock, c.isDigit = true ∨ c = ':' := by
  have hshort {cs : List Char} {n : Nat} (h : IsShort cs n) :
      ∀ c ∈ cs, c.isDigit = true ∨ c = ':' := fun c hc ↦ .inl (h.isDigit c hc)
  have hcolon {cs : List Char} (h : ∀ c ∈ cs, c.isDigit = true ∨ c = ':') :
      ∀ c ∈ ':' :: cs, c.isDigit = true ∨ c = ':' := List.forall_mem_cons.2 ⟨.inr rfl, h⟩
  cases h with
  | minute hh hm => exact List.forall_mem_append.2 ⟨hshort hh, hcolon (hshort hm)⟩
  | second hh hm hs =>
    exact List.forall_mem_append.2
      ⟨hshort hh, hcolon (List.forall_mem_append.2 ⟨hshort hm, hcolon (hshort hs)⟩)⟩

theorem SpellsClock.isForm {clock : List Char} {hour minute second : Nat}
    (h : SpellsClock clock hour minute second) : IsForm clock := by
  intro c hc
  rcases h.forall_mem c hc with hdigit | rfl
  · exact .inl hdigit
  · exact .inr (by decide)

/-! ## Texts by their form -/

theorem Date.writeYear_of_le {date : Date} (hleast : 0 ≤ date.year)
    (hgreatest : date.year ≤ 9999) : writeYear date.year = padded 4 date.year.natAbs := by
  rw [writeYear, if_neg (Int.not_lt.2 hleast), if_neg (Int.not_lt.2 hgreatest)]

/-- Digits and colons behind a date make no date-time of RFC 3339. -/
theorem rfc3339Timestamp?_write {date : Date} (h : date.HasShortFields) {rest : List Char}
    (hrest : ∀ c ∈ rest, c ∉ offsetSigns) : rfc3339Timestamp? (date.write ++ rest) = none := by
  cases hcase : rfc3339Timestamp? (date.write ++ rest) with
  | none => rfl
  | some t =>
    obtain ⟨hdigits, ⟨c, hc, hsign⟩, -⟩ := rfc3339Timestamp?_eq_some hcase
    unfold Date.write writeYear at hdigits
    split_ifs at hdigits with hnegative hlong
    · exact absurd (hdigits '-' List.mem_cons_self) (by decide)
    · exact absurd (hdigits '+' List.mem_cons_self) (by decide)
    have hyear : date.year.natAbs < 10 ^ 4 := by omega
    have hlength : date.write.length = 10 := by
      rw [Date.write, Date.writeYear_of_le (by omega) (by omega)]
      simp only [List.length_append, List.length_cons, length_padded (by decide : 0 < 4) hyear,
        length_padded (by decide : 0 < 2) h.month_lt, length_padded (by decide : 0 < 2) h.day_lt]
    rw [List.drop_append, List.drop_of_length_le (by omega), List.nil_append] at hc
    exact absurd hsign (hrest c (List.mem_of_mem_drop hc))

/-- The readers of a text without blanks, one after the other. -/
theorem parseTimestamp?_ofList {cs : List Char} (h : IsForm cs) :
    parseTimestamp? (String.ofList cs) = (dateTimestamp? cs <|> rfc3339Timestamp? cs <|>
      secondTimestamp? cs <|> minuteTimestamp? cs) := by
  have htrim : trim (String.ofList cs) = String.ofList cs :=
    trim_of_forall (by rw [String.toList_ofList]; exact h.not_isBlank)
  rw [parseTimestamp?, htrim, String.toList_ofList]

/-- A date and nothing behind it. -/
theorem parseTimestamp?_date {date : Date} (h : date.HasShortFields) :
    parseTimestamp? date.text = timestamp? date .midnight := by
  have hdate : dateTimestamp? date.write = timestamp? date .midnight := by
    simpa using dateTimestamp?_write h []
  have hrfc : rfc3339Timestamp? date.write = none := by
    simpa using rfc3339Timestamp?_write h (nofun : ∀ c ∈ [], c ∉ offsetSigns)
  have hread : readMinute? date.write = none := by
    have hend := Date.readDate?_write h []
    rw [List.append_nil] at hend
    rw [readMinute?, hend]
    rfl
  have hsecond : secondTimestamp? date.write = none := by
    rw [secondTimestamp?, hread]
    rfl
  have hminute : minuteTimestamp? date.write = none := by
    rw [minuteTimestamp?, hread]
    rfl
  rw [Date.text, parseTimestamp?_ofList date.isForm_write, hdate, hrfc, hsecond, hminute]
  simp

theorem parseTimestamp?_clock {date : Date} (h : date.HasShortFields) {clock : List Char}
    {hour minute second : Nat} (hclock : SpellsClock clock hour minute second) :
    parseTimestamp? (String.ofList (date.write ++ 'T' :: clock)) =
      timestamp? date ⟨hour, minute, second, 0⟩ := by
  have hform : IsForm (date.write ++ 'T' :: clock) :=
    date.isForm_write.append (.sign (by decide) hclock.isForm)
  have hdate : dateTimestamp? (date.write ++ 'T' :: clock) = none := dateTimestamp?_write h _
  have hsigns : ∀ c ∈ 'T' :: clock, c ∉ offsetSigns := by
    refine List.forall_mem_cons.2 ⟨by decide, fun c hc hsign ↦ ?_⟩
    rcases hclock.forall_mem c hc with hdigit | rfl
    · rw [isDigit_of_mem_offsetSigns hsign] at hdigit
      cases hdigit
    · exact absurd hsign (by decide)
  rw [parseTimestamp?_ofList hform, hdate, rfc3339Timestamp?_write h hsigns]
  cases hclock with
  | @minute hh m hour minute hhour hminute =>
    have hread := readMinute?_write h hhour hminute noDigitFirst_nil
    rw [List.append_nil] at hread
    have hnone : secondTimestamp? (date.write ++ 'T' :: (hh ++ ':' :: m)) = none := by
      rw [secondTimestamp?, hread]
      rfl
    rw [hnone, minuteTimestamp?, hread]
    simp
  | @second hh m s hour minute second hhour hminute hsecond =>
    have hcolon : NoDigitFirst (':' :: s) := noDigitFirst_cons (by decide) s
    have hread := readMinute?_write h hhour hminute hcolon
    have hend := readNumber?_short hsecond noDigitFirst_nil
    rw [List.append_nil] at hend
    have hnone : minuteTimestamp? (date.write ++ 'T' :: (hh ++ ':' :: (m ++ ':' :: s))) =
        none := by
      rw [minuteTimestamp?, hread]
      rfl
    rw [hnone, secondTimestamp?, hread]
    simp [expect?_cons, hend]

section

variable {date : Date} (h : date.HasShortFields) (hleast : 0 ≤ date.year)
  (hgreatest : date.year ≤ 9999) {hour minute second : Nat} (hhour : hour < 100)
  (hminute : minute < 100) (hsecond : second < 100) {fraction zone : List Char} {millisecond : Nat}
  (hfraction : SpellsFraction fraction millisecond)

include h hleast hgreatest hhour hminute hsecond hfraction

/-- A date-time of RFC 3339 is read by its own reader. -/
theorem parseTimestamp?_rfc3339 (hzone : IsForm zone) (hsign : ∃ c ∈ zone.head?, c ∈ offsetSigns) :
    parseTimestamp? (String.ofList
        (date.writeWithTime hour minute second ++ (fraction ++ zone))) =
      (readOffset? zone).bind fun (offset, rest) ↦
        (timestamp? date ⟨hour, minute, second, millisecond⟩).bind fun utc ↦
          if rest.isEmpty then some (utc - 60000 * offset) else none := by
  have hform : IsForm (date.writeWithTime hour minute second ++ (fraction ++ zone)) :=
    (date.isForm_writeWithTime hour minute second).append (hfraction.isForm.append hzone)
  obtain ⟨c, hc, hsign⟩ := hsign
  obtain ⟨zone, rfl⟩ := List.head?_eq_some_iff.1 hc
  have htext : date.writeWithTime hour minute second ++ (fraction ++ c :: zone) =
      date.write ++ 'T' :: (padded 2 hour ++ ':' :: (padded 2 minute ++ ':' :: (padded 2 second ++
        (fraction ++ c :: zone)))) := by
    simp [Date.writeWithTime]
  have hdate : dateTimestamp? (date.writeWithTime hour minute second ++ (fraction ++ c :: zone)) =
      none := by
    rw [htext]
    exact dateTimestamp?_write h _
  have hcolon : NoDigitFirst (':' :: (padded 2 second ++ (fraction ++ c :: zone))) :=
    noDigitFirst_cons (by decide) _
  have hread := readMinute?_write h (isShort_padded hhour) (isShort_padded hminute) hcolon
  have hnodigit : NoDigitFirst (fraction ++ c :: zone) := by
    cases hfraction with
    | none => exact noDigitFirst_cons (isDigit_of_mem_offsetSigns hsign) zone
    | some => exact noDigitFirst_cons (by decide) _
  have hlast := readNumber?_short (isShort_padded hsecond) hnodigit
  have hminutes : minuteTimestamp? (date.writeWithTime hour minute second ++
      (fraction ++ c :: zone)) = none := by
    rw [htext, minuteTimestamp?, hread]
    rfl
  have hseconds : secondTimestamp? (date.writeWithTime hour minute second ++
      (fraction ++ c :: zone)) = none := by
    rw [htext, secondTimestamp?, hread]
    simp [expect?_cons, hlast]
  have hyear : date.year.natAbs < 10 ^ 4 := by omega
  have hsame : (date.year.natAbs : Int) = date.year := by omega
  have hseparator (rest : List Char) : readSeparator? ('T' :: rest) = some rest := rfl
  have hrfc : rfc3339Timestamp? (date.writeWithTime hour minute second ++
      (fraction ++ c :: zone)) = (readOffset? (c :: zone)).bind fun (offset, rest) ↦
        (timestamp? date ⟨hour, minute, second, millisecond⟩).bind fun utc ↦
          if rest.isEmpty then some (utc - 60000 * offset) else none := by
    rw [htext, Date.write, Date.writeYear_of_le hleast hgreatest]
    simp only [List.append_assoc, List.cons_append]
    refine (bind_of_eq_some (readFixed?_padded (by decide) hyear _)).trans ?_
    refine (bind_of_eq_some (expect?_cons _ _)).trans ?_
    refine (bind_of_eq_some (readFixed?_two h.month_lt _)).trans ?_
    refine (bind_of_eq_some (expect?_cons _ _)).trans ?_
    refine (bind_of_eq_some (readFixed?_two h.day_lt _)).trans ?_
    refine (bind_of_eq_some (hseparator _)).trans ?_
    refine (bind_of_eq_some (readFixed?_two hhour _)).trans ?_
    refine (bind_of_eq_some (expect?_cons _ _)).trans ?_
    refine (bind_of_eq_some (readFixed?_two hminute _)).trans ?_
    refine (bind_of_eq_some (expect?_cons _ _)).trans ?_
    refine (bind_of_eq_some (readFixed?_two hsecond _)).trans ?_
    refine (bind_of_eq_some (readMilliseconds?_fraction hfraction hsign _)).trans ?_
    rw [hsame]
    rfl
  rw [parseTimestamp?_ofList hform, hdate, hseconds, hminutes, hrfc]
  simp

end

/-- Whatever its form, a text stands for its date, time and offset if they are real. -/
theorem parseTimestamp?_of_spells {s : String} {date : Date} {time : TimeOfDay} {offset : Int}
    (h : Spells s date time offset) :
    parseTimestamp? s = (timestamp? date time).map (· - 60000 * offset) := by
  cases h with
  | date h => simp [parseTimestamp?_date h]
  | clock h hclock =>
    rw [parseTimestamp?_clock h hclock]
    simp
  | rfc3339 h hleast hgreatest hhour hminute hsecond hfraction hzone =>
    have hsign : ∃ c ∈ List.head? _, c ∈ offsetSigns :=
      (readOffset?_eq_some (readOffset?_zone hzone)).1
    rw [parseTimestamp?_rfc3339 h hleast hgreatest hhour hminute hsecond hfraction hzone.isForm
      hsign, readOffset?_zone hzone, Option.bind_some, Option.map_eq_bind]
    rfl

/-- An offset of a day or more, or of sixty minutes beside its hours, is none. -/
theorem parseTimestamp?_of_great_offset {date : Date} (h : date.HasShortFields)
    (hleast : 0 ≤ date.year) (hgreatest : date.year ≤ 9999) {hour minute second : Nat}
    (hhour : hour < 100) (hminute : minute < 100) (hsecond : second < 100) {fraction : List Char}
    {millisecond : Nat} (hfraction : SpellsFraction fraction millisecond) {sign : Char}
    (hsign : sign = '+' ∨ sign = '-') {hours minutes : Nat} (hhours : hours < 100)
    (hminutes : minutes < 100) (hgreat : 24 ≤ hours ∨ 60 ≤ minutes) :
    parseTimestamp? (String.ofList (date.writeWithTime hour minute second ++
      (fraction ++ sign :: offsetSize hours minutes))) = none := by
  have hsize := readOffsetSize?_offsetSize hhours hminutes
  rw [if_neg (by omega)] at hsize
  have hoffset : readOffset? (sign :: offsetSize hours minutes) = none := by
    rcases hsign with rfl | rfl <;> simp [readOffset?, hsize]
  have hform : IsForm (sign :: offsetSize hours minutes) := by
    refine .sign ?_ (isForm_offsetSize _ _)
    rcases hsign with rfl | rfl <;> decide
  have hstart : ∃ c ∈ (sign :: offsetSize hours minutes).head?, c ∈ offsetSigns := by
    refine ⟨sign, rfl, ?_⟩
    rcases hsign with rfl | rfl <;> decide
  rw [parseTimestamp?_rfc3339 h hleast hgreatest hhour hminute hsecond hfraction hform hstart,
    hoffset]
  rfl

/-! ## What is never given -/

theorem dayNumber_bounds {date : Date} (h : date.isReal = true) :
    -97000000 ≤ date.dayNumber ∧ date.dayNumber ≤ 97000000 := by
  obtain ⟨hcalendar, hleast, hgreatest⟩ := Date.isReal_iff.1 h
  have hyear : date.dayOfYear ≤ 366 := by
    refine hcalendar.dayOfYear_le_daysInYear.trans ?_
    unfold daysInYear
    split_ifs <;> decide
  rw [Date.dayNumber_eq, daysBeforeYear]
  unfold leastYear at hleast
  unfold greatestYear at hgreatest
  omega

/-- Whatever text is given, its timestamp is that of a real date and time with an offset. -/
theorem exists_of_parseTimestamp? {s : String} {t : Int} (h : parseTimestamp? s = some t) :
    ∃ date time offset, timestamp? date time = some (t + 60000 * offset) ∧
      time.millisecond < 1000 ∧ offset.natAbs < 1440 := by
  simp only [parseTimestamp?, Option.orElse_eq_orElse, Option.orElse_eq_or,
    Option.or_eq_some_iff] at h
  generalize (trim s).toList = cs at h
  rcases h with h | ⟨-, h | ⟨-, h | ⟨-, h⟩⟩⟩
  · obtain ⟨⟨date, _⟩, -, h⟩ := Option.bind_eq_some_iff.1 h
    obtain ⟨-, h⟩ := Option.ite_none_right_eq_some.1 h
    exact ⟨date, .midnight, 0, by simpa using h, by decide, by decide⟩
  · exact (rfc3339Timestamp?_eq_some h).2.2
  · obtain ⟨⟨date, hour, minute, _⟩, -, h⟩ := Option.bind_eq_some_iff.1 h
    obtain ⟨_, -, h⟩ := Option.bind_eq_some_iff.1 h
    obtain ⟨⟨second, _⟩, -, h⟩ := Option.bind_eq_some_iff.1 h
    obtain ⟨-, h⟩ := Option.ite_none_right_eq_some.1 h
    exact ⟨date, ⟨hour, minute, second, 0⟩, 0, by simpa using h, (by decide : 0 < 1000), by decide⟩
  · obtain ⟨⟨date, hour, minute, _⟩, -, h⟩ := Option.bind_eq_some_iff.1 h
    obtain ⟨-, h⟩ := Option.ite_none_right_eq_some.1 h
    exact ⟨date, ⟨hour, minute, 0, 0⟩, 0, by simpa using h, (by decide : 0 < 1000), by decide⟩

theorem timestamp?_eq_some_iff {date : Date} {time : TimeOfDay} {t : Int} :
    timestamp? date time = some t ↔
      date.isReal = true ∧ time.isReal = true ∧ timestamp date time = t := by
  rw [timestamp?, Option.ite_none_right_eq_some, Bool.and_eq_true, Option.some.injEq, and_assoc]

/-- A timestamp has less than sixty-four bits. -/
theorem bounds_of_parseTimestamp? {s : String} {t : Int} (h : parseTimestamp? s = some t) :
    -2 ^ 63 ≤ t ∧ t < 2 ^ 63 := by
  obtain ⟨date, time, offset, hsome, hmillisecond, hoffset⟩ := exists_of_parseTimestamp? h
  obtain ⟨hdate, htime, heq⟩ := timestamp?_eq_some_iff.1 hsome
  obtain ⟨hleast, hgreatest⟩ := dayNumber_bounds hdate
  simp only [TimeOfDay.isReal, Bool.and_eq_true, decide_eq_true_eq] at htime
  obtain ⟨⟨hhour, hminute⟩, hsecond⟩ := htime
  rw [timestamp, TimeOfDay.milliseconds, millisecondsPerDay] at heq
  omega

/-! ## Blanks -/

/-- More blanks around a text are trimmed with its own. -/
theorem trim_blanks {before after : List Char} (hbefore : ∀ c ∈ before, isBlank c = true)
    (hafter : ∀ c ∈ after, isBlank c = true) (s : String) :
    trim (String.ofList (before ++ (s.toList ++ after))) = trim s := by
  have hdropped : after.dropWhile isBlank = [] := List.dropWhile_eq_nil_iff.2 hafter
  have hreverse : ∀ c ∈ after.reverse, isBlank c = true :=
    fun c hc ↦ hafter c (List.mem_reverse.1 hc)
  rw [trim, trim, String.toList_ofList, trimStart, List.dropWhile_append_of_pos hbefore,
    List.dropWhile_append]
  split
  case isTrue hempty =>
    rw [List.isEmpty_iff] at hempty
    rw [hdropped, trimStart, hempty]
  case isFalse =>
    rw [trimEnd, List.reverse_append, List.dropWhile_append_of_pos hreverse]
    rfl

/-! ## All forms -/

/-- The text of a date stands for the milliseconds of the days from 1 January 1970 on, so that the
next day has 86400000 more. Every other form adds its time of day and takes its offset away. A text
whose date, time or offset is none that exists stands for nothing. No timestamp has more than
sixty-four bits, and blanks around a text do not count. -/
theorem timestamps_agree_on_all_forms :
    (∀ n date, Date.IsDay n date → leastYear ≤ date.year → date.year ≤ greatestYear →
      parseTimestamp? date.text = some (86400000 * n) ∧
      (date.next.year ≤ greatestYear →
        parseTimestamp? date.next.text = some (86400000 * n + 86400000)) ∧
      ∀ s time offset, Spells s date time offset →
        time.hour < 24 → time.minute < 60 → time.second < 60 →
        parseTimestamp? s = some (86400000 * n + (3600000 * time.hour + 60000 * time.minute +
          1000 * time.second + time.millisecond) - 60000 * offset)) ∧
    (∀ date : Date, date.HasShortFields →
      parseTimestamp? (date.text ++ "T00:00") = parseTimestamp? date.text) ∧
    (∀ s date time offset, Spells s date time offset →
      ¬date.OnCalendar ∨ date.year < leastYear ∨ greatestYear < date.year ∨ 24 ≤ time.hour ∨
        60 ≤ time.minute ∨ 60 < time.second →
      parseTimestamp? s = none) ∧
    (∀ date : Date, date.HasShortFields → 0 ≤ date.year → date.year ≤ 9999 →
      ∀ hour minute second hours minutes, hour < 100 → minute < 100 → second < 100 →
      hours < 100 → minutes < 100 → 24 ≤ hours ∨ 60 ≤ minutes →
      ∀ fraction millisecond, SpellsFraction fraction millisecond →
      ∀ sign, sign = '+' ∨ sign = '-' →
        parseTimestamp? (String.ofList (date.writeWithTime hour minute second ++
          (fraction ++ sign :: offsetSize hours minutes))) = none) ∧
    (∀ s t, parseTimestamp? s = some t → -2 ^ 63 ≤ t ∧ t < 2 ^ 63) ∧
    ∀ (s : String) (before after : List Char), (∀ c ∈ before, isBlank c = true) →
      (∀ c ∈ after, isBlank c = true) →
      parseTimestamp? (String.ofList (before ++ (s.toList ++ after))) = parseTimestamp? s := by
  refine ⟨fun n date hday hleast hgreatest ↦ ?_, fun date hshort ↦ ?_,
    fun s date time offset hspells hunreal ↦ ?_,
    fun date h hleast hgreatest hour minute second hours minutes hhour hminute hsecond hhours
      hminutes hgreat fraction millisecond hfraction sign hsign ↦
      parseTimestamp?_of_great_offset h hleast hgreatest hhour hminute hsecond hfraction hsign
        hhours hminutes hgreat,
    fun s t ↦ bounds_of_parseTimestamp?, fun s before after hbefore hafter ↦ ?_⟩
  · obtain ⟨hdate, hnumber⟩ := Date.isDay_iff.1 hday
    have hreal : date.isReal = true := Date.isReal_iff.2 ⟨hdate, hleast, hgreatest⟩
    refine ⟨?_, fun hnext ↦ ?_, fun s time offset hspells hhour hminute hsecond ↦ ?_⟩
    · rw [Date.parseTimestamp?_text hreal, Date.timestamp_midnight, hnumber, millisecondsPerDay]
    · have hlater : leastYear ≤ date.next.year := by
        unfold Date.next
        split_ifs
        · exact hleast
        · exact hleast
        · exact hleast.trans (Int.le_add_one le_rfl)
      have hreal : date.next.isReal = true := Date.isReal_iff.2 ⟨hdate.next, hlater, hnext⟩
      rw [Date.parseTimestamp?_text hreal, Date.timestamp_midnight, hdate.dayNumber_next, hnumber,
        millisecondsPerDay, Int.mul_add, Int.mul_one]
    · have htime : time.isReal = true := by
        simp [TimeOfDay.isReal, hhour, hminute, hsecond.le]
      rw [parseTimestamp?_of_spells hspells, timestamp?, hreal, htime, timestamp, hnumber,
        TimeOfDay.milliseconds, millisecondsPerDay]
      rfl
  · have htext : date.text ++ "T00:00" =
        String.ofList (date.write ++ 'T' :: (['0', '0'] ++ ':' :: ['0', '0'])) := by
      rw [String.ofList_append]
      rfl
    rw [htext, parseTimestamp?_clock hshort (.minute isShort_zeros isShort_zeros),
      parseTimestamp?_date hshort]
    rfl
  · have hnone : timestamp? date time = none := by
      rw [timestamp?, if_neg]
      rw [Bool.and_eq_true, Date.isReal_iff, TimeOfDay.isReal, Bool.and_eq_true, Bool.and_eq_true,
        decide_eq_true_eq, decide_eq_true_eq, decide_eq_true_eq]
      rintro ⟨⟨hdate, hleast, hgreatest⟩, ⟨hhour, hminute⟩, hsecond⟩
      rcases hunreal with h | h | h | h | h | h
      · exact h hdate
      all_goals omega
    rw [parseTimestamp?_of_spells hspells, hnone, Option.map_none]
  · rw [parseTimestamp?, trim_blanks hbefore hafter]
    rfl

/-- A March that has begun an hour early is half an hour old, and a year has no leap day. -/
theorem timestamps_agree_on_all_forms_of_leap_day :
    let march : Date := ⟨2024, 3, 1⟩
    let leapDay : Date := ⟨2023, 2, 29⟩
    Date.IsDay 19783 march ∧
      Spells "2024-03-01T00:30:00.5+01:00" march ⟨0, 30, 0, 500⟩ 60 ∧
      parseTimestamp? "2024-03-01T00:30:00.5+01:00" = some 1709249400500 ∧
      Spells "2023-02-29" leapDay .midnight 0 ∧ ¬leapDay.OnCalendar ∧
      parseTimestamp? "2023-02-29" = none := by
  intro march leapDay
  have hmarch : Date.IsDay 19783 march :=
    Date.isDay_iff.2 ⟨⟨by decide, by decide, by decide, by decide⟩, by decide⟩
  have hfraction : SpellsFraction ['.', '5'] 500 := .some (List.cons_ne_nil _ _) (by simp)
  have hzone : SpellsOffset ['+', '0', '1', ':', '0', '0'] 60 :=
    .east (by decide : 1 < 24) (by decide : 0 < 60)
  have htext : String.ofList (march.writeWithTime 0 30 0 ++
      (['.', '5'] ++ ['+', '0', '1', ':', '0', '0'])) = "2024-03-01T00:30:00.5+01:00" := by
    decide +kernel
  have hspells : Spells "2024-03-01T00:30:00.5+01:00" march ⟨0, 30, 0, 500⟩ 60 :=
    htext ▸ .rfc3339 ⟨by decide, by decide⟩ (by decide) (by decide) (by decide) (by decide)
      (by decide) hfraction hzone
  have hunreal : ¬leapDay.OnCalendar := fun h ↦ absurd h.day_le (by decide)
  have hshort : leapDay.HasShortFields := ⟨by decide, by decide⟩
  have hleap : leapDay.text = "2023-02-29" := by decide +kernel
  have hdate : Spells "2023-02-29" leapDay .midnight 0 := hleap ▸ .date hshort
  obtain ⟨hreal, -, hnone, -⟩ := timestamps_agree_on_all_forms
  obtain ⟨-, -, hforms⟩ := hreal 19783 march hmarch (by decide) (by decide)
  exact ⟨hmarch, hspells, hforms _ _ _ hspells (by decide) (by decide) (by decide), hdate, hunreal,
    hnone _ _ _ _ hdate (.inl hunreal)⟩

end FilterQuery.Calendar
