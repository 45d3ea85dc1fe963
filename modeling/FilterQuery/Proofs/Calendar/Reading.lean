import FilterQuery.Calendar.Timestamp
import FilterQuery.Proofs.Calendar.Order
import Mathlib.Algebra.Group.Nat.Defs
import Mathlib.Data.List.TakeWhile

/-!
# Dates are read as they are written

A date is written as its year, its month and its day with dashes between them. Month and day have
two digits. The year has four; a year before the year 0, or one with more digits, has a sign. Every
date of the calendar, in the years that are accepted, is read back from its text and stands for the
start of its day in UTC.
-/

namespace FilterQuery.Calendar

open FilterQuery.Text (isBlank trimStart trimEnd trim)

/-! ## Writing -/

/-- A number with zeros before it, in at least so many digits. -/
def padded (width n : Nat) : List Char := (Nat.toDigits 10 n).leftpad width '0'

/-- A year in four digits, or with a sign if it is none that has four. -/
def writeYear (year : Int) : List Char :=
  if year < 0 then '-' :: padded 4 year.natAbs
  else if 9999 < year then '+' :: padded 4 year.natAbs
  else padded 4 year.natAbs

namespace Date

def write (date : Date) : List Char :=
  writeYear date.year ++ '-' :: (padded 2 date.month ++ '-' :: padded 2 date.day)

def text (date : Date) : String := String.ofList date.write

end Date

/-! ## Digits -/

theorem isDigit_of_mem_padded {width n : Nat} {c : Char} (h : c ∈ padded width n) :
    c.isDigit = true := by
  rcases List.mem_append.1 h with hzero | hdigit
  · rw [List.eq_of_mem_replicate hzero]
    decide
  · exact Nat.isDigit_of_mem_toDigits (by decide) (by decide) hdigit

theorem padded_ne_nil (width n : Nat) : padded width n ≠ [] :=
  List.append_ne_nil_of_right_ne_nil _ Nat.toDigits_ne_nil

theorem length_padded {width n : Nat} (hwidth : 0 < width) (h : n < 10 ^ width) :
    (padded width n).length = width := by
  have hdigits : (Nat.toDigits 10 n).length ≤ width :=
    (Nat.length_toDigits_le_iff (by decide) hwidth).2 h
  rw [padded, List.length_leftpad, Nat.max_eq_left hdigits]

theorem ofDigits_eq_ofDigitChars (cs : List Char) : ofDigits cs = Nat.ofDigitChars 10 cs 0 := rfl

/-- Zeros before a number do not count. -/
theorem ofDigits_padded (width n : Nat) : ofDigits (padded width n) = n := by
  rw [ofDigits_eq_ofDigitChars, padded, List.leftpad, Nat.ofDigitChars_append,
    Nat.ofDigitChars_replicate_zero, Nat.mul_zero, Nat.ofDigitChars_ten_toDigits]

theorem isBlank_of_isDigit {c : Char} (h : c.isDigit = true) : isBlank c = false := by
  have hranges : ∀ range ∈ Text.blankRanges, range.2 < '0'.toNat ∨ '9'.toNat < range.1 := by decide
  have hdigit := Char.isDigit_iff_toNat.1 h
  rw [Bool.eq_false_iff]
  intro hblank
  obtain ⟨range, hrange, hleast, hgreatest⟩ := (Text.inRanges_iff _ _).1 hblank
  rcases hranges range hrange with hbelow | habove <;> omega

/-! ## Reading -/

/-- A text without blanks has none to be trimmed. -/
theorem trim_of_forall {s : String} (h : ∀ c ∈ s.toList, isBlank c = false) : trim s = s := by
  have hkept {cs : List Char} (hcs : ∀ c ∈ cs, isBlank c = false) : cs.dropWhile isBlank = cs := by
    cases cs with
    | nil => rfl
    | cons c cs => exact Text.trimStart_cons_of_not_isBlank cs (hcs c List.mem_cons_self)
  have hreverse : ∀ c ∈ s.toList.reverse, isBlank c = false :=
    fun c hc ↦ h c (List.mem_reverse.1 hc)
  rw [trim, trimStart, hkept h, trimEnd, hkept hreverse, List.reverse_reverse, String.ofList_toList]

theorem trimStart_padded (width n : Nat) (rest : List Char) :
    trimStart (padded width n ++ rest) = padded width n ++ rest := by
  obtain ⟨c, cs, hcs⟩ := List.exists_cons_of_ne_nil (padded_ne_nil width n)
  have hc : c.isDigit = true := isDigit_of_mem_padded (hcs ▸ List.mem_cons_self)
  rw [hcs, List.cons_append, Text.trimStart_cons_of_not_isBlank _ (isBlank_of_isDigit hc)]

/-- A number of the full width is read to its end, whatever follows. -/
theorem readNumber?_padded {width n : Nat} (hwidth : 0 < width) (h : n < 10 ^ width)
    (rest : List Char) : readNumber? width (padded width n ++ rest) = some (n, rest) := by
  have htake : (padded width n ++ rest).take width = padded width n :=
    List.take_left' (length_padded hwidth h)
  have hdigits : (padded width n).takeWhile Char.isDigit = padded width n :=
    List.takeWhile_eq_self_iff.2 fun c ↦ isDigit_of_mem_padded
  simp only [readNumber?, trimStart_padded, htake, hdigits, List.isEmpty_iff, padded_ne_nil,
    if_false, ofDigits_padded, List.drop_left]

theorem readAllDigits?_padded (width n : Nat) {c : Char} (hc : c.isDigit = false)
    (rest : List Char) :
    readAllDigits? (padded width n ++ c :: rest) = some (n, c :: rest) := by
  have hdigits : ∀ d ∈ padded width n, d.isDigit = true := fun d ↦ isDigit_of_mem_padded
  have hread : Decimal.readDigits (padded width n ++ c :: rest) = (padded width n, c :: rest) := by
    rw [Decimal.readDigits, List.takeWhile_append_of_pos hdigits,
      List.dropWhile_append_of_pos hdigits, List.takeWhile_cons_of_neg (by simp [hc]),
      List.dropWhile_cons_of_neg (by simp [hc]), List.append_nil]
  simp only [readAllDigits?, hread, List.isEmpty_iff, padded_ne_nil, if_false, ofDigits_padded]

/-- Digits are no sign. -/
theorem readYear?_padded (year : Nat) (rest : List Char) :
    readYear? (padded 4 year ++ rest) =
      (readNumber? 4 (padded 4 year ++ rest)).map fun (year, rest) ↦ ((year : Int), rest) := by
  obtain ⟨c, cs, hcs⟩ := List.exists_cons_of_ne_nil (padded_ne_nil 4 year)
  have hc : c.isDigit = true := isDigit_of_mem_padded (hcs ▸ List.mem_cons_self)
  rw [readYear?, trimStart_padded, hcs, List.cons_append]
  split
  case h_1 heq | h_2 heq =>
    obtain ⟨rfl, -⟩ := List.cons.inj heq
    cases hc
  case h_3 => rfl

theorem readYear?_writeYear (year : Int) (rest : List Char) :
    readYear? (writeYear year ++ '-' :: rest) = some (year, '-' :: rest) := by
  have hsize := readAllDigits?_padded 4 year.natAbs (by decide : '-'.isDigit = false) rest
  unfold writeYear
  split_ifs with hnegative hlong
  · have hyear : -(year.natAbs : Int) = year := by omega
    have hstart : ∀ cs, trimStart ('-' :: cs) = '-' :: cs :=
      fun cs ↦ Text.trimStart_cons_of_not_isBlank cs (by decide)
    rw [List.cons_append, readYear?, hstart]
    simp only [hsize, Option.map_some, hyear]
  · have hyear : (year.natAbs : Int) = year := by omega
    have hstart : ∀ cs, trimStart ('+' :: cs) = '+' :: cs :=
      fun cs ↦ Text.trimStart_cons_of_not_isBlank cs (by decide)
    rw [List.cons_append, readYear?, hstart]
    simp only [hsize, Option.map_some, hyear]
  · have hyear : (year.natAbs : Int) = year := by omega
    have hfour : year.natAbs < 10 ^ 4 := by omega
    rw [readYear?_padded, readNumber?_padded (by decide) hfour]
    simp only [Option.map_some, hyear]

theorem expect?_cons (c : Char) (rest : List Char) : expect? c (c :: rest) = some rest :=
  if_pos rfl

namespace Date

/-- A month and a day that have two digits at most, whether or not the calendar has them. -/
structure HasShortFields (date : Date) : Prop where
  month_lt : date.month < 100
  day_lt : date.day < 100

theorem OnCalendar.hasShortFields {date : Date} (h : date.OnCalendar) : date.HasShortFields where
  month_lt := h.month_le.trans_lt (by decide)
  day_lt := (h.day_le.trans (daysInMonth_le _ _)).trans_lt (by decide)

/-- A date is read back whatever follows. -/
theorem readDate?_write {date : Date} (h : date.HasShortFields) (rest : List Char) :
    readDate? (date.write ++ rest) = some (date, rest) := by
  have hmonth : date.month < 10 ^ 2 := h.month_lt
  have hday : date.day < 10 ^ 2 := h.day_lt
  simp only [write, List.append_assoc, List.cons_append, readDate?, readYear?_writeYear,
    expect?_cons, readNumber?_padded (by decide) hmonth, readNumber?_padded (by decide) hday,
    Option.bind_eq_bind, Option.bind_some]
  rfl

/-- A date holds digits, dashes and a sign. -/
theorem mem_write {date : Date} {c : Char} (h : c ∈ date.write) :
    c.isDigit = true ∨ c = '-' ∨ c = '+' := by
  have hyear (h : c ∈ writeYear date.year) : c.isDigit = true ∨ c = '-' ∨ c = '+' := by
    unfold writeYear at h
    split_ifs at h
    · exact (List.mem_cons.1 h).elim (.inr ∘ .inl) (.inl ∘ isDigit_of_mem_padded)
    · exact (List.mem_cons.1 h).elim (.inr ∘ .inr) (.inl ∘ isDigit_of_mem_padded)
    · exact .inl (isDigit_of_mem_padded h)
  simp only [write, List.mem_append, List.mem_cons] at h
  rcases h with h | rfl | h | rfl | h
  · exact hyear h
  · exact .inr (.inl rfl)
  · exact .inl (isDigit_of_mem_padded h)
  · exact .inr (.inl rfl)
  · exact .inl (isDigit_of_mem_padded h)

theorem trim_text (date : Date) : trim date.text = date.text := by
  apply trim_of_forall
  intro c hc
  rw [text, String.toList_ofList] at hc
  rcases mem_write hc with hdigit | rfl | rfl
  · exact isBlank_of_isDigit hdigit
  · decide
  · decide

/-- The text of a date stands for the start of that day in UTC. -/
theorem parseTimestamp?_text {date : Date} (h : date.isReal = true) :
    parseTimestamp? date.text = some (timestamp date .midnight) := by
  have hcharacters : (trim date.text).toList = date.write := by
    rw [trim_text, text, String.toList_ofList]
  have hread : readDate? date.write = some (date, []) := by
    simpa using readDate?_write (isReal_iff.1 h).1.hasShortFields []
  have hreal : timestamp? date .midnight = some (timestamp date .midnight) := by
    rw [timestamp?, h]
    rfl
  have hstart : dateTimestamp? date.write = some (timestamp date .midnight) := by
    rw [dateTimestamp?, hread, Option.bind_eq_bind, Option.bind_some]
    exact hreal
  rw [parseTimestamp?, hcharacters, hstart]
  rfl

example : (Date.mk 2024 1 31).text = "2024-01-31" ∧ (Date.mk (-44) 3 15).text = "-0044-03-15" ∧
    parseTimestamp? "2024-01-31" = some 1706659200000 := by
  decide

end Date

end FilterQuery.Calendar
