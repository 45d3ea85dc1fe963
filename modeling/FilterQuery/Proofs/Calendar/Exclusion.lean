import FilterQuery.Proofs.Calendar.DateTime

/-!
# The forms of a timestamp exclude each other

A text is tried as a date, as a date-time of RFC 3339, and as a date with a time of day with and
without seconds. No text is accepted twice, so it does not matter in which order this is done.

The three loose forms begin with the same reader of dates and differ in what is left behind the date
and behind the minute. A date-time of RFC 3339 has its digits where this reader wants them, and
leaves its separator behind the date, its seconds behind the minute and its offset behind the
second.
-/

namespace FilterQuery.Calendar

open FilterQuery.Text (trimStart trim)

/-- The forms that a timestamp is written in. -/
inductive Form
  | date
  | rfc3339
  | second
  | minute
deriving DecidableEq, Repr

/-- The timestamp of a text that has the form. -/
def Form.read? : Form → List Char → Option Int
  | .date => dateTimestamp?
  | .rfc3339 => rfc3339Timestamp?
  | .second => secondTimestamp?
  | .minute => minuteTimestamp?

/-! ## Digits in fixed places -/

/-- A row of so many digits. -/
structure IsRow (width : Nat) (cs : List Char) : Prop where
  length_eq : cs.length = width
  isDigit : ∀ c ∈ cs, c.isDigit = true

theorem exists_of_readFixed? {width n : Nat} {cs rest : List Char}
    (h : readFixed? width cs = some (n, rest)) :
    ∃ digits, IsRow width digits ∧ cs = digits ++ rest := by
  simp only [readFixed?, Option.ite_none_right_eq_some, Option.some.injEq, Prod.mk.injEq,
    Bool.and_eq_true, decide_eq_true_eq, List.all_eq_true] at h
  obtain ⟨⟨hlength, hdigits⟩, -, rfl⟩ := h
  exact ⟨cs.take width, ⟨hlength, hdigits⟩, (List.take_append_drop width cs).symm⟩

theorem eq_cons_of_expect? {c : Char} {cs rest : List Char} (h : expect? c cs = some rest) :
    cs = c :: rest := by
  unfold expect? at h
  split at h
  · split at h <;> cases h
    simp [*]
  · cases h

theorem exists_of_readSeparator? {cs rest : List Char} (h : readSeparator? cs = some rest) :
    ∃ separator, cs = separator :: rest := by
  unfold readSeparator? at h
  split at h
  · split at h <;> cases h
    exact ⟨_, rfl⟩
  · cases h

/-- There is an offset behind the fraction. -/
theorem ne_nil_of_readMilliseconds? {n : Nat} {cs rest : List Char} {offset : Int × List Char}
    (h : readMilliseconds? cs = some (n, rest)) (hoffset : readOffset? rest = some offset) :
    cs ≠ [] := by
  rintro rfl
  cases h
  cases hoffset

namespace IsRow

variable {width : Nat} {digits : List Char} (h : IsRow width digits) (hwidth : 0 < width)

include h hwidth

theorem ne_nil : digits ≠ [] := by
  rintro rfl
  exact hwidth.ne h.length_eq

theorem trimStart_append (rest : List Char) : trimStart (digits ++ rest) = digits ++ rest := by
  obtain ⟨c, cs, rfl⟩ := List.exists_cons_of_ne_nil (h.ne_nil hwidth)
  exact Text.trimStart_cons_of_not_isBlank _ (isBlank_of_isDigit (h.isDigit c List.mem_cons_self))

theorem readNumber?_append (rest : List Char) :
    readNumber? width (digits ++ rest) = some (ofDigits digits, rest) := by
  have htake : (digits ++ rest).take width = digits := List.take_left' h.length_eq
  have hall : digits.takeWhile Char.isDigit = digits := List.takeWhile_eq_self_iff.2 h.isDigit
  simp only [readNumber?, h.trimStart_append hwidth, htake, hall, List.isEmpty_iff,
    h.ne_nil hwidth, if_false, List.drop_left]

end IsRow

theorem readYear?_append {digits : List Char} (h : IsRow 4 digits) (rest : List Char) :
    readYear? (digits ++ rest) = some ((ofDigits digits : Int), rest) := by
  have hnumber := h.readNumber?_append (by decide) rest
  have hstart := h.trimStart_append (by decide) rest
  obtain ⟨c, cs, rfl⟩ := List.exists_cons_of_ne_nil (h.ne_nil (by decide))
  have hc : c.isDigit = true := h.isDigit c List.mem_cons_self
  rw [readYear?, hstart, List.cons_append]
  split
  case h_1 heq | h_2 heq =>
    obtain ⟨rfl, -⟩ := List.cons.inj heq
    cases hc
  case h_3 => rw [← List.cons_append, hnumber, Option.map_some]

theorem readDate?_append {year month day : List Char} (hyear : IsRow 4 year)
    (hmonth : IsRow 2 month) (hday : IsRow 2 day) (rest : List Char) :
    readDate? (year ++ '-' :: (month ++ '-' :: (day ++ rest))) =
      some (⟨ofDigits year, ofDigits month, ofDigits day⟩, rest) := by
  simp only [readDate?, readYear?_append hyear, expect?_cons,
    hmonth.readNumber?_append (by decide), hday.readNumber?_append (by decide),
    Option.bind_eq_bind, Option.bind_some]
  rfl

/-! ## What each form leaves behind -/

/-- What the loose readers find in a text that goes on behind its day, its minute and its second. -/
structure GoesOn (cs : List Char) : Prop where
  behind_day : ∀ date rest, readDate? cs = some (date, rest) → rest ≠ []
  behind_minute : ∀ date hour minute rest, readMinute? cs = some (date, hour, minute, rest) →
    ∃ after, rest = ':' :: after ∧ ∀ second last, readNumber? 2 after = some (second, last) →
      last ≠ []

theorem exists_of_readMinute? {cs rest : List Char} {date : Date} {hour minute : Nat}
    (h : readMinute? cs = some (date, hour, minute, rest)) :
    ∃ tail middle, readDate? cs = some (date, 'T' :: tail) ∧
      readNumber? 2 tail = some (hour, ':' :: middle) ∧
      readNumber? 2 middle = some (minute, rest) := by
  obtain ⟨⟨_, _⟩, hdate, h⟩ := Option.bind_eq_some_iff.1 h
  obtain ⟨tail, htail, h⟩ := Option.bind_eq_some_iff.1 h
  obtain ⟨⟨_, _⟩, hhour, h⟩ := Option.bind_eq_some_iff.1 h
  obtain ⟨middle, hmiddle, h⟩ := Option.bind_eq_some_iff.1 h
  obtain ⟨⟨_, _⟩, hminute, h⟩ := Option.bind_eq_some_iff.1 h
  cases h
  obtain rfl := eq_cons_of_expect? htail
  obtain rfl := eq_cons_of_expect? hmiddle
  exact ⟨tail, middle, hdate, hhour, hminute⟩

/-- A date-time of RFC 3339 goes on behind its second with an offset. -/
theorem goesOn_of_rfc3339Timestamp? {cs : List Char} {t : Int}
    (h : rfc3339Timestamp? cs = some t) : GoesOn cs := by
  obtain ⟨⟨_, _⟩, hyear, h⟩ := Option.bind_eq_some_iff.1 h
  obtain ⟨_, hdash, h⟩ := Option.bind_eq_some_iff.1 h
  obtain ⟨⟨_, _⟩, hmonth, h⟩ := Option.bind_eq_some_iff.1 h
  obtain ⟨_, hdash', h⟩ := Option.bind_eq_some_iff.1 h
  obtain ⟨⟨_, _⟩, hday, h⟩ := Option.bind_eq_some_iff.1 h
  obtain ⟨_, hseparator, h⟩ := Option.bind_eq_some_iff.1 h
  obtain ⟨⟨_, _⟩, hhour, h⟩ := Option.bind_eq_some_iff.1 h
  obtain ⟨_, hcolon, h⟩ := Option.bind_eq_some_iff.1 h
  obtain ⟨⟨_, _⟩, hminute, h⟩ := Option.bind_eq_some_iff.1 h
  obtain ⟨_, hcolon', h⟩ := Option.bind_eq_some_iff.1 h
  obtain ⟨⟨_, _⟩, hsecond, h⟩ := Option.bind_eq_some_iff.1 h
  obtain ⟨⟨_, _⟩, hfraction, h⟩ := Option.bind_eq_some_iff.1 h
  obtain ⟨⟨_, _⟩, hoffset, -⟩ := Option.bind_eq_some_iff.1 h
  have hrest := ne_nil_of_readMilliseconds? hfraction hoffset
  obtain ⟨year, hyearRow, rfl⟩ := exists_of_readFixed? hyear
  obtain rfl := eq_cons_of_expect? hdash
  obtain ⟨month, hmonthRow, rfl⟩ := exists_of_readFixed? hmonth
  obtain rfl := eq_cons_of_expect? hdash'
  obtain ⟨day, hdayRow, rfl⟩ := exists_of_readFixed? hday
  obtain ⟨separator, rfl⟩ := exists_of_readSeparator? hseparator
  obtain ⟨hour, hhourRow, rfl⟩ := exists_of_readFixed? hhour
  obtain rfl := eq_cons_of_expect? hcolon
  obtain ⟨minute, hminuteRow, rfl⟩ := exists_of_readFixed? hminute
  obtain rfl := eq_cons_of_expect? hcolon'
  obtain ⟨second, hsecondRow, rfl⟩ := exists_of_readFixed? hsecond
  have hread := readDate?_append hyearRow hmonthRow hdayRow
  constructor
  · intro _ _ hdate
    rw [hread] at hdate
    cases hdate
    exact List.cons_ne_nil _ _
  · intro _ _ _ _ hmoment
    obtain ⟨_, _, hdate, hhour, hminute⟩ := exists_of_readMinute? hmoment
    rw [hread] at hdate
    cases hdate
    rw [hhourRow.readNumber?_append (by decide)] at hhour
    cases hhour
    rw [hminuteRow.readNumber?_append (by decide)] at hminute
    cases hminute
    refine ⟨_, rfl, fun _ _ hsecond ↦ ?_⟩
    rw [hsecondRow.readNumber?_append (by decide)] at hsecond
    cases hsecond
    exact hrest

theorem exists_of_dateTimestamp? {cs : List Char} {t : Int} (h : dateTimestamp? cs = some t) :
    ∃ date, readDate? cs = some (date, []) := by
  obtain ⟨⟨date, rest⟩, hdate, h⟩ := Option.bind_eq_some_iff.1 h
  obtain ⟨hempty, -⟩ := Option.ite_none_right_eq_some.1 h
  obtain rfl := List.isEmpty_iff.1 hempty
  exact ⟨date, hdate⟩

theorem exists_of_minuteTimestamp? {cs : List Char} {t : Int} (h : minuteTimestamp? cs = some t) :
    ∃ date hour minute, readMinute? cs = some (date, hour, minute, []) := by
  obtain ⟨⟨date, hour, minute, rest⟩, hminute, h⟩ := Option.bind_eq_some_iff.1 h
  obtain ⟨hempty, -⟩ := Option.ite_none_right_eq_some.1 h
  obtain rfl := List.isEmpty_iff.1 hempty
  exact ⟨date, hour, minute, hminute⟩

theorem exists_of_secondTimestamp? {cs : List Char} {t : Int} (h : secondTimestamp? cs = some t) :
    ∃ date hour minute after second, readMinute? cs = some (date, hour, minute, ':' :: after) ∧
      readNumber? 2 after = some (second, []) := by
  obtain ⟨⟨date, hour, minute, rest⟩, hminute, h⟩ := Option.bind_eq_some_iff.1 h
  obtain ⟨after, hafter, h⟩ := Option.bind_eq_some_iff.1 h
  obtain ⟨⟨second, rest⟩, hsecond, h⟩ := Option.bind_eq_some_iff.1 h
  obtain ⟨hempty, -⟩ := Option.ite_none_right_eq_some.1 h
  obtain rfl := List.isEmpty_iff.1 hempty
  obtain rfl := eq_cons_of_expect? hafter
  exact ⟨date, hour, minute, after, second, hminute, hsecond⟩

/-! ## Exclusion -/

/-- How a text is read by the loose readers if it has a form. -/
def Form.Leaves (cs : List Char) : Form → Prop
  | .date => ∃ date, readDate? cs = some (date, [])
  | .rfc3339 => GoesOn cs
  | .second => ∃ date hour minute after second,
      readMinute? cs = some (date, hour, minute, ':' :: after) ∧
        readNumber? 2 after = some (second, [])
  | .minute => ∃ date hour minute, readMinute? cs = some (date, hour, minute, [])

theorem Form.leaves_of_read? {cs : List Char} {form : Form} {t : Int}
    (h : form.read? cs = some t) : form.Leaves cs := by
  cases form with
  | date => exact exists_of_dateTimestamp? h
  | rfc3339 => exact goesOn_of_rfc3339Timestamp? h
  | second => exact exists_of_secondTimestamp? h
  | minute => exact exists_of_minuteTimestamp? h

section

variable {cs : List Char} {form : Form} (hform : form.Leaves cs)

include hform

theorem Form.eq_date_of_leaves {date : Date} (h : readDate? cs = some (date, [])) :
    form = .date := by
  have hminute : readMinute? cs = none := by
    rw [readMinute?, h]
    rfl
  cases form with
  | date => rfl
  | rfc3339 => exact absurd rfl (hform.behind_day _ _ h)
  | second =>
    obtain ⟨_, _, _, _, _, hread, -⟩ := hform
    rw [hminute] at hread
    cases hread
  | minute =>
    obtain ⟨_, _, _, hread⟩ := hform
    rw [hminute] at hread
    cases hread

theorem Form.eq_minute_of_leaves {date : Date} {hour minute : Nat}
    (h : readMinute? cs = some (date, hour, minute, [])) : form = .minute := by
  cases form with
  | date =>
    obtain ⟨_, hread⟩ := hform
    obtain ⟨_, _, hdate, -⟩ := exists_of_readMinute? h
    rw [hread] at hdate
    cases hdate
  | rfc3339 =>
    obtain ⟨_, hrest, -⟩ := hform.behind_minute _ _ _ _ h
    cases hrest
  | second =>
    obtain ⟨_, _, _, _, _, hread, -⟩ := hform
    rw [h] at hread
    cases hread
  | minute => rfl

theorem Form.eq_second_of_leaves {date : Date} {hour minute second : Nat} {after : List Char}
    (h : readMinute? cs = some (date, hour, minute, ':' :: after))
    (hsecond : readNumber? 2 after = some (second, [])) : form = .second := by
  cases form with
  | date =>
    obtain ⟨_, hread⟩ := hform
    obtain ⟨_, _, hdate, -⟩ := exists_of_readMinute? h
    rw [hread] at hdate
    cases hdate
  | rfc3339 =>
    obtain ⟨_, hrest, hgoesOn⟩ := hform.behind_minute _ _ _ _ h
    cases hrest
    exact absurd rfl (hgoesOn _ _ hsecond)
  | second => rfl
  | minute =>
    obtain ⟨_, _, _, hread⟩ := hform
    rw [h] at hread
    cases hread

/-- What one form leaves behind no other form does. -/
theorem Form.eq_of_leaves {other : Form} (hother : other.Leaves cs) : form = other := by
  cases other with
  | date =>
    obtain ⟨_, h⟩ := hother
    exact eq_date_of_leaves hform h
  | second =>
    obtain ⟨_, _, _, _, _, h, hsecond⟩ := hother
    exact eq_second_of_leaves hform h hsecond
  | minute =>
    obtain ⟨_, _, _, h⟩ := hother
    exact eq_minute_of_leaves hform h
  | rfc3339 =>
    cases form with
    | date =>
      obtain ⟨_, h⟩ := hform
      exact (eq_date_of_leaves hother h).symm
    | second =>
      obtain ⟨_, _, _, _, _, h, hsecond⟩ := hform
      exact (eq_second_of_leaves hother h hsecond).symm
    | minute =>
      obtain ⟨_, _, _, h⟩ := hform
      exact (eq_minute_of_leaves hother h).symm
    | rfc3339 => rfl

end

/-! ## The order of the attempts -/

/-- No text is accepted by two forms, whether or not it has blanks around it. -/
theorem Form.eq_of_read? {cs : List Char} {form other : Form} {t t' : Int}
    (h : form.read? cs = some t) (h' : other.read? cs = some t') : form = other :=
  eq_of_leaves (leaves_of_read? h) (leaves_of_read? h')

/-- If all forms are tried, in whatever order, the one that accepts the text gives its timestamp. -/
theorem findSome?_read?_eq_some_iff {cs : List Char} {order : List Form}
    (hall : ∀ form, form ∈ order) {t : Int} :
    order.findSome? (·.read? cs) = some t ↔ ∃ form : Form, form.read? cs = some t := by
  constructor
  · intro h
    obtain ⟨form, -, hform⟩ := List.exists_of_findSome?_eq_some h
    exact ⟨form, hform⟩
  · rintro ⟨form, hform⟩
    have hsome : (order.findSome? (·.read? cs)).isSome = true := by
      rw [List.findSome?_isSome_iff]
      exact ⟨form, hall form, by rw [hform]; rfl⟩
    obtain ⟨t', ht'⟩ := Option.isSome_iff_exists.1 hsome
    obtain ⟨other, -, hother⟩ := List.exists_of_findSome?_eq_some ht'
    obtain rfl := Form.eq_of_read? hform hother
    rw [ht', ← hother, hform]

/-- The order in which a text is tried. -/
def Form.usualOrder : List Form := [.date, .rfc3339, .second, .minute]

theorem Form.mem_usualOrder (form : Form) : form ∈ usualOrder := by
  cases form <;> decide

theorem parseTimestamp?_eq_findSome? (s : String) :
    parseTimestamp? s = Form.usualOrder.findSome? (·.read? (trim s).toList) := by
  simp only [parseTimestamp?, Form.usualOrder, List.findSome?_cons, List.findSome?_nil, Form.read?]
  cases dateTimestamp? (trim s).toList <;> cases rfc3339Timestamp? (trim s).toList <;>
    cases secondTimestamp? (trim s).toList <;> cases minuteTimestamp? (trim s).toList <;> rfl

/-- At most one form accepts a text, so that every order in which all of them are tried gives the
same timestamp. -/
theorem timestamp_forms_exclude_each_other (s : String) :
    (∀ form other : Form, (form.read? (trim s).toList).isSome →
      (other.read? (trim s).toList).isSome → form = other) ∧
    ∀ order : List Form, (∀ form, form ∈ order) →
      order.findSome? (·.read? (trim s).toList) = parseTimestamp? s := by
  refine ⟨fun form other h h' ↦ ?_, fun order hall ↦ ?_⟩
  · obtain ⟨t, ht⟩ := Option.isSome_iff_exists.1 h
    obtain ⟨t', ht'⟩ := Option.isSome_iff_exists.1 h'
    exact Form.eq_of_read? ht ht'
  · ext t
    rw [parseTimestamp?_eq_findSome?, findSome?_read?_eq_some_iff hall,
      findSome?_read?_eq_some_iff Form.mem_usualOrder]

/-- A date-time whose seconds go on with a fraction and an offset, tried the other way round. -/
theorem timestamp_forms_exclude_each_other_of_dateTime :
    let order : List Form := [.minute, .second, .rfc3339, .date]
    let s := " 2024-02-29T12:30:00.5+01:00"
    (∀ form, form ∈ order) ∧ (Form.rfc3339.read? (trim s).toList).isSome ∧
      (∀ form : Form, (form.read? (trim s).toList).isSome → form = .rfc3339) ∧
      order.findSome? (·.read? (trim s).toList) = parseTimestamp? s ∧
      parseTimestamp? s = some 1709206200500 := by
  intro order s
  have hall : ∀ form, form ∈ order := by
    intro form
    cases form <;> decide
  have hsome : (Form.rfc3339.read? (trim s).toList).isSome = true := by decide
  obtain ⟨honly, horder⟩ := timestamp_forms_exclude_each_other s
  exact ⟨hall, hsome, fun form h ↦ honly form .rfc3339 h hsome, horder order hall, by decide⟩

end FilterQuery.Calendar
