import FilterQuery.Calendar.Timestamp
import Mathlib.Data.Int.ConditionallyCompleteOrder
import Mathlib.Data.Prod.Lex
import Mathlib.Order.ConditionallyCompleteLattice.Basic

/-!
# The order of the calendar

Day numbers count the days of the calendar: 1 January 1970 has the number 0, and the day after a
date has the next number. So a later date has a greater number, every number is that of exactly one
date, and this date is found by turning the pages of the calendar from 1 January 1970 on, forwards
or backwards.

The proofs follow the sum that a day number is. The days before a year and before a month are
monotone, and a date lies within its month and its month within its year.
-/

namespace FilterQuery.Calendar

/-! ## Months and years -/

def daysInYear (year : Int) : Nat := if isLeapYear year then 366 else 365

theorem daysInMonth_pos (year : Int) (month : Nat) : 0 < daysInMonth year month := by
  unfold daysInMonth
  split_ifs <;> decide

theorem daysInMonth_le (year : Int) (month : Nat) : daysInMonth year month ≤ 31 := by
  unfold daysInMonth
  split_ifs <;> decide

theorem daysBeforeMonth_succ (year : Int) {month : Nat} (h : 1 ≤ month) :
    daysBeforeMonth year (month + 1) = daysBeforeMonth year month + daysInMonth year month := by
  obtain ⟨month, rfl⟩ := Nat.exists_eq_add_of_le' h
  rfl

theorem daysBeforeMonth_monotone (year : Int) : Monotone (daysBeforeMonth year) := by
  apply monotone_nat_of_le_succ
  intro month
  cases month with
  | zero => exact le_rfl
  | succ month =>
    rw [daysBeforeMonth_succ year (Nat.succ_pos month)]
    exact Nat.le_add_right _ _

/-- The months fill the year. -/
theorem daysBeforeMonth_thirteen (year : Int) : daysBeforeMonth year 13 = daysInYear year := by
  simp only [daysBeforeMonth, daysInMonth, daysInYear]
  cases isLeapYear year <;> rfl

theorem daysBeforeYear_succ (year : Int) :
    daysBeforeYear (year + 1) = daysBeforeYear year + daysInYear year := by
  unfold daysBeforeYear daysInYear isLeapYear
  split_ifs with h
  all_goals
    simp only [Bool.and_eq_true, Bool.or_eq_true, decide_eq_true_eq] at h
    omega

theorem daysBeforeYear_monotone : Monotone daysBeforeYear := by
  apply monotone_int_of_le_succ
  intro year
  rw [daysBeforeYear_succ]
  omega

/-! ## Dates -/

namespace Date

/-- Dates are compared by their years, then their months, then their days. -/
def position (date : Date) : ℤ ×ₗ ℕ ×ₗ ℕ := toLex (date.year, toLex (date.month, date.day))

theorem position_injective : Function.Injective position := by
  rintro ⟨year, month, day⟩ ⟨year', month', day'⟩ h
  cases h
  rfl

instance : LinearOrder Date := LinearOrder.lift' position position_injective

theorem lt_iff {date other : Date} : date < other ↔ date.year < other.year ∨
    date.year = other.year ∧ (date.month < other.month ∨
      date.month = other.month ∧ date.day < other.day) :=
  Prod.Lex.toLex_lt_toLex.trans
    (or_congr_right (and_congr_right fun _ ↦ Prod.Lex.toLex_lt_toLex))

/-- A date that the calendar has, in whatever year. -/
structure OnCalendar (date : Date) : Prop where
  month_pos : 1 ≤ date.month
  month_le : date.month ≤ 12
  day_pos : 1 ≤ date.day
  day_le : date.day ≤ daysInMonth date.year date.month

theorem isReal_iff {date : Date} : date.isReal = true ↔
    date.OnCalendar ∧ leastYear ≤ date.year ∧ date.year ≤ greatestYear := by
  simp only [isReal, Bool.and_eq_true, decide_eq_true_eq]
  constructor
  · rintro ⟨⟨⟨⟨⟨hleast, hgreatest⟩, hmonth⟩, hmonth'⟩, hday⟩, hday'⟩
    exact ⟨⟨hmonth, hmonth', hday, hday'⟩, hleast, hgreatest⟩
  · rintro ⟨⟨hmonth, hmonth', hday, hday'⟩, hleast, hgreatest⟩
    exact ⟨⟨⟨⟨⟨hleast, hgreatest⟩, hmonth⟩, hmonth'⟩, hday⟩, hday'⟩

/-- How many days of its year have begun on a date. -/
def dayOfYear (date : Date) : Nat := daysBeforeMonth date.year date.month + date.day

theorem dayNumber_eq (date : Date) :
    date.dayNumber = daysBeforeYear date.year + date.dayOfYear - 719163 := by
  unfold dayNumber dayOfYear
  omega

namespace OnCalendar

variable {date other : Date}

/-- A date lies within its month. -/
theorem dayOfYear_le (h : date.OnCalendar) :
    date.dayOfYear ≤ daysBeforeMonth date.year (date.month + 1) := by
  rw [daysBeforeMonth_succ _ h.month_pos]
  exact Nat.add_le_add_left h.day_le _

theorem dayOfYear_le_daysInYear (h : date.OnCalendar) :
    date.dayOfYear ≤ daysInYear date.year := by
  rw [← daysBeforeMonth_thirteen]
  exact h.dayOfYear_le.trans (daysBeforeMonth_monotone _ (Nat.succ_le_succ h.month_le))

theorem dayOfYear_pos (h : date.OnCalendar) : 0 < date.dayOfYear := Nat.add_pos_right _ h.day_pos

/-- A later date has a greater number. -/
theorem dayNumber_lt (h : date.OnCalendar) (h' : other.OnCalendar) (hlt : date < other) :
    date.dayNumber < other.dayNumber := by
  rw [dayNumber_eq, dayNumber_eq]
  apply Int.sub_lt_sub_right
  rcases lt_iff.1 hlt with hyear | ⟨hyear, hmonth | ⟨hmonth, hday⟩⟩
  · calc daysBeforeYear date.year + date.dayOfYear
      _ ≤ daysBeforeYear date.year + daysInYear date.year :=
        Int.add_le_add_left (Int.ofNat_le.2 h.dayOfYear_le_daysInYear) _
      _ = daysBeforeYear (date.year + 1) := (daysBeforeYear_succ date.year).symm
      _ ≤ daysBeforeYear other.year := daysBeforeYear_monotone hyear
      _ < daysBeforeYear other.year + other.dayOfYear :=
        Int.lt_add_of_pos_right _ (Int.natCast_pos.2 h'.dayOfYear_pos)
  · rw [hyear]
    apply Int.add_lt_add_left
    apply Int.ofNat_lt.2
    calc date.dayOfYear
      _ ≤ daysBeforeMonth date.year (date.month + 1) := h.dayOfYear_le
      _ ≤ daysBeforeMonth date.year other.month := daysBeforeMonth_monotone _ hmonth
      _ = daysBeforeMonth other.year other.month := by rw [hyear]
      _ < other.dayOfYear := Nat.lt_add_of_pos_right h'.day_pos
  · rw [hyear]
    apply Int.add_lt_add_left
    apply Int.ofNat_lt.2
    rw [dayOfYear, dayOfYear, hyear, hmonth]
    exact Nat.add_lt_add_left hday _

end OnCalendar

theorem onCalendar_newYear (year : Int) : OnCalendar ⟨year, 1, 1⟩ :=
  ⟨le_rfl, (by decide : 1 ≤ 12), le_rfl, daysInMonth_pos year 1⟩

theorem dayNumber_newYear (year : Int) :
    dayNumber ⟨year, 1, 1⟩ = daysBeforeYear year - 719162 := by
  have hfirst : dayOfYear ⟨year, 1, 1⟩ = 1 := rfl
  simp only [dayNumber_eq, hfirst]
  omega

theorem dayNumber_strictMonoOn : StrictMonoOn dayNumber {date | date.OnCalendar} :=
  fun _ h _ h' hlt ↦ h.dayNumber_lt h' hlt

/-! ## The next day -/

/-- The day after a date. -/
def next (date : Date) : Date :=
  if date.day < daysInMonth date.year date.month then ⟨date.year, date.month, date.day + 1⟩
  else if date.month < 12 then ⟨date.year, date.month + 1, 1⟩
  else ⟨date.year + 1, 1, 1⟩

theorem OnCalendar.next {date : Date} (h : date.OnCalendar) : date.next.OnCalendar := by
  unfold Date.next
  split_ifs with hday hmonth
  · exact ⟨h.month_pos, h.month_le, Nat.succ_pos _, hday⟩
  · exact ⟨Nat.succ_pos _, hmonth, le_rfl, daysInMonth_pos _ _⟩
  · exact onCalendar_newYear _

/-- The next day has the next number, also where a month or a year ends. -/
theorem OnCalendar.dayNumber_next {date : Date} (h : date.OnCalendar) :
    date.next.dayNumber = date.dayNumber + 1 := by
  unfold Date.next
  split_ifs with hday hmonth
  · simp only [dayNumber]
    omega
  · have hlast : date.day = daysInMonth date.year date.month :=
      h.day_le.antisymm (Nat.not_lt.1 hday)
    simp only [dayNumber, daysBeforeMonth_succ date.year h.month_pos, hlast]
    omega
  · have hlast : date.day = daysInMonth date.year date.month :=
      h.day_le.antisymm (Nat.not_lt.1 hday)
    have hdecember : date.month = 12 := h.month_le.antisymm (Nat.not_lt.1 hmonth)
    have hyear : date.dayOfYear = daysInYear date.year := by
      rw [← daysBeforeMonth_thirteen, daysBeforeMonth_succ _ (by decide), ← hdecember, dayOfYear,
        hlast]
    rw [dayNumber_newYear, daysBeforeYear_succ, dayNumber_eq, hyear]
    omega

/-! ## Turning the pages of the calendar -/

/-- The date that lies some days behind 1 January 1970, or before it if their number is negative. -/
inductive IsDay : Int → Date → Prop
  | epoch : IsDay 0 ⟨1970, 1, 1⟩
  | forwards {n : Int} {date : Date} (h : IsDay n date) : IsDay (n + 1) date.next
  | backwards {n : Int} {date : Date} (hdate : date.OnCalendar) (h : IsDay (n + 1) date.next) :
      IsDay n date

/-- Every number is that of a date. From a year that is early enough this date is reached going
forwards. -/
theorem exists_dayNumber_eq (n : Int) : ∃ date : Date, date.OnCalendar ∧ date.dayNumber = n := by
  have hreached : ∀ k : Nat, ∃ date : Date, date.OnCalendar ∧
      date.dayNumber = dayNumber ⟨min n 0, 1, 1⟩ + k := by
    intro k
    induction k with
    | zero => exact ⟨⟨min n 0, 1, 1⟩, onCalendar_newYear _, (Int.add_zero _).symm⟩
    | succ k ih =>
      obtain ⟨date, hdate, hnumber⟩ := ih
      refine ⟨date.next, hdate.next, ?_⟩
      rw [hdate.dayNumber_next, hnumber]
      omega
  have hearly : dayNumber ⟨min n 0, 1, 1⟩ ≤ n := by
    rw [dayNumber_newYear, daysBeforeYear]
    omega
  obtain ⟨k, hk⟩ := Int.le.dest hearly
  obtain ⟨date, hdate, hnumber⟩ := hreached k
  exact ⟨date, hdate, hnumber.trans hk⟩

/-- The pages of the calendar are turned as often as the day number says. -/
theorem isDay_iff {n : Int} {date : Date} :
    IsDay n date ↔ date.OnCalendar ∧ date.dayNumber = n := by
  constructor
  · intro h
    induction h with
    | epoch => exact ⟨onCalendar_newYear 1970, dayNumber_epoch⟩
    | forwards _ ih =>
      obtain ⟨hdate, rfl⟩ := ih
      exact ⟨hdate.next, hdate.dayNumber_next⟩
    | backwards hdate _ ih =>
      have hnumber := hdate.dayNumber_next.symm.trans ih.2
      exact ⟨hdate, (Int.add_left_inj 1).1 hnumber⟩
  · rintro ⟨hdate, hnumber⟩
    induction n generalizing date with
    | zero =>
      obtain rfl := dayNumber_strictMonoOn.injOn hdate (onCalendar_newYear 1970)
        (hnumber.trans dayNumber_epoch.symm)
      exact .epoch
    | succ n ih =>
      -- the date is the next one of a date that has been reached
      obtain ⟨earlier, hearlier, hbefore⟩ := exists_dayNumber_eq n
      obtain rfl : earlier.next = date := dayNumber_strictMonoOn.injOn hearlier.next hdate
        (by rw [hearlier.dayNumber_next, hbefore, hnumber])
      exact .forwards (ih hearlier hbefore)
    | pred n ih =>
      refine .backwards hdate ?_
      rw [Int.sub_add_cancel]
      exact ih hdate.next (by rw [hdate.dayNumber_next, hnumber, Int.sub_add_cancel])

theorem existsUnique_isDay (n : Int) : ∃! date, IsDay n date := by
  obtain ⟨date, hdate, hnumber⟩ := exists_dayNumber_eq n
  refine ⟨date, isDay_iff.2 ⟨hdate, hnumber⟩, fun other hother ↦ ?_⟩
  obtain ⟨hother, hsame⟩ := isDay_iff.1 hother
  exact dayNumber_strictMonoOn.injOn hother hdate (hsame.trans hnumber.symm)

/-! ## Instants -/

/-- The date in UTC at an instant that is given in milliseconds. -/
def IsDateOf (date : Date) (t : Int) : Prop := IsDay (t / millisecondsPerDay) date

theorem timestamp_midnight (date : Date) :
    timestamp date .midnight = millisecondsPerDay * date.dayNumber :=
  Int.add_zero _

variable {date other : Date} {t : Int} (h : date.IsDateOf t) (hother : other.OnCalendar)

include h hother

/-- A day has begun at an instant if its date has been reached. -/
theorem timestamp_le_iff : timestamp other .midnight ≤ t ↔ other ≤ date := by
  obtain ⟨hdate, hnumber⟩ := isDay_iff.1 h
  rw [← dayNumber_strictMonoOn.le_iff_le hother hdate, timestamp_midnight, hnumber,
    Int.le_ediv_iff_mul_le (by decide), Int.mul_comm]

/-- A day has not gone on at an instant if its date has not been reached, or at its very start. -/
theorem le_timestamp_iff :
    t ≤ timestamp other .midnight ↔ date < other ∨ t = timestamp other .midnight := by
  rw [Int.le_iff_lt_or_eq, ← Int.not_le, timestamp_le_iff h hother, not_le]

end Date

end FilterQuery.Calendar
