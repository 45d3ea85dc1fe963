import FilterQuery.Calendar.Date
import FilterQuery.Text.Blank
import FilterQuery.Number.Decimal

/-!
# Timestamps written as dates and date-times

A timestamp counts the milliseconds from the start of 1 January 1970 in UTC. It is written as a
date, as a date-time of RFC 3339 with its offset, or as a date and a time of day in UTC with or
without seconds. The loose forms allow blanks before each number, a signed year of any length and
one-digit fields; RFC 3339 fixes the count of digits of each field. A second 60 counts into the next
minute.
-/

namespace FilterQuery.Calendar

open FilterQuery.Text (isBlank trimStart trim)

structure TimeOfDay where
  hour : Nat
  minute : Nat
  second : Nat
  millisecond : Nat
deriving DecidableEq, Repr

def millisecondsPerDay : Int := 86400000

namespace TimeOfDay

def midnight : TimeOfDay := ⟨0, 0, 0, 0⟩

/-- Whether a day has this time, the sixtieth second included. -/
def isReal (time : TimeOfDay) : Bool :=
  decide (time.hour < 24) && decide (time.minute < 60) && decide (time.second ≤ 60)

def milliseconds (time : TimeOfDay) : Int :=
  3600000 * time.hour + 60000 * time.minute + 1000 * time.second + time.millisecond

end TimeOfDay

/-- Milliseconds from the start of 1970 for a date and a time of day in UTC. -/
def timestamp (date : Date) (time : TimeOfDay) : Int :=
  millisecondsPerDay * date.dayNumber + time.milliseconds

/-- The timestamp of a date and time that the calendar has. -/
def timestamp? (date : Date) (time : TimeOfDay) : Option Int :=
  if date.isReal && time.isReal then some (timestamp date time) else none

/-- The text after an expected character. -/
def expect? (expected : Char) : List Char → Option (List Char)
  | c :: rest => if c = expected then some rest else none
  | [] => none

/-! ## The loose forms -/

/-- A number of at most `width` digits after optional blanks. -/
def readNumber? (width : Nat) (cs : List Char) : Option (Nat × List Char) :=
  let cs := trimStart cs
  let digits := (cs.take width).takeWhile Char.isDigit
  if digits.isEmpty then none else some (ofDigits digits, cs.drop digits.length)

/-- All the digits at the start of a text, at least one. -/
def readAllDigits? (cs : List Char) : Option (Nat × List Char) :=
  let (digits, rest) := Decimal.readDigits cs
  if digits.isEmpty then none else some (ofDigits digits, rest)

/-- A year of at most four digits, or of any number of digits after a sign. -/
def readYear? (cs : List Char) : Option (Int × List Char) :=
  match trimStart cs with
  | '-' :: rest => (readAllDigits? rest).map fun (year, rest) ↦ (-(year : Int), rest)
  | '+' :: rest => (readAllDigits? rest).map fun (year, rest) ↦ ((year : Int), rest)
  | cs => (readNumber? 4 cs).map fun (year, rest) ↦ ((year : Int), rest)

/-- Year, month and day with dashes between them. -/
def readDate? (cs : List Char) : Option (Date × List Char) := do
  let (year, cs) ← readYear? cs
  let cs ← expect? '-' cs
  let (month, cs) ← readNumber? 2 cs
  let cs ← expect? '-' cs
  let (day, cs) ← readNumber? 2 cs
  return (⟨year, month, day⟩, cs)

/-- A date and nothing else: the start of that day in UTC. -/
def dateTimestamp? (cs : List Char) : Option Int := do
  let (date, cs) ← readDate? cs
  if cs.isEmpty then timestamp? date .midnight else none

/-- Date, hour and minute. -/
def readMinute? (cs : List Char) : Option (Date × Nat × Nat × List Char) := do
  let (date, cs) ← readDate? cs
  let cs ← expect? 'T' cs
  let (hour, cs) ← readNumber? 2 cs
  let cs ← expect? ':' cs
  let (minute, cs) ← readNumber? 2 cs
  return (date, hour, minute, cs)

def minuteTimestamp? (cs : List Char) : Option Int := do
  let (date, hour, minute, cs) ← readMinute? cs
  if cs.isEmpty then timestamp? date ⟨hour, minute, 0, 0⟩ else none

def secondTimestamp? (cs : List Char) : Option Int := do
  let (date, hour, minute, cs) ← readMinute? cs
  let cs ← expect? ':' cs
  let (second, cs) ← readNumber? 2 cs
  if cs.isEmpty then timestamp? date ⟨hour, minute, second, 0⟩ else none

/-! ## RFC 3339 -/

/-- Exactly `width` digits. -/
def readFixed? (width : Nat) (cs : List Char) : Option (Nat × List Char) :=
  let digits := cs.take width
  if digits.length = width && digits.all Char.isDigit then some (ofDigits digits, cs.drop width)
  else none

/-- The letter or space between date and time. -/
def readSeparator? : List Char → Option (List Char)
  | c :: rest => if c ∈ ['T', 't', ' '] then some rest else none
  | [] => none

/-- The milliseconds of an optional fraction of a second, further digits cut off. -/
def readMilliseconds? : List Char → Option (Nat × List Char)
  | '.' :: rest =>
    let (digits, rest) := Decimal.readDigits rest
    if digits.isEmpty then none
    else some (ofDigits ((digits ++ ['0', '0']).take 3), rest)
  | cs => some (0, cs)

/-- Hours and minutes of an offset, in minutes. -/
def readOffsetSize? (cs : List Char) : Option (Nat × List Char) := do
  let (hour, cs) ← readFixed? 2 cs
  let cs ← expect? ':' cs
  let (minute, cs) ← readFixed? 2 cs
  if hour < 24 ∧ minute < 60 then return (60 * hour + minute, cs) else none

/-- An offset from UTC in minutes, positive to the east. -/
def readOffset? : List Char → Option (Int × List Char)
  | [] => none
  | c :: rest =>
    if c ∈ ['Z', 'z'] then some (0, rest)
    else if c = '+' then (readOffsetSize? rest).map fun (size, rest) ↦ ((size : Int), rest)
    else if c ∈ ['-', '\u2212'] then
      (readOffsetSize? rest).map fun (size, rest) ↦ (-(size : Int), rest)
    else none

def rfc3339Timestamp? (cs : List Char) : Option Int := do
  let (year, cs) ← readFixed? 4 cs
  let cs ← expect? '-' cs
  let (month, cs) ← readFixed? 2 cs
  let cs ← expect? '-' cs
  let (day, cs) ← readFixed? 2 cs
  let cs ← readSeparator? cs
  let (hour, cs) ← readFixed? 2 cs
  let cs ← expect? ':' cs
  let (minute, cs) ← readFixed? 2 cs
  let cs ← expect? ':' cs
  let (second, cs) ← readFixed? 2 cs
  let (millisecond, cs) ← readMilliseconds? cs
  let (offset, cs) ← readOffset? cs
  let utc ← timestamp? ⟨year, month, day⟩ ⟨hour, minute, second, millisecond⟩
  if cs.isEmpty then some (utc - 60000 * offset) else none

/-- The timestamp that a text writes, blanks around it aside. -/
def parseTimestamp? (s : String) : Option Int :=
  let cs := (trim s).toList
  dateTimestamp? cs <|> rfc3339Timestamp? cs <|> secondTimestamp? cs <|> minuteTimestamp? cs

end FilterQuery.Calendar
