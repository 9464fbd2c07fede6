/- digest: Points in time on the universal scale, and their calendar dates. -/

set_option autoImplicit false
set_option relaxedAutoImplicit false

namespace Assay

/-- Seconds since the start of 1970 and nanoseconds after them; a leap second counts as nanoseconds
beyond one thousand million. -/
structure Instant where
  seconds : Int
  nanos : Nat
  deriving DecidableEq, Inhabited

/-- A day of the calendar that is extended without end in both directions. -/
structure Date where
  year : Int
  month : Nat
  day : Nat
  deriving DecidableEq

namespace Date

/-- Every fourth year has a leap day, but of the full centuries only every fourth one. -/
def isLeap (year : Int) : Bool :=
  year % 4 == 0 && (year % 100 != 0 || year % 400 == 0)

def monthLength (year : Int) (month : Nat) : Nat :=
  if month = 2 then if isLeap year then 29 else 28
  else if month = 4 ∨ month = 6 ∨ month = 9 ∨ month = 11 then 30
  else 31

def daysBefore (year : Int) (month : Nat) : Nat :=
  (List.range (month - 1)).foldl (fun days m => days + monthLength year (m + 1)) 0

def yearStart (year : Int) : Int :=
  let y := year - 1
  366 + 365 * y + y / 4 - y / 100 + y / 400

def dayNumber (d : Date) : Int :=
  yearStart d.year - yearStart 1970 + daysBefore d.year d.month + (d.day - 1)

def yearInRange (year : Int) : Bool := -262143 ≤ year && year ≤ 262142

/-- The date of three numbers, if the calendar has it. -/
def ofNumbers? (year : Int) (month day : Nat) : Option Date :=
  if yearInRange year ∧ 1 ≤ month ∧ month ≤ 12 ∧ 1 ≤ day ∧ day ≤ monthLength year month then
    some ⟨year, month, day⟩
  else none

/-- The month and day that a count of days within a year falls on; `months` months are left. -/
def ofYearDay (year : Int) (month rest : Nat) : Nat → Date
  | 0 => ⟨year, month, rest + 1⟩
  | months + 1 =>
    if rest < monthLength year month then ⟨year, month, rest + 1⟩
    else ofYearDay year (month + 1) (rest - monthLength year month) months

/-- The date of a day since the start of 1970: a year guessed from the mean length is right or one
too late or too early. -/
def ofDayNumber (n : Int) : Date :=
  let days := n + yearStart 1970
  let guess := days * 400 / 146097
  let year :=
    if days < yearStart guess then guess - 1
    else if yearStart (guess + 1) ≤ days then guess + 1
    else guess
  ofYearDay year 1 (days - yearStart year).toNat 11

end Date

/-- A time of day; a leap second counts as nanoseconds beyond one thousand million. -/
structure Clock where
  hour : Nat
  minute : Nat
  second : Nat
  nanos : Nat
  deriving DecidableEq

namespace Clock

/-- The time of day of four numbers; the second 60 is the leap second. -/
def ofNumbers? (hour minute second nanos : Nat) : Option Clock :=
  if hour < 24 ∧ minute < 60 ∧ second ≤ 60 then
    if second = 60 then some ⟨hour, minute, 59, nanos + 1000000000⟩
    else some ⟨hour, minute, second, nanos⟩
  else none

end Clock

namespace Instant

/-- The instant of a date and time at an offset in seconds. -/
def ofLocal (d : Date) (c : Clock) (offset : Int) : Instant :=
  ⟨d.dayNumber * 86400 + (c.hour * 3600 + c.minute * 60 + c.second : Nat) - offset, c.nanos⟩

def before (a b : Instant) : Bool :=
  a.seconds < b.seconds || (a.seconds == b.seconds && a.nanos < b.nanos)

def date (i : Instant) : Date := Date.ofDayNumber (i.seconds / 86400)

def clock (i : Instant) : Clock :=
  let s := (i.seconds % 86400).toNat
  ⟨s / 3600, s / 60 % 60, s % 60, i.nanos⟩

end Instant

end Assay
