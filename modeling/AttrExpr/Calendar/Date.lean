/-! Dates of the Gregorian calendar, extended to all years, with a year zero and negative years.
Days are counted from 0001-01-01, which is day one and a Monday. -/
set_option autoImplicit false

namespace AttrExpr

def isLeapYear (year : Int) : Bool := year % 4 == 0 && (year % 100 != 0 || year % 400 == 0)

def daysInYear (year : Int) : Nat := if isLeapYear year then 366 else 365

def daysInMonth (year : Int) : Nat → Nat
  | 2 => if isLeapYear year then 29 else 28
  | 4 | 6 | 9 | 11 => 30
  | _ => 31

def firstYear : Int := -262143

def lastYear : Int := 262142

/-- The years, months and days that make a date. -/
def DateValid (year : Int) (month day : Nat) : Prop :=
  (firstYear ≤ year ∧ year ≤ lastYear) ∧ (1 ≤ month ∧ month ≤ 12) ∧
    (1 ≤ day ∧ day ≤ daysInMonth year month)

instance (year : Int) (month day : Nat) : Decidable (DateValid year month day) :=
  inferInstanceAs (Decidable ((_ ∧ _) ∧ (_ ∧ _) ∧ (_ ∧ _)))

structure Date where
  year : Int
  month : Nat
  day : Nat
  valid : DateValid year month day
  deriving DecidableEq

inductive Weekday where
  | monday
  | tuesday
  | wednesday
  | thursday
  | friday
  | saturday
  | sunday
  deriving DecidableEq, Repr

namespace Weekday

/-- The days since Monday. -/
def number : Weekday → Nat
  | monday => 0
  | tuesday => 1
  | wednesday => 2
  | thursday => 3
  | friday => 4
  | saturday => 5
  | sunday => 6

/-- The day of the week that is some days after a Monday. -/
def ofNumber (n : Nat) : Weekday :=
  match n % 7 with
  | 0 => monday
  | 1 => tuesday
  | 2 => wednesday
  | 3 => thursday
  | 4 => friday
  | 5 => saturday
  | _ => sunday

/-- The number of days from one day of the week on to another. -/
def since (later earlier : Weekday) : Nat := (later.number + 7 - earlier.number) % 7

end Weekday

/-- The days of a year before the first of a month. -/
def daysBeforeMonth (year : Int) : Nat → Nat
  | 0 | 1 => 0
  | month + 2 => daysBeforeMonth year (month + 1) + daysInMonth year (month + 1)

/-- The number of the day before the first day of a year. -/
def daysBeforeYear (year : Int) : Int :=
  let y := year - 1
  365 * y + y.fdiv 4 - y.fdiv 100 + y.fdiv 400

namespace Date

def ofParts? (year : Int) (month day : Nat) : Option Date :=
  if h : DateValid year month day then some ⟨year, month, day, h⟩ else none

/-- The day of the year, counted from one. -/
def ordinal (date : Date) : Nat := daysBeforeMonth date.year date.month + date.day

/-- The date of a day of the year: its month is the last that starts on or before it. -/
def ofOrdinal? (year : Int) (ordinal : Nat) : Option Date :=
  match (List.range 12).reverse.find? fun m => daysBeforeMonth year (m + 1) < ordinal with
  | some m => ofParts? year (m + 1) (ordinal - daysBeforeMonth year (m + 1))
  | none => none

def dayNumber (date : Date) : Int := daysBeforeYear date.year + date.ordinal

/-- The year that a day number falls in. -/
def yearOfDay (n : Int) : Int :=
  let guess := (n * 400).fdiv 146097 + 1
  if n ≤ daysBeforeYear guess then guess - 1
  else if daysBeforeYear (guess + 1) < n then guess + 1
  else guess

def ofDayNumber? (n : Int) : Option Date :=
  let year := yearOfDay n
  ofOrdinal? year (n - daysBeforeYear year).toNat

end Date

/-- The day of the week of a day number. -/
def weekdayOfDay (n : Int) : Weekday := .ofNumber ((n - 1) % 7).toNat

namespace Date

def weekday (date : Date) : Weekday := weekdayOfDay date.dayNumber

def quarter (date : Date) : Nat := (date.month - 1) / 3 + 1

/-- The week of the year, when weeks start on `start` and days before the first are in week zero. -/
def weekFrom (date : Date) (start : Weekday) : Nat :=
  (date.ordinal + 6 - date.weekday.since start) / 7

end Date

/-- The number of the Monday on which a year of whole weeks starts: that of the week that holds the
fourth of January. -/
def weekYearStart (year : Int) : Int :=
  let fourth := daysBeforeYear year + 4
  fourth - (weekdayOfDay fourth).number

namespace Date

/-- The year of whole weeks that a date belongs to, and its week. -/
def isoWeek (date : Date) : Int × Nat :=
  let n := date.dayNumber
  let year :=
    if n < weekYearStart date.year then date.year - 1
    else if weekYearStart (date.year + 1) ≤ n then date.year + 1
    else date.year
  (year, ((n - weekYearStart year) / 7).toNat + 1)

def ofIsoWeek? (year : Int) (week : Nat) (weekday : Weekday) : Option Date :=
  let monday := weekYearStart year + 7 * (week - 1 : Int)
  if 1 ≤ week ∧ monday < weekYearStart (year + 1) then ofDayNumber? (monday + weekday.number)
  else none

/-- The date of a day in a week of a year, with weeks that start on `start`. -/
def ofWeek? (year : Int) (week : Nat) (weekday start : Weekday) : Option Date :=
  let first := 1 + start.since (weekdayOfDay (daysBeforeYear year + 1))
  let ordinal : Int := first + ((week : Int) - 1) * 7 + weekday.since start
  if week ≤ 53 ∧ 0 < ordinal then ofOrdinal? year ordinal.toNat else none

end Date

end AttrExpr
