import AttrExpr.Calendar.Instant
import AttrExpr.Calendar.Pattern

/-! Fields read from a text: they are collected as long as they agree, and a date, a time or an
instant is made from them when there are enough and all fit. -/
set_option autoImplicit false

namespace AttrExpr

/-- Why fields make no date or time: some are missing, or some exclude each other. -/
inductive FieldsError where
  | missing
  | contradiction
  deriving DecidableEq, Repr

structure Fields where
  year : Option Int := none
  century : Option Int := none
  yearOfCentury : Option Int := none
  isoYear : Option Int := none
  isoYearOfCentury : Option Int := none
  quarter : Option Int := none
  month : Option Int := none
  day : Option Int := none
  weekFromSunday : Option Int := none
  weekFromMonday : Option Int := none
  isoWeek : Option Int := none
  weekday : Option Int := none
  ordinal : Option Int := none
  half : Option Int := none
  hourOfHalf : Option Int := none
  minute : Option Int := none
  second : Option Int := none
  nanosecond : Option Int := none
  timestamp : Option Int := none
  offset : Option Int := none

namespace Fields

def empty : Fields := {}

/-- A field takes a value that is in its range and is the one it has, if it has one. -/
def agree (low high : Int) (old : Option Int) (value : Int) : Option (Option Int) :=
  if low ≤ value ∧ value ≤ high then
    match old with
    | none => some (some value)
    | some earlier => if earlier = value then some old else none
  else none

def setWeekday (weekday : Weekday) (fields : Fields) : Option Fields :=
  (agree 0 6 fields.weekday weekday.number).map fun v => { fields with weekday := v }

def setHalf (half : Int) (fields : Fields) : Option Fields :=
  (agree 0 1 fields.half half).map fun v => { fields with half := v }

def setHourOfHalf (hour : Int) (fields : Fields) : Option Fields :=
  (agree 0 11 fields.hourOfHalf hour).map fun v => { fields with hourOfHalf := v }

def setHour (hour : Int) (fields : Fields) : Option Fields :=
  if 0 ≤ hour ∧ hour ≤ 23 then (fields.setHalf (hour / 12)).bind (·.setHourOfHalf (hour % 12))
  else none

/-- The offset in minutes. -/
def setOffset (minutes : Int) (fields : Fields) : Option Fields :=
  (agree (-100000) 100000 fields.offset minutes).map fun v => { fields with offset := v }

/-- Sets a field that is a number. -/
def set (field : NumberField) (value : Int) (fields : Fields) : Option Fields :=
  match field with
  | .year =>
    (agree (-0x80000000) 0x7FFFFFFF fields.year value).map fun v => { fields with year := v }
  | .century => (agree 0 0x7FFFFFFF fields.century value).map fun v => { fields with century := v }
  | .yearOfCentury =>
    (agree 0 99 fields.yearOfCentury value).map fun v => { fields with yearOfCentury := v }
  | .isoYear =>
    (agree (-0x80000000) 0x7FFFFFFF fields.isoYear value).map fun v => { fields with isoYear := v }
  | .isoYearOfCentury =>
    (agree 0 99 fields.isoYearOfCentury value).map fun v => { fields with isoYearOfCentury := v }
  | .quarter => (agree 1 4 fields.quarter value).map fun v => { fields with quarter := v }
  | .month => (agree 1 12 fields.month value).map fun v => { fields with month := v }
  | .day => (agree 1 31 fields.day value).map fun v => { fields with day := v }
  | .weekFromSunday =>
    (agree 0 53 fields.weekFromSunday value).map fun v => { fields with weekFromSunday := v }
  | .weekFromMonday =>
    (agree 0 53 fields.weekFromMonday value).map fun v => { fields with weekFromMonday := v }
  | .isoWeek => (agree 1 53 fields.isoWeek value).map fun v => { fields with isoWeek := v }
  | .daysFromSunday =>
    if 0 ≤ value ∧ value ≤ 6 then fields.setWeekday (.ofNumber (value + 6).toNat) else none
  | .weekdayNumber =>
    if 1 ≤ value ∧ value ≤ 7 then fields.setWeekday (.ofNumber (value - 1).toNat) else none
  | .ordinal => (agree 1 366 fields.ordinal value).map fun v => { fields with ordinal := v }
  | .hour => fields.setHour value
  | .clockHour => if 1 ≤ value ∧ value ≤ 12 then fields.setHourOfHalf (value % 12) else none
  | .minute => (agree 0 59 fields.minute value).map fun v => { fields with minute := v }
  | .second => (agree 0 60 fields.second value).map fun v => { fields with second := v }
  | .nanosecond =>
    (agree 0 999999999 fields.nanosecond value).map fun v => { fields with nanosecond := v }
  | .timestamp =>
    (agree (-0x8000000000000000) 0x7FFFFFFFFFFFFFFF fields.timestamp value).map fun v =>
      { fields with timestamp := v }

/-- A year from its parts. Two digits alone stand for a year from 1970 to 2069. -/
def resolveYear (year century yearOfCentury : Option Int) : Except FieldsError (Option Int) :=
  match year, century, yearOfCentury with
  | y, none, none => .ok y
  | some y, c, r =>
    if y < 0 then .error .contradiction
    else if c.getD (y / 100) = y / 100 ∧ r.getD (y % 100) = y % 100 then .ok (some y)
    else .error .contradiction
  | none, some c, some r => .ok (some (c * 100 + r))
  | none, none, some r => .ok (some (r + if r < 70 then 2000 else 1900))
  | none, some _, none => .error .missing

/-- Whether a field, when it is there, has a value. -/
def allows (field : Option Int) (value : Int) : Bool :=
  match field with
  | none => true
  | some v => v == value

/-- Whether the parts of a year, when they are there, are those of a year that is not negative. -/
def allowsYearParts (century yearOfCentury : Option Int) (year : Int) : Bool :=
  if 0 ≤ year then allows century (year / 100) && allows yearOfCentury (year % 100)
  else century.isNone && yearOfCentury.isNone

/-- Whether a date has all the fields that are there. -/
def fits (fields : Fields) (date : Date) : Bool :=
  let iso := date.isoWeek
  allows fields.year date.year && allowsYearParts fields.century fields.yearOfCentury date.year &&
    allows fields.quarter date.quarter && allows fields.month date.month &&
    allows fields.day date.day &&
    allows fields.isoYear iso.1 && allowsYearParts none fields.isoYearOfCentury iso.1 &&
    allows fields.isoWeek iso.2 && allows fields.weekday date.weekday.number &&
    allows fields.ordinal date.ordinal && allows fields.weekFromSunday (date.weekFrom .sunday) &&
    allows fields.weekFromMonday (date.weekFrom .monday)

/-- The date that the first sufficient group of fields names; nothing when no group is complete. -/
def candidate? (fields : Fields) (year isoYear : Option Int) : Option (Option Date) :=
  match year, fields.month, fields.day, fields.ordinal, fields.weekday with
  | some y, some m, some d, _, _ => some (Date.ofParts? y m.toNat d.toNat)
  | some y, _, _, some o, _ => some (Date.ofOrdinal? y o.toNat)
  | year, _, _, _, some w =>
    let weekday := Weekday.ofNumber w.toNat
    match year, fields.weekFromSunday, fields.weekFromMonday, isoYear, fields.isoWeek with
    | some y, some n, _, _, _ => some (Date.ofWeek? y n.toNat weekday .sunday)
    | some y, _, some n, _, _ => some (Date.ofWeek? y n.toNat weekday .monday)
    | _, _, _, some y, some n => some (Date.ofIsoWeek? y n.toNat weekday)
    | _, _, _, _, _ => none
  | _, _, _, _, _ => none

def date (fields : Fields) : Except FieldsError Date := do
  let year ← resolveYear fields.year fields.century fields.yearOfCentury
  let isoYear ← resolveYear fields.isoYear none fields.isoYearOfCentury
  match fields.candidate? year isoYear with
  | none => .error .missing
  | some none => .error .contradiction
  | some (some date) => if fields.fits date then pure date else .error .contradiction

/-- The time of day. Seconds may be missing, but then a fraction of them may not be there. -/
def time (fields : Fields) : Except FieldsError TimeOfDay :=
  match fields.half, fields.hourOfHalf, fields.minute, fields.second, fields.nanosecond with
  | some _, some _, some _, none, some _ => .error .missing
  | some half, some hour, some minute, second, nanosecond =>
    match TimeOfDay.ofParts? (half * 12 + hour).toNat minute.toNat (second.getD 0).toNat
        (nanosecond.getD 0).toNat with
    | some time => .ok time
    | none => .error .contradiction
  | _, _, _, _, _ => .error .missing

/-- The fields with those of a timestamp filled in, at an offset in minutes. A second 60 stays as it
is when the timestamp is the second before or after. -/
def fillFromTimestamp? (fields : Fields) (timestamp offset : Int) : Option Fields :=
  let seconds := timestamp + offset * 60
  let at60 := fields.second == some 60
  let seconds := if at60 && seconds % 60 == 0 then seconds - 1 else seconds
  match Date.ofDayNumber? (dayOfSeconds seconds) with
  | none => none
  | some date => do
    let fields ←
      if at60 then (if seconds % 60 = 59 then some fields else none)
      else fields.set .second (seconds % 60)
    let fields ← fields.set .year date.year
    let fields ← fields.set .ordinal date.ordinal
    let fields ← fields.set .hour (seconds % 86400 / 3600)
    fields.set .minute (seconds % 3600 / 60)

/-- The local date and time at an offset in minutes. When date or time is not complete they are made
from the timestamp; otherwise the timestamp has to agree. -/
def dateTime (fields : Fields) (offset : Int) : Except FieldsError (Date × TimeOfDay) :=
  match fields.date, fields.time, fields.timestamp with
  | .ok date, .ok time, none => .ok (date, time)
  | .ok date, .ok time, some timestamp =>
    let seconds := secondsSinceEpoch date time - offset * 60
    if timestamp = seconds ∨ (time.isLeapSecond ∧ timestamp = seconds + 1) then .ok (date, time)
    else .error .contradiction
  | .error .contradiction, _, _ | _, .error .contradiction, _ => .error .contradiction
  | _, _, some timestamp =>
    match fields.fillFromTimestamp? timestamp offset with
    | none => .error .contradiction
    | some filled => do
      let date ← filled.date
      let time ← filled.time
      pure (date, time)
  | _, _, none => .error .missing

/-- The instant that the fields name with their own offset. A timestamp alone is in universal
time. -/
def instant? (fields : Fields) : Option Instant :=
  match fields.offset, fields.timestamp with
  | none, none => none
  | offset, _ =>
    match fields.dateTime (offset.getD 0) with
    | .error _ => none
    | .ok (date, time) => (Offset.ofMinutes? (offset.getD 0)).bind (Instant.ofLocal? date time)

end Fields

end AttrExpr
