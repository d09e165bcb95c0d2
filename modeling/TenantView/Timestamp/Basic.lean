import TenantView.Timestamp.Calendar

/-!
# Timestamps with a local offset

A timestamp keeps the civil date and time at its place together with the offset of that place
from universal time, in whole minutes.  Second `60` is the leap second.  The instant it denotes
is the count of nanoseconds of its local fields less its offset (`Fields.instant`).  Dates run from
the year `-262143` to the year `262142`, at the place itself and in universal time.
-/

namespace TenantView

/-- Why a text does not denote a timestamp. -/
inductive TimestampError
  /-- The text ends before the timestamp does. -/
  | tooShort
  /-- The text goes on after the timestamp. -/
  | tooLong
  /-- A character stands where the form does not allow it. -/
  | malformed
  /-- A field has a number beyond its range. -/
  | outOfRange
  /-- The date at the place exists, but the instant lies beyond the years that are counted. -/
  | noSuchInstant
deriving DecidableEq, Repr

namespace TimestampError

/-- The wording of the reason. -/
def message : TimestampError → String
  | tooShort => "premature end of input"
  | tooLong => "trailing input"
  | malformed => "input contains invalid characters"
  | outOfRange => "input is out of range"
  | noSuchInstant => "no possible date and time matching input"

end TimestampError

namespace Timestamp

/-- The fields of a timestamp as they are written. -/
structure Fields where
  year : Int
  month : Nat
  day : Nat
  hour : Nat
  minute : Nat
  second : Nat
  nanosecond : Nat
  offsetMinutes : Int
deriving DecidableEq, Repr

namespace Fields

/-- The first and the last year that are counted. -/
def firstYear : Int := -262143

def lastYear : Int := 262142

/-- The date exists and its year is counted. -/
def DateExists (f : Fields) : Prop :=
  firstYear ≤ f.year ∧ f.year ≤ lastYear ∧ 1 ≤ f.day ∧
    f.day ≤ Calendar.daysInMonth f.year f.month

instance (f : Fields) : Decidable f.DateExists := by
  unfold DateExists
  infer_instance

/-- Second `60` is the leap second, which any minute may have. -/
def TimeExists (f : Fields) : Prop :=
  f.hour < 24 ∧ f.minute < 60 ∧ f.second ≤ 60 ∧ f.nanosecond < 1000000000

instance (f : Fields) : Decidable f.TimeExists := by
  unfold TimeExists
  infer_instance

/-- An offset is less than a day in either direction. -/
def OffsetExists (f : Fields) : Prop :=
  -1440 < f.offsetMinutes ∧ f.offsetMinutes < 1440

instance (f : Fields) : Decidable f.OffsetExists := by
  unfold OffsetExists
  infer_instance

/-- The minutes from the first of March of year `0` to the minute of the fields, in universal
time. -/
def universalMinute (f : Fields) : Int :=
  1440 * Calendar.dayNumber f.year f.month f.day + 60 * f.hour + f.minute - f.offsetMinutes

/-- The date in universal time is counted too. -/
def InstantExists (f : Fields) : Prop :=
  1440 * Calendar.dayNumber firstYear 1 1 ≤ f.universalMinute ∧
    f.universalMinute < 1440 * Calendar.dayNumber (lastYear + 1) 1 1

instance (f : Fields) : Decidable f.InstantExists := by
  unfold InstantExists
  infer_instance

/-- The instant in nanoseconds; a leap second follows the last ordinary second of its minute. -/
def instant (f : Fields) : Int :=
  1000000000 * (60 * f.universalMinute + f.second) + f.nanosecond

end Fields

end Timestamp

/-- A timestamp: fields that denote an instant. -/
structure Timestamp extends Timestamp.Fields where
  dateExists : toFields.DateExists
  timeExists : toFields.TimeExists
  offsetExists : toFields.OffsetExists
  instantExists : toFields.InstantExists
deriving DecidableEq, Repr

namespace Timestamp

/-- The timestamp with the given fields, if they denote an instant. -/
def ofFields (f : Fields) : Except TimestampError Timestamp :=
  if date : f.DateExists then
    if time : f.TimeExists then
      if offset : f.OffsetExists then
        if instant : f.InstantExists then
          .ok ⟨f, date, time, offset, instant⟩
        else .error .noSuchInstant
      else .error .outOfRange
    else .error .outOfRange
  else .error .outOfRange

theorem ofFields_toFields (t : Timestamp) : ofFields t.toFields = .ok t := by
  simp [ofFields, t.dateExists, t.timeExists, t.offsetExists, t.instantExists]

end Timestamp

end TenantView
