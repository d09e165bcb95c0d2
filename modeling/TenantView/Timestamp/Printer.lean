import TenantView.Timestamp.Basic
import TenantView.Number.Decimal

/-!
# Writing timestamps

A timestamp is written with fields of fixed width.  A year outside `0` to `9999` has a sign and
at least four digits.  The fraction of a second has no, three, six or nine digits, the fewest of
these that lose nothing.  The offset is `Z` exactly when it is zero, and a sign with hours and
minutes otherwise.
-/

namespace TenantView.Timestamp

/-- The digits of `n` on at least `width` places. -/
def padded (width n : Nat) : List Char :=
  (Decimal.paddedDigits width n).map fun d ↦ Char.ofNat (0x30 + d)

/-- The year: four digits, or a sign and at least four digits. -/
def printYear (year : Int) : List Char :=
  if 0 ≤ year ∧ year ≤ 9999 then padded 4 year.toNat
  else (if year < 0 then '-' else '+') :: padded 4 year.natAbs

/-- The fraction of a second. -/
def printFraction (nanosecond : Nat) : List Char :=
  if nanosecond = 0 then []
  else if nanosecond % 1000000 = 0 then '.' :: padded 3 (nanosecond / 1000000)
  else if nanosecond % 1000 = 0 then '.' :: padded 6 (nanosecond / 1000)
  else '.' :: padded 9 nanosecond

/-- The offset from universal time. -/
def printOffset (minutes : Int) : List Char :=
  if minutes = 0 then ['Z']
  else
    (if minutes < 0 then '-' else '+') ::
      (padded 2 (minutes.natAbs / 60) ++ ':' :: padded 2 (minutes.natAbs % 60))

/-- The characters of a timestamp. -/
def print (t : Timestamp) : List Char :=
  printYear t.year ++ '-' :: padded 2 t.month ++ '-' :: padded 2 t.day ++
    'T' :: padded 2 t.hour ++ ':' :: padded 2 t.minute ++ ':' :: padded 2 t.second ++
    printFraction t.nanosecond ++ printOffset t.offsetMinutes

/-- The text of a timestamp. -/
def text (t : Timestamp) : String :=
  String.ofList t.print

end TenantView.Timestamp
