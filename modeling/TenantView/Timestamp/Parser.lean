import TenantView.Number.Decimal
import TenantView.Text.Blank
import TenantView.Timestamp.Basic

/-!
# Reading timestamps

The form is year, month and day, then hour, minute and second, then the offset, relaxed in
several ways: blanks may stand before every field and separator, numeric fields may have fewer
digits than usual, a signed year may have more, the date and the time are parted by `t`, `T` or
one space, digits of a second past the ninth are cut off, and the offset may be `Z`, `z`, `UTC`
in any case, or a signed hour with minutes, with or without a colon.  A field beyond its own range
is refused where it stands; whether the date exists is asked when the whole text has been read.
-/

namespace TenantView.Timestamp

/-- Reads a part of a timestamp from the front and leaves the rest. -/
abbrev Scan (α : Type) := List Char → Except TimestampError (α × List Char)

/-- The decimal value of the leading digits, at most `width` of them, and the rest. -/
def leadingDigits : (width : Nat) → Nat → List Char → Nat × List Char
  | 0, n, cs => (n, cs)
  | _ + 1, n, [] => (n, [])
  | width + 1, n, c :: cs =>
    if c.isDigit then leadingDigits width (10 * n + (c.toNat - '0'.toNat)) cs
    else (n, c :: cs)

/-- A number of one up to `width` digits. -/
def scanNumber (width : Nat) : Scan Nat
  | [] => .error .tooShort
  | c :: cs => if c.isDigit then .ok (leadingDigits width 0 (c :: cs)) else .error .malformed

/-- A number of one up to two digits between two bounds, after blanks. -/
def scanField (least most : Nat) : Scan Nat := fun cs ↦ do
  let (n, rest) ← scanNumber 2 (Text.trimStart cs)
  if least ≤ n ∧ n ≤ most then return (n, rest) else throw .outOfRange

/-- The greatest year that is read at all. -/
def greatestYear : Int := 2147483647

/-- The year after blanks: with a sign any number of digits, without one at most four. -/
def scanYear : Scan Int := fun cs ↦
  match Text.trimStart cs with
  | '-' :: cs => do
    let (n, rest) ← scanNumber cs.length cs
    if -greatestYear - 1 ≤ -(n : Int) then return (-(n : Int), rest) else throw .outOfRange
  | '+' :: cs => do
    let (n, rest) ← scanNumber cs.length cs
    if (n : Int) ≤ greatestYear then return ((n : Int), rest) else throw .outOfRange
  | cs => do
    let (n, rest) ← scanNumber 4 cs
    return ((n : Int), rest)

/-- A separator after blanks. -/
def scanSeparator (separator : Char) : Scan Unit := fun cs ↦
  match Text.trimStart cs with
  | [] => .error .tooShort
  | c :: rest => if c = separator then .ok ((), rest) else .error .malformed

/-- What parts the date from the time: the letter `t` in either case or one space. -/
def scanDateEnd : Scan Unit
  | [] => .error .tooShort
  | c :: rest => if c = 't' ∨ c = 'T' ∨ c = ' ' then .ok ((), rest) else .error .malformed

/-- The fraction of a second in nanoseconds, if a point follows; digits past the ninth are cut
off. -/
def scanFraction : Scan Nat
  | '.' :: cs => do
    let (n, rest) ← scanNumber 9 cs
    let used := cs.length - rest.length
    return (n * Decimal.scale (9 - used), rest.dropWhile Char.isDigit)
  | cs => .ok (0, cs)

/-- Two digits with their tens below `tens`; two digits with higher tens are beyond the range. -/
def scanTwoDigits (tens : Nat) : Scan Nat
  | [] => .error .tooShort
  | [c] => if c.utf8Size < 2 then .error .tooShort else .error .malformed
  | c :: d :: rest =>
    if c.isDigit ∧ d.isDigit then
      let high := c.toNat - '0'.toNat
      if high < tens then .ok (10 * high + (d.toNat - '0'.toNat), rest) else .error .outOfRange
    else .error .malformed

/-- The minutes of an offset, after colons and blanks. -/
def scanOffsetMinutes : Scan Nat := fun cs ↦
  scanTwoDigits 6 (cs.dropWhile fun c ↦ c = ':' || Text.isBlank c)

/-- The offset from universal time in minutes: `Z`, or a sign with hours and minutes.  The sign
may be the plus, the hyphen or the minus sign. -/
def scanOffset : Scan Int := fun cs ↦
  let signed (negative : Bool) (cs : List Char) : Except TimestampError (Int × List Char) := do
    let (hours, cs) ← scanTwoDigits 10 cs
    let (minutes, cs) ← scanOffsetMinutes cs
    let total : Int := 60 * hours + minutes
    return (if negative then -total else total, cs)
  match cs with
  | [] => .error .tooShort
  | 'Z' :: rest => .ok (0, rest)
  | 'z' :: rest => .ok (0, rest)
  | '+' :: rest => signed false rest
  | '-' :: rest => signed true rest
  | '\u2212' :: rest => signed true rest
  | _ => .error .malformed

/-- The zone: `UTC` in any case, or an offset, after blanks. -/
def scanZone : Scan Int := fun cs ↦
  match Text.trimStart cs with
  | u :: t :: c :: rest =>
    if u.toUpper = 'U' ∧ t.toUpper = 'T' ∧ c.toUpper = 'C' then .ok (0, rest)
    else scanOffset (u :: t :: c :: rest)
  | cs => scanOffset cs

/-- The fields of a timestamp, and the rest of the text. -/
def scanFields : Scan Fields := fun cs ↦ do
  let (year, cs) ← scanYear cs
  let ((), cs) ← scanSeparator '-' cs
  let (month, cs) ← scanField 1 12 cs
  let ((), cs) ← scanSeparator '-' cs
  let (day, cs) ← scanField 1 31 cs
  let ((), cs) ← scanDateEnd cs
  let (hour, cs) ← scanField 0 23 cs
  let ((), cs) ← scanSeparator ':' cs
  let (minute, cs) ← scanField 0 59 cs
  let ((), cs) ← scanSeparator ':' cs
  let (second, cs) ← scanField 0 60 cs
  let (nanosecond, cs) ← scanFraction cs
  let (offsetMinutes, cs) ← scanZone cs
  return ({ year, month, day, hour, minute, second, nanosecond, offsetMinutes }, cs)

/-- The timestamp that a text denotes; only blanks may follow it. -/
def parse (s : String) : Except TimestampError Timestamp := do
  let (fields, rest) ← scanFields s.toList
  if rest.all Text.isBlank then ofFields fields else throw .tooLong

end TenantView.Timestamp
