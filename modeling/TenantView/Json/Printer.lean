import TenantView.Json.Value

/-!
# The compact text of a value

A value is printed without blanks.  Text escapes the quote, the backslash and the characters
below U+0020, and nothing else.  A double is printed by its shortest decimal, positionally from
`0.00001` up to below `10 ^ 16` and with an exponent outside, and always so that it cannot be
taken for an integer.  Printing is defined in front of a given rest (`Value.emit`), which keeps
it linear and is what a reader of the text needs.
-/

namespace TenantView.Json

/-- The notation of doubles: the bounds between which the point is placed among the digits.
With `point` places before the decimal point, a number is positional when
`lowest < point ≤ highest`. -/
structure Notation where
  lowest : Int
  highest : Int

/-- Doubles are positional from `0.00001` up to below `10 ^ 16`. -/
def doubleNotation : Notation where
  lowest := -5
  highest := 16

namespace Notation

/-- A sign byte for negative numbers. -/
def sign (negative : Bool) : Bytes :=
  if negative then [Ascii.minus] else []

/-- The ASCII bytes of decimal digits. -/
def digitBytes (ds : List Nat) : Bytes :=
  ds.map Ascii.ofDigit

/-- The exponent part: the letter, a sign that is always written, and the exponent. -/
def exponentPart (exponent : Int) : Bytes :=
  Ascii.lowerE :: (if exponent < 0 then Ascii.minus else Ascii.plus) ::
    Decimal.bytes exponent.natAbs

/-- The text of the positive decimal `m · 10 ^ exponent`, where `m` does not end in zero. -/
def positive (format : Notation) (m : Nat) (exponent : Int) : Bytes :=
  let ds := Decimal.digits m
  let point : Int := ds.length + exponent
  if format.lowest < point ∧ point ≤ format.highest then
    if 0 ≤ exponent then
      digitBytes (ds ++ List.replicate exponent.toNat 0) ++ [Ascii.point, Ascii.zero]
    else if 0 < point then
      digitBytes (ds.take point.toNat) ++ Ascii.point :: digitBytes (ds.drop point.toNat)
    else
      Ascii.zero :: Ascii.point :: digitBytes (List.replicate (-point).toNat 0 ++ ds)
  else
    let fraction := ds.drop 1
    digitBytes (ds.take 1) ++
      (if fraction.isEmpty then [] else Ascii.point :: digitBytes fraction) ++
      exponentPart (point - 1)

/-- The text of a double. -/
def double (format : Notation) (d : Double) : Bytes :=
  sign d.negative ++
    if d.code = 0 then [Ascii.zero, Ascii.point, Ascii.zero]
    else
      let c := d.shortest
      let (m, zeros) := Decimal.stripZeros 32 c.digits
      format.positive m (c.exponent + zeros)

end Notation

/-- The text of a double. -/
def Double.bytes (d : Double) : Bytes :=
  doubleNotation.double d

/-- The text of a number. -/
def Number.bytes : Number → Bytes
  | whole value _ => Notation.sign (value < 0) ++ Decimal.bytes value.natAbs
  | real value => doubleNotation.double value

/-- The bytes that stand for one byte inside quotes. -/
def escapeByte (b : UInt8) : Bytes :=
  match b with
  | Ascii.quote => [Ascii.backslash, Ascii.quote]
  | Ascii.backslash => [Ascii.backslash, Ascii.backslash]
  | Ascii.backspace => [Ascii.backslash, Ascii.lowerB]
  | Ascii.tab => [Ascii.backslash, Ascii.lowerT]
  | Ascii.newline => [Ascii.backslash, Ascii.lowerN]
  | Ascii.formFeed => [Ascii.backslash, Ascii.lowerF]
  | Ascii.carriageReturn => [Ascii.backslash, Ascii.lowerR]
  | b =>
    if b < Ascii.space then
      [Ascii.backslash, Ascii.lowerU, Ascii.zero, Ascii.zero,
        Ascii.ofHexDigit (b.toNat / 16), Ascii.ofHexDigit (b.toNat % 16)]
    else [b]

/-- A text in quotes, in front of the rest. -/
def emitText (s : String) (rest : Bytes) : Bytes :=
  Ascii.quote :: ((Text.toBytes s).flatMap escapeByte ++ Ascii.quote :: rest)

namespace Value

mutual

/-- The text of a value, in front of the rest. -/
def emit : Value → Bytes → Bytes
  | null, rest => Ascii.lowerN :: Ascii.lowerU :: 0x6c :: 0x6c :: rest
  | boolean true, rest => Ascii.lowerT :: Ascii.lowerR :: Ascii.lowerU :: Ascii.lowerE :: rest
  | boolean false, rest => Ascii.lowerF :: 0x61 :: 0x6c :: 0x73 :: Ascii.lowerE :: rest
  | number n, rest => n.bytes ++ rest
  | string s, rest => emitText s rest
  | array [], rest => Ascii.openBracket :: Ascii.closeBracket :: rest
  | array (v :: vs), rest =>
    Ascii.openBracket :: v.emit (emitItems vs (Ascii.closeBracket :: rest))
  | object [], rest => Ascii.openBrace :: Ascii.closeBrace :: rest
  | object ((k, v) :: ms), rest =>
    Ascii.openBrace :: emitText k (Ascii.colon ::
      v.emit (emitMembers ms (Ascii.closeBrace :: rest)))

/-- The further items of a sequence, each behind a comma. -/
def emitItems : List Value → Bytes → Bytes
  | [], rest => rest
  | v :: vs, rest => Ascii.comma :: v.emit (emitItems vs rest)

/-- The further members of a mapping, each behind a comma. -/
def emitMembers : List (String × Value) → Bytes → Bytes
  | [], rest => rest
  | (k, v) :: ms, rest =>
    Ascii.comma :: emitText k (Ascii.colon :: v.emit (emitMembers ms rest))

end

/-- The compact text of a value. -/
def bytes (v : Value) : Bytes :=
  v.emit []

end Value

end TenantView.Json
