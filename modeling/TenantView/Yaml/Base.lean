import TenantView.Text.Bytes

/-!
# Binary scalars

A scalar with the tag for binary data spells bytes with sixty-four signs, four of which make three
bytes; blanks and line breaks count for nothing.  Equals signs fill up the last four signs.
-/

namespace TenantView.Yaml

/-- The number that a sign stands for. -/
def sextet? (c : Char) : Option Nat :=
  if 'A' ≤ c && c ≤ 'Z' then some (c.toNat - 0x41)
  else if 'a' ≤ c && c ≤ 'z' then some (c.toNat - 0x47)
  else if c.isDigit then some (c.toNat + 4)
  else if c = '+' then some 62
  else if c = '/' then some 63
  else none

/-- The bytes that groups of four signs spell.  The bits that do not fill a byte are zero. -/
def sextetBytes : List Char → Option Bytes
  | [] => some []
  | [a, b, '=', '='] => do
    let n := 64 * (← sextet? a) + (← sextet? b)
    if n % 16 ≠ 0 then none else return [(n / 16).toUInt8]
  | [a, b, c, '='] => do
    let n := 4096 * (← sextet? a) + 64 * (← sextet? b) + (← sextet? c)
    if n % 4 ≠ 0 then none else return [(n / 1024).toUInt8, (n / 4 % 256).toUInt8]
  | a :: b :: c :: d :: rest => do
    let n := 262144 * (← sextet? a) + 4096 * (← sextet? b) + 64 * (← sextet? c) + (← sextet? d)
    let bytes ← sextetBytes rest
    return (n / 65536).toUInt8 :: (n / 256 % 256).toUInt8 :: (n % 256).toUInt8 :: bytes
  | _ => none

/-- The text whose bytes a scalar spells. -/
def binaryText? (text : String) : Option String := do
  let signs := text.toList.filter (!·.isWhitespace)
  Text.ofBytes? (← sextetBytes signs)

end TenantView.Yaml
