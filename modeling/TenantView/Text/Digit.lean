/-!
# Digits of any radix

A number may be written with ten digits, and with letters of either case in place of the digits
from ten on.
-/

namespace TenantView.Text

/-- The number that a digit or a letter stands for. -/
def digitValue? (c : Char) : Option Nat :=
  if c.isDigit then some (c.toNat - 0x30)
  else if 'a' ≤ c && c ≤ 'z' then some (c.toNat - 0x57)
  else if 'A' ≤ c && c ≤ 'Z' then some (c.toNat - 0x37)
  else none

/-- The number that a digit of a radix stands for. -/
def radixDigit? (radix : Nat) (c : Char) : Option Nat :=
  (digitValue? c).filter (· < radix)

/-- The number that digits of a radix spell behind digits that spell `value`. -/
def readDigits? (radix : Nat) (value : Nat) (digits : List Char) : Option Nat :=
  digits.foldlM (fun value c ↦ (radixDigit? radix c).map (radix * value + ·)) value

end TenantView.Text
