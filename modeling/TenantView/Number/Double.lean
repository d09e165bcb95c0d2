import TenantView.Number.Decimal

/-!
# Finite double-precision numbers

A finite double is a sign and a magnitude code: the codes `0, 1, 2, …` number the non-negative
finite doubles in increasing order.  Every magnitude is a whole number of the least positive
one, `2 ^ (-1074)`, and `units` counts them: the codes below `2 ^ 53` count one unit each, and
each later block of `2 ^ 52` codes doubles the step.  A positive rational is rounded to the code
whose magnitude is nearest, a tie going to the even code (`codeOfRatio`), and a decimal number
is read by rounding its exact value (`ofDecimal`).  Rounding a magnitude that a code already has
gives back the code (`codeOfRatio_units`).
-/

namespace TenantView

/-- The number of codes in a block, within which the magnitudes lie equally far apart:
`2 ^ 52`. -/
abbrev Double.blockSize : Nat := 4503599627370496

/-- A finite double: its sign, and the place of its magnitude among the non-negative finite
doubles. -/
structure Double where
  negative : Bool
  code : Nat
  code_lt : code < 2047 * Double.blockSize := by decide
deriving DecidableEq, Repr

namespace Double

/-- Positive zero. -/
def zero : Double where
  negative := false
  code := 0

/-- The number of bits below the binary point that the least positive magnitude has. -/
def unitBits : Nat := 1074

/-- How many units make one. -/
def unitsPerOne : Nat := 1 <<< unitBits

theorem unitsPerOne_pos : 0 < unitsPerOne := by
  rw [unitsPerOne, Nat.shiftLeft_eq]
  exact Nat.mul_pos Nat.one_pos (Nat.two_pow_pos _)

/-- The magnitude with the given code, counted in units of `2 ^ (-1074)`. -/
def units (code : Nat) : Nat :=
  if code < 2 * blockSize then code
  else (blockSize + code % blockSize) <<< (code / blockSize - 1)

/-- The whole number nearest to `num / den`; a tie goes to the even one. -/
def roundQuotient (num den : Nat) : Nat :=
  let q := num / den
  let r := num % den
  if 2 * r < den then q
  else if den < 2 * r then q + 1
  else if q % 2 = 0 then q
  else q + 1

/-- The code of the magnitude nearest to `num / den`; it may lie beyond the finite doubles. -/
def codeOfRatio (num den : Nat) : Nat :=
  let scaled := num * unitsPerOne
  let whole := scaled / den
  let step := if whole < 2 * blockSize then 0 else whole.log2 - 52
  step * blockSize + roundQuotient scaled (den <<< step)

theorem roundQuotient_mul (n : Nat) {den : Nat} (h : 0 < den) :
    roundQuotient (n * den) den = n := by
  simp [roundQuotient, Nat.mul_div_cancel _ h, h]

theorem roundQuotient_mul_mul (num den : Nat) {k : Nat} (h : 0 < k) :
    roundQuotient (num * k) (den * k) = roundQuotient num den := by
  unfold roundQuotient
  simp only [Nat.mul_div_mul_right _ _ h, Nat.mul_mod_mul_right, ← Nat.mul_assoc,
    Nat.mul_lt_mul_right h]

theorem codeOfRatio_mul_mul (num den : Nat) {k : Nat} (h : 0 < k) :
    codeOfRatio (num * k) (den * k) = codeOfRatio num den := by
  unfold codeOfRatio
  simp only [Nat.shiftLeft_eq, Nat.mul_right_comm num k, Nat.mul_right_comm den k,
    Nat.mul_div_mul_right _ _ h, roundQuotient_mul_mul _ _ h]

/-- How many times the step has doubled for the greatest magnitude. -/
def lastBlock : Nat := 2045

theorem div_sub_one_le_lastBlock {code : Nat} (h : code < 2047 * blockSize) :
    code / blockSize - 1 ≤ lastBlock := by
  unfold blockSize at *
  unfold lastBlock
  omega

theorem units_lt (code : Nat) :
    units code < (2 * blockSize) <<< (code / blockSize - 1) := by
  have hpos := Nat.two_pow_pos (code / blockSize - 1)
  unfold units
  simp only [Nat.shiftLeft_eq]
  split
  · next h => exact Nat.lt_of_lt_of_le h (Nat.le_mul_of_pos_right _ hpos)
  · have hlow : code % blockSize < blockSize := Nat.mod_lt _ (by decide)
    exact Nat.mul_lt_mul_of_pos_right (by omega) hpos

theorem units_pos {code : Nat} (h : code ≠ 0) : 0 < units code := by
  unfold units
  simp only [Nat.shiftLeft_eq]
  split
  · omega
  · exact Nat.mul_pos (Nat.add_pos_left (by decide) _) (Nat.two_pow_pos _)

theorem log2_shiftLeft {m k : Nat} (hlow : blockSize ≤ m) (hhigh : m < 2 * blockSize) :
    (m <<< k).log2 = 52 + k := by
  rw [Nat.shiftLeft_eq]
  have hpos := Nat.two_pow_pos k
  have hne : m * 2 ^ k ≠ 0 := Nat.mul_ne_zero (by omega) (by omega)
  rw [Nat.log2_eq_iff hne]
  constructor
  · rw [Nat.pow_add]
    exact Nat.mul_le_mul_right _ hlow
  · rw [show 52 + k + 1 = 53 + k by omega, Nat.pow_add]
    exact Nat.mul_lt_mul_of_pos_right hhigh hpos

theorem le_shiftLeft {m k : Nat} (hlow : blockSize ≤ m) (hk : 1 ≤ k) :
    2 * blockSize ≤ m <<< k := by
  rw [Nat.shiftLeft_eq]
  have htwo : 2 ^ 1 ≤ 2 ^ k := Nat.pow_le_pow_right (by decide) hk
  have := Nat.mul_le_mul hlow htwo
  omega

/-- A magnitude that a code already has is rounded to that code. -/
theorem codeOfRatio_units (code : Nat) : codeOfRatio (units code) unitsPerOne = code := by
  have hpos := unitsPerOne_pos
  unfold codeOfRatio
  simp only [Nat.mul_div_cancel _ hpos]
  unfold units
  split
  · simp [roundQuotient_mul _ hpos]
  · next h =>
    have hlow : code % blockSize < blockSize := Nat.mod_lt _ (by decide)
    have hsplit := Nat.div_add_mod code blockSize
    generalize hm : blockSize + code % blockSize = m
    generalize hk : code / blockSize - 1 = k
    have hkpos : 1 ≤ k := by
      unfold blockSize at *
      omega
    have hm1 : blockSize ≤ m := by omega
    have hm2 : m < 2 * blockSize := by omega
    rw [if_neg (Nat.not_lt.mpr (le_shiftLeft hm1 hkpos)), log2_shiftLeft hm1 hm2,
      Nat.add_sub_cancel_left]
    have hden : m <<< k * unitsPerOne = m * (unitsPerOne <<< k) := by
      rw [Nat.shiftLeft_eq, Nat.shiftLeft_eq, Nat.mul_assoc, Nat.mul_comm (2 ^ k)]
    have hshift : 0 < unitsPerOne <<< k := by
      rw [Nat.shiftLeft_eq]
      exact Nat.mul_pos hpos (Nat.two_pow_pos k)
    rw [hden, roundQuotient_mul _ hshift]
    unfold blockSize at *
    omega

/-- The double nearest to `num / den` with the given sign, or nothing beyond the finite range. -/
def ofRatio (negative : Bool) (num den : Nat) : Option Double :=
  let code := codeOfRatio num den
  if h : code < 2047 * blockSize then some ⟨negative, code, h⟩ else none

theorem ofRatio_units (d : Double) :
    ofRatio d.negative (units d.code) unitsPerOne = some d := by
  unfold ofRatio
  simp only [codeOfRatio_units]
  exact dif_pos d.code_lt

/-- The double nearest to `± digits · 10 ^ exponent`, or nothing beyond the finite range.
Values of more than 310 places before the point, or fewer than 330 after it, are decided
without forming the power of ten. -/
def ofDecimal (negative : Bool) (digits : Nat) (exponent : Int) : Option Double :=
  if digits = 0 then some { zero with negative }
  else
    let places : Int := Decimal.digitCount digits + exponent
    if 310 < places then none
    else if places < -330 then some { zero with negative }
    else if 0 ≤ exponent then ofRatio negative (digits * Decimal.scale exponent.toNat) 1
    else ofRatio negative digits (Decimal.scale (-exponent).toNat)

end Double

end TenantView
