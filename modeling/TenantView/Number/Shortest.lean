import TenantView.Number.Double

/-!
# The shortest decimal that reads back

A finite double is written with the fewest significant digits that are read back as the same
double; of the decimals with that many digits the nearest one is taken, the even
one of two that are equally near.  On the grid of `n`
significant digits only the two neighbours of the exact value can be the nearest, so these two
are tested by reading them.  Should no grid of up to seventeen digits have a hit, the exact
value is taken, which always reads back; hence the chosen decimal reads back in every case
(`ofDecimal_shortest`).
-/

namespace TenantView.Double

/-- A positive decimal number `digits · 10 ^ exponent`. -/
structure Decimal where
  digits : Nat
  exponent : Int
deriving DecidableEq, Repr

/-- The least `k` for which the magnitude is below `10 ^ k`. -/
def places (code : Nat) : Int :=
  let whole := units code / unitsPerOne
  if whole ≠ 0 then Decimal.digitCount whole
  else Decimal.digitCount (units code * Decimal.scale 400 / unitsPerOne) - 400

/-- The decimal on the grid of `n` significant digits that reads back as `d`, if one of the two
neighbours of the exact value does; the nearer or the even one if both do. -/
def neighbour? (d : Double) (n : Nat) : Option Decimal :=
  let exponent := places d.code - n
  let num := if 0 ≤ exponent then units d.code else units d.code * Decimal.scale (-exponent).toNat
  let den := if 0 ≤ exponent then unitsPerOne * Decimal.scale exponent.toNat else unitsPerOne
  let below : Decimal := ⟨num / den, exponent⟩
  let above : Decimal := ⟨num / den + 1, exponent⟩
  let fits (c : Decimal) : Bool := ofDecimal d.negative c.digits c.exponent = some d
  let nearerFirst :=
    if Double.roundQuotient num den = below.digits then [below, above] else [above, below]
  nearerFirst.find? fits

/-- The exact value, which is a decimal because a unit is a power of one half. -/
def exact (d : Double) : Decimal :=
  ⟨units d.code * Decimal.fiveScale unitBits, -unitBits⟩

/-- The shortest decimal that reads back as `d`. -/
def shortest (d : Double) : Decimal :=
  ((List.range' 1 17).findSome? (neighbour? d)).getD (exact d)

theorem ofDecimal_of_neighbour? {d : Double} {n : Nat} {c : Decimal}
    (h : neighbour? d n = some c) : ofDecimal d.negative c.digits c.exponent = some d := by
  unfold neighbour? at h
  have := List.find?_some h
  simpa using this

theorem ofRatio_exact (d : Double) :
    ofRatio d.negative (units d.code * Decimal.fiveScale unitBits) (Decimal.scale unitBits) = some d := by
  have hfive := Decimal.fiveScale_pos unitBits
  rw [Decimal.scale_eq_shiftLeft_mul, ofRatio, ← unitsPerOne, codeOfRatio_mul_mul _ _ hfive,
    ← ofRatio]
  exact ofRatio_units d

theorem lt_digitCount_exact {d : Double} (h : d.code ≠ 0) :
    750 < Decimal.digitCount (exact d).digits :=
  Decimal.lt_digitCount
    (Nat.le_trans (by decide +kernel : Decimal.scale 750 ≤ Decimal.fiveScale unitBits)
      (Nat.le_mul_of_pos_left _ (units_pos h)))

theorem digitCount_exact_le (d : Double) : Decimal.digitCount (exact d).digits ≤ 1383 := by
  have hblock : (2 * blockSize) <<< (d.code / blockSize - 1) ≤ (2 * blockSize) <<< lastBlock := by
    simp only [Nat.shiftLeft_eq]
    exact Nat.mul_le_mul_left _
      (Nat.pow_le_pow_right (by decide) (div_sub_one_le_lastBlock d.code_lt))
  have hbound : units d.code < (2 * blockSize) <<< lastBlock :=
    Nat.lt_of_lt_of_le (units_lt d.code) hblock
  have hfive := Decimal.fiveScale_pos unitBits
  exact Decimal.digitCount_le (by decide)
    (Nat.lt_of_lt_of_le (Nat.mul_lt_mul_of_pos_right hbound hfive)
      (by decide +kernel :
        (2 * blockSize) <<< lastBlock * Decimal.fiveScale unitBits ≤ Decimal.scale 1383))

/-- The exact value reads back. -/
theorem ofDecimal_exact (d : Double) :
    ofDecimal d.negative (exact d).digits (exact d).exponent = some d := by
  by_cases hzero : d.code = 0
  · have hdigits : (exact d).digits = 0 := by simp [exact, hzero, units]
    obtain ⟨negative, code, hcode⟩ := d
    simp only at hzero
    subst hzero
    unfold ofDecimal
    rw [if_pos hdigits]
    rfl
  · have hmore := lt_digitCount_exact hzero
    have hless := digitCount_exact_le d
    have hne : (exact d).digits ≠ 0 :=
      Nat.pos_iff_ne_zero.mp (Nat.mul_pos (units_pos hzero) (Decimal.fiveScale_pos _))
    have hexponent : (exact d).exponent = -1074 := rfl
    unfold ofDecimal
    rw [if_neg hne, hexponent]
    simp only
    rw [if_neg (by omega), if_neg (by omega), if_neg (by omega)]
    exact ofRatio_exact d

/-- The chosen decimal reads back. -/
theorem ofDecimal_shortest (d : Double) :
    ofDecimal d.negative (shortest d).digits (shortest d).exponent = some d := by
  unfold shortest
  cases h : (List.range' 1 17).findSome? (neighbour? d) with
  | none => exact ofDecimal_exact d
  | some c =>
    obtain ⟨n, -, hn⟩ := List.exists_of_findSome?_eq_some h
    exact ofDecimal_of_neighbour? hn

end TenantView.Double
