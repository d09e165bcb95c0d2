import Mathlib.Data.List.Induction
import Mathlib.Tactic.Ring
import TenantView.Number.Shortest

/-!
# Powers of ten in decimals

A power of ten may move between the digits and the exponent of a decimal, and zeros may be written
in front of its digits or behind them, without changing what it is read as.  A decimal that is read
as a double other than zero has bounded places.
-/

namespace TenantView

namespace Decimal

theorem scale_add (j k : Nat) : scale (j + k) = scale j * scale k :=
  Nat.pow_add 10 j k

theorem digitCount_ten_mul {n : Nat} (h : n ≠ 0) : digitCount (10 * n) = digitCount n + 1 := by
  rw [digitCount, if_neg (by omega), Nat.mul_div_cancel_left n (by decide)]

/-- Every factor of ten is one more digit. -/
theorem digitCount_mul_scale {n : Nat} (h : n ≠ 0) (k : Nat) :
    digitCount (n * scale k) = digitCount n + k := by
  induction k with
  | zero => rw [scale_zero, Nat.mul_one, Nat.add_zero]
  | succ k ih =>
    have hne : n * scale k ≠ 0 := Nat.mul_ne_zero h (scale_pos k).ne'
    rw [scale_succ, ← Nat.mul_assoc, Nat.mul_comm _ 10, digitCount_ten_mul hne, ih, Nat.add_assoc]

/-- The digits of a number other than zero begin with a digit other than zero. -/
theorem digits_eq_cons {n : Nat} (h : n ≠ 0) : ∃ d ds, digits n = d :: ds ∧ d ≠ 0 := by
  induction n using Nat.strongRecOn with
  | ind n ih =>
    rw [digits]
    split
    · exact ⟨n, [], rfl, h⟩
    · obtain ⟨d, ds, hds, hd⟩ := ih (n / 10) (by omega) (by omega)
      exact ⟨d, ds ++ [n % 10], by rw [hds, List.cons_append], hd⟩

theorem digits_zero : digits 0 = [0] := by
  rw [digits]
  simp

/-- Zeros behind digits multiply by powers of ten. -/
theorem ofDigits_append_zeros (ds : List Nat) (k : Nat) :
    ofDigits (ds ++ List.replicate k 0) = ofDigits ds * scale k := by
  induction k with
  | zero => simp [scale_zero]
  | succ k ih =>
    rw [List.replicate_succ', ← List.append_assoc, ofDigits_append_singleton, ih, scale_succ]
    ring

/-- Zeros in front of digits count for nothing. -/
theorem ofDigits_zeros_append (k : Nat) (ds : List Nat) :
    ofDigits (List.replicate k 0 ++ ds) = ofDigits ds := by
  induction k with
  | zero => rfl
  | succ k ih => exact ih

/-- Digits stand for less than the next power of ten. -/
theorem ofDigits_lt_scale {ds : List Nat} (hds : ∀ d ∈ ds, d < 10) :
    ofDigits ds < scale ds.length := by
  induction ds using List.reverseRecOn with
  | nil => decide
  | append_singleton ds d ih =>
    have hd := hds d (List.mem_append_right ds List.mem_cons_self)
    have hrest := ih fun x hx ↦ hds x (List.mem_append_left [d] hx)
    rw [ofDigits_append_singleton, List.length_append, List.length_singleton,
      scale_succ]
    omega

/-- Digits behind digits. -/
theorem ofDigits_append (ds es : List Nat) :
    ofDigits (ds ++ es) =
      ofDigits ds * scale es.length + ofDigits es := by
  induction es using List.reverseRecOn with
  | nil => simp [scale_zero, ofDigits]
  | append_singleton es e ih =>
    rw [← List.append_assoc, ofDigits_append_singleton, ih,
      ofDigits_append_singleton, List.length_append, List.length_singleton,
      scale_succ]
    ring

/-- The number that digits stand for only grows with further digits. -/
theorem le_foldl_digits (n : Nat) (ds : List Nat) : n ≤ ds.foldl (fun n d ↦ 10 * n + d) n := by
  induction ds generalizing n with
  | nil => exact le_rfl
  | cons d ds ih => exact le_trans (by omega) (ih (10 * n + d))

end Decimal

namespace Double

theorem ofRatio_mul_mul (negative : Bool) (num den : Nat) {k : Nat} (h : 0 < k) :
    ofRatio negative (num * k) (den * k) = ofRatio negative num den := by
  simp only [ofRatio, codeOfRatio_mul_mul num den h]

/-- Reading a decimal depends on its value alone: a factor of ten may move from the digits to the
exponent. -/
theorem ofDecimal_mul_scale (negative : Bool) {m : Nat} (hm : m ≠ 0) (k : Nat) (x : Int) :
    ofDecimal negative (m * Decimal.scale k) x = ofDecimal negative m (x + k) := by
  have hscaled : m * Decimal.scale k ≠ 0 := Nat.mul_ne_zero hm (Decimal.scale_pos k).ne'
  have hplaces : ((Decimal.digitCount m + k : Nat) : Int) + x = Decimal.digitCount m + (x + k) := by
    omega
  unfold ofDecimal
  rw [if_neg hscaled, if_neg hm, Decimal.digitCount_mul_scale hm, hplaces]
  simp only
  split
  · rfl
  split
  · rfl
  rcases lt_or_ge x 0 with hneg | hpos
  · rw [if_neg (by omega)]
    rcases lt_or_ge (x + k) 0 with hneg' | hpos'
    · rw [if_neg (by omega), show (-x).toNat = (-(x + k)).toNat + k by omega, Decimal.scale_add,
        ofRatio_mul_mul negative m _ (Decimal.scale_pos k)]
    · rw [if_pos hpos', show k = (x + k).toNat + (-x).toNat by omega, Decimal.scale_add,
        ← Nat.mul_assoc, ← Nat.one_mul (Decimal.scale (-x).toNat),
        ← Nat.mul_assoc, Nat.mul_one, ofRatio_mul_mul negative _ 1 (Decimal.scale_pos _)]
      congr 3
      omega
  · rw [if_pos hpos, if_pos (by omega), show (x + k).toNat = k + x.toNat by omega,
      Decimal.scale_add, Nat.mul_assoc]

/-- A decimal that is read as a double other than zero is not far out. -/
theorem places_of_ofDecimal {negative : Bool} {m : Nat} {x : Int} {d : Double}
    (h : ofDecimal negative m x = some d) (hd : d.code ≠ 0) :
    m ≠ 0 ∧ -330 ≤ Decimal.digitCount m + x ∧ Decimal.digitCount m + x ≤ 310 := by
  unfold ofDecimal at h
  split at h
  · cases h
    exact absurd rfl hd
  · next hm =>
    simp only at h
    split at h
    · cases h
    · split at h
      · cases h
        exact absurd rfl hd
      · exact ⟨hm, by omega, by omega⟩

end Double

end TenantView
