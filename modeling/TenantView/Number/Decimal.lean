import TenantView.Text.Bytes

/-!
# Decimal digits of a natural number

A natural number is written by its decimal digits without leading zeros, and a run of digits is
read by Horner's rule.  Reading undoes writing (`ofDigits_digits`), and every written digit is
below ten (`lt_ten_of_mem_digits`), so that it is one ASCII byte; together they are the usual text
of the number (`bytes_eq_toBytes`).
-/

namespace TenantView.Decimal

/-- The decimal digits of `n`, the most significant first; zero has the one digit `0`. -/
def digits (n : Nat) : List Nat :=
  if n < 10 then [n] else digits (n / 10) ++ [n % 10]

/-- The number that a run of digits stands for; the empty run stands for zero. -/
def ofDigits (ds : List Nat) : Nat :=
  ds.foldl (fun n d ↦ 10 * n + d) 0

theorem ofDigits_append_singleton (ds : List Nat) (d : Nat) :
    ofDigits (ds ++ [d]) = 10 * ofDigits ds + d := by
  simp [ofDigits]

@[simp] theorem ofDigits_digits (n : Nat) : ofDigits (digits n) = n := by
  induction n using Nat.strongRecOn with
  | ind n ih =>
    rw [digits]
    split
    · simp [ofDigits]
    · rw [ofDigits_append_singleton, ih (n / 10) (by omega)]
      omega

theorem lt_ten_of_mem_digits {n d : Nat} (h : d ∈ digits n) : d < 10 := by
  induction n using Nat.strongRecOn with
  | ind n ih =>
    rw [digits] at h
    split at h
    · simp only [List.mem_singleton] at h
      omega
    · simp only [List.mem_append, List.mem_singleton] at h
      cases h with
      | inl h => exact ih (n / 10) (by omega) h
      | inr h => omega

theorem digits_ne_nil (n : Nat) : digits n ≠ [] := by
  rw [digits]
  split <;> simp

/-- How many decimal digits `n` has. -/
def digitCount (n : Nat) : Nat :=
  if n < 10 then 1 else digitCount (n / 10) + 1

theorem length_digits (n : Nat) : (digits n).length = digitCount n := by
  induction n using Nat.strongRecOn with
  | ind n ih =>
    rw [digits, digitCount]
    split
    · rfl
    · simp [ih (n / 10) (by omega)]

/-- Ten to the power `k`. -/
def scale (k : Nat) : Nat :=
  Nat.pow 10 k

theorem scale_zero : scale 0 = 1 := rfl

theorem scale_succ (k : Nat) : scale (k + 1) = scale k * 10 := rfl

theorem scale_pos (k : Nat) : 0 < scale k :=
  Nat.pow_pos (by decide)

theorem scale_lt_scale_iff {j k : Nat} : scale j < scale k ↔ j < k :=
  Nat.pow_lt_pow_iff_right (by decide)

/-- Five to the power `k`. -/
def fiveScale (k : Nat) : Nat :=
  Nat.pow 5 k

theorem fiveScale_pos (k : Nat) : 0 < fiveScale k :=
  Nat.pow_pos (by decide)

theorem scale_eq_shiftLeft_mul (k : Nat) : scale k = (1 <<< k) * fiveScale k := by
  rw [Nat.shiftLeft_eq, Nat.one_mul]
  exact Nat.mul_pow 2 5 k

theorem lt_scale_digitCount (n : Nat) : n < scale (digitCount n) := by
  induction n using Nat.strongRecOn with
  | ind n ih =>
    rw [digitCount]
    split
    · next h => exact h
    · have := ih (n / 10) (by omega)
      rw [scale_succ]
      omega

theorem digitCount_pos (n : Nat) : 0 < digitCount n := by
  rw [digitCount]
  split <;> omega

theorem scale_digitCount_le {n : Nat} (h : n ≠ 0) : scale (digitCount n - 1) ≤ n := by
  induction n using Nat.strongRecOn with
  | ind n ih =>
    rw [digitCount]
    split
    · rw [Nat.sub_self, scale_zero]
      omega
    · have := ih (n / 10) (by omega) (by omega)
      have hpos := digitCount_pos (n / 10)
      rw [Nat.add_sub_cancel, show digitCount (n / 10) = digitCount (n / 10) - 1 + 1 by omega,
        scale_succ]
      omega

theorem digitCount_le {n k : Nat} (hk : 0 < k) (h : n < scale k) : digitCount n ≤ k := by
  by_cases hn : n = 0
  · subst hn
    rw [digitCount]
    simp only [Nat.zero_lt_succ, if_true]
    omega
  · have := scale_lt_scale_iff.mp (Nat.lt_of_le_of_lt (scale_digitCount_le hn) h)
    omega

theorem lt_digitCount {n k : Nat} (h : scale k ≤ n) : k < digitCount n :=
  scale_lt_scale_iff.mp (Nat.lt_of_le_of_lt h (lt_scale_digitCount n))

/-- The decimal digits of `n` as ASCII bytes. -/
def bytes (n : Nat) : Bytes :=
  (digits n).map Ascii.ofDigit

theorem map_digitChar_digits (n : Nat) : (digits n).map Nat.digitChar = Nat.toDigits 10 n := by
  induction n using Nat.strongRecOn with
  | ind n ih =>
    rw [digits]
    split
    · next hlt => exact (Nat.toDigits_of_lt_base hlt).symm
    · next hge =>
      rw [Nat.toDigits_of_base_le (by decide) (Nat.not_lt.mp hge), List.map_append,
        ih (n / 10) (by omega)]
      rfl

theorem flatMap_utf8EncodeChar {ds : List Nat} (h : ∀ d ∈ ds, d < 10) :
    (ds.map Nat.digitChar).flatMap String.utf8EncodeChar = ds.map Ascii.ofDigit := by
  have hone : ∀ d < 10, String.utf8EncodeChar (Nat.digitChar d) = [Ascii.ofDigit d] := by decide
  induction ds with
  | nil => rfl
  | cons d ds ih =>
    rw [List.forall_mem_cons] at h
    rw [List.map_cons, List.flatMap_cons, hone d h.1, ih h.2]
    rfl

/-- The decimal digits of a number are the bytes of its usual text. -/
theorem bytes_eq_toBytes (n : Nat) : bytes n = Text.toBytes (toString n) := by
  have htext : Text.toBytes (toString n) = (Nat.toDigits 10 n).flatMap String.utf8EncodeChar := by
    simp [Text.toBytes, String.toUTF8, List.utf8Encode, Nat.repr_eq_ofList_toDigits]
  rw [htext, ← map_digitChar_digits, flatMap_utf8EncodeChar fun _ ↦ lt_ten_of_mem_digits, bytes]

/-- The decimal text of `n`. -/
def text (n : Nat) : String :=
  String.ofList ((digits n).map fun d ↦ Char.ofNat (0x30 + d))

/-- The digits of `n` written on at least `width` places, padded with zeros on the left. -/
def paddedDigits (width n : Nat) : List Nat :=
  List.replicate (width - digitCount n) 0 ++ digits n

/-- The number `10 ^ k` divides out of `n` as often as possible, at most `fuel` times: the
remaining factor and the number of divisions. -/
def stripZeros : (fuel n : Nat) → Nat × Nat
  | 0, n => (n, 0)
  | fuel + 1, n =>
    if n ≠ 0 ∧ n % 10 = 0 then
      let (m, k) := stripZeros fuel (n / 10)
      (m, k + 1)
    else (n, 0)

/-- Dividing out zeros keeps the number: the factor and the power of ten multiply back. -/
theorem stripZeros_mul_scale (fuel n : Nat) :
    (stripZeros fuel n).1 * scale (stripZeros fuel n).2 = n := by
  induction fuel generalizing n with
  | zero => simp [stripZeros, scale_zero]
  | succ fuel ih =>
    unfold stripZeros
    split
    · next h =>
      have := ih (n / 10)
      rw [scale_succ, ← Nat.mul_assoc, this]
      omega
    · simp [scale_zero]

end TenantView.Decimal
