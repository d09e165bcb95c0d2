import TenantView.Proofs.Number.Scaling
import TenantView.Timestamp.Parser

/-!
# Digits of a timestamp

The numbers of a timestamp are runs of digits.  A run is read up to its end, or to the width that is
allowed (`scanNumber_run`, `run_of_scanNumber`).  Behind the point of a second a run of any length
stands for nanoseconds, and its digits past the ninth are cut off (`nanoseconds_take`).
-/

namespace TenantView.Timestamp

/-! ## Characters -/

/-- The character of a digit below ten. -/
def digitChar (d : Nat) : Char :=
  Char.ofNat (0x30 + d)

/-- The character of a digit is that digit, and no blank. -/
theorem digitChar_spec {d : Nat} (h : d < 10) :
    (digitChar d).isDigit = true ∧ (digitChar d).toNat - '0'.toNat = d ∧
      Text.isBlank (digitChar d) = false ∧ digitChar d ≠ '-' ∧ digitChar d ≠ '+' := by
  revert d
  decide

theorem exists_digitChar {c : Char} (h : c.isDigit = true) : ∃ d < 10, digitChar d = c := by
  have hrange : 48 ≤ c.toNat ∧ c.toNat ≤ 57 := by
    rw [Char.isDigit, Bool.and_eq_true, decide_eq_true_eq, decide_eq_true_eq] at h
    exact ⟨UInt32.le_iff_toNat_le.mp h.1, UInt32.le_iff_toNat_le.mp h.2⟩
  refine ⟨c.toNat - 48, by omega, ?_⟩
  rw [digitChar, Nat.add_sub_cancel' hrange.1, Char.ofNat_toNat]

theorem isDigit_eq_false_of_isBlank {c : Char} (h : Text.isBlank c = true) :
    c.isDigit = false := by
  by_contra hdigit
  obtain ⟨d, hd, rfl⟩ := exists_digitChar (Bool.not_eq_false _ ▸ hdigit)
  exact absurd h (by simp [(digitChar_spec hd).2.2.1])

/-! ## Runs -/

/-- What follows a number does not go on with it. -/
def EndsDigits (rest : List Char) : Prop :=
  ∀ c ∈ rest.head?, c.isDigit = false

theorem endsDigits_cons {c : Char} (h : c.isDigit = false) (rest : List Char) :
    EndsDigits (c :: rest) := by
  intro c' hc'
  cases hc'
  exact h

/-- Every text begins with a run of digits, which may be empty. -/
theorem exists_digits_append (cs : List Char) :
    ∃ (ds : List Nat) (rest : List Char), (∀ d ∈ ds, d < 10) ∧ EndsDigits rest ∧
      cs = ds.map digitChar ++ rest := by
  induction cs with
  | nil => exact ⟨[], [], nofun, nofun, rfl⟩
  | cons c cs ih =>
    cases hc : c.isDigit with
    | false => exact ⟨[], c :: cs, nofun, endsDigits_cons hc cs, rfl⟩
    | true =>
      obtain ⟨d, hd, rfl⟩ := exists_digitChar hc
      obtain ⟨ds, rest, hds, hrest, rfl⟩ := ih
      exact ⟨d :: ds, rest, List.forall_mem_cons.mpr ⟨hd, hds⟩, hrest, rfl⟩

section Run

variable {ds : List Nat} {rest : List Char} (hds : ∀ d ∈ ds, d < 10) (hrest : EndsDigits rest)

include hds hrest

/-- Digits are read up to the end of their run, or of the width. -/
theorem leadingDigits_run (width n : Nat) :
    leadingDigits width n (ds.map digitChar ++ rest) =
      ((ds.take width).foldl (fun n d ↦ 10 * n + d) n,
        (ds.drop width).map digitChar ++ rest) := by
  induction ds generalizing width n with
  | nil =>
    cases width with
    | zero => rfl
    | succ width =>
      cases rest with
      | nil => rfl
      | cons c rest => exact if_neg (by simp [hrest c rfl])
  | cons d ds ih =>
    obtain ⟨hd, hds⟩ := List.forall_mem_cons.mp hds
    obtain ⟨hdigit, hvalue, -⟩ := digitChar_spec hd
    cases width with
    | zero => rfl
    | succ width =>
      rw [List.map_cons, List.cons_append, leadingDigits, if_pos hdigit, hvalue, ih hds]
      rfl

theorem scanNumber_run (hne : ds ≠ []) (width : Nat) :
    scanNumber width (ds.map digitChar ++ rest) =
      .ok (Decimal.ofDigits (ds.take width), (ds.drop width).map digitChar ++ rest) := by
  obtain ⟨d, tail, rfl⟩ := List.exists_cons_of_ne_nil hne
  have hdigit := (digitChar_spec (hds d List.mem_cons_self)).1
  rw [Decimal.ofDigits, ← leadingDigits_run hds hrest]
  exact if_pos hdigit

theorem dropWhile_isDigit_run : (ds.map digitChar ++ rest).dropWhile Char.isDigit = rest := by
  have hall : ∀ c ∈ ds.map digitChar, c.isDigit = true := by
    intro c hc
    obtain ⟨d, hd, rfl⟩ := List.mem_map.mp hc
    exact (digitChar_spec (hds d hd)).1
  rw [List.dropWhile_append_of_pos hall]
  cases rest with
  | nil => rfl
  | cons c rest => exact List.dropWhile_cons_of_neg (by simp [hrest c rfl])

end Run

/-- What is read as a number begins a run of digits. -/
theorem run_of_scanNumber {width n : Nat} {cs rest : List Char}
    (h : scanNumber width cs = .ok (n, rest)) :
    ∃ (ds : List Nat) (tail : List Char), ds ≠ [] ∧ (∀ d ∈ ds, d < 10) ∧ EndsDigits tail ∧
      cs = ds.map digitChar ++ tail ∧ n = Decimal.ofDigits (ds.take width) ∧
      rest = (ds.drop width).map digitChar ++ tail := by
  obtain ⟨ds, tail, hds, htail, rfl⟩ := exists_digits_append cs
  have hne : ds ≠ [] := by
    rintro rfl
    cases tail with
    | nil => cases h
    | cons c tail =>
      have hc : c.isDigit = false := htail c rfl
      rw [List.map_nil, List.nil_append, scanNumber, if_neg (by simp [hc])] at h
      cases h
  rw [scanNumber_run hds htail hne] at h
  cases h
  exact ⟨ds, tail, hne, hds, htail, rfl, rfl, rfl⟩

/-! ## Fractions of a second -/

/-- The nanoseconds that digits behind the point stand for; those past the ninth are cut off. -/
def nanoseconds (ds : List Nat) : Nat :=
  Decimal.ofDigits ds * Decimal.scale 9 / Decimal.scale ds.length

/-- Up to nine digits stand for a multiple of what the last of them counts. -/
theorem nanoseconds_of_length_le {ds : List Nat} (h : ds.length ≤ 9) :
    nanoseconds ds = Decimal.ofDigits ds * Decimal.scale (9 - ds.length) := by
  have hscale : Decimal.scale 9 = Decimal.scale (9 - ds.length) * Decimal.scale ds.length := by
    rw [← Decimal.scale_add, Nat.sub_add_cancel h]
  rw [nanoseconds, hscale, ← Nat.mul_assoc, Nat.mul_div_cancel _ (Decimal.scale_pos _)]

/-- Of more than nine digits the first nine count. -/
theorem nanoseconds_take {ds : List Nat} (hds : ∀ d ∈ ds, d < 10) :
    nanoseconds (ds.take 9) = nanoseconds ds := by
  rcases Nat.le_total ds.length 9 with hle | hle
  · rw [List.take_of_length_le hle]
  · have hlow : Decimal.ofDigits (ds.drop 9) < Decimal.scale (ds.drop 9).length :=
      Decimal.ofDigits_lt_scale fun d hd ↦ hds d (List.mem_of_mem_drop hd)
    have hlength : ds.length = 9 + (ds.drop 9).length := by
      rw [List.length_drop]
      omega
    have hvalue : Decimal.ofDigits ds =
        Decimal.ofDigits (ds.drop 9) +
          Decimal.ofDigits (ds.take 9) * Decimal.scale (ds.drop 9).length := by
      rw [Nat.add_comm, ← Decimal.ofDigits_append, List.take_append_drop]
    rw [nanoseconds_of_length_le (List.length_take_le 9 ds), List.length_take_of_le hle,
      Nat.sub_self, Decimal.scale_zero, Nat.mul_one, nanoseconds, hlength, Decimal.scale_add,
      Nat.mul_comm, Nat.mul_div_mul_left _ _ (Decimal.scale_pos 9), hvalue,
      Nat.add_mul_div_right _ _ (Decimal.scale_pos _), Nat.div_eq_of_lt hlow, Nat.zero_add]

end TenantView.Timestamp
