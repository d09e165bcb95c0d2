import Mathlib.Algebra.CharP.Two
import Mathlib.Algebra.Field.ZMod
import Mathlib.RingTheory.AdjoinRoot
import Mathlib.RingTheory.Polynomial.Basic
import TenantView.Gzip.Checksum
import TenantView.Proofs.Gzip.Bits

/-!
# Cyclic checks

A sequence of bits is a polynomial over the field of two elements.  A checksum is what has to be
added to a message so that the whole is a multiple of a certain polynomial, up to complements at
both ends: `IsChecksum` says so without computing anything.  The registers that compute a checksum
bit by bit hold the remainder of the polynomial of what has been read (`mk_checksumByte`), and so
they come to the one checksum that there is (`isChecksum_iff`).
-/

namespace TenantView.Gzip

open Polynomial

/-! ## Polynomials of bits -/

/-- The polynomial of a sequence of bits, of which the first has the highest degree. -/
noncomputable def polynomial : List Bool → (ZMod 2)[X]
  | [] => 0
  | bit :: bits => (if bit then X ^ bits.length else 0) + polynomial bits

/-- The polynomial that every message with its checksum is a multiple of. -/
noncomputable def divisor : (ZMod 2)[X] :=
  X ^ 32 + X ^ 26 + X ^ 23 + X ^ 22 + X ^ 16 + X ^ 12 + X ^ 11 + X ^ 10 + X ^ 8 + X ^ 7 + X ^ 5 +
    X ^ 4 + X ^ 2 + X + 1

/-- The 32 bits of a number, the lowest first. -/
def bitsOfWord (n : Nat) : List Bool :=
  List.ofFn fun i : Fin 32 ↦ n.testBit i

/-- The bits with the first 32 of them complemented. -/
def complementFront (bits : List Bool) : List Bool :=
  (bits.take 32).map not ++ bits.drop 32

/-- A number of 32 bits is the checksum of some bytes: behind the bits of the bytes comes the
complement of its own, and the whole is a multiple of the divisor, once its front is complemented
as well. -/
def IsChecksum (bytes : Bytes) (sum : Nat) : Prop :=
  sum < 2 ^ 32 ∧
    divisor ∣ polynomial (complementFront (bitsOf bytes ++ (bitsOfWord sum).map not))

@[simp] theorem length_bitsOfWord (n : Nat) : (bitsOfWord n).length = 32 :=
  List.length_ofFn

theorem polynomial_append (bits bits' : List Bool) :
    polynomial (bits ++ bits') = X ^ bits'.length * polynomial bits + polynomial bits' := by
  induction bits with
  | nil => rw [List.nil_append, polynomial, mul_zero, zero_add]
  | cons bit bits ih =>
    rw [List.cons_append, polynomial, polynomial, ih, List.length_append]
    cases bit
    · simp
    · simp only [if_true]
      ring

theorem ite_xor (bit bit' : Bool) (p : (ZMod 2)[X]) :
    (if Bool.xor bit bit' then p else 0) = (if bit then p else 0) + if bit' then p else 0 := by
  cases bit <;> cases bit' <;> simp [CharTwo.add_self_eq_zero]

/-- Sequences of the same length are added bit by bit. -/
theorem polynomial_zipWith {bits bits' : List Bool} (h : bits.length = bits'.length) :
    polynomial (List.zipWith Bool.xor bits bits') = polynomial bits + polynomial bits' := by
  induction bits generalizing bits' with
  | nil =>
    obtain rfl := List.length_eq_zero_iff.mp h.symm
    simp [polynomial]
  | cons bit bits ih =>
    obtain ⟨bit', bits', rfl⟩ := List.exists_cons_of_length_eq_add_one h.symm
    have hlength : bits.length = bits'.length := Nat.succ.inj h
    rw [List.zipWith_cons_cons, polynomial, polynomial, polynomial, ih hlength,
      List.length_zipWith, hlength, Nat.min_self, ite_xor]
    ring

/-- The complement of bits is their sum with ones. -/
theorem polynomial_map_not (bits : List Bool) :
    polynomial (bits.map not) =
      polynomial bits + polynomial (List.replicate bits.length true) := by
  have hnot : bits.map not = List.zipWith Bool.xor bits (List.replicate bits.length true) := by
    induction bits with
    | nil => rfl
    | cons bit bits ih =>
      rw [List.map_cons, ih, List.length_cons, List.replicate_succ, List.zipWith_cons_cons,
        Bool.xor_true]
  rw [hnot, polynomial_zipWith List.length_replicate.symm]

/-- Complementing the front is adding 32 ones to it. -/
theorem polynomial_complementFront {bits bits' : List Bool} (h : bits'.length = 32) :
    polynomial (complementFront (bits ++ bits')) =
      X ^ 32 * polynomial bits + polynomial bits' +
        X ^ bits.length * polynomial (List.replicate 32 true) := by
  have hfront : ((bits ++ bits').take 32).length = 32 := by
    rw [List.length_take, List.length_append]
    omega
  have hrest : ((bits ++ bits').drop 32).length = bits.length := by
    rw [List.length_drop, List.length_append]
    omega
  have hwhole := polynomial_append ((bits ++ bits').take 32) ((bits ++ bits').drop 32)
  rw [List.take_append_drop, polynomial_append, h, hrest] at hwhole
  rw [complementFront, polynomial_append, polynomial_map_not, hfront, hrest, hwhole]
  ring

/-! ## Registers -/

/-- The polynomial of the bits of a register. -/
noncomputable def registerPolynomial (r : UInt32) : (ZMod 2)[X] :=
  polynomial (bitsOfWord r.toNat)

theorem bitsOfWord_xor (m n : Nat) :
    bitsOfWord (m ^^^ n) = List.zipWith Bool.xor (bitsOfWord m) (bitsOfWord n) := by
  refine List.ext_getElem (by simp) fun i _ _ ↦ ?_
  simp [bitsOfWord, Nat.testBit_xor]

theorem registerPolynomial_xor (r s : UInt32) :
    registerPolynomial (r ^^^ s) = registerPolynomial r + registerPolynomial s := by
  rw [registerPolynomial, UInt32.toNat_xor, bitsOfWord_xor, polynomial_zipWith (by simp)]
  rfl

theorem bitsOfWord_eq_cons (n : Nat) :
    bitsOfWord n = n.testBit 0 :: List.ofFn fun i : Fin 31 ↦ n.testBit (i + 1) :=
  List.ofFn_succ

/-- A register that is shifted gives up its first bit. -/
theorem bitsOfWord_shiftRight {n : Nat} (h : n < 2 ^ 32) :
    bitsOfWord (n >>> 1) = (List.ofFn fun i : Fin 31 ↦ n.testBit (i + 1)) ++ [false] := by
  refine List.ext_getElem (by simp) fun i hi _ ↦ ?_
  have hlt : i < 32 := by simpa using hi
  simp only [bitsOfWord, List.getElem_ofFn, Nat.testBit_shiftRight, List.getElem_append]
  split
  · rw [Nat.add_comm]
  · next hnot =>
    have hlast : i = 31 := by
      simp only [List.length_ofFn] at hnot
      omega
    subst hlast
    rw [Nat.testBit_lt_two_pow h]
    simp

theorem registerPolynomial_shiftRight (r : UInt32) :
    registerPolynomial (r >>> 1) =
      X * registerPolynomial r + if r.toNat.testBit 0 then X ^ 32 else 0 := by
  have hdouble : (X : (ZMod 2)[X]) ^ 32 + X ^ 32 = 0 := CharTwo.add_self_eq_zero _
  have hshift : (r >>> 1).toNat = r.toNat >>> 1 := rfl
  rw [registerPolynomial, registerPolynomial, hshift, bitsOfWord_shiftRight r.toNat_lt,
    bitsOfWord_eq_cons, polynomial_append, polynomial]
  cases r.toNat.testBit 0
  · simp [polynomial]
  · simp only [polynomial, List.length_ofFn, List.length_singleton, if_true, Bool.false_eq_true,
      if_false]
    linear_combination -hdouble

/-- The generator is the divisor without its highest term. -/
theorem registerPolynomial_generator : registerPolynomial generator + X ^ 32 = divisor := by
  have hbits : bitsOfWord generator.toNat =
      [true, true, true, false, true, true, false, true, true, false, true, true, true, false,
        false, false, true, false, false, false, false, false, true, true, false, false, true,
        false, false, false, false, false].reverse := by decide
  rw [registerPolynomial, hbits, divisor]
  simp [polynomial]
  ring

/-- One more bit multiplies the remainder. -/
theorem mk_checksumBit (r : UInt32) :
    AdjoinRoot.mk divisor (registerPolynomial (checksumBit r)) =
      AdjoinRoot.mk divisor (X * registerPolynomial r) := by
  have hbit : r &&& 1 = 0 ↔ r.toNat.testBit 0 = false := by
    rw [← UInt32.toNat_inj, UInt32.toNat_and, Nat.testBit_zero]
    simp [Nat.and_one_is_mod]
  rw [checksumBit]
  cases hfirst : r.toNat.testBit 0 with
  | false =>
    rw [if_pos (hbit.mpr hfirst), registerPolynomial_shiftRight, hfirst, if_neg Bool.false_ne_true,
      add_zero]
  | true =>
    have hne : ¬ r &&& 1 = 0 := by
      rw [hbit, hfirst]
      decide
    have hsum : registerPolynomial (r >>> 1 ^^^ generator) =
        X * registerPolynomial r + divisor := by
      rw [registerPolynomial_xor, registerPolynomial_shiftRight, hfirst, if_pos rfl,
        ← registerPolynomial_generator]
      ring
    rw [if_neg hne, hsum, map_add, AdjoinRoot.mk_self, add_zero]

theorem mk_repeat_checksumBit (count : Nat) (r : UInt32) :
    AdjoinRoot.mk divisor (registerPolynomial (Nat.repeat checksumBit count r)) =
      AdjoinRoot.mk divisor (X ^ count * registerPolynomial r) := by
  induction count with
  | zero => rw [Nat.repeat, pow_zero, one_mul]
  | succ count ih => rw [Nat.repeat, mk_checksumBit, map_mul, ih, ← map_mul, pow_succ', mul_assoc]

theorem polynomial_replicate_false (count : Nat) :
    polynomial (List.replicate count false) = 0 := by
  induction count with
  | zero => rfl
  | succ count ih => rw [List.replicate_succ, polynomial, ih, if_neg Bool.false_ne_true, add_zero]

/-- A byte stands in front of a register. -/
theorem registerPolynomial_toUInt32 (b : UInt8) :
    registerPolynomial b.toUInt32 = X ^ 24 * polynomial (bitsOfByte b) := by
  have hbits : bitsOfWord b.toUInt32.toNat = bitsOfByte b ++ List.replicate 24 false := by
    refine List.ext_getElem (by simp) fun i hi _ ↦ ?_
    rw [List.getElem_append]
    split
    · simp only [bitsOfWord, bitsOfByte, List.getElem_ofFn, UInt8.toNat_toUInt32]
    · next hge =>
      have hle : 8 ≤ i := by simpa using hge
      have hlt : b.toNat < 2 ^ i :=
        Nat.lt_of_lt_of_le b.toNat_lt (Nat.pow_le_pow_right Nat.two_pos hle)
      simp only [bitsOfWord, List.getElem_ofFn, UInt8.toNat_toUInt32,
        Nat.testBit_lt_two_pow hlt, List.getElem_replicate]
  rw [registerPolynomial, hbits, polynomial_append, polynomial_replicate_false, add_zero,
    List.length_replicate]

/-- One more byte is taken into the remainder. -/
theorem mk_checksumByte (r : UInt32) (b : UInt8) :
    AdjoinRoot.mk divisor (registerPolynomial (checksumByte r b)) =
      AdjoinRoot.mk divisor
        (X ^ 8 * registerPolynomial r + X ^ 32 * polynomial (bitsOfByte b)) := by
  rw [checksumByte, mk_repeat_checksumBit, registerPolynomial_xor, registerPolynomial_toUInt32]
  ring_nf

/-- A register holds the remainder of what it has begun with and of what has been read. -/
theorem mk_foldl_checksumByte (bytes : Bytes) (r : UInt32) :
    AdjoinRoot.mk divisor (registerPolynomial (bytes.foldl checksumByte r)) =
      AdjoinRoot.mk divisor (X ^ (bitsOf bytes).length * registerPolynomial r +
        X ^ 32 * polynomial (bitsOf bytes)) := by
  induction bytes generalizing r with
  | nil => simp [bitsOf, polynomial]
  | cons b bytes ih =>
    rw [List.foldl_cons, ih, map_add, map_mul, mk_checksumByte, ← map_mul, ← map_add, bitsOf_cons,
      polynomial_append, List.length_append, length_bitsOfByte]
    ring_nf

/-! ## The checksum -/

/-- What is computed is a checksum. -/
theorem isChecksum_checksum (bytes : Bytes) : IsChecksum bytes (checksum bytes).toNat := by
  refine ⟨(checksum bytes).toNat_lt, ?_⟩
  obtain ⟨r, hr⟩ : ∃ r, bytes.foldl checksumByte 0xffffffff = r := ⟨_, rfl⟩
  have hones : bitsOfWord (0xffffffff : UInt32).toNat = List.replicate 32 true := by decide
  have hcomplement : (bitsOfWord (checksum bytes).toNat).map not = bitsOfWord r.toNat := by
    rw [checksum, hr, UInt32.toNat_xor, bitsOfWord_xor, hones]
    refine List.ext_getElem (by simp) fun i _ _ ↦ ?_
    simp only [List.getElem_map, List.getElem_zipWith, List.getElem_replicate, Bool.xor_true,
      Bool.not_not]
  have hremainder := mk_foldl_checksumByte bytes 0xffffffff
  rw [hr, registerPolynomial, registerPolynomial, hones] at hremainder
  rw [hcomplement, polynomial_complementFront (length_bitsOfWord _), ← AdjoinRoot.mk_eq_zero,
    map_add, map_add, hremainder, ← map_add, ← map_add, AdjoinRoot.mk_eq_zero]
  refine ⟨0, ?_⟩
  rw [mul_zero]
  linear_combination CharTwo.add_self_eq_zero (X ^ 32 * polynomial (bitsOf bytes)) +
    CharTwo.add_self_eq_zero
      (X ^ (bitsOf bytes).length * polynomial (List.replicate 32 true) : (ZMod 2)[X])

theorem degree_polynomial_lt (bits : List Bool) : (polynomial bits).degree < bits.length := by
  induction bits with
  | nil => simp [polynomial]
  | cons bit bits ih =>
    have hlt : (bits.length : WithBot Nat) < (bit :: bits).length := by
      exact_mod_cast Nat.lt_succ_self _
    have hfirst : (if bit then X ^ bits.length else 0 : (ZMod 2)[X]).degree <
        (bit :: bits).length := by
      cases bit
      · simp
      · simpa using hlt
    exact lt_of_le_of_lt (degree_add_le _ _) (max_lt hfirst (ih.trans hlt))

theorem polynomial_inj {bits bits' : List Bool} (hlength : bits.length = bits'.length)
    (h : polynomial bits = polynomial bits') : bits = bits' := by
  induction bits generalizing bits' with
  | nil => exact (List.length_eq_zero_iff.mp hlength.symm).symm
  | cons bit bits ih =>
    obtain ⟨bit', bits', rfl⟩ := List.exists_cons_of_length_eq_add_one hlength.symm
    have hrest : bits.length = bits'.length := Nat.succ.inj hlength
    have hcoeff : ∀ (b : Bool) (l : List Bool),
        (polynomial (b :: l)).coeff l.length = if b then 1 else 0 := by
      intro b l
      rw [polynomial, coeff_add, coeff_eq_zero_of_degree_lt (degree_polynomial_lt l), add_zero]
      cases b <;> simp
    have hbit : bit = bit' := by
      have hfirst := hcoeff bit bits
      rw [h, hrest, hcoeff bit' bits'] at hfirst
      revert hfirst
      cases bit <;> cases bit' <;> simp
    subst hbit
    rw [polynomial, polynomial, hrest] at h
    rw [ih hrest (add_left_cancel h)]

theorem degree_divisor : divisor.degree = (32 : Nat) := by
  have hlt : (registerPolynomial generator).degree < (X ^ 32 : (ZMod 2)[X]).degree := by
    rw [degree_X_pow]
    exact_mod_cast degree_polynomial_lt (bitsOfWord generator.toNat)
  rw [← registerPolynomial_generator, degree_add_eq_right_of_degree_lt hlt, degree_X_pow]

theorem bitsOfWord_inj {m n : Nat} (hm : m < 2 ^ 32) (hn : n < 2 ^ 32)
    (h : bitsOfWord m = bitsOfWord n) : m = n := by
  refine Nat.eq_of_testBit_eq fun i ↦ ?_
  by_cases hi : i < 32
  · have hfun := List.ofFn_injective h
    exact congrFun hfun ⟨i, hi⟩
  · have hpow : 2 ^ 32 ≤ 2 ^ i := Nat.pow_le_pow_right Nat.two_pos (Nat.le_of_not_lt hi)
    rw [Nat.testBit_lt_two_pow (hm.trans_le hpow), Nat.testBit_lt_two_pow (hn.trans_le hpow)]

/-- Bytes have one checksum. -/
theorem IsChecksum.unique {bytes : Bytes} {m n : Nat} (hm : IsChecksum bytes m)
    (hn : IsChecksum bytes n) : m = n := by
  have hlength : ∀ k, ((bitsOfWord k).map not).length = 32 := by simp
  have hdiff := dvd_sub hm.2 hn.2
  rw [polynomial_complementFront (hlength m), polynomial_complementFront (hlength n),
    add_sub_add_right_eq_sub, add_sub_add_left_eq_sub] at hdiff
  have hlt : ∀ k, (polynomial ((bitsOfWord k).map not)).degree < divisor.degree := by
    intro k
    rw [degree_divisor, ← hlength k]
    exact degree_polynomial_lt _
  have hdegree : (polynomial ((bitsOfWord m).map not) -
      polynomial ((bitsOfWord n).map not)).degree < divisor.degree :=
    lt_of_le_of_lt (degree_sub_le _ _) (max_lt (hlt m) (hlt n))
  have hequal := polynomial_inj ((hlength m).trans (hlength n).symm)
    (sub_eq_zero.mp (eq_zero_of_dvd_of_degree_lt hdiff hdegree))
  exact bitsOfWord_inj hm.1 hn.1 (List.map_injective_iff.mpr Bool.involutive_not.injective hequal)

/-- **A number is the checksum exactly if it is what is computed.** -/
theorem isChecksum_iff {bytes : Bytes} {sum : Nat} :
    IsChecksum bytes sum ↔ sum = (checksum bytes).toNat :=
  ⟨fun h ↦ h.unique (isChecksum_checksum bytes), fun h ↦ h ▸ isChecksum_checksum bytes⟩

end TenantView.Gzip
