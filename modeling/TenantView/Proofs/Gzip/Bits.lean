import Mathlib.Algebra.GroupWithZero.Nat
import TenantView.Gzip.Inflate

/-!
# The bits of bytes

Compressed data is a sequence of bits, and so is what is left of it at any time: `BitInput.toBits`
matches the inputs of the inflater with the sequences of bits, one for one (`BitInput.toBits_inj`,
`BitInput.exists_toBits`).  What the inflater takes from its input can therefore be said of bits
alone: one bit (`BitInput.next_eq_some_iff`), a number (`BitInput.number_eq_some_iff`), and what is
left at the next byte (`BitInput.bitsOf_bytes`).
-/

namespace TenantView.Gzip

/-! ## Bits, bytes and numbers -/

/-- The bits of a byte, the lowest first. -/
def bitsOfByte (b : UInt8) : List Bool :=
  List.ofFn fun i : Fin 8 ↦ b.toNat.testBit i

/-- The bits of bytes, one byte behind the other. -/
def bitsOf (bytes : Bytes) : List Bool :=
  bytes.flatMap bitsOfByte

/-- The number that bits spell, the lowest first. -/
def ofBits : List Bool → Nat
  | [] => 0
  | bit :: bits => bit.toNat + 2 * ofBits bits

/-- A number of `count` bits is in front of the rest. -/
def Number (count n : Nat) (bits rest : List Bool) : Prop :=
  ∃ front, front.length = count ∧ ofBits front = n ∧ bits = front ++ rest

@[simp] theorem length_bitsOfByte (b : UInt8) : (bitsOfByte b).length = 8 :=
  List.length_ofFn

@[simp] theorem length_bitsOf (bytes : Bytes) : (bitsOf bytes).length = 8 * bytes.length := by
  induction bytes with
  | nil => rfl
  | cons b bytes ih =>
    rw [bitsOf, List.flatMap_cons, List.length_append, length_bitsOfByte, List.length_cons]
    rw [bitsOf] at ih
    omega

theorem bitsOf_cons (b : UInt8) (bytes : Bytes) :
    bitsOf (b :: bytes) = bitsOfByte b ++ bitsOf bytes :=
  rfl

/-- The bits of a byte spell the byte. -/
theorem ofBits_bitsOfByte (b : UInt8) : ofBits (bitsOfByte b) = b.toNat := by
  have hall : ∀ n < 256, ofBits (List.ofFn fun i : Fin 8 ↦ n.testBit i) = n := by decide +kernel
  exact hall b.toNat b.toNat_lt

theorem bitsOfByte_inj {b c : UInt8} (h : bitsOfByte b = bitsOfByte c) : b = c := by
  refine UInt8.toNat_inj.mp ?_
  rw [← ofBits_bitsOfByte, h, ofBits_bitsOfByte]

/-- Eight bits are those of a byte. -/
theorem exists_bitsOfByte {bits : List Bool} (h : bits.length = 8) : ∃ b, bitsOfByte b = bits := by
  have hall : ∀ p q r s t u v w : Bool,
      bitsOfByte (ofBits [p, q, r, s, t, u, v, w]).toUInt8 = [p, q, r, s, t, u, v, w] := by
    decide +kernel
  match bits, h with
  | [p, q, r, s, t, u, v, w], _ => exact ⟨_, hall p q r s t u v w⟩

/-- A byte in front is found in its bits. -/
theorem append_bitsOf_inj {b c : UInt8} {rest rest' : List Bool}
    (h : bitsOfByte b ++ rest = bitsOfByte c ++ rest') : b = c ∧ rest = rest' := by
  obtain ⟨hbyte, hrest⟩ := List.append_inj h (by simp)
  exact ⟨bitsOfByte_inj hbyte, hrest⟩

theorem bitsOf_inj {bytes bytes' : Bytes} (h : bitsOf bytes = bitsOf bytes') : bytes = bytes' := by
  have hlength : bytes.length = bytes'.length := by
    have := congrArg List.length h
    simp only [length_bitsOf] at this
    omega
  induction bytes generalizing bytes' with
  | nil => exact (List.length_eq_zero_iff.mp hlength.symm).symm
  | cons b bytes ih =>
    match bytes', hlength with
    | c :: bytes', hlength =>
      obtain ⟨rfl, hrest⟩ := append_bitsOf_inj h
      rw [ih hrest (Nat.succ.inj hlength)]

/-- Bits that make up whole bytes are the bits of those bytes. -/
theorem exists_bitsOf {count : Nat} {bits : List Bool} (h : bits.length = 8 * count) :
    ∃ bytes, bitsOf bytes = bits := by
  induction count generalizing bits with
  | zero => exact ⟨[], (List.length_eq_zero_iff.mp h).symm⟩
  | succ count ih =>
    have hfront : (bits.take 8).length = 8 := by
      rw [List.length_take]
      omega
    have hrest : (bits.drop 8).length = 8 * count := by
      rw [List.length_drop]
      omega
    obtain ⟨b, hb⟩ := exists_bitsOfByte hfront
    obtain ⟨bytes, hbytes⟩ := ih hrest
    exact ⟨b :: bytes, by rw [bitsOf_cons, hb, hbytes, List.take_append_drop]⟩

theorem ofBits_lt (bits : List Bool) : ofBits bits < 2 ^ bits.length := by
  induction bits with
  | nil => exact Nat.one_pos
  | cons bit bits ih =>
    have hbit := bit.toNat_le
    rw [ofBits, List.length_cons, Nat.pow_succ]
    omega

theorem Number.lt {count n : Nat} {bits rest : List Bool} (h : Number count n bits rest) :
    n < 2 ^ count := by
  obtain ⟨front, rfl, rfl, -⟩ := h
  exact ofBits_lt front

theorem Number.length_eq {count n : Nat} {bits rest : List Bool} (h : Number count n bits rest) :
    bits.length = count + rest.length := by
  obtain ⟨front, rfl, -, rfl⟩ := h
  exact List.length_append

/-- A number is found in one way. -/
theorem Number.unique {count n n' : Nat} {bits rest rest' : List Bool}
    (h : Number count n bits rest) (h' : Number count n' bits rest') : n = n' ∧ rest = rest' := by
  obtain ⟨front, hcount, rfl, rfl⟩ := h
  obtain ⟨front', hcount', rfl, heq⟩ := h'
  obtain ⟨rfl, rfl⟩ := List.append_inj heq (hcount.trans hcount'.symm)
  exact ⟨rfl, rfl⟩

theorem ofBits_append (bits bits' : List Bool) :
    ofBits (bits ++ bits') = ofBits bits + 2 ^ bits.length * ofBits bits' := by
  induction bits with
  | nil => simp [ofBits]
  | cons bit bits ih =>
    rw [List.cons_append, ofBits, ofBits, ih, List.length_cons, Nat.pow_succ', Nat.mul_add,
      Nat.mul_assoc, Nat.add_assoc]

/-- A number of two bits. -/
theorem number_two_iff {n : Nat} {bits rest : List Bool} :
    Number 2 n bits rest ↔
      ∃ low high : Bool, bits = low :: high :: rest ∧ n = low.toNat + 2 * high.toNat := by
  constructor
  · rintro ⟨front, hlength, rfl, rfl⟩
    match front, hlength with
    | [low, high], _ => exact ⟨low, high, rfl, rfl⟩
  · rintro ⟨low, high, rfl, rfl⟩
    exact ⟨[low, high], rfl, rfl, rfl⟩

/-- A number of two bytes. -/
theorem number_bitsOf_iff {n : Nat} {bytes : Bytes} {rest : List Bool} :
    Number 16 n (bitsOf bytes) rest ↔
      ∃ low high bytes', bytes = low :: high :: bytes' ∧ n = low.toNat + 256 * high.toNat ∧
        rest = bitsOf bytes' := by
  have hfound : ∀ (low high : UInt8) (bytes : Bytes),
      Number 16 (low.toNat + 256 * high.toNat) (bitsOf (low :: high :: bytes)) (bitsOf bytes) := by
    intro low high bytes
    have hbyte : 2 ^ (bitsOfByte low).length = 256 := by simp
    refine ⟨bitsOfByte low ++ bitsOfByte high, by simp, ?_, ?_⟩
    · rw [ofBits_append, ofBits_bitsOfByte, ofBits_bitsOfByte, hbyte]
    · rw [bitsOf_cons, bitsOf_cons, List.append_assoc]
  constructor
  · intro h
    have hlength := h.length_eq
    rw [length_bitsOf] at hlength
    match bytes with
    | low :: high :: bytes =>
      obtain ⟨rfl, rfl⟩ := h.unique (hfound low high bytes)
      exact ⟨low, high, bytes, rfl, rfl, rfl⟩
    | [_] | [] =>
      simp only [List.length_cons, List.length_nil] at hlength
      omega
  · rintro ⟨low, high, bytes', rfl, rfl, rfl⟩
    exact hfound low high bytes'

/-! ## Bits that are left -/

namespace BitInput

/-- The bits that are left, one after the other. -/
def toBits (input : BitInput) : List Bool :=
  input.current ++ bitsOf input.bytes

theorem length_toBits (input : BitInput) :
    input.toBits.length = input.current.length + 8 * input.bytes.length := by
  rw [toBits, List.length_append, length_bitsOf]

/-- The bits of the current byte are those beyond whole bytes. -/
theorem length_toBits_mod (input : BitInput) :
    input.toBits.length % 8 = input.current.length := by
  have hlt := input.length_lt
  rw [length_toBits]
  omega

theorem bound_eq (input : BitInput) : input.bound = input.toBits.length :=
  input.length_toBits.symm

@[simp] theorem toBits_ofBytes (bytes : Bytes) : (ofBytes bytes).toBits = bitsOf bytes :=
  rfl

/-- The bytes behind the current one are what is left of the bits at the next whole byte. -/
theorem bitsOf_bytes (input : BitInput) :
    bitsOf input.bytes = input.toBits.drop (input.toBits.length % 8) := by
  rw [length_toBits_mod, toBits, List.drop_left]

theorem toBits_inj {input input' : BitInput} (h : input.toBits = input'.toBits) :
    input = input' := by
  have hbytes : bitsOf input.bytes = bitsOf input'.bytes := by
    rw [bitsOf_bytes, bitsOf_bytes, h]
  have hcurrent : input.current.length = input'.current.length := by
    rw [← length_toBits_mod, ← length_toBits_mod, h]
  obtain ⟨current, bytes, hlt⟩ := input
  obtain ⟨current', bytes', hlt'⟩ := input'
  obtain ⟨rfl, -⟩ := List.append_inj h hcurrent
  obtain rfl := bitsOf_inj hbytes
  rfl

/-- All bits are what is left of some input. -/
theorem exists_toBits (bits : List Bool) : ∃ input : BitInput, input.toBits = bits := by
  have hlt : (bits.take (bits.length % 8)).length < 8 := by
    rw [List.length_take]
    omega
  have hrest : (bits.drop (bits.length % 8)).length = 8 * (bits.length / 8) := by
    rw [List.length_drop]
    omega
  obtain ⟨bytes, hbytes⟩ := exists_bitsOf hrest
  refine ⟨⟨_, bytes, hlt⟩, ?_⟩
  rw [toBits, hbytes, List.take_append_drop]

theorem next_eq_none_iff {input : BitInput} : input.next = none ↔ input.toBits = [] := by
  obtain ⟨_ | ⟨bit, current⟩, _ | ⟨b, bytes⟩, hlt⟩ := input <;>
    simp [next, toBits, bitsOf, bitsOfByte]

theorem toBits_of_next {input mid : BitInput} {bit : Bool} (h : input.next = some (bit, mid)) :
    input.toBits = bit :: mid.toBits := by
  obtain ⟨_ | ⟨bit, current⟩, _ | ⟨b, bytes⟩, hlt⟩ := input <;> cases h <;> rfl

/-- The first bit is taken. -/
theorem next_eq_some_iff {input mid : BitInput} {bit : Bool} :
    input.next = some (bit, mid) ↔ input.toBits = bit :: mid.toBits := by
  refine ⟨toBits_of_next, fun h ↦ ?_⟩
  cases hnext : input.next with
  | none => cases h.symm.trans (next_eq_none_iff.mp hnext)
  | some taken =>
    obtain ⟨rfl, hrest⟩ := List.cons.inj (h.symm.trans (toBits_of_next hnext))
    rw [toBits_inj hrest]

/-- The number in front is taken. -/
theorem number_eq_some_iff {count n : Nat} {input input' : BitInput} :
    input.number count = some (n, input') ↔ Number count n input.toBits input'.toBits := by
  induction count generalizing input input' n with
  | zero =>
    constructor
    · intro h
      cases h
      exact ⟨[], rfl, rfl, rfl⟩
    · rintro ⟨front, hcount, rfl, heq⟩
      obtain rfl := List.length_eq_zero_iff.mp hcount
      rw [toBits_inj heq]
      rfl
  | succ count ih =>
    simp only [number, Option.bind_eq_bind, Option.bind_eq_some_iff, Prod.exists, next_eq_some_iff,
      ih]
    constructor
    · rintro ⟨bit, mid, hbit, m, _, ⟨front, hcount, rfl, hmid⟩, heq⟩
      cases heq
      refine ⟨bit :: front, congrArg Nat.succ hcount, Nat.add_comm _ _, ?_⟩
      rw [hbit, hmid, List.cons_append]
    · rintro ⟨front, hcount, rfl, heq⟩
      obtain ⟨bit, front, rfl⟩ := List.exists_cons_of_length_eq_add_one hcount
      obtain ⟨mid, hmid⟩ := exists_toBits (front ++ input'.toBits)
      refine ⟨bit, mid, hmid ▸ heq, _, input', ⟨front, Nat.succ.inj hcount, rfl, hmid⟩, ?_⟩
      rw [ofBits, Nat.add_comm]
      rfl

end BitInput

end TenantView.Gzip
