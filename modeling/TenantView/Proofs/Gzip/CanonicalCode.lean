import Mathlib.Algebra.Group.Nat.Defs
import TenantView.Proofs.Gzip.Format

/-!
# Canonical prefix codes

The lengths of its codes determine a prefix code: the first code of a length is the number behind
the codes that are one bit shorter, with one bit more, and codes of one length are consecutive.  The
decoder compares the bits read so far with the first code of each length, and takes exactly the
symbol of which the code comes next (`decode_ofLengths_eq_ok_iff`).  Where the next longer codes
would begin also tells how much room the codes take, so that the decoder knows which codes are
complete and which may be used (`isComplete_ofLengths_iff`, `isUsable_ofLengths_iff`).
-/

namespace TenantView.Gzip

/-! ## Codes in order -/

/-- The number that bits spell behind those that spell `value`, the highest first. -/
def ofBitsBehind (value : Nat) (bits : List Bool) : Nat :=
  bits.foldl (fun value bit ↦ 2 * value + bit.toNat) value

theorem ofBitsBehind_lt (value : Nat) (bits : List Bool) :
    ofBitsBehind value bits < 2 ^ bits.length * (value + 1) := by
  induction bits generalizing value with
  | nil => simp [ofBitsBehind]
  | cons bit bits ih =>
    have hbit := bit.toNat_le
    calc ofBitsBehind value (bit :: bits) = ofBitsBehind (2 * value + bit.toNat) bits := rfl
      _ < 2 ^ bits.length * (2 * value + bit.toNat + 1) := ih _
      _ ≤ 2 ^ bits.length * (2 * (value + 1)) := Nat.mul_le_mul_left _ (by omega)
      _ = 2 ^ (bit :: bits).length * (value + 1) := by
          rw [List.length_cons, Nat.pow_succ, Nat.mul_assoc]

/-- Longer codes come behind the shorter ones. -/
theorem le_firstCode (lengths : List Nat) (length more : Nat) :
    2 ^ (more + 1) * (firstCode lengths length + codeCount lengths length) ≤
      firstCode lengths (length + (more + 1)) := by
  induction more with
  | zero => simp [firstCode]
  | succ more ih =>
    calc 2 ^ (more + 1 + 1) * (firstCode lengths length + codeCount lengths length)
        = 2 * (2 ^ (more + 1) * (firstCode lengths length + codeCount lengths length)) := by
          rw [Nat.pow_succ', Nat.mul_assoc]
      _ ≤ 2 * firstCode lengths (length + (more + 1)) := Nat.mul_le_mul_left 2 ih
      _ ≤ firstCode lengths (length + (more + 1) + 1) := by
          rw [firstCode]
          omega

/-- The symbols with codes of a length are in their order. -/
theorem getElem?_symbolsFrom (lengths : List Nat) (length start i symbol : Nat) :
    (((lengths.zipIdx start).filter (·.1 = length)).map (·.2))[i]? = some symbol ↔
      start ≤ symbol ∧ lengths[symbol - start]? = some length ∧
        (lengths.take (symbol - start)).count length = i := by
  induction lengths generalizing start i with
  | nil => simp
  | cons l lengths ih =>
    have hplace : symbol < start ∨ symbol = start ∨ ∃ k, symbol = start + 1 + k := by
      rcases Nat.lt_trichotomy symbol start with h | h | h
      · exact .inl h
      · exact .inr (.inl h)
      · exact .inr (.inr ⟨symbol - (start + 1), by omega⟩)
    rw [List.zipIdx_cons]
    by_cases hl : l = length
    · rw [List.filter_cons_of_pos (by simpa using hl), List.map_cons]
      cases i with
      | zero =>
        rcases hplace with h | rfl | ⟨k, rfl⟩
        · simp [Nat.not_le.mpr h, Nat.ne_of_gt h]
        · simp [hl]
        · have hk : start + 1 + k - start = k + 1 := by omega
          simp [hk, hl, Nat.ne_of_lt (show start < start + 1 + k by omega)]
      | succ i =>
        rw [List.getElem?_cons_succ, ih]
        rcases hplace with h | rfl | ⟨k, rfl⟩
        · simp [Nat.not_le.mpr h, Nat.not_le.mpr (Nat.lt_succ_of_lt h)]
        · simp
        · have hk : start + 1 + k - start = k + 1 := by omega
          have hle : start ≤ start + 1 + k := by omega
          simp [hk, hl, hle]
    · rw [List.filter_cons_of_neg (by simpa using hl), ih]
      rcases hplace with h | rfl | ⟨k, rfl⟩
      · simp [Nat.not_le.mpr h, Nat.not_le.mpr (Nat.lt_succ_of_lt h)]
      · simp [hl]
      · have hk : start + 1 + k - start = k + 1 := by omega
        have hle : start ≤ start + 1 + k := by omega
        simp [hk, hl, hle]

theorem getElem?_symbolsOfLength {lengths : List Nat} {length i symbol : Nat} :
    (PrefixCode.symbolsOfLength lengths length)[i]? = some symbol ↔
      lengths[symbol]? = some length ∧ (lengths.take symbol).count length = i := by
  rw [PrefixCode.symbolsOfLength, getElem?_symbolsFrom]
  simp

theorem length_symbolsOfLength (lengths : List Nat) (length : Nat) :
    (PrefixCode.symbolsOfLength lengths length).length = lengths.count length := by
  have hcount : lengths.count length =
      (lengths.zipIdx.map Prod.fst).countP (fun l ↦ decide (l = length)) := by
    rw [List.zipIdx_map_fst]
    rfl
  rw [PrefixCode.symbolsOfLength, List.length_map, hcount, List.countP_map,
    List.countP_eq_length_filter]
  rfl

theorem length_symbolsOfLength_succ (lengths : List Nat) (length : Nat) :
    (PrefixCode.symbolsOfLength lengths (length + 1)).length = codeCount lengths (length + 1) := by
  rw [length_symbolsOfLength, codeCount, if_neg (Nat.succ_ne_zero length)]

/-- The symbols with codes of `count` lengths behind the given one. -/
def symbolsBehind (lengths : List Nat) (length count : Nat) : List (List Nat) :=
  (List.range' (length + 1) count).map (PrefixCode.symbolsOfLength lengths)

theorem symbolsBehind_succ (lengths : List Nat) (length count : Nat) :
    symbolsBehind lengths length (count + 1) =
      PrefixCode.symbolsOfLength lengths (length + 1) ::
        symbolsBehind lengths (length + 1) count := by
  rw [symbolsBehind, List.range'_succ, List.map_cons, symbolsBehind]

/-- The bits that come next make up the code of a symbol, if the bits before them, which spell
`value`, are counted in. -/
def ReadsBehind (lengths : List Nat) (length value symbol : Nat) (code : List Bool) : Prop :=
  lengths[symbol]? = some (length + code.length) ∧
    ofBitsBehind value code = firstCode lengths (length + code.length) +
      (lengths.take symbol).count (length + code.length)

section Step

variable {lengths : List Nat} {length value symbol : Nat} {bit : Bool}

/-- A code of the next length ends with the bit exactly if its number is that of a code. -/
theorem readsBehind_single
    (hle : firstCode lengths (length + 1) ≤ 2 * value + bit.toNat) :
    ReadsBehind lengths length value symbol [bit] ↔
      (PrefixCode.symbolsOfLength lengths (length + 1))[
        2 * value + bit.toNat - firstCode lengths (length + 1)]? = some symbol := by
  rw [getElem?_symbolsOfLength, ReadsBehind, List.length_singleton]
  refine and_congr_right fun _ ↦ ?_
  change 2 * value + bit.toNat = _ ↔ _
  omega

/-- A number below those of longer codes begins no longer code. -/
theorem not_readsBehind_longer {b : Bool} {more : List Bool}
    (hlt : 2 * value + bit.toNat <
      firstCode lengths (length + 1) + codeCount lengths (length + 1)) :
    ¬ ReadsBehind lengths length value symbol (bit :: b :: more) := by
  rintro ⟨-, hvalue⟩
  have hupper := ofBitsBehind_lt (2 * value + bit.toNat) (b :: more)
  have hlower := le_firstCode lengths (length + 1) more.length
  have hmiddle : 2 ^ (more.length + 1) * (2 * value + bit.toNat + 1) ≤
      2 ^ (more.length + 1) *
        (firstCode lengths (length + 1) + codeCount lengths (length + 1)) :=
    Nat.mul_le_mul_left _ hlt
  have hlength : length + (bit :: b :: more).length = length + 1 + (more.length + 1) := by
    simp only [List.length_cons]
    omega
  rw [hlength] at hvalue
  change ofBitsBehind (2 * value + bit.toNat) (b :: more) = _ at hvalue
  rw [List.length_cons] at hupper
  omega

theorem readsBehind_cons {code : List Bool} :
    ReadsBehind lengths length value symbol (bit :: code) ↔
      ReadsBehind lengths (length + 1) (2 * value + bit.toNat) symbol code := by
  have hlength : length + (bit :: code).length = length + 1 + code.length := by
    rw [List.length_cons]
    omega
  rw [ReadsBehind, ReadsBehind, hlength]
  rfl

end Step

/-! ## Decoding -/

/-- Some bits in front of the rest are the first one alone, or it and more of them. -/
theorem exists_front_iff {bit : Bool} {bits rest : List Bool} {P : List Bool → Prop} :
    (∃ code, bit :: bits = code ++ rest ∧ code ≠ [] ∧ P code) ↔
      (bits = rest ∧ P [bit]) ∨ ∃ code, bits = code ++ rest ∧ code ≠ [] ∧ P (bit :: code) := by
  constructor
  · rintro ⟨code, hcode, hne, hP⟩
    obtain ⟨b, more, rfl⟩ := List.exists_cons_of_ne_nil hne
    obtain ⟨rfl, hmore⟩ := List.cons.inj hcode
    cases more with
    | nil => exact .inl ⟨hmore, hP⟩
    | cons b more => exact .inr ⟨b :: more, hmore, List.cons_ne_nil _ _, hP⟩
  · rintro (⟨rfl, hP⟩ | ⟨code, rfl, -, hP⟩)
    · exact ⟨[bit], rfl, List.cons_ne_nil _ _, hP⟩
    · exact ⟨bit :: code, rfl, List.cons_ne_nil _ _, hP⟩

section DecodeFrom

variable {input mid : BitInput} {bit : Bool} {counts : List Nat} {value first : Nat}

/-- A number below those of longer codes is the code of a symbol of its length. -/
theorem decodeFrom_of_lt (hnext : input.next = some (bit, mid)) {shorter group longer : List Nat}
    (hle : 2 * first ≤ 2 * value + bit.toNat)
    (hlt : 2 * value + bit.toNat < 2 * first + group.length) :
    ∃ symbol, group[2 * value + bit.toNat - 2 * first]? = some symbol ∧
      PrefixCode.decodeFrom (shorter ++ (group ++ longer)).toArray (group.length :: counts) value
        first shorter.length input = .ok (symbol, mid) := by
  have hplace : 2 * value + bit.toNat - 2 * first < group.length := by omega
  have hfound : (shorter ++ (group ++ longer)).toArray[shorter.length +
      (2 * value + bit.toNat - 2 * first)]? = some group[2 * value + bit.toNat - 2 * first] := by
    rw [List.getElem?_toArray, List.getElem?_append_right (Nat.le_add_right _ _),
      Nat.add_sub_cancel_left, List.getElem?_append_left hplace, List.getElem?_eq_getElem hplace]
  refine ⟨_, List.getElem?_eq_getElem hplace, ?_⟩
  rw [PrefixCode.decodeFrom]
  simp only [hnext]
  rw [if_pos hlt, hfound]

/-- Another number is the beginning of a longer code. -/
theorem decodeFrom_of_le (hnext : input.next = some (bit, mid)) {symbols : Array Nat}
    {count index : Nat} (hle : 2 * first + count ≤ 2 * value + bit.toNat) :
    PrefixCode.decodeFrom symbols (count :: counts) value first index input =
      PrefixCode.decodeFrom symbols counts (2 * value + bit.toNat) (2 * first + count)
        (index + count) mid := by
  rw [PrefixCode.decodeFrom]
  simp only [hnext]
  rw [if_neg (Nat.not_lt.mpr hle)]

end DecodeFrom

/-- Behind `length` bits that make up no code, the decoder goes on to the code that comes next. -/
theorem decodeFrom_eq_ok_iff {lengths : List Nat} {length count value : Nat}
    {input input' : BitInput} {symbol : Nat} {shorter : List Nat}
    (hvalue : firstCode lengths length + codeCount lengths length ≤ value) :
    PrefixCode.decodeFrom (shorter ++ (symbolsBehind lengths length count).flatten).toArray
        ((symbolsBehind lengths length count).map List.length) value
        (firstCode lengths length + codeCount lengths length) shorter.length input =
      .ok (symbol, input') ↔
    ∃ code, input.toBits = code ++ input'.toBits ∧ code ≠ [] ∧ code.length ≤ count ∧
      ReadsBehind lengths length value symbol code := by
  induction count generalizing length value input shorter with
  | zero =>
    constructor
    · exact nofun
    · rintro ⟨code, -, hne, hle, -⟩
      exact absurd (List.length_eq_zero_iff.mp (Nat.le_zero.mp hle)) hne
  | succ count ih =>
    rw [symbolsBehind_succ, List.map_cons, List.flatten_cons]
    cases hnext : input.next with
    | none =>
      rw [PrefixCode.decodeFrom]
      simp only [hnext]
      constructor
      · exact nofun
      · rintro ⟨code, hbits, hne, -⟩
        rw [BitInput.next_eq_none_iff.mp hnext] at hbits
        exact absurd (List.append_eq_nil_iff.mp hbits.symm).1 hne
    | some taken =>
      obtain ⟨bit, mid⟩ := taken
      have hfirst : 2 * (firstCode lengths length + codeCount lengths length) =
          firstCode lengths (length + 1) := rfl
      have hle : firstCode lengths (length + 1) ≤ 2 * value + bit.toNat := by omega
      have hcount := length_symbolsOfLength_succ lengths length
      rw [BitInput.toBits_of_next hnext, exists_front_iff]
      by_cases hlt : 2 * value + bit.toNat <
          firstCode lengths (length + 1) + codeCount lengths (length + 1)
      · have hlonger : ¬ ∃ code, mid.toBits = code ++ input'.toBits ∧ code ≠ [] ∧
            (bit :: code).length ≤ count + 1 ∧
              ReadsBehind lengths length value symbol (bit :: code) := by
          rintro ⟨code, -, hne, -, hreads⟩
          obtain ⟨b, more, rfl⟩ := List.exists_cons_of_ne_nil hne
          exact not_readsBehind_longer hlt hreads
        obtain ⟨found, hfound, hdecode⟩ := decodeFrom_of_lt hnext (hfirst ▸ hle)
          (hfirst ▸ hcount ▸ hlt)
        rw [hfirst] at hfound
        rw [hdecode, or_iff_left hlonger, readsBehind_single hle, hfound]
        constructor
        · intro h
          cases h
          exact ⟨rfl, Nat.succ_pos _, rfl⟩
        · rintro ⟨hmid, -, hsymbol⟩
          cases hsymbol
          rw [BitInput.toBits_inj hmid]
      · have hge := Nat.le_of_not_lt hlt
        have hsingle : ¬ ReadsBehind lengths length value symbol [bit] := by
          rw [readsBehind_single hle, List.getElem?_eq_none (by omega)]
          exact (Option.some_ne_none symbol).symm
        have hlonger := @ih (length + 1) _ mid
          (shorter ++ PrefixCode.symbolsOfLength lengths (length + 1)) hge
        rw [List.length_append, hcount, List.append_assoc] at hlonger
        rw [hcount, decodeFrom_of_le hnext (hfirst ▸ hge), hfirst, hlonger,
          or_iff_right fun h ↦ hsingle h.2.2]
        simp only [List.length_cons, Nat.succ_le_succ_iff, readsBehind_cons]

/-- What is read takes at least one bit. -/
theorem Reads.length_lt {lengths : List Nat} {bits rest : List Bool} {symbol : Nat}
    (h : Reads lengths bits symbol rest) : rest.length < bits.length := by
  obtain ⟨code, hcode, rfl⟩ := h
  rw [List.length_append]
  exact Nat.lt_add_of_pos_left (List.length_pos_iff.mpr hcode.ne_nil)

/-- The groups of symbols in a code are those behind no length at all. -/
theorem ofLengths_eq (lengths : List Nat) :
    PrefixCode.ofLengths lengths =
      ⟨(symbolsBehind lengths 0 15).map List.length,
        (symbolsBehind lengths 0 15).flatten.toArray⟩ :=
  rfl

/-- **The decoder takes the symbol of which the canonical code comes next.** -/
theorem decode_ofLengths_eq_ok_iff {lengths : List Nat} {input input' : BitInput} {symbol : Nat} :
    (PrefixCode.ofLengths lengths).decode input = .ok (symbol, input') ↔
      Reads lengths input.toBits symbol input'.toBits := by
  rw [PrefixCode.decode, ofLengths_eq]
  have hfrom := @decodeFrom_eq_ok_iff lengths 0 15 0 input input' symbol [] (Nat.le_refl _)
  refine hfrom.trans ?_
  constructor
  · rintro ⟨code, hbits, hne, hle, hlength, hnumber⟩
    rw [Nat.zero_add] at hlength hnumber
    exact ⟨code, ⟨hlength, hne, hle, hnumber⟩, hbits⟩
  · rintro ⟨code, ⟨hlength, hne, hle, hnumber⟩, hbits⟩
    refine ⟨code, hbits, hne, hle, ?_⟩
    rw [ReadsBehind, Nat.zero_add]
    exact ⟨hlength, hnumber⟩

/-- What comes next is read in one way. -/
theorem Reads.unique {lengths : List Nat} {bits rest rest' : List Bool} {symbol symbol' : Nat}
    (h : Reads lengths bits symbol rest) (h' : Reads lengths bits symbol' rest') :
    symbol = symbol' ∧ rest = rest' := by
  obtain ⟨input, rfl⟩ := BitInput.exists_toBits bits
  obtain ⟨input₁, rfl⟩ := BitInput.exists_toBits rest
  obtain ⟨input₂, rfl⟩ := BitInput.exists_toBits rest'
  cases (decode_ofLengths_eq_ok_iff.mpr h).symm.trans (decode_ofLengths_eq_ok_iff.mpr h')
  exact ⟨rfl, rfl⟩

/-! ## Room -/

/-- How many of the sequences of `width` bits begin with a code. -/
def shareWithin (width : Nat) (lengths : List Nat) : Nat :=
  ((lengths.filter fun length ↦ decide (0 < length ∧ length ≤ width)).map
    fun length ↦ 2 ^ (width - length)).sum

theorem shareWithin_cons (width length : Nat) (lengths : List Nat) :
    shareWithin width (length :: lengths) =
      (if 0 < length ∧ length ≤ width then 2 ^ (width - length) else 0) +
        shareWithin width lengths := by
  rw [shareWithin, shareWithin, List.filter_cons]
  by_cases hlength : 0 < length ∧ length ≤ width
  · rw [if_pos (decide_eq_true hlength), if_pos hlength, List.map_cons, List.sum_cons]
  · rw [if_neg (by simpa using hlength), if_neg hlength, Nat.zero_add]

/-- With one more bit each code stands for twice as many sequences, and each new code for one. -/
theorem shareWithin_succ (width : Nat) (lengths : List Nat) :
    shareWithin (width + 1) lengths =
      2 * shareWithin width lengths + lengths.count (width + 1) := by
  induction lengths with
  | nil => rfl
  | cons length lengths ih =>
    rw [shareWithin_cons, shareWithin_cons, ih, List.count_cons]
    rcases Nat.lt_trichotomy length (width + 1) with hlt | rfl | hgt
    · have hne : ¬ (length == width + 1) = true := by simpa using Nat.ne_of_lt hlt
      have hpow : 2 ^ (width + 1 - length) = 2 * 2 ^ (width - length) := by
        rw [Nat.succ_sub (Nat.le_of_lt_succ hlt), Nat.pow_succ']
      have hiff : (0 < length ∧ length ≤ width + 1) ↔ (0 < length ∧ length ≤ width) := by omega
      rw [if_neg hne, if_congr hiff hpow rfl]
      split <;> omega
    · rw [if_pos ⟨Nat.succ_pos width, Nat.le_refl _⟩, if_neg (by omega), if_pos (by simp),
        Nat.sub_self, Nat.pow_zero]
      omega
    · have hne : ¬ (length == width + 1) = true := by simpa using Nat.ne_of_gt hgt
      rw [if_neg (by omega), if_neg (by omega), if_neg hne]
      omega

/-- The next longer code would begin behind those that stand for sequences already. -/
theorem firstCode_succ (lengths : List Nat) (width : Nat) :
    firstCode lengths (width + 1) = 2 * shareWithin width lengths := by
  induction width with
  | zero =>
    have hnone : shareWithin 0 lengths = 0 := by
      rw [shareWithin, List.filter_eq_nil_iff.mpr fun length _ ↦ by simp; omega]
      rfl
    rw [hnone]
    rfl
  | succ width ih =>
    rw [firstCode, ih, codeCount, if_neg (Nat.succ_ne_zero width), shareWithin_succ]

/-- The codes of `count` more lengths take the room in front of the codes behind them. -/
theorem foldl_symbolsBehind (lengths : List Nat) (length count : Nat) :
    ((symbolsBehind lengths length count).map List.length).foldl
        (fun weight count ↦ 2 * (weight + count)) (firstCode lengths (length + 1)) =
      firstCode lengths (length + count + 1) := by
  induction count generalizing length with
  | zero => rfl
  | succ count ih =>
    have hnext : 2 * (firstCode lengths (length + 1) +
        (PrefixCode.symbolsOfLength lengths (length + 1)).length) =
        firstCode lengths (length + 1 + 1) := by
      rw [length_symbolsOfLength_succ]
      rfl
    rw [symbolsBehind_succ, List.map_cons, List.foldl_cons, hnext, ih, Nat.add_right_comm length 1,
      Nat.add_assoc length count 1]

theorem isComplete_ofLengths_iff {lengths : List Nat} :
    (PrefixCode.ofLengths lengths).isComplete = true ↔ IsComplete lengths := by
  have hweight : (PrefixCode.ofLengths lengths).weight = 2 * share lengths :=
    (foldl_symbolsBehind lengths 0 15).trans (firstCode_succ lengths 15)
  have hroom : 1 <<< (longestCode + 1) = 2 * 2 ^ 15 := by decide
  rw [PrefixCode.isComplete, decide_eq_true_eq, hweight, hroom, IsComplete]
  exact Nat.mul_right_inj (by decide)

theorem count_add_countP (lengths : List Nat) (length count : Nat) :
    lengths.count (length + 1) +
        (lengths.countP fun l ↦ decide (length + 1 < l ∧ l ≤ length + 1 + count)) =
      lengths.countP fun l ↦ decide (length < l ∧ l ≤ length + (count + 1)) := by
  induction lengths with
  | nil => rfl
  | cons l lengths ih =>
    simp only [List.count_cons, List.countP_cons, decide_eq_true_eq, beq_iff_eq]
    split <;> split <;> split <;> omega

/-- The codes of `count` lengths are as many as the symbols with such lengths. -/
theorem length_symbolsBehind (lengths : List Nat) (length count : Nat) :
    (symbolsBehind lengths length count).flatten.length =
      lengths.countP fun l ↦ decide (length < l ∧ l ≤ length + count) := by
  induction count generalizing length with
  | zero =>
    refine (List.countP_eq_zero.mpr fun l _ ↦ ?_).symm
    simp
  | succ count ih =>
    rw [symbolsBehind_succ, List.flatten_cons, List.length_append, length_symbolsOfLength, ih,
      count_add_countP]

theorem isUsable_ofLengths_iff {lengths : List Nat} :
    (PrefixCode.ofLengths lengths).isUsable = true ↔ IsUsable .reader lengths := by
  have hsize : (PrefixCode.ofLengths lengths).symbols.size = lengths.countP isCodeLength := by
    rw [ofLengths_eq, List.size_toArray, length_symbolsBehind]
    rfl
  rw [PrefixCode.isUsable, Bool.or_eq_true, decide_eq_true_eq, isComplete_ofLengths_iff, hsize,
    IsUsable]
  exact or_congr_right (and_iff_left nofun).symm

end TenantView.Gzip
