import TenantView.Proofs.Gzip.CanonicalCode
import TenantView.Proofs.Traversal

/-!
# Blocks in codes of their own

What the inflater takes within a block is what comes next in the bits: a piece of output
(`takePiece_eq_ok_iff`), and the two codes that a block gives itself (`takeCodes_eq_ok_iff`), with
their list of lengths entry by entry (`takeLengths_eq_ok_iff`).  All of it takes at least one bit,
and is found in one way only.
-/

namespace TenantView.Gzip

theorem takeNumber_eq_ok_iff {count n : Nat} {input input' : BitInput} :
    takeNumber count input = .ok (n, input') ↔ Number count n input.toBits input'.toBits := by
  rw [← BitInput.number_eq_some_iff, takeNumber]
  cases input.number count <;> simp

/-- What is made of a number is taken with it. -/
theorem takeNumber_map_eq_ok_iff {α : Type} (f : Nat → α) {count : Nat} {x : α}
    {input input' : BitInput} :
    (do
      let (n, input) ← takeNumber count input
      return (f n, input)) = Except.ok (x, input') ↔
      ∃ n, Number count n input.toBits input'.toBits ∧ x = f n := by
  simp only [bind_eq_ok_iff, Prod.exists, takeNumber_eq_ok_iff]
  constructor
  · rintro ⟨n, mid, hnumber, h⟩
    cases h
    exact ⟨n, hnumber, rfl⟩
  · rintro ⟨n, hnumber, rfl⟩
    exact ⟨n, input', hnumber, rfl⟩

/-! ## Pieces of output -/

/-- The tables of lengths and of distances hold what the symbols mean. -/
theorem getElem?_lengthSymbols {place : Nat} (h : place < 29) :
    lengthSymbols[place]? = some (leastLength place, lengthBits place) := by
  have hall : ∀ place < 29, lengthSymbols[place]? = some (leastLength place, lengthBits place) := by
    decide
  exact hall place h

theorem getElem?_distanceSymbols {place : Nat} (h : place < 30) :
    distanceSymbols[place]? = some (leastDistance place, distanceBits place) := by
  have hall : ∀ place < 30,
      distanceSymbols[place]? = some (leastDistance place, distanceBits place) := by
    decide +kernel
  exact hall place h

/-- A length or a distance is the least one of its symbol and a number behind the symbol. -/
theorem takeExtended_eq_ok_iff {table : Array (Nat × Nat)} {least bits : Nat → Nat}
    (htable : ∀ {place}, place < table.size → table[place]? = some (least place, bits place))
    {place n : Nat} {input input' : BitInput} :
    takeExtended table place input = .ok (n, input') ↔
      place < table.size ∧ ∃ more, Number (bits place) more input.toBits input'.toBits ∧
        n = least place + more := by
  rw [takeExtended]
  by_cases hplace : place < table.size
  · rw [htable hplace, and_iff_right hplace]
    exact takeNumber_map_eq_ok_iff (least place + ·)
  · rw [Array.getElem?_eq_none (Nat.le_of_not_lt hplace)]
    exact iff_of_false nofun fun h ↦ hplace h.1

/-- The piece of output that comes next in a block, of which the lengths of codes are given. -/
def YieldsPiece (main distances : List Nat) (bits : List Bool) : Piece → List Bool → Prop
  | .byte b, rest => ∃ symbol, Reads main bits symbol rest ∧ symbol < 256 ∧ b = symbol.toUInt8
  | .copy length distance, rest => GivesCopy main distances bits length distance rest
  | .blockEnd, rest => Reads main bits 256 rest

theorem takePiece_eq_ok_iff {main distances : List Nat} {input input' : BitInput} {piece : Piece} :
    takePiece (.ofLengths main) (.ofLengths distances) input = .ok (piece, input') ↔
      YieldsPiece main distances input.toBits piece input'.toBits := by
  have hlengths := @takeExtended_eq_ok_iff lengthSymbols _ _ getElem?_lengthSymbols
  have hdistances := @takeExtended_eq_ok_iff distanceSymbols _ _ getElem?_distanceSymbols
  have hend : endSymbol = 256 := rfl
  rw [takePiece, hend]
  simp only [bind_eq_ok_iff, Prod.exists, decode_ofLengths_eq_ok_iff]
  constructor
  · rintro ⟨symbol, mid, hreads, h⟩
    split at h
    · next hlt =>
      cases h
      exact ⟨symbol, hreads, hlt, rfl⟩
    · next hge =>
      split at h
      · next heq =>
        cases h
        subst heq
        exact hreads
      · next hne =>
        simp only [bind_eq_ok_iff, Prod.exists, hlengths, hdistances,
          decode_ofLengths_eq_ok_iff] at h
        obtain ⟨length, mid₁, ⟨hplace, more, hmore, rfl⟩, place', mid₂, hreads', distance, mid₃,
          ⟨hplace', more', hmore', rfl⟩, h⟩ := h
        cases h
        have hsymbol : 257 + (symbol - (256 + 1)) = symbol := by omega
        exact .intro (hsymbol.symm ▸ hreads) hplace hmore rfl hreads' hplace' hmore' rfl
  · intro h
    cases piece with
    | byte b =>
      obtain ⟨symbol, hreads, hlt, rfl⟩ := h
      exact ⟨symbol, input', hreads, if_pos hlt⟩
    | blockEnd => exact ⟨256, input', h, rfl⟩
    | copy length distance =>
      obtain @⟨place, more, place', more', bits₁, bits₂, bits₃, hreads, hplace, hmore, rfl, hreads',
        hplace', hmore', rfl⟩ := h
      obtain ⟨mid₁, rfl⟩ := BitInput.exists_toBits bits₁
      obtain ⟨mid₂, rfl⟩ := BitInput.exists_toBits bits₂
      obtain ⟨mid₃, rfl⟩ := BitInput.exists_toBits bits₃
      refine ⟨257 + place, mid₁, hreads, ?_⟩
      rw [if_neg (by omega), if_neg (by omega)]
      have hsymbol : 257 + place - (256 + 1) = place := Nat.add_sub_cancel_left 257 place
      simp only [bind_eq_ok_iff, Prod.exists, hlengths, hdistances, decode_ofLengths_eq_ok_iff,
        hsymbol]
      exact ⟨_, mid₂, ⟨hplace, more, hmore, rfl⟩, place', mid₃, hreads', _, input',
        ⟨hplace', more', hmore', rfl⟩, rfl⟩

/-! ## The codes that a block gives -/

/-- An entry of a list of lengths is taken, if there are no more symbols than for entries. -/
theorem takeRepeated_eq_ok_iff {lengths : List Nat} (hlengths : lengths.length = 19)
    {previous : Option Nat} {input input' : BitInput} {length times : Nat} :
    takeRepeated (.ofLengths lengths) previous input = .ok ((length, times), input') ↔
      GivesEntry lengths previous input.toBits length times input'.toBits := by
  have hlongest : longestCode = 15 := rfl
  have hlt : ∀ {bits symbol rest}, Reads lengths bits symbol rest → symbol < 19 := by
    rintro bits symbol rest ⟨code, hcode, -⟩
    exact hlengths ▸ (List.getElem?_eq_some_iff.mp hcode.length_eq).1
  rw [takeRepeated, hlongest]
  simp only [bind_eq_ok_iff, Prod.exists, decode_ofLengths_eq_ok_iff]
  constructor
  · rintro ⟨symbol, mid, hreads, h⟩
    split at h
    · next hle =>
      cases h
      exact .length hreads hle
    · split at h
      · next heq =>
        subst heq
        cases previous with
        | none => cases h
        | some length =>
          obtain ⟨more, htimes, h⟩ := (takeNumber_map_eq_ok_iff ((length, 3 + ·))).mp h
          cases h
          exact .again hreads rfl htimes
      · split at h
        · next heq =>
          subst heq
          obtain ⟨more, htimes, h⟩ := (takeNumber_map_eq_ok_iff ((0, 3 + ·))).mp h
          cases h
          exact .zeros hreads htimes
        · have hsymbol : symbol = 18 := by
            have := hlt hreads
            omega
          subst hsymbol
          obtain ⟨more, htimes, h⟩ := (takeNumber_map_eq_ok_iff ((0, 11 + ·))).mp h
          cases h
          exact .manyZeros hreads htimes
  · intro h
    cases h with
    | length hreads hle => exact ⟨length, input', hreads, if_pos hle⟩
    | @again _ more mid _ hreads hprevious htimes =>
      obtain ⟨mid, rfl⟩ := BitInput.exists_toBits mid
      refine ⟨16, mid, hreads, ?_⟩
      rw [if_neg (by omega), if_pos rfl, hprevious]
      exact (takeNumber_map_eq_ok_iff ((length, 3 + ·))).mpr ⟨more, htimes, rfl⟩
    | @zeros more mid _ hreads htimes =>
      obtain ⟨mid, rfl⟩ := BitInput.exists_toBits mid
      refine ⟨17, mid, hreads, ?_⟩
      rw [if_neg (by omega), if_neg (by omega), if_pos rfl]
      exact (takeNumber_map_eq_ok_iff ((0, 3 + ·))).mpr ⟨more, htimes, rfl⟩
    | @manyZeros more mid _ hreads htimes =>
      obtain ⟨mid, rfl⟩ := BitInput.exists_toBits mid
      refine ⟨18, mid, hreads, ?_⟩
      rw [if_neg (by omega), if_neg (by omega), if_neg (by omega)]
      exact (takeNumber_map_eq_ok_iff ((0, 11 + ·))).mpr ⟨more, htimes, rfl⟩

theorem GivesEntry.times_pos {lengths : List Nat} {previous : Option Nat} {bits rest : List Bool}
    {length times : Nat} (h : GivesEntry lengths previous bits length times rest) : 0 < times := by
  cases h <;> omega

theorem GivesEntry.length_lt {lengths : List Nat} {previous : Option Nat} {bits rest : List Bool}
    {length times : Nat} (h : GivesEntry lengths previous bits length times rest) :
    rest.length < bits.length := by
  cases h with
  | length hreads _ => exact hreads.length_lt
  | again hreads _ htimes | zeros hreads htimes | manyZeros hreads htimes =>
    have hmid := hreads.length_lt
    have hrest := htimes.length_eq
    omega

/-- A list of lengths is empty, or begins with an entry that counts at least once. -/
theorem GivesLengths.cases {codeLengths lengths : List Nat} {previous : Option Nat}
    {bits rest : List Bool} (h : GivesLengths codeLengths previous bits lengths rest) :
    (lengths = [] ∧ bits = rest) ∨
      ∃ length times mid further, lengths = List.replicate times length ++ further ∧ 0 < times ∧
        GivesEntry codeLengths previous bits length times mid ∧
        GivesLengths codeLengths (some length) mid further rest := by
  cases h with
  | done => exact .inl ⟨rfl, rfl⟩
  | entry head tail => exact .inr ⟨_, _, _, _, rfl, head.times_pos, head, tail⟩

theorem head?_replicate_append {times length : Nat} (h : 0 < times) (taken : List Nat) :
    (List.replicate times length ++ taken).head? = some length := by
  obtain ⟨times, rfl⟩ := Nat.exists_eq_add_one.mpr h
  rfl

theorem takeLengths_zero {codeLengths lengths : List Nat} {rounds : Nat} {taken : List Nat}
    {input input' : BitInput} :
    takeLengths (.ofLengths codeLengths) rounds 0 taken input = .ok (lengths, input') ↔
      ∃ further, GivesLengths codeLengths taken.head? input.toBits further input'.toBits ∧
        further.length = 0 ∧ lengths = taken.reverse ++ further := by
  have htake : takeLengths (.ofLengths codeLengths) rounds 0 taken input =
      .ok (taken.reverse, input) := by
    cases rounds <;> rfl
  rw [htake]
  constructor
  · intro h
    cases h
    exact ⟨[], .done _ _, rfl, (List.append_nil _).symm⟩
  · rintro ⟨further, hfurther, hcount, rfl⟩
    rcases hfurther.cases with ⟨rfl, heq⟩ | ⟨length, times, mid, further', rfl, hpos, -⟩
    · rw [List.append_nil, BitInput.toBits_inj heq]
    · rw [List.length_append, List.length_replicate] at hcount
      omega

/-- Lengths are taken entry by entry, as many as are asked for. -/
theorem takeLengths_eq_ok_iff {codeLengths : List Nat} (hcode : codeLengths.length = 19)
    {lengths : List Nat} {rounds count : Nat} {taken : List Nat} {input input' : BitInput}
    (hrounds : input.toBits.length ≤ rounds) :
    takeLengths (.ofLengths codeLengths) rounds count taken input = .ok (lengths, input') ↔
      ∃ further, GivesLengths codeLengths taken.head? input.toBits further input'.toBits ∧
        further.length = count ∧ lengths = taken.reverse ++ further := by
  induction rounds generalizing count taken input with
  | zero =>
    cases count with
    | zero => exact takeLengths_zero
    | succ count =>
      constructor
      · exact nofun
      · rintro ⟨list, hlist, hcount, -⟩
        rcases hlist.cases with ⟨rfl, -⟩ | ⟨length, times, mid, further, rfl, hpos, hentry, -⟩
        · cases hcount
        · have hmid := hentry.length_lt
          omega
  | succ rounds ih =>
    cases count with
    | zero => exact takeLengths_zero
    | succ count =>
      rw [takeLengths]
      simp only [bind_eq_ok_iff, Prod.exists, takeRepeated_eq_ok_iff hcode]
      constructor
      · rintro ⟨length, times, mid, hentry, h⟩
        split at h
        · next hle =>
          have hmid := hentry.length_lt
          rw [ih (by omega), head?_replicate_append hentry.times_pos] at h
          obtain ⟨further, hfurther, hcount, rfl⟩ := h
          refine ⟨_, .entry hentry hfurther, ?_, ?_⟩
          · rw [List.length_append, List.length_replicate]
            omega
          · rw [List.reverse_append, List.reverse_replicate, List.append_assoc]
        · cases h
      · rintro ⟨list, hlist, hcount, rfl⟩
        rcases hlist.cases with ⟨rfl, -⟩ | ⟨length, times, mid, further, rfl, hpos, hentry, htail⟩
        · cases hcount
        · obtain ⟨mid, rfl⟩ := BitInput.exists_toBits mid
          have hmid := hentry.length_lt
          rw [List.length_append, List.length_replicate] at hcount
          refine ⟨length, times, mid, hentry, ?_⟩
          rw [if_pos (by omega), ih (by omega), head?_replicate_append hpos]
          refine ⟨further, htail, by omega, ?_⟩
          rw [List.reverse_append, List.reverse_replicate, List.append_assoc]

/-- A whole list of lengths is taken. -/
theorem takeLengths_nil_eq_ok_iff {codeLengths : List Nat} (hcode : codeLengths.length = 19)
    {lengths : List Nat} {count : Nat} {input input' : BitInput} :
    takeLengths (.ofLengths codeLengths) input.bound count [] input = .ok (lengths, input') ↔
      GivesLengths codeLengths none input.toBits lengths input'.toBits ∧
        lengths.length = count := by
  rw [takeLengths_eq_ok_iff hcode (Nat.le_of_eq input.bound_eq.symm)]
  constructor
  · rintro ⟨further, hfurther, hcount, heq⟩
    obtain rfl : lengths = further := heq
    exact ⟨hfurther, hcount⟩
  · rintro ⟨hlengths, hcount⟩
    exact ⟨lengths, hlengths, hcount, rfl⟩

/-- The lengths of the code for lengths are taken one behind the other. -/
theorem takeLengthLengths_eq_ok_iff {symbols : List Nat} {pairs : List (Nat × Nat)}
    {input input' : BitInput} :
    takeLengthLengths symbols input = .ok (pairs, input') ↔
      ∃ given, Numbers 3 given input.toBits input'.toBits ∧ given.length = symbols.length ∧
        pairs = symbols.zip given := by
  induction symbols generalizing pairs input input' with
  | nil =>
    constructor
    · intro h
      cases h
      exact ⟨[], rfl, rfl, rfl⟩
    · rintro ⟨given, hgiven, hlength, rfl⟩
      obtain rfl := List.length_eq_zero_iff.mp hlength
      rw [BitInput.toBits_inj hgiven]
      rfl
  | cons symbol symbols ih =>
    rw [takeLengthLengths]
    simp only [bind_eq_ok_iff, Prod.exists, takeNumber_eq_ok_iff, ih]
    constructor
    · rintro ⟨length, mid, hlength, _, mid', ⟨given, hgiven, hcount, rfl⟩, h⟩
      cases h
      exact ⟨length :: given, ⟨mid.toBits, hlength, hgiven⟩, congrArg Nat.succ hcount, rfl⟩
    · rintro ⟨given, hgiven, hcount, rfl⟩
      obtain ⟨length, given, rfl⟩ := List.exists_cons_of_length_eq_add_one hcount
      obtain ⟨mid, hlength, hgiven⟩ := hgiven
      obtain ⟨mid, rfl⟩ := BitInput.exists_toBits mid
      exact ⟨length, mid, hlength, _, input', ⟨given, hgiven, Nat.succ.inj hcount, rfl⟩, rfl⟩

/-- There are symbols for as many lengths as a block can give. -/
theorem length_take_lengthOrder {l : Nat} (h : l < 16) :
    (lengthOrder.take (l + 4)).length = l + 4 := by
  have horder : lengthOrder.length = 19 := rfl
  rw [List.length_take, horder]
  omega

theorem lookup_zip {order given : List Nat} (h : given.length ≤ order.length) (symbol : Nat) :
    (order.zip given).lookup symbol = given[order.idxOf symbol]? := by
  induction order generalizing given with
  | nil =>
    obtain rfl := List.length_eq_zero_iff.mp (Nat.le_zero.mp h)
    rfl
  | cons other order ih =>
    cases given with
    | nil => rfl
    | cons length given =>
      rw [List.zip_cons_cons, List.lookup_cons, List.idxOf_cons, ih (Nat.le_of_succ_le_succ h)]
      by_cases hsymbol : symbol = other
      · simp [hsymbol]
      · simp [beq_eq_false_iff_ne.mpr hsymbol, beq_eq_false_iff_ne.mpr (Ne.symm hsymbol)]

theorem zip_take {α β : Type} (l : List α) {given : List β} {count : Nat}
    (h : given.length ≤ count) : (l.take count).zip given = l.zip given := by
  induction given generalizing l count with
  | nil => rw [List.zip_nil_right, List.zip_nil_right]
  | cons a given ih =>
    obtain ⟨count, rfl⟩ := Nat.exists_eq_add_one.mpr (Nat.zero_lt_of_lt h)
    cases l with
    | nil => rfl
    | cons b l =>
      rw [List.take_succ_cons, List.zip_cons_cons, List.zip_cons_cons,
        ih l (Nat.le_of_succ_le_succ h)]

/-- The lengths that are given are found by their symbols. -/
theorem map_lookup_eq_codeLengths {given : List Nat} (h : given.length ≤ 19) :
    ((List.range 19).map fun symbol ↦
      (((lengthOrder.take given.length).zip given).lookup symbol).getD 0) = codeLengths given := by
  have horder : (lengthOrder.take given.length).zip given = orderOfLengths.zip given :=
    zip_take orderOfLengths (Nat.le_refl _)
  rw [codeLengths, horder]
  refine List.map_congr_left fun symbol _ ↦ ?_
  rw [lookup_zip h, List.getD_eq_getElem?_getD]

@[simp] theorem length_codeLengths (given : List Nat) : (codeLengths given).length = 19 := by
  rw [codeLengths, List.length_map, List.length_range]

/-- The codes that a block gives are taken. -/
theorem takeCodes_eq_ok_iff {input input' : BitInput} {codes : PrefixCode × PrefixCode} :
    takeCodes input = .ok (codes, input') ↔
      ∃ main distances, GivesCodes .reader input.toBits main distances input'.toBits ∧
        codes = (.ofLengths main, .ofLengths distances) := by
  have hmainLimit : mainLimit = 286 := rfl
  have hdistanceLimit : distanceLimit = 30 := rfl
  rw [takeCodes, hmainLimit, hdistanceLimit]
  simp only [bind_eq_ok_iff, Prod.exists, takeNumber_eq_ok_iff]
  constructor
  · rintro ⟨m, mid₁, hm, d, mid₂, hd, l, mid₃, hl, h⟩
    split at h
    · cases h
    · next hlimits =>
      have hlt : l < 16 := hl.lt
      simp only [bind_eq_ok_iff, Prod.exists, takeLengthLengths_eq_ok_iff,
        length_take_lengthOrder hlt] at h
      obtain ⟨_, mid₄, ⟨given, hgiven, hcount, rfl⟩, h⟩ := h
      rw [← hcount, map_lookup_eq_codeLengths (by omega)] at h
      split at h
      · cases h
      · next hcomplete =>
        simp only [bind_eq_ok_iff, Prod.exists,
          takeLengths_nil_eq_ok_iff (length_codeLengths given)] at h
        obtain ⟨lengths, mid₅, ⟨hlengths, hlength⟩, h⟩ := h
        split at h
        · next husable =>
          cases h
          rw [Bool.and_eq_true, isUsable_ofLengths_iff, isUsable_ofLengths_iff] at husable
          have hsplit := List.take_append_drop (m + 257) lengths
          refine ⟨lengths.take (m + 257), lengths.drop (m + 257), .intro hm hd hl (by omega)
            (Nat.le_of_not_lt fun hgt ↦ hlimits (.inr hgt)) hgiven hcount
            (isComplete_ofLengths_iff.mp (by simpa using hcomplete)) (hsplit.symm ▸ hlengths) ?_ ?_
            husable.1 husable.2, rfl⟩
          · rw [List.length_take]
            omega
          · rw [List.length_drop]
            omega
        · cases h
  · rintro ⟨main, distances, h, rfl⟩
    obtain @⟨m, d, l, given, bits₁, bits₂, bits₃, bits₄, hm, hd, hl, hmain, hdistance, hgiven,
      hcount, hcomplete, hlengths, hmainCount, hdistanceCount, hmainUsable, hdistanceUsable⟩ := h
    obtain ⟨mid₁, rfl⟩ := BitInput.exists_toBits bits₁
    obtain ⟨mid₂, rfl⟩ := BitInput.exists_toBits bits₂
    obtain ⟨mid₃, rfl⟩ := BitInput.exists_toBits bits₃
    obtain ⟨mid₄, rfl⟩ := BitInput.exists_toBits bits₄
    have hlt : l < 16 := hl.lt
    have hdistance' : d + 1 ≤ 30 := hdistance
    refine ⟨m, mid₁, hm, d, mid₂, hd, l, mid₃, hl, ?_⟩
    rw [if_neg (by omega)]
    simp only [bind_eq_ok_iff, Prod.exists, takeLengthLengths_eq_ok_iff,
      length_take_lengthOrder hlt]
    refine ⟨_, mid₄, ⟨given, hgiven, hcount, rfl⟩, ?_⟩
    rw [← hcount, map_lookup_eq_codeLengths (by omega),
      if_neg (by simpa using isComplete_ofLengths_iff.mpr hcomplete)]
    simp only [bind_eq_ok_iff, Prod.exists, takeLengths_nil_eq_ok_iff (length_codeLengths given)]
    refine ⟨main ++ distances, input', ⟨hlengths, ?_⟩, ?_⟩
    · rw [List.length_append, hmainCount, hdistanceCount]
    · rw [List.take_left' hmainCount, List.drop_left' hmainCount,
        isUsable_ofLengths_iff.mpr hmainUsable, isUsable_ofLengths_iff.mpr hdistanceUsable]
      rfl

/-! ## Bits that are taken, and what they leave open -/

theorem Numbers.length_le {count : Nat} {numbers : List Nat} {bits rest : List Bool}
    (h : Numbers count numbers bits rest) : rest.length ≤ bits.length := by
  induction numbers generalizing bits with
  | nil => exact Nat.le_of_eq (congrArg List.length h).symm
  | cons n numbers ih =>
    obtain ⟨mid, hfirst, hrest⟩ := h
    have hmid := hfirst.length_eq
    have hle := ih hrest
    omega

theorem Numbers.unique {count : Nat} {numbers numbers' : List Nat} {bits rest rest' : List Bool}
    (h : Numbers count numbers bits rest) (h' : Numbers count numbers' bits rest')
    (hlength : numbers.length = numbers'.length) : numbers = numbers' ∧ rest = rest' := by
  induction numbers generalizing numbers' bits with
  | nil =>
    obtain rfl := List.length_eq_zero_iff.mp hlength.symm
    exact ⟨rfl, Eq.trans (Eq.symm h) h'⟩
  | cons n numbers ih =>
    obtain ⟨n', numbers', rfl⟩ := List.exists_cons_of_length_eq_add_one hlength.symm
    obtain ⟨mid, hfirst, hrest⟩ := h
    obtain ⟨mid', hfirst', hrest'⟩ := h'
    obtain ⟨rfl, rfl⟩ := hfirst.unique hfirst'
    obtain ⟨rfl, hend⟩ := ih hrest hrest' (Nat.succ.inj hlength)
    exact ⟨rfl, hend⟩

theorem GivesLengths.length_le {codeLengths lengths : List Nat} {previous : Option Nat}
    {bits rest : List Bool} (h : GivesLengths codeLengths previous bits lengths rest) :
    rest.length ≤ bits.length := by
  induction h with
  | done => exact Nat.le_refl _
  | entry head _ ih => exact Nat.le_trans ih (Nat.le_of_lt head.length_lt)

theorem GivesCodes.length_le {d : Dialect} {main distances : List Nat} {bits rest : List Bool}
    (h : GivesCodes d bits main distances rest) : rest.length ≤ bits.length := by
  obtain ⟨hm, hd, hl, -, -, hgiven, -, -, hlengths, -⟩ := h
  have h₁ := hm.length_eq
  have h₂ := hd.length_eq
  have h₃ := hl.length_eq
  have h₄ := hgiven.length_le
  have h₅ := hlengths.length_le
  omega

/-- As many lengths are given in one way only. -/
theorem GivesLengths.unique {codeLengths lengths lengths' : List Nat} {bits rest rest' : List Bool}
    (hcode : codeLengths.length = 19) (h : GivesLengths codeLengths none bits lengths rest)
    (h' : GivesLengths codeLengths none bits lengths' rest')
    (hlength : lengths.length = lengths'.length) : lengths = lengths' ∧ rest = rest' := by
  obtain ⟨input, rfl⟩ := BitInput.exists_toBits bits
  obtain ⟨input₁, rfl⟩ := BitInput.exists_toBits rest
  obtain ⟨input₂, rfl⟩ := BitInput.exists_toBits rest'
  have htaken := (takeLengths_nil_eq_ok_iff hcode).mpr ⟨h, hlength⟩
  have htaken' := (takeLengths_nil_eq_ok_iff hcode).mpr ⟨h', rfl⟩
  cases htaken.symm.trans htaken'
  exact ⟨rfl, rfl⟩

/-- A block gives one pair of codes. -/
theorem GivesCodes.unique {d : Dialect} {main distances main' distances' : List Nat}
    {bits rest rest' : List Bool} (h : GivesCodes d bits main distances rest)
    (h' : GivesCodes d bits main' distances' rest') :
    main = main' ∧ distances = distances' ∧ rest = rest' := by
  obtain ⟨hm, hd, hl, -, -, hgiven, hcount, -, hlengths, hmain, hdistances, -⟩ := h
  obtain ⟨hm', hd', hl', -, -, hgiven', hcount', -, hlengths', hmain', hdistances', -⟩ := h'
  obtain ⟨rfl, rfl⟩ := hm.unique hm'
  obtain ⟨rfl, rfl⟩ := hd.unique hd'
  obtain ⟨rfl, rfl⟩ := hl.unique hl'
  obtain ⟨rfl, rfl⟩ := hgiven.unique hgiven' (hcount.trans hcount'.symm)
  obtain ⟨hlists, hrest⟩ := hlengths.unique (length_codeLengths _) hlengths' (by
    rw [List.length_append, List.length_append, hmain, hmain', hdistances, hdistances'])
  obtain ⟨hfirst, hsecond⟩ := List.append_inj hlists (hmain.trans hmain'.symm)
  exact ⟨hfirst, hsecond, hrest⟩

/-- A piece is found in one way. -/
theorem YieldsPiece.unique {main distances : List Nat} {bits rest rest' : List Bool}
    {piece piece' : Piece} (h : YieldsPiece main distances bits piece rest)
    (h' : YieldsPiece main distances bits piece' rest') : piece = piece' ∧ rest = rest' := by
  obtain ⟨input, rfl⟩ := BitInput.exists_toBits bits
  obtain ⟨input₁, rfl⟩ := BitInput.exists_toBits rest
  obtain ⟨input₂, rfl⟩ := BitInput.exists_toBits rest'
  cases (takePiece_eq_ok_iff.mpr h).symm.trans (takePiece_eq_ok_iff.mpr h')
  exact ⟨rfl, rfl⟩

theorem YieldsPiece.length_lt {main distances : List Nat} {bits rest : List Bool} {piece : Piece}
    (h : YieldsPiece main distances bits piece rest) : rest.length < bits.length := by
  cases piece with
  | byte b =>
    obtain ⟨symbol, hreads, -⟩ := h
    exact hreads.length_lt
  | blockEnd => exact Reads.length_lt h
  | copy length distance =>
    obtain ⟨hreads, -, hmore, -, hreads', -, hmore', -⟩ := h
    have h₁ := hreads.length_lt
    have h₂ := hmore.length_eq
    have h₃ := hreads'.length_lt
    have h₄ := hmore'.length_eq
    omega

end TenantView.Gzip
