import TenantView.Proofs.Gzip.BlockCodes

/-!
# Inflating step by step

A step of inflating leaves nothing open (`Step.unique`), and the inflater goes on as long as there
is one: it succeeds exactly where the steps lead to the end (`inflate_eq_ok_iff`), and what it has
put out at a fault has been inflated step by step all the same (`steps_of_inflate`).
-/

namespace TenantView.Gzip

/-! ## Copies -/

theorem GivesCopy.distance_pos {main distances : List Nat} {bits rest : List Bool}
    {length distance : Nat} (h : GivesCopy main distances bits length distance rest) :
    0 < distance := by
  obtain ⟨-, -, -, -, -, -, -, rfl⟩ := h
  rw [leastDistance]
  omega

/-- Byte by byte the inflater makes a copy. -/
theorem isCopy_copyBack {distance : Nat} (hdistance : 0 < distance) (length : Nat)
    (output : Array UInt8) :
    IsCopy .reader length distance output.toList (copyBack distance length output).toList := by
  induction length generalizing output with
  | zero =>
    refine ⟨nofun, rfl, fun _ _ ↦ rfl, fun i hi hge ↦ ?_⟩
    exact absurd hi (Nat.not_lt.mpr hge)
  | succ length ih =>
    obtain ⟨b, hb⟩ : ∃ b,
        (if distance ≤ output.size then output.getD (output.size - distance) 0 else 0) = b :=
      ⟨_, rfl⟩
    have hcopy : copyBack distance (length + 1) output =
        copyBack distance length (output.push b) := by
      rw [copyBack, hb]
    obtain ⟨-, hlength, hold, hnew⟩ := ih (output.push b)
    rw [← hcopy] at hlength hold hnew
    rw [Array.toList_push] at hold hnew hlength
    have hkept : ∀ i < output.toList.length,
        (copyBack distance (length + 1) output).toList[i]? = output.toList[i]? := by
      intro i hi
      rw [hold i (by rw [List.length_append]; omega), List.getElem?_append_left hi]
    rw [List.length_append, List.length_singleton] at hlength hold hnew
    refine ⟨nofun, by omega, hkept, fun i hi hge ↦ ?_⟩
    rcases Nat.eq_or_lt_of_le hge with rfl | hgt
    · -- the first new byte, which the inflater finds in the old output
      rw [hold _ (Nat.lt_succ_self _), List.getElem?_concat_length, ← hb, Array.length_toList]
      split
      · next hle =>
        have hlt : output.size - distance < output.size := by omega
        rw [hkept _ (by simpa using hlt)]
        simp [Array.getD, hlt]
      · rfl
    · exact hnew i hi hgt

/-- A copy leaves nothing open. -/
theorem IsCopy.unique {d : Dialect} {length distance : Nat} {output first second : Bytes}
    (hdistance : 0 < distance) (h : IsCopy d length distance output first)
    (h' : IsCopy d length distance output second) : first = second := by
  have hlength : first.length = second.length := h.length_eq.trans h'.length_eq.symm
  refine List.ext_getElem? fun i ↦ ?_
  induction i using Nat.strong_induction_on with
  | _ i ih =>
    by_cases hold : i < output.length
    · rw [h.old i hold, h'.old i hold]
    · by_cases hi : i < first.length
      · rw [h.new i hi (Nat.le_of_not_lt hold), h'.new i (hlength ▸ hi) (Nat.le_of_not_lt hold)]
        split
        · exact ih _ (by omega)
        · rfl
      · rw [List.getElem?_eq_none (Nat.le_of_not_lt hi),
          List.getElem?_eq_none (hlength ▸ Nat.le_of_not_lt hi)]

/-! ## Steps -/

variable {d : Dialect}

theorem length_wholeBytes_le (bits : List Bool) : (wholeBytes bits).length ≤ bits.length := by
  rw [wholeBytes, List.length_drop]
  omega

theorem State.length_bits_behind_le (isLast : Bool) (bits : List Bool) (output : Bytes) :
    (State.behind isLast bits output).bits.length ≤ bits.length := by
  cases isLast with
  | true => exact length_wholeBytes_le bits
  | false => exact Nat.le_refl _

/-- A step takes no bits back, and the opening of a block takes some. -/
theorem Step.length_le {s t : State} (h : Step d s t) :
    t.bits.length ≤ s.bits.length ∧
      ∀ bits output, s = .start bits output → t.bits.length < s.bits.length := by
  cases h with
  | @openStored isLast count bits mid rest output hgiven hcomplement =>
    have hwhole := length_wholeBytes_le bits
    have hmid := hgiven.length_eq
    have hrest := hcomplement.length_eq
    have hlt : rest.length < (isLast :: false :: false :: bits).length := by
      simp only [List.length_cons]
      omega
    exact ⟨Nat.le_of_lt hlt, fun _ _ _ ↦ hlt⟩
  | @storedByte isLast count b bits output =>
    refine ⟨?_, by rintro _ _ ⟨⟩⟩
    change bits.length ≤ (bitsOfByte b ++ bits).length
    rw [List.length_append]
    exact Nat.le_add_left _ _
  | storedEnd => exact ⟨State.length_bits_behind_le _ _ _, by rintro _ _ ⟨⟩⟩
  | @openFixed isLast bits output =>
    have hlt : bits.length < (isLast :: true :: false :: bits).length := by
      simp only [List.length_cons]
      omega
    exact ⟨Nat.le_of_lt hlt, fun _ _ _ ↦ hlt⟩
  | @openGiven isLast main distances bits rest output hcodes =>
    have hle := hcodes.length_le
    have hlt : rest.length < (isLast :: false :: true :: bits).length := by
      simp only [List.length_cons]
      omega
    exact ⟨Nat.le_of_lt hlt, fun _ _ _ ↦ hlt⟩
  | byte hreads _ => exact ⟨Nat.le_of_lt hreads.length_lt, by rintro _ _ ⟨⟩⟩
  | @copy isLast main distances length distance bits rest output output' hgives _ =>
    have hpiece : YieldsPiece main distances bits (.copy length distance) rest := hgives
    exact ⟨Nat.le_of_lt hpiece.length_lt, by rintro _ _ ⟨⟩⟩
  | codedEnd hreads =>
    exact ⟨Nat.le_trans (State.length_bits_behind_le _ _ _) (Nat.le_of_lt hreads.length_lt),
      by rintro _ _ ⟨⟩⟩

/-- Within a stored block a step takes a byte, up to the end of the block. -/
theorem step_stored_iff {isLast : Bool} {count : Nat} {bits : List Bool} {output : Bytes}
    {t : State} :
    Step d (.stored isLast count bits output) t ↔
      (count = 0 ∧ t = .behind isLast bits output) ∨
        ∃ more b rest, count = more + 1 ∧ bits = bitsOfByte b ++ rest ∧
          t = .stored isLast more rest (output ++ [b]) := by
  constructor
  · intro h
    cases h with
    | storedByte => exact .inr ⟨_, _, _, rfl, rfl, rfl⟩
    | storedEnd => exact .inl ⟨rfl, rfl⟩
  · rintro (⟨rfl, rfl⟩ | ⟨more, b, rest, rfl, rfl, rfl⟩)
    · exact .storedEnd
    · exact .storedByte

/-- What a piece makes of the output. -/
inductive PutsOut (d : Dialect) (output : Bytes) : Piece → Bytes → Prop
  | byte (b : UInt8) : PutsOut d output (.byte b) (output ++ [b])
  | copy {length distance : Nat} {output' : Bytes}
      (copies : IsCopy d length distance output output') :
      PutsOut d output (.copy length distance) output'

/-- Within a coded block a step takes a piece: it puts something out, or the block ends. -/
theorem step_coded_iff {isLast : Bool} {main distances : List Nat} {bits : List Bool}
    {output : Bytes} {t : State} :
    Step d (.coded isLast main distances bits output) t ↔
      ∃ piece rest, YieldsPiece main distances bits piece rest ∧
        ((piece = .blockEnd ∧ t = .behind isLast rest output) ∨
          ∃ output', PutsOut d output piece output' ∧
            t = .coded isLast main distances rest output') := by
  constructor
  · intro h
    cases h with
    | byte hreads hlt => exact ⟨.byte _, _, ⟨_, hreads, hlt, rfl⟩, .inr ⟨_, .byte _, rfl⟩⟩
    | copy hgives hcopies => exact ⟨.copy _ _, _, hgives, .inr ⟨_, .copy hcopies, rfl⟩⟩
    | codedEnd hreads => exact ⟨.blockEnd, _, hreads, .inl ⟨rfl, rfl⟩⟩
  · rintro ⟨piece, rest, hpiece, ⟨rfl, rfl⟩ | ⟨output', hputs, rfl⟩⟩
    · exact .codedEnd hpiece
    · cases hputs with
      | byte b =>
        obtain ⟨symbol, hreads, hlt, rfl⟩ := hpiece
        exact .byte hreads hlt
      | copy hcopies => exact .copy hpiece hcopies

theorem PutsOut.unique {main distances : List Nat} {bits rest : List Bool} {piece : Piece}
    {output first second : Bytes} (hpiece : YieldsPiece main distances bits piece rest)
    (h : PutsOut d output piece first) (h' : PutsOut d output piece second) : first = second := by
  cases h with
  | byte => cases h'; rfl
  | copy hcopies =>
    cases h' with
    | copy hcopies' => exact hcopies.unique (GivesCopy.distance_pos hpiece) hcopies'

/-- Nothing is left open about a step. -/
theorem Step.unique {s t t' : State} (h : Step d s t) (h' : Step d s t') : t = t' := by
  cases s with
  | start bits output =>
    cases h with
    | openStored hgiven hcomplement =>
      cases h' with
      | openStored hgiven' hcomplement' =>
        obtain ⟨rfl, rfl⟩ := hgiven.unique hgiven'
        obtain ⟨-, rfl⟩ := hcomplement.unique hcomplement'
        rfl
    | openFixed =>
      cases h'
      rfl
    | openGiven hcodes =>
      cases h' with
      | openGiven hcodes' =>
        obtain ⟨rfl, rfl, rfl⟩ := hcodes.unique hcodes'
        rfl
  | stored isLast count bits output =>
    rcases step_stored_iff.mp h with ⟨rfl, rfl⟩ | ⟨more, b, rest, rfl, rfl, rfl⟩ <;>
      rcases step_stored_iff.mp h' with ⟨hcount, rfl⟩ | ⟨more', b', rest', hcount, hbits, rfl⟩
    · rfl
    · cases hcount
    · cases hcount
    · cases hcount
      obtain ⟨rfl, rfl⟩ := append_bitsOf_inj hbits
      rfl
  | coded isLast main distances bits output =>
    obtain ⟨piece, rest, hpiece, hputs⟩ := step_coded_iff.mp h
    obtain ⟨piece', rest', hpiece', hputs'⟩ := step_coded_iff.mp h'
    obtain ⟨rfl, rfl⟩ := hpiece.unique hpiece'
    rcases hputs with ⟨rfl, rfl⟩ | ⟨output₁, hputs, rfl⟩ <;>
      rcases hputs' with ⟨heq, rfl⟩ | ⟨output₂, hputs', rfl⟩
    · rfl
    · cases hputs'
    · subst heq
      cases hputs
    · rw [hputs.unique hpiece hputs']
  | finished => cases h

theorem length_le_of_steps {s t : State} (h : Steps d s t) : t.bits.length ≤ s.bits.length := by
  induction h with
  | refl => exact Nat.le_refl _
  | tail _ hstep ih => exact Nat.le_trans hstep.length_le.1 ih

/-- The steps from a state end in one place at most. -/
theorem end_unique {s t u : State} (ht : Steps d s t) (hu : Steps d s u)
    (htlast : ∀ v, ¬ Step d t v) (hulast : ∀ v, ¬ Step d u v) : t = u := by
  have hends : ∀ {a b}, Steps d a b → (∀ v, ¬ Step d a v) → a = b := by
    intro a b hab ha
    rcases hab.cases_head with heq | ⟨v, hv, -⟩
    · exact heq
    · exact absurd hv (ha v)
  rcases Relation.ReflTransGen.total_of_right_unique (fun _ _ _ h h' ↦ h.unique h') ht hu with
    htu | hut
  · exact hends htu htlast
  · exact (hends hut hulast).symm

/-! ## Following the steps -/

/-- No step is possible, although the last block has not ended. -/
def Stuck (s : State) : Prop :=
  (∀ t, ¬ Step .reader s t) ∧ ∀ rest output, s ≠ .finished rest output

/-- Nothing is finished where a block is still to be opened. -/
theorem stuck_of_no_step {bits : List Bool} {output : Bytes}
    (h : ∀ t, ¬ Step .reader (.start bits output) t) : Stuck (.start bits output) := by
  refine ⟨h, fun rest output' heq ↦ ?_⟩
  cases heq

/-- A computation follows the steps from a state: it succeeds where they get to, and fails where
they are stuck. -/
def Follows {α : Type} (s : State) (goal : α → Bytes → State) (x : Inflating α) : Prop :=
  match x with
  | (output, .ok a) => Steps .reader s (goal a output.toList)
  | (output, .error _) => ∃ t, Steps .reader s t ∧ t.output = output.toList ∧ Stuck t

section Follows

variable {α : Type} {s t : State} {goal : α → Bytes → State} {x : Inflating α}

theorem Follows.of_steps (h : Steps .reader s t) (hx : Follows t goal x) : Follows s goal x := by
  obtain ⟨output, result⟩ := x
  cases result with
  | ok a => exact h.trans hx
  | error fault =>
    obtain ⟨u, hu, houtput, hstuck⟩ := hx
    exact ⟨u, h.trans hu, houtput, hstuck⟩

theorem Follows.of_step (h : Step .reader s t) (hx : Follows t goal x) : Follows s goal x :=
  hx.of_steps (.single h)

theorem Stuck.follows (h : Stuck s) {output : Array UInt8} (houtput : s.output = output.toList)
    (fault : DataFault) : Follows s goal (output, .error fault) :=
  ⟨s, .refl, houtput, h⟩

theorem Follows.map {β : Type} {goal : β → Bytes → State} {f : α → β}
    (hx : Follows s (fun a ↦ goal (f a)) x) : Follows s goal (x.1, x.2.map f) := by
  obtain ⟨output, result⟩ := x
  cases result <;> exact hx

end Follows

/-! ## The inflater follows the steps -/

theorem storeBytes_follows (isLast : Bool) (count : Nat) (bytes : Bytes) (output : Array UInt8) :
    Follows (.stored isLast count (bitsOf bytes) output.toList)
      (fun rest output ↦ .behind isLast (bitsOf rest) output) (storeBytes count bytes output) := by
  induction count generalizing bytes output with
  | zero => exact .single .storedEnd
  | succ count ih =>
    cases bytes with
    | nil =>
      refine Stuck.follows (s := .stored isLast (count + 1) [] output.toList) ⟨fun t ht ↦ ?_, nofun⟩
        rfl .truncated
      rcases step_stored_iff.mp ht with ⟨hcount, -⟩ | ⟨more, b, rest, -, hbits, -⟩
      · cases hcount
      · have hlength := congrArg List.length hbits
        rw [List.length_append, length_bitsOfByte, List.length_nil] at hlength
        omega
    | cons b bytes =>
      refine Follows.of_step .storedByte ?_
      rw [← Array.toList_push]
      exact ih bytes (output.push b)

theorem stuck_coded {isLast : Bool} {main distances : List Nat} {input : BitInput} {output : Bytes}
    {fault : DataFault}
    (h : takePiece (.ofLengths main) (.ofLengths distances) input = .error fault) :
    Stuck (.coded isLast main distances input.toBits output) := by
  refine ⟨fun t ht ↦ ?_, nofun⟩
  obtain ⟨piece, rest, hpiece, -⟩ := step_coded_iff.mp ht
  obtain ⟨input', rfl⟩ := BitInput.exists_toBits rest
  cases h.symm.trans (takePiece_eq_ok_iff.mpr hpiece)

theorem inflatePieces_follows (isLast : Bool) (main distances : List Nat) {rounds : Nat}
    {input : BitInput} (hrounds : input.toBits.length ≤ rounds) (output : Array UInt8) :
    Follows (.coded isLast main distances input.toBits output.toList)
      (fun input ↦ .behind isLast input.toBits)
      (inflatePieces (.ofLengths main) (.ofLengths distances) rounds input output) := by
  induction rounds generalizing input output with
  | zero =>
    refine Stuck.follows (s := .coded isLast main distances input.toBits output.toList)
      ⟨fun t ht ↦ ?_, nofun⟩ rfl .truncated
    obtain ⟨piece, rest, hpiece, -⟩ := step_coded_iff.mp ht
    exact absurd (Nat.lt_of_lt_of_le hpiece.length_lt hrounds) (Nat.not_lt_zero _)
  | succ rounds ih =>
    rw [inflatePieces]
    cases htake : takePiece (.ofLengths main) (.ofLengths distances) input with
    | error fault => exact (stuck_coded htake).follows rfl fault
    | ok taken =>
      obtain ⟨piece, mid⟩ := taken
      have hpiece := takePiece_eq_ok_iff.mp htake
      have hmid : mid.toBits.length ≤ rounds :=
        Nat.le_of_lt_succ (Nat.lt_of_lt_of_le hpiece.length_lt hrounds)
      cases piece with
      | byte b =>
        refine Follows.of_step (step_coded_iff.mpr ⟨_, _, hpiece, .inr ⟨_, .byte b, rfl⟩⟩) ?_
        rw [← Array.toList_push]
        exact ih hmid (output.push b)
      | copy length distance =>
        have hcopy := isCopy_copyBack (GivesCopy.distance_pos hpiece) length output
        exact (ih hmid _).of_step (.copy hpiece hcopy)
      | blockEnd => exact .single (.codedEnd hpiece)

/-- A block is opened and then followed to its end, or it cannot be opened. -/
def OpensBlock (bits : List Bool) (output : Array UInt8) (isLast : Bool)
    (x : Inflating BitInput) : Prop :=
  (∃ t, Step .reader (.start bits output.toList) t ∧
    Follows t (fun input ↦ .behind isLast input.toBits) x) ∨
    (∃ fault, x = (output, .error fault) ∧ Stuck (.start bits output.toList))

theorem inflateStored_opensBlock (isLast : Bool) (input : BitInput) (output : Array UInt8) :
    OpensBlock (isLast :: false :: false :: input.toBits) output isLast
      (inflateStored input.dropCurrent output) := by
  have hbytes : input.dropCurrent.bytes = input.bytes := rfl
  have hwhole : wholeBytes input.toBits = bitsOf input.bytes := input.bitsOf_bytes.symm
  have hstuck (h : ∀ a b c d bytes, input.bytes = a :: b :: c :: d :: bytes →
      a.toNat + 256 * b.toNat + (c.toNat + 256 * d.toNat) ≠ 0xffff) :
      Stuck (.start (isLast :: false :: false :: input.toBits) output.toList) := by
    refine stuck_of_no_step fun t ht ↦ ?_
    cases ht with
    | openStored hgiven hcomplement =>
      rw [hwhole, number_bitsOf_iff] at hgiven
      obtain ⟨a, b, behind, hfront, rfl, rfl⟩ := hgiven
      obtain ⟨c, d, bytes, rfl, hsum, -⟩ := number_bitsOf_iff.mp hcomplement
      have ha := a.toNat_lt
      have hb := b.toNat_lt
      exact h a b c d bytes hfront (by omega)
  rw [inflateStored, hbytes]
  split
  · next a b c d bytes hfront =>
    simp only
    split
    · next hcomplement =>
      have hgiven : Number 16 (a.toNat + 256 * b.toNat) (wholeBytes input.toBits)
          (bitsOf (c :: d :: bytes)) := by
        rw [hwhole, hfront, number_bitsOf_iff]
        exact ⟨a, b, _, rfl, rfl, rfl⟩
      have hrest : Number 16 (0xffff - (a.toNat + 256 * b.toNat)) (bitsOf (c :: d :: bytes))
          (bitsOf bytes) :=
        number_bitsOf_iff.mpr ⟨c, d, bytes, rfl, by omega, rfl⟩
      refine .inl ⟨_, .openStored hgiven hrest, Follows.map ?_⟩
      exact storeBytes_follows isLast _ bytes output
    · next hcomplement =>
      refine .inr ⟨.corrupt, rfl, hstuck fun a' b' c' d' bytes' h ↦ ?_⟩
      cases hfront.symm.trans h
      exact hcomplement
  · next hshort => exact .inr ⟨.truncated, rfl, hstuck fun a b c d bytes h ↦
      absurd h (hshort a b c d bytes)⟩

/-- Bits that do not begin with three bits open no block. -/
theorem stuck_start {bits : List Bool} (h : ∀ isLast low high rest,
    bits ≠ isLast :: low :: high :: rest) (output : Bytes) : Stuck (.start bits output) := by
  refine stuck_of_no_step fun t ht ↦ ?_
  cases ht with
  | openStored | openFixed | openGiven => exact h _ _ _ _ rfl

theorem given_opensBlock (isLast : Bool) (input : BitInput) (output : Array UInt8) :
    OpensBlock (isLast :: false :: true :: input.toBits) output isLast
      (match takeCodes input with
      | .error fault => (output, .error fault)
      | .ok ((main, distances), input) =>
        inflatePieces main distances input.bound input output) := by
  cases hcodes : takeCodes input with
  | error fault =>
    refine .inr ⟨fault, rfl, stuck_of_no_step fun t ht ↦ ?_⟩
    cases ht with
    | @openGiven _ main distances _ rest _ hgives =>
      obtain ⟨input', rfl⟩ := BitInput.exists_toBits rest
      cases hcodes.symm.trans (takeCodes_eq_ok_iff.mpr ⟨main, distances, hgives, rfl⟩)
  | ok taken =>
    obtain ⟨codes, input'⟩ := taken
    obtain ⟨main, distances, hgives, rfl⟩ := takeCodes_eq_ok_iff.mp hcodes
    exact .inl ⟨_, .openGiven hgives,
      inflatePieces_follows isLast main distances (Nat.le_of_eq input'.bound_eq.symm) output⟩

theorem inflateBlock_opensBlock (isLast : Bool) (input : BitInput) (output : Array UInt8) :
    OpensBlock (isLast :: input.toBits) output isLast (inflateBlock input output) := by
  rw [inflateBlock]
  cases hnumber : takeNumber 2 input with
  | error fault =>
    refine .inr ⟨fault, rfl, stuck_start (fun isLast' low high rest h ↦ ?_) _⟩
    obtain ⟨-, hbits⟩ := List.cons.inj h
    obtain ⟨input', rfl⟩ := BitInput.exists_toBits rest
    cases hnumber.symm.trans
      (takeNumber_eq_ok_iff.mpr (number_two_iff.mpr ⟨low, high, hbits, rfl⟩))
  | ok taken =>
    obtain ⟨kind, mid⟩ := taken
    obtain ⟨low, high, hbits, rfl⟩ := number_two_iff.mp (takeNumber_eq_ok_iff.mp hnumber)
    rw [hbits]
    cases low <;> cases high
    · exact inflateStored_opensBlock isLast mid output
    · exact given_opensBlock isLast mid output
    · exact .inl ⟨_, .openFixed, inflatePieces_follows isLast fixedMainLengths
        fixedDistanceLengths (Nat.le_of_eq mid.bound_eq.symm) output⟩
    · refine .inr ⟨.corrupt, rfl, stuck_of_no_step fun t ht ↦ ?_⟩
      cases ht

theorem inflateBlocks_follows {rounds : Nat} {input : BitInput}
    (hrounds : input.toBits.length ≤ rounds) (output : Array UInt8) :
    Follows (.start input.toBits output.toList) (fun rest ↦ .finished (bitsOf rest))
      (inflateBlocks rounds input output) := by
  have hempty (h : input.toBits = []) : Stuck (.start input.toBits output.toList) :=
    stuck_start (fun _ _ _ _ heq ↦ by cases h.symm.trans heq) _
  induction rounds generalizing input output with
  | zero =>
    have hnil := List.length_eq_zero_iff.mp (Nat.le_zero.mp hrounds)
    exact (hempty hnil).follows rfl .truncated
  | succ rounds ih =>
    rw [inflateBlocks]
    cases hnext : input.next with
    | none => exact (hempty (BitInput.next_eq_none_iff.mp hnext)).follows rfl .truncated
    | some taken =>
      obtain ⟨isLast, mid⟩ := taken
      have hbits := BitInput.toBits_of_next hnext
      simp only
      rw [hbits]
      rcases inflateBlock_opensBlock isLast mid output with ⟨t, hstep, hblock⟩ |
        ⟨fault, heq, hstuck⟩
      · generalize inflateBlock mid output = x at hblock
        obtain ⟨output', result⟩ := x
        cases result with
        | error fault => exact hblock.of_step hstep
        | ok input' =>
          have hsteps : Steps .reader t (.behind isLast input'.toBits output'.toList) := hblock
          simp only
          cases isLast with
          | true =>
            have hwhole : wholeBytes input'.toBits = bitsOf input'.bytes := input'.bitsOf_bytes.symm
            rw [State.behind, if_pos rfl, hwhole] at hsteps
            exact hsteps.head hstep
          | false =>
            have hopened := hstep.length_le.2 _ _ rfl
            have hended := length_le_of_steps hsteps
            have hless : input'.toBits.length ≤ rounds := by
              rw [hbits] at hrounds
              exact Nat.le_of_lt_succ
                (Nat.lt_of_le_of_lt hended (Nat.lt_of_lt_of_le hopened hrounds))
            exact (ih hless output' fun h ↦ stuck_start (fun _ _ _ _ heq ↦ by
              cases h.symm.trans heq) _).of_steps (hsteps.head hstep)
      · rw [heq]
        exact hstuck.follows rfl fault

theorem inflate_follows (bytes : Bytes) :
    Follows (.start (bitsOf bytes) []) (fun rest ↦ .finished (bitsOf rest)) (inflate bytes) :=
  @inflateBlocks_follows (8 * bytes.length) (.ofBytes bytes)
    (Nat.le_of_eq (length_bitsOf bytes)) #[]

/-- **The inflater yields what the steps lead to.** -/
theorem inflate_eq_ok_iff {bytes rest : Bytes} {output : Array UInt8} :
    inflate bytes = (output, .ok rest) ↔ Inflates .reader bytes output.toList rest := by
  have hfollows := inflate_follows bytes
  constructor
  · intro h
    rwa [h] at hfollows
  · intro h
    have hlast : ∀ {rest output v}, ¬ Step .reader (.finished rest output) v := nofun
    generalize inflate bytes = x at hfollows
    obtain ⟨output', result⟩ := x
    cases result with
    | ok rest' =>
      obtain ⟨hrest, houtput⟩ :=
        State.finished.inj (end_unique hfollows h (fun _ ↦ hlast) fun _ ↦ hlast)
      rw [bitsOf_inj hrest, Array.toList_inj.mp houtput]
    | error fault =>
      obtain ⟨t, ht, -, hstuck, hopen⟩ := hfollows
      exact absurd (end_unique ht h hstuck fun _ ↦ hlast) (hopen _ _)

/-- What is put out up to a fault has been inflated step by step. -/
theorem steps_of_inflate {bytes : Bytes} {output : Array UInt8} {result : Except DataFault Bytes}
    (h : inflate bytes = (output, result)) :
    ∃ t, Steps .reader (.start (bitsOf bytes) []) t ∧ t.output = output.toList := by
  have hfollows := inflate_follows bytes
  rw [h] at hfollows
  cases result with
  | ok rest => exact ⟨_, hfollows, rfl⟩
  | error fault =>
    obtain ⟨t, ht, houtput, -⟩ := hfollows
    exact ⟨t, ht, houtput⟩

theorem Inflates.length_le {bytes output rest : Bytes} (h : Inflates d bytes output rest) :
    rest.length ≤ bytes.length := by
  have hlength : (bitsOf rest).length ≤ (bitsOf bytes).length := length_le_of_steps h
  rw [length_bitsOf, length_bitsOf] at hlength
  omega

end TenantView.Gzip
