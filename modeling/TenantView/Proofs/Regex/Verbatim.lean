import Mathlib.Algebra.GroupWithZero.Nat
import Mathlib.Data.String.Basic
import TenantView.Proofs.Regex.Language
import TenantView.Proofs.Regex.Wrapping

/-!
# Expressions without signs

A pattern without signs is read as the sequence of its characters (`read?_verbatim`).  The language
of a branch is the product of the languages of its parts (`language_concatParts`), so that the only
word of such a sequence is the pattern itself (`language_verbatim`).  The sequence takes a state for
each byte that spells the pattern (`size_verbatim`).
-/

namespace TenantView.Regex

open Text

/-! ## Branches -/

section Branches

variable {parts : List Part}

/-- A branch is the product of its parts. -/
theorem language_concatParts (parts : List Part) :
    (concatParts parts).value.language =
      (parts.reverse.map fun part ↦ part.value.language).prod := by
  have hfoldr : (parts.foldr (fun part regex ↦ .concat regex part.value) Regex.empty).language =
      (parts.reverse.map fun part ↦ part.value.language).prod := by
    induction parts with
    | nil => rfl
    | cons part parts ih =>
      rw [List.foldr_cons, language, ih, List.reverse_cons, List.map_append, List.prod_append,
        List.map_singleton, List.prod_singleton]
  rw [concatParts.eq_def]
  split
  · rfl
  · next part => exact (mul_one part.value.language).symm
  · exact hfoldr

theorem isPlain_concatParts (h : ∀ part ∈ parts, part.value.IsPlain) :
    (concatParts parts).value.IsPlain := by
  have hfoldr :
      (parts.foldr (fun part regex ↦ .concat regex part.value) Regex.empty).IsPlain := by
    induction parts with
    | nil => trivial
    | cons part parts ih =>
      obtain ⟨hpart, hparts⟩ := List.forall_mem_cons.mp h
      exact ⟨ih hparts, hpart⟩
  rw [concatParts.eq_def]
  split
  · trivial
  · next part => exact h part List.mem_cons_self
  · exact hfoldr

/-- A branch takes what its parts take. -/
theorem size_concatParts (parts : List Part) :
    (concatParts parts).value.size = (parts.map fun part ↦ part.value.size).sum := by
  have hfoldr : (parts.foldr (fun part regex ↦ .concat regex part.value) Regex.empty).size =
      (parts.map fun part ↦ part.value.size).sum := by
    induction parts with
    | nil => rfl
    | cons part parts ih =>
      rw [List.foldr_cons, size, ih, List.map_cons, List.sum_cons, Nat.add_comm]
  rw [concatParts.eq_def]
  split
  · rfl
  · next part => exact (Nat.add_zero part.value.size).symm
  · exact hfoldr

/-- A branch of parts in which nothing is nested is nested once at most. -/
theorem depth_concatParts_le (h : ∀ part ∈ parts, part.depth = 0) :
    (concatParts parts).depth ≤ 1 := by
  have hfoldr : parts.foldr (fun part depth ↦ max depth part.depth) 0 = 0 := by
    induction parts with
    | nil => rfl
    | cons part parts ih =>
      obtain ⟨hpart, hparts⟩ := List.forall_mem_cons.mp h
      rw [List.foldr_cons, ih hparts, hpart, Nat.max_self]
  rw [concatParts.eq_def]
  split
  · exact Nat.zero_le 1
  · next part => exact (h part List.mem_cons_self).trans_le (Nat.zero_le 1)
  · exact (congrArg Nat.succ hfoldr).le

end Branches

/-! ## Reading -/

/-- The characters that do not always stand for themselves. -/
def signs : List Char :=
  ['(', ')', '|', '[', '?', '*', '+', '\x7b', '\\', '.', '^', '$']

/-- A part that stands for one character. -/
def verbatimPart (c : Char) : Part where
  value := .set (.singleton c)
  depth := 0

/-- The sequence of some characters. -/
def verbatim (cs : List Char) : Deep Regex :=
  concatParts (cs.map verbatimPart).reverse

/-- The state behind some more characters. -/
def State.pushVerbatim (state : State) (cs : List Char) : State :=
  { state with parts := (cs.map verbatimPart).reverse ++ state.parts }

/-- A character that is no sign is taken as it is. -/
theorem step_of_notMem {c : Char} (h : c ∉ signs) {state : State} (hmodes : state.modes = {})
    (cs : List Char) : step state c cs = some (state.push (verbatimPart c), cs) := by
  rw [step.eq_def]
  split
  case h_13 => rw [hmodes]; rfl
  all_goals exact absurd (by decide) h

/-- Characters that are no signs are taken up to their end. -/
theorem stop_verbatim {rounds cs : List Char} (h : ∀ c ∈ cs, c ∉ signs)
    (hrounds : cs.length ≤ rounds.length) {state : State} (hmodes : state.modes = {}) :
    stop rounds state cs = some (state.pushVerbatim cs, []) := by
  induction cs generalizing rounds state with
  | nil => exact stop_end state.modes.skip_nil rounds
  | cons c cs ih =>
    obtain ⟨hc, hcs⟩ := List.forall_mem_cons.mp h
    obtain ⟨b, rounds, rfl⟩ :=
      List.exists_cons_of_length_pos (Nat.lt_of_lt_of_le (Nat.succ_pos cs.length) hrounds)
    have hsign : state.modes.skip (c :: cs) = c :: cs := by rw [hmodes]; rfl
    have hopen : c ≠ ')' := by
      rintro rfl
      exact hc (by decide)
    rw [stop_sign hsign (.inl hopen), step_of_notMem hc hmodes]
    have hpushed : (state.push (verbatimPart c)).modes = {} := hmodes
    refine (ih hcs (Nat.le_of_succ_le_succ hrounds) hpushed).trans ?_
    simp only [State.pushVerbatim, State.push, List.map_cons, List.reverse_cons,
      List.append_assoc, List.singleton_append]

/-! ## What is described -/

/-- The only word of some characters are the characters. -/
theorem mem_language_verbatim_iff {cs w : List Char} :
    w ∈ (verbatim cs).value.language ↔ w = cs := by
  rw [verbatim, language_concatParts, List.reverse_reverse, List.map_map]
  induction cs generalizing w with
  | nil => exact Iff.rfl
  | cons c cs ih =>
    rw [List.map_cons, List.prod_cons, Language.mem_mul]
    constructor
    · rintro ⟨u, hu, v, hv, rfl⟩
      rw [mem_language_singleton.mp hu, ih.mp hv]
      rfl
    · rintro rfl
      exact ⟨[c], mem_language_singleton.mpr rfl, cs, ih.mpr rfl, rfl⟩

theorem isPlain_verbatim (cs : List Char) : (verbatim cs).value.IsPlain :=
  isPlain_concatParts fun part hpart ↦ by
    obtain ⟨c, -, rfl⟩ := List.mem_map.mp (List.mem_reverse.mp hpart)
    trivial

theorem depth_verbatim_le (cs : List Char) : (verbatim cs).depth ≤ 1 :=
  depth_concatParts_le fun part hpart ↦ by
    obtain ⟨c, -, rfl⟩ := List.mem_map.mp (List.mem_reverse.mp hpart)
    rfl

/-- **Some characters describe a text as a whole if they are its characters.** -/
theorem matches_verbatim_iff {cs text : List Char} :
    Matches text.toArray (verbatim cs).value 0 text.length ↔ text = cs := by
  rw [matches_iff_spans (isPlain_verbatim cs)]
  constructor
  · rintro ⟨w, hw, hfront, hlength⟩
    rw [← mem_language_verbatim_iff.mp hw]
    exact (hfront.eq_of_length (by simpa using hlength)).symm
  · rintro rfl
    exact ⟨text, mem_language_verbatim_iff.mpr rfl, List.prefix_rfl, Nat.zero_add _⟩

/-! ## Size -/

/-- A range of one character is not cut, so that there is one spelling of it. -/
theorem spellings_self (c : Char) :
    ByteRanges.spellings c.toNat c.toNat = [ByteRanges.spelling c.toNat c.toNat] := by
  have hends : ByteRanges.formEnds.find? (fun code ↦ c.toNat ≤ code && code < c.toNat) = none := by
    rw [List.find?_eq_none]
    intro code _
    simp
  have hcut : ByteRanges.cut? c.toNat c.toNat = none := by
    simp [ByteRanges.cut?, hends, ByteRanges.blockCut?]
  have hpieces : ByteRanges.cut ByteRanges.cutFuel c.toNat c.toNat = [(c.toNat, c.toNat)] := by
    rw [ByteRanges.cutFuel, ByteRanges.cut, hcut]
  have hvalid : c.toNat.isValidChar := c.valid
  simp [ByteRanges.spellings, hpieces, hvalid]

theorem length_spelling_self (c : Char) :
    (ByteRanges.spelling c.toNat c.toNat).length = c.utf8Size := by
  have hbytes : (toBytes (String.singleton c)).length = c.utf8Size :=
    String.size_toByteArray.trans String.utf8ByteSize_singleton
  simp only [ByteRanges.spelling, Char.ofNat_toNat, List.length_zip, Nat.min_self, hbytes]

/-- A character takes a state for each of its bytes. -/
theorem size_verbatimPart (c : Char) :
    (verbatimPart c).value.size = c.utf8Size * stateSize := by
  have hranges : (CharSet.singleton c).ranges = [(c.toNat, c.toNat)] := by
    simp [CharSet.singleton, CharSet.ranges, CharSet.edges, rangesOfEdges]
  change rangesSize (CharSet.singleton c).ranges = _
  rw [hranges, rangesSize]
  simp [isSingle, spellings_self, length_spelling_self]

/-- **Some characters take a state for each byte that spells them.** -/
theorem size_verbatim (cs : List Char) :
    (verbatim cs).value.size = (String.ofList cs).utf8ByteSize * stateSize := by
  rw [verbatim, size_concatParts, List.map_reverse, List.sum_reverse, List.map_map,
    String.utf8ByteSize_ofList]
  induction cs with
  | nil => rfl
  | cons c cs ih =>
    rw [List.map_cons, List.sum_cons, ih, Function.comp_apply, size_verbatimPart,
      String.utf8Len_cons, Nat.add_mul, Nat.add_comm]

end TenantView.Regex
