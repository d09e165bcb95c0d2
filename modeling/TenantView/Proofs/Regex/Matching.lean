import Mathlib.Logic.Function.Iterate
import TenantView.Regex.Match

/-!
# What matching finds

From a set of positions `Regex.ends` leads to exactly the positions behind the stretches that
`Regex.Matches` describes (`mem_ends`).  The case with an argument is repetition.  There the
stretches are chains of stretches (`matches_copies_iff`), the positions behind chains of any
length are found by following only those that are new (`mem_spread`), and as no stretch goes
backwards, a chain need not be longer than the text (`Chain.shorten`).
-/

namespace TenantView.Regex

/-! ## Chains -/

/-- Two positions are joined by a chain of the given number of stretches. -/
def Chain (R : Nat → Nat → Prop) : (count : Nat) → Nat → Nat → Prop
  | 0, i, j => i = j
  | count + 1, i, k => ∃ j, R i j ∧ Chain R count j k

namespace Chain

variable {R : Nat → Nat → Prop} {m n i j k : Nat}

theorem append (hm : Chain R m i j) (hn : Chain R n j k) : Chain R (m + n) i k := by
  induction m generalizing i with
  | zero =>
    cases hm
    rwa [Nat.zero_add]
  | succ m ih =>
    obtain ⟨l, hstep, hm⟩ := hm
    rw [Nat.add_right_comm]
    exact ⟨l, hstep, ih hm⟩

theorem split (h : Chain R (m + n) i k) : ∃ j, Chain R m i j ∧ Chain R n j k := by
  induction m generalizing i with
  | zero => exact ⟨i, rfl, Nat.zero_add n ▸ h⟩
  | succ m ih =>
    rw [Nat.add_right_comm] at h
    obtain ⟨l, hstep, h⟩ := h
    obtain ⟨j, hm, hn⟩ := ih h
    exact ⟨j, ⟨l, hstep, hm⟩, hn⟩

/-- A relation that is reflexive and transitive joins the ends of chains of its parts. -/
theorem of_forall {S : Nat → Nat → Prop} (hR : ∀ {a b}, R a b → S a b) (hrefl : ∀ a, S a a)
    (htrans : ∀ {a b c}, S a b → S b c → S a c) (h : Chain R n i j) : S i j := by
  induction n generalizing i with
  | zero =>
    cases h
    exact hrefl _
  | succ n ih =>
    obtain ⟨k, hstep, h⟩ := h
    exact htrans (hR hstep) (ih h)

theorem le (hR : ∀ {a b}, R a b → a ≤ b) (h : Chain R n i j) : i ≤ j :=
  h.of_forall hR Nat.le_refl Nat.le_trans

/-- Stretches that do not go on can be left out of a chain. -/
theorem shorten (hR : ∀ {a b}, R a b → a ≤ b) (h : Chain R n i j) :
    ∃ m, m ≤ j - i ∧ Chain R m i j := by
  induction n generalizing i with
  | zero => exact ⟨0, Nat.zero_le _, h⟩
  | succ n ih =>
    obtain ⟨k, hstep, h⟩ := h
    obtain ⟨m, hm, hchain⟩ := ih h
    by_cases hstays : i = k
    · subst hstays
      exact ⟨m, hm, hchain⟩
    · have hfirst := hR hstep
      have hlast := h.le hR
      exact ⟨m + 1, by omega, k, hstep, hchain⟩

end Chain

/-! ## Stretches -/

/-- A stretch is empty or ends inside the text. -/
def IsStretch (text : Array Char) (i j : Nat) : Prop :=
  i = j ∨ i < j ∧ j ≤ text.size

namespace IsStretch

variable {text : Array Char} {i j k : Nat}

theorem le (h : IsStretch text i j) : i ≤ j := by
  unfold IsStretch at h
  omega

theorem trans (h : IsStretch text i j) (h' : IsStretch text j k) : IsStretch text i k := by
  unfold IsStretch at h h' ⊢
  omega

end IsStretch

theorem lt_size_of_acceptsAt {chars : Text.CharSet} {text : Array Char} {i : Nat}
    (h : acceptsAt chars text i = true) : i < text.size := by
  rcases Nat.lt_or_ge i text.size with hlt | hge
  · exact hlt
  · rw [acceptsAt, Array.getElem?_eq_none hge] at h
    cases h

namespace Matches

variable {text : Array Char}

theorem isStretch {r : Regex} {i j : Nat} (h : Matches text r i j) : IsStretch text i j := by
  induction h with
  | empty | look | noCopy => exact .inl rfl
  | set h => exact .inr ⟨Nat.lt_succ_self _, lt_size_of_acceptsAt h⟩
  | concat _ _ ihr ihs => exact ihr.trans ihs
  | left _ ih | right _ ih => exact ih
  | oneMore _ _ _ ihr ihs => exact ihr.trans ihs

theorem le {r : Regex} {i j : Nat} (h : Matches text r i j) : i ≤ j :=
  h.isStretch.le

theorem empty_iff {i j : Nat} : Matches text .empty i j ↔ i = j := by
  constructor
  · rintro ⟨⟩
    rfl
  · rintro rfl
    exact .empty

theorem set_iff {chars : Text.CharSet} {i j : Nat} :
    Matches text (.set chars) i j ↔ acceptsAt chars text i = true ∧ i + 1 = j := by
  constructor
  · rintro ⟨⟩
    exact ⟨‹_›, rfl⟩
  · rintro ⟨h, rfl⟩
    exact .set h

theorem look_iff {condition : Look} {i j : Nat} :
    Matches text (.look condition) i j ↔ holdsAt condition text i = true ∧ i = j := by
  constructor
  · rintro ⟨⟩
    exact ⟨‹_›, rfl⟩
  · rintro ⟨h, rfl⟩
    exact .look h

theorem concat_iff {r s : Regex} {i k : Nat} :
    Matches text (.concat r s) i k ↔ ∃ j, Matches text r i j ∧ Matches text s j k := by
  constructor
  · rintro ⟨⟩
    exact ⟨_, ‹_›, ‹_›⟩
  · rintro ⟨j, hr, hs⟩
    exact .concat hr hs

theorem either_iff {r s : Regex} {i j : Nat} :
    Matches text (.either r s) i j ↔ Matches text r i j ∨ Matches text s i j := by
  constructor
  · rintro ⟨⟩
    · exact .inl ‹_›
    · exact .inr ‹_›
  · rintro (h | h)
    · exact .left h
    · exact .right h

/-- The stretches of a repetition are chains of an allowed number of stretches. -/
theorem copies_iff {r : Regex} {least : Nat} {most : Option Nat} {i k : Nat} :
    Matches text (.copies r least most) i k ↔
      ∃ count, least ≤ count ∧ (∀ bound ∈ most, count ≤ bound) ∧
        Chain (Matches text r) count i k := by
  constructor
  · intro h
    generalize hcopies : copies r least most = s at h
    induction h generalizing least most with
    | empty | set | look | concat | left | right => cases hcopies
    | noCopy =>
      cases hcopies
      exact ⟨0, Nat.le_refl 0, fun bound _ ↦ Nat.zero_le bound, rfl⟩
    | @oneMore _ _ _ i j k hmost hr hs ihr ihs =>
      cases hcopies
      obtain ⟨count, hleast, hbound, hchain⟩ := ihs rfl
      refine ⟨count + 1, by omega, fun bound hmem ↦ ?_, j, hr, hchain⟩
      have hpred := hbound (bound - 1) (Option.mem_map_of_mem (· - 1) hmem)
      have hpos : bound ≠ 0 := by
        rintro rfl
        exact hmost hmem
      omega
  · rintro ⟨count, hleast, hbound, hchain⟩
    induction count generalizing least most i with
    | zero =>
      cases hchain
      obtain rfl := Nat.le_zero.mp hleast
      exact .noCopy
    | succ count ih =>
      obtain ⟨j, hr, hchain⟩ := hchain
      refine .oneMore ?_ hr (ih (by omega) ?_ hchain)
      · rintro rfl
        exact absurd (hbound 0 rfl) (Nat.not_succ_le_zero count)
      · intro bound hmem
        obtain ⟨whole, hwhole, rfl⟩ := Option.map_eq_some_iff.mp hmem
        have hle := hbound whole hwhole
        omega

end Matches

/-! ## Sets of positions -/

theorem mem_merge (a b : List Nat) (i : Nat) : i ∈ merge a b ↔ i ∈ a ∨ i ∈ b := by
  induction a, b using merge.induct with
  | case1 b => simp [merge]
  | case2 a hne =>
    cases a with
    | nil => exact absurd rfl hne
    | cons x a => simp [merge]
  | case3 x a y b hlt ih =>
    rw [merge, if_pos hlt, List.mem_cons, ih, List.mem_cons (l := a), or_assoc]
  | case4 x a y b hlt hgt ih =>
    rw [merge, if_neg hlt, if_pos hgt, List.mem_cons, ih, List.mem_cons (l := b)]
    exact or_left_comm
  | case5 x a y b hlt hgt ih =>
    obtain rfl : x = y := by omega
    rw [merge, if_neg hlt, if_neg hgt, List.mem_cons, ih, List.mem_cons, List.mem_cons]
    exact or_or_distrib_left

/-- A step on sets of positions leads to all positions that the relation joins to the set. -/
def Follows (R : Nat → Nat → Prop) (step : List Nat → List Nat) : Prop :=
  ∀ positions j, j ∈ step positions ↔ ∃ i ∈ positions, R i j

theorem iterate_eq (step : List Nat → List Nat) (count : Nat) (positions : List Nat) :
    iterate step count positions = step^[count] positions := by
  induction count generalizing positions with
  | zero => rfl
  | succ count ih =>
    rw [iterate, Function.iterate_succ_apply]
    split
    · next hfixed => rw [hfixed, Function.iterate_fixed hfixed]
    · exact ih (step positions)

variable {R : Nat → Nat → Prop} {step : List Nat → List Nat}

theorem mem_iterate (hstep : Follows R step) (count : Nat) (positions : List Nat) (j : Nat) :
    j ∈ iterate step count positions ↔ ∃ i ∈ positions, Chain R count i j := by
  rw [iterate_eq]
  induction count generalizing positions with
  | zero => exact ⟨fun h ↦ ⟨j, h, rfl⟩, fun ⟨_, h, heq⟩ ↦ heq ▸ h⟩
  | succ count ih =>
    rw [Function.iterate_succ_apply, ih]
    constructor
    · rintro ⟨k, hk, hchain⟩
      obtain ⟨i, hi, hik⟩ := (hstep positions k).mp hk
      exact ⟨i, hi, k, hik, hchain⟩
    · rintro ⟨i, hi, k, hik, hchain⟩
      exact ⟨k, (hstep positions k).mpr ⟨i, hi, hik⟩, hchain⟩

/-- A set that steps do not leave holds the ends of all chains from it. -/
theorem mem_of_chain {positions : List Nat} (hclosed : ∀ i ∈ positions, ∀ j, R i j → j ∈ positions)
    {count i j : Nat} (hi : i ∈ positions) (h : Chain R count i j) : j ∈ positions :=
  h.of_forall (S := fun i j ↦ i ∈ positions → j ∈ positions) (fun hR hi ↦ hclosed _ hi _ hR)
    (fun _ ↦ id) (fun h h' ↦ h' ∘ h) hi

/-- The positions that a step adds. -/
def added (step : List Nat → List Nat) (reached fresh : List Nat) : List Nat :=
  (step fresh).filter (!reached.contains ·)

theorem mem_added (hstep : Follows R step) (reached fresh : List Nat) (j : Nat) :
    j ∈ added step reached fresh ↔ (∃ i ∈ fresh, R i j) ∧ j ∉ reached := by
  simp [added, hstep fresh j]

theorem spread_succ (step : List Nat → List Nat) (rounds : Nat) (reached fresh : List Nat) :
    spread step (rounds + 1) reached fresh =
      if added step reached fresh = [] then reached
      else spread step rounds (merge reached (added step reached fresh))
        (added step reached fresh) := by
  rw [spread, ← added]
  cases added step reached fresh <;> rfl

/-- All positions that have been reached are fresh or have been followed.  This is what makes it
enough to follow the fresh ones. -/
structure IsFollowed (R : Nat → Nat → Prop) (reached fresh : List Nat) : Prop where
  subset : fresh ⊆ reached
  done : ∀ i ∈ reached, i ∉ fresh → ∀ j, R i j → j ∈ reached

namespace IsFollowed

variable {reached fresh : List Nat}

theorem start (R : Nat → Nat → Prop) (positions : List Nat) : IsFollowed R positions positions where
  subset := List.Subset.refl positions
  done _ hi hold := absurd hi hold

theorem mem_or_mem_added (h : IsFollowed R reached fresh) (hstep : Follows R step) {i j : Nat}
    (hi : i ∈ reached) (hij : R i j) : j ∈ reached ∨ j ∈ added step reached fresh := by
  by_cases hold : j ∈ reached
  · exact .inl hold
  · by_cases hfresh : i ∈ fresh
    · exact .inr ((mem_added hstep reached fresh j).mpr ⟨⟨i, hfresh, hij⟩, hold⟩)
    · exact .inl (h.done i hi hfresh j hij)

theorem next (h : IsFollowed R reached fresh) (hstep : Follows R step) :
    IsFollowed R (merge reached (added step reached fresh)) (added step reached fresh) where
  subset _ hj := (mem_merge _ _ _).mpr (.inr hj)
  done i hi hold j hij := by
    have hi := ((mem_merge _ _ i).mp hi).resolve_right hold
    exact (mem_merge _ _ j).mpr (h.mem_or_mem_added hstep hi hij)

end IsFollowed

/-- The positions that are found are those behind chains of at most as many stretches as there are
rounds. -/
theorem mem_spread (hstep : Follows R step) (rounds : Nat) {reached fresh : List Nat}
    (h : IsFollowed R reached fresh) (j : Nat) :
    j ∈ spread step rounds reached fresh ↔
      ∃ count, count ≤ rounds ∧ ∃ i ∈ reached, Chain R count i j := by
  induction rounds generalizing reached fresh with
  | zero =>
    constructor
    · exact fun hj ↦ ⟨0, Nat.le_refl 0, j, hj, rfl⟩
    · rintro ⟨count, hcount, i, hi, hchain⟩
      obtain rfl := Nat.le_zero.mp hcount
      exact hchain ▸ hi
  | succ rounds ih =>
    rw [spread_succ]
    split
    · next hnone =>
      have hclosed : ∀ i ∈ reached, ∀ k, R i k → k ∈ reached := by
        intro i hi k hik
        exact (h.mem_or_mem_added hstep hi hik).resolve_right (hnone ▸ List.not_mem_nil)
      constructor
      · exact fun hj ↦ ⟨0, Nat.zero_le _, j, hj, rfl⟩
      · rintro ⟨count, -, i, hi, hchain⟩
        exact mem_of_chain hclosed hi hchain
    · rw [ih (h.next hstep)]
      constructor
      · rintro ⟨count, hcount, k, hk, hchain⟩
        rcases (mem_merge _ _ k).mp hk with hk | hk
        · exact ⟨count, Nat.le_succ_of_le hcount, k, hk, hchain⟩
        · obtain ⟨⟨i, hi, hik⟩, -⟩ := (mem_added hstep reached fresh k).mp hk
          exact ⟨count + 1, Nat.succ_le_succ hcount, i, h.subset hi, k, hik, hchain⟩
      · rintro ⟨count, hcount, i, hi, hchain⟩
        cases count with
        | zero => exact ⟨0, Nat.zero_le _, i, (mem_merge _ _ i).mpr (.inl hi), hchain⟩
        | succ count =>
          obtain ⟨k, hik, hchain⟩ := hchain
          exact ⟨count, Nat.le_of_succ_le_succ hcount, k,
            (mem_merge _ _ k).mpr (h.mem_or_mem_added hstep hi hik), hchain⟩

/-! ## Expressions -/

/-- Every repetition allows some number of copies. -/
def HasOrderedCounts : Regex → Prop
  | empty => True
  | set _ => True
  | look _ => True
  | concat r s => r.HasOrderedCounts ∧ s.HasOrderedCounts
  | either r s => r.HasOrderedCounts ∧ s.HasOrderedCounts
  | copies r least most => r.HasOrderedCounts ∧ ∀ bound ∈ most, least ≤ bound

variable {text : Array Char}

/-- How many copies beyond the least number are followed. -/
def extraCopies (text : Array Char) (least : Nat) (most : Option Nat) : Nat :=
  match most with
  | none => text.size + 1
  | some most => most - least

theorem ends_copies (r : Regex) (least : Nat) (most : Option Nat) (positions : List Nat) :
    ends text (.copies r least most) positions =
      let start := iterate (fun positions ↦ ends text r positions) least positions
      spread (fun positions ↦ ends text r positions) (extraCopies text least most) start start := by
  cases most <;> rfl

/-- The copies that are followed are enough, as a chain in a text can be shortened to as many
stretches as there are characters. -/
theorem Matches.copies_iff_extraCopies {r : Regex} {least : Nat} {most : Option Nat}
    (h : ∀ bound ∈ most, least ≤ bound) {i k : Nat} :
    Matches text (.copies r least most) i k ↔
      ∃ j, Chain (Matches text r) least i j ∧
        ∃ count, count ≤ extraCopies text least most ∧ Chain (Matches text r) count j k := by
  rw [Matches.copies_iff]
  constructor
  · rintro ⟨count, hleast, hbound, hchain⟩
    obtain ⟨more, rfl⟩ := Nat.exists_eq_add_of_le hleast
    obtain ⟨j, hfirst, hmore⟩ := hchain.split
    refine ⟨j, hfirst, ?_⟩
    cases most with
    | none =>
      obtain ⟨count, hcount, hshort⟩ := hmore.shorten Matches.le
      have hstretch : IsStretch text j k :=
        hmore.of_forall Matches.isStretch (fun _ ↦ .inl rfl) IsStretch.trans
      refine ⟨count, ?_, hshort⟩
      unfold IsStretch at hstretch
      change count ≤ text.size + 1
      omega
    | some bound =>
      have hle := hbound bound rfl
      refine ⟨more, ?_, hmore⟩
      change more ≤ bound - least
      omega
  · rintro ⟨j, hfirst, count, hcount, hmore⟩
    refine ⟨least + count, Nat.le_add_right least count, ?_, hfirst.append hmore⟩
    rintro bound hmem
    cases most with
    | none => cases hmem
    | some most =>
      cases hmem
      have hle := h bound rfl
      change count ≤ bound - least at hcount
      omega

/-- **From a set of positions an expression leads to the ends of its stretches.** -/
theorem mem_ends {r : Regex} (h : r.HasOrderedCounts) (positions : List Nat) (j : Nat) :
    j ∈ ends text r positions ↔ ∃ i ∈ positions, Matches text r i j := by
  induction r generalizing positions j with
  | empty => simp [ends, Matches.empty_iff]
  | set chars => simp [ends, Matches.set_iff, and_assoc]
  | look condition =>
    simp only [ends, Matches.look_iff, List.mem_filter]
    exact ⟨fun ⟨hj, hholds⟩ ↦ ⟨j, hj, hholds, rfl⟩, fun ⟨i, hi, hholds, heq⟩ ↦ heq ▸ ⟨hi, hholds⟩⟩
  | concat r s ihr ihs =>
    rw [ends, ihs h.2]
    constructor
    · rintro ⟨k, hk, hs⟩
      obtain ⟨i, hi, hr⟩ := (ihr h.1 positions k).mp hk
      exact ⟨i, hi, .concat hr hs⟩
    · rintro ⟨i, hi, hrs⟩
      obtain ⟨k, hr, hs⟩ := Matches.concat_iff.mp hrs
      exact ⟨k, (ihr h.1 positions k).mpr ⟨i, hi, hr⟩, hs⟩
  | either r s ihr ihs =>
    rw [ends, mem_merge, ihr h.1, ihs h.2]
    simp only [Matches.either_iff, and_or_left, exists_or]
  | copies r least most ih =>
    have hstep : Follows (Matches text r) (fun positions ↦ ends text r positions) := ih h.1
    let start := iterate (fun positions ↦ ends text r positions) least positions
    rw [ends_copies, mem_spread hstep _ (.start _ start)]
    simp only [Matches.copies_iff_extraCopies h.2]
    constructor
    · rintro ⟨count, hcount, k, hk, hmore⟩
      obtain ⟨i, hi, hfirst⟩ := (mem_iterate hstep least positions k).mp hk
      exact ⟨i, hi, k, hfirst, count, hcount, hmore⟩
    · rintro ⟨i, hi, k, hfirst, count, hcount, hmore⟩
      exact ⟨count, hcount, k, (mem_iterate hstep least positions k).mpr ⟨i, hi, hfirst⟩, hmore⟩

/-- A text is matched if the expression describes a stretch that begins in it. -/
theorem isMatch_iff {r : Regex} (h : r.HasOrderedCounts) (value : String) :
    r.isMatch value = true ↔
      ∃ i j, i ≤ value.toList.length ∧ Matches value.toList.toArray r i j := by
  rw [isMatch, Bool.not_eq_true', List.isEmpty_eq_false_iff_exists_mem]
  simp only [mem_ends h, List.mem_range, List.size_toArray, Nat.lt_succ_iff]
  exact exists_comm

end TenantView.Regex
