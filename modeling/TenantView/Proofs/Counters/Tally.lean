import Mathlib.Algebra.GroupWithZero.Nat
import Mathlib.Data.List.Sort
import TenantView.Counters
import TenantView.LabelSet

/-!
# Tallies

Counting keys one after another leaves one entry for each key that occurs, with the number of its
occurrences (`mem_tally`).  The entries are therefore the same in whatever order the keys are
counted, up to the order of the entries (`perm_tally`), and that order is not seen in the lines that
are read (`sortedLines_eq`).
-/

namespace TenantView.Counters

variable {κ : Type}

/-- The sum of the counts of all keys with a property. -/
def total (p : κ → Bool) (entries : List (κ × Nat)) : Nat :=
  ((entries.filter fun entry ↦ p entry.1).map Prod.snd).sum

theorem total_cons (p : κ → Bool) (key : κ) (n : Nat) (entries : List (κ × Nat)) :
    total p ((key, n) :: entries) = (if p key then n else 0) + total p entries := by
  unfold total
  cases h : p key <;> simp [h]

/-- There is one entry for each key, and only for keys that have been counted. -/
structure IsTally (entries : List (κ × Nat)) : Prop where
  distinct : (entries.map Prod.fst).Nodup
  positive : ∀ entry ∈ entries, 0 < entry.2

theorem isTally_nil : IsTally ([] : List (κ × Nat)) :=
  ⟨List.nodup_nil, nofun⟩

variable [DecidableEq κ]

/-! ## Counting -/

/-- The entries with all keys counted on top of them. -/
def countAll (entries : List (κ × Nat)) (keys : List κ) : List (κ × Nat) :=
  keys.foldl (fun entries key ↦ countOne key entries) entries

theorem countAll_append (entries : List (κ × Nat)) (keys others : List κ) :
    countAll entries (keys ++ others) = countAll (countAll entries keys) others :=
  List.foldl_append

/-- Each key counts as often as it occurs. -/
theorem countOf_countAll (key : κ) (entries : List (κ × Nat)) (keys : List κ) :
    countOf key (countAll entries keys) = countOf key entries + keys.countP (· = key) := by
  induction keys generalizing entries with
  | nil => rfl
  | cons other keys ih =>
    calc countOf key (countAll (countOne other entries) keys)
        = countOf key entries + (if key = other then 1 else 0) + keys.countP (· = key) := by
          rw [ih, countOf_countOne]
      _ = countOf key entries + (other :: keys).countP (· = key) := by
          simp only [List.countP_cons, decide_eq_true_eq, eq_comm (b := other)]
          omega

theorem total_countOne (p : κ → Bool) (key : κ) (entries : List (κ × Nat)) :
    total p (countOne key entries) = total p entries + if p key then 1 else 0 := by
  induction entries with
  | nil => rw [countOne, total_cons, Nat.add_comm]
  | cons entry entries ih =>
    obtain ⟨other, n⟩ := entry
    rw [countOne]
    split
    · next heq =>
      subst heq
      rw [total_cons, total_cons]
      split <;> omega
    · rw [total_cons, total_cons, ih, Nat.add_assoc]

/-- A sum of counts is the number of the keys in question. -/
theorem total_countAll (p : κ → Bool) (entries : List (κ × Nat)) (keys : List κ) :
    total p (countAll entries keys) = total p entries + keys.countP p := by
  induction keys generalizing entries with
  | nil => rfl
  | cons key keys ih =>
    calc total p (countAll (countOne key entries) keys)
        = total p entries + (if p key then 1 else 0) + keys.countP p := by
          rw [ih, total_countOne]
      _ = total p entries + (key :: keys).countP p := by
          rw [List.countP_cons]
          omega

/-! ## Entries -/

/-- The keys with an entry are those of before and the one that is counted. -/
theorem mem_keys_countOne {key other : κ} {entries : List (κ × Nat)} :
    other ∈ (countOne key entries).map Prod.fst ↔ other = key ∨ other ∈ entries.map Prod.fst := by
  induction entries with
  | nil => simp [countOne]
  | cons entry entries ih =>
    obtain ⟨found, n⟩ := entry
    rw [countOne]
    split
    · next heq =>
      subst heq
      simp
    · rw [List.map_cons, List.mem_cons, ih, List.map_cons, List.mem_cons]
      exact or_left_comm

theorem IsTally.countOne {entries : List (κ × Nat)} (h : IsTally entries) (key : κ) :
    IsTally (countOne key entries) := by
  induction entries with
  | nil => exact ⟨List.nodup_singleton key, by simp [Counters.countOne]⟩
  | cons entry entries ih =>
    obtain ⟨other, n⟩ := entry
    obtain ⟨hfresh, hdistinct⟩ := List.nodup_cons.mp h.distinct
    obtain ⟨-, hpositive⟩ := List.forall_mem_cons.mp h.positive
    have hrest := ih ⟨hdistinct, hpositive⟩
    rw [Counters.countOne]
    split
    · exact ⟨h.distinct, List.forall_mem_cons.mpr ⟨Nat.succ_pos n, hpositive⟩⟩
    · next hne =>
      refine ⟨List.nodup_cons.mpr ⟨fun hmem ↦ ?_, hrest.distinct⟩,
        List.forall_mem_cons.mpr ⟨h.positive _ List.mem_cons_self, hrest.positive⟩⟩
      exact (mem_keys_countOne.mp hmem).elim hne hfresh

theorem IsTally.countAll {entries : List (κ × Nat)} (h : IsTally entries) (keys : List κ) :
    IsTally (countAll entries keys) := by
  induction keys generalizing entries with
  | nil => exact h
  | cons key keys ih => exact ih (h.countOne key)

/-- An entry of a tally holds the count of its key. -/
theorem IsTally.mem_iff {entries : List (κ × Nat)} (h : IsTally entries) {key : κ} {n : Nat} :
    (key, n) ∈ entries ↔ 0 < n ∧ countOf key entries = n := by
  unfold countOf
  induction entries with
  | nil => simpa using fun hpositive : 0 < n ↦ hpositive.ne
  | cons entry entries ih =>
    obtain ⟨other, m⟩ := entry
    obtain ⟨hfresh, hdistinct⟩ := List.nodup_cons.mp h.distinct
    obtain ⟨hm, hpositive⟩ := List.forall_mem_cons.mp h.positive
    by_cases heq : key = other
    · subst heq
      have hrest : (key, n) ∉ entries := fun hmem ↦
        hfresh (List.mem_map.mpr ⟨(key, n), hmem, rfl⟩)
      simp only [List.mem_cons, Prod.mk.injEq, true_and, hrest, or_false, List.lookup_cons_self,
        Option.getD_some]
      exact ⟨fun hn ↦ ⟨hn ▸ hm, hn.symm⟩, fun hn ↦ hn.2.symm⟩
    · simpa [List.lookup_cons, beq_eq_false_iff_ne.mpr heq, heq] using ih ⟨hdistinct, hpositive⟩

/-- What keys leave behind, counted from nothing. -/
def tally (keys : List κ) : List (κ × Nat) :=
  countAll [] keys

theorem isTally_tally (keys : List κ) : IsTally (tally keys) :=
  isTally_nil.countAll keys

theorem countOf_tally (key : κ) (keys : List κ) :
    countOf key (tally keys) = keys.countP (· = key) :=
  (countOf_countAll key [] keys).trans (Nat.zero_add _)

theorem total_tally (p : κ → Bool) (keys : List κ) : total p (tally keys) = keys.countP p :=
  (total_countAll p [] keys).trans (Nat.zero_add _)

/-- The entries of a tally are the keys that occur, with the number of their occurrences. -/
theorem mem_tally {keys : List κ} {key : κ} {n : Nat} :
    (key, n) ∈ tally keys ↔ 0 < n ∧ keys.countP (· = key) = n := by
  rw [(isTally_tally keys).mem_iff, countOf_tally]

/-- The order in which keys are counted does not matter. -/
theorem perm_tally {keys others : List κ} (h : keys.Perm others) :
    (tally keys).Perm (tally others) := by
  have hnodup : ∀ keys : List κ, (tally keys).Nodup :=
    fun keys ↦ (isTally_tally keys).distinct.of_map _
  -- Entries that do not repeat are the same up to order as soon as they have the same members.
  refine (List.perm_ext_iff_of_nodup (hnodup keys) (hnodup others)).mpr fun ⟨key, n⟩ ↦ ?_
  rw [mem_tally, mem_tally, h.countP_eq]

omit [DecidableEq κ]

/-! ## Lines -/

/-- The order in which lines are sorted. -/
def lineLe (line other : String) : Bool :=
  !decide (Text.byteLt other line)

theorem lineLe_iff {line other : String} : lineLe line other = true ↔ ¬ Text.byteLt other line := by
  simp [lineLe]

theorem lineLe_trans (a b c : String) (hab : lineLe a b) (hbc : lineLe b c) : lineLe a c := by
  rw [lineLe_iff] at hab hbc ⊢
  intro hca
  by_cases heq : a = b
  · exact hbc (heq ▸ hca)
  · exact hbc (LabelSet.byteLt_trans hca (LabelSet.byteLt_of_not_byteLt (Ne.symm heq) hab))

theorem lineLe_total (a b : String) : lineLe a b || lineLe b a := by
  by_cases hba : Text.byteLt b a
  · have hab : ¬ Text.byteLt a b := fun hab ↦ (Std.lt_irrefl (LabelSet.byteLt_trans hab hba)).elim
    simp [lineLe, hab]
  · simp [lineLe, hba]

theorem lineLe_antisymm (a b : String) (hab : lineLe a b) (hba : lineLe b a) : a = b :=
  by_contra fun hne ↦ lineLe_iff.mp hab (LabelSet.byteLt_of_not_byteLt hne (lineLe_iff.mp hba))

/-- Lines are the same once they are sorted if they are the same up to their order. -/
theorem sortedLines_of_perm {counters others : Counters} (h : counters.lines.Perm others.lines) :
    counters.sortedLines = others.sortedLines := by
  have hsorted : ∀ counters : Counters, counters.sortedLines.Pairwise fun a b ↦ lineLe a b :=
    fun counters ↦ List.pairwise_mergeSort lineLe_trans lineLe_total counters.lines
  have hperm : counters.sortedLines.Perm others.sortedLines :=
    (List.mergeSort_perm _ _).trans (h.trans (List.mergeSort_perm _ _).symm)
  exact hperm.eq_of_pairwise (fun a b _ _ ↦ lineLe_antisymm a b) (hsorted counters) (hsorted others)

/-- The sorted lines are the same for every order of the entries. -/
theorem sortedLines_eq {counters others : Counters}
    (houtcomes : counters.outcomes.Perm others.outcomes)
    (hfailures : counters.failures.Perm others.failures) :
    counters.sortedLines = others.sortedLines := by
  refine sortedLines_of_perm (List.Perm.flatMap_right _ ?_)
  unfold exposition
  exact ((((houtcomes.map _).append_left _).append_right _).append (hfailures.map _)).append_right _

end TenantView.Counters
