import TenantView.Proofs.Regex.Suffix

/-!
# What a sign does to the state of reading

However much of the pattern a sign takes, it changes the state in one of five ways: it adds a part
that has no parts itself, repeats the last part, begins or ends a group, or begins a branch
(`moves_of_step`).  What all of them keep is kept by every reading.
-/

namespace TenantView.Regex

/-- The expression has no parts. -/
def IsLeaf : Regex → Prop
  | empty => True
  | set _ => True
  | look _ => True
  | _ => False

/-- The sign may bring the state to the next one. -/
inductive Moves (state : State) : (sign : Char) → (next : State) → Prop
  | leaf {c : Char} (part : Part) (h : part.value.IsLeaf) : Moves state c (state.push part)
  | repeated {c : Char} {least : Nat} {most : Option Nat} {next : State}
    (hcounts : ∀ bound ∈ most, least ≤ bound) (h : state.repeat? least most = some next) :
    Moves state c next
  | opened {c : Char} {opening : Opening} {next : State} (h : openWith state opening = some next) :
    Moves state c next
  | closed {next : State} (h : state.closeGroup? = some next) : Moves state ')' next
  | branched {c : Char} : Moves state c state.branch

/-! ## Counts in braces -/

theorem ordered_of_closeCounts {modes : Modes} {least : Nat} {most : Option Nat}
    {cs rest : List Char} {x : Nat × Option Nat}
    (h : closeCounts modes least most cs = some (x, rest)) : ∀ bound ∈ x.2, x.1 ≤ bound := by
  rw [closeCounts.eq_def] at h
  split at h
  · split at h
    · next hordered =>
      cases h
      rintro bound rfl
      exact of_decide_eq_true hordered
    · cases h
  · cases h

/-- Counts in the wrong order are refused. -/
theorem ordered_of_readCounts {modes : Modes} {cs rest : List Char} {x : Nat × Option Nat}
    (h : readCounts modes cs = some (x, rest)) : ∀ bound ∈ x.2, x.1 ≤ bound := by
  obtain ⟨⟨least, after⟩, -, h⟩ := bind_eq_some h
  change readCountsFrom modes least after = some (x, rest) at h
  rw [readCountsFrom.eq_def] at h
  split at h
  · rw [readMost.eq_def] at h
    split at h
    · exact ordered_of_closeCounts h
    · obtain ⟨⟨most, after⟩, -, h⟩ := bind_eq_some h
      exact ordered_of_closeCounts h
  · exact ordered_of_closeCounts h

/-! ## Steps -/

theorem moves_of_repeat {state next : State} {c : Char} {least : Nat} {most : Option Nat}
    {rest rest' : List Char} (hcounts : ∀ bound ∈ most, least ≤ bound)
    (h : (state.repeat? least most >>= fun repeated ↦ pure (repeated, rest)) =
      some (next, rest')) :
    Moves state c next := by
  obtain ⟨repeated, hrepeated, h⟩ := bind_eq_some h
  cases h
  exact .repeated hcounts hrepeated

/-- A step is one of the moves. -/
theorem moves_of_step {state next : State} {c : Char} {cs rest : List Char}
    (h : step state c cs = some (next, rest)) : Moves state c next := by
  rw [step.eq_def] at h
  split at h
  case h_1 =>
    obtain ⟨⟨opening, after⟩, -, h⟩ := bind_eq_some h
    obtain ⟨opened, hopened, h⟩ := bind_eq_some h
    cases h
    exact .opened hopened
  case h_2 =>
    obtain ⟨closed, hclosed, h⟩ := bind_eq_some h
    cases h
    exact .closed hclosed
  case h_3 =>
    cases h
    exact .branched
  case h_4 =>
    obtain ⟨⟨chars, after⟩, -, h⟩ := bind_eq_some h
    cases h
    exact .leaf _ trivial
  case h_5 => exact moves_of_repeat (fun bound _ ↦ Nat.zero_le bound) h
  case h_6 | h_7 =>
    exact moves_of_repeat (fun bound hmem ↦ absurd hmem (Option.not_mem_none bound)) h
  case h_8 =>
    obtain ⟨⟨⟨least, most⟩, after⟩, hcounts, h⟩ := bind_eq_some h
    exact moves_of_repeat (ordered_of_readCounts hcounts) h
  case h_9 =>
    obtain ⟨⟨primitive, after⟩, -, h⟩ := bind_eq_some h
    cases h
    cases primitive <;> exact .leaf _ trivial
  case h_10 =>
    obtain ⟨chars, -, h⟩ := bind_eq_some h
    cases h
    exact .leaf _ trivial
  all_goals
    cases h
    exact .leaf _ trivial

end TenantView.Regex
