import TenantView.Proofs.Regex.Matching
import TenantView.Proofs.Regex.Wrapping

/-!
# Counts of repetitions

A repetition whose least count is above its greatest one describes nothing, and matching does not
ask for it.  It needs not, because reading refuses such counts: every expression that is read from
a pattern has ordered counts (`hasOrderedCounts_of_read?`).
-/

namespace TenantView.Regex

/-! ## Branches -/

theorem hasOrderedCounts_of_isLeaf {regex : Regex} (h : regex.IsLeaf) :
    regex.HasOrderedCounts := by
  cases regex with
  | empty | set | look => trivial
  | concat | either | copies => cases h

/-- The parts of the branch that is read and the branches before it have ordered counts. -/
structure AreOrdered (branches : List (Deep Regex)) (parts : List Part) : Prop where
  branches : ∀ branch ∈ branches, branch.value.HasOrderedCounts
  parts : ∀ part ∈ parts, part.value.HasOrderedCounts

namespace AreOrdered

variable {branches : List (Deep Regex)} {parts : List Part}

theorem nil : AreOrdered [] [] where
  branches _ h := nomatch h
  parts _ h := nomatch h

theorem cons {part : Part} (h : part.value.HasOrderedCounts) (hrest : AreOrdered branches parts) :
    AreOrdered branches (part :: parts) where
  branches := hrest.branches
  parts := List.forall_mem_cons.mpr ⟨h, hrest.parts⟩

end AreOrdered

theorem hasOrderedCounts_concatParts {parts : List Part}
    (h : ∀ part ∈ parts, part.value.HasOrderedCounts) :
    (concatParts parts).value.HasOrderedCounts := by
  have hfoldr : (parts.foldr (fun part regex ↦ .concat regex part.value)
      Regex.empty).HasOrderedCounts := by
    induction parts with
    | nil => trivial
    | cons part parts ih =>
      obtain ⟨hpart, hparts⟩ := List.forall_mem_cons.mp h
      exact ⟨ih hparts, hpart⟩
  rw [concatParts.eq_def]
  split
  · trivial
  · next part => exact h part List.mem_cons_self
  · exact hfoldr

theorem hasOrderedCounts_joinBranches {branches : List (Deep Regex)} {last : Deep Regex}
    (h : ∀ branch ∈ branches, branch.value.HasOrderedCounts)
    (hlast : last.value.HasOrderedCounts) :
    (joinBranches branches last).value.HasOrderedCounts := by
  have hfoldl (first : Regex) (hfirst : first.HasOrderedCounts) :
      (branches.foldl (fun regex branch ↦ .either branch.value regex)
        first).HasOrderedCounts := by
    induction branches generalizing first with
    | nil => exact hfirst
    | cons branch branches ih =>
      obtain ⟨hbranch, hbranches⟩ := List.forall_mem_cons.mp h
      exact ih hbranches _ ⟨hbranch, hfirst⟩
  rw [joinBranches.eq_def]
  split
  · exact hlast
  · exact hfoldl last.value hlast

/-! ## States -/

namespace State

/-- All that has been read has ordered counts. -/
structure HasOrderedCounts (state : State) : Prop where
  current : AreOrdered state.branches state.parts
  groups : ∀ group ∈ state.groups, AreOrdered group.branches group.parts

namespace HasOrderedCounts

variable {state next : State}

theorem contents (h : state.HasOrderedCounts) : state.contents.value.HasOrderedCounts :=
  hasOrderedCounts_joinBranches h.current.branches (hasOrderedCounts_concatParts h.current.parts)

theorem push (h : state.HasOrderedCounts) {part : Part} (hpart : part.value.HasOrderedCounts) :
    (state.push part).HasOrderedCounts where
  current := h.current.cons hpart
  groups := h.groups

theorem branch (h : state.HasOrderedCounts) : state.branch.HasOrderedCounts where
  current :=
    { branches := List.forall_mem_cons.mpr
        ⟨hasOrderedCounts_concatParts h.current.parts, h.current.branches⟩
      parts := fun _ h ↦ nomatch h }
  groups := h.groups

theorem openGroup (h : state.HasOrderedCounts) (modes : Modes) :
    (state.openGroup modes).HasOrderedCounts where
  current := .nil
  groups := List.forall_mem_cons.mpr ⟨h.current, h.groups⟩

theorem openWith (h : state.HasOrderedCounts) {opening : Opening}
    (hnext : openWith state opening = some next) : next.HasOrderedCounts := by
  rw [openWith.eq_def] at hnext
  split at hnext
  · cases hnext
    exact ⟨h.current.cons trivial, h.groups⟩
  · cases hnext
    exact h.openGroup _
  · split at hnext
    · cases hnext
    · cases hnext
      exact ⟨.nil, List.forall_mem_cons.mpr ⟨h.current, h.groups⟩⟩

theorem closeGroup? (h : state.HasOrderedCounts) (hnext : state.closeGroup? = some next) :
    next.HasOrderedCounts := by
  rw [State.closeGroup?.eq_def] at hnext
  split at hnext
  · cases hnext
  · next group groups hgroups =>
    cases hnext
    obtain ⟨hgroup, hrest⟩ := List.forall_mem_cons.mp (hgroups ▸ h.groups)
    exact ⟨hgroup.cons h.contents, hrest⟩

theorem repeat? (h : state.HasOrderedCounts) {least : Nat} {most : Option Nat}
    (hcounts : ∀ bound ∈ most, least ≤ bound) (hnext : state.repeat? least most = some next) :
    next.HasOrderedCounts := by
  rw [State.repeat?.eq_def] at hnext
  split at hnext
  · next part parts hparts =>
    split at hnext
    · cases hnext
      obtain ⟨hpart, hrest⟩ := List.forall_mem_cons.mp (hparts ▸ h.current.parts)
      exact ⟨.cons ⟨hpart, hcounts⟩ ⟨h.current.branches, hrest⟩, h.groups⟩
    · cases hnext
  · cases hnext

/-- The next sign of a pattern brings no repetition with other counts. -/
theorem step (h : state.HasOrderedCounts) {c : Char} {cs rest : List Char}
    (hnext : step state c cs = some (next, rest)) : next.HasOrderedCounts := by
  cases moves_of_step hnext with
  | leaf part hpart => exact h.push (hasOrderedCounts_of_isLeaf hpart)
  | repeated hcounts hnext => exact h.repeat? hcounts hnext
  | opened hnext => exact h.openWith hnext
  | closed hnext => exact h.closeGroup? hnext
  | branched => exact h.branch

theorem run (h : state.HasOrderedCounts) {rounds cs : List Char}
    (hrun : run rounds state cs = some next) : next.HasOrderedCounts := by
  induction rounds generalizing state cs with
  | nil =>
    rw [Regex.run] at hrun
    split at hrun
    · cases hrun
      exact h
    · cases hrun
  | cons b rounds ih =>
    cases hsign : state.modes.skip cs with
    | nil =>
      rw [run_end hsign] at hrun
      cases hrun
      exact h
    | cons c rest =>
      rw [run_sign hsign] at hrun
      obtain ⟨⟨after, rest⟩, hstep, hrun⟩ := bind_eq_some hrun
      exact ih (h.step hstep) hrun

end HasOrderedCounts

end State

/-- **Every expression that is read from a pattern has ordered counts.** -/
theorem hasOrderedCounts_of_read? {pattern : String} {regex : Deep Regex}
    (h : read? pattern = some regex) : regex.value.HasOrderedCounts := by
  obtain ⟨final, hrun, hfinish⟩ := bind_eq_some h
  have hinitial : ({} : State).HasOrderedCounts := ⟨.nil, nofun⟩
  rw [State.finish?] at hfinish
  split at hfinish
  · cases hfinish
    exact (hinitial.run hrun).contents
  · cases hfinish

end TenantView.Regex
