import TenantView.Proofs.Json.Derivation
import TenantView.Proofs.Json.RoundTrip

/-!
# Values that are read

Whatever value is read has no name twice in one of its mappings (`distinct_of_readValue`), and it is
nested no more deeply than there are levels (`depth_le_of_readValue`): each bracket takes a level
away from what it encloses, and collapsing names takes parts away and adds none.  So what holds of
values of this form holds of everything that is read.
-/

namespace TenantView.Json

/-- Whatever is read has no name twice. -/
theorem distinct_of_readValue {levels : Nat} {bytes rest : Bytes} {v : Value}
    (h : readValue levels bytes = .done v rest) : v.Distinct := by
  rw [readValue] at h
  obtain ⟨tree, -, rfl⟩ := Outcome.map_eq_done h
  exact tree.distinct_collapse

/-! ## Collapsing names -/

namespace Value

theorem depthMembers_putMember_le (members : List (String × Value)) (name : String) (v : Value) :
    depthMembers (putMember members name v) ≤ max (depthMembers members) v.depth := by
  induction members with
  | nil => simp [putMember, depthMembers]
  | cons member members ih =>
    obtain ⟨other, old⟩ := member
    by_cases hname : other = name
    · rw [putMember, if_pos hname, depthMembers, depthMembers]
      omega
    · rw [putMember, if_neg hname, depthMembers, depthMembers]
      omega

mutual

/-- Collapsing names leaves nothing that is nested more deeply. -/
theorem depth_collapse_le : (v : Value) → v.collapse.depth ≤ v.depth
  | null | boolean _ | number _ | string _ => le_rfl
  | array items => Nat.succ_le_succ (depthItems_collapseItems_le items)
  | object members => by
    have hmembers := depthMembers_collapseMembers_le members []
    rw [depthMembers, Nat.zero_max] at hmembers
    exact Nat.succ_le_succ hmembers

theorem depthItems_collapseItems_le : (items : List Value) →
    depthItems (collapseItems items) ≤ depthItems items
  | [] => le_rfl
  | v :: items => max_le_max (depth_collapse_le v) (depthItems_collapseItems_le items)

theorem depthMembers_collapseMembers_le : (members kept : List (String × Value)) →
    depthMembers (collapseMembers kept members) ≤ max (depthMembers kept) (depthMembers members)
  | [], kept => le_max_left _ _
  | (name, v) :: members, kept => by
    have hrest := depthMembers_collapseMembers_le members (putMember kept name v.collapse)
    have hput := depthMembers_putMember_le kept name v.collapse
    have hv := depth_collapse_le v
    rw [collapseMembers, depthMembers]
    omega

end

end Value

/-! ## Levels -/

/-- What holds of everything that is read as an item holds of the items at the front. -/
theorem ItemsAt.forall_mem {α : Type} {item : Reader α} {P : α → Prop} {first : Bool}
    {bytes rest : Bytes} {xs : List α} (hitem : ∀ {bytes x rest}, item bytes = .done x rest → P x)
    (h : ItemsAt item first bytes xs rest) : ∀ x ∈ xs, P x := by
  induction h with
  | stop => exact fun x hx ↦ nomatch hx
  | item _ hhead _ ih => exact List.forall_mem_cons.mpr ⟨hitem hhead, ih⟩

/-- What holds of everything that is read as a value holds of the members at the front. -/
theorem MembersAt.forall_mem {value : Reader Value} {P : Value → Prop} {first : Bool}
    {bytes rest : Bytes} {members : List (String × Value)}
    (hvalue : ∀ {bytes v rest}, value bytes = .done v rest → P v)
    (h : MembersAt value first bytes members rest) : ∀ member ∈ members, P member.2 := by
  induction h with
  | stop => exact fun member hmember ↦ nomatch hmember
  | member _ _ _ hhead _ ih => exact List.forall_mem_cons.mpr ⟨hvalue hhead, ih⟩

/-- A bracket takes a level away, with which what it encloses is not read. -/
theorem ValueAt.depth_le {levels : Nat} {bytes rest : Bytes} {v : Value}
    (hparts : ∀ inner, levels = inner + 1 → ∀ {bytes v rest},
      readTree inner bytes = .done v rest → v.depth ≤ inner)
    (h : ValueAt levels bytes v rest) : v.depth ≤ levels := by
  cases h with
  | array hitems =>
    exact Nat.succ_le_succ (Value.depthItems_le_iff.mpr (hitems.forall_mem (hparts _ rfl)))
  | object hmembers =>
    exact Nat.succ_le_succ (Value.depthMembers_le_iff.mpr (hmembers.forall_mem (hparts _ rfl)))
  | null | isTrue | isFalse | string | number => exact Nat.zero_le _

theorem depth_le_of_readTree {levels : Nat} {bytes rest : Bytes} {v : Value}
    (h : readTree levels bytes = .done v rest) : v.depth ≤ levels := by
  induction levels generalizing bytes v rest with
  | zero => exact (valueAt_of_readTree h).depth_le fun _ heq ↦ absurd heq (Nat.succ_ne_zero _).symm
  | succ levels ih =>
    refine (valueAt_of_readTree h).depth_le fun inner heq ↦ ?_
    obtain rfl := Nat.succ.inj heq
    exact ih

/-- **Whatever is read is nested no more deeply than there are levels**, also where names are
collapsed. -/
theorem depth_le_of_readValue {levels : Nat} {bytes rest : Bytes} {v : Value}
    (h : readValue levels bytes = .done v rest) : v.depth ≤ levels := by
  rw [readValue] at h
  obtain ⟨tree, htree, rfl⟩ := Outcome.map_eq_done h
  exact tree.depth_collapse_le.trans (depth_le_of_readTree htree)

end TenantView.Json
