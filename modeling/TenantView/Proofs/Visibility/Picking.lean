import TenantView.Proofs.Visibility.Walk

/-!
# Picking from a listing

The filter decides rule by rule what is left of a listing and then drops the groups that are
empty.  `RuleListing.pick` is that for any decision about single rules, so that a law about rules
becomes one about listings: when a decision finds the same after another one as without it, so does
the picking (`RuleListing.pick_pick`).
-/

namespace TenantView

/-- The group with what is picked of its rules; nothing if no rule is left. -/
def RuleGroup.pick? (pick : Rule → Option Rule) (group : RuleGroup) : Option RuleGroup :=
  let rules := group.rules.filterMap pick
  if rules = [] then none else some { group with rules }

/-- The listing with what is picked of its rules. -/
def RuleListing.pick (pick : Rule → Option Rule) (listing : RuleListing) : RuleListing where
  groups := listing.groups.filterMap (RuleGroup.pick? pick)

section Absorption

variable {coarse fine : Rule → Option Rule} (h : ∀ rule, (coarse rule).bind fine = fine rule)

include h

theorem RuleGroup.bind_pick? (group : RuleGroup) :
    (group.pick? coarse).bind (RuleGroup.pick? fine) = group.pick? fine := by
  have hrules : (group.rules.filterMap coarse).filterMap fine = group.rules.filterMap fine := by
    rw [List.filterMap_filterMap]
    exact congrArg (List.filterMap · group.rules) (funext h)
  by_cases hnone : group.rules.filterMap coarse = []
  -- a group that is dropped at once has no rule that could be picked later
  · rw [hnone, List.filterMap_nil] at hrules
    rw [pick?, if_pos hnone, pick?, if_pos hrules.symm, Option.bind_none]
  · rw [pick?, if_neg hnone, Option.bind_some, pick?, pick?, hrules]

/-- Picking after another picking finds the same if it does so for every rule. -/
theorem RuleListing.pick_pick (listing : RuleListing) :
    (listing.pick coarse).pick fine = listing.pick fine := by
  unfold pick
  rw [List.filterMap_filterMap]
  exact congrArg (fun f ↦ RuleListing.mk (listing.groups.filterMap f))
    (funext (RuleGroup.bind_pick? h))

end Absorption

namespace Enforcement

variable (e : Enforcement) (inPart : Bool)

theorem visibleGroup?_eq_pick? :
    e.visibleGroup? inPart = RuleGroup.pick? (e.visibleRule? inPart) := by
  funext group
  rw [visibleGroup?, RuleGroup.pick?]
  split
  · next hnone => exact (if_pos hnone).symm
  · next hsome => exact (if_neg hsome).symm

/-- The filter picks what may be seen of each rule. -/
theorem filterRules_eq_pick (listing : RuleListing) :
    e.filterRules inPart listing = listing.pick (e.visibleRule? inPart) := by
  rw [filterRules_eq, visibleGroups, visibleGroup?_eq_pick?]
  rfl

end Enforcement

end TenantView
