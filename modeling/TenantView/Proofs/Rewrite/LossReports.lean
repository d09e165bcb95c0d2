import TenantView.Proofs.Rewrite.Faithfulness
import TenantView.Proofs.Visibility.Losses
import TenantView.Proofs.Visibility.PartState

/-!
# What is reported of a filter

On the way through a rule listing the rules of each group are counted, and what is left of them
once more if the group stays.  In the end the counts are the sizes of the listing and of what is
left of it (`walk_counts`).  Hence there is a report exactly if a group or a rule is lost, and it
tells these sizes; rules that are replaced by parts of themselves are no loss.  An alert listing is
reported exactly if it is not left as it is, with the number of its hidden alerts (`events_exact`).
-/

namespace TenantView

namespace Enforcement

variable (e : Enforcement) (inPart : Bool)

/-- In the end the rules of the listing and of what is left of it have been counted. -/
theorem walk_counts (listing : RuleListing) :
    (e.walk inPart listing.groups).before = listing.size.rules ∧
      (e.walk inPart listing.groups).after = (e.filterRules inPart listing).size.rules := by
  rw [filterRules_eq, walk_eq]
  exact ⟨rfl, rfl⟩

/-- A rule listing is reported if it loses a group or a rule, with its sizes before and after. -/
theorem walkEvents_eq (listing : RuleListing) :
    e.walkEvents listing (e.walk inPart listing.groups) =
      if e.Loses inPart listing then
        [.rulesFiltered e.label listing.size (e.filterRules inPart listing).size]
      else [] := by
  have hchanged : (e.filterRules inPart listing).groups.length ≠ listing.groups.length ∨
      (e.filterRules inPart listing).size.rules ≠ listing.size.rules ↔
        e.Loses inPart listing := by
    rw [← not_and_or, ← not_iff_not, not_not, ← size_filterRules_eq_iff]
    simp only [RuleListing.size, ListingSize.mk.injEq]
  obtain ⟨hbefore, hafter⟩ := e.walk_counts inPart listing
  rw [walkEvents, hbefore, hafter]
  exact if_congr hchanged rfl rfl

/-- Parts of rules alone are not reported: there is no report exactly if groups and rules stay as
many as they are, one for one. -/
theorem walkEvents_eq_nil_iff (listing : RuleListing) :
    e.walkEvents listing (e.walk inPart listing.groups) = [] ↔
      List.Forall₂ (e.Keeps inPart) listing.groups (e.filterRules inPart listing).groups := by
  rw [walkEvents_eq, forall₂_keeps_iff]
  split
  · next hloses => exact iff_of_false (List.cons_ne_nil _ _) (not_not.mpr hloses)
  · next hkept => exact iff_of_true rfl hkept

/-- An alert listing is reported if it is not left as it is, with the numbers of the alerts that
are hidden and of those that are left. -/
theorem alertEvents_eq (listing : AlertListing) :
    e.alertEvents listing (e.filterAlerts listing) =
      if e.filterAlerts listing = listing then []
      else [.alertsFiltered e.label (e.hiddenCount listing)
        (e.filterAlerts listing).alerts.length] := by
  have hfiltered : listing.alerts.length - (e.filterAlerts listing).alerts.length =
      e.hiddenCount listing := by
    rw [← e.hiddenCount_add_length listing, Nat.add_sub_cancel]
  simp only [alertEvents, hfiltered, e.filterAlerts_eq_self_iff, gt_iff_lt, Nat.pos_iff_ne_zero,
    ne_eq, ite_not]

end Enforcement

namespace Rewrite

open Enforcement

/-- **Reports are exact.**  The filtered rule listing is what the groups leave, position by
position.  It is reported exactly if some group or some rule leaves nothing, with the numbers of
groups and of rules before and after, which are never greater after.  There is no report exactly if
groups and rules correspond one to one, each rule being left as it is or in part.  An alert
listing is reported exactly if it is not left as it is, and the alerts that have gone and those
that are left make up all of them. -/
theorem events_exact (settings : Settings) (e : Enforcement) :
    (∀ listing : RuleListing,
      let inPart := settings.rulesWithActiveAlerts
      let visible := visibleRules settings e listing
      (∃ yields : List (List RuleGroup),
        List.Forall₂ (e.GroupYields inPart) listing.groups yields ∧
          visible.value.groups = yields.flatten) ∧
      (visible.events =
        if e.Loses inPart listing then
          [.rulesFiltered e.label listing.size visible.value.size]
        else []) ∧
      visible.value.size.groups ≤ listing.size.groups ∧
      visible.value.size.rules ≤ listing.size.rules ∧
      (visible.events = [] ↔
        List.Forall₂ (e.Keeps inPart) listing.groups visible.value.groups)) ∧
    ∀ listing : AlertListing,
      let visible := visibleAlerts e listing
      (visible.events =
        if visible.value = listing then []
        else [.alertsFiltered e.label (e.hiddenCount listing) visible.value.alerts.length]) ∧
      e.hiddenCount listing + visible.value.alerts.length = listing.alerts.length := by
  constructor
  · intro listing inPart visible
    exact ⟨e.filterRules_flatten inPart listing, e.walkEvents_eq inPart listing,
      e.groups_filterRules_le inPart listing, e.rules_filterRules_le inPart listing,
      e.walkEvents_eq_nil_iff inPart listing⟩
  · intro listing visible
    exact ⟨e.alertEvents_eq listing, e.hiddenCount_add_length listing⟩

/-- A listing with a rule that is shared by both tenants, and a group without rules. -/
def sharedAndEmpty : RuleListing where
  groups := sharedByBoth.groups ++ (listingOf []).groups

/-- The shared rule alone is not lost, though tenant `a` gets but a part of it.  The group without
rules is lost, though no rule is. -/
theorem events_exact_sharedAndEmpty :
    (visibleRules partialSettings enforcedForA sharedByBoth).value ≠ sharedByBoth ∧
    (visibleRules partialSettings enforcedForA sharedByBoth).events = [] ∧
    (visibleRules partialSettings enforcedForA sharedAndEmpty).events =
      [.rulesFiltered "tenant" { groups := 2, rules := 1 } { groups := 1, rules := 1 }] ∧
    (visibleAlerts enforcedForA { alerts := [alertOf "b", alertOf "a", alertOf "b"] }).events =
      [.alertsFiltered "tenant" 2 1] := by
  obtain ⟨hrules, halerts⟩ := events_exact partialSettings enforcedForA
  obtain ⟨-, hshared, -⟩ := hrules sharedByBoth
  obtain ⟨-, hempty, -⟩ := hrules sharedAndEmpty
  obtain ⟨hhidden, -⟩ := halerts { alerts := [alertOf "b", alertOf "a", alertOf "b"] }
  refine ⟨by decide +kernel, ?_, ?_, ?_⟩
  · rw [hshared, if_neg (by decide +kernel)]
  · rw [hempty, if_pos (by decide +kernel)]
    decide +kernel
  · rw [hhidden, if_neg (by decide +kernel)]
    decide +kernel

end Rewrite

end TenantView
