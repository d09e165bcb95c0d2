import TenantView.Proofs.Visibility.Absorption
import TenantView.Proofs.Visibility.Exactness

/-!
# The alerts among rules and the alerts on their own

The alerts of a server are listed twice: within the rules that raise them and on their own.  A rule
that is visible as a whole shows all its alerts, also those that are not allowed, a part of a rule
shows the allowed ones, and a rule that is gone had none of these.  So the allowed alerts are the
same before and after the filter, rule by rule (`Yields.visibleAlerts_eq`), and hence in the whole
listing (`visibleAlerts_filterRules`), if rules may be seen in part.
-/

namespace TenantView

/-- The alerts of the rules of a group, in the order of the rules. -/
def RuleGroup.alerts (group : RuleGroup) : List Alert :=
  group.rules.flatMap Rule.alerts

/-- The alerts of all rules of a listing, in the order of groups and rules. -/
def RuleListing.alerts (listing : RuleListing) : List Alert :=
  listing.groups.flatMap RuleGroup.alerts

namespace Enforcement

variable {e : Enforcement}

/-- What a rule leaves has the allowed alerts of the rule, if rules may be seen in part. -/
theorem Yields.visibleAlerts_eq {rule : Rule} {yield : List Rule} (h : e.Yields true rule yield) :
    e.visibleAlerts (yield.flatMap Rule.alerts) = e.visibleAlerts rule.alerts := by
  cases h with
  | whole => rw [List.flatMap_singleton]
  | @part rule part hidden asked seen agrees alerts =>
    have hpart : part.alerts = e.visibleAlerts rule.alerts := alerts
    rw [List.flatMap_singleton]
    change e.visibleAlerts part.alerts = e.visibleAlerts rule.alerts
    rw [hpart, visibleAlerts_visibleAlerts (.refl e)]
  | nothing hidden unseen =>
    have hnone := unseen.resolve_left nofun
    rw [e.visibleAlerts_eq_nil_iff.mpr hnone]
    rfl

/-- If every element leaves its allowed alerts, so do all of them together. -/
theorem visibleAlerts_flatten {α : Type} {alerts : α → List Alert} {leaves : α → List α → Prop}
    (hleaves : ∀ {x yield}, leaves x yield →
      e.visibleAlerts (yield.flatMap alerts) = e.visibleAlerts (alerts x))
    {l : List α} {yields : List (List α)} (h : List.Forall₂ leaves l yields) :
    e.visibleAlerts (yields.flatten.flatMap alerts) = e.visibleAlerts (l.flatMap alerts) := by
  induction h with
  | nil => rfl
  | cons hhead _ ih =>
    have htail := hleaves hhead
    unfold visibleAlerts at ih htail ⊢
    rw [List.flatten_cons, List.flatMap_append, List.flatMap_cons, List.filter_append,
      List.filter_append, ih, htail]

/-- What a group leaves has the allowed alerts of the group. -/
theorem GroupYields.visibleAlerts_eq {group : RuleGroup} {yield : List RuleGroup}
    (h : e.GroupYields true group yield) :
    e.visibleAlerts (yield.flatMap RuleGroup.alerts) = e.visibleAlerts group.alerts := by
  cases h with
  | kept rules =>
    rw [List.flatMap_singleton]
    exact visibleAlerts_flatten Yields.visibleAlerts_eq rules
  | dropped rules =>
    have hnone : ∀ rule ∈ group.rules, e.visibleAlerts rule.alerts = [] :=
      fun rule hrule ↦ (rules rule hrule).visibleAlerts_eq.symm
    refine (e.visibleAlerts_eq_nil_iff.mpr fun alert halert ↦ ?_).symm
    obtain ⟨rule, hrule, hin⟩ := List.mem_flatMap.mp halert
    exact e.visibleAlerts_eq_nil_iff.mp (hnone rule hrule) alert hin

variable (e)

/-- The filter takes away no allowed alert and brings in none, nor does it change their order. -/
theorem visibleAlerts_filterRules (listing : RuleListing) :
    e.visibleAlerts (e.filterRules true listing).alerts = e.visibleAlerts listing.alerts := by
  obtain ⟨yields, hgroups, hshown⟩ := e.filterRules_flatten true listing
  rw [RuleListing.alerts, hshown]
  exact visibleAlerts_flatten GroupYields.visibleAlerts_eq hgroups

/-- The alerts that a tenant gets on their own are the allowed ones among those that it gets with
their rules. -/
theorem filterAlerts_alerts (listing : RuleListing) :
    (e.filterAlerts { alerts := listing.alerts }).alerts =
      (e.filterRules true listing).alerts.filter fun alert ↦ e.allows alert.labels :=
  (e.visibleAlerts_filterRules listing).symm

end Enforcement

end TenantView
