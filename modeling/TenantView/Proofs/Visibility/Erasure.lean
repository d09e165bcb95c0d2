import TenantView.Proofs.Visibility.Absorption

/-!
# Erasing what a tenant may not see

`erase` takes out of a listing whatever a tenant may not see and leaves the rest untouched: rules
of which nothing is visible go, a rule that is visible in part loses its hidden alerts and its own
state, and groups without rules go.  The filter cannot tell a listing from its erasure
(`filterRules_erase`), so that it makes the same of all listings with one erasure.
-/

namespace TenantView

namespace Enforcement

variable (e : Enforcement)

/-- The alerting rule without its hidden alerts and without a state of its own. -/
def blank (rule : AlertingRule) : AlertingRule :=
  { rule with alerts := e.visibleAlerts rule.alerts, state := "" }

/-- The rule without what may not be seen of it; nothing if all of it is hidden. -/
def eraseRule? (inPart : Bool) (rule : Rule) : Option Rule :=
  if e.allows rule.labels then some rule
  else
    match rule with
    | .alerting rule =>
      if inPart && rule.alerts.any fun alert ↦ e.allows alert.labels then
        some (.alerting (e.blank rule))
      else none
    | .recording _ => none

/-- The group without what may not be seen of its rules; nothing if no rule is left. -/
def eraseGroup? (inPart : Bool) (group : RuleGroup) : Option RuleGroup :=
  let rules := group.rules.filterMap (e.eraseRule? inPart)
  if rules = [] then none else some { group with rules }

/-- The listing without what may not be seen of it. -/
def erase (inPart : Bool) (listing : RuleListing) : RuleListing where
  groups := listing.groups.filterMap (e.eraseGroup? inPart)

theorem visibleAlerts_eq_nil_of_any {alerts : List Alert}
    (h : (alerts.any fun alert ↦ e.allows alert.labels) = false) : e.visibleAlerts alerts = [] := by
  simpa [visibleAlerts, List.filter_eq_nil_iff] using h

/-- The visible part of a rule depends on its visible alerts alone: neither the hidden alerts
between them nor the state of the rule play a part. -/
theorem visiblePart?_blank (rule : AlertingRule) :
    e.visiblePart? (e.blank rule) = e.visiblePart? rule :=
  e.visiblePart?_eq_of_alerts rule "" (visibleAlerts_visibleAlerts (.refl e) rule.alerts)

/-- What is seen of a rule is seen of its erasure. -/
theorem bind_eraseRule? (inPart : Bool) (rule : Rule) :
    (e.eraseRule? inPart rule).bind (e.visibleRule? inPart) = e.visibleRule? inPart rule := by
  unfold eraseRule?
  cases allowed : e.allows rule.labels with
  | true => rfl
  | false =>
    rw [if_neg (Bool.false_ne_true)]
    cases rule with
    | recording rule =>
      rw [e.visibleRule?_recording inPart allowed]
      rfl
    | alerting rule =>
      have hblank : e.allows (e.blank rule).labels = false := allowed
      simp only
      split
      · rw [Option.bind_some, e.visibleRule?_alerting inPart hblank,
          e.visibleRule?_alerting inPart allowed, e.visiblePart?_blank]
      · next hunseen =>
        rw [Option.bind_none, e.visibleRule?_alerting inPart allowed]
        rcases Bool.and_eq_false_iff.mp (Bool.not_eq_true _ ▸ hunseen) with hoff | hnone
        · rw [hoff]
          rfl
        · have hunseen' : e.visiblePart? rule = none := by
            rw [visiblePart?_eq, e.visibleAlerts_eq_nil_of_any hnone]
            rfl
          rw [hunseen', Option.map_none, ite_self]

/-- The filter cannot tell a listing from its erasure. -/
theorem filterRules_erase (inPart : Bool) (listing : RuleListing) :
    e.filterRules inPart (e.erase inPart listing) = e.filterRules inPart listing := by
  have herase : e.erase inPart listing = listing.pick (e.eraseRule? inPart) := rfl
  rw [filterRules_eq_pick, filterRules_eq_pick, herase,
    RuleListing.pick_pick (e.bind_eraseRule? inPart)]

/-- Listings with one erasure have one visible part. -/
theorem filterRules_congr {inPart : Bool} {first second : RuleListing}
    (h : e.erase inPart first = e.erase inPart second) :
    e.filterRules inPart first = e.filterRules inPart second := by
  rw [← e.filterRules_erase inPart first, h, e.filterRules_erase]

end Enforcement

end TenantView
