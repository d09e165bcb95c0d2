import TenantView.Proofs.Visibility.Picking

/-!
# A narrower filter absorbs a wider one

Whatever a tenant may see is left by a filter with wider rights: a record that the tenant may see
stays as it is, and the part of a rule that the wider filter leaves has all alerts of the part that
the tenant gets, in the same order.  So the filter of the tenant finds the same in what is left as
in the listing itself (`filterRules_filterRules`, `filterAlerts_filterAlerts`).
-/

namespace TenantView

namespace Enforcement

/-- Whatever is allowed is also allowed with wider rights. -/
def IsNarrower (e wider : Enforcement) : Prop :=
  ∀ labels, e.allows labels = true → wider.allows labels = true

theorem IsNarrower.refl (e : Enforcement) : e.IsNarrower e :=
  fun _ hallows ↦ hallows

/-- Exact values among others give narrower rights. -/
theorem isNarrower_exact (label : String) {values others : List String} (h : values ⊆ others) :
    IsNarrower ⟨label, .exact values⟩ ⟨label, .exact others⟩ := by
  intro labels hallows
  simp only [allows, Matcher.accepts, Bool.and_eq_true, List.contains_iff_mem] at hallows ⊢
  exact ⟨hallows.1, h hallows.2⟩

section Hidden

variable (e : Enforcement) (inPart : Bool)

/-- The visible part of a rule depends neither on its state nor on its hidden alerts. -/
theorem visiblePart?_eq_of_alerts (rule : AlertingRule) {alerts : List Alert} (state : String)
    (h : e.visibleAlerts alerts = e.visibleAlerts rule.alerts) :
    e.visiblePart? { rule with alerts, state } = e.visiblePart? rule := by
  simp only [visiblePart?_eq, AlertingRule.part?, h]

theorem labels_of_visiblePart? {rule part : AlertingRule} (h : e.visiblePart? rule = some part) :
    part.labels = rule.labels := by
  rw [visiblePart?_eq, AlertingRule.part?] at h
  split at h
  · cases h
  · cases h
    rfl

theorem visibleRule?_alerting {rule : AlertingRule} (hidden : e.allows rule.labels = false) :
    e.visibleRule? inPart (.alerting rule) =
      if inPart then (e.visiblePart? rule).map .alerting else none :=
  if_neg (Bool.not_eq_true _ ▸ hidden)

theorem visibleRule?_recording {rule : RecordingRule} (hidden : e.allows rule.labels = false) :
    e.visibleRule? inPart (.recording rule) = none := by
  cases inPart <;> exact if_neg (Bool.not_eq_true _ ▸ hidden)

end Hidden

section Narrower

variable {e wider : Enforcement} (h : e.IsNarrower wider)

include h

theorem visibleAlerts_visibleAlerts (alerts : List Alert) :
    e.visibleAlerts (wider.visibleAlerts alerts) = e.visibleAlerts alerts := by
  unfold visibleAlerts
  rw [List.filter_filter]
  refine List.filter_congr fun alert _ ↦ ?_
  cases hallows : e.allows alert.labels with
  | false => rfl
  | true => exact h alert.labels hallows

/-- The part that a tenant gets of a rule is also its part of what a wider filter leaves of it. -/
theorem visiblePart?_bind_visiblePart? (rule : AlertingRule) :
    (wider.visiblePart? rule).bind e.visiblePart? = e.visiblePart? rule := by
  have halerts := visibleAlerts_visibleAlerts h rule.alerts
  rw [wider.visiblePart?_eq, AlertingRule.part?]
  split
  · next hnone =>
    rw [hnone] at halerts
    rw [Option.bind_none, visiblePart?_eq, ← halerts]
    rfl
  · exact e.visiblePart?_eq_of_alerts rule _ halerts

/-- What a tenant sees of a hidden rule it also sees of the part that a wider filter leaves. -/
theorem visiblePart?_bind_visibleRule? (inPart : Bool) {rule : AlertingRule}
    (hidden : e.allows rule.labels = false) :
    ((wider.visiblePart? rule).map .alerting).bind (e.visibleRule? inPart) =
      e.visibleRule? inPart (.alerting rule) := by
  rw [e.visibleRule?_alerting inPart hidden, ← visiblePart?_bind_visiblePart? h rule]
  cases hwide : wider.visiblePart? rule with
  | none => cases inPart <;> rfl
  | some part =>
    have hidden' : e.allows part.labels = false := by
      rw [wider.labels_of_visiblePart? hwide, hidden]
    rw [Option.map_some, Option.bind_some, e.visibleRule?_alerting inPart hidden',
      Option.bind_some]

variable {inPart inPart' : Bool} (hpart : inPart = true → inPart' = true)

include hpart

/-- What a tenant sees of a rule it also sees of what a wider filter leaves of it. -/
theorem visibleRule?_bind_visibleRule? (rule : Rule) :
    (wider.visibleRule? inPart' rule).bind (e.visibleRule? inPart) =
      e.visibleRule? inPart rule := by
  cases hwide : wider.allows rule.labels with
  | true => rw [visibleRule?.eq_def wider, if_pos hwide, Option.bind_some]
  | false =>
    have hidden : e.allows rule.labels = false :=
      Bool.eq_false_iff.mpr fun hallows ↦ Bool.eq_false_iff.mp hwide (h _ hallows)
    cases rule with
    | recording rule =>
      rw [wider.visibleRule?_recording inPart' hwide, e.visibleRule?_recording inPart hidden,
        Option.bind_none]
    | alerting rule =>
      rw [wider.visibleRule?_alerting inPart' hwide]
      split
      · exact visiblePart?_bind_visibleRule? h inPart hidden
      -- the wider filter leaves no parts, so the tenant does not ask for any
      · next hwhole =>
        have hwhole' : inPart = false := Bool.eq_false_iff.mpr fun hasked ↦ hwhole (hpart hasked)
        rw [Option.bind_none, e.visibleRule?_alerting inPart hidden, hwhole']
        rfl

/-- **A narrower filter absorbs a wider one.** -/
theorem filterRules_filterRules (listing : RuleListing) :
    e.filterRules inPart (wider.filterRules inPart' listing) = e.filterRules inPart listing := by
  simp only [filterRules_eq_pick]
  exact listing.pick_pick (visibleRule?_bind_visibleRule? h hpart)

omit hpart in
/-- The same holds for alerts. -/
theorem filterAlerts_filterAlerts (listing : AlertListing) :
    e.filterAlerts (wider.filterAlerts listing) = e.filterAlerts listing :=
  congrArg AlertListing.mk (visibleAlerts_visibleAlerts h listing.alerts)

end Narrower

end Enforcement

end TenantView
