import Mathlib.Data.List.Forall2
import TenantView.Proofs.Visibility.Walk

/-!
# The visible part of a listing is exact

A filtered listing is compared with the listing position by position.  `Yields` says what a rule
leaves in it: itself, one part that holds just its allowed alerts, or nothing.  `GroupYields` says
the same of a group, which stays with what its rules leave unless they all leave nothing.  Neither
mentions the filter.  The filter leaves exactly that (`filterRules_flatten`), so no rule is lost,
repeated or moved to another group, and whatever is left is allowed (`filterRules_exact`).
-/

namespace TenantView

/-- The alerts of a rule; a rule that records a series has none. -/
def Rule.alerts : Rule → List Alert
  | .alerting rule => rule.alerts
  | .recording _ => []

/-- The two rules agree in every field but their state and their alerts. -/
structure AlertingRule.AgreesWith (part rule : AlertingRule) : Prop where
  name : part.name = rule.name
  query : part.query = rule.query
  duration : part.duration = rule.duration
  keepFiringFor : part.keepFiringFor = rule.keepFiringFor
  labels : part.labels = rule.labels
  annotations : part.annotations = rule.annotations
  health : part.health = rule.health
  lastError : part.lastError = rule.lastError
  evaluationTime : part.evaluationTime = rule.evaluationTime
  lastEvaluation : part.lastEvaluation = rule.lastEvaluation

namespace Enforcement

variable (e : Enforcement)

/-- What a rule leaves in a filtered listing.  A rule that is not allowed leaves a part of itself
only if that is asked for and one of its alerts is allowed; the part then holds its allowed alerts
in their order. -/
inductive Yields (inPart : Bool) : Rule → List Rule → Prop
  | whole {rule : Rule} (allowed : e.allows rule.labels = true) : Yields inPart rule [rule]
  | part {rule part : AlertingRule} (hidden : e.allows rule.labels = false)
      (asked : inPart = true) (seen : ∃ alert ∈ rule.alerts, e.allows alert.labels = true)
      (agrees : part.AgreesWith rule)
      (alerts : part.alerts = rule.alerts.filter fun alert ↦ e.allows alert.labels) :
      Yields inPart (.alerting rule) [.alerting part]
  | nothing {rule : Rule} (hidden : e.allows rule.labels = false)
      (unseen : inPart = false ∨ ∀ alert ∈ rule.alerts, e.allows alert.labels = false) :
      Yields inPart rule []

/-- What a group leaves in a filtered listing: itself with what its rules leave, position by
position, or nothing if they leave nothing. -/
inductive GroupYields (inPart : Bool) : RuleGroup → List RuleGroup → Prop
  | kept {group : RuleGroup} {yields : List (List Rule)}
      (rules : List.Forall₂ (e.Yields inPart) group.rules yields) (some_left : yields.flatten ≠ []) :
      GroupYields inPart group [{ group with rules := yields.flatten }]
  | dropped {group : RuleGroup} (rules : ∀ rule ∈ group.rules, e.Yields inPart rule []) :
      GroupYields inPart group []

/-- A rule of a filtered listing comes from a rule of the listing: it is that rule, which is
allowed, or a part of it that holds allowed alerts and nothing else that could differ. -/
def ComesFrom (inPart : Bool) (shown rule : Rule) : Prop :=
  (e.allows rule.labels = true ∧ shown = rule) ∨
    (inPart = true ∧ e.allows rule.labels = false ∧ ∃ parent part : AlertingRule,
      rule = .alerting parent ∧ shown = .alerting part ∧ part.AgreesWith parent ∧
        part.alerts ≠ [] ∧ ∀ alert ∈ part.alerts, e.allows alert.labels = true)

/-- The alerts that may be seen are gone exactly if no alert is allowed. -/
theorem visibleAlerts_eq_nil_iff {alerts : List Alert} :
    e.visibleAlerts alerts = [] ↔ ∀ alert ∈ alerts, e.allows alert.labels = false := by
  simp [visibleAlerts, List.filter_eq_nil_iff]

/-- A rule that is not allowed has a visible part exactly if one of its alerts is allowed. -/
theorem visiblePart?_eq_none_iff {rule : AlertingRule} :
    e.visiblePart? rule = none ↔ ∀ alert ∈ rule.alerts, e.allows alert.labels = false := by
  rw [← e.visibleAlerts_eq_nil_iff, visiblePart?_eq, AlertingRule.part?]
  split
  · next hnone => exact iff_of_true rfl hnone
  · next hne => exact iff_of_false (Option.some_ne_none _) hne

/-- A visible part holds the allowed alerts, of which there are some, and agrees with the rule in
everything else but its state. -/
theorem of_visiblePart?_eq_some {rule part : AlertingRule} (h : e.visiblePart? rule = some part) :
    part.AgreesWith rule ∧ part.alerts = e.visibleAlerts rule.alerts ∧
      part.state = partState part.alerts ∧ part.alerts ≠ [] := by
  rw [visiblePart?_eq, AlertingRule.part?] at h
  split at h
  · cases h
  · next hne =>
    cases h
    exact ⟨⟨rfl, rfl, rfl, rfl, rfl, rfl, rfl, rfl, rfl, rfl⟩, rfl, rfl, hne⟩

/-- What the filter makes of a rule is what the rule leaves. -/
theorem yields_visibleRule? (inPart : Bool) (rule : Rule) :
    e.Yields inPart rule (e.visibleRule? inPart rule).toList := by
  unfold visibleRule?
  cases allowed : e.allows rule.labels with
  | true => exact .whole allowed
  | false =>
    cases inPart with
    | false => exact .nothing allowed (.inl rfl)
    | true =>
      cases rule with
      | recording rule => exact .nothing allowed (.inr fun alert h ↦ nomatch h)
      | alerting rule =>
        simp only [Bool.false_eq_true, if_false, if_true]
        cases hpart : e.visiblePart? rule with
        | none => exact .nothing allowed (.inr (e.visiblePart?_eq_none_iff.mp hpart))
        | some part =>
          obtain ⟨agrees, alerts, -, hne⟩ := e.of_visiblePart?_eq_some hpart
          have seen : ∃ alert ∈ rule.alerts, e.allows alert.labels = true := by
            obtain ⟨alert, hmem⟩ := List.exists_mem_of_ne_nil _ (alerts ▸ hne)
            exact ⟨alert, List.mem_filter.mp hmem⟩
          exact .part allowed rfl seen agrees alerts

/-- Whatever a rule leaves comes from it. -/
theorem Yields.comesFrom {e : Enforcement} {inPart : Bool} {rule : Rule} {yield : List Rule}
    (h : e.Yields inPart rule yield) {shown : Rule} (hmem : shown ∈ yield) :
    e.ComesFrom inPart shown rule := by
  cases h with
  | whole allowed => exact .inl ⟨allowed, List.mem_singleton.mp hmem⟩
  | nothing => cases hmem
  | @part rule part hidden asked seen agrees alerts =>
    refine .inr ⟨asked, hidden, rule, part, rfl, List.mem_singleton.mp hmem, agrees, ?_, ?_⟩
    · obtain ⟨alert, hin, hallowed⟩ := seen
      exact List.ne_nil_of_mem (alerts ▸ List.mem_filter.mpr ⟨hin, hallowed⟩)
    · intro alert hin
      rw [alerts] at hin
      exact (List.mem_filter.mp hin).2

/-- Picking from a list is putting together what each position leaves. -/
private theorem filterMap_eq_flatten {α β : Type} (f : α → Option β) (l : List α) :
    l.filterMap f = (l.map fun x ↦ (f x).toList).flatten := by
  induction l with
  | nil => rfl
  | cons x l ih => cases h : f x <;> simp [h, ih]

/-- The rules of a group leave, position by position, what the filter makes of them. -/
theorem forall₂_yields (inPart : Bool) (rules : List Rule) :
    List.Forall₂ (e.Yields inPart) rules
      (rules.map fun rule ↦ (e.visibleRule? inPart rule).toList) :=
  List.forall₂_map_right_iff.mpr
    (List.forall₂_same.mpr fun rule _ ↦ e.yields_visibleRule? inPart rule)

/-- What the filter makes of a group is what the group leaves. -/
theorem groupYields_visibleGroup? (inPart : Bool) (group : RuleGroup) :
    e.GroupYields inPart group (e.visibleGroup? inPart group).toList := by
  have hrules := e.forall₂_yields inPart group.rules
  unfold visibleGroup?
  split
  · next hnone =>
    refine .dropped fun rule hmem ↦ ?_
    have hgone : e.visibleRule? inPart rule = none := List.filterMap_eq_nil_iff.mp hnone rule hmem
    simpa [hgone] using e.yields_visibleRule? inPart rule
  · next hsome =>
    rw [filterMap_eq_flatten] at hsome ⊢
    exact .kept hrules hsome

/-- The filtered listing is what the groups leave, put together position by position. -/
theorem filterRules_flatten (inPart : Bool) (listing : RuleListing) :
    ∃ yields : List (List RuleGroup),
      List.Forall₂ (e.GroupYields inPart) listing.groups yields ∧
        (e.filterRules inPart listing).groups = yields.flatten := by
  refine ⟨listing.groups.map fun group ↦ (e.visibleGroup? inPart group).toList,
    List.forall₂_map_right_iff.mpr
      (List.forall₂_same.mpr fun group _ ↦ e.groupYields_visibleGroup? inPart group), ?_⟩
  rw [filterRules_eq]
  exact filterMap_eq_flatten _ _

/-- A group of a filtered listing has a rule, and each of its rules comes from a rule of the group
it was made of. -/
theorem of_visibleGroup?_eq_some {inPart : Bool} {group shown : RuleGroup}
    (h : e.visibleGroup? inPart group = some shown) :
    shown.rules ≠ [] ∧ ∀ rule ∈ shown.rules, ∃ parent ∈ group.rules,
      e.ComesFrom inPart rule parent := by
  unfold visibleGroup? at h
  split at h
  · cases h
  · next hne =>
    cases h
    refine ⟨hne, fun rule hmem ↦ ?_⟩
    obtain ⟨parent, hin, hshown⟩ := List.mem_filterMap.mp hmem
    exact ⟨parent, hin, (e.yields_visibleRule? inPart parent).comesFrom (by simp [hshown])⟩

/-- **A filtered listing neither leaks nor loses.**  Every group has a rule, every rule comes from
a rule of the listing as `ComesFrom` says, and position by position each group and each rule leaves
exactly what it has to. -/
theorem filterRules_exact (inPart : Bool) (listing : RuleListing) :
    (∀ shown ∈ (e.filterRules inPart listing).groups, shown.rules ≠ [] ∧
      ∀ rule ∈ shown.rules, ∃ group ∈ listing.groups, ∃ parent ∈ group.rules,
        e.ComesFrom inPart rule parent) ∧
    ∃ yields : List (List RuleGroup),
      List.Forall₂ (e.GroupYields inPart) listing.groups yields ∧
        (e.filterRules inPart listing).groups = yields.flatten := by
  refine ⟨fun shown hshown ↦ ?_, e.filterRules_flatten inPart listing⟩
  rw [filterRules_eq] at hshown
  obtain ⟨group, hgroup, hsome⟩ := List.mem_filterMap.mp hshown
  obtain ⟨hne, hrules⟩ := e.of_visibleGroup?_eq_some hsome
  refine ⟨hne, fun rule hrule ↦ ?_⟩
  obtain ⟨parent, hparent, hfrom⟩ := hrules rule hrule
  exact ⟨group, hgroup, parent, hparent, hfrom⟩

end Enforcement

end TenantView
