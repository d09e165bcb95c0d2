import Mathlib.Data.List.FinRange
import TenantView.Visibility

/-!
# The ways through rules and listings

The filter goes through a rule alert by alert, and through a listing group by group, with what has
been found so far.  Step by step a part of a rule is the part that holds the alerts that have been
seen up to there (`takeIn_part?`), and what has been counted of a listing are the rules of the
groups up to there and of what is left of them (`RuleWalk.step_through`).  So in the end the part of
a rule holds the alerts that may be seen (`visiblePart?_eq`), the rules of a listing and of what is
left of it have been counted (`walk_eq`), and the filtered listing is what is visible of each group
(`filterRules_eq`).
-/

namespace TenantView

/-! ## Alert by alert -/

/-- The state of a part of a rule, from the states of its alerts in their order. -/
def partState (alerts : List Alert) : String :=
  (alerts.map Alert.state).foldl nextState ""

theorem partState_append (alerts : List Alert) (alert : Alert) :
    partState (alerts ++ [alert]) = nextState (partState alerts) alert.state := by
  simp [partState]

/-- The part of a rule that holds the given alerts; without alerts there is none. -/
def AlertingRule.part? (rule : AlertingRule) (alerts : List Alert) : Option AlertingRule :=
  if alerts = [] then none else some { rule with alerts, state := partState alerts }

/-- A part that is not there is like one without alerts. -/
theorem AlertingRule.getD_part? (rule : AlertingRule) (alerts : List Alert) :
    (rule.part? alerts).getD { rule with alerts := [], state := "" } =
      { rule with alerts, state := partState alerts } := by
  unfold part?
  split
  · next hnone =>
    subst hnone
    rfl
  · rfl

namespace Enforcement

variable (e : Enforcement)

theorem visibleAlerts_append (alerts behind : List Alert) :
    e.visibleAlerts (alerts ++ behind) = e.visibleAlerts alerts ++ e.visibleAlerts behind :=
  List.filter_append alerts behind

/-- Behind one more alert the part holds it as well, if it may be seen. -/
theorem takeIn_part? (rule : AlertingRule) (seen : List Alert) (place : Fin rule.alerts.length) :
    e.takeIn rule (rule.part? seen) place =
      rule.part? (seen ++ e.visibleAlerts [rule.alerts.get place]) := by
  by_cases hallows : e.allows (rule.alerts.get place).labels = true
  · have hvisible : e.visibleAlerts [rule.alerts.get place] = [rule.alerts.get place] :=
      List.filter_cons_of_pos hallows
    have hne : seen ++ [rule.alerts.get place] ≠ [] :=
      List.append_ne_nil_of_right_ne_nil _ (List.cons_ne_nil _ _)
    refine (if_pos hallows).trans ?_
    rw [hvisible, rule.getD_part?, AlertingRule.part?, if_neg hne, partState_append]
    rfl
  · have hvisible : e.visibleAlerts [rule.alerts.get place] = [] :=
      List.filter_cons_of_neg hallows
    refine (if_neg hallows).trans ?_
    rw [hvisible, List.append_nil]

/-- Behind alerts at several places the part holds those of them that may be seen. -/
theorem foldl_takeIn (rule : AlertingRule) (seen : List Alert)
    (places : List (Fin rule.alerts.length)) :
    places.foldl (e.takeIn rule) (rule.part? seen) =
      rule.part? (seen ++ e.visibleAlerts (places.map rule.alerts.get)) := by
  induction places generalizing seen with
  | nil => exact congrArg rule.part? (List.append_nil seen).symm
  | cons place places ih =>
    have hsplit : e.visibleAlerts ((place :: places).map rule.alerts.get) =
        e.visibleAlerts [rule.alerts.get place] ++ e.visibleAlerts (places.map rule.alerts.get) :=
      e.visibleAlerts_append [rule.alerts.get place] _
    rw [List.foldl_cons, e.takeIn_part?, ih, hsplit, List.append_assoc]

/-- **The visible part of a rule holds the alerts that may be seen**, and their states in this order
make its state. -/
theorem visiblePart?_eq (rule : AlertingRule) :
    e.visiblePart? rule = rule.part? (e.visibleAlerts rule.alerts) := by
  have hall := e.foldl_takeIn rule [] (List.finRange rule.alerts.length)
  rwa [List.map_get_finRange, List.nil_append] at hall

end Enforcement

/-! ## Group by group -/

/-- The way that has gone through some groups and left others of them. -/
def RuleWalk.through (groups shown : List RuleGroup) : RuleWalk where
  groups := shown
  before := (groups.flatMap RuleGroup.rules).length
  after := (shown.flatMap RuleGroup.rules).length

/-- One more group is counted with its rules, and with what is left of them if it stays. -/
theorem RuleWalk.step_through (groups shown : List RuleGroup) (group : RuleGroup)
    (left : Option RuleGroup) :
    (through groups shown).step group left =
      through (groups ++ [group]) (shown ++ left.toList) := by
  cases left <;> simp [step, through]

namespace Enforcement

variable (e : Enforcement) (inPart : Bool)

/-- What may be seen of groups, in their order. -/
def visibleGroups (groups : List RuleGroup) : List RuleGroup :=
  groups.filterMap (e.visibleGroup? inPart)

/-- Further groups are added to what has been gone through. -/
theorem foldl_step (groups shown further : List RuleGroup) :
    further.foldl (fun (walk : RuleWalk) group ↦ walk.step group (e.visibleGroup? inPart group))
        (RuleWalk.through groups shown) =
      RuleWalk.through (groups ++ further) (shown ++ e.visibleGroups inPart further) := by
  induction further generalizing groups shown with
  | nil => simp [visibleGroups]
  | cons group further ih =>
    have hleft : e.visibleGroups inPart (group :: further) =
        (e.visibleGroup? inPart group).toList ++ e.visibleGroups inPart further := by
      cases h : e.visibleGroup? inPart group <;> simp [visibleGroups, h]
    rw [List.foldl_cons, RuleWalk.step_through, ih, hleft, List.append_assoc, List.append_assoc,
      List.singleton_append]

/-- **In the end the way has gone through all groups and left what may be seen of each**, and the
rules of all of them and of what is left have been counted. -/
theorem walk_eq (groups : List RuleGroup) :
    e.walk inPart groups = .through groups (e.visibleGroups inPart groups) :=
  e.foldl_step inPart [] [] groups

/-- The visible part of a listing is what is visible of each of its groups. -/
theorem filterRules_eq (listing : RuleListing) :
    e.filterRules inPart listing = { groups := e.visibleGroups inPart listing.groups } := by
  rw [filterRules, walk_eq]
  rfl

end Enforcement

end TenantView
