import TenantView.Document.Listing
import TenantView.Event
import TenantView.Matcher

/-!
# What a tenant may see

A listing is cut down to its visible part.  A rule is visible as a whole when its own labels are
allowed.  An alerting rule that is not may still be seen in part, through those of its alerts
whose labels are allowed, if that is asked for.  Groups without a visible rule disappear, and so
do alerts whose labels are not allowed.  Whatever stays keeps its order.  A rule is gone through
alert by alert, and a listing group by group, where the rules are counted on the way for the log.
-/

namespace TenantView

/-- The states of an alert that a part of a rule distinguishes. -/
def pendingState : String := "pending"

/-- The state of an alert that is raised. -/
def firingState : String := "firing"

/-- The state of a part of a rule when one more alert is taken into it: the first state that is
not empty stays, except that a pending part becomes firing with a firing alert. -/
def nextState (state alertState : String) : String :=
  if state = "" then alertState
  else if state = pendingState ∧ alertState = firingState then alertState
  else state

namespace Enforcement

variable (e : Enforcement)

/-- The alerts that may be seen. -/
def visibleAlerts (alerts : List Alert) : List Alert :=
  alerts.filter fun alert ↦ e.allows alert.labels

/-- The part of a rule behind one more of its alerts, if there is one.  An alert that may be seen is
taken into it; the first of them begins it. -/
def takeIn (rule : AlertingRule) (part? : Option AlertingRule) (place : Fin rule.alerts.length) :
    Option AlertingRule :=
  let alert := rule.alerts[place]
  if e.allows alert.labels then
    let part := part?.getD { rule with alerts := [], state := "" }
    -- the state is looked up at the place in the rule, not at the end of the part
    let state := nextState part.state rule.alerts[place].state
    some { part with alerts := part.alerts ++ [alert], state }
  else part?

/-- The visible part of an alerting rule whose own labels are not allowed. -/
def visiblePart? (rule : AlertingRule) : Option AlertingRule :=
  (List.finRange rule.alerts.length).foldl (e.takeIn rule) none

/-- What may be seen of a rule. -/
def visibleRule? (inPart : Bool) (rule : Rule) : Option Rule :=
  if e.allows rule.labels then some rule
  else if inPart then
    match rule with
    | .alerting rule => (e.visiblePart? rule).map .alerting
    | .recording _ => none
  else none

/-- What may be seen of a group. -/
def visibleGroup? (inPart : Bool) (group : RuleGroup) : Option RuleGroup :=
  match group.rules.filterMap (e.visibleRule? inPart) with
  | [] => none
  | rules => some { group with rules }

end Enforcement

/-- What the way through the groups of a listing has come to: the groups that are left, and the
rules that have been counted, all of them and those that are left. -/
structure RuleWalk where
  groups : List RuleGroup
  before : Nat
  after : Nat
deriving DecidableEq

namespace RuleWalk

/-- Before the first group. -/
def start : RuleWalk where
  groups := []
  before := 0
  after := 0

/-- Behind one more group.  Its rules are counted in any case, and what is left of them is counted
if the group stays. -/
def step (walk : RuleWalk) (group : RuleGroup) (shown : Option RuleGroup) : RuleWalk :=
  let before := walk.before + group.rules.length
  match shown with
  | some shown =>
    { groups := walk.groups ++ [shown], before, after := walk.after + shown.rules.length }
  | none => { walk with before }

/-- The listing of the groups that are left. -/
def listing (walk : RuleWalk) : RuleListing where
  groups := walk.groups

end RuleWalk

namespace Enforcement

variable (e : Enforcement)

/-- The way through the groups of a listing. -/
def walk (inPart : Bool) (groups : List RuleGroup) : RuleWalk :=
  groups.foldl (fun walk group ↦ walk.step group (e.visibleGroup? inPart group)) .start

/-- The visible part of a rule listing. -/
def filterRules (inPart : Bool) (listing : RuleListing) : RuleListing :=
  (e.walk inPart listing.groups).listing

/-- The visible part of an alert listing. -/
def filterAlerts (listing : AlertListing) : AlertListing where
  alerts := e.visibleAlerts listing.alerts

/-- What is reported when a rule listing has been cut down: the numbers of its groups and rules
before and after, unless there are as many groups and as many rules as before. -/
def walkEvents (before : RuleListing) (walk : RuleWalk) : List Event :=
  if walk.groups.length ≠ before.groups.length ∨ walk.after ≠ walk.before then
    [.rulesFiltered e.label ⟨before.groups.length, walk.before⟩ ⟨walk.groups.length, walk.after⟩]
  else []

/-- What is reported when an alert listing has been cut down: how many alerts have gone and how
many are left, unless none has gone. -/
def alertEvents (before after : AlertListing) : List Event :=
  let filtered := before.alerts.length - after.alerts.length
  if filtered > 0 then [.alertsFiltered e.label filtered after.alerts.length] else []

end Enforcement

end TenantView
