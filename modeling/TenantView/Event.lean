/-!
# Events worth a line in the log

Everything the library reports while it works, apart from its results.  An event knows its level,
its wording and its fields; who keeps the log decides what a line looks like.
-/

namespace TenantView

/-- How much an event matters. -/
inductive Level
  | debug
  | warn
deriving DecidableEq, Repr

/-- The usual name of a level. -/
def Level.name : Level → String
  | debug => "DEBUG"
  | warn => "WARN"

/-- The size of a rule listing. -/
structure ListingSize where
  groups : Nat
  rules : Nat
deriving DecidableEq, Repr

/-- Something that happened. -/
inductive Event
  | rulesFiltered (label : String) (before after : ListingSize)
  | alertsFiltered (label : String) (filtered remaining : Nat)
  | passedThrough
  | rewritten (received sent : Nat) (decompressed : Bool)
  | rewriteFailed (stage error : String)
  | settingsLoaded (path label matcher : String) (rulesWithActiveAlerts : Bool)
  | limitIgnored (name value default : String)
deriving DecidableEq, Repr

/-- The value of a field. -/
inductive FieldValue
  | count (n : Nat)
  | flag (b : Bool)
  | text (s : String)
deriving DecidableEq, Repr

namespace Event

/-- Failures and values that cannot be used are warnings. -/
def level : Event → Level
  | rewriteFailed .. => .warn
  | limitIgnored .. => .warn
  | _ => .debug

/-- The wording of an event. -/
def message : Event → String
  | rulesFiltered .. => "Filtered rule groups by label"
  | alertsFiltered .. => "Filtered alerts by label"
  | passedThrough => "Passing non-200 response through"
  | rewritten .. => "Rewrote API response"
  | rewriteFailed .. => "Failed to rewrite API response"
  | settingsLoaded .. => "Loaded enforcer configuration"
  | limitIgnored .. => "Invalid value for environment variable, using default"

/-- What is told beside the wording. -/
def fields : Event → List (String × FieldValue)
  | rulesFiltered label before after =>
    [("label", .text label), ("groups_before", .count before.groups),
      ("groups_after", .count after.groups), ("rules_before", .count before.rules),
      ("rules_after", .count after.rules)]
  | alertsFiltered label filtered remaining =>
    [("label", .text label), ("filtered", .count filtered), ("remaining", .count remaining)]
  | passedThrough => []
  | rewritten received sent decompressed =>
    [("original_bytes", .count received), ("rewritten_bytes", .count sent),
      ("decompressed", .flag decompressed)]
  | rewriteFailed stage error => [("stage", .text stage), ("error", .text error)]
  | settingsLoaded path label matcher rulesWithActiveAlerts =>
    [("path", .text path), ("label", .text label), ("matcher", .text matcher),
      ("rules_with_active_alerts", .flag rulesWithActiveAlerts)]
  | limitIgnored name value default =>
    [("env_var", .text name), ("value", .text value), ("default", .text default)]

end Event

/-- A value with the events on the way to it. -/
structure Logged (α : Type) where
  value : α
  events : List Event

end TenantView
