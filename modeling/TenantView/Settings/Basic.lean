import TenantView.Matcher
import TenantView.Text.Identifier

/-!
# Settings

The settings say which label decides what a tenant may see, how the values given to a tenant are
to be read, and whether rules may be seen in part.  They carry the version of their own format,
of which there is one so far.
-/

namespace TenantView

/-- The settings of a deployment. -/
structure Settings where
  schema : UInt32 := 1
  label : String
  mode : MatchMode := .exact
  /-- Whether an alerting rule may be seen in part, through those of its alerts that may be
  seen. -/
  rulesWithActiveAlerts : Bool := false
deriving DecidableEq

namespace Settings

/-- The version of the format that is understood. -/
def knownSchema : UInt32 := 1

/-- Whether a text is a label name: an identifier. -/
def isLabelName (text : String) : Bool :=
  Text.isIdentifier text.toList

/-- Why settings are not valid. -/
inductive Flaw
  | unsupportedSchema (version : UInt32)
  | invalidLabelName (label : String)
deriving DecidableEq

/-- The first flaw of the settings, if they have one. -/
def flaw? (settings : Settings) : Option Flaw :=
  if settings.schema ≠ knownSchema then some (.unsupportedSchema settings.schema)
  else if !isLabelName settings.label then some (.invalidLabelName settings.label)
  else none

/-- What is enforced for a tenant with the given values. -/
def enforcement (settings : Settings) (values : List String) :
    Except Matcher.Error Enforcement :=
  (Matcher.ofValues settings.mode values).map fun matcher ↦
    { label := settings.label, matcher }

end Settings

end TenantView
