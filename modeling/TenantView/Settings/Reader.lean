import TenantView.Settings.Basic
import TenantView.Yaml.Document
import TenantView.Yaml.Reading

/-!
# Settings as text

Settings are written as a YAML mapping.  The version and the label must be there; the mode and the
answer about rules in part have defaults, and what else is in the mapping counts for nothing.
-/

namespace TenantView

/-- The mode that a word names. -/
def MatchMode.ofName? (word : String) : Option MatchMode :=
  if word = "exact" then some .exact
  else if word = "regex" then some .regex
  else if word = "glob" then some .glob
  else none

namespace Settings

/-- The version that a node spells. -/
def schema? (node : Yaml.Node) : Option UInt32 := do
  let n ← node.nat?
  if n < UInt32.size then some (UInt32.ofNat n) else none

/-- What `read` makes of a field; the default if it is not there. -/
def field {α : Type} (fields : List (String × Yaml.Node)) (name : String) (default : Option α)
    (read : Yaml.Node → Option α) : Option α :=
  match fields.lookup name with
  | none => default
  | some node => read node

/-- The settings that a node spells. -/
def ofNode? (node : Yaml.Node) : Option Settings := do
  let fields ← node.fields?
  let schema ← field fields "schema" none schema?
  let label ← field fields "label" none (·.text?)
  let mode ← field fields "matcher" (some .exact) fun node ↦ node.choice?.bind MatchMode.ofName?
  let rulesWithActiveAlerts ←
    field fields "rules_with_active_alerts" (some false) (·.boolean?)
  return { schema, label, mode, rulesWithActiveAlerts }

/-- The settings that a text spells. -/
def ofText? (text : String) : Option Settings :=
  (Yaml.Node.ofText? text).bind ofNode?

end Settings

end TenantView
