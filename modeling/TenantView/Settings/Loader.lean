import TenantView.Environment
import TenantView.Event
import TenantView.Files
import TenantView.Settings.Reader
import TenantView.Template
import TenantView.Text.Blank
import TenantView.Text.Quoted

/-!
# Loading settings

The settings come from a file: one that is asked for, else one that the environment names, else
one at the usual places.  The text of the file is a template that is filled in from the
environment before it is read.  The settings are then valid unless they have a flaw.
-/

namespace TenantView.Settings

/-- Why settings cannot be loaded. -/
inductive Error
  | flawed (flaw : Flaw)
  | missingVariable (name : String)
  | malformed
  | unreadable (cause : Files.Error)
  | notFound (searched : List String)
  | emptyFile
deriving DecidableEq

/-- What stands for the reason why a text is refused. -/
def yamlReason : String := "<yaml>"

/-- The wording of a flaw. -/
def Flaw.message : Flaw → String
  | unsupportedSchema version =>
    "unsupported schema version " ++ Nat.repr version.toNat ++ ", expected " ++
      Nat.repr knownSchema.toNat
  | invalidLabelName label =>
    "invalid label name '" ++ label ++ "': must match [a-zA-Z_][a-zA-Z0-9_]*"

/-- The wording of an error. -/
def Error.message : Error → String
  | flawed flaw => flaw.message
  | missingVariable name =>
    "environment variable '" ++ name ++ "' not set (required for field 'configuration')"
  | malformed => "YAML parse error: " ++ yamlReason
  | unreadable cause => "I/O error: " ++ cause.message
  | notFound searched =>
    "configuration file not found (searched: " ++ Text.quotedList searched ++ ")"
  | emptyFile => "configuration file is empty"

/-- The settings unless they have a flaw. -/
def validate (settings : Settings) : Except Error Settings :=
  match settings.flaw? with
  | some flaw => .error (.flawed flaw)
  | none => .ok settings

/-- The settings that the text of a file spells in an environment. -/
def parse (env : Environment) (text : String) : Except Error Settings :=
  if (Text.trim text.toList).isEmpty then .error .emptyFile
  else
    match Template.substitute env text with
    | .error name => .error (.missingVariable name)
    | .ok text =>
      match ofText? text with
      | none => .error .malformed
      | some settings => .ok settings

/-- The settings in the file at a path. -/
def load (files : Files) (env : Environment) (path : String) : Except Error Settings :=
  match files.readText path with
  | .error cause => .error (.unreadable cause)
  | .ok text => parse env text

/-- The word for a mode in the log. -/
def modeWord : MatchMode → String
  | .exact => "Exact"
  | .regex => "Regex"
  | .glob => "Glob"

/-- The valid settings in the file at a path. -/
def loadValid (files : Files) (env : Environment) (path : String) :
    Except Error (Logged Settings) := do
  let settings ← validate (← load files env path)
  let event :=
    .settingsLoaded path settings.label (modeWord settings.mode) settings.rulesWithActiveAlerts
  return { value := settings, events := [event] }

/-- The variable that names the file. -/
def pathVariable : String := "TENANTGATE_CONFIG"

/-- The usual places of the file. -/
def usualPaths : List String := ["/etc/tenantgate/config.yaml", "./config.yaml"]

/-- The places of the file, in the order in which they are tried. -/
def defaultPaths (env : Environment) : List String :=
  (env.value? pathVariable).toList ++ usualPaths

/-- The path of the file: only the one that is asked for, or the first that is there. -/
def findPath (files : Files) (env : Environment) (asked : Option String) :
    Except Error String :=
  let paths := (asked.map ([·])).getD (defaultPaths env)
  match paths.find? files.doesExist with
  | some path => .ok path
  | none => .error (.notFound paths)

end TenantView.Settings
