import TenantView.Glob.Match
import TenantView.LabelSet
import TenantView.Regex.Match
import TenantView.Regex.Parser
import TenantView.Text.Quoted

/-!
# Matchers of label values

A tenant is given the label values it may see, in one of three modes: the values themselves, one
regular expression for the whole value, or glob patterns.  A matcher is built from the values
once and then asked about the value of each record.
-/

namespace TenantView

/-- How the values given to a tenant are to be read. -/
inductive MatchMode
  | exact
  | regex
  | glob
deriving DecidableEq, Repr

/-- A matcher of label values. -/
inductive Matcher
  | exact (values : List String)
  | regex (expression : Regex)
  | glob (patterns : List (List Glob.Token))

namespace Matcher

/-- Why no matcher can be built. -/
inductive Error
  | noValues
  | regexValueCount (count : Nat)
  | invalidRegex (pattern : String)
  | invalidGlob (pattern : String) (reason : Glob.Error)
deriving DecidableEq, Repr

/-- What stands for the reason why a regular expression is refused. -/
def regexReason : String := "<regex>"

/-- The wording of an error. -/
def Error.message : Error → String
  | noValues => "no allowed label values"
  | regexValueCount count =>
    "regex matching requires exactly one label value, got " ++ toString count
  | invalidRegex pattern => "invalid regex " ++ Text.quoted pattern ++ ": " ++ regexReason
  | invalidGlob pattern reason =>
    "invalid glob pattern " ++ Text.quoted pattern ++ ": " ++ reason.message

/-- The pattern that describes whole values: the given one between the conditions that the value
begins and ends there. -/
def anchored (pattern : String) : String :=
  "^(?:" ++ pattern ++ ")$"

/-- The tokens of one glob pattern. -/
def globTokens (pattern : String) : Except Error (List Glob.Token) :=
  (Glob.parse pattern).mapError (.invalidGlob pattern)

/-- The matcher of the given values. -/
def ofValues (mode : MatchMode) (values : List String) : Except Error Matcher :=
  match mode, values with
  | _, [] => .error .noValues
  | .exact, values => .ok (.exact values)
  | .regex, [pattern] =>
    match Regex.parse? (anchored pattern) with
    | some expression => .ok (.regex expression)
    | none => .error (.invalidRegex pattern)
  | .regex, values => .error (.regexValueCount values.length)
  | .glob, values => (values.mapM globTokens).map .glob

/-- Whether the matcher accepts a value. -/
def accepts (matcher : Matcher) (value : String) : Bool :=
  match matcher with
  | exact values => values.contains value
  | regex expression => expression.isMatch value
  | glob patterns => patterns.any (Glob.isMatch · value)

end Matcher

/-- What is enforced for a tenant: the label that decides, and the matcher of its values. -/
structure Enforcement where
  label : String
  matcher : Matcher

/-- Whether a record with the given labels may be seen.  A missing or empty label is never
enough. -/
def Enforcement.allows (enforcement : Enforcement) (labels : LabelSet) : Bool :=
  let value := labels.get enforcement.label
  !value.isEmpty && enforcement.matcher.accepts value

end TenantView
