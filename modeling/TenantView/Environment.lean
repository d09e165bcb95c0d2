/-!
# The environment

A process is started with variables that have values.  A value counts only if it is readable as
text.
-/

namespace TenantView

/-- The variables of a process. -/
structure Environment where
  /-- The value of a variable, if it is set to a text.  A variable that is set to anything else,
  such as bytes that spell no characters, counts as missing, like one that is not set. -/
  value? : String → Option String

end TenantView
