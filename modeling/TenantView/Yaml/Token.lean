/-!
# Tokens of YAML

The tokens of a YAML text are the signs of the grammar, the scalars with their style, and the
beginnings and ends of blocks, which the text shows only by its indentation.
-/

namespace TenantView.Yaml

/-- Whether a scalar stands bare.  A bare scalar may spell nothing, or something else than a
text. -/
inductive Style
  | plain
  | marked
deriving DecidableEq, Repr

/-- A token. -/
inductive Token
  | documentStart
  | documentEnd
  | versionDirective
  | tagDirective (handle expansion : String)
  | blockSequenceStart
  | blockMappingStart
  | blockEnd
  | flowSequenceStart
  | flowSequenceEnd
  | flowMappingStart
  | flowMappingEnd
  | blockEntry
  | flowEntry
  | key
  | value
  | alias (name : String)
  | anchor (name : String)
  | tag (handle suffix : String)
  | scalar (style : Style) (text : String)
  /-- A place that cannot be read; nothing follows it. -/
  | broken
deriving DecidableEq, Repr

end TenantView.Yaml
