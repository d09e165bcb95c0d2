import TenantView.Yaml.Cursor

/-!
# Folding of lines

Between the words of a scalar that goes over several lines, blanks around a line break count for
nothing, a single line break is a space, and of several line breaks all but the first are kept.
Within a line the blanks are kept as they are.
-/

namespace TenantView.Yaml

/-- What stands between two words of a scalar. -/
structure Spacing where
  /-- The blanks in front of the first line break, in reverse. -/
  blanks : List Char := []
  breaks : Nat := 0

namespace Spacing

/-- The text that the spacing is folded to. -/
def text (s : Spacing) : List Char :=
  match s.breaks with
  | 0 => s.blanks.reverse
  | 1 => [' ']
  | n + 2 => List.replicate (n + 1) '\n'

/-- The text that the spacing behind an escaped line break is folded to. -/
def escapedText (s : Spacing) : List Char :=
  List.replicate s.breaks '\n'

end Spacing

/-- Whether a tab stands where the indentation demands spaces. -/
def isTabInIndent (indent : Int) (c : Cursor) : Bool :=
  c.next = some '\t' && c.column < indent

end TenantView.Yaml
