import TenantView.Text.Property

/-!
# Characters that quoting escapes

Inside quotes a character is spelled out by its code point when it has no visible form of its
own: controls, format characters, unassigned and private code points, every separator but the
plain blank, and the marks that extend the character before them.
-/

namespace TenantView.Text

/-- The characters without a visible form of their own, the plain blank apart. -/
def escaped : CharSet :=
  (Category.other ∪ Category.separator ∪ Property.graphemeExtend) \ .singleton ' '

/-- Whether quoting spells the character out by its code point. -/
def isEscaped (c : Char) : Bool :=
  escaped.contains c

end TenantView.Text
