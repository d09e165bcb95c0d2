import TenantView.Text.Blank
import TenantView.Text.Digit
import TenantView.Yaml.Base
import TenantView.Yaml.Node

/-!
# What scalars are read as

A scalar is a text, a number or a truth value depending on what is asked for, not on how it looks.
Only a bare word for nothing is never a text.  Numbers and truth values may stand between blanks.
-/

namespace TenantView.Yaml.Node

/-- The text that a node spells. -/
def text? : Node → Option String
  | .scalar .text _ text => some text
  | .scalar .binary _ text => binaryText? text
  | .scalar .typed .. => none
  | .scalar tag style text => if isNull (.scalar tag style text) then none else some text
  | _ => none

/-- The characters of a scalar without blanks around them. -/
def word? : Node → Option (List Char)
  | .scalar _ _ text => some (Text.trim text.toList)
  | _ => none

/-- The number that digits of a radix spell; underscores between them count for nothing. -/
def number? (radix : Nat) (cs : List Char) : Option Nat :=
  let digits := cs.filter (· ≠ '_')
  if digits.isEmpty then none else Text.readDigits? radix 0 digits

/-- The number behind its sign: a letter behind a zero announces another radix than ten. -/
def unsigned? : List Char → Option Nat
  | '0' :: 'x' :: cs => number? 16 cs
  | '0' :: 'X' :: cs => number? 16 cs
  | '0' :: 'o' :: cs => number? 8 cs
  | '0' :: 'O' :: cs => number? 8 cs
  | '0' :: 'b' :: cs => number? 2 cs
  | '0' :: 'B' :: cs => number? 2 cs
  | cs => number? 10 cs

/-- The natural number that a node spells. -/
def nat? (node : Node) : Option Nat := do
  match ← node.word? with
  | '+' :: cs => unsigned? cs
  | cs => unsigned? cs

/-- The words for yes. -/
def yesWords : List String := ["true", "yes", "y", "on"]

/-- The words for no. -/
def noWords : List String := ["false", "no", "n", "off"]

/-- The truth value that a node spells, in letters of either case. -/
def boolean? (node : Node) : Option Bool := do
  let word := String.ofList ((← node.word?).map Char.toLower)
  if yesWords.contains word then some true
  else if noWords.contains word then some false
  else none

/-- The word that chooses one of several, alone or as the key of nothing. -/
def choice? : Node → Option String
  | .mapping [(key, value)] => if isNull value then text? key else none
  | .scalar tag style text =>
    match tag with
    | .foreign _ => none
    | _ => text? (.scalar tag style text)
  | _ => none

/-- The entries of a mapping with texts as keys. -/
def fields? : Node → Option (List (String × Node))
  | .mapping entries => entries.mapM fun (key, value) ↦ (text? key).map (·, value)
  | _ => none

end TenantView.Yaml.Node
