import TenantView.Regex.Basic
import TenantView.Text.Blank
import TenantView.Text.Property

/-!
# Modes of reading a regular expression

What a pattern means depends on modes, which the pattern itself may switch for the rest of a
group.  A further mode decides whether short or long stretches are preferred; it is accepted and
changes nothing, since only the existence of a stretch is asked.
-/

namespace TenantView.Regex

open Text (CharSet)

/-- The modes that are on. -/
structure Modes where
  ignoreCase : Bool := false
  multiLine : Bool := false
  dotAll : Bool := false
  crlf : Bool := false
  unicode : Bool := true
  verbose : Bool := false
deriving DecidableEq, Repr

namespace Modes

/-- The modes with one of them switched, by its letter. -/
def set? (modes : Modes) (letter : Char) (on : Bool) : Option Modes :=
  match letter with
  | 'i' => some { modes with ignoreCase := on }
  | 'm' => some { modes with multiLine := on }
  | 's' => some { modes with dotAll := on }
  | 'R' => some { modes with crlf := on }
  | 'u' => some { modes with unicode := on }
  | 'x' => some { modes with verbose := on }
  | 'U' => some modes
  | _ => none

/-- Drops blanks and comments; a comment goes from its sign to the end of the line. -/
def dropComments : (inComment : Bool) → List Char → List Char
  | _, [] => []
  | true, c :: cs => dropComments (c ≠ '\n') cs
  | false, c :: cs =>
    if c = '#' then dropComments true cs
    else if Text.isBlank c then dropComments false cs
    else c :: cs

/-- Drops what does not count in front of the next sign of a pattern. -/
def skip (modes : Modes) (cs : List Char) : List Char :=
  if modes.verbose then dropComments false cs else cs

/-- A set closed under the equivalence of characters that the modes prescribe. -/
def fold (modes : Modes) (chars : CharSet) : CharSet :=
  if modes.ignoreCase then
    .closure (if modes.unicode then Text.caseClass else Text.asciiCaseClass) chars
  else chars

/-- The characters that make up words. -/
def wordChars (modes : Modes) : CharSet :=
  if modes.unicode then Text.Property.word
  else .range '0' '9' ∪ .range 'A' 'Z' ∪ .singleton '_' ∪ .range 'a' 'z'

/-- The digits. -/
def digitChars (modes : Modes) : CharSet :=
  if modes.unicode then Text.Category.decimalNumber else .range '0' '9'

/-- The blanks. -/
def blankChars (modes : Modes) : CharSet :=
  if modes.unicode then Text.Property.whiteSpace else .range '\t' '\r' ∪ .singleton ' '

/-- What a set holds when it is negated.  Outside Unicode the sets are sets of bytes, and the
complement would hold bytes that are no characters. -/
def negate (modes : Modes) (negated : Bool) (chars : CharSet) : Option CharSet :=
  if !negated then some chars else if modes.unicode then some (.compl chars) else none

end Modes

end TenantView.Regex
