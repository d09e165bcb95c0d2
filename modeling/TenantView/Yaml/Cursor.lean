/-!
# Places in a YAML text

YAML is sensitive to where a token stands: to its column, to its line, and to whether anything but
blanks stands in front of it.  A cursor keeps these beside the text that is still to be read.  A
carriage return and a line feed together are a single line break.
-/

namespace TenantView.Yaml

/-- The line breaks. -/
def isBreak (c : Char) : Bool :=
  c = '\n' || c = '\r'

/-- The blanks within a line. -/
def isBlank (c : Char) : Bool :=
  c = ' ' || c = '\t'

/-- The signs of flow collections, which end a plain scalar inside of one. -/
def isFlowSign (c : Char) : Bool :=
  c = ',' || c = '[' || c = ']' || c = '\x7b' || c = '\x7d'

/-- Whether a place is the end of a line or of the text. -/
def endsLine (next : Option Char) : Bool :=
  next.all isBreak

/-- Whether a place is the end of a word. -/
def endsWord (next : Option Char) : Bool :=
  next.all fun c ↦ isBlank c || isBreak c

/-- A place in a text. -/
structure Cursor where
  rest : List Char
  line : Nat := 0
  column : Nat := 0
  index : Nat := 0
  /-- Whether only blanks stand between the beginning of the line and the place. -/
  leading : Bool := true

namespace Cursor

/-- The character at the place. -/
def next (c : Cursor) : Option Char :=
  c.rest.head?

/-- The character behind that at the place. -/
def second (c : Cursor) : Option Char :=
  c.rest.tail.head?

/-- The place some blanks or characters of a comment further on. -/
def pass (c : Cursor) (count : Nat) : Cursor :=
  { c with
    rest := c.rest.drop count, column := c.column + count, index := c.index + count }

/-- The place some characters of a token further on. -/
def take (c : Cursor) (count : Nat) : Cursor :=
  { c.pass count with leading := false }

/-- The place behind a line break. -/
def newLine (c : Cursor) : Cursor :=
  let size := match c.rest with
    | '\r' :: '\n' :: _ => 2
    | _ => 1
  { rest := c.rest.drop size, line := c.line + 1, column := 0, index := c.index + size
    leading := true }

/-- Whether the text goes on with three times a character and then the end of a word. -/
def isMark (c : Cursor) (sign : Char) : Bool :=
  c.rest.take 3 = [sign, sign, sign] && endsWord (c.rest.drop 3).head?

/-- Whether the text goes on with the mark that begins or ends a document. -/
def isDocumentMark (c : Cursor) : Bool :=
  c.isMark '-' || c.isMark '.'

/-- The place behind spaces. -/
def skipSpaces (c : Cursor) : Cursor :=
  c.pass (c.rest.takeWhile (· = ' ')).length

/-- The place behind what is left of the line. -/
def skipLine (c : Cursor) : Cursor :=
  c.pass (c.rest.takeWhile (!isBreak ·)).length

/-- What stands between two tokens of one line. -/
structure Gap where
  hasTab : Bool
  hasSpace : Bool

/-- The place behind blanks and a comment.  A comment must not stand directly behind a token. -/
def skipGap (c : Cursor) (tabs : Bool) : Option (Cursor × Gap) :=
  let blanks := c.rest.takeWhile fun x ↦ x = ' ' || (tabs && x = '\t')
  let gap : Gap := { hasTab := blanks.contains '\t', hasSpace := blanks.contains ' ' }
  let c := c.pass blanks.length
  if c.next = some '#' then
    if blanks.isEmpty then none else some (c.skipLine, gap)
  else some (c, gap)

/-- The place behind blanks, comments and line breaks.  A tab must not stand where the indentation
`indent` of an open block demands spaces, unless the line holds nothing. -/
def skipToToken (inBlock : Bool) (indent : Int) : (rounds : List Char) → Cursor → Option Cursor
  | [], c => some c
  | _ :: rounds, c =>
    match c.next with
    | some '\t' =>
      if inBlock && c.leading && c.column < indent then do
        let (c, _) ← c.skipGap true
        if endsLine c.next then skipToToken inBlock indent rounds c else none
      else skipToToken inBlock indent rounds (c.pass 1)
    | some ' ' => skipToToken inBlock indent rounds (c.pass 1)
    | some '\n' => skipToToken inBlock indent rounds c.newLine
    | some '\r' => skipToToken inBlock indent rounds c.newLine
    | some '#' => skipToToken inBlock indent rounds c.skipLine
    | _ => some c

end Cursor

end TenantView.Yaml
