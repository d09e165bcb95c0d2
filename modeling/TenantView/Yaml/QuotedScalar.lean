import TenantView.Text.Digit
import TenantView.Yaml.Folding

/-!
# Quoted scalars

A scalar between quotes may go over several lines.  Between single quotes a quote is written
twice and all else stands for itself; between double quotes a backslash begins an escape, of a
character or of a line break.
-/

namespace TenantView.Yaml

/-- The kinds of quotes. -/
inductive Quote
  | single
  | double
deriving DecidableEq, Repr

/-- The sign of a quote. -/
def Quote.sign : Quote → Char
  | single => '\''
  | double => '"'

/-- The character with a code point. -/
def charOfCode? (n : Nat) : Option Char :=
  if n.isValidChar then some (Char.ofNat n) else none

/-- The character that the given number of hexadecimal digits spells, and what follows them. -/
def hexEscape? (count : Nat) (cs : List Char) : Option (Char × Nat) :=
  if (cs.take count).length < count then none
  else do
    let code ← Text.readDigits? 16 0 (cs.take count)
    return (← charOfCode? code, count + 1)

/-- The character that an escape stands for, and the number of characters behind the backslash
that make it up. -/
def escape? : List Char → Option (Char × Nat)
  | [] => none
  | c :: cs =>
    match c with
    | '0' => some ('\x00', 1)
    | 'a' => some ('\x07', 1)
    | 'b' => some ('\x08', 1)
    | 't' => some ('\t', 1)
    | '\t' => some ('\t', 1)
    | 'n' => some ('\n', 1)
    | 'v' => some ('\x0b', 1)
    | 'f' => some ('\x0c', 1)
    | 'r' => some ('\r', 1)
    | 'e' => some ('\x1b', 1)
    | ' ' => some (' ', 1)
    | '"' => some ('"', 1)
    | '/' => some ('/', 1)
    | '\\' => some ('\\', 1)
    | 'N' => some (Char.ofNat 0x85, 1)
    | '_' => some (Char.ofNat 0xa0, 1)
    | 'L' => some (Char.ofNat 0x2028, 1)
    | 'P' => some (Char.ofNat 0x2029, 1)
    | 'x' => hexEscape? 2 cs
    | 'u' => hexEscape? 4 cs
    | 'U' => hexEscape? 8 cs
    | _ => none

/-- A word between quotes, the place behind it, and whether it ends with an escaped line break. -/
def quotedWord (quote : Quote) : (rounds : List Char) → Cursor →
    Option (List Char × Cursor × Bool)
  | [], c => some ([], c, false)
  | _ :: rounds, c =>
    match quote, c.rest with
    | _, [] => some ([], c, false)
    | .single, '\'' :: '\'' :: _ => do
      let (text, c, escaped) ← quotedWord quote rounds (c.take 2)
      return ('\'' :: text, c, escaped)
    | .double, '\\' :: cs =>
      if cs.head?.any isBreak then some ([], (c.take 1).newLine, true)
      else do
        let (char, size) ← escape? cs
        let (text, c, escaped) ← quotedWord quote rounds (c.take (size + 1))
        return (char :: text, c, escaped)
    | _, x :: _ =>
      if x = quote.sign ∨ isBlank x ∨ isBreak x then some ([], c, false)
      else do
        let (text, c, escaped) ← quotedWord quote rounds (c.take 1)
        return (x :: text, c, escaped)

/-- The spacing at a place, and the place behind it. -/
def quotedSpacing (indent : Int) (escaped : Bool) : (rounds : List Char) → Spacing → Cursor →
    Option (Spacing × Cursor)
  | [], s, c => some (s, c)
  | _ :: rounds, s, c =>
    match c.next with
    | none => some (s, c)
    | some x =>
      if isBreak x then
        quotedSpacing indent escaped rounds { s with breaks := s.breaks + 1 } c.newLine
      else if !isBlank x then some (s, c)
      else if escaped || s.breaks ≠ 0 then
        if isTabInIndent indent c then none else quotedSpacing indent escaped rounds s (c.pass 1)
      else quotedSpacing indent escaped rounds { s with blanks := x :: s.blanks } (c.pass 1)

/-- The words up to the closing quote, and the place behind it. -/
def quotedWords (quote : Quote) (indent : Int) : (rounds : List Char) → Cursor →
    Option (List Char × Cursor)
  | [], _ => none
  | _ :: rounds, c =>
    if (c.column = 0 && c.isDocumentMark) || c.rest.isEmpty || c.column < indent then none
    else do
      let (word, c, escaped) ← quotedWord quote c.rest c
      if c.next = some quote.sign then return (word, c.take 1)
      let (s, c) ← quotedSpacing indent escaped c.rest {} c
      let (back, c) ← quotedWords quote indent rounds c
      return (word ++ (if escaped then s.escapedText else s.text) ++ back, c)

/-- Whether what follows a quoted scalar in its line may do so. -/
def mayFollowQuoted (inFlow oneLine : Bool) (next : Option Char) : Bool :=
  match next with
  | some ':' => inFlow || oneLine
  | some ',' => inFlow
  | some ']' => inFlow
  | some '\x7d' => inFlow
  | next => endsLine next

/-- The quoted scalar at a place, and the place behind it. -/
def readQuoted (quote : Quote) (inFlow : Bool) (indent : Int) (c : Cursor) :
    Option (String × Cursor) := do
  let first := c.line
  let (text, c) ← quotedWords quote indent c.rest (c.take 1)
  let (c, _) ← c.skipGap true
  if mayFollowQuoted inFlow (first = c.line) c.next then return (String.ofList text, c) else none

end TenantView.Yaml
