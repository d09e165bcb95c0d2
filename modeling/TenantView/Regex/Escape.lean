import TenantView.Regex.Modes
import TenantView.Text.Digit
import TenantView.Text.PropertyName

/-!
# Escapes in regular expressions

Behind a backslash a sign of the grammar stands for itself, and a letter for a character, a set
of characters or a condition on the position.  A letter without a meaning is refused, so that it
may be given one later, and so is a digit, because there are no references back.
-/

namespace TenantView.Regex

open Text (CharSet)

/-- What an escape or a plain character stands for. -/
inductive Primitive
  | char (c : Char)
  | chars (set : CharSet)
  | look (condition : Look)

/-- The character with a code point. -/
def charOfCode (n : Nat) : Option Char :=
  if n.isValidChar then some (Char.ofNat n) else none

/-- Reads the given number of hexadecimal digits. -/
def readHexDigits (modes : Modes) : (count value : Nat) → List Char → Option (Nat × List Char)
  | 0, value, cs => some (value, cs)
  | count + 1, value, cs =>
    match modes.skip cs with
    | [] => none
    | c :: rest => do
      let digit ← Text.radixDigit? 16 c
      readHexDigits modes count (16 * value + digit) rest

/-- The characters up to a closing brace, and what follows it. -/
def splitBraces (modes : Modes) : (rounds : List Char) → List Char →
    Option (List Char × List Char)
  | [], _ => none
  | _ :: rounds, cs =>
    match modes.skip cs with
    | [] => none
    | '\x7d' :: rest => some ([], rest)
    | c :: rest => (splitBraces modes rounds rest).map fun (inside, after) ↦ (c :: inside, after)

/-- The code point that hexadecimal digits spell; there has to be one at least. -/
def codeOfDigits (digits : List Char) : Option Nat :=
  if digits.isEmpty then none
  else digits.foldlM (fun value c ↦ (Text.radixDigit? 16 c).map (16 * value + ·)) 0

/-- Reads a code point behind the letter that announces it: `count` digits, or any number of them
in braces.  It is said whether there are braces. -/
def readCode (modes : Modes) (count : Nat) (cs : List Char) :
    Option ((Nat × Bool) × List Char) :=
  match modes.skip cs with
  | '\x7b' :: rest => do
    let (inside, rest) ← splitBraces modes rest rest
    let value ← codeOfDigits inside
    return ((value, true), rest)
  | _ => do
    let (value, rest) ← readHexDigits modes count 0 cs
    return ((value, false), rest)

/-- The character with a code point.  Outside Unicode two digits stand for a byte, which has to be
one of ASCII. -/
def codeChar (modes : Modes) (count value : Nat) (inBraces : Bool) : Option Primitive := do
  let c ← charOfCode value
  if !modes.unicode ∧ count = 2 ∧ inBraces = false ∧ 0x80 ≤ value then none
  else return .char c

/-- Reads the character with a code point. -/
def readCodeChar (modes : Modes) (count : Nat) (cs : List Char) :
    Option (Primitive × List Char) := do
  let ((value, inBraces), rest) ← readCode modes count cs
  return (← codeChar modes count value inBraces, rest)

/-- The parts of a text around the first occurrence of a separator. -/
def splitAtFirst (separator : List Char) : List Char → Option (List Char × List Char)
  | [] => none
  | c :: cs =>
    if separator.isPrefixOf (c :: cs) then some ([], (c :: cs).drop separator.length)
    else (splitAtFirst separator cs).map fun (before, after) ↦ (c :: before, after)

/-- The set that a property in braces stands for, and whether its complement is meant. -/
def propertySet (text : List Char) : Option (CharSet × Bool) :=
  match splitAtFirst ['!', '='] text with
  | some (name, value) => (Text.PropertyName.withValue? name value).map (·, true)
  | none =>
    match (splitAtFirst [':'] text).or (splitAtFirst ['='] text) with
    | some (name, value) => (Text.PropertyName.withValue? name value).map (·, false)
    | none => (Text.PropertyName.named? text).map (·, false)

/-- The name of a property, which is one letter or stands in braces, and the rest. -/
def readPropertyName (modes : Modes) (cs : List Char) : Option (List Char × List Char) :=
  match modes.skip cs with
  | [] => none
  | '\\' :: _ => none
  | '\x7b' :: rest => splitBraces modes rest rest
  | c :: rest => some ([c], rest)

/-- The set of the property with a name, or its complement.  There are properties in Unicode
only. -/
def propertyChars (modes : Modes) (negated : Bool) (name : List Char) : Option Primitive := do
  let (chars, complement) ← propertySet name
  if modes.unicode then
    return .chars (← modes.negate (negated != complement) (modes.fold chars))
  else none

/-- Reads a property behind the letter that announces it. -/
def readProperty (modes : Modes) (negated : Bool) (cs : List Char) :
    Option (Primitive × List Char) := do
  let (name, rest) ← readPropertyName modes cs
  return (← propertyChars modes negated name, rest)

/-- The letters that name a kind of edge of a word, up to the closing brace. -/
def readEdgeName (modes : Modes) : (rounds : List Char) → List Char →
    Option (List Char × List Char)
  | [], _ => none
  | _ :: rounds, cs =>
    match modes.skip cs with
    | '\x7d' :: rest => some ([], rest)
    | c :: rest =>
      if c.isAlpha || c = '-' then
        (readEdgeName modes rounds rest).map fun (name, after) ↦ (c :: name, after)
      else none
    | [] => none

/-- The kind of edge that a name stands for. -/
def edgeOfName (name : List Char) : Option WordEdge :=
  match String.ofList name with
  | "start" => some .start
  | "end" => some .finish
  | "start-half" => some .noWordBefore
  | "end-half" => some .noWordAfter
  | _ => none

/-- Reads the kind of edge in braces behind the sign of an edge; braces around something else
belong to a repetition. -/
def readEdge (modes : Modes) (cs : List Char) : Option (WordEdge × List Char) :=
  match cs with
  | '\x7b' :: rest =>
    match modes.skip rest with
    | [] => none
    | c :: _ =>
      if c.isAlpha || c = '-' then do
        let (name, rest) ← readEdgeName modes rest rest
        return (← edgeOfName name, rest)
      else some (.boundary, cs)
  | _ => some (.boundary, cs)

/-- Whether a character that is no letter or digit may be escaped to stand for itself. -/
def isEscapable (c : Char) : Bool :=
  c.toNat < 0x80 && !c.isAlphanum && c ≠ '<' && c ≠ '>'

/-- A set that is escaped in lower case, and its complement in upper case. -/
def escapedSet (modes : Modes) (negated : Bool) (chars : CharSet) (cs : List Char) :
    Option (Primitive × List Char) :=
  (modes.negate negated chars).map fun chars ↦ (.chars chars, cs)

/-- Reads an escape behind its backslash. -/
def readEscape (modes : Modes) : List Char → Option (Primitive × List Char)
  | [] => none
  | c :: cs =>
    let edge (kind : WordEdge) : Primitive := .look (.word kind modes.wordChars)
    match c with
    | 'x' => readCodeChar modes 2 cs
    | 'u' => readCodeChar modes 4 cs
    | 'U' => readCodeChar modes 8 cs
    | 'p' => readProperty modes false cs
    | 'P' => readProperty modes true cs
    | 'd' => escapedSet modes false modes.digitChars cs
    | 'D' => escapedSet modes true modes.digitChars cs
    | 's' => escapedSet modes false modes.blankChars cs
    | 'S' => escapedSet modes true modes.blankChars cs
    | 'w' => escapedSet modes false modes.wordChars cs
    | 'W' => escapedSet modes true modes.wordChars cs
    | 'a' => some (.char '\x07', cs)
    | 'f' => some (.char '\x0c', cs)
    | 't' => some (.char '\t', cs)
    | 'n' => some (.char '\n', cs)
    | 'r' => some (.char '\r', cs)
    | 'v' => some (.char '\x0b', cs)
    | 'A' => some (.look .textStart, cs)
    | 'z' => some (.look .textEnd, cs)
    | 'b' => (readEdge modes cs).map fun (kind, rest) ↦ (edge kind, rest)
    | 'B' => some (edge .interior, cs)
    | '<' => some (edge .start, cs)
    | '>' => some (edge .finish, cs)
    | c => if isEscapable c then some (.char c, cs) else none

end TenantView.Regex
