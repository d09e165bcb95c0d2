import TenantView.Regex.Escape

/-!
# Sets in brackets

A set in brackets lists characters, ranges and other sets, perhaps negated, and may combine lists
by the operations of sets, all of the same strength.  Brackets nest; the levels that are open
are kept on a stack, together with how deep each part is nested.
-/

namespace TenantView.Regex

open Text (CharSet)

/-- A value together with the number of levels that are nested in its description. -/
structure Deep (α : Type) where
  value : α
  depth : Nat

/-- An operation on two sets. -/
inductive SetOperation
  | intersection
  | difference
  | symmetricDifference
deriving DecidableEq, Repr

/-- The set that the operation makes. -/
def SetOperation.apply (operation : SetOperation) (a b : CharSet) : CharSet :=
  match operation with
  | intersection => a ∩ b
  | difference => a \ b
  | symmetricDifference => .symmDiff a b

/-- An open bracket: what stands before the last operation, and the list behind it in reverse. -/
structure Bracket where
  negated : Bool
  left : Option (Deep CharSet × SetOperation)
  items : List (Deep CharSet)

namespace Bracket

/-- The bracket with another item in its list. -/
def push (bracket : Bracket) (item : Deep CharSet) : Bracket :=
  { bracket with items := item :: bracket.items }

/-- The union of the items of a list. -/
def union (items : List (Deep CharSet)) : Deep CharSet :=
  match items with
  | [] => ⟨.empty, 0⟩
  | [item] => item
  | items =>
    ⟨items.foldr (fun item set ↦ set ∪ item.value) .empty,
      items.foldr (fun item depth ↦ max depth item.depth) 0 + 1⟩

/-- What the bracket holds so far. -/
def contents (modes : Modes) (bracket : Bracket) : Deep CharSet :=
  let right := union bracket.items
  match bracket.left with
  | none => right
  | some (left, operation) =>
    ⟨operation.apply (modes.fold left.value) (modes.fold right.value),
      max left.depth right.depth + 1⟩

/-- The bracket behind an operation. -/
def operate (modes : Modes) (bracket : Bracket) (operation : SetOperation) : Bracket :=
  { bracket with left := some (bracket.contents modes, operation), items := [] }

/-- The set of the whole bracket. -/
def close (modes : Modes) (bracket : Bracket) : Option (Deep CharSet) := do
  let contents := bracket.contents modes
  let chars ← modes.negate bracket.negated (modes.fold contents.value)
  return ⟨chars, contents.depth + 1⟩

end Bracket

/-- The sets of ASCII that have a name. -/
def asciiSet? (name : List Char) : Option CharSet :=
  let digit : CharSet := .range '0' '9'
  let upper : CharSet := .range 'A' 'Z'
  let lower : CharSet := .range 'a' 'z'
  match String.ofList name with
  | "alnum" => some (digit ∪ upper ∪ lower)
  | "alpha" => some (upper ∪ lower)
  | "ascii" => some (.range '\x00' '\x7f')
  | "blank" => some (.singleton '\t' ∪ .singleton ' ')
  | "cntrl" => some (.range '\x00' '\x1f' ∪ .singleton '\x7f')
  | "digit" => some digit
  | "graph" => some (.range '!' '~')
  | "lower" => some lower
  | "print" => some (.range ' ' '~')
  | "punct" => some (.range '!' '/' ∪ .range ':' '@' ∪ .range '[' '`' ∪ .range '\x7b' '~')
  | "space" => some (.range '\t' '\r' ∪ .singleton ' ')
  | "upper" => some upper
  | "word" => some (digit ∪ upper ∪ .singleton '_' ∪ lower)
  | "xdigit" => some (digit ∪ .range 'A' 'F' ∪ .range 'a' 'f')
  | _ => none

/-- The set of ASCII with the name up to the next colon, and what follows its closing bracket. -/
def splitAsciiName (negated : Bool) (cs : List Char) : Option (Bool × CharSet × List Char) :=
  match cs.dropWhile (· ≠ ':') with
  | ':' :: ']' :: rest =>
    (asciiSet? (cs.takeWhile (· ≠ ':'))).map fun chars ↦ (negated, chars, rest)
  | _ => none

/-- Whether a set of ASCII behind its opening bracket is negated, the set, and what follows its
closing bracket. -/
def splitAsciiSet (cs : List Char) : Option (Bool × CharSet × List Char) :=
  match cs with
  | ':' :: '^' :: cs => splitAsciiName true cs
  | ':' :: cs => splitAsciiName false cs
  | _ => none

/-- Reads a character or an escape inside brackets. -/
def readBracketPrimitive (modes : Modes) : List Char → Option (Primitive × List Char)
  | [] => none
  | '\\' :: cs => readEscape modes cs
  | c :: cs => some (.char c, cs)

/-- A character as a member of a set.  Outside Unicode only characters of ASCII may be listed. -/
def listed? (modes : Modes) : Primitive → Option Char
  | .char c => if modes.unicode || c.toNat < 0x80 then some c else none
  | _ => none

/-- The set that a character or an escape stands for inside brackets. -/
def Primitive.set? (modes : Modes) (primitive : Primitive) : Option CharSet :=
  match primitive with
  | chars listed => some listed
  | single => (listed? modes single).map .singleton

/-- Drops blanks and the first sign of a comment. -/
def lookThrough (cs : List Char) : List Char :=
  match cs.dropWhile Text.isBlank with
  | '#' :: rest => rest.dropWhile Text.isBlank
  | seen => seen

/-- The character that tells whether a dash makes a range: the next one that counts, where blanks
and the first sign of a comment are looked through. -/
def peek (modes : Modes) (cs : List Char) : Option Char :=
  if modes.verbose then (lookThrough cs).head?.or cs.head? else cs.head?

/-- The item that is not a range, in front of the rest. -/
def singleItem (modes : Modes) (primitive : Primitive) (cs : List Char) :
    Option (Deep CharSet × List Char) :=
  (primitive.set? modes).map fun chars ↦ (⟨chars, 0⟩, cs)

/-- The range between two characters. -/
def rangeItem (modes : Modes) (first last : Primitive) : Option (Deep CharSet) := do
  let a ← listed? modes first
  let b ← listed? modes last
  if a ≤ b then return ⟨.range a b, 0⟩ else none

/-- Reads the end of a range behind its dash. -/
def readRange (modes : Modes) (first : Primitive) (cs : List Char) :
    Option (Deep CharSet × List Char) := do
  let (last, rest) ← readBracketPrimitive modes (modes.skip cs)
  return (← rangeItem modes first last, rest)

/-- Reads an item behind its first character. -/
def readItemFrom (modes : Modes) (first : Primitive) (cs : List Char) :
    Option (Deep CharSet × List Char) :=
  match modes.skip cs with
  | '-' :: rest =>
    if peek modes rest = some ']' ∨ peek modes rest = some '-' then singleItem modes first cs
    else readRange modes first rest
  | _ => singleItem modes first cs

/-- Reads a character, a range or an escaped set. -/
def readBracketItem (modes : Modes) (cs : List Char) : Option (Deep CharSet × List Char) := do
  let (first, cs) ← readBracketPrimitive modes cs
  readItemFrom modes first cs

/-- The dashes at the beginning of a bracket, which stand for themselves, and the rest. -/
def readDashes (modes : Modes) : (rounds : List Char) → Bracket → List Char →
    Bracket × List Char
  | [], bracket, cs => (bracket, cs)
  | _ :: rounds, bracket, cs =>
    match modes.skip cs with
    | '-' :: rest => readDashes modes rounds (bracket.push ⟨.singleton '-', 0⟩) rest
    | _ => (bracket, cs)

/-- Drops a sign in front, and says whether it was there. -/
def takeSign (modes : Modes) (sign : Char) (cs : List Char) : Bool × List Char :=
  match modes.skip cs with
  | c :: rest => if c = sign then (true, rest) else (false, cs)
  | [] => (false, cs)

/-- Opens a bracket behind its sign: a negation, dashes, and a closing bracket that comes first
and stands for itself. -/
def openBracket (modes : Modes) (cs : List Char) : Bracket × List Char :=
  let (negated, cs) := takeSign modes '^' cs
  let (bracket, cs) := readDashes modes cs { negated, left := none, items := [] } cs
  if bracket.items.isEmpty then
    let (closes, cs) := takeSign modes ']' cs
    (if closes then bracket.push ⟨.singleton ']', 0⟩ else bracket, cs)
  else (bracket, cs)

/-- The operation that is written in front, and what follows it. -/
def takeOperation : List Char → Option (SetOperation × List Char)
  | '&' :: '&' :: cs => some (.intersection, cs)
  | '-' :: '-' :: cs => some (.difference, cs)
  | '~' :: '~' :: cs => some (.symmetricDifference, cs)
  | _ => none

/-- Reads the rest of the brackets that are open, the innermost first.  Every round takes a
character. -/
def readBrackets (modes : Modes) : (rounds : List Char) → (outer : List Bracket) → Bracket →
    List Char → Option (Deep CharSet × List Char)
  | [], _, _, _ => none
  | _ :: rounds, outer, bracket, cs =>
    match modes.skip cs with
    | [] => none
    | '[' :: cs =>
      match splitAsciiSet cs with
      | some (negated, chars, rest) => do
        let chars ← modes.negate negated (modes.fold chars)
        readBrackets modes rounds outer (bracket.push ⟨chars, 0⟩) rest
      | none =>
        let (inner, rest) := openBracket modes cs
        readBrackets modes rounds (bracket :: outer) inner rest
    | ']' :: cs => do
      let set ← bracket.close modes
      match outer with
      | [] => return (set, cs)
      | bracket :: outer => readBrackets modes rounds outer (bracket.push set) cs
    | cs =>
      match takeOperation cs with
      | some (operation, rest) =>
        readBrackets modes rounds outer (bracket.operate modes operation) rest
      | none => do
        let (item, rest) ← readBracketItem modes cs
        readBrackets modes rounds outer (bracket.push item) rest

/-- Reads a set behind its opening bracket. -/
def readSet (modes : Modes) (cs : List Char) : Option (Deep CharSet × List Char) :=
  let (bracket, rest) := openBracket modes cs
  readBrackets modes cs [] bracket rest

end TenantView.Regex
