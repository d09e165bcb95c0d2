import TenantView.Text.CharSet

/-!
# Regular expressions

A regular expression describes stretches of a text.  Besides the characters of a stretch it may
look at the two characters around a position, so that a stretch is given by two positions of one
text and not by its characters alone.  `Regex.Matches` says which stretches an expression
describes; whether the longest or the shortest stretch is preferred plays no part.
-/

namespace TenantView

open Text (CharSet)

/-- How a position lies between characters of words and others. -/
inductive WordEdge
  | boundary
  | interior
  | start
  | finish
  | noWordBefore
  | noWordAfter
deriving DecidableEq, Repr

/-- A condition on a position of a text. -/
inductive Look
  | textStart
  | textEnd
  | lineStart
  | lineEnd
  /-- Behind a line break, where carriage return and line feed are one break. -/
  | crlfLineStart
  /-- Before a line break, where carriage return and line feed are one break. -/
  | crlfLineEnd
  | word (edge : WordEdge) (letters : CharSet)

namespace WordEdge

/-- Whether the edge lies between a character before and one after, of which it is said whether
they belong to words. -/
def holds (edge : WordEdge) (before after : Bool) : Bool :=
  match edge with
  | boundary => before != after
  | interior => before == after
  | start => !before && after
  | finish => before && !after
  | noWordBefore => !before
  | noWordAfter => !after

end WordEdge

/-- Whether a position with the given characters around it satisfies the condition; at an end of
the text there is no character. -/
def Look.holds (look : Look) (before after : Option Char) : Bool :=
  match look with
  | textStart => before.isNone
  | textEnd => after.isNone
  | lineStart => before.isNone || before == some '\n'
  | lineEnd => after.isNone || after == some '\n'
  | crlfLineStart =>
    before.isNone || before == some '\n' || (before == some '\r' && after != some '\n')
  | crlfLineEnd =>
    after.isNone || after == some '\r' || (after == some '\n' && before != some '\r')
  | word edge letters => edge.holds (before.any letters.contains) (after.any letters.contains)

/-- A regular expression. -/
inductive Regex
  | empty
  | set (chars : CharSet)
  | look (condition : Look)
  | concat (first second : Regex)
  | either (left right : Regex)
  /-- At least `least` copies, and at most `most` if that is given. -/
  | copies (body : Regex) (least : Nat) (most : Option Nat)

namespace Regex

/-- The character before a position. -/
def charBefore (text : Array Char) (position : Nat) : Option Char :=
  if position = 0 then none else text[position - 1]?

/-- Whether a condition holds at a position of a text. -/
def holdsAt (condition : Look) (text : Array Char) (position : Nat) : Bool :=
  condition.holds (charBefore text position) text[position]?

/-- Whether the character at a position of a text is in a set. -/
def acceptsAt (chars : CharSet) (text : Array Char) (position : Nat) : Bool :=
  text[position]?.any chars.contains

/-- The stretches of a text that an expression describes, each from its first position to the
position behind it. -/
inductive Matches (text : Array Char) : Regex → Nat → Nat → Prop
  | empty {i : Nat} : Matches text empty i i
  | set {chars : CharSet} {i : Nat} (h : acceptsAt chars text i = true) :
    Matches text (set chars) i (i + 1)
  | look {condition : Look} {i : Nat} (h : holdsAt condition text i = true) :
    Matches text (look condition) i i
  | concat {r s : Regex} {i j k : Nat} (hr : Matches text r i j) (hs : Matches text s j k) :
    Matches text (concat r s) i k
  | left {r s : Regex} {i j : Nat} (h : Matches text r i j) : Matches text (either r s) i j
  | right {r s : Regex} {i j : Nat} (h : Matches text s i j) : Matches text (either r s) i j
  | noCopy {r : Regex} {most : Option Nat} {i : Nat} : Matches text (copies r 0 most) i i
  | oneMore {r : Regex} {least : Nat} {most : Option Nat} {i j k : Nat} (h : most ≠ some 0)
    (hr : Matches text r i j) (hs : Matches text (copies r (least - 1) (most.map (· - 1))) j k) :
    Matches text (copies r least most) i k

end Regex

end TenantView
