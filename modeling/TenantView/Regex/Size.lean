import TenantView.Regex.Basic
import TenantView.Text.ByteRanges
import TenantView.Text.Edges

/-!
# Sizes of regular expressions

A counted repetition stands for as many copies of what it repeats, so that a short pattern may
describe an expression of any size.  The size of an expression is the number of bytes of an
automaton that reads the spellings of characters, last byte first; an expression may be refused
for it.
-/

namespace TenantView.Regex

/-- The size of a state of the automaton. -/
def stateSize : Nat := 32

/-- The size of a step from a state that has several. -/
def stepSize : Nat := 4

/-- The size of a range of ASCII, which needs no state of its own. -/
def asciiRangeSize : Nat := 8

/-- Whether ranges hold a single character. -/
def isSingle : List (Nat × Nat) → Bool
  | [(first, last)] => first = last
  | _ => false

/-- The size of a set given by its ranges: a single character takes its bytes, ranges of ASCII
share a state, and other ranges take the steps of their spellings. -/
def rangesSize (ranges : List (Nat × Nat)) : Nat :=
  let spellings := ranges.flatMap fun (first, last) ↦ Text.ByteRanges.spellings first last
  if isSingle ranges then spellings.flatten.length * stateSize
  else if ranges.all (·.2 < 0x80) then 2 * stateSize + ranges.length * asciiRangeSize
  else (Text.ByteRanges.countSteps [] spellings + 2) * stateSize + spellings.length * stepSize

/-- Whether the expression describes empty stretches at most. -/
def isVoid : Regex → Bool
  | empty => true
  | set _ => false
  | look _ => true
  | concat r s => r.isVoid && s.isVoid
  | either r s => r.isVoid && s.isVoid
  | copies r _ most => r.isVoid || most == some 0

/-- The size of copies of an expression of the given size. -/
def copiesSize (size least : Nat) (most : Option Nat) : Nat :=
  let optional := size + stateSize + 2 * stepSize
  match most with
  | none => (max least 1 - 1) * size + optional
  | some most => least * size + (most - least) * optional

/-- The size of an expression.  Copies of what describes empty stretches at most are one. -/
def size : Regex → Nat
  | empty => 0
  | set chars => rangesSize chars.ranges
  | look _ => stateSize
  | concat r s => r.size + s.size
  | either r s => r.size + s.size + 2 * (stateSize + stepSize)
  | copies r least most =>
    if r.isVoid then copiesSize r.size (min least 1) ((most.map (min · 1)).orElse fun _ ↦ some 1)
    else copiesSize r.size least most

/-- The size of the largest expression that is accepted. -/
def sizeLimit : Nat := 10 * 1024 * 1024

end TenantView.Regex
