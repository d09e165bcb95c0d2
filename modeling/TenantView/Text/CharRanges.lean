/-!
# Sets of characters given by ranges

A property of characters is a table of inclusive ranges of code points in increasing order,
written as lines of hexadecimal numbers so that a table of hundreds of ranges stays readable
and cheap.  Membership halves the table at every step.
-/

namespace TenantView.Text

/-- Inclusive ranges of code points, in increasing order and apart from each other. -/
structure CharRanges where
  ranges : Array (Nat × Nat)

namespace CharRanges

/-- The number that a hexadecimal digit stands for. -/
def hexDigit (c : Char) : Nat :=
  if c.isDigit then c.toNat - 0x30 else c.toNat - 0x57

/-- The number that hexadecimal digits in lower case stand for. -/
def ofHex (cs : List Char) : Nat :=
  cs.foldl (fun n c ↦ 16 * n + hexDigit c) 0

/-- The parts of a character sequence between occurrences of a separator. -/
def fields (separator : Char) (cs : List Char) : List (List Char) :=
  let (last, parts) := cs.foldl
    (fun (word, parts) c ↦
      if c = separator then ([], word.reverse :: parts) else (c :: word, parts))
    (([] : List Char), ([] : List (List Char)))
  (last.reverse :: parts).reverse

/-- The range written `lo-hi`, or `lo` for a single code point. -/
def ofField (cs : List Char) : Nat × Nat :=
  match fields '-' cs with
  | [lo, hi] => (ofHex lo, ofHex hi)
  | _ => (ofHex cs, ofHex cs)

/-- The table written on lines, as ranges between single blanks. -/
def ofLines (lines : List String) : CharRanges :=
  ⟨(lines.flatMap fun line ↦ (fields ' ' line.toList).map ofField).toArray⟩

/-- Halves the stretch `[lo, hi)` of the table until the range of `n` is met. -/
def search (ranges : Array (Nat × Nat)) (n : Nat) : (fuel lo hi : Nat) → Bool
  | 0, _, _ => false
  | fuel + 1, lo, hi =>
    if lo < hi then
      let mid := (lo + hi) / 2
      match ranges[mid]? with
      | none => false
      | some (first, last) =>
        if n < first then search ranges n fuel lo mid
        else if last < n then search ranges n fuel (mid + 1) hi
        else true
    else false

/-- Whether the character lies in one of the ranges. -/
def contains (r : CharRanges) (c : Char) : Bool :=
  search r.ranges c.toNat (r.ranges.size.log2 + 2) 0 r.ranges.size

end CharRanges

end TenantView.Text
