import TenantView.Text.Bytes

/-!
# Ranges of characters as ranges of bytes

The characters of a range are spelled by bytes.  A range is cut into pieces whose spellings are
all combinations of one range of bytes after the other, which is how a reader of bytes recognises
it; pieces that begin in the same way share their beginning.
-/

namespace TenantView.Text.ByteRanges

/-- The code points behind which the spelling changes its form: the last ones with one and with
two bytes, the last ones before and of the code points that are no characters, and the last one
with three bytes. -/
def formEnds : List Nat :=
  [0x7f, 0x7ff, 0xd7ff, 0xdfff, 0xffff]

/-- Where a range is cut because it does not begin or end with a whole block, all of whose members
share all bytes but the last few. -/
def blockCut? (first last : Nat) : Option Nat :=
  [6, 12, 18].findSome? fun bits ↦
    let block := 1 <<< bits
    if first / block = last / block then none
    else if first % block ≠ 0 then some (first / block * block + (block - 1))
    else if last % block ≠ block - 1 then some (last / block * block - 1)
    else none

/-- The last code point of the first part of a range that has to be cut. -/
def cut? (first last : Nat) : Option Nat :=
  match formEnds.find? fun code ↦ first ≤ code && code < last with
  | some code => some code
  | none => if last ≤ 0x7f then none else blockCut? first last

/-- The pieces of a range, cut again as often as the fuel allows. -/
def cut : (fuel : Nat) → (first last : Nat) → List (Nat × Nat)
  | 0, first, last => [(first, last)]
  | fuel + 1, first, last =>
    match cut? first last with
    | some code => cut fuel first code ++ cut fuel (code + 1) last
    | none => [(first, last)]

/-- How often a range and its parts may have to be cut: at the ends of all forms, and before and
behind the whole blocks of each size. -/
def cutFuel : Nat := 11

/-- The spelling of a piece. -/
def spelling (first last : Nat) : List (UInt8 × UInt8) :=
  let bytes (code : Nat) := toBytes (String.singleton (Char.ofNat code))
  (bytes first).zip (bytes last)

/-- The spellings of the pieces of a range; what is no character has no spelling. -/
def spellings (first last : Nat) : List (List (UInt8 × UInt8)) :=
  ((cut cutFuel first last).filter fun (first, _) ↦ first.isValidChar).map
    fun (first, last) ↦ spelling first last

/-- The number of entries that two lists have in common at their beginning. -/
def commonLength {α : Type} [DecidableEq α] : List α → List α → Nat
  | a :: as, b :: bs => if a = b then commonLength as bs + 1 else 0
  | _, _ => 0

/-- The number of ranges of bytes in the given spellings, where one that shares its beginning with
the spelling before counts from there on. -/
def countSteps : (previous : List (UInt8 × UInt8)) → List (List (UInt8 × UInt8)) → Nat
  | _, [] => 0
  | previous, spelling :: rest =>
    (spelling.length - commonLength previous spelling) + countSteps spelling rest

end TenantView.Text.ByteRanges
