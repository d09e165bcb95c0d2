import TenantView.Gzip.BitInput

/-!
# Prefix codes

A prefix code is given by the length of the code of each symbol.  Codes of one length are
consecutive numbers in the order of their symbols, and behind the codes of one length come those
of the next, so that the number of codes of each length and the order of the symbols determine
the code.
-/

namespace TenantView.Gzip

/-- What is wrong with compressed data. -/
inductive DataFault
  | truncated
  | corrupt
deriving DecidableEq, Repr

/-- The greatest length of a code. -/
def longestCode : Nat := 15

/-- A prefix code: the number of codes of each length from one on, and the symbols in the order of
their codes. -/
structure PrefixCode where
  counts : List Nat
  symbols : Array Nat

namespace PrefixCode

/-- The symbols with codes of the given length. -/
def symbolsOfLength (lengths : List Nat) (length : Nat) : List Nat :=
  (lengths.zipIdx.filter (·.1 = length)).map (·.2)

/-- The code with the given lengths; a length of zero means that the symbol has no code. -/
def ofLengths (lengths : List Nat) : PrefixCode :=
  let groups := (List.range longestCode).map fun i ↦ symbolsOfLength lengths (i + 1)
  { counts := groups.map List.length, symbols := groups.flatten.toArray }

/-- How many codes of one bit more than the longest would be taken by the codes. -/
def weight (code : PrefixCode) : Nat :=
  code.counts.foldl (fun weight count ↦ 2 * (weight + count)) 0

/-- Whether every long enough sequence of bits begins with exactly one code. -/
def isComplete (code : PrefixCode) : Bool :=
  code.weight = 1 <<< (longestCode + 1)

/-- Whether a code may be used for symbols and distances: it is complete, or has at most one
symbol. -/
def isUsable (code : PrefixCode) : Bool :=
  code.isComplete || code.symbols.size ≤ 1

/-- Takes the bits of one code, of which those before make up `value`; `first` is the first code
of the length so far, and `index` the number of shorter codes. -/
def decodeFrom (symbols : Array Nat) : (counts : List Nat) → (value first index : Nat) →
    BitInput → Except DataFault (Nat × BitInput)
  | [], _, _, _, _ => .error .corrupt
  | count :: counts, value, first, index, input =>
    match input.next with
    | none => .error .truncated
    | some (bit, input) =>
      let value := 2 * value + bit.toNat
      let first := 2 * first
      if value < first + count then
        match symbols[index + (value - first)]? with
        | some symbol => .ok (symbol, input)
        | none => .error .corrupt
      else decodeFrom symbols counts value (first + count) (index + count) input

/-- Takes one code and returns its symbol. -/
def decode (code : PrefixCode) (input : BitInput) : Except DataFault (Nat × BitInput) :=
  decodeFrom code.symbols code.counts 0 0 0 input

end PrefixCode

end TenantView.Gzip
