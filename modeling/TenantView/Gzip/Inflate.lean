import TenantView.Gzip.PrefixCode

/-!
# Inflating

Compressed data is a sequence of blocks.  A stored block holds bytes as they are.  The other
blocks hold symbols of a prefix code, fixed or given in the block: bytes, the end of the block,
and copies of earlier output, of which length and distance are given.  A copy may reach before
the beginning of the output, where zero bytes are assumed.  Inflating returns what has been put
out, be it up to the end of the data or up to a fault.
-/

namespace TenantView.Gzip

/-- Takes a number of bits. -/
def takeNumber (count : Nat) (input : BitInput) : Except DataFault (Nat × BitInput) :=
  match input.number count with
  | some result => .ok result
  | none => .error .truncated

/-- The least value and the number of further bits of each length symbol. -/
def lengthSymbols : Array (Nat × Nat) :=
  #[(3, 0), (4, 0), (5, 0), (6, 0), (7, 0), (8, 0), (9, 0), (10, 0), (11, 1), (13, 1), (15, 1),
    (17, 1), (19, 2), (23, 2), (27, 2), (31, 2), (35, 3), (43, 3), (51, 3), (59, 3), (67, 4),
    (83, 4), (99, 4), (115, 4), (131, 5), (163, 5), (195, 5), (227, 5), (258, 0)]

/-- The least value and the number of further bits of each distance symbol. -/
def distanceSymbols : Array (Nat × Nat) :=
  #[(1, 0), (2, 0), (3, 0), (4, 0), (5, 1), (7, 1), (9, 2), (13, 2), (17, 3), (25, 3), (33, 4),
    (49, 4), (65, 5), (97, 5), (129, 6), (193, 6), (257, 7), (385, 7), (513, 8), (769, 8),
    (1025, 9), (1537, 9), (2049, 10), (3073, 10), (4097, 11), (6145, 11), (8193, 12),
    (12289, 12), (16385, 13), (24577, 13)]

/-- Takes the further bits of a length or a distance. -/
def takeExtended (table : Array (Nat × Nat)) (symbol : Nat) (input : BitInput) :
    Except DataFault (Nat × BitInput) :=
  match table[symbol]? with
  | none => .error .corrupt
  | some (least, bits) => do
    let (further, input) ← takeNumber bits input
    return (least + further, input)

/-- Puts out a copy of earlier output, byte by byte, so that a copy may overlap itself. -/
def copyBack (distance : Nat) : (length : Nat) → Array UInt8 → Array UInt8
  | 0, output => output
  | length + 1, output =>
    let b := if distance ≤ output.size then output.getD (output.size - distance) 0 else 0
    copyBack distance length (output.push b)

/-- A piece of output. -/
inductive Piece
  | byte (b : UInt8)
  | copy (length distance : Nat)
  | blockEnd

/-- The symbol that ends a block; those below are bytes, and those above are lengths. -/
def endSymbol : Nat := 256

/-- Takes one piece of output. -/
def takePiece (main distances : PrefixCode) (input : BitInput) :
    Except DataFault (Piece × BitInput) := do
  let (symbol, input) ← main.decode input
  if symbol < endSymbol then return (.byte symbol.toUInt8, input)
  else if symbol = endSymbol then return (.blockEnd, input)
  else
    let (length, input) ← takeExtended lengthSymbols (symbol - (endSymbol + 1)) input
    let (symbol, input) ← distances.decode input
    let (distance, input) ← takeExtended distanceSymbols symbol input
    return (.copy length distance, input)

/-- Output together with how it ended: with input that is left, or with a fault. -/
abbrev Inflating (α : Type) := Array UInt8 × Except DataFault α

/-- Puts out the pieces of a block up to its end.  Every piece takes a bit. -/
def inflatePieces (main distances : PrefixCode) : (rounds : Nat) → BitInput → Array UInt8 →
    Inflating BitInput
  | 0, _, output => (output, .error .truncated)
  | rounds + 1, input, output =>
    match takePiece main distances input with
    | .error fault => (output, .error fault)
    | .ok (.byte b, input) => inflatePieces main distances rounds input (output.push b)
    | .ok (.copy length distance, input) =>
      inflatePieces main distances rounds input (copyBack distance length output)
    | .ok (.blockEnd, input) => (output, .ok input)

/-- An upper bound for the number of bits that are left. -/
def BitInput.bound (input : BitInput) : Nat :=
  input.current.length + 8 * input.bytes.length

/-- The code of bytes and lengths in blocks that give none. -/
def fixedMain : PrefixCode :=
  .ofLengths (List.replicate 144 8 ++ List.replicate 112 9 ++ List.replicate 24 7 ++
    List.replicate 8 8)

/-- The code of distances in blocks that give none. -/
def fixedDistances : PrefixCode :=
  .ofLengths (List.replicate 32 5)

/-- The order in which the lengths of the code for lengths are given. -/
def lengthOrder : List Nat :=
  [16, 17, 18, 0, 8, 7, 9, 6, 10, 5, 11, 4, 12, 3, 13, 2, 14, 1, 15]

/-- Takes the lengths of the code for lengths, for the symbols of a list. -/
def takeLengthLengths : (symbols : List Nat) → BitInput →
    Except DataFault (List (Nat × Nat) × BitInput)
  | [], input => .ok ([], input)
  | symbol :: symbols, input => do
    let (length, input) ← takeNumber 3 input
    let (lengths, input) ← takeLengthLengths symbols input
    return ((symbol, length) :: lengths, input)

/-- Takes one entry of a list of code lengths behind the previous one: a length that is repeated.
The symbols above the lengths repeat the previous length or zero. -/
def takeRepeated (code : PrefixCode) (previous : Option Nat) (input : BitInput) :
    Except DataFault ((Nat × Nat) × BitInput) := do
  let (symbol, input) ← code.decode input
  if symbol ≤ longestCode then return ((symbol, 1), input)
  else if symbol = longestCode + 1 then
    match previous with
    | none => throw .corrupt
    | some length =>
      let (further, input) ← takeNumber 2 input
      return ((length, 3 + further), input)
  else if symbol = longestCode + 2 then
    let (further, input) ← takeNumber 3 input
    return ((0, 3 + further), input)
  else
    let (further, input) ← takeNumber 7 input
    return ((0, 11 + further), input)

/-- Takes `count` code lengths behind those taken so far, which are given in reverse.  Every entry
takes a bit. -/
def takeLengths (code : PrefixCode) : (rounds : Nat) → (count : Nat) → (taken : List Nat) →
    BitInput → Except DataFault (List Nat × BitInput)
  | _, 0, taken, input => .ok (taken.reverse, input)
  | 0, _ + 1, _, _ => .error .truncated
  | rounds + 1, count + 1, taken, input => do
    let ((length, times), input) ← takeRepeated code taken.head? input
    if times ≤ count + 1 then
      takeLengths code rounds (count + 1 - times) (List.replicate times length ++ taken) input
    else throw .corrupt

/-- The greatest number of symbols for bytes and lengths. -/
def mainLimit : Nat := 286

/-- The greatest number of symbols for distances. -/
def distanceLimit : Nat := 30

/-- Takes the two codes that a block gives. -/
def takeCodes (input : BitInput) : Except DataFault ((PrefixCode × PrefixCode) × BitInput) := do
  let (mainCount, input) ← takeNumber 5 input
  let mainCount := mainCount + 257
  let (distanceCount, input) ← takeNumber 5 input
  let distanceCount := distanceCount + 1
  let (lengthCount, input) ← takeNumber 4 input
  if mainLimit < mainCount ∨ distanceLimit < distanceCount then throw .corrupt
  let (lengths, input) ← takeLengthLengths (lengthOrder.take (lengthCount + 4)) input
  let lengthCode := PrefixCode.ofLengths ((List.range 19).map fun symbol ↦
    (lengths.lookup symbol).getD 0)
  if !lengthCode.isComplete then throw .corrupt
  let (lengths, input) ← takeLengths lengthCode input.bound (mainCount + distanceCount) [] input
  let main := PrefixCode.ofLengths (lengths.take mainCount)
  let distances := PrefixCode.ofLengths (lengths.drop mainCount)
  if main.isUsable && distances.isUsable then return ((main, distances), input)
  else throw .corrupt

/-- Puts out the given number of bytes of the input; `none` when there are not as many. -/
def storeBytes : (count : Nat) → Bytes → Array UInt8 → Inflating Bytes
  | 0, bytes, output => (output, .ok bytes)
  | _ + 1, [], output => (output, .error .truncated)
  | count + 1, b :: bytes, output => storeBytes count bytes (output.push b)

/-- Puts out a stored block, which gives the number of its bytes and the complement of it. -/
def inflateStored (input : BitInput) (output : Array UInt8) : Inflating BitInput :=
  match input.bytes with
  | a :: b :: c :: d :: bytes =>
    let count := a.toNat + 256 * b.toNat
    if count + (c.toNat + 256 * d.toNat) = 0xffff then
      let (output, left) := storeBytes count bytes output
      (output, left.map .ofBytes)
    else (output, .error .corrupt)
  | _ => (output, .error .truncated)

/-- Puts out a block behind its first bit. -/
def inflateBlock (input : BitInput) (output : Array UInt8) : Inflating BitInput :=
  match takeNumber 2 input with
  | .error fault => (output, .error fault)
  | .ok (0, input) => inflateStored input.dropCurrent output
  | .ok (1, input) => inflatePieces fixedMain fixedDistances input.bound input output
  | .ok (2, input) =>
    match takeCodes input with
    | .error fault => (output, .error fault)
    | .ok ((main, distances), input) => inflatePieces main distances input.bound input output
  | .ok _ => (output, .error .corrupt)

/-- Puts out blocks up to the last one, which is marked.  Every block takes a bit. -/
def inflateBlocks : (rounds : Nat) → BitInput → Array UInt8 → Inflating Bytes
  | 0, _, output => (output, .error .truncated)
  | rounds + 1, input, output =>
    match input.next with
    | none => (output, .error .truncated)
    | some (isLast, input) =>
      match inflateBlock input output with
      | (output, .error fault) => (output, .error fault)
      | (output, .ok input) =>
        if isLast then (output, .ok input.bytes) else inflateBlocks rounds input output

/-- Puts out compressed data from the beginning of some bytes; what is left begins with the byte
behind the last one that was touched. -/
def inflate (bytes : Bytes) : Inflating Bytes :=
  inflateBlocks (8 * bytes.length) (.ofBytes bytes) #[]

end TenantView.Gzip
