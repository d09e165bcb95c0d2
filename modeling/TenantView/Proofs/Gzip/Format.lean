import Mathlib.Logic.Relation
import TenantView.Proofs.Gzip.CyclicCheck

/-!
# The format of streams

What a stream is, and what it holds, said of its bits and bytes and not by reading them.  A stream
is one member or several (`IsStream`), and a member is a header, compressed data and a trailer with
the size and the checksum of the data (`IsMember`).  Compressed data goes from block to block and
from piece to piece, and `Step` is one such step: how codes come from their lengths, which codes may
be used, what lengths and distances mean and what a copy is are all stated here.

Readers are known to differ from the standard in a few places, and so there is a `Dialect`: the
standard itself, and what the reader takes that this library is about.  A dialect that allows less
has fewer streams, with the same data in them (`IsStream.mono`).
-/

namespace TenantView.Gzip

/-! ## Dialects -/

/-- Where readers differ. -/
structure Dialect where
  /-- A copy may reach before the beginning of the data, where zero bytes are assumed. -/
  reachesBack : Bool
  /-- The code of a lone symbol may have more than one bit. -/
  longLoneCode : Bool
  /-- The greatest number of lengths for distances that a block may give. -/
  distanceCount : Nat
  /-- The greatest length of a text in a header, if there is one. -/
  textLimit : Option Nat

namespace Dialect

/-- What the standard wants. -/
def standard : Dialect where
  reachesBack := false
  longLoneCode := false
  distanceCount := 32
  textLimit := none

/-- What the reader takes: it is generous with copies and with lone codes, and less so with texts
and with distances of which there are no symbols. -/
def reader : Dialect where
  reachesBack := true
  longLoneCode := true
  distanceCount := 30
  textLimit := some 65535

/-- A dialect allows no more than another one. -/
instance : LE Dialect where
  le d e :=
    (d.reachesBack = true → e.reachesBack = true) ∧
      (d.longLoneCode = true → e.longLoneCode = true) ∧ d.distanceCount ≤ e.distanceCount ∧
      ∀ limit ∈ e.textLimit, ∃ less ∈ d.textLimit, less ≤ limit

/-- What the standard wants and the reader takes. -/
def common : Dialect where
  reachesBack := false
  longLoneCode := false
  distanceCount := 30
  textLimit := some 65535

theorem common_le_standard : common ≤ standard :=
  ⟨id, id, by decide, nofun⟩

theorem common_le_reader : common ≤ reader :=
  ⟨fun _ ↦ rfl, fun _ ↦ rfl, by decide, fun limit h ↦ ⟨limit, h, Nat.le_refl limit⟩⟩

end Dialect

/-! ## Codes -/

/-- The number that bits spell, the highest first. -/
def codeNumber (code : List Bool) : Nat :=
  code.foldl (fun n bit ↦ 2 * n + bit.toNat) 0

/-- How many symbols have codes of the given length. -/
def codeCount (lengths : List Nat) (length : Nat) : Nat :=
  if length = 0 then 0 else lengths.count length

/-- The first code of the given length: it has one bit more than the number behind the codes that
are one bit shorter. -/
def firstCode (lengths : List Nat) : (length : Nat) → Nat
  | 0 => 0
  | length + 1 => 2 * (firstCode lengths length + codeCount lengths length)

/-- The code of a symbol: codes of one length are consecutive, in the order of their symbols. -/
structure IsCode (lengths : List Nat) (symbol : Nat) (code : List Bool) : Prop where
  length_eq : lengths[symbol]? = some code.length
  ne_nil : code ≠ []
  length_le : code.length ≤ 15
  number_eq : codeNumber code =
    firstCode lengths code.length + (lengths.take symbol).count code.length

/-- The code of a symbol is in front of the rest. -/
def Reads (lengths : List Nat) (bits : List Bool) (symbol : Nat) (rest : List Bool) : Prop :=
  ∃ code, IsCode lengths symbol code ∧ bits = code ++ rest

/-- Whether a length is that of a code. -/
def isCodeLength (length : Nat) : Bool :=
  decide (0 < length ∧ length ≤ 15)

/-- How many of the sequences of 15 bits begin with a code. -/
def share (lengths : List Nat) : Nat :=
  ((lengths.filter isCodeLength).map fun length ↦ 2 ^ (15 - length)).sum

/-- All sequences of bits begin with a code, as far as it can be told by the lengths. -/
def IsComplete (lengths : List Nat) : Prop :=
  share lengths = 2 ^ 15

/-- A code that a block gives is complete, or is that of a lone symbol or of none at all. -/
def IsUsable (d : Dialect) (lengths : List Nat) : Prop :=
  IsComplete lengths ∨
    (lengths.countP isCodeLength ≤ 1 ∧ (d.longLoneCode = false → ∀ length ∈ lengths, length ≤ 1))

/-- The lengths of the code of bytes and lengths in blocks that give none. -/
def fixedMainLengths : List Nat :=
  List.replicate 144 8 ++ List.replicate 112 9 ++ List.replicate 24 7 ++ List.replicate 8 8

/-- The lengths of the code of distances in blocks that give none. -/
def fixedDistanceLengths : List Nat :=
  List.replicate 32 5

/-! ## Pieces of a block -/

/-- How many bits are behind a length symbol.  The last one stands for a single length. -/
def lengthBits (place : Nat) : Nat :=
  if place = 28 then 0 else (place - 4) / 4

/-- The least length of a symbol: it goes on where the symbol before it ends, but for the last. -/
def leastLength (place : Nat) : Nat :=
  if place = 28 then 258 else 3 + ((List.range place).map fun before ↦ 2 ^ lengthBits before).sum

/-- How many bits are behind a distance symbol. -/
def distanceBits (place : Nat) : Nat :=
  (place - 2) / 2

/-- The least distance of a symbol: it goes on where the symbol before it ends. -/
def leastDistance (place : Nat) : Nat :=
  1 + ((List.range place).map fun before ↦ 2 ^ distanceBits before).sum

/-- The length and the distance of a copy, one symbol each with further bits behind it. -/
inductive GivesCopy (main distances : List Nat) (bits : List Bool) (length distance : Nat)
    (rest : List Bool) : Prop
  | intro {place more place' more' : Nat} {bits₁ bits₂ bits₃ : List Bool}
      (lengthSymbol : Reads main bits (257 + place) bits₁) (place_lt : place < 29)
      (furtherLength : Number (lengthBits place) more bits₁ bits₂)
      (length_eq : length = leastLength place + more)
      (distanceSymbol : Reads distances bits₂ place' bits₃) (place'_lt : place' < 30)
      (furtherDistance : Number (distanceBits place') more' bits₃ rest)
      (distance_eq : distance = leastDistance place' + more')

/-- The output has been continued by a copy: every new byte is the one at the distance in front of
it, and zero if there is none. -/
structure IsCopy (d : Dialect) (length distance : Nat) (output output' : Bytes) : Prop where
  reaches : d.reachesBack = false → distance ≤ output.length
  length_eq : output'.length = output.length + length
  old : ∀ i < output.length, output'[i]? = output[i]?
  new : ∀ i < output'.length, output.length ≤ i →
    output'[i]? = if distance ≤ i then output'[i - distance]? else some 0

/-! ## Codes that a block gives -/

/-- Numbers of the same number of bits, one behind the other. -/
def Numbers (count : Nat) : List Nat → List Bool → List Bool → Prop
  | [], bits, rest => bits = rest
  | n :: numbers, bits, rest => ∃ mid, Number count n bits mid ∧ Numbers count numbers mid rest

/-- The order in which the lengths of the code for lengths are given. -/
def orderOfLengths : List Nat :=
  [16, 17, 18, 0, 8, 7, 9, 6, 10, 5, 11, 4, 12, 3, 13, 2, 14, 1, 15]

/-- The lengths of the code for lengths; those that are not given are zero. -/
def codeLengths (given : List Nat) : List Nat :=
  (List.range 19).map fun symbol ↦ given.getD (orderOfLengths.idxOf symbol) 0

/-- An entry of a list of code lengths, with the number of times that it counts: a length, the
previous length again, or zero. -/
inductive GivesEntry (lengths : List Nat) (previous : Option Nat) (bits : List Bool) :
    (length times : Nat) → List Bool → Prop
  | length {length : Nat} {rest : List Bool} (reads : Reads lengths bits length rest)
      (le : length ≤ 15) : GivesEntry lengths previous bits length 1 rest
  | again {length more : Nat} {mid rest : List Bool} (reads : Reads lengths bits 16 mid)
      (eq_previous : previous = some length) (times : Number 2 more mid rest) :
      GivesEntry lengths previous bits length (3 + more) rest
  | zeros {more : Nat} {mid rest : List Bool} (reads : Reads lengths bits 17 mid)
      (times : Number 3 more mid rest) : GivesEntry lengths previous bits 0 (3 + more) rest
  | manyZeros {more : Nat} {mid rest : List Bool} (reads : Reads lengths bits 18 mid)
      (times : Number 7 more mid rest) : GivesEntry lengths previous bits 0 (11 + more) rest

/-- A list of code lengths, entry by entry. -/
inductive GivesLengths (lengths : List Nat) :
    (previous : Option Nat) → List Bool → List Nat → List Bool → Prop
  | done (previous : Option Nat) (bits : List Bool) : GivesLengths lengths previous bits [] bits
  | entry {previous : Option Nat} {length times : Nat} {bits mid rest : List Bool}
      {further : List Nat} (head : GivesEntry lengths previous bits length times mid)
      (tail : GivesLengths lengths (some length) mid further rest) :
      GivesLengths lengths previous bits (List.replicate times length ++ further) rest

/-- The lengths of the two codes that a block gives, for bytes and lengths and for distances: there
are three counts, then the lengths of a code, and then the lengths that are spelled in that code. -/
inductive GivesCodes (d : Dialect) (bits : List Bool) (main distances : List Nat)
    (rest : List Bool) : Prop
  | intro {mainMore distanceMore givenMore : Nat} {given : List Nat}
      {bits₁ bits₂ bits₃ bits₄ : List Bool} (mainCount : Number 5 mainMore bits bits₁)
      (distanceCount : Number 5 distanceMore bits₁ bits₂)
      (givenCount : Number 4 givenMore bits₂ bits₃) (main_le : mainMore + 257 ≤ 286)
      (distance_le : distanceMore + 1 ≤ d.distanceCount) (gives : Numbers 3 given bits₃ bits₄)
      (length_given : given.length = givenMore + 4) (complete : IsComplete (codeLengths given))
      (lengths : GivesLengths (codeLengths given) none bits₄ (main ++ distances) rest)
      (length_main : main.length = mainMore + 257)
      (length_distances : distances.length = distanceMore + 1) (main_usable : IsUsable d main)
      (distances_usable : IsUsable d distances)

/-! ## Compressed data -/

/-- What is left of some bits at the next whole byte. -/
def wholeBytes (bits : List Bool) : List Bool :=
  bits.drop (bits.length % 8)

/-- Where inflating stands: in front of a block, in a stored one, in a coded one, or behind the last
one, with the bits that are left and with what has been put out. -/
inductive State
  | start (bits : List Bool) (output : Bytes)
  | stored (isLast : Bool) (count : Nat) (bits : List Bool) (output : Bytes)
  | coded (isLast : Bool) (main distances : List Nat) (bits : List Bool) (output : Bytes)
  | finished (bits : List Bool) (output : Bytes)

namespace State

/-- What has been put out. -/
def output : State → Bytes
  | start _ output => output
  | stored _ _ _ output => output
  | coded _ _ _ _ output => output
  | finished _ output => output

/-- The bits that are left. -/
def bits : State → List Bool
  | start bits _ => bits
  | stored _ _ bits _ => bits
  | coded _ _ _ bits _ => bits
  | finished bits _ => bits

/-- Behind a block comes another one, unless it is the last; the bits that are left of its last
byte mean nothing then. -/
def behind (isLast : Bool) (bits : List Bool) (output : Bytes) : State :=
  if isLast then finished (wholeBytes bits) output else start bits output

end State

/-- One step of inflating.  A block begins with a bit that tells whether it is the last one and two
bits for its kind; a stored one goes on at the next whole byte, with the number of its bytes and
the complement of that number. -/
inductive Step (d : Dialect) : State → State → Prop
  | openStored {isLast : Bool} {count : Nat} {bits mid rest : List Bool} {output : Bytes}
      (given : Number 16 count (wholeBytes bits) mid)
      (complement : Number 16 (0xffff - count) mid rest) :
      Step d (.start (isLast :: false :: false :: bits) output) (.stored isLast count rest output)
  | storedByte {isLast : Bool} {count : Nat} {b : UInt8} {bits : List Bool} {output : Bytes} :
      Step d (.stored isLast (count + 1) (bitsOfByte b ++ bits) output)
        (.stored isLast count bits (output ++ [b]))
  | storedEnd {isLast : Bool} {bits : List Bool} {output : Bytes} :
      Step d (.stored isLast 0 bits output) (.behind isLast bits output)
  | openFixed {isLast : Bool} {bits : List Bool} {output : Bytes} :
      Step d (.start (isLast :: true :: false :: bits) output)
        (.coded isLast fixedMainLengths fixedDistanceLengths bits output)
  | openGiven {isLast : Bool} {main distances : List Nat} {bits rest : List Bool} {output : Bytes}
      (codes : GivesCodes d bits main distances rest) :
      Step d (.start (isLast :: false :: true :: bits) output)
        (.coded isLast main distances rest output)
  | byte {isLast : Bool} {main distances : List Nat} {symbol : Nat} {bits rest : List Bool}
      {output : Bytes} (reads : Reads main bits symbol rest) (symbol_lt : symbol < 256) :
      Step d (.coded isLast main distances bits output)
        (.coded isLast main distances rest (output ++ [symbol.toUInt8]))
  | copy {isLast : Bool} {main distances : List Nat} {length distance : Nat}
      {bits rest : List Bool} {output output' : Bytes}
      (gives : GivesCopy main distances bits length distance rest)
      (copies : IsCopy d length distance output output') :
      Step d (.coded isLast main distances bits output) (.coded isLast main distances rest output')
  | codedEnd {isLast : Bool} {main distances : List Nat} {bits rest : List Bool} {output : Bytes}
      (reads : Reads main bits 256 rest) :
      Step d (.coded isLast main distances bits output) (.behind isLast rest output)

/-- Any number of steps. -/
abbrev Steps (d : Dialect) : State → State → Prop :=
  Relation.ReflTransGen (Step d)

/-- Compressed data at the front of some bytes inflates to the output, with the rest behind it. -/
def Inflates (d : Dialect) (bytes output rest : Bytes) : Prop :=
  Steps d (.start (bitsOf bytes) []) (.finished (bitsOf rest) output)

/-! ## Headers -/

/-- The bytes of a number, the lowest first. -/
def littleEndian : (count : Nat) → Nat → Bytes
  | 0, _ => []
  | count + 1, n => n.toUInt8 :: littleEndian count (n / 256)

namespace Header

/-- A field that begins with its length. -/
def extraBytes (extra : Bytes) : Bytes :=
  littleEndian 2 extra.length ++ extra

/-- A field that ends with a zero byte. -/
def textBytes (text : Bytes) : Bytes :=
  text ++ [0]

/-- A text of a header does not have the byte that ends it, and is not too long. -/
def IsText (d : Dialect) (text : Bytes) : Prop :=
  0 ∉ text ∧ ∀ limit ∈ d.textLimit, text.length ≤ limit

/-- The fields of a header that may be missing. -/
structure Fields where
  extra : Option Bytes
  name : Option Bytes
  comment : Option Bytes

namespace Fields

/-- The bytes of the fields that are there. -/
def bytes (fields : Fields) : Bytes :=
  fields.extra.elim [] extraBytes ++ (fields.name.elim [] textBytes ++
    fields.comment.elim [] textBytes)

/-- Those fields are there that the flags announce, and each has its form. -/
structure WellFormed (d : Dialect) (flags : UInt8) (fields : Fields) : Prop where
  extra_isSome : fields.extra.isSome = flags.toNat.testBit 2
  name_isSome : fields.name.isSome = flags.toNat.testBit 3
  comment_isSome : fields.comment.isSome = flags.toNat.testBit 4
  extra_lt : ∀ extra ∈ fields.extra, extra.length < 2 ^ 16
  isText_name : ∀ text ∈ fields.name, IsText d text
  isText_comment : ∀ text ∈ fields.comment, IsText d text

end Fields

/-- The bytes are the lower half of the checksum of a header, if the flags announce one. -/
def IsSeal (flags : UInt8) (header bytes : Bytes) : Prop :=
  if flags.toNat.testBit 1 then
    ∃ sum, IsChecksum header sum ∧ bytes = littleEndian 2 (sum % 2 ^ 16)
  else bytes = []

end Header

/-- The header of a member: the flags, six bytes that nobody looks at, the fields that may be
missing, and perhaps a checksum. -/
structure Header where
  flags : UInt8
  unread : Bytes
  fields : Header.Fields
  sealBytes : Bytes

namespace Header

/-- The bytes of a header up to its checksum: two tell the format and one the method. -/
def checkedBytes (header : Header) : Bytes :=
  [0x1f, 0x8b, 8, header.flags] ++ header.unread ++ header.fields.bytes

/-- The bytes of a header. -/
def bytes (header : Header) : Bytes :=
  header.checkedBytes ++ header.sealBytes

/-- The flags announce the fields and nothing that is unknown. -/
structure WellFormed (d : Dialect) (header : Header) : Prop where
  flags_lt : header.flags.toNat < 2 ^ 5
  length_unread : header.unread.length = 6
  fields : header.fields.WellFormed d header.flags
  isSeal : IsSeal header.flags header.checkedBytes header.sealBytes

theorem WellFormed.le_length_bytes {d : Dialect} {header : Header} (h : header.WellFormed d) :
    10 ≤ header.bytes.length := by
  simp only [bytes, checkedBytes, List.length_append, List.length_cons, List.length_nil,
    h.length_unread]
  omega

end Header

/-! ## Members and streams -/

/-- The bytes are a trailer for some data: the checksum of the data and its size. -/
def IsTrailer (data bytes : Bytes) : Prop :=
  ∃ sum, IsChecksum data sum ∧
    bytes = littleEndian 4 sum ++ littleEndian 4 (data.length % 2 ^ 32)

/-- A member of a stream is in front of the rest: a header, compressed data, and a trailer. -/
inductive IsMember (d : Dialect) (bytes data rest : Bytes) : Prop
  | intro {header : Header} {compressed trailer : Bytes} (wellFormed : header.WellFormed d)
      (bytes_eq : bytes = header.bytes ++ compressed)
      (inflates : Inflates d compressed data (trailer ++ rest)) (isTrailer : IsTrailer data trailer)

/-- A stream is a sequence of members, at least one, and holds the data of all of them. -/
inductive IsStream (d : Dialect) : (bytes data : Bytes) → Prop
  | last {bytes data : Bytes} (member : IsMember d bytes data []) : IsStream d bytes data
  | more {bytes data rest data' : Bytes} (member : IsMember d bytes data rest)
      (stream : IsStream d rest data') : IsStream d bytes (data ++ data')

/-- Data that can be inflated from the front of some bytes, whatever comes behind it. -/
inductive Delivers (d : Dialect) : (bytes data : Bytes) → Prop
  | nothing {bytes : Bytes} : Delivers d bytes []
  | steps {header : Header} {compressed : Bytes} {s : State} (wellFormed : header.WellFormed d)
      (steps : Steps d (.start (bitsOf compressed) []) s) :
      Delivers d (header.bytes ++ compressed) s.output
  | more {bytes data rest data' : Bytes} (member : IsMember d bytes data rest)
      (further : Delivers d rest data') : Delivers d bytes (data ++ data')

/-! ## Less and more generous dialects -/

section Mono

variable {d e : Dialect} (hle : d ≤ e)

include hle

theorem IsUsable.mono {lengths : List Nat} (h : IsUsable d lengths) : IsUsable e lengths := by
  rcases h with hcomplete | ⟨hlone, hlength⟩
  · exact .inl hcomplete
  · refine .inr ⟨hlone, fun he ↦ hlength (Bool.eq_false_iff.mpr fun hd ↦ ?_)⟩
    cases he.symm.trans (hle.2.1 hd)

theorem IsCopy.mono {length distance : Nat} {output output' : Bytes}
    (h : IsCopy d length distance output output') : IsCopy e length distance output output' where
  reaches he := h.reaches (Bool.eq_false_iff.mpr fun hd ↦ by cases he.symm.trans (hle.1 hd))
  length_eq := h.length_eq
  old := h.old
  new := h.new

theorem GivesCodes.mono {bits rest : List Bool} {main distances : List Nat}
    (h : GivesCodes d bits main distances rest) : GivesCodes e bits main distances rest := by
  obtain ⟨hmainCount, hdistanceCount, hgivenCount, hmain_le, hdistance_le, hgives, hgiven,
    hcomplete, hlengths, hmain, hdistances, hmainUsable, hdistancesUsable⟩ := h
  exact .intro hmainCount hdistanceCount hgivenCount hmain_le (hdistance_le.trans hle.2.2.1) hgives
    hgiven hcomplete hlengths hmain hdistances (hmainUsable.mono hle) (hdistancesUsable.mono hle)

theorem Step.mono {s t : State} (h : Step d s t) : Step e s t := by
  cases h with
  | openStored hgiven hcomplement => exact .openStored hgiven hcomplement
  | storedByte => exact .storedByte
  | storedEnd => exact .storedEnd
  | openFixed => exact .openFixed
  | openGiven hcodes => exact .openGiven (hcodes.mono hle)
  | byte hreads hlt => exact .byte hreads hlt
  | copy hgives hcopies => exact .copy hgives (hcopies.mono hle)
  | codedEnd hreads => exact .codedEnd hreads

theorem Inflates.mono {bytes output rest : Bytes} (h : Inflates d bytes output rest) :
    Inflates e bytes output rest := by
  have hsteps : Steps d (.start (bitsOf bytes) []) (.finished (bitsOf rest) output) := h
  exact hsteps.lift id fun _ _ hstep ↦ hstep.mono hle

theorem Header.IsText.mono {text : Bytes} (h : Header.IsText d text) : Header.IsText e text := by
  refine ⟨h.1, fun limit hlimit ↦ ?_⟩
  obtain ⟨less, hless, hsmaller⟩ := hle.2.2.2 limit hlimit
  exact (h.2 less hless).trans hsmaller

theorem Header.WellFormed.mono {header : Header} (h : header.WellFormed d) :
    header.WellFormed e where
  flags_lt := h.flags_lt
  length_unread := h.length_unread
  fields :=
    { h.fields with
      isText_name := fun text htext ↦ (h.fields.isText_name text htext).mono hle
      isText_comment := fun text htext ↦ (h.fields.isText_comment text htext).mono hle }
  isSeal := h.isSeal

theorem IsMember.mono {bytes data rest : Bytes} (h : IsMember d bytes data rest) :
    IsMember e bytes data rest := by
  obtain ⟨hwellFormed, hbytes, hinflates, htrailer⟩ := h
  exact .intro (hwellFormed.mono hle) hbytes (hinflates.mono hle) htrailer

/-- **A stream of a dialect is one of every dialect that allows more, with the same data.** -/
theorem IsStream.mono {bytes data : Bytes} (h : IsStream d bytes data) : IsStream e bytes data := by
  induction h with
  | last hmember => exact .last (hmember.mono hle)
  | more hmember _ ih => exact .more (hmember.mono hle) ih

end Mono

end TenantView.Gzip
