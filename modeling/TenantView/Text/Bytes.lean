/-!
# Bytes and the text they spell

Documents travel as bytes and are looked at byte by byte, while names and values are text.
This module fixes the list view of a byte sequence, names the ASCII bytes that the formats use,
and passes between text and its UTF-8 bytes.  The two directions are inverse
(`ofBytes?_toBytes`, `toBytes_of_ofBytes?`), so a text is determined by its bytes.
-/

namespace TenantView

/-- A byte sequence, seen as a list so that a reader can take it apart from the front. -/
abbrev Bytes := List UInt8

namespace Ascii

@[match_pattern] abbrev backspace : UInt8 := 0x08
@[match_pattern] abbrev tab : UInt8 := 0x09
@[match_pattern] abbrev newline : UInt8 := 0x0a
@[match_pattern] abbrev formFeed : UInt8 := 0x0c
@[match_pattern] abbrev carriageReturn : UInt8 := 0x0d
@[match_pattern] abbrev space : UInt8 := 0x20
@[match_pattern] abbrev quote : UInt8 := 0x22
@[match_pattern] abbrev plus : UInt8 := 0x2b
@[match_pattern] abbrev comma : UInt8 := 0x2c
@[match_pattern] abbrev minus : UInt8 := 0x2d
@[match_pattern] abbrev point : UInt8 := 0x2e
@[match_pattern] abbrev slash : UInt8 := 0x2f
@[match_pattern] abbrev zero : UInt8 := 0x30
@[match_pattern] abbrev colon : UInt8 := 0x3a
@[match_pattern] abbrev upperE : UInt8 := 0x45
@[match_pattern] abbrev openBracket : UInt8 := 0x5b
@[match_pattern] abbrev backslash : UInt8 := 0x5c
@[match_pattern] abbrev closeBracket : UInt8 := 0x5d
@[match_pattern] abbrev lowerB : UInt8 := 0x62
@[match_pattern] abbrev lowerE : UInt8 := 0x65
@[match_pattern] abbrev lowerF : UInt8 := 0x66
@[match_pattern] abbrev lowerN : UInt8 := 0x6e
@[match_pattern] abbrev lowerR : UInt8 := 0x72
@[match_pattern] abbrev lowerT : UInt8 := 0x74
@[match_pattern] abbrev lowerU : UInt8 := 0x75
@[match_pattern] abbrev openBrace : UInt8 := 0x7b
@[match_pattern] abbrev closeBrace : UInt8 := 0x7d

/-- The decimal digits `0` to `9`. -/
def isDigit (b : UInt8) : Bool :=
  0x30 ≤ b && b ≤ 0x39

/-- The number a decimal digit stands for. -/
def digitValue (b : UInt8) : Nat :=
  b.toNat - 0x30

/-- The decimal digit of a number below ten. -/
def ofDigit (d : Nat) : UInt8 :=
  (0x30 + d).toUInt8

/-- The number a hexadecimal digit of either case stands for. -/
def hexValue? (b : UInt8) : Option Nat :=
  if 0x30 ≤ b && b ≤ 0x39 then some (b.toNat - 0x30)
  else if 0x61 ≤ b && b ≤ 0x66 then some (b.toNat - 0x57)
  else if 0x41 ≤ b && b ≤ 0x46 then some (b.toNat - 0x37)
  else none

/-- The lower-case hexadecimal digit of a number below sixteen. -/
def ofHexDigit (d : Nat) : UInt8 :=
  if d < 10 then (0x30 + d).toUInt8 else (0x57 + d).toUInt8

end Ascii

namespace Text

/-- The UTF-8 bytes of a text. -/
def toBytes (s : String) : Bytes :=
  s.toUTF8.data.toList

/-- The text that a byte sequence spells in UTF-8, if it is well formed. -/
def ofBytes? (bytes : Bytes) : Option String :=
  String.fromUTF8? ⟨bytes.toArray⟩

@[simp] theorem ofBytes?_toBytes (s : String) : ofBytes? (toBytes s) = some s := by
  simp [ofBytes?, toBytes, String.fromUTF8?, String.fromUTF8, s.isValidUTF8]

theorem toBytes_of_ofBytes? {bytes : Bytes} {s : String} (h : ofBytes? bytes = some s) :
    toBytes s = bytes := by
  unfold ofBytes? String.fromUTF8? at h
  split at h
  · cases h
    simp [toBytes, String.fromUTF8]
  · cases h

theorem toBytes_injective {s t : String} (h : toBytes s = toBytes t) : s = t := by
  have hs := ofBytes?_toBytes s
  rw [h, ofBytes?_toBytes] at hs
  exact (Option.some.inj hs).symm

/-- The number of bytes of the character in front, if the bytes begin with one. -/
def charSize? (bytes : Bytes) : Option Nat :=
  [1, 2, 3, 4].find? fun size ↦
    let front := bytes.take size
    front.length = size && (ofBytes? front).isSome

/-- Drops characters in front as long as there are some.  Every round takes a byte. -/
def dropValid : (rounds : Bytes) → Bytes → Bytes
  | [], bytes => bytes
  | _ :: rounds, bytes =>
    match charSize? bytes with
    | some size => dropValid rounds (bytes.drop size)
    | none => bytes

/-- The order of texts by their UTF-8 bytes. -/
def byteLt (s t : String) : Prop :=
  toBytes s < toBytes t

instance (s t : String) : Decidable (byteLt s t) :=
  inferInstanceAs (Decidable (toBytes s < toBytes t))

end Text

end TenantView
