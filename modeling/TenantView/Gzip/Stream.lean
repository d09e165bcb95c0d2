import TenantView.Gzip.Checksum
import TenantView.Gzip.Inflate

/-!
# Gzip streams

A gzip stream is a sequence of members, each with a header, compressed data, and a trailer that
holds the checksum and the size of the data.  Unpacking delivers the data of all members up to
the end of the stream or up to the first fault.  Data that runs out is delivered as far as it
goes; of corrupt data only whole windows are delivered, since the last window is given up with
the fault.
-/

namespace TenantView.Gzip

/-- Why a stream is refused. -/
inductive Fault
  | invalidHeader
  | fieldTooLong
  | badChecksum
  | endOfFile
  | truncatedData
  | corruptData
deriving DecidableEq, Repr

/-- The wording of a fault. -/
def Fault.message : Fault → String
  | invalidHeader => "invalid gzip header"
  | fieldTooLong => "gzip header field too long"
  | badChecksum => "corrupt gzip stream does not have a matching checksum"
  | endOfFile => "unexpected end of file"
  | truncatedData => "incomplete deflate stream"
  | corruptData => "corrupt deflate stream"

/-- The greatest length of a name or a comment. -/
def fieldLimit : Nat := 65535

/-- Drops a name or a comment and the zero byte behind it. -/
def dropField : (room : Nat) → Bytes → Except Fault Bytes
  | _, [] => .error .endOfFile
  | _, 0 :: bytes => .ok bytes
  | 0, _ :: _ => .error .fieldTooLong
  | room + 1, _ :: bytes => dropField room bytes

/-- Drops a field that begins with its length. -/
def dropExtra : Bytes → Except Fault Bytes
  | a :: b :: bytes =>
    let length := a.toNat + 256 * b.toNat
    if bytes.length < length then .error .endOfFile else .ok (bytes.drop length)
  | _ => .error .endOfFile

/-- Drops the checksum of a header, after comparing it with that of the bytes before it. -/
def dropHeaderChecksum (header : Bytes) : Bytes → Except Fault Bytes
  | a :: b :: bytes =>
    if (checksum header).toNat % UInt16.size = a.toNat + 256 * b.toNat then .ok bytes
    else .error .badChecksum
  | _ => .error .endOfFile

/-- Whether a bit of the flags of a header is set. -/
def hasFlag (flags : UInt8) (bit : Nat) : Bool :=
  flags.toNat.testBit bit

/-- Drops the optional fields of a header; `whole` are the bytes from its beginning on. -/
def dropFields (whole : Bytes) (flags : UInt8) (bytes : Bytes) : Except Fault Bytes := do
  let bytes ← if hasFlag flags 2 then dropExtra bytes else pure bytes
  let bytes ← if hasFlag flags 3 then dropField fieldLimit bytes else pure bytes
  let bytes ← if hasFlag flags 4 then dropField fieldLimit bytes else pure bytes
  if hasFlag flags 1 then dropHeaderChecksum (whole.take (whole.length - bytes.length)) bytes
  else return bytes

/-- Drops the header of a member. -/
def dropHeader (whole : Bytes) : Except Fault Bytes :=
  match whole with
  | a :: b :: method :: flags :: _ :: _ :: _ :: _ :: _ :: _ :: bytes =>
    if a = 0x1f ∧ b = 0x8b ∧ method = 8 ∧ flags.toNat < 0x20 then dropFields whole flags bytes
    else .error .invalidHeader
  | _ => .error .endOfFile

/-- The number that bytes spell, the lowest byte first. -/
def ofLittleEndian (bytes : Bytes) : Nat :=
  bytes.foldr (fun b value ↦ b.toNat + 256 * value) 0

/-- Drops the trailer of a member, after comparing it with the data. -/
def dropTrailer (data bytes : Bytes) : Except Fault Bytes :=
  if bytes.length < 8 then .error .endOfFile
  else if ofLittleEndian (bytes.take 4) = (checksum data).toNat ∧
      ofLittleEndian ((bytes.drop 4).take 4) = data.length % UInt32.size then
    .ok (bytes.drop 8)
  else .error .badChecksum

/-- The size of the window in which data is inflated. -/
def windowSize : Nat := 32768

/-- What a stream delivers, and the fault that ends it, if one does. -/
structure Delivery where
  data : Bytes
  fault : Option Fault
deriving DecidableEq

/-- A delivery that ends with a fault at once. -/
def Delivery.failed (fault : Fault) : Delivery where
  data := []
  fault := some fault

/-- A delivery behind other data. -/
def Delivery.after (delivery : Delivery) (data : Bytes) : Delivery :=
  { delivery with data := data ++ delivery.data }

/-- Unpacks the members of a stream, at least one.  Every member takes a byte. -/
def unpackMembers : (rounds : Bytes) → Bytes → Delivery
  | [], _ => .failed .endOfFile
  | _ :: rounds, bytes =>
    match dropHeader bytes with
    | .error fault => .failed fault
    | .ok bytes =>
      match inflate bytes with
      | (output, .error .truncated) =>
        { data := output.toList, fault := some .truncatedData }
      | (output, .error .corrupt) =>
        { data := output.toList.take (output.size / windowSize * windowSize)
          fault := some .corruptData }
      | (output, .ok bytes) =>
        let data := output.toList
        match dropTrailer data bytes with
        | .error fault => { data, fault := some fault }
        | .ok [] => { data, fault := none }
        | .ok bytes => (unpackMembers rounds bytes).after data

/-- Unpacks a stream. -/
def unpack (bytes : Bytes) : Delivery :=
  unpackMembers bytes bytes

end TenantView.Gzip
