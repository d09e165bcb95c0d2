import TenantView.Document.Envelope
import TenantView.Gzip.Stream
import TenantView.Json.Draft
import TenantView.Rewrite.Error
import TenantView.Text.Blank

/-!
# Taking envelopes apart and packing them up

A body is taken apart by undoing its content encoding, reading the envelope in it, and refusing
an envelope that reports anything but success.  Packing an envelope up never compresses; the
text ends in a newline.
-/

namespace TenantView.Rewrite

/-- How a body is encoded. -/
inductive ContentEncoding
  | plain
  | gzip
deriving DecidableEq, Repr

namespace ContentEncoding

/-- The form of an encoding's name that is compared. -/
def canonical (name : String) : String :=
  String.ofList ((Text.trim name.toList).map Char.toLower)

/-- The encoding that a header names; a missing or empty name means plain. -/
def ofName (name : Option String) : Except Error ContentEncoding :=
  match name.map canonical with
  | none => .ok .plain
  | some "" => .ok .plain
  | some "identity" => .ok .plain
  | some "gzip" => .ok .gzip
  | some "x-gzip" => .ok .gzip
  | some other => .error (.decompression ("unsupported content encoding " ++ Text.quoted other))

end ContentEncoding

/-- How many bytes at most are unpacked: one more than are allowed, if a machine word holds that
number. -/
def allowance (limit : Nat) : Except Stop Nat :=
  if limit + 1 < UInt64.size then .ok (limit + 1) else .error .overflow

/-- The data of a delivery of which at most `room` bytes are asked for and at most `limit` bytes may
come.  A fault behind the bytes that are asked for is not met. -/
def accept (limit room : Nat) (delivery : Gzip.Delivery) : Except Error Bytes :=
  let data := delivery.data.take room
  match delivery.fault with
  | some fault =>
    if delivery.data.length < room then .error (.decompression fault.message)
    else if limit < data.length then .error (.body (.inflatesTooFar limit))
    else .ok data
  | none => if limit < data.length then .error (.body (.inflatesTooFar limit)) else .ok data

/-- Unpacks a body that may have at most `limit` bytes unpacked. -/
def unpackWithin (limit : Nat) (body : Bytes) : Except Stop Bytes := do
  let room ← allowance limit
  (accept limit room (Gzip.unpack body)).mapError .givenUp

/-- An envelope, and whether it was packed. -/
structure Opened where
  envelope : Envelope
  wasPacked : Bool

/-- Undoes an encoding. -/
def ContentEncoding.undo (encoding : ContentEncoding) (limit : Nat) (body : Bytes) :
    Except Stop Bytes :=
  match encoding with
  | plain => .ok body
  | gzip => unpackWithin limit body

/-- Reads an envelope that reports success. -/
def readEnvelope (document : Bytes) : Except Error Envelope := do
  let envelope ←
    (Json.readDocument (Document.Codec.envelope.read Json.nestingLimit) document).mapError
      .malformedEnvelope
  if envelope.status = Envelope.successStatus then return envelope
  else throw (.unexpectedStatus envelope.status)

/-- Takes a body apart; `encodingName` is what the header says about its encoding. -/
def openBody (limit : Nat) (encodingName : Option String) (body : Bytes) :
    Except Stop Opened := do
  let encoding ← (ContentEncoding.ofName encodingName).mapError .givenUp
  let document ← encoding.undo limit body
  let envelope ← (readEnvelope document).mapError .givenUp
  return { envelope, wasPacked := encoding = .gzip }

/-- The bytes of an envelope around new data.  The data becomes a value first, and then the envelope
around it is written. -/
def packEnvelope (envelope : Envelope) (payload : Json.Draft) : Except Error Bytes := do
  let data ← payload.toValue.mapError fun cause ↦ .payloadEncode (.ofCause cause)
  let draft := Json.Draft.ofValue (Document.Codec.envelope.encode { envelope with data })
  let bytes ← draft.bytes.mapError fun cause ↦ .envelopeEncode (.ofCause cause)
  return bytes ++ [Ascii.newline]

end TenantView.Rewrite
