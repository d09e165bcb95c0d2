import TenantView.Json.Value
import TenantView.Text.Quoted
import TenantView.Timestamp.Basic
import TenantView.Json.Printer

/-!
# What can be wrong with a document

A document is refused either because its bytes do not spell a value, or because the value does
not have the shape that is asked for; and what is to be written may have parts that cannot be.
Each reason is a constructor of `Cause`, and `Cause.message` is the one place where the reasons
are worded.  A `Fault` is a cause together with the bytes that were left where it was noticed, if
the document was read from bytes; `Position.of` turns that into a line and a column.
-/

namespace TenantView.Json

/-- What a value is, as far as a complaint about it says. -/
inductive Found
  | null
  | boolean (value : Bool)
  | number (value : Number)
  | string (value : String)
  | sequence
  | mapping
deriving DecidableEq, Repr

/-- What was asked for where another kind of value was found. -/
inductive Expected
  | text
  | real
  | natural
  | sequence
  | mapping
  | timestamp
  | record (name : String)
  | taggedRecord (name : String)
  | variantName
deriving DecidableEq, Repr

/-- What was asked for where a sequence had the wrong number of items. -/
inductive ExpectedLength
  /-- A record spelled as a sequence lacks items. -/
  | record (name : String) (fields : Nat)
  /-- A record spelled as a sequence has more items than fields. -/
  | fewer
  /-- The same, where the sequence was set aside before it was read. -/
  | exactly (items : Nat)
deriving DecidableEq, Repr

/-- Why a document is refused, or cannot be written. -/
inductive Cause
  | endInValue
  | endInArray
  | endInObject
  | endInString
  | expectedColon
  | expectedCommaOrBracket
  | expectedCommaOrBrace
  | expectedKeyword
  | expectedValue
  | invalidEscape
  | invalidNumber
  | numberOutOfRange
  | invalidUtf8
  | controlCharacter
  | nameNotString
  | loneSurrogate
  | unfinishedSurrogate
  | trailingComma
  | trailingCharacters
  | nestedTooDeep
  | wrongKind (found : Found) (expected : Expected)
  | wrongRange (found : Found) (expected : Expected)
  | wrongLength (length : Nat) (expected : ExpectedLength)
  | missingField (name : String)
  | duplicateField (name : String)
  | unknownVariant (name : String) (known : List String)
  | timestamp (reason : TimestampError)
  | unwritable (reason : String)
deriving DecidableEq, Repr

/-- The text of a number in a message. -/
def Number.text (n : Number) : String :=
  String.ofList (n.bytes.map fun b ↦ Char.ofNat b.toNat)

/-- A name between marks. -/
def marked (name : String) : String :=
  s!"`{name}`"

namespace Found

/-- The wording of what was found. -/
def phrase : Found → String
  | null => "null"
  | boolean true => "boolean `true`"
  | boolean false => "boolean `false`"
  | number (.whole value h) => "integer " ++ marked (Number.text (.whole value h))
  | number (.real value) => "floating point " ++ marked (Number.text (.real value))
  | string value => "string " ++ Text.quoted value
  | sequence => "sequence"
  | mapping => "map"

end Found

namespace Expected

/-- The wording of what was asked for. -/
def phrase : Expected → String
  | text => "a string"
  | real => "f64"
  | natural => "u64"
  | sequence => "a sequence"
  | mapping => "a map"
  | timestamp => "an RFC 3339 formatted date and time string"
  | record name => s!"struct {name}"
  | taggedRecord name => s!"internally tagged enum {name}"
  | variantName => "variant identifier"

end Expected

/-- A count with its noun, which is plural unless the count is one. -/
def counted (n : Nat) (noun : String) : String :=
  if n = 1 then s!"1 {noun}" else s!"{n} {noun}s"

namespace ExpectedLength

/-- The wording of the expected number of items. -/
def phrase : ExpectedLength → String
  | record name fields => s!"struct {name} with " ++ counted fields "element"
  | fewer => "fewer elements in array"
  | exactly items => counted items "element" ++ " in sequence"

end ExpectedLength

namespace Cause

/-- The wording of a cause. -/
def message : Cause → String
  | endInValue => "EOF while parsing a value"
  | endInArray => "EOF while parsing a list"
  | endInObject => "EOF while parsing an object"
  | endInString => "EOF while parsing a string"
  | expectedColon => "expected `:`"
  | expectedCommaOrBracket => "expected `,` or `]`"
  | expectedCommaOrBrace => "expected `,` or `\x7d`"
  | expectedKeyword => "expected ident"
  | expectedValue => "expected value"
  | invalidEscape => "invalid escape"
  | invalidNumber => "invalid number"
  | numberOutOfRange => "number out of range"
  | invalidUtf8 => "invalid unicode code point"
  | controlCharacter => "control character (\\u0000-\\u001F) found while parsing a string"
  | nameNotString => "key must be a string"
  | loneSurrogate => "lone leading surrogate in hex escape"
  | unfinishedSurrogate => "unexpected end of hex escape"
  | trailingComma => "trailing comma"
  | trailingCharacters => "trailing characters"
  | nestedTooDeep => "recursion limit exceeded"
  | wrongKind found expected => s!"invalid type: {found.phrase}, expected {expected.phrase}"
  | wrongRange found expected => s!"invalid value: {found.phrase}, expected {expected.phrase}"
  | wrongLength length expected => s!"invalid length {length}, expected {expected.phrase}"
  | missingField name => s!"missing field `{name}`"
  | duplicateField name => s!"duplicate field `{name}`"
  | unknownVariant name known =>
    s!"unknown variant `{name}`, expected " ++ " or ".intercalate (known.map marked)
  | timestamp reason => reason.message
  | unwritable reason => reason

end Cause

/-- A cause, with the bytes left at the place that is blamed if there is one. -/
structure Fault where
  cause : Cause
  place : Option Bytes
deriving DecidableEq, Repr

/-- A place in a document: the line, counted from one, and the number of bytes before it in that
line. -/
structure Position where
  line : Nat
  column : Nat
deriving DecidableEq, Repr

namespace Position

/-- The position behind the given bytes. -/
def after (bytes : Bytes) : Position :=
  bytes.foldl
    (fun p b ↦ if b = Ascii.newline then ⟨p.line + 1, 0⟩ else ⟨p.line, p.column + 1⟩) ⟨1, 0⟩

/-- The position in a document at which the given bytes are left. -/
def of (document rest : Bytes) : Position :=
  after (document.take (document.length - rest.length))

end Position

/-- A refusal of a document: the cause, and the position if the document was read from bytes. -/
structure Refusal where
  cause : Cause
  position : Option Position
deriving DecidableEq, Repr

namespace Refusal

/-- A refusal of a value, which has no positions. -/
def ofCause (cause : Cause) : Refusal :=
  ⟨cause, none⟩

/-- A fault seen from the whole document. -/
def ofFault (document : Bytes) (fault : Fault) : Refusal :=
  ⟨fault.cause, fault.place.map (Position.of document)⟩

/-- The wording of a refusal. -/
def message (r : Refusal) : String :=
  match r.position with
  | none => r.cause.message
  | some p => s!"{r.cause.message} at line {p.line} column {p.column}"

end Refusal

end TenantView.Json
