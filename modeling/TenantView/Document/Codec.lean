import TenantView.Json.Parser
import TenantView.Timestamp.Parser
import TenantView.Timestamp.Printer

/-!
# Shapes of document parts

A codec describes one shape of value in three ways: how it is read from the bytes of a document,
how it is taken from a value that has been read already, and how it is turned back into a value.
The first two are kept side by side because a listing may arrive either way, and they are to
accept the same documents.  This file has the codecs of the plain shapes: text, numbers, lists,
and parts that may be null.
-/

namespace TenantView.Document

open TenantView.Json

/-- Where a value that has been read already comes from: it was parsed on its own, or it was set
aside while the kind of its record was still unknown. -/
inductive Source
  | parsed
  | setAside
deriving DecidableEq, Repr

/-- The complaint about `total` items where the fields of a record used only `used` of them. -/
def Source.tooLong (source : Source) (used total : Nat) : Cause :=
  match source with
  | parsed => .wrongLength total .fewer
  | setAside => .wrongLength total (.exactly used)

/-- One shape of value. -/
structure Codec (α : Type) where
  /-- Reads the shape from bytes, with the given number of levels of nesting left. -/
  read : (levels : Nat) → Reader α
  /-- Takes the shape from a value. -/
  decode : Source → Value → Except Cause α
  /-- The value of the shape. -/
  encode : α → Value

/-- The reader of the parts of a bracket, given the levels left around it. -/
def nested {α : Type} (levels : Nat) (reader : Nat → Reader α) : Option (Reader α) :=
  match levels with
  | 0 => none
  | levels + 1 => some (reader levels)

/-- What a value is. -/
def found : Value → Found
  | .null => .null
  | .boolean value => .boolean value
  | .number value => .number value
  | .string value => .string value
  | .array _ => .sequence
  | .object _ => .mapping

/-- Refuses a value of the wrong kind. -/
def refuse {α : Type} (expected : Expected) (v : Value) : Except Cause α :=
  .error (.wrongKind (found v) expected)

/-- Refuses the value at the front of the bytes, where another kind is expected.  A value without
parts is read to be quoted, and what is wrong with it goes first. -/
def refuseNext {α : Type} (expected : Expected) : Reader α := fun bytes ↦
  let wrong (found : Found) : Reader α := failHere (.wrongKind found expected)
  match skipBlanks bytes with
  | [] => failAtNext .endInValue []
  | Ascii.lowerN :: rest => (readKeyword restOfNull rest).andThen fun () ↦ wrong .null
  | Ascii.lowerT :: rest => (readKeyword restOfTrue rest).andThen fun () ↦ wrong (.boolean true)
  | Ascii.lowerF :: rest => (readKeyword restOfFalse rest).andThen fun () ↦ wrong (.boolean false)
  | Ascii.quote :: rest => (readText rest).andThen fun s ↦ wrong (.string s)
  | Ascii.openBracket :: rest => wrong .sequence (Ascii.openBracket :: rest)
  | Ascii.openBrace :: rest => wrong .mapping (Ascii.openBrace :: rest)
  | b :: rest =>
    if b = Ascii.minus ∨ Ascii.isDigit b then
      (readNumber (b :: rest)).andThen fun n ↦ wrong (.number n)
    else failAtNext .expectedValue (b :: rest)

namespace Codec

/-- Reads a text and makes something of it. -/
def readTextAs {α : Type} (expected : Expected) (make : String → Except Cause α) : Reader α :=
  fun bytes ↦
    match skipBlanks bytes with
    | Ascii.quote :: rest =>
      (readText rest).andThen fun s rest ↦
        match make s with
        | .ok x => .done x rest
        | .error cause => failHere cause rest
    | bytes => refuseNext expected bytes

/-- A text. -/
def text : Codec String where
  read _ := readTextAs .text .ok
  decode _
    | .string s => .ok s
    | v => refuse .text v
  encode := .string

/-- The timestamp that a text denotes. -/
def parseTimestamp (s : String) : Except Cause Timestamp :=
  match Timestamp.parse s with
  | .ok t => .ok t
  | .error reason => .error (.timestamp reason)

/-- A timestamp, spelled as a text. -/
def timestamp : Codec Timestamp where
  read _ := readTextAs .timestamp parseTimestamp
  decode _
    | .string s => parseTimestamp s
    | v => refuse .timestamp v
  encode t := .string t.text

/-- Reads a number and makes something of it. -/
def readNumberAs {α : Type} (expected : Expected) (make : Number → Except Cause α) : Reader α :=
  fun bytes ↦
    match skipBlanks bytes with
    | b :: rest =>
      if b = Ascii.minus ∨ Ascii.isDigit b then
        (readNumber (b :: rest)).andThen fun n rest ↦
          match make n with
          | .ok x => .done x rest
          | .error cause => failHere cause rest
      else refuseNext expected (b :: rest)
    | [] => refuseNext expected []

/-- A double; an integer is rounded to one. -/
def real : Codec Double where
  read _ := readNumberAs .real fun n ↦ .ok n.toDouble
  decode _
    | .number n => .ok n.toDouble
    | v => refuse .real v
  encode d := .number (.real d)

/-- The natural number below `2 ^ 64` that a number is. -/
def naturalOf : Number → Except Cause UInt64
  | .whole value h =>
    if value < 0 then .error (.wrongRange (.number (.whole value h)) .natural)
    else .ok (UInt64.ofNat value.toNat)
  | .real d => .error (.wrongKind (.number (.real d)) .natural)

/-- A natural number below `2 ^ 64`. -/
def natural : Codec UInt64 where
  read _ := readNumberAs .natural naturalOf
  decode _
    | .number n => naturalOf n
    | v => refuse .natural v
  encode n := .number (.ofNat n.toNat n.toNat_lt)

/-- Any value, taken as it is. -/
def opaqueValue : Codec Value where
  read := readValue
  decode _ v := .ok v
  encode v := v

/-- A part that may be null. -/
def nullable {α : Type} (c : Codec α) : Codec (Option α) where
  read levels := fun bytes ↦
    match skipBlanks bytes with
    | Ascii.lowerN :: rest => (readKeyword restOfNull rest).map fun () ↦ none
    | bytes => (c.read levels bytes).map some
  decode source
    | .null => .ok none
    | v => (c.decode source v).map some
  encode
    | none => .null
    | some x => c.encode x

/-- Takes a shape from every value of a list, up to the first refusal. -/
def decodeItems {α : Type} (decode : Value → Except Cause α) : List Value → Except Cause (List α)
  | [] => .ok []
  | v :: vs => do
    let x ← decode v
    let xs ← decodeItems decode vs
    return x :: xs

/-- A list of parts of one shape. -/
def list {α : Type} (c : Codec α) : Codec (List α) where
  read levels := fun bytes ↦
    match skipBlanks bytes with
    | Ascii.openBracket :: rest =>
      enclosed (nested levels fun levels rest ↦ readItems (c.read levels) rest true [] rest)
        closeSequence (Ascii.openBracket :: rest)
    | bytes => refuseNext .sequence bytes
  decode source
    | .array items => decodeItems (c.decode source) items
    | v => refuse .sequence v
  encode xs := .array (xs.map c.encode)

/-- A list that may be sent as null when it is empty. -/
def listOrNull {α : Type} (c : Codec α) : Codec (List α) where
  read levels := fun bytes ↦ ((nullable (list c)).read levels bytes).map (·.getD [])
  decode source v := ((nullable (list c)).decode source v).map (·.getD [])
  encode := (list c).encode

end Codec

end TenantView.Document
