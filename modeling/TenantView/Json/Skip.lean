import TenantView.Json.NumberReader
import TenantView.Json.TextReader

/-!
# Skipping a value

A value that nobody asks for is skipped without being built.  It may be nested to any depth, so
the open brackets are kept in a list, and it is checked for its form alone.
-/

namespace TenantView.Json

/-- The letters behind the first one of the three keywords. -/
def restOfNull : Bytes := [Ascii.lowerU, 0x6c, 0x6c]

def restOfTrue : Bytes := [Ascii.lowerR, Ascii.lowerU, Ascii.lowerE]

def restOfFalse : Bytes := [0x61, 0x6c, 0x73, Ascii.lowerE]

/-- An open bracket. -/
inductive Bracket
  | sequence
  | mapping
deriving DecidableEq, Repr

/-- Skips a value without parts, or takes the opening bracket of one with parts. -/
def skipStart : Reader (Option Bracket) := fun bytes ↦
  match skipBlanks bytes with
  | [] => failAtNext .endInValue []
  | Ascii.lowerN :: rest => (readKeyword restOfNull rest).map fun () ↦ none
  | Ascii.lowerT :: rest => (readKeyword restOfTrue rest).map fun () ↦ none
  | Ascii.lowerF :: rest => (readKeyword restOfFalse rest).map fun () ↦ none
  | Ascii.quote :: rest => (skipText rest).map fun () ↦ none
  | Ascii.openBracket :: rest => .done (some .sequence) rest
  | Ascii.openBrace :: rest => .done (some .mapping) rest
  | b :: rest =>
    if b = Ascii.minus ∨ Ascii.isDigit b then (skipNumber (b :: rest)).map fun () ↦ none
    else failAtNext .expectedValue (b :: rest)

/-- Skips the name of a member with its colon. -/
def skipName : Reader Unit := fun bytes ↦
  match skipBlanks bytes with
  | [] => failAtNext .endInObject []
  | Ascii.quote :: rest => (skipText rest).andThen fun () rest ↦ readColon rest
  | rest => failAtNext .nameNotString rest

namespace Bracket

/-- The closing counterpart of a bracket. -/
def closing : Bracket → UInt8
  | sequence => Ascii.closeBracket
  | mapping => Ascii.closeBrace

/-- The complaint at the end of the document. -/
def endCause : Bracket → Cause
  | sequence => .endInArray
  | mapping => .endInObject

/-- The complaint where a comma or the closing bracket is missing. -/
def separatorCause : Bracket → Cause
  | sequence => .expectedCommaOrBracket
  | mapping => .expectedCommaOrBrace

/-- What precedes the value of a part: nothing in a sequence, its name in a mapping. -/
def skipPartName : Bracket → Reader Unit
  | sequence => fun rest ↦ .done () rest
  | mapping => skipName

end Bracket

/-- Skips the parts inside an open bracket, and then those of the brackets around it.  Every
round takes at least one byte, so that the bytes themselves bound the number of rounds. -/
def skipInside : (rounds : Bytes) → (first : Bool) → Bracket → List Bracket → Reader Unit
  | rounds, first, bracket, outer, bytes =>
    let part (rest : Bytes) : Outcome Unit :=
      match (bracket.skipPartName rest).andThen fun () ↦ skipStart with
      | .failed fault rest => .failed fault rest
      | .done opened rest =>
        match rounds with
        | [] => failHere bracket.endCause rest
        | _ :: rounds =>
          match opened with
          | none => skipInside rounds false bracket outer rest
          | some inner => skipInside rounds true inner (bracket :: outer) rest
    match skipBlanks bytes with
    | [] => failAtNext bracket.endCause []
    | b :: rest =>
      if b = bracket.closing then
        match outer with
        | [] => .done () rest
        | around :: outer =>
          match rounds with
          | [] => failHere bracket.endCause rest
          | _ :: rounds => skipInside rounds false around outer rest
      else if first then part (b :: rest)
      else if b = Ascii.comma then part rest
      else failAtNext bracket.separatorCause (b :: rest)

/-- Skips a value. -/
def skipValue : Reader Unit := fun bytes ↦
  (skipStart bytes).andThen fun opened rest ↦
    match opened with
    | none => .done () rest
    | some bracket => skipInside rest true bracket [] rest

end TenantView.Json
