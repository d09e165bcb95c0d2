import TenantView.Json.Skip

/-!
# Reading a value

A value is read with a bound on its nesting, because every level of nesting costs the reader
room.  The bound is the structure of the recursion: the parts of a value are read with one level
less.  A value read this way still has every member of its mappings, in order and with repeated
names; `readValue` keeps one member of each name.
-/

namespace TenantView.Json

/-- How deep a document may be nested. -/
def nestingLimit : Nat := 127

/-- One member of a mapping, behind the opening quote of its name. -/
def readMember (value : Reader Value) (members : List (String × Value)) :
    Reader (List (String × Value)) := fun bytes ↦
  (readText bytes).andThen fun name rest ↦
    (readColon rest).andThen fun () rest ↦
      (value rest).map fun v ↦ (name, v) :: members

/-- Reads a value whose parts are read by `inner`; without it the value may have no parts. -/
def readNode (inner : Option (Reader Value)) : Reader Value := fun bytes ↦
  match skipBlanks bytes with
  | [] => failAtNext .endInValue []
  | Ascii.lowerN :: rest => (readKeyword restOfNull rest).map fun () ↦ .null
  | Ascii.lowerT :: rest => (readKeyword restOfTrue rest).map fun () ↦ .boolean true
  | Ascii.lowerF :: rest => (readKeyword restOfFalse rest).map fun () ↦ .boolean false
  | Ascii.quote :: rest => (readText rest).map .string
  | Ascii.openBracket :: rest =>
    enclosed (inner.map fun item rest ↦ (readItems item rest true [] rest).map .array)
      closeSequence (Ascii.openBracket :: rest)
  | Ascii.openBrace :: rest =>
    enclosed
      (inner.map fun value rest ↦
        (readMembers (readMember value) rest true [] rest).map fun ms ↦ .object ms.reverse)
      closeMapping (Ascii.openBrace :: rest)
  | b :: rest =>
    if b = Ascii.minus ∨ Ascii.isDigit b then (readNumber (b :: rest)).map .number
    else failAtNext .expectedValue (b :: rest)

/-- Reads a value nested at most `levels` deep, with every member of its mappings. -/
def readTree : (levels : Nat) → Reader Value
  | 0 => readNode none
  | levels + 1 => readNode (some (readTree levels))

/-- Reads a value nested at most `levels` deep, with one member of each name. -/
def readValue (levels : Nat) : Reader Value := fun bytes ↦
  (readTree levels bytes).map Value.collapse

/-- The value that a document spells. -/
def parse (document : Bytes) : Except Refusal Value :=
  readDocument (readValue nestingLimit) document

end TenantView.Json
