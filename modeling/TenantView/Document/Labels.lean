import TenantView.Document.Codec
import TenantView.LabelSet

/-!
# Label sets in documents

A label set is spelled as a mapping from names to texts, or as null when it is empty.  A name
that occurs twice has its last value.  It is written as a mapping in increasing order of names.
-/

namespace TenantView.Document

open TenantView.Json

namespace Codec

/-- Reads one label, behind the opening quote of its name. -/
def readLabel (levels : Nat) (labels : LabelSet) : Reader LabelSet := fun bytes ↦
  (readText bytes).andThen fun name rest ↦
    (readColon rest).andThen fun () rest ↦
      (text.read levels rest).map fun value ↦ labels.insert name value

/-- Takes the labels of a mapping, one after the other. -/
def decodeLabels (source : Source) : List (String × Value) → LabelSet → Except Cause LabelSet
  | [], labels => .ok labels
  | (name, v) :: rest, labels => do
    let value ← text.decode source v
    decodeLabels source rest (labels.insert name value)

/-- A label set that is a mapping. -/
def labelMapping : Codec LabelSet where
  read levels := fun bytes ↦
    match skipBlanks bytes with
    | Ascii.openBrace :: rest =>
      enclosed
        (nested levels fun levels rest ↦
          readMembers (readLabel levels) rest true LabelSet.empty rest)
        closeMapping (Ascii.openBrace :: rest)
    | bytes => refuseNext .mapping bytes
  decode source
    | .object members => decodeLabels source members LabelSet.empty
    | v => refuse .mapping v
  encode labels := .object (labels.toList.map fun (name, value) ↦ (name, .string value))

/-- A label set, which may be null when it is empty. -/
def labels : Codec LabelSet where
  read levels := fun bytes ↦
    ((nullable labelMapping).read levels bytes).map (·.getD LabelSet.empty)
  decode source v := ((nullable labelMapping).decode source v).map (·.getD LabelSet.empty)
  encode := labelMapping.encode

end Codec

end TenantView.Document
