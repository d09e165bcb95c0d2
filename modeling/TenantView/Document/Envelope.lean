import TenantView.Document.Record

/-!
# The envelope of an answer

Every answer of the server is wrapped in the same envelope: a status, the data, and perhaps the
kind and text of an error, warnings and further notes.  The data stays an opaque value until a
listing is asked of it.
-/

namespace TenantView

/-- The envelope around an answer. -/
structure Envelope where
  status : String
  data : Json.Value
  errorType : String
  error : String
  warnings : List String
  infos : List String

namespace Envelope

/-- The status of an answer that holds what was asked for. -/
def successStatus : String := "success"

/-- The envelope of a plain success around some data. -/
def success (data : Json.Value) : Envelope where
  status := successStatus
  data
  errorType := ""
  error := ""
  warnings := []
  infos := []

end Envelope

namespace Document.Codec

/-- A text that counts as empty when it is missing, and is left out then. -/
def envelopeText (name : String) : Field String where
  name
  codec := text
  absent := some ""
  isLeftOut := String.isEmpty

/-- A list of texts that counts as empty when it is missing, and is left out then. -/
def envelopeNotes (name : String) : Field (List String) where
  name
  codec := list text
  absent := some []
  isLeftOut := List.isEmpty

/-- The data of an envelope, null when it is missing, and left out then. -/
def envelopeData : Field Json.Value where
  name := "data"
  codec := opaqueValue
  absent := some .null
  isLeftOut := Json.Value.isNull

/-- The fields of an envelope. -/
def envelopeFields :=
  Record.field { name := "status", codec := text } <|
  .field envelopeData <|
  .field (envelopeText "errorType") <|
  .field (envelopeText "error") <|
  .field (envelopeNotes "warnings") <|
  .field (envelopeNotes "infos") .done

/-- An envelope. -/
def envelope : Codec Envelope :=
  .record "ApiResponse" envelopeFields
    (fun (status, data, errorType, error, warnings, infos, ()) ↦
      { status, data, errorType, error, warnings, infos })
    (fun e ↦ (e.status, e.data, e.errorType, e.error, e.warnings, e.infos, ()))

end Document.Codec

end TenantView
