import TenantView.Json.Fault
import TenantView.Matcher

/-!
# Why an answer cannot be rewritten

A rewrite goes through stages, and each of them may fail: reading the body, undoing its
compression, taking the envelope apart, looking up the values of the tenant, decoding the data,
filtering it, and packing everything up again.  An answer that fails a stage is given up.  A
rewrite stops in another way if the arithmetic of the machine overflows: nobody then learns of an
error, since the call does not return.
-/

namespace TenantView

/-- The two kinds of listings that are filtered. -/
inductive ListingKind
  | rules
  | alerts
deriving DecidableEq, Repr

/-- The word for a kind of listing. -/
def ListingKind.name : ListingKind → String
  | rules => "rules"
  | alerts => "alerts"

namespace Rewrite

/-- Why a body cannot be read to its end. -/
inductive BodyError
  | tooLong (limit : Nat)
  | inflatesTooFar (limit : Nat)
  | broken (reason : String)
deriving DecidableEq, Repr

/-- The wording of the reason. -/
def BodyError.reason : BodyError → String
  | tooLong limit => s!"response body exceeds {limit} bytes"
  | inflatesTooFar limit => s!"decompressed response body exceeds {limit} bytes"
  | broken reason => reason

/-- Why a rewrite is given up. -/
inductive Error
  | body (cause : BodyError)
  | decompression (reason : String)
  | malformedEnvelope (refusal : Json.Refusal)
  | unexpectedStatus (status : String)
  | missingLabelValues
  | payloadDecode (kind : ListingKind) (refusal : Json.Refusal)
  | transform (cause : Matcher.Error)
  | payloadEncode (refusal : Json.Refusal)
  | envelopeEncode (refusal : Json.Refusal)
deriving DecidableEq, Repr

namespace Error

/-- The wording of an error. -/
def message : Error → String
  | body cause => "can't read the response body: " ++ cause.reason
  | decompression reason => "decompression error: " ++ reason
  | malformedEnvelope refusal => "JSON decoding error: " ++ refusal.message
  | unexpectedStatus status => "unexpected response status: " ++ Text.quoted status
  | missingLabelValues => "no allowed label values in the request context"
  | payloadDecode kind refusal =>
    s!"can't decode {kind.name} data: " ++ refusal.message
  | transform cause => "transform failed: " ++ cause.message
  | payloadEncode refusal => "can't encode the data: " ++ refusal.message
  | envelopeEncode refusal => "can't encode the response: " ++ refusal.message

/-- The short name of the stage that failed. -/
def stage : Error → String
  | body _ => "body"
  | decompression _ => "decompression"
  | malformedEnvelope _ => "malformed_envelope"
  | unexpectedStatus _ => "upstream_status"
  | missingLabelValues => "missing_label_values"
  | payloadDecode .. => "payload_decode"
  | transform _ => "transform"
  | payloadEncode _ => "payload_encode"
  | envelopeEncode _ => "envelope_encode"

/-- Whether the error goes back to another one. -/
def hasSource : Error → Bool
  | body _ => false
  | unexpectedStatus _ => false
  | missingLabelValues => false
  | _ => true

end Error

/-- How a rewrite stops: it is given up with an error, or an overflow aborts the whole call. -/
inductive Stop
  | givenUp (error : Error)
  | overflow
deriving DecidableEq, Repr

end Rewrite

end TenantView
