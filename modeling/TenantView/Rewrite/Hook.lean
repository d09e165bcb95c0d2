import TenantView.Rewrite.Body
import TenantView.Rewrite.Context
import TenantView.Rewrite.Encoding
import TenantView.Rewrite.Transform

/-!
# Hooks

A hook stands between the server and a tenant.  An answer that reports anything but success
passes through untouched.  Any other answer is gathered, taken apart, transformed and packed up
again, and its header fields are made to fit; if a stage of this fails, the answer is given up
and the tenant gets a failure that tells nothing of it.  If the call is aborted, nothing has become
of the answer at all.
-/

namespace TenantView.Rewrite

/-- What a hook knows of a request. -/
structure Request where
  uri : String
  context : Context

/-- An answer to a request. -/
structure Response where
  status : Nat
  version : String
  headers : Headers
  body : List Frame
deriving DecidableEq

/-- A hook for one endpoint of the server. -/
structure Hook where
  endpoint : String
  limit : Nat
  transform : Request → (values : List String) → Envelope → Except Error (Logged Json.Draft)

/-- What became of an answer. -/
inductive Outcome
  | passedThrough
  | rewritten
  | failed
deriving DecidableEq, Repr

/-- The word for an outcome. -/
def Outcome.name : Outcome → String
  | passedThrough => "passthrough"
  | rewritten => "rewritten"
  | failed => "failed"

/-- What a hook makes of an answer.  An aborted call has no outcome. -/
structure Reply where
  result : Except Stop Response
  outcome : Option Outcome
  events : List Event

/-- The status of an answer that is rewritten. -/
def okStatus : Nat := 200

/-- The names of the header fields that depend on the body. -/
def contentEncoding : String := "content-encoding"

/-- The name of the header field that holds the length of the body. -/
def contentLength : String := "content-length"

/-- The name of the header field that says how the body is transferred. -/
def transferEncoding : String := "transfer-encoding"

/-- Whether a byte of a header value is readable text. -/
def isReadable (b : UInt8) : Bool :=
  (0x20 ≤ b && b ≤ 0x7e) || b = Ascii.tab

/-- What the header fields say about the encoding of the body: the first field counts, and has to
be readable. -/
def encodingName (headers : Headers) : Except Error (Option String) :=
  match headers.first? contentEncoding with
  | none => .ok none
  | some value =>
    match Text.ofBytes? value with
    | some name =>
      if value.all isReadable then .ok (some name)
      else .error (.decompression "Content-Encoding header is not valid ASCII")
    | none => .error (.decompression "Content-Encoding header is not valid ASCII")

/-- The header fields of a rewritten answer. -/
def fitHeaders (headers : Headers) (wasPacked : Bool) (length : Nat) : Headers :=
  let headers := if wasPacked then headers.erase contentEncoding else headers
  (headers.erase transferEncoding).set contentLength (Decimal.bytes length)

/-- An answer that has been taken apart and transformed: the number of bytes of its body, what was
in them, and what takes the place of the data. -/
structure Prepared where
  received : Nat
  opened : Opened
  payload : Logged Json.Draft

namespace Hook

/-- Takes an answer apart and transforms its data. -/
def prepare (hook : Hook) (request : Request) (response : Response) : Except Stop Prepared := do
  let body ← (readBody hook.limit response.body).mapError .givenUp
  let encoding ← (encodingName response.headers).mapError .givenUp
  let opened ← openBody hook.limit encoding body
  let values ← request.context.values.mapError .givenUp
  let payload ← (hook.transform request values opened.envelope).mapError .givenUp
  return { received := body.length, opened, payload }

/-- Rewrites an answer.  What the transformation reports is reported even if the new data cannot be
packed up. -/
def rewrite (hook : Hook) (request : Request) (response : Response) :
    Logged (Except Stop Response) :=
  match hook.prepare request response with
  | .error stop => { value := .error stop, events := [] }
  | .ok { received, opened, payload } =>
    match packEnvelope opened.envelope payload.value with
    | .error error => { value := .error (.givenUp error), events := payload.events }
    | .ok packed =>
      { value := .ok { response with
          headers := fitHeaders response.headers opened.wasPacked packed.length
          body := [.data packed] }
        events := payload.events ++ [.rewritten received packed.length opened.wasPacked] }

/-- What the hook makes of an answer. -/
def reply (hook : Hook) (request : Request) (response : Response) : Reply :=
  if response.status ≠ okStatus then
    { result := .ok response, outcome := some .passedThrough, events := [.passedThrough] }
  else
    let { value := result, events } := hook.rewrite request response
    match result with
    | .ok _ => { result, outcome := some .rewritten, events }
    | .error (.givenUp error) =>
      { result, outcome := some .failed
        events := events ++ [.rewriteFailed error.stage error.message] }
    | .error .overflow => { result, outcome := none, events }

/-- The hook for the listings of one kind. -/
def ofListings (settings : Settings) (limit : Nat) (kind : ListingKind) : Hook where
  endpoint := kind.name
  limit
  transform _ values envelope := do
    let visible ← Rewrite.transform settings kind values envelope
    return { value := .ofValue visible.value, events := visible.events }

end Hook

/-- The wording of a failure for the log. -/
def failureMessage (error : Error) : String :=
  "failed to process the API response: " ++ error.message

/-- The answer that a tenant gets in place of one that has been given up. -/
def failureResponse : Response where
  status := 502
  version := "HTTP/1.1"
  headers := .ofList [("Content-Type", Text.toBytes "text/plain")]
  body :=
    [.data (Text.toBytes
      "502 Bad Gateway\n\nFailed to process the upstream API response.")]

end TenantView.Rewrite
