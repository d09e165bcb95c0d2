import Mathlib.Data.Nat.Find
import TenantView.Proofs.Rewrite.Reception

/-!
# What is asked of an answer

An answer that reports success has to meet six conditions to be rewritten, from the body that
arrives to the values that make a matcher.  `Attempt.Holds` says what each of them asks of the
answer, without going through the stages of a rewrite, and `Attempt.Reports` which error tells that
one does not hold.  If not all hold, one of them fails first, and it has an error to report
(`FailsFirst.exists_reports`).
-/

namespace TenantView.Rewrite

open Document (Codec)

/-! ## Conditions -/

/-- The envelope that a document spells, whatever it reports. -/
def spelledEnvelope (document : Bytes) : Except Json.Refusal Envelope :=
  Json.readDocument (Codec.envelope.read Json.nestingLimit) document

/-- Whether data spells a listing of a kind, and the cause why it does not. -/
def decoding (kind : ListingKind) (data : Json.Value) : Except Json.Cause Unit :=
  match kind with
  | .rules => (Codec.ruleListing.decode .parsed data).map fun _ ↦ ()
  | .alerts => (Codec.alertListing.decode .parsed data).map fun _ ↦ ()

/-- Undoing the encoding of a body yields a document of at most `limit` bytes. -/
def ContentEncoding.Undone (encoding : ContentEncoding) (limit : Nat) (body document : Bytes) :
    Prop :=
  match encoding with
  | .plain => document = body
  | .gzip => Gzip.unpack body = ⟨document, none⟩ ∧ document.length ≤ limit

/-- An answer that a hook for listings is given.  The limit is a number of a machine word. -/
structure Attempt where
  settings : Settings
  limit : Nat
  kind : ListingKind
  request : Request
  response : Response
  limit_lt : limit < UInt64.size

/-- What an answer has to meet to be rewritten. -/
inductive Condition
  /-- The body can be read to its end and is not too long. -/
  | arrives
  /-- The encoding that the head claims is known and can be undone within the limit. -/
  | unpacks
  /-- The document is an envelope that reports success. -/
  | succeeds
  /-- Values are stored with the request. -/
  | hasValues
  /-- The data of the envelope is a listing of the kind that is expected. -/
  | decodes
  /-- The values make a matcher. -/
  | hasMatcher
deriving DecidableEq

/-- The place of a condition in the order in which they count. -/
def Condition.rank : Condition → Nat
  | arrives => 0
  | unpacks => 1
  | succeeds => 2
  | hasValues => 3
  | decodes => 4
  | hasMatcher => 5

namespace Attempt

variable (a : Attempt)

/-- What the hook makes of the answer. -/
def reply : Reply :=
  (Hook.ofListings a.settings a.limit a.kind).reply a.request a.response

/-- The data of the body that arrives. -/
def body : Bytes :=
  arrived a.response.body

/-- The document below the encoding that the head claims. -/
def HasDocument (document : Bytes) : Prop :=
  ∃ encoding, Claims a.response.headers encoding ∧ encoding.Undone a.limit a.body document

/-- The envelope that the document spells, if it reports success. -/
def HasEnvelope (envelope : Envelope) : Prop :=
  ∃ document, a.HasDocument document ∧ spelledEnvelope document = .ok envelope ∧
    envelope.status = Envelope.successStatus

/-- What each condition asks of an answer. -/
def Holds : Condition → Prop
  | .arrives => a.body.length ≤ a.limit ∧ breakage? a.response.body = none
  | .unpacks => ∃ document, a.HasDocument document
  | .succeeds => ∃ envelope, a.HasEnvelope envelope
  | .hasValues => ∃ values, a.request.context.values? = some values
  | .decodes => ∃ envelope, a.HasEnvelope envelope ∧ decoding a.kind envelope.data = .ok ()
  | .hasMatcher => ∃ values matcher, a.request.context.values? = some values ∧
      Matcher.ofValues a.settings.mode values = .ok matcher

/-- The error that tells why a condition does not hold. -/
inductive Reports : Condition → Error → Prop
  | tooLong (long : a.limit < a.body.length) : Reports .arrives (.body (.tooLong a.limit))
  | broken {breakage : Breakage} (fits : a.body.length ≤ a.limit)
      (breaks : breakage? a.response.body = some breakage) :
      Reports .arrives (.body (breakage.report a.limit))
  | misclaimed {reason : String} (misclaims : Misclaims a.response.headers reason) :
      Reports .unpacks (.decompression reason)
  | inflatesTooFar (claims : Claims a.response.headers .gzip)
      (long : a.limit < (Gzip.unpack a.body).data.length) :
      Reports .unpacks (.body (.inflatesTooFar a.limit))
  | corrupt {fault : Gzip.Fault} (claims : Claims a.response.headers .gzip)
      (fits : (Gzip.unpack a.body).data.length ≤ a.limit)
      (ends : (Gzip.unpack a.body).fault = some fault) :
      Reports .unpacks (.decompression fault.message)
  | malformed {document : Bytes} {refusal : Json.Refusal} (unpacks : a.HasDocument document)
      (refused : spelledEnvelope document = .error refusal) :
      Reports .succeeds (.malformedEnvelope refusal)
  | unexpected {document : Bytes} {envelope : Envelope} (unpacks : a.HasDocument document)
      (spells : spelledEnvelope document = .ok envelope)
      (status : envelope.status ≠ Envelope.successStatus) :
      Reports .succeeds (.unexpectedStatus envelope.status)
  | missing (none : a.request.context.values? = none) : Reports .hasValues .missingLabelValues
  | undecodable {envelope : Envelope} {cause : Json.Cause} (opens : a.HasEnvelope envelope)
      (refused : decoding a.kind envelope.data = .error cause) :
      Reports .decodes (.payloadDecode a.kind (.ofCause cause))
  | noMatcher {values : List String} {cause : Matcher.Error}
      (stored : a.request.context.values? = some values)
      (refused : Matcher.ofValues a.settings.mode values = .error cause) :
      Reports .hasMatcher (.transform cause)

/-- The condition does not hold, and all before it do. -/
structure FailsFirst (c : Condition) : Prop where
  before : ∀ other, other.rank < c.rank → a.Holds other
  fails : ¬ a.Holds c

/-- The number behind the limit is one of a machine word, or is not needed because nothing is to be
unpacked.  It is needed as soon as the body has arrived and a packed form is claimed for it. -/
def Fits : Prop :=
  a.limit + 1 < UInt64.size ∨ ¬ Claims a.response.headers .gzip

variable {a}

/-! ## Some condition fails first -/

/-- If not all conditions hold, one of them fails first. -/
theorem exists_failsFirst (h : ¬ ∀ c, a.Holds c) : ∃ c, a.FailsFirst c := by
  obtain ⟨c, hc⟩ := not_forall.mp h
  have hranks : ∃ n, ∃ c : Condition, c.rank = n ∧ ¬ a.Holds c := ⟨c.rank, c, rfl, hc⟩
  classical
  -- The least rank of a condition that does not hold: all conditions below it hold.
  obtain ⟨first, hrank, hfails⟩ := Nat.find_spec hranks
  refine ⟨first, fun other hlt ↦ by_contra fun hother ↦ ?_, hfails⟩
  exact Nat.find_min hranks (hrank ▸ hlt) ⟨other, rfl, hother⟩

/-- A claimed encoding that cannot be undone is a packed one, and there is a reason. -/
theorem reports_of_claims {encoding : ContentEncoding}
    (hclaims : Claims a.response.headers encoding) (hfails : ¬ a.Holds .unpacks) :
    ∃ error, a.Reports .unpacks error := by
  cases encoding with
  | plain => exact absurd ⟨a.body, .plain, hclaims, rfl⟩ hfails
  | gzip =>
    by_cases hlong : a.limit < (Gzip.unpack a.body).data.length
    · exact ⟨_, .inflatesTooFar hclaims hlong⟩
    · cases hfault : (Gzip.unpack a.body).fault with
      | some fault => exact ⟨_, .corrupt hclaims (Nat.not_lt.mp hlong) hfault⟩
      | none =>
        refine absurd ⟨(Gzip.unpack a.body).data, .gzip, hclaims, ?_, Nat.not_lt.mp hlong⟩ hfails
        rw [← hfault]

/-- The condition that fails first has an error to report. -/
theorem FailsFirst.exists_reports {c : Condition} (h : a.FailsFirst c) :
    ∃ error, a.Reports c error := by
  cases c with
  | arrives =>
    by_cases hlong : a.limit < a.body.length
    · exact ⟨_, .tooLong hlong⟩
    · cases hbreaks : breakage? a.response.body with
      | some breakage => exact ⟨_, .broken (Nat.not_lt.mp hlong) hbreaks⟩
      | none => exact absurd ⟨Nat.not_lt.mp hlong, hbreaks⟩ h.fails
  | unpacks =>
    rcases claims_or_misclaims a.response.headers with ⟨encoding, hclaims⟩ | ⟨reason, hmisclaims⟩
    · exact reports_of_claims hclaims h.fails
    · exact ⟨_, .misclaimed hmisclaims⟩
  | succeeds =>
    obtain ⟨document, hdocument⟩ := h.before .unpacks (by decide)
    cases hspelled : spelledEnvelope document with
    | error refusal => exact ⟨_, .malformed hdocument hspelled⟩
    | ok envelope =>
      by_cases hstatus : envelope.status = Envelope.successStatus
      · exact absurd ⟨envelope, document, hdocument, hspelled, hstatus⟩ h.fails
      · exact ⟨_, .unexpected hdocument hspelled hstatus⟩
  | hasValues =>
    cases hvalues : a.request.context.values? with
    | none => exact ⟨_, .missing hvalues⟩
    | some values => exact absurd ⟨values, hvalues⟩ h.fails
  | decodes =>
    obtain ⟨envelope, henvelope⟩ := h.before .succeeds (by decide)
    cases hdecodes : decoding a.kind envelope.data with
    | error cause => exact ⟨_, .undecodable henvelope hdecodes⟩
    | ok => exact absurd ⟨envelope, henvelope, hdecodes⟩ h.fails
  | hasMatcher =>
    obtain ⟨values, hvalues⟩ := h.before .hasValues (by decide)
    cases hmatcher : Matcher.ofValues a.settings.mode values with
    | error cause => exact ⟨_, .noMatcher hvalues hmatcher⟩
    | ok matcher => exact absurd ⟨values, matcher, hvalues, hmatcher⟩ h.fails

end Attempt

end TenantView.Rewrite
