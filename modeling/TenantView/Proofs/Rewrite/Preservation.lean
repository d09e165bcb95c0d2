import TenantView.Proofs.Json.OneLine
import TenantView.Proofs.Rewrite.ContentEncoding

/-!
# What a hook leaves alone

An answer that passes through is the answer of the server, frame by frame.  A rewritten answer keeps
its status, its version and every field of its head that does not depend on the body.  The body is
one line in one block.  Of the fields that depend on it, the one for its length is set, whatever was
there before, the ones for the transfer go, and the ones for the encoding go with a packed body and
stay with a plain one (`reply_preserves`).
-/

namespace TenantView.Rewrite

open Document (Codec)

/-! ## The head -/

section Head

variable (headers : Headers) (wasPacked : Bool) (length : Nat)

theorem values_fitHeaders_contentLength :
    (fitHeaders headers wasPacked length).values contentLength =
      [Text.toBytes (toString length)] := by
  rw [fitHeaders, Headers.values_set_self, Decimal.bytes_eq_toBytes]

theorem values_fitHeaders_transferEncoding :
    (fitHeaders headers wasPacked length).values transferEncoding = [] := by
  have hlength : transferEncoding ≠ contentLength := by decide
  rw [fitHeaders, Headers.values_set_of_ne _ _ hlength, Headers.values_erase_self]

/-- A field that does not depend on the body stays. -/
theorem values_fitHeaders_of_notMem {name : String}
    (h : name ∉ [contentLength, transferEncoding, contentEncoding]) :
    (fitHeaders headers wasPacked length).values name = headers.values name := by
  simp only [List.mem_cons, List.not_mem_nil, or_false, not_or] at h
  obtain ⟨hlength, htransfer, hencoding⟩ := h
  rw [fitHeaders, Headers.values_set_of_ne _ _ hlength, Headers.values_erase_of_ne _ htransfer]
  cases wasPacked with
  | true => exact headers.values_erase_of_ne hencoding
  | false => rfl

end Head

/-- The head has been made to fit a body of the given length, and nothing else of it has changed:
every name has the values that it had before, in their order, but for the names that depend on the
body. -/
structure Refits (before after : Headers) (wasPacked : Bool) (length : Nat) : Prop where
  contentLength : after.values contentLength = [Text.toBytes (toString length)]
  transferEncoding : after.values transferEncoding = []
  contentEncoding :
    after.values contentEncoding = if wasPacked then [] else before.values contentEncoding
  others : ∀ name ∉ [Rewrite.contentLength, Rewrite.transferEncoding, Rewrite.contentEncoding],
    after.values name = before.values name

theorem refits_fitHeaders (headers : Headers) (wasPacked : Bool) (length : Nat) :
    Refits headers (fitHeaders headers wasPacked length) wasPacked length where
  contentLength := values_fitHeaders_contentLength headers wasPacked length
  transferEncoding := values_fitHeaders_transferEncoding headers wasPacked length
  contentEncoding := values_fitHeaders_contentEncoding headers wasPacked length
  others _ h := values_fitHeaders_of_notMem headers wasPacked length h

/-! ## The body -/

/-- The bytes are one line, with the newline that ends it. -/
def IsLine (bytes : Bytes) : Prop :=
  ∃ text, bytes = text ++ [Ascii.newline] ∧ Ascii.newline ∉ text

theorem isLine_packedEnvelope (envelope : Envelope) (data : Json.Value) :
    IsLine (packedEnvelope envelope data) :=
  ⟨_, rfl, (Json.Value.isPrintable_bytes _).newline_notMem⟩

/-! ## Answers -/

/-- **Nothing of an answer changes that does not have to.**  An answer that passes through is the
answer of the server.  A rewritten one holds the data that the hook makes of the old data, packed up
as one line in one block, under the head of the answer, made to fit. -/
theorem reply_preserves (hook : Hook) (request : Request) (response : Response) :
    ((hook.reply request response).outcome = some .passedThrough →
      (hook.reply request response).result = .ok response) ∧
    ((hook.reply request response).outcome = some .rewritten →
      ∃ out opened values payload sent,
        (hook.reply request response).result = .ok out ∧
        Opens hook.limit response opened ∧
        request.context.values? = some values ∧
        hook.transform request values opened.envelope = .ok payload ∧
        packEnvelope opened.envelope payload.value = .ok sent ∧
        out.status = response.status ∧
        out.version = response.version ∧
        out.body = [.data sent] ∧
        IsLine sent ∧
        Refits response.headers out.headers opened.wasPacked sent.length) := by
  constructor
  · intro hpassed
    exact result_of_status_ne (outcome_eq_passedThrough_iff.mp hpassed)
  · intro hrewritten
    obtain ⟨hok, out, hout⟩ := outcome_eq_rewritten_iff.mp hrewritten
    obtain ⟨opened, values, payload, data, hopens, hvalues, htransform, hdata, rfl⟩ :=
      reply_eq_ok hok hout
    have hpacked : packEnvelope opened.envelope payload.value =
        .ok (packedEnvelope opened.envelope data) := by
      rw [packEnvelope_eq, hdata]
      rfl
    exact ⟨_, opened, values, payload, _, hout, hopens, hvalues, htransform, hpacked, rfl, rfl, rfl,
      isLine_packedEnvelope _ _, refits_fitHeaders _ _ _⟩

/-- A head in which names are repeated, those that depend on the body among them. -/
def crowdedHead : Headers :=
  .ofList
    [("Via", Text.toBytes "inner"), ("Content-Length", Text.toBytes "7"),
      ("Transfer-Encoding", Text.toBytes "chunked"), ("content-length", Text.toBytes "8"),
      ("Via", Text.toBytes "outer")]

/-- An answer that says that nothing was found, with trailing fields and a failure behind them. -/
def notFound : Response where
  status := 404
  version := "HTTP/1.0"
  headers := crowdedHead
  body := [.data (Text.toBytes "gone"), .trailers crowdedHead, .failure (.other "reset")]

/-- An answer with a rule of two tenants under a crowded head. -/
def crowdedAnswer : Response :=
  { listingAnswer sharedByBoth with headers := crowdedHead }

theorem reply_crowdedAnswer :
    ∃ out, ((Hook.ofListings partialSettings (lengthOf sharedByBoth) .rules).reply requestOfA
      crowdedAnswer).result = .ok out := by
  have hwritten := Codec.ruleListing_writesBack sharedByBoth
  have hname : encodingName crowdedAnswer.headers = .ok none := by decide +kernel
  have hopens : Opens (lengthOf sharedByBoth) crowdedAnswer
      ⟨.success (Codec.ruleListing.encode sharedByBoth), false⟩ :=
    opens_packed (.success _) rfl le_rfl hname rfl rfl hwritten.distinct
      (hwritten.depth_le.trans (by decide))
  have hmatcher : Matcher.ofValues partialSettings.mode ["a"] = .ok (.exact ["a"]) := rfl
  obtain ⟨events, htransform⟩ :=
    transform_rules (.success (Codec.ruleListing.encode sharedByBoth))
      (payload_encode hwritten .rules) hmatcher
  exact ⟨_, reply_of_transform rfl hopens rfl htransform⟩

/-- What was not found passes through with its failure; a listing under a crowded head keeps both
values of a name that does not depend on the body, and has one length. -/
theorem reply_preserves_crowdedHead :
    ((Hook.ofListings partialSettings (lengthOf sharedByBoth) .rules).reply requestOfA
      notFound).result = .ok notFound ∧
    ∃ out sent,
      ((Hook.ofListings partialSettings (lengthOf sharedByBoth) .rules).reply requestOfA
        crowdedAnswer).result = .ok out ∧
      out.body = [.data sent] ∧ IsLine sent ∧
      out.headers.values contentLength = [Text.toBytes (toString sent.length)] ∧
      out.headers.values transferEncoding = [] ∧
      out.headers.values "via" = [Text.toBytes "inner", Text.toBytes "outer"] := by
  let hook := Hook.ofListings partialSettings (lengthOf sharedByBoth) .rules
  have hpassed := (reply_preserves hook requestOfA notFound).1
    (outcome_eq_passedThrough_iff.mpr (by decide))
  obtain ⟨out, hout⟩ := reply_crowdedAnswer
  obtain ⟨out', opened, values, payload, sent, hout', -, -, -, -, -, -, hbody, hline, hfits⟩ :=
    (reply_preserves hook requestOfA crowdedAnswer).2
      (outcome_eq_rewritten_iff.mpr ⟨rfl, out, hout⟩)
  refine ⟨hpassed, out', _, hout', hbody, hline, hfits.contentLength, hfits.transferEncoding, ?_⟩
  rw [hfits.others "via" (by decide)]
  decide +kernel

end TenantView.Rewrite
