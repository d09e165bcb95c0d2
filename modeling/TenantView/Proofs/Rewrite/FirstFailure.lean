import TenantView.Proofs.Rewrite.Conditions

/-!
# One outcome, and the first condition that fails

An answer that reports anything but success passes through.  Any other answer is rewritten if it
meets all conditions, and otherwise given up with the error of the first that it does not meet
(`Attempt.reply_exact`).  The one exception is a packed body under the greatest limit of all: the
call is aborted as soon as it has arrived.
-/

namespace TenantView.Rewrite

open Document (Codec)

namespace Attempt

variable {a : Attempt}

/-! ## The stages meet the conditions -/

theorem readBody_of_arrives (h : a.Holds .arrives) :
    readBody a.limit a.response.body = .ok a.body := by
  refine (readBody_eq _ _).trans ((if_neg (Nat.not_lt.mpr h.1)).trans ?_)
  rw [h.2]
  rfl

/-- A document that is there is found. -/
theorem undo_of_undone (hfits : a.Fits) {encoding : ContentEncoding} {document : Bytes}
    (hclaims : Claims a.response.headers encoding)
    (h : encoding.Undone a.limit a.body document) :
    encoding.undo a.limit a.body = .ok document := by
  cases encoding with
  | plain => exact congrArg Except.ok h.symm
  | gzip =>
    have hlimit := hfits.resolve_right (not_not.mpr hclaims)
    obtain ⟨hunpack, hlength⟩ := h
    rw [ContentEncoding.undo, unpackWithin_eq hlimit, hunpack, if_neg (Nat.not_lt.mpr hlength)]

/-- What becomes of an answer with a document is up to the envelope that the document spells. -/
theorem openBody_of_hasDocument (hfits : a.Fits) {document : Bytes}
    (h : a.HasDocument document) :
    ∃ (name : Option String) (encoding : ContentEncoding),
      encodingName a.response.headers = .ok name ∧
      openBody a.limit name a.body =
        ((readEnvelope document).map fun envelope ↦
          ⟨envelope, decide (encoding = .gzip)⟩).mapError .givenUp := by
  obtain ⟨encoding, hclaims, hundone⟩ := h
  obtain ⟨name, hname, hencoding⟩ := encoding_of_claims hclaims
  refine ⟨name, encoding, hname, ?_⟩
  rw [openBody, hencoding]
  change (encoding.undo a.limit a.body >>= _) = _
  rw [undo_of_undone hfits hclaims hundone, ok_bind]
  cases readEnvelope document <;> rfl

theorem readEnvelope_of_malformed {document : Bytes} {refusal : Json.Refusal}
    (h : spelledEnvelope document = .error refusal) :
    readEnvelope document = .error (.malformedEnvelope refusal) := by
  rw [spelledEnvelope] at h
  rw [readEnvelope, h]
  rfl

theorem readEnvelope_of_spelled {document : Bytes} {envelope : Envelope}
    (h : spelledEnvelope document = .ok envelope) :
    readEnvelope document =
      if envelope.status = Envelope.successStatus then .ok envelope
      else .error (.unexpectedStatus envelope.status) := by
  rw [spelledEnvelope] at h
  rw [readEnvelope, h]
  rfl

/-- An answer with an envelope that reports success is taken apart to it. -/
theorem opens_of_hasEnvelope (hfits : a.Fits) (harrives : a.Holds .arrives) {envelope : Envelope}
    (h : a.HasEnvelope envelope) :
    ∃ opened, Opens a.limit a.response opened ∧ opened.envelope = envelope := by
  obtain ⟨document, hdocument, hspelled, hstatus⟩ := h
  obtain ⟨name, encoding, hname, hopen⟩ := openBody_of_hasDocument hfits hdocument
  rw [readEnvelope_of_spelled hspelled, if_pos hstatus] at hopen
  exact ⟨_, ⟨a.body, name, readBody_of_arrives harrives, hname, hopen⟩, rfl⟩

end Attempt

/-- Data that is no listing of the kind is refused, whatever the values are. -/
theorem transform_of_undecodable {settings : Settings} {kind : ListingKind} {values : List String}
    {envelope : Envelope} {cause : Json.Cause} (h : decoding kind envelope.data = .error cause) :
    transform settings kind values envelope = .error (.payloadDecode kind (.ofCause cause)) := by
  cases kind with
  | rules =>
    have hdecode : Codec.ruleListing.decode .parsed envelope.data = .error cause := map_eq_error h
    rw [transform, payload, hdecode]
    rfl
  | alerts =>
    have hdecode : Codec.alertListing.decode .parsed envelope.data = .error cause := map_eq_error h
    rw [transform, payload, hdecode]
    rfl

/-- Values that make no matcher are reported for every listing of the kind. -/
theorem transform_of_noMatcher {settings : Settings} {kind : ListingKind} {values : List String}
    {envelope : Envelope} {cause : Matcher.Error} (h : decoding kind envelope.data = .ok ())
    (hmatcher : Matcher.ofValues settings.mode values = .error cause) :
    transform settings kind values envelope = .error (.transform cause) := by
  have henforce : enforcement settings values = .error (.transform cause) := by
    rw [enforcement, Settings.enforcement, hmatcher]
    rfl
  cases kind with
  | rules =>
    obtain ⟨listing, hdecode, -⟩ := map_eq_ok h
    rw [transform, payload, hdecode, henforce]
    rfl
  | alerts =>
    obtain ⟨listing, hdecode, -⟩ := map_eq_ok h
    rw [transform, payload, hdecode, henforce]
    rfl

/-- A listing of the kind is transformed if the values make a matcher. -/
theorem transform_of_matcher {settings : Settings} {kind : ListingKind} {values : List String}
    {envelope : Envelope} {matcher : Matcher} (h : decoding kind envelope.data = .ok ())
    (hmatcher : Matcher.ofValues settings.mode values = .ok matcher) :
    ∃ data, transform settings kind values envelope = .ok data := by
  cases kind with
  | rules =>
    obtain ⟨listing, hdecode, -⟩ := map_eq_ok h
    obtain ⟨events, htransform⟩ := transform_rules envelope
      (by rw [payload, hdecode]; rfl) hmatcher
    exact ⟨_, htransform⟩
  | alerts =>
    obtain ⟨listing, hdecode, -⟩ := map_eq_ok h
    obtain ⟨events, htransform⟩ := transform_alerts envelope
      (by rw [payload, hdecode]; rfl) hmatcher
    exact ⟨_, htransform⟩

namespace Attempt

variable {a : Attempt}

/-- A packed body that cannot be unpacked is where the rewrite stops. -/
theorem prepare_of_packed (harrives : a.Holds .arrives) (hclaims : Claims a.response.headers .gzip)
    {stop : Stop} (h : unpackWithin a.limit a.body = .error stop) :
    (Hook.ofListings a.settings a.limit a.kind).prepare a.request a.response = .error stop := by
  obtain ⟨name, hname, hencoding⟩ := encoding_of_claims hclaims
  refine prepare_of_unopened (readBody_of_arrives harrives) hname ?_
  rw [openBody, hencoding]
  change (unpackWithin a.limit a.body >>= _) = _
  rw [h]
  rfl

/-- The error of the condition that fails first is the one that is reported. -/
theorem result_of_reports {c : Condition} (hfits : c ≠ .arrives → a.Fits)
    (hok : a.response.status = okStatus) {error : Error} (hfirst : a.FailsFirst c)
    (h : a.Reports c error) : a.reply.result = .error (.givenUp error) := by
  refine reply_of_stopped hok ?_
  cases h with
  | tooLong hlong => exact prepare_of_unread ((readBody_eq _ _).trans (if_pos hlong))
  | broken hshort hbreaks =>
    refine prepare_of_unread ((readBody_eq _ _).trans ((if_neg (Nat.not_lt.mpr hshort)).trans ?_))
    rw [hbreaks]
    rfl
  | misclaimed hmisclaims =>
    have hbody := readBody_of_arrives (hfirst.before .arrives (by decide))
    rcases refused_of_misclaims hmisclaims with hname | ⟨name, hname, hencoding⟩
    · exact prepare_of_unnamed hbody hname
    · refine prepare_of_unopened hbody hname ?_
      rw [openBody, hencoding]
      rfl
  | inflatesTooFar hclaims hlong =>
    have hlimit := (hfits (by decide)).resolve_right (not_not.mpr hclaims)
    refine prepare_of_packed (hfirst.before .arrives (by decide)) hclaims ?_
    rw [unpackWithin_eq hlimit, if_pos hlong]
  | corrupt hclaims hshort hends =>
    have hlimit := (hfits (by decide)).resolve_right (not_not.mpr hclaims)
    refine prepare_of_packed (hfirst.before .arrives (by decide)) hclaims ?_
    rw [unpackWithin_eq hlimit, if_neg (Nat.not_lt.mpr hshort), hends]
  | malformed hdocument hrefused =>
    have hbody := readBody_of_arrives (hfirst.before .arrives (by decide))
    obtain ⟨name, encoding, hname, hopen⟩ := openBody_of_hasDocument (hfits (by decide)) hdocument
    refine prepare_of_unopened hbody hname (hopen.trans ?_)
    rw [readEnvelope_of_malformed hrefused]
    rfl
  | unexpected hdocument hspelled hstatus =>
    have hbody := readBody_of_arrives (hfirst.before .arrives (by decide))
    obtain ⟨name, encoding, hname, hopen⟩ := openBody_of_hasDocument (hfits (by decide)) hdocument
    refine prepare_of_unopened hbody hname (hopen.trans ?_)
    rw [readEnvelope_of_spelled hspelled, if_neg hstatus]
    rfl
  | missing hnone =>
    obtain ⟨envelope, henvelope⟩ := hfirst.before .succeeds (by decide)
    obtain ⟨opened, hopens, -⟩ :=
      opens_of_hasEnvelope (hfits (by decide)) (hfirst.before .arrives (by decide)) henvelope
    exact prepare_of_noValues hopens hnone
  | undecodable henvelope hrefused =>
    obtain ⟨values, hvalues⟩ := hfirst.before .hasValues (by decide)
    obtain ⟨opened, hopens, rfl⟩ :=
      opens_of_hasEnvelope (hfits (by decide)) (hfirst.before .arrives (by decide)) henvelope
    exact prepare_of_untransformed hopens hvalues
      (ofListings_transform_error (transform_of_undecodable hrefused))
  | noMatcher hvalues hrefused =>
    obtain ⟨envelope, henvelope, hdecodes⟩ := hfirst.before .decodes (by decide)
    obtain ⟨opened, hopens, rfl⟩ :=
      opens_of_hasEnvelope (hfits (by decide)) (hfirst.before .arrives (by decide)) henvelope
    exact prepare_of_untransformed hopens hvalues
      (ofListings_transform_error (transform_of_noMatcher hdecodes hrefused))

/-- An answer that meets all conditions is rewritten. -/
theorem result_of_holds (hfits : a.Fits) (hok : a.response.status = okStatus)
    (h : ∀ c, a.Holds c) : ∃ out, a.reply.result = .ok out := by
  obtain ⟨envelope, henvelope, hdecodes⟩ := h .decodes
  obtain ⟨values, matcher, hvalues, hmatcher⟩ := h .hasMatcher
  obtain ⟨opened, hopens, rfl⟩ := opens_of_hasEnvelope hfits (h .arrives) henvelope
  obtain ⟨data, hdata⟩ := transform_of_matcher hdecodes hmatcher
  exact ⟨_, reply_of_transform hok hopens hvalues hdata⟩

/-! ## Outcomes -/

/-- An answer is rewritten exactly if it meets all conditions. -/
theorem rewritten_iff (hfits : a.Fits) :
    a.reply.outcome = some .rewritten ↔ a.response.status = okStatus ∧ ∀ c, a.Holds c := by
  refine outcome_eq_rewritten_iff.trans (and_congr_right fun hok ↦ ⟨?_, result_of_holds hfits hok⟩)
  rintro ⟨out, hout⟩
  by_contra hnot
  obtain ⟨c, hfirst⟩ := exists_failsFirst hnot
  obtain ⟨error, hreports⟩ := hfirst.exists_reports
  have herror := result_of_reports (fun _ ↦ hfits) hok hfirst hreports
  rw [reply, hout] at herror
  cases herror

/-- An answer that stops a rewrite has reported success. -/
theorem status_of_error {stop : Stop} (h : a.reply.result = .error stop) :
    a.response.status = okStatus := by
  by_contra hstatus
  rw [reply, result_of_status_ne hstatus] at h
  cases h

/-- The error is exactly that of the condition that fails first. -/
theorem result_eq_error_iff (hfits : a.Fits) (error : Error) :
    a.reply.result = .error (.givenUp error) ↔
      a.response.status = okStatus ∧ ∃ c, a.FailsFirst c ∧ a.Reports c error := by
  constructor
  · intro herror
    have hok := status_of_error herror
    have hnot : ¬ ∀ c, a.Holds c := by
      intro hall
      obtain ⟨out, hout⟩ := result_of_holds hfits hok hall
      rw [hout] at herror
      cases herror
    obtain ⟨c, hfirst⟩ := exists_failsFirst hnot
    obtain ⟨error', hreports⟩ := hfirst.exists_reports
    have herror' := result_of_reports (fun _ ↦ hfits) hok hfirst hreports
    rw [herror] at herror'
    cases herror'
    exact ⟨hok, c, hfirst, hreports⟩
  · rintro ⟨hok, c, hfirst, hreports⟩
    exact result_of_reports (fun _ ↦ hfits) hok hfirst hreports

/-- A packed body under the greatest limit aborts the call. -/
theorem result_of_not_fits (hfits : ¬ a.Fits) (hok : a.response.status = okStatus)
    (harrives : a.Holds .arrives) : a.reply.result = .error .overflow := by
  obtain ⟨hlimit, hclaims⟩ := not_or.mp hfits
  have hgreatest : a.limit + 1 = UInt64.size := by
    have := a.limit_lt
    omega
  exact reply_of_stopped hok
    (prepare_of_packed harrives (not_not.mp hclaims) (unpackWithin_greatest hgreatest a.body))

/-- A body that does not arrive is reported under every limit. -/
theorem result_of_reports_arrives (hok : a.response.status = okStatus) {error : Error}
    (h : a.Reports .arrives error) : a.reply.result = .error (.givenUp error) := by
  refine result_of_reports (absurd rfl) hok ⟨fun other hlt ↦ absurd hlt (Nat.not_lt_zero _), ?_⟩ h
  rintro ⟨hshort, hholds⟩
  cases h with
  | tooLong hlong => exact Nat.not_lt.mpr hshort hlong
  | broken _ hbreaks =>
    rw [hholds] at hbreaks
    cases hbreaks

/-- What does not arrive has an error to report. -/
theorem exists_reports_arrives (h : ¬ a.Holds .arrives) : ∃ error, a.Reports .arrives error :=
  FailsFirst.exists_reports ⟨fun _ hlt ↦ absurd hlt (Nat.not_lt_zero _), h⟩

/-- If the limit does not fit, an error is exactly one about a body that does not arrive. -/
theorem result_eq_error_iff_of_not_fits (hfits : ¬ a.Fits) (hok : a.response.status = okStatus)
    (error : Error) : a.reply.result = .error (.givenUp error) ↔ a.Reports .arrives error := by
  refine ⟨fun herror ↦ ?_, result_of_reports_arrives hok⟩
  by_cases harrives : a.Holds .arrives
  · cases herror.symm.trans (result_of_not_fits hfits hok harrives)
  · obtain ⟨error', hreports⟩ := exists_reports_arrives harrives
    cases herror.symm.trans (result_of_reports_arrives hok hreports)
    exact hreports

/-- A call is aborted exactly for a packed body that arrives under the greatest limit. -/
theorem result_eq_overflow_iff :
    a.reply.result = .error .overflow ↔
      a.response.status = okStatus ∧ ¬ a.Fits ∧ a.Holds .arrives := by
  refine ⟨fun habort ↦ ?_, fun ⟨hok, hfits, harrives⟩ ↦ result_of_not_fits hfits hok harrives⟩
  have hok := status_of_error habort
  have hnot : ∀ error, ¬ a.reply.result = .error (.givenUp error) := by
    intro error herror
    cases habort.symm.trans herror
  refine ⟨hok, fun hfits ↦ ?_, by_contra fun harrives ↦ ?_⟩
  · by_cases hall : ∀ c, a.Holds c
    · obtain ⟨out, hout⟩ := result_of_holds hfits hok hall
      cases habort.symm.trans hout
    · obtain ⟨c, hfirst⟩ := exists_failsFirst hall
      obtain ⟨error, hreports⟩ := hfirst.exists_reports
      exact hnot error (result_of_reports (fun _ ↦ hfits) hok hfirst hreports)
  · obtain ⟨error, hreports⟩ := exists_reports_arrives harrives
    exact hnot error (result_of_reports_arrives hok hreports)

/-- No condition reports that something could not be packed up again. -/
theorem Reports.ne_encode {c : Condition} {error : Error} (h : a.Reports c error)
    (refusal : Json.Refusal) :
    error ≠ .payloadEncode refusal ∧ error ≠ .envelopeEncode refusal := by
  cases h with
  | @broken breakage _ _ => cases breakage <;> exact ⟨nofun, nofun⟩
  | _ => exact ⟨nofun, nofun⟩

/-- Packing the answer up again never fails. -/
theorem result_ne_encode (refusal : Json.Refusal) :
    a.reply.result ≠ .error (.givenUp (.payloadEncode refusal)) ∧
      a.reply.result ≠ .error (.givenUp (.envelopeEncode refusal)) := by
  suffices h : ∀ error, a.reply.result = .error (.givenUp error) →
      error ≠ .payloadEncode refusal ∧ error ≠ .envelopeEncode refusal from
    ⟨fun hresult ↦ (h _ hresult).1 rfl, fun hresult ↦ (h _ hresult).2 rfl⟩
  intro error hresult
  by_cases hfits : a.Fits
  · obtain ⟨-, c, -, hreports⟩ := (result_eq_error_iff hfits error).mp hresult
    exact hreports.ne_encode refusal
  · exact ((result_eq_error_iff_of_not_fits hfits (status_of_error hresult) error).mp
      hresult).ne_encode refusal

/-- The values of a request whose answer is rewritten make a matcher. -/
theorem hasMatcher_of_rewritten (h : a.reply.outcome = some .rewritten) :
    a.Holds .hasMatcher := by
  obtain ⟨settings, limit, kind, request, response, hlimit⟩ := a
  obtain ⟨hok, out, hout⟩ := outcome_eq_rewritten_iff.mp h
  obtain ⟨opened, values, data, -, hvalues, htransform, -⟩ := listing_reply_eq_ok hok hout
  cases kind with
  | rules =>
    obtain ⟨-, matcher, -, hmatcher, -⟩ := transform_rules_eq_ok htransform
    exact ⟨values, matcher, hvalues, hmatcher⟩
  | alerts =>
    obtain ⟨-, matcher, -, hmatcher, -⟩ := transform_alerts_eq_ok htransform
    exact ⟨values, matcher, hvalues, hmatcher⟩

/-- Without values nothing is rewritten. -/
theorem not_rewritten_of_noValues
    (h : a.request.context.values? = none ∨ a.request.context.values? = some []) :
    a.reply.outcome ≠ some .rewritten := by
  intro hrewritten
  obtain ⟨values, matcher, hvalues, hmatcher⟩ := hasMatcher_of_rewritten hrewritten
  rcases h with hnone | hempty
  · rw [hnone] at hvalues
    cases hvalues
  · rw [hempty] at hvalues
    cases hvalues
    cases hmode : a.settings.mode <;> rw [hmode] at hmatcher <;> cases hmatcher

/-- **An answer has one outcome, and a failure is that of the first condition that fails.**  Only a
packed body that arrives under the greatest limit has none, since the call is aborted. -/
theorem reply_exact (a : Attempt) :
    ((a.reply.outcome = some .passedThrough ↔ a.response.status ≠ okStatus) ∧
      (a.response.status ≠ okStatus → a.reply.result = .ok a.response)) ∧
    (a.reply.outcome = some .rewritten ↔
      a.response.status = okStatus ∧ ∃ out, a.reply.result = .ok out) ∧
    (a.reply.outcome = some .failed ↔ ∃ error, a.reply.result = .error (.givenUp error)) ∧
    ((a.reply.outcome = none ↔ a.reply.result = .error .overflow) ∧
      (a.reply.result = .error .overflow ↔
        a.response.status = okStatus ∧ ¬ a.Fits ∧ a.Holds .arrives)) ∧
    (a.Fits →
      (a.reply.outcome = some .rewritten ↔ a.response.status = okStatus ∧ ∀ c, a.Holds c) ∧
      ∀ error, a.reply.result = .error (.givenUp error) ↔
        a.response.status = okStatus ∧ ∃ c, a.FailsFirst c ∧ a.Reports c error) ∧
    (¬ a.Fits → a.response.status = okStatus → ∀ error,
      a.reply.result = .error (.givenUp error) ↔ a.Reports .arrives error) ∧
    (∀ refusal, a.reply.result ≠ .error (.givenUp (.payloadEncode refusal)) ∧
      a.reply.result ≠ .error (.givenUp (.envelopeEncode refusal))) ∧
    (a.request.context.values? = none ∨ a.request.context.values? = some [] →
      a.reply.outcome ≠ some .rewritten) :=
  ⟨⟨outcome_eq_passedThrough_iff, result_of_status_ne⟩, outcome_eq_rewritten_iff,
    outcome_eq_failed_iff, ⟨outcome_eq_none_iff, result_eq_overflow_iff⟩,
    fun hfits ↦ ⟨rewritten_iff hfits, result_eq_error_iff hfits⟩, result_eq_error_iff_of_not_fits,
    result_ne_encode, not_rewritten_of_noValues⟩

/-- An answer with an encoding that nobody knows, a body that is no envelope, and no values. -/
def severalFaults : Attempt where
  settings := partialSettings
  limit := 1000
  kind := .rules
  request := { requestOfA with context := .empty }
  response :=
    { status := okStatus
      version := "HTTP/1.1"
      headers := .ofList [("Content-Encoding", Text.toBytes "br")]
      body := [.data (Text.toBytes "up")] }
  limit_lt := by decide

/-- A listing without alerts in its envelope. -/
def noAlerts : Bytes :=
  Text.toBytes "\x7b\"status\":\"success\",\"data\":\x7b\"alerts\":[]\x7d\x7d"

/-- The same, packed as a single block that is stored as it is. -/
def packedNoAlerts : Bytes :=
  [0x1f, 0x8b, 8, 0, 0, 0, 0, 0, 0, 0xff, 1, 41, 0, 0xd6, 0xff] ++ noAlerts ++
    [0x8e, 0xe7, 0x49, 0xfe, 41, 0, 0, 0]

/-- A packed answer under the greatest limit. -/
def greatestLimit : Attempt where
  settings := partialSettings
  limit := UInt64.size - 1
  kind := .alerts
  request := requestOfA
  response :=
    { status := okStatus
      version := "HTTP/1.1"
      headers := .ofList [("Content-Encoding", Text.toBytes "gzip")]
      body := [.data packedNoAlerts] }
  limit_lt := by decide

theorem misclaims_severalFaults : Misclaims severalFaults.response.headers (unknownName "br") := by
  have hcanonical : ContentEncoding.canonical "br" = "br" := by decide
  have hmisclaims : Misclaims severalFaults.response.headers
      (unknownName (ContentEncoding.canonical "br")) :=
    @Misclaims.unknown _ (Text.toBytes "br") "br" (by decide +kernel) (by decide)
      (Text.ofBytes?_toBytes "br") fun encoding ↦ by cases encoding <;> decide
  rwa [hcanonical] at hmisclaims

/-- The encoding is what fails first, although all that follows would fail, too. -/
theorem failsFirst_severalFaults : severalFaults.FailsFirst .unpacks where
  before other hlt := by
    cases other with
    | arrives => exact ⟨by decide +kernel, rfl⟩
    | unpacks | succeeds | hasValues | decodes | hasMatcher => exact absurd hlt (by decide)
  fails := by
    rintro ⟨document, encoding, hclaims, -⟩
    exact misclaims_severalFaults.not_claims encoding hclaims

theorem claims_greatestLimit : Claims greatestLimit.response.headers .gzip :=
  .inr ⟨Text.toBytes "gzip", by decide +kernel, by decide, "gzip", Text.ofBytes?_toBytes "gzip",
    by decide⟩

theorem hasEnvelope_greatestLimit :
    greatestLimit.HasEnvelope (.success (Codec.alertListing.encode ⟨[]⟩)) := by
  have hunpack : Gzip.unpack greatestLimit.body = ⟨noAlerts, none⟩ := by decide +kernel
  exact ⟨noAlerts, ⟨.gzip, claims_greatestLimit, hunpack, by decide +kernel⟩, rfl, rfl⟩

/-- Nothing is wrong with the answer under the greatest limit. -/
theorem holds_greatestLimit (c : Condition) : greatestLimit.Holds c := by
  cases c with
  | arrives => exact ⟨by decide +kernel, rfl⟩
  | unpacks =>
    obtain ⟨document, hdocument, -⟩ := hasEnvelope_greatestLimit
    exact ⟨document, hdocument⟩
  | succeeds => exact ⟨_, hasEnvelope_greatestLimit⟩
  | hasValues => exact ⟨["a"], rfl⟩
  | decodes => exact ⟨_, hasEnvelope_greatestLimit, rfl⟩
  | hasMatcher => exact ⟨["a"], .exact ["a"], rfl, rfl⟩

/-- The unknown encoding is reported before the faults behind it; and under the greatest limit a
call is aborted though nothing is wrong with the answer. -/
theorem reply_exact_severalFaults :
    (severalFaults.FailsFirst .unpacks ∧
      severalFaults.reply.result = .error (.givenUp (.decompression (unknownName "br")))) ∧
    ((∀ c, greatestLimit.Holds c) ∧ greatestLimit.reply.result = .error .overflow ∧
      greatestLimit.reply.outcome = none) := by
  have hfits : severalFaults.Fits := .inl (by decide)
  have hgreatest : ¬ greatestLimit.Fits :=
    not_or.mpr ⟨by decide, not_not.mpr claims_greatestLimit⟩
  obtain ⟨-, -, -, -, hreported, -⟩ := reply_exact severalFaults
  obtain ⟨-, -, -, ⟨houtcome, haborted⟩, -⟩ := reply_exact greatestLimit
  have hresult := haborted.mpr ⟨rfl, hgreatest, holds_greatestLimit .arrives⟩
  exact ⟨⟨failsFirst_severalFaults, ((hreported hfits).2 _).mpr
      ⟨rfl, .unpacks, failsFirst_severalFaults, .misclaimed misclaims_severalFaults⟩⟩,
    holds_greatestLimit, hresult, houtcome.mpr hresult⟩

end Attempt

end TenantView.Rewrite
