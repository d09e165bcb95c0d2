import TenantView.Proofs.Document.RoundTrip
import TenantView.Proofs.Json.Drafts
import TenantView.Proofs.Traversal
import TenantView.Rewrite.Hook

/-!
# The stages of a rewrite

A rewrite succeeds exactly when all of its stages do, and each stage is known by what it yields
(`reply_eq_ok`, `transform_rules_eq_ok`, `transform_alerts_eq_ok`).  An envelope is packed up unless
the new data refuses to be written (`packEnvelope_eq`), which a listing never does; and taking it
apart again yields it (`openBody_packedEnvelope`), so that an answer which holds a packed listing
does go through all stages (`reply_plainAnswer`).  Which stage fails is what the other lemmas say.
-/

namespace TenantView

namespace Json.Value

mutual

/-- What follows the text of a value may be put behind it later. -/
theorem emit_append : (v : Value) → (rest tail : Bytes) →
    v.emit rest ++ tail = v.emit (rest ++ tail)
  | null, _, _ => rfl
  | boolean true, _, _ => rfl
  | boolean false, _, _ => rfl
  | number n, rest, tail => List.append_assoc n.bytes rest tail
  | string s, rest, tail => by simp [emit, emitText]
  | array [], _, _ => rfl
  | array (v :: items), rest, tail => by
    rw [emit, emit, List.cons_append, emit_append v, emitItems_append, List.cons_append]
  | object [], _, _ => rfl
  | object ((name, v) :: members), rest, tail => by
    have hv := emit_append v (emitMembers members (Ascii.closeBrace :: rest)) tail
    rw [emitMembers_append, List.cons_append] at hv
    simp [emit, emitText, hv]

theorem emitItems_append : (items : List Value) → (rest tail : Bytes) →
    emitItems items rest ++ tail = emitItems items (rest ++ tail)
  | [], _, _ => rfl
  | v :: items, rest, tail => by
    rw [emitItems, emitItems, List.cons_append, emit_append v, emitItems_append]

theorem emitMembers_append : (members : List (String × Value)) → (rest tail : Bytes) →
    emitMembers members rest ++ tail = emitMembers members (rest ++ tail)
  | [], _, _ => rfl
  | (name, v) :: members, rest, tail => by
    have hv := emit_append v (emitMembers members rest) tail
    rw [emitMembers_append] at hv
    simp [emitMembers, emitText, hv]

end

end Json.Value

namespace Rewrite

open Document (Codec)

/-! ## Packing up and taking apart -/

/-- The text of an envelope around new data, as a line. -/
def packedEnvelope (envelope : Envelope) (data : Json.Value) : Bytes :=
  (Codec.envelope.encode { envelope with data }).bytes ++ [Ascii.newline]

/-- An envelope is packed up around the value that the new data comes to.  Nothing but the data can
be in the way. -/
theorem packEnvelope_eq (envelope : Envelope) (payload : Json.Draft) :
    packEnvelope envelope payload =
      (payload.toValue.mapError fun cause ↦ .payloadEncode (.ofCause cause)).map
        (packedEnvelope envelope) := by
  rw [packEnvelope]
  cases payload.toValue with
  | error cause => rfl
  | ok data =>
    change ((Json.Draft.ofValue (Codec.envelope.encode { envelope with data })).bytes.mapError _ >>=
      _) = _
    rw [Json.Draft.bytes_ofValue]
    rfl

/-- A value without repeated names is never in the way. -/
theorem packEnvelope_ofValue (envelope : Envelope) {data : Json.Value} (h : data.Distinct) :
    packEnvelope envelope (.ofValue data) = .ok (packedEnvelope envelope data) := by
  rw [packEnvelope_eq, Json.Draft.toValue_ofValue h]
  rfl

/-- A packed envelope is read as it was packed. -/
theorem readEnvelope_packedEnvelope {envelope : Envelope} {data : Json.Value}
    (hstatus : envelope.status = Envelope.successStatus) (hdistinct : data.Distinct)
    (hdepth : data.depth ≤ 126) :
    readEnvelope (packedEnvelope envelope data) = .ok { envelope with data } := by
  have htakes : Json.Takes (Codec.envelope.read (125 + 2))
      (Codec.envelope.encode { envelope with data }) { envelope with data } :=
    Document.Codec.envelope_takes hdistinct hdepth
  have hread : Json.readDocument (Codec.envelope.read Json.nestingLimit)
      (packedEnvelope envelope data) = .ok { envelope with data } := by
    have hends : Json.EndsNumber [Ascii.newline] := by
      intro b hb
      cases hb
      decide
    rw [Json.readDocument, packedEnvelope, Json.Value.bytes, Json.Value.emit_append,
      List.nil_append, Json.nestingLimit, htakes _ hends]
    rfl
  rw [readEnvelope, hread]
  exact if_pos hstatus

/-- A packed envelope is taken apart as it was packed, and needs no unpacking. -/
theorem openBody_packedEnvelope (limit : Nat) {name : Option String} {envelope : Envelope}
    {data : Json.Value} (hname : ContentEncoding.ofName name = .ok .plain)
    (hstatus : envelope.status = Envelope.successStatus) (hdistinct : data.Distinct)
    (hdepth : data.depth ≤ 126) :
    openBody limit name (packedEnvelope envelope data) = .ok ⟨{ envelope with data }, false⟩ := by
  rw [openBody, hname]
  change ((readEnvelope (packedEnvelope envelope data)).mapError Stop.givenUp >>= fun envelope ↦
    .ok (⟨envelope, decide (ContentEncoding.plain = .gzip)⟩ : Opened)) = _
  rw [readEnvelope_packedEnvelope hstatus hdistinct hdepth]
  rfl

/-- A body that is taken apart has a known encoding, and an envelope below it. -/
theorem openBody_eq_ok {limit : Nat} {name : Option String} {body : Bytes} {opened : Opened}
    (h : openBody limit name body = .ok opened) :
    ∃ encoding document,
      ContentEncoding.ofName name = .ok encoding ∧
      encoding.undo limit body = .ok document ∧
      readEnvelope document = .ok opened.envelope ∧
      opened.wasPacked = decide (encoding = .gzip) := by
  obtain ⟨encoding, hencoding, h⟩ := bind_eq_ok h
  obtain ⟨document, hdocument, h⟩ := bind_eq_ok h
  obtain ⟨envelope, henvelope, h⟩ := bind_eq_ok h
  cases h
  exact ⟨encoding, document, mapError_eq_ok hencoding, hdocument, mapError_eq_ok henvelope, rfl⟩

/-- A body that can be taken apart reports success. -/
theorem status_of_openBody {limit : Nat} {name : Option String} {body : Bytes} {opened : Opened}
    (h : openBody limit name body = .ok opened) :
    opened.envelope.status = Envelope.successStatus := by
  obtain ⟨encoding, document, -, -, henvelope, -⟩ := openBody_eq_ok h
  obtain ⟨read, -, hread⟩ := bind_eq_ok henvelope
  split at hread
  · next hstatus =>
    cases hread
    exact hstatus
  · cases hread

/-- The listing that a codec has written is the payload of its value. -/
theorem payload_encode {α : Type} {codec : Codec α} {depth : Nat} {listing : α}
    (h : codec.WritesBack depth listing) (kind : ListingKind) :
    payload codec kind (codec.encode listing) = .ok listing := by
  rw [payload, h.decode_encode]
  rfl

/-! ## What succeeded -/

/-- The answer is gathered and taken apart, as the first of its fields for the encoding says. -/
def Opens (limit : Nat) (response : Response) (opened : Opened) : Prop :=
  ∃ body name,
    readBody limit response.body = .ok body ∧
    encodingName response.headers = .ok name ∧
    openBody limit name body = .ok opened

theorem Opens.status_eq {limit : Nat} {response : Response} {opened : Opened}
    (h : Opens limit response opened) : opened.envelope.status = Envelope.successStatus := by
  obtain ⟨body, name, -, -, hopened⟩ := h
  exact status_of_openBody hopened

/-- An answer is taken apart in one way. -/
theorem Opens.unique {limit : Nat} {response : Response} {opened opened' : Opened}
    (h : Opens limit response opened) (h' : Opens limit response opened') : opened = opened' := by
  obtain ⟨body, name, hbody, hname, hopened⟩ := h
  obtain ⟨body', name', hbody', hname', hopened'⟩ := h'
  rw [hbody] at hbody'
  cases hbody'
  rw [hname] at hname'
  cases hname'
  rw [hopened] at hopened'
  exact Except.ok.inj hopened'

theorem values_eq_ok {context : Context} {values : List String}
    (h : context.values = .ok values) : context.values? = some values := by
  rw [Context.values] at h
  split at h
  · next heq =>
    cases h
    exact heq
  · cases h

/-- The answer that a hook sends in place of another one. -/
def answer (response : Response) (opened : Opened) (data : Json.Value) : Response :=
  { response with
    headers := fitHeaders response.headers opened.wasPacked
      (packedEnvelope opened.envelope data).length
    body := [.data (packedEnvelope opened.envelope data)] }

/-- An answer that is prepared has gone through all stages up to its transformation. -/
theorem prepare_eq_ok {hook : Hook} {request : Request} {response : Response}
    {prepared : Prepared} (h : hook.prepare request response = .ok prepared) :
    ∃ values,
      Opens hook.limit response prepared.opened ∧
      request.context.values? = some values ∧
      hook.transform request values prepared.opened.envelope = .ok prepared.payload := by
  obtain ⟨body, hbody, h⟩ := bind_eq_ok h
  obtain ⟨name, hname, h⟩ := bind_eq_ok h
  obtain ⟨opened, hopened, h⟩ := bind_eq_ok h
  obtain ⟨values, hvalues, h⟩ := bind_eq_ok h
  obtain ⟨payload, hpayload, h⟩ := bind_eq_ok h
  cases h
  exact ⟨values, ⟨body, name, mapError_eq_ok hbody, mapError_eq_ok hname, hopened⟩,
    values_eq_ok (mapError_eq_ok hvalues), mapError_eq_ok hpayload⟩

section Rewriting

variable {hook : Hook} {request : Request} {response : Response} {prepared : Prepared}

/-- A rewrite stops where it cannot be prepared. -/
theorem rewrite_of_stopped {stop : Stop} (h : hook.prepare request response = .error stop) :
    (hook.rewrite request response).value = .error stop := by
  rw [Hook.rewrite, h]

/-- What has been prepared is sent if the new data comes to a value. -/
theorem rewrite_of_prepared (h : hook.prepare request response = .ok prepared)
    {data : Json.Value} (hdata : prepared.payload.value.toValue = .ok data) :
    (hook.rewrite request response).value = .ok (answer response prepared.opened data) := by
  simp only [Hook.rewrite, h, packEnvelope_eq, hdata, Except.mapError, Except.map]
  rfl

/-- What has been prepared is given up if the new data refuses to be written. -/
theorem rewrite_of_unwritable (h : hook.prepare request response = .ok prepared)
    {cause : Json.Cause} (hdata : prepared.payload.value.toValue = .error cause) :
    (hook.rewrite request response).value =
      .error (.givenUp (.payloadEncode (.ofCause cause))) := by
  simp only [Hook.rewrite, h, packEnvelope_eq, hdata, Except.mapError, Except.map]

/-- An answer with success is rewritten, and nothing is made of the result. -/
theorem result_of_status_eq (hok : response.status = okStatus) :
    (hook.reply request response).result = (hook.rewrite request response).value := by
  rw [Hook.reply, if_neg (not_not.mpr hok)]
  obtain ⟨result, events⟩ := hook.rewrite request response
  rcases result with (error | _) | out <;> rfl

/-- An answer with success that is not given up has gone through all stages. -/
theorem reply_eq_ok {out : Response} (hstatus : response.status = okStatus)
    (h : (hook.reply request response).result = .ok out) :
    ∃ opened values payload data,
      Opens hook.limit response opened ∧
      request.context.values? = some values ∧
      hook.transform request values opened.envelope = .ok payload ∧
      payload.value.toValue = .ok data ∧
      out = answer response opened data := by
  rw [result_of_status_eq hstatus] at h
  cases hprepare : hook.prepare request response with
  | error stop => cases (rewrite_of_stopped hprepare).symm.trans h
  | ok prepared =>
    obtain ⟨values, hopens, hvalues, htransform⟩ := prepare_eq_ok hprepare
    cases hdata : prepared.payload.value.toValue with
    | error cause => cases (rewrite_of_unwritable hprepare hdata).symm.trans h
    | ok data =>
      cases (rewrite_of_prepared hprepare hdata).symm.trans h
      exact ⟨prepared.opened, values, prepared.payload, data, hopens, hvalues, htransform, hdata,
        rfl⟩

end Rewriting

theorem enforcement_eq_ok {settings : Settings} {values : List String} {e : Enforcement}
    (h : enforcement settings values = .ok e) :
    ∃ matcher, Matcher.ofValues settings.mode values = .ok matcher ∧
      e = { label := settings.label, matcher } := by
  obtain ⟨matcher, hmatcher, he⟩ := map_eq_ok (mapError_eq_ok h)
  exact ⟨matcher, hmatcher, he.symm⟩

theorem enforcement_eq {settings : Settings} {values : List String} {matcher : Matcher}
    (h : Matcher.ofValues settings.mode values = .ok matcher) :
    enforcement settings values = .ok { label := settings.label, matcher } := by
  rw [enforcement, Settings.enforcement, h]
  rfl

/-- A rule listing that is transformed is cut down to its visible part. -/
theorem transform_rules_eq_ok {settings : Settings} {values : List String} {envelope : Envelope}
    {data : Logged Json.Value} (h : transform settings .rules values envelope = .ok data) :
    ∃ listing matcher,
      payload Codec.ruleListing .rules envelope.data = .ok listing ∧
      Matcher.ofValues settings.mode values = .ok matcher ∧
      data.value = Codec.ruleListing.encode
        (Enforcement.filterRules { label := settings.label, matcher }
          settings.rulesWithActiveAlerts listing) := by
  obtain ⟨listing, hlisting, h⟩ := bind_eq_ok h
  obtain ⟨e, he, h⟩ := bind_eq_ok h
  obtain ⟨matcher, hmatcher, rfl⟩ := enforcement_eq_ok he
  cases h
  exact ⟨listing, matcher, hlisting, hmatcher, rfl⟩

/-- An alert listing that is transformed is cut down to its visible part. -/
theorem transform_alerts_eq_ok {settings : Settings} {values : List String} {envelope : Envelope}
    {data : Logged Json.Value} (h : transform settings .alerts values envelope = .ok data) :
    ∃ listing matcher,
      payload Codec.alertListing .alerts envelope.data = .ok listing ∧
      Matcher.ofValues settings.mode values = .ok matcher ∧
      data.value = Codec.alertListing.encode
        (Enforcement.filterAlerts { label := settings.label, matcher } listing) := by
  obtain ⟨listing, hlisting, h⟩ := bind_eq_ok h
  obtain ⟨e, he, h⟩ := bind_eq_ok h
  obtain ⟨matcher, hmatcher, rfl⟩ := enforcement_eq_ok he
  cases h
  exact ⟨listing, matcher, hlisting, hmatcher, rfl⟩

/-- What is left of a listing can be packed up. -/
theorem bounds_of_transform {settings : Settings} {kind : ListingKind} {values : List String}
    {envelope : Envelope} {data : Logged Json.Value}
    (h : transform settings kind values envelope = .ok data) :
    data.value.Distinct ∧ data.value.depth ≤ 126 := by
  cases kind with
  | rules =>
    obtain ⟨listing, matcher, -, -, hdata⟩ := transform_rules_eq_ok h
    have hwritten := Codec.ruleListing_writesBack
      (Enforcement.filterRules { label := settings.label, matcher }
        settings.rulesWithActiveAlerts listing)
    rw [hdata]
    exact ⟨hwritten.distinct, hwritten.depth_le.trans (by decide)⟩
  | alerts =>
    obtain ⟨listing, matcher, -, -, hdata⟩ := transform_alerts_eq_ok h
    have hwritten := Codec.alertListing_writesBack
      (Enforcement.filterAlerts { label := settings.label, matcher } listing)
    rw [hdata]
    exact ⟨hwritten.distinct, hwritten.depth_le.trans (by decide)⟩

/-- What a hook for listings hands over comes to what is left of the listing. -/
theorem ofListings_transform_eq_ok {settings : Settings} {limit : Nat} {kind : ListingKind}
    {request : Request} {values : List String} {envelope : Envelope}
    {payload : Logged Json.Draft}
    (h : (Hook.ofListings settings limit kind).transform request values envelope = .ok payload) :
    ∃ data, transform settings kind values envelope = .ok data ∧
      payload.value.toValue = .ok data.value ∧ payload.events = data.events := by
  obtain ⟨data, hdata, h⟩ := bind_eq_ok h
  cases h
  exact ⟨data, hdata, Json.Draft.toValue_ofValue (bounds_of_transform hdata).1, rfl⟩

/-- A hook for listings hands over no draft for a listing that is refused. -/
theorem ofListings_transform_error {settings : Settings} {limit : Nat} {kind : ListingKind}
    {request : Request} {values : List String} {envelope : Envelope} {error : Error}
    (h : transform settings kind values envelope = .error error) :
    (Hook.ofListings settings limit kind).transform request values envelope = .error error := by
  change (transform settings kind values envelope >>= _) = _
  rw [h]
  rfl

/-- A listing that is not given up is cut down to what is left of it. -/
theorem listing_reply_eq_ok {settings : Settings} {limit : Nat} {kind : ListingKind}
    {request : Request} {response out : Response} (hstatus : response.status = okStatus)
    (h : ((Hook.ofListings settings limit kind).reply request response).result = .ok out) :
    ∃ opened values data,
      Opens limit response opened ∧
      request.context.values? = some values ∧
      transform settings kind values opened.envelope = .ok data ∧
      out = answer response opened data.value := by
  obtain ⟨opened, values, payload, data, hopens, hvalues, htransform, hpayload, rfl⟩ :=
    reply_eq_ok hstatus h
  obtain ⟨visible, hvisible, hvalue, -⟩ := ofListings_transform_eq_ok htransform
  cases hpayload.symm.trans hvalue
  exact ⟨opened, values, visible, hopens, hvalues, hvisible, rfl⟩

/-! ## What becomes of an answer -/

section Outcomes

variable (hook : Hook) (request : Request) (response : Response)

/-- An answer passes through, is rewritten or is given up, unless the call is aborted. -/
theorem reply_cases :
    (response.status ≠ okStatus ∧ (hook.reply request response).outcome = some .passedThrough ∧
      (hook.reply request response).result = .ok response) ∨
    (response.status = okStatus ∧ (hook.reply request response).outcome = some .rewritten ∧
      ∃ out, (hook.reply request response).result = .ok out) ∨
    (response.status = okStatus ∧ (hook.reply request response).outcome = some .failed ∧
      ∃ error, (hook.reply request response).result = .error (.givenUp error)) ∨
    (response.status = okStatus ∧ (hook.reply request response).outcome = none ∧
      (hook.reply request response).result = .error .overflow) := by
  by_cases hstatus : response.status = okStatus
  · rw [Hook.reply, if_neg (not_not.mpr hstatus)]
    obtain ⟨result, events⟩ := hook.rewrite request response
    rcases result with (error | _) | out
    · exact .inr (.inr (.inl ⟨hstatus, rfl, error, rfl⟩))
    · exact .inr (.inr (.inr ⟨hstatus, rfl, rfl⟩))
    · exact .inr (.inl ⟨hstatus, rfl, out, rfl⟩)
  · rw [Hook.reply, if_pos hstatus]
    exact .inl ⟨hstatus, rfl, rfl⟩

variable {hook request response}

theorem outcome_eq_passedThrough_iff :
    (hook.reply request response).outcome = some .passedThrough ↔
      response.status ≠ okStatus := by
  rcases reply_cases hook request response with ⟨hstatus, hout, -⟩ | ⟨hstatus, hout, -⟩ |
    ⟨hstatus, hout, -⟩ | ⟨hstatus, hout, -⟩ <;> simp [hstatus, hout]

theorem outcome_eq_rewritten_iff :
    (hook.reply request response).outcome = some .rewritten ↔
      response.status = okStatus ∧ ∃ out, (hook.reply request response).result = .ok out := by
  rcases reply_cases hook request response with ⟨hstatus, hout, hresult⟩ |
    ⟨hstatus, hout, hresult⟩ | ⟨hstatus, hout, error, hresult⟩ | ⟨hstatus, hout, hresult⟩ <;>
    simp [hstatus, hout, hresult]

theorem outcome_eq_failed_iff :
    (hook.reply request response).outcome = some .failed ↔
      ∃ error, (hook.reply request response).result = .error (.givenUp error) := by
  rcases reply_cases hook request response with ⟨-, hout, hresult⟩ | ⟨-, hout, out, hresult⟩ |
    ⟨-, hout, hresult⟩ | ⟨-, hout, hresult⟩ <;> simp [hout, hresult]

theorem outcome_eq_none_iff :
    (hook.reply request response).outcome = none ↔
      (hook.reply request response).result = .error .overflow := by
  rcases reply_cases hook request response with ⟨-, hout, hresult⟩ | ⟨-, hout, out, hresult⟩ |
    ⟨-, hout, error, hresult⟩ | ⟨-, hout, hresult⟩ <;> simp [hout, hresult]

theorem result_of_status_ne (h : response.status ≠ okStatus) :
    (hook.reply request response).result = .ok response := by
  rw [Hook.reply, if_pos h]

end Outcomes

/-! ## What fails -/

section Failures

variable {hook : Hook} {request : Request} {response : Response}

/-- An answer with success that cannot be prepared is not sent. -/
theorem reply_of_stopped (hok : response.status = okStatus) {stop : Stop}
    (h : hook.prepare request response = .error stop) :
    (hook.reply request response).result = .error stop :=
  (result_of_status_eq hok).trans (rewrite_of_stopped h)

theorem prepare_of_unread {error : Error} (h : readBody hook.limit response.body = .error error) :
    hook.prepare request response = .error (.givenUp error) := by
  rw [Hook.prepare, h]
  rfl

/-- Behind a body that is read comes the name of its encoding. -/
theorem prepare_of_read {body : Bytes} (hbody : readBody hook.limit response.body = .ok body) :
    hook.prepare request response = (do
      let encoding ← (encodingName response.headers).mapError .givenUp
      let opened ← openBody hook.limit encoding body
      let values ← request.context.values.mapError .givenUp
      let payload ← (hook.transform request values opened.envelope).mapError .givenUp
      return { received := body.length, opened, payload }) := by
  rw [Hook.prepare, hbody]
  rfl

theorem prepare_of_unnamed {body : Bytes} {error : Error}
    (hbody : readBody hook.limit response.body = .ok body)
    (h : encodingName response.headers = .error error) :
    hook.prepare request response = .error (.givenUp error) := by
  rw [prepare_of_read hbody, h]
  rfl

theorem prepare_of_unopened {body : Bytes} {name : Option String} {stop : Stop}
    (hbody : readBody hook.limit response.body = .ok body)
    (hname : encodingName response.headers = .ok name)
    (h : openBody hook.limit name body = .error stop) :
    hook.prepare request response = .error stop := by
  rw [prepare_of_read hbody, hname]
  change (openBody hook.limit name body >>= _) = _
  rw [h]
  rfl

/-- An answer that is taken apart is prepared with the values and the data. -/
theorem prepare_of_opens (request : Request) {opened : Opened}
    (hopens : Opens hook.limit response opened) :
    ∃ body, readBody hook.limit response.body = .ok body ∧
      hook.prepare request response = (do
        let values ← request.context.values.mapError .givenUp
        let payload ← (hook.transform request values opened.envelope).mapError .givenUp
        return { received := body.length, opened, payload }) := by
  obtain ⟨body, name, hbody, hname, hopened⟩ := hopens
  refine ⟨body, hbody, ?_⟩
  rw [prepare_of_read hbody, hname]
  change (openBody hook.limit name body >>= _) = _
  rw [hopened]
  rfl

theorem prepare_of_noValues {opened : Opened} (hopens : Opens hook.limit response opened)
    (h : request.context.values? = none) :
    hook.prepare request response = .error (.givenUp .missingLabelValues) := by
  obtain ⟨body, -, hprepare⟩ := prepare_of_opens request hopens
  rw [hprepare, Context.values, h]
  rfl

/-- With the values that are stored the data is transformed. -/
theorem prepare_of_values {opened : Opened} {values : List String}
    (hopens : Opens hook.limit response opened) (hvalues : request.context.values? = some values) :
    ∃ received, hook.prepare request response =
      ((hook.transform request values opened.envelope).map
        (Prepared.mk received opened)).mapError .givenUp := by
  obtain ⟨body, -, hprepare⟩ := prepare_of_opens request hopens
  refine ⟨body.length, hprepare.trans ?_⟩
  rw [Context.values, hvalues]
  change ((hook.transform request values opened.envelope).mapError _ >>= _) = _
  cases hook.transform request values opened.envelope <;> rfl

theorem prepare_of_untransformed {opened : Opened} {values : List String} {error : Error}
    (hopens : Opens hook.limit response opened) (hvalues : request.context.values? = some values)
    (h : hook.transform request values opened.envelope = .error error) :
    hook.prepare request response = .error (.givenUp error) := by
  obtain ⟨received, hprepare⟩ := prepare_of_values hopens hvalues
  rw [hprepare, h]
  rfl

/-- The call is aborted only where the body is taken apart, and so whatever the request is. -/
theorem prepare_eq_overflow_iff :
    hook.prepare request response = .error .overflow ↔
      ∃ body name, readBody hook.limit response.body = .ok body ∧
        encodingName response.headers = .ok name ∧
        openBody hook.limit name body = .error .overflow := by
  constructor
  · intro habort
    cases hbody : readBody hook.limit response.body with
    | error error => cases habort.symm.trans (prepare_of_unread hbody)
    | ok body =>
      cases hname : encodingName response.headers with
      | error error => cases habort.symm.trans (prepare_of_unnamed hbody hname)
      | ok name =>
        cases hopened : openBody hook.limit name body with
        | error stop =>
          cases habort.symm.trans (prepare_of_unopened hbody hname hopened)
          exact ⟨body, name, rfl, rfl, hopened⟩
        | ok opened =>
          have hopens : Opens hook.limit response opened := ⟨body, name, hbody, hname, hopened⟩
          cases hvalues : request.context.values? with
          | none => cases habort.symm.trans (prepare_of_noValues hopens hvalues)
          | some values =>
            obtain ⟨received, hprepare⟩ := prepare_of_values hopens hvalues
            rw [hprepare] at habort
            cases htransform : hook.transform request values opened.envelope <;>
              rw [htransform] at habort <;> cases habort
  · rintro ⟨body, name, hbody, hname, hopened⟩
    exact prepare_of_unopened hbody hname hopened

/-- The call is aborted where an answer with success cannot be prepared for it. -/
theorem reply_eq_overflow_iff :
    (hook.reply request response).result = .error .overflow ↔
      response.status = okStatus ∧ hook.prepare request response = .error .overflow := by
  refine ⟨fun habort ↦ ?_, fun h ↦ reply_of_stopped h.1 h.2⟩
  by_cases hok : response.status = okStatus
  · rw [result_of_status_eq hok] at habort
    refine ⟨hok, ?_⟩
    cases hprepare : hook.prepare request response with
    | error stop =>
      cases (rewrite_of_stopped hprepare).symm.trans habort
      rfl
    | ok prepared =>
      cases hdata : prepared.payload.value.toValue with
      | error cause => cases (rewrite_of_unwritable hprepare hdata).symm.trans habort
      | ok data => cases (rewrite_of_prepared hprepare hdata).symm.trans habort
  · cases (result_of_status_ne hok).symm.trans habort

/-- What is aborted is aborted for every request. -/
theorem reply_eq_overflow_congr (request' : Request)
    (h : (hook.reply request response).result = .error .overflow) :
    (hook.reply request' response).result = .error .overflow := by
  obtain ⟨hok, hprepare⟩ := reply_eq_overflow_iff.mp h
  exact reply_eq_overflow_iff.mpr
    ⟨hok, prepare_eq_overflow_iff.mpr (prepare_eq_overflow_iff.mp hprepare)⟩

end Failures

/-! ## An answer that goes through -/

/-- A rule listing is cut down to its visible part if the values make a matcher. -/
theorem transform_rules {settings : Settings} {values : List String} {matcher : Matcher}
    (envelope : Envelope) {listing : RuleListing}
    (hlisting : payload Codec.ruleListing .rules envelope.data = .ok listing)
    (hmatcher : Matcher.ofValues settings.mode values = .ok matcher) :
    ∃ events, transform settings .rules values envelope =
      .ok ⟨Codec.ruleListing.encode
        (Enforcement.filterRules { label := settings.label, matcher }
          settings.rulesWithActiveAlerts listing), events⟩ := by
  rw [transform, hlisting, enforcement_eq hmatcher]
  exact ⟨_, rfl⟩

/-- An alert listing is cut down to its visible part if the values make a matcher. -/
theorem transform_alerts {settings : Settings} {values : List String} {matcher : Matcher}
    (envelope : Envelope) {listing : AlertListing}
    (hlisting : payload Codec.alertListing .alerts envelope.data = .ok listing)
    (hmatcher : Matcher.ofValues settings.mode values = .ok matcher) :
    ∃ events, transform settings .alerts values envelope =
      .ok ⟨Codec.alertListing.encode
        (Enforcement.filterAlerts { label := settings.label, matcher } listing), events⟩ := by
  rw [transform, hlisting, enforcement_eq hmatcher]
  exact ⟨_, rfl⟩

/-- An answer with success that goes through all stages is rewritten. -/
theorem reply_of_opens (hook : Hook) {request : Request} {response : Response} {opened : Opened}
    {values : List String} {payload : Logged Json.Draft} {data : Json.Value}
    (hok : response.status = okStatus) (hopens : Opens hook.limit response opened)
    (hvalues : request.context.values? = some values)
    (htransform : hook.transform request values opened.envelope = .ok payload)
    (hdata : payload.value.toValue = .ok data) :
    (hook.reply request response).result = .ok (answer response opened data) := by
  obtain ⟨received, hprepare⟩ := prepare_of_values hopens hvalues
  rw [htransform] at hprepare
  exact (result_of_status_eq hok).trans (rewrite_of_prepared hprepare hdata)

/-- A listing with success is rewritten to what is left of it. -/
theorem reply_of_transform {settings : Settings} {limit : Nat} {kind : ListingKind}
    {request : Request} {response : Response} {opened : Opened} {values : List String}
    {data : Logged Json.Value} (hok : response.status = okStatus)
    (hopens : Opens limit response opened) (hvalues : request.context.values? = some values)
    (h : transform settings kind values opened.envelope = .ok data) :
    ((Hook.ofListings settings limit kind).reply request response).result =
      .ok (answer response opened data.value) := by
  have htransform : (Hook.ofListings settings limit kind).transform request values
      opened.envelope = .ok ⟨.ofValue data.value, data.events⟩ := by
    change (transform settings kind values opened.envelope >>= _) = _
    rw [h]
    rfl
  exact reply_of_opens (.ofListings settings limit kind) hok hopens hvalues htransform
    (Json.Draft.toValue_ofValue (bounds_of_transform h).1)

/-- A body in one block is gathered if it is not too long. -/
theorem readBody_single {limit : Nat} {bytes : Bytes} (h : bytes.length ≤ limit) :
    readBody limit [.data bytes] = .ok bytes := by
  rw [readBody, gather, if_neg (Nat.not_lt.mpr h), gather]
  simp [Except.map, Except.mapError]

/-- An answer with a packed envelope is taken apart if its head claims no packing. -/
theorem opens_packed {limit : Nat} {response : Response} (envelope : Envelope) {data : Json.Value}
    {name : Option String} (hbody : response.body = [.data (packedEnvelope envelope data)])
    (hlimit : (packedEnvelope envelope data).length ≤ limit)
    (hname : encodingName response.headers = .ok name)
    (hplain : ContentEncoding.ofName name = .ok .plain)
    (hstatus : envelope.status = Envelope.successStatus) (hdistinct : data.Distinct)
    (hdepth : data.depth ≤ 126) : Opens limit response ⟨{ envelope with data }, false⟩ :=
  ⟨packedEnvelope envelope data, name, hbody ▸ readBody_single hlimit, hname,
    openBody_packedEnvelope limit hplain hstatus hdistinct hdepth⟩

/-- The answer of a server that sends some data and nothing else. -/
def plainAnswer (data : Json.Value) : Response where
  status := okStatus
  version := "HTTP/1.1"
  headers := .empty
  body := [.data (packedEnvelope (.success data) data)]

/-- A plain answer is taken apart to its data. -/
theorem opens_plainAnswer {limit : Nat} {data : Json.Value} (hdistinct : data.Distinct)
    (hdepth : data.depth ≤ 126) (hlimit : (packedEnvelope (.success data) data).length ≤ limit) :
    Opens limit (plainAnswer data) ⟨.success data, false⟩ :=
  opens_packed (.success data) rfl hlimit rfl rfl rfl hdistinct hdepth

/-- A plain answer with a rule listing is rewritten for every tenant whose values make a
matcher. -/
theorem reply_plainAnswer {settings : Settings} {limit : Nat} {values : List String}
    {matcher : Matcher} (uri : String) {data : Json.Value} {listing : RuleListing}
    (hmatcher : Matcher.ofValues settings.mode values = .ok matcher)
    (hlisting : payload Codec.ruleListing .rules data = .ok listing)
    (hdistinct : data.Distinct) (hdepth : data.depth ≤ 126)
    (hlimit : (packedEnvelope (.success data) data).length ≤ limit) :
    ((Hook.ofListings settings limit .rules).reply ⟨uri, ⟨some values⟩⟩ (plainAnswer data)).result =
      .ok (answer (plainAnswer data) ⟨.success data, false⟩
        (Codec.ruleListing.encode
          (Enforcement.filterRules { label := settings.label, matcher }
            settings.rulesWithActiveAlerts listing))) := by
  obtain ⟨events, htransform⟩ := transform_rules (.success data) hlisting hmatcher
  have hopens := opens_plainAnswer hdistinct hdepth hlimit
  have hvalues : (Request.mk uri ⟨some values⟩).context.values? = some values := rfl
  have hreply := reply_of_transform rfl hopens hvalues htransform
  exact hreply

end Rewrite

end TenantView
