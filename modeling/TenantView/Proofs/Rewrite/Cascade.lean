import TenantView.Proofs.Rewrite.ContentEncoding
import TenantView.Proofs.Visibility.Absorption

/-!
# Hooks behind one another

A rewritten answer is plain and says so, so that the next hook takes it apart to what has been
packed up (`opens_answer`), and what the next hook sends looks as if the answer between them had
never been there (`reply_answer`).  A hook in front of another one therefore matters only through
the data it leaves.  If it leaves what a tenant with wider rights may see, the tenant behind it gets
the very answer that it would get without it (`narrower_absorbs_wider`).
-/

namespace TenantView.Rewrite

open Document (Codec)

/-! ## Rewriting a rewritten answer -/

/-- What the head says about the encoding is what its first field for it says. -/
theorem encodingName_congr {headers other : Headers}
    (h : headers.first? contentEncoding = other.first? contentEncoding) :
    encodingName headers = encodingName other := by
  rw [encodingName, encodingName, h]

/-- The head of a rewritten answer claims no packing, as far as its first field goes. -/
theorem Opens.encodingName_fitHeaders {limit : Nat} {response : Response} {opened : Opened}
    (h : Opens limit response opened) (length : Nat) :
    ∃ name, encodingName (fitHeaders response.headers opened.wasPacked length) = .ok name ∧
      ContentEncoding.ofName name = .ok .plain := by
  obtain ⟨body, name, -, hname, hopened⟩ := h
  obtain ⟨encoding, document, hencoding, -, -, hpacked⟩ := openBody_eq_ok hopened
  have hvalues := values_fitHeaders_contentEncoding response.headers opened.wasPacked length
  cases encoding with
  | gzip =>
    rw [hpacked] at hvalues ⊢
    refine ⟨none, ?_, ContentEncoding.ofName_none⟩
    rw [encodingName, Headers.first?, hvalues]
    rfl
  | plain =>
    rw [hpacked] at hvalues ⊢
    refine ⟨name, ?_, hencoding⟩
    rw [← hname]
    exact encodingName_congr (congrArg List.head? hvalues)

/-- A rewritten answer is taken apart to the data that was put into it. -/
theorem opens_answer {limit : Nat} {response : Response} {opened : Opened} {data : Json.Value}
    (h : Opens limit response opened) (hdistinct : data.Distinct) (hdepth : data.depth ≤ 126)
    (hlimit : (packedEnvelope opened.envelope data).length ≤ limit) :
    Opens limit (answer response opened data) ⟨{ opened.envelope with data }, false⟩ := by
  obtain ⟨name, hname, hplain⟩ :=
    h.encodingName_fitHeaders (packedEnvelope opened.envelope data).length
  exact opens_packed opened.envelope rfl hlimit hname hplain h.status_eq hdistinct hdepth

/-- Fitting a head twice is fitting it to the last body. -/
theorem fitHeaders_fitHeaders (headers : Headers) (wasPacked : Bool) (length length' : Nat) :
    fitHeaders (fitHeaders headers wasPacked length) false length' =
      fitHeaders headers wasPacked length' := by
  have hne : contentLength ≠ transferEncoding := by decide
  simp only [fitHeaders, Bool.false_eq_true, if_false, Headers.erase_set_of_ne _ _ hne,
    Headers.erase_erase_self, Headers.set_set]

/-- The answer that replaces a rewritten answer is the one that replaces the answer itself. -/
theorem answer_answer (response : Response) (opened : Opened) (data data' : Json.Value) :
    answer (answer response opened data) ⟨{ opened.envelope with data }, false⟩ data' =
      answer response opened data' := by
  simp only [answer, packedEnvelope, fitHeaders_fitHeaders]

/-- A hook for listings makes the same of a rewritten answer as of the answer with the same data, if
the body in between is not too long. -/
theorem reply_answer {settings : Settings} {limit : Nat} {kind : ListingKind} {request : Request}
    {response : Response} {opened : Opened} {values : List String} {data : Json.Value}
    {seen : Logged Json.Value} (hok : response.status = okStatus)
    (hopens : Opens limit response opened) (hdistinct : data.Distinct) (hdepth : data.depth ≤ 126)
    (hlimit : (packedEnvelope opened.envelope data).length ≤ limit)
    (hvalues : request.context.values? = some values)
    (htransform : transform settings kind values { opened.envelope with data } = .ok seen) :
    ((Hook.ofListings settings limit kind).reply request (answer response opened data)).result =
      .ok (answer response opened seen.value) := by
  rw [← answer_answer response opened data seen.value]
  exact reply_of_transform hok (opens_answer hopens hdistinct hdepth hlimit) hvalues htransform

/-! ## Wider rights in front -/

/-- Whatever the settings allow for the request is allowed by the other settings for the request in
front, and parts of rules are only asked for if they are asked for in front. -/
def IsNarrower (settings wider : Settings) (request front : Request) : Prop :=
  (settings.rulesWithActiveAlerts = true → wider.rulesWithActiveAlerts = true) ∧
  ∀ values others matcher other,
    request.context.values? = some values →
    front.context.values? = some others →
    Matcher.ofValues settings.mode values = .ok matcher →
    Matcher.ofValues wider.mode others = .ok other →
    Enforcement.IsNarrower { label := settings.label, matcher }
      { label := wider.label, matcher := other }

/-- What a tenant gets of the data it also gets of what wider rights leave of it. -/
theorem transform_transform {settings wider : Settings} {kind : ListingKind}
    {request front : Request} {values others : List String} {envelope : Envelope}
    {seen data : Logged Json.Value} (hnarrow : IsNarrower settings wider request front)
    (hvalues : request.context.values? = some values)
    (hothers : front.context.values? = some others)
    (hseen : transform wider kind others envelope = .ok seen)
    (hdata : transform settings kind values envelope = .ok data) :
    ∃ events, transform settings kind values { envelope with data := seen.value } =
      .ok ⟨data.value, events⟩ := by
  cases kind with
  | rules =>
    obtain ⟨listing, other, hlisting, hother, hseen⟩ := transform_rules_eq_ok hseen
    obtain ⟨listing', matcher, hlisting', hmatcher, hdata⟩ := transform_rules_eq_ok hdata
    rw [hlisting] at hlisting'
    cases hlisting'
    have hrights := hnarrow.2 values others matcher other hvalues hothers hmatcher hother
    rw [hdata, hseen, ← Enforcement.filterRules_filterRules hrights hnarrow.1]
    exact transform_rules { envelope with data := Codec.ruleListing.encode _ }
      (payload_encode (Codec.ruleListing_writesBack _) .rules) hmatcher
  | alerts =>
    obtain ⟨listing, other, hlisting, hother, hseen⟩ := transform_alerts_eq_ok hseen
    obtain ⟨listing', matcher, hlisting', hmatcher, hdata⟩ := transform_alerts_eq_ok hdata
    rw [hlisting] at hlisting'
    cases hlisting'
    have hrights := hnarrow.2 values others matcher other hvalues hothers hmatcher hother
    rw [hdata, hseen, ← Enforcement.filterAlerts_filterAlerts hrights]
    exact transform_alerts { envelope with data := Codec.alertListing.encode _ }
      (payload_encode (Codec.alertListing_writesBack _) .alerts) hmatcher

/-- A hook with wider rights in front never changes what the hook behind it sends. -/
theorem reply_reply_wider {settings wider : Settings} {limit : Nat} {kind : ListingKind}
    {request front : Request} {response between out : Response}
    (hok : response.status = okStatus) (hnarrow : IsNarrower settings wider request front)
    (hfront : ((Hook.ofListings wider limit kind).reply front response).result = .ok between)
    (hout : ((Hook.ofListings settings limit kind).reply request response).result = .ok out)
    (hlimit : ∀ bytes, between.body = [.data bytes] → bytes.length ≤ limit) :
    ((Hook.ofListings settings limit kind).reply request between).result = .ok out := by
  obtain ⟨opened, others, seen, hopens, hothers, hseen, rfl⟩ := listing_reply_eq_ok hok hfront
  obtain ⟨opened', values, data, hopens', hvalues, hdata, rfl⟩ := listing_reply_eq_ok hok hout
  cases hopens.unique hopens'
  obtain ⟨events, htransform⟩ := transform_transform hnarrow hvalues hothers hseen hdata
  obtain ⟨hdistinct, hdepth⟩ := bounds_of_transform hseen
  have hanswer := reply_answer hok hopens hdistinct hdepth (hlimit _ rfl) hvalues htransform
  exact hanswer

/-- **A narrower filter absorbs a wider one**, in listings of rules and of alerts; so filtering once
more changes nothing, and a part of a rule is its own part.  A hook with wider rights in front does
not change an answer. -/
theorem narrower_absorbs_wider :
    (∀ (e wider : Enforcement) (inPart inPart' : Bool) (listing : RuleListing),
      e.IsNarrower wider → (inPart = true → inPart' = true) →
        e.filterRules inPart (wider.filterRules inPart' listing) = e.filterRules inPart listing) ∧
    (∀ (e wider : Enforcement) (listing : AlertListing), e.IsNarrower wider →
      e.filterAlerts (wider.filterAlerts listing) = e.filterAlerts listing) ∧
    (∀ (e : Enforcement) (inPart : Bool) (listing : RuleListing),
      e.filterRules inPart (e.filterRules inPart listing) = e.filterRules inPart listing) ∧
    (∀ (e : Enforcement) (rule part : AlertingRule),
      e.visiblePart? rule = some part → e.visiblePart? part = some part) ∧
    (∀ (settings wider : Settings) (limit : Nat) (kind : ListingKind) (request front : Request)
      (response between out : Response),
      response.status = okStatus → IsNarrower settings wider request front →
      ((Hook.ofListings wider limit kind).reply front response).result = .ok between →
      ((Hook.ofListings settings limit kind).reply request response).result = .ok out →
      (∀ bytes, between.body = [.data bytes] → bytes.length ≤ limit) →
        ((Hook.ofListings settings limit kind).reply request between).result = .ok out) := by
  refine ⟨fun _ _ _ _ listing h hpart ↦ Enforcement.filterRules_filterRules h hpart listing,
    fun _ _ listing h ↦ Enforcement.filterAlerts_filterAlerts h listing,
    fun e _ listing ↦ Enforcement.filterRules_filterRules (.refl e) id listing,
    fun e rule part hpart ↦ ?_,
    fun _ _ _ _ _ _ _ _ _ hok hnarrow ↦ reply_reply_wider hok hnarrow⟩
  have hagain := Enforcement.visiblePart?_bind_visiblePart? (.refl e) rule
  rwa [hpart, Option.bind_some] at hagain

/-- The request of a tenant with the rights of two. -/
def requestOfBoth : Request :=
  { requestOfA with context := { values? := some ["a", "b"] } }

theorem isNarrower_requestOfBoth :
    IsNarrower partialSettings partialSettings requestOfA requestOfBoth := by
  refine ⟨id, fun values others matcher other hvalues hothers hmatcher hother ↦ ?_⟩
  cases hvalues
  cases hothers
  cases hmatcher
  cases hother
  exact Enforcement.isNarrower_exact "tenant" (by simp)

/-- Tenant `a` gets its part of a rule of tenant `b` also behind a hook for both. -/
theorem narrower_absorbs_wider_requestOfBoth :
    IsNarrower partialSettings partialSettings requestOfA requestOfBoth ∧
    ∃ between out,
      ((Hook.ofListings partialSettings (lengthOf sharedByBoth) .rules).reply requestOfBoth
        (listingAnswer sharedByBoth)).result = .ok between ∧
      ((Hook.ofListings partialSettings (lengthOf sharedByBoth) .rules).reply requestOfA
        (listingAnswer sharedByBoth)).result = .ok out ∧
      ((Hook.ofListings partialSettings (lengthOf sharedByBoth) .rules).reply requestOfA
        between).result = .ok out := by
  have hwritten := Codec.ruleListing_writesBack sharedByBoth
  have hboth : Matcher.ofValues partialSettings.mode ["a", "b"] = .ok (.exact ["a", "b"]) := rfl
  have hbetween := reply_plainAnswer requestOfA.uri hboth (payload_encode hwritten .rules)
    hwritten.distinct (hwritten.depth_le.trans (by decide)) (Nat.le_refl (lengthOf sharedByBoth))
  have hwhole : Enforcement.filterRules
      { label := partialSettings.label, matcher := .exact ["a", "b"] }
      partialSettings.rulesWithActiveAlerts sharedByBoth = sharedByBoth := by
    decide +kernel
  rw [hwhole] at hbetween
  obtain ⟨out, hout⟩ := reply_listingAnswer sharedByBoth le_rfl
  refine ⟨isNarrower_requestOfBoth, _, out, hbetween, hout, ?_⟩
  refine narrower_absorbs_wider.2.2.2.2 partialSettings partialSettings _ .rules requestOfA
    requestOfBoth _ _ out rfl isNarrower_requestOfBoth hbetween hout fun bytes hbytes ↦ ?_
  cases hbytes
  exact le_rfl

end TenantView.Rewrite
