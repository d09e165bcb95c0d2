import TenantView.Proofs.Rewrite.Noninterference
import TenantView.Proofs.Visibility.Agreement

/-!
# The two views of a tenant agree

The endpoint for rules and the endpoint for alerts filter on their own.  Whether an allowed alert
reaches a tenant through one or the other makes no difference, if rules may be seen in part: the
alerts that are sent on their own are exactly the allowed ones among those that are sent with their
rules (`views_agree`), in the same order and as often.
-/

namespace TenantView.Rewrite

open Document (Codec)

/-- The answer is taken apart to data that spells the listing. -/
def Carries {α : Type} (codec : Codec α) (kind : ListingKind) (limit : Nat) (response : Response)
    (listing : α) : Prop :=
  ∃ opened, Opens limit response opened ∧
    payload codec kind opened.envelope.data = .ok listing

/-- The frames spell the listing in some envelope. -/
def Shows {α : Type} (codec : Codec α) (kind : ListingKind) (frames : List Frame)
    (listing : α) : Prop :=
  ∃ envelope, Spells codec kind frames envelope listing

/-- What a hook sends in place of a listing shows its visible part, for each kind of listing that is
written back and of which the hook leaves the visible part. -/
theorem shows_visible {α : Type} {codec : Codec α} {depth : Nat} {settings : Settings}
    {kind : ListingKind} {visible : Matcher → α → α}
    (hwritten : ∀ listing, codec.WritesBack depth listing) (hdepth : depth ≤ 126)
    (hvisible : ∀ {values : List String} {envelope : Envelope} {data : Logged Json.Value},
      transform settings kind values envelope = .ok data →
      ∃ listing matcher, payload codec kind envelope.data = .ok listing ∧
        Matcher.ofValues settings.mode values = .ok matcher ∧
        data.value = codec.encode (visible matcher listing))
    {limit : Nat} {request : Request} {response out : Response} {listing : α}
    (hok : response.status = okStatus) (hlisting : Carries codec kind limit response listing)
    (h : ((Hook.ofListings settings limit kind).reply request response).result = .ok out) :
    ∃ values matcher,
      request.context.values? = some values ∧
      Matcher.ofValues settings.mode values = .ok matcher ∧
      Shows codec kind out.body (visible matcher listing) := by
  obtain ⟨opened, values, data, hopens, hvalues, htransform, rfl⟩ := listing_reply_eq_ok hok h
  obtain ⟨opened', hopens', hpayload⟩ := hlisting
  cases hopens.unique hopens'
  obtain ⟨listing', matcher, hlisting', hmatcher, hdata⟩ := hvisible htransform
  rw [hpayload] at hlisting'
  cases hlisting'
  refine ⟨values, matcher, hvalues, hmatcher, opened.envelope, ?_⟩
  rw [hdata]
  exact spells_answer (hwritten _) hdepth kind response hopens.status_eq

/-- What both endpoints send for the same rules and their alerts. -/
theorem shows_both {settings : Settings} {limit : Nat} {request request' : Request}
    {response response' out out' : Response} {listing : RuleListing}
    (hpart : settings.rulesWithActiveAlerts = true) (hcontext : request'.context = request.context)
    (hok : response.status = okStatus) (hok' : response'.status = okStatus)
    (hrules : Carries Codec.ruleListing .rules limit response listing)
    (halerts : Carries Codec.alertListing .alerts limit response' { alerts := listing.alerts })
    (hout : ((Hook.ofListings settings limit .rules).reply request response).result = .ok out)
    (hout' : ((Hook.ofListings settings limit .alerts).reply request' response').result =
      .ok out') :
    ∃ (values : List String) (e : Enforcement) (shown : RuleListing),
      request.context.values? = some values ∧
      settings.enforcement values = .ok e ∧
      Shows Codec.ruleListing .rules out.body shown ∧
      Shows Codec.alertListing .alerts out'.body
        { alerts := shown.alerts.filter fun alert ↦ e.allows alert.labels } := by
  obtain ⟨values, matcher, hvalues, hmatcher, hshown⟩ := shows_visible
    Codec.ruleListing_writesBack (by decide) transform_rules_eq_ok hok hrules hout
  obtain ⟨values', matcher', hvalues', hmatcher', hshown'⟩ := shows_visible
    Codec.alertListing_writesBack (by decide) transform_alerts_eq_ok hok' halerts hout'
  rw [hcontext, hvalues] at hvalues'
  cases hvalues'
  rw [hmatcher] at hmatcher'
  cases hmatcher'
  refine ⟨values, { label := settings.label, matcher }, _, hvalues, ?_, hshown, ?_⟩
  · rw [Settings.enforcement, hmatcher]
    rfl
  · rw [hpart, ← Enforcement.filterAlerts_alerts]
    exact hshown'

/-- **The rules view and the alerts view of a tenant agree**, in listings and in what the two
endpoints send. -/
theorem views_agree :
    (∀ (e : Enforcement) (listing : RuleListing),
      (e.filterAlerts { alerts := listing.alerts }).alerts =
        (e.filterRules true listing).alerts.filter fun alert ↦ e.allows alert.labels) ∧
    (∀ (settings : Settings) (limit : Nat) (request request' : Request)
      (response response' out out' : Response) (listing : RuleListing),
      settings.rulesWithActiveAlerts = true → request'.context = request.context →
      response.status = okStatus → response'.status = okStatus →
      Carries Codec.ruleListing .rules limit response listing →
      Carries Codec.alertListing .alerts limit response' { alerts := listing.alerts } →
      ((Hook.ofListings settings limit .rules).reply request response).result = .ok out →
      ((Hook.ofListings settings limit .alerts).reply request' response').result = .ok out' →
        ∃ (values : List String) (e : Enforcement) (shown : RuleListing),
          request.context.values? = some values ∧
          settings.enforcement values = .ok e ∧
          Shows Codec.ruleListing .rules out.body shown ∧
          Shows Codec.alertListing .alerts out'.body
            { alerts := shown.alerts.filter fun alert ↦ e.allows alert.labels }) :=
  ⟨fun e listing ↦ e.filterAlerts_alerts listing, fun _ _ _ _ _ _ _ _ _ hpart hcontext hok hok' ↦
    shows_both hpart hcontext hok hok'⟩

/-- The alerts of both tenants as a listing of their own. -/
def alertsOfBoth : AlertListing where
  alerts := sharedByBoth.alerts

/-- The plain answer with the alerts of both tenants. -/
def alertsAnswer : Response :=
  plainAnswer (Codec.alertListing.encode alertsOfBoth)

/-- The request of tenant `a` for its alerts. -/
def alertRequestOfA : Request :=
  { requestOfA with uri := "/api/v1/alerts" }

/-- As many bytes as the answers with the rules and with the alerts have together. -/
def lengthOfBoth : Nat :=
  lengthOf sharedByBoth + (packedEnvelope (.success (Codec.alertListing.encode alertsOfBoth))
    (Codec.alertListing.encode alertsOfBoth)).length

theorem carries_alertsAnswer :
    Carries Codec.alertListing .alerts lengthOfBoth alertsAnswer alertsOfBoth := by
  have hwritten := Codec.alertListing_writesBack alertsOfBoth
  exact ⟨_, opens_plainAnswer hwritten.distinct (hwritten.depth_le.trans (by decide))
    (Nat.le_add_left _ _), payload_encode hwritten .alerts⟩

/-- Tenant `a` gets its alerts rewritten. -/
theorem reply_alertsAnswer :
    ∃ out, ((Hook.ofListings partialSettings lengthOfBoth .alerts).reply alertRequestOfA
      alertsAnswer).result = .ok out := by
  obtain ⟨opened, hopens, hpayload⟩ := carries_alertsAnswer
  have hmatcher : Matcher.ofValues partialSettings.mode ["a"] = .ok (.exact ["a"]) := rfl
  obtain ⟨events, htransform⟩ := transform_alerts opened.envelope hpayload hmatcher
  exact ⟨_, reply_of_transform rfl hopens rfl htransform⟩

/-- Tenant `a` finds its alert on its own and in its part of a rule of tenant `b`. -/
theorem views_agree_sharedByBoth :
    ∃ out out',
      ((Hook.ofListings partialSettings lengthOfBoth .rules).reply requestOfA
        (listingAnswer sharedByBoth)).result = .ok out ∧
      ((Hook.ofListings partialSettings lengthOfBoth .alerts).reply alertRequestOfA
        alertsAnswer).result = .ok out' ∧
      ∃ (values : List String) (e : Enforcement) (shown : RuleListing),
        requestOfA.context.values? = some values ∧
        partialSettings.enforcement values = .ok e ∧
        Shows Codec.ruleListing .rules out.body shown ∧
        Shows Codec.alertListing .alerts out'.body
          { alerts := shown.alerts.filter fun alert ↦ e.allows alert.labels } := by
  have hcarries : Carries Codec.ruleListing .rules lengthOfBoth (listingAnswer sharedByBoth)
      sharedByBoth :=
    ⟨_, opens_listingAnswer lengthOfBoth sharedByBoth (Nat.le_add_right _ _),
      payload_encode (Codec.ruleListing_writesBack sharedByBoth) .rules⟩
  obtain ⟨out, hout⟩ :=
    reply_listingAnswer sharedByBoth (Nat.le_add_right (lengthOf sharedByBoth) _)
  obtain ⟨out', hout'⟩ := reply_alertsAnswer
  exact ⟨out, out', hout, hout', views_agree.2 partialSettings lengthOfBoth requestOfA
    alertRequestOfA _ _ out out' sharedByBoth rfl rfl rfl rfl hcarries carries_alertsAnswer hout
    hout'⟩

end TenantView.Rewrite
