import TenantView.Proofs.Rewrite.Stages

/-!
# What is sent is the visible part

The body that a hook sends spells the envelope that it received, around the visible part of the
listing in it and nothing else (`reply_faithful`).  Taking the body apart again yields the very
listing that was filtered: whatever a listing holds is written back, and the text of a value is
read as that value.
-/

namespace TenantView.Rewrite

open Document (Codec)

/-- The frames are one block that spells an envelope, without any encoding.  It agrees with the
given envelope in all but its data, and its data is the listing. -/
def Spells {α : Type} (codec : Codec α) (kind : ListingKind) (frames : List Frame)
    (envelope : Envelope) (listing : α) : Prop :=
  ∃ sent again,
    frames = [.data sent] ∧
    (∀ limit, openBody limit none sent = .ok ⟨again, false⟩) ∧
    again.status = envelope.status ∧
    again.errorType = envelope.errorType ∧
    again.error = envelope.error ∧
    again.warnings = envelope.warnings ∧
    again.infos = envelope.infos ∧
    again.data = codec.encode listing ∧
    payload codec kind again.data = .ok listing

/-- An answer around a listing that is written back spells it. -/
theorem spells_answer {α : Type} {codec : Codec α} {depth : Nat} {listing : α}
    (h : codec.WritesBack depth listing) (hdepth : depth ≤ 126) (kind : ListingKind)
    (response : Response) {opened : Opened}
    (hstatus : opened.envelope.status = Envelope.successStatus) :
    Spells codec kind (answer response opened (codec.encode listing)).body opened.envelope
      listing := by
  refine ⟨_, { opened.envelope with data := codec.encode listing }, rfl, fun limit ↦ ?_, rfl, rfl,
    rfl, rfl, rfl, rfl, payload_encode h kind⟩
  exact openBody_packedEnvelope limit rfl hstatus h.distinct (h.depth_le.trans hdepth)

/-- **The body that is sent is exactly the visible part of the listing that was received.** -/
theorem reply_faithful (settings : Settings) (limit : Nat) (request : Request)
    (response out : Response) (hstatus : response.status = okStatus) :
    (((Hook.ofListings settings limit .rules).reply request response).result = .ok out →
      ∃ opened values matcher listing,
        Opens limit response opened ∧
        request.context.values? = some values ∧
        Matcher.ofValues settings.mode values = .ok matcher ∧
        payload Codec.ruleListing .rules opened.envelope.data = .ok listing ∧
        Spells Codec.ruleListing .rules out.body opened.envelope
          (Enforcement.filterRules { label := settings.label, matcher }
            settings.rulesWithActiveAlerts listing)) ∧
    (((Hook.ofListings settings limit .alerts).reply request response).result = .ok out →
      ∃ opened values matcher listing,
        Opens limit response opened ∧
        request.context.values? = some values ∧
        Matcher.ofValues settings.mode values = .ok matcher ∧
        payload Codec.alertListing .alerts opened.envelope.data = .ok listing ∧
        Spells Codec.alertListing .alerts out.body opened.envelope
          (Enforcement.filterAlerts { label := settings.label, matcher } listing)) := by
  constructor
  · intro h
    obtain ⟨opened, values, data, hopens, hvalues, htransform, rfl⟩ := listing_reply_eq_ok hstatus h
    obtain ⟨listing, matcher, hlisting, hmatcher, hdata⟩ := transform_rules_eq_ok htransform
    refine ⟨opened, values, matcher, listing, hopens, hvalues, hmatcher, hlisting, ?_⟩
    rw [hdata]
    exact spells_answer (Codec.ruleListing_writesBack _) (by decide) .rules response
      hopens.status_eq
  · intro h
    obtain ⟨opened, values, data, hopens, hvalues, htransform, rfl⟩ := listing_reply_eq_ok hstatus h
    obtain ⟨listing, matcher, hlisting, hmatcher, hdata⟩ := transform_alerts_eq_ok htransform
    refine ⟨opened, values, matcher, listing, hopens, hvalues, hmatcher, hlisting, ?_⟩
    rw [hdata]
    exact spells_answer (Codec.alertListing_writesBack _) (by decide) .alerts response
      hopens.status_eq

/-! ## A listing of two tenants -/

/-- The date and the time at which the year 1970 begins. -/
def epochFields : Timestamp.Fields where
  year := 1970
  month := 1
  day := 1
  hour := 0
  minute := 0
  second := 0
  nanosecond := 0
  offsetMinutes := 0

/-- The beginning of the year 1970. -/
def epoch : Timestamp where
  toFields := epochFields
  dateExists := by decide
  timeExists := by decide
  offsetExists := by decide
  instantExists := by decide

/-- An alert of a tenant. -/
def alertOf (tenant : String) : Alert where
  labels := .ofList [("tenant", tenant)]
  annotations := .empty
  state := firingState
  activeAt := some epoch
  keepFiringSince := none
  value := "1"

/-- An alerting rule of a tenant. -/
def ruleOf (tenant state : String) (alerts : List Alert) : Rule :=
  .alerting {
    state
    name := "HighLoad"
    query := "load > 1"
    duration := .zero
    keepFiringFor := .zero
    labels := .ofList [("tenant", tenant)]
    annotations := .empty
    alerts
    health := "ok"
    lastError := ""
    evaluationTime := .zero
    lastEvaluation := epoch }

/-- The listing of one group with the given rules. -/
def listingOf (rules : List Rule) : RuleListing where
  groups := [{
    name := "load"
    file := "load.yml"
    rules
    interval := .zero
    limit := none
    evaluationTime := none
    lastEvaluation := none }]

/-- The settings that show a tenant also parts of the rules of others. -/
def partialSettings : Settings where
  label := "tenant"
  rulesWithActiveAlerts := true

/-- The request of tenant `a`. -/
def requestOfA : Request where
  uri := "/api/v1/rules"
  context := { values? := some ["a"] }

/-- A rule of tenant `b` that has alerts of both tenants. -/
def sharedByBoth : RuleListing :=
  listingOf [ruleOf "b" firingState [alertOf "b", alertOf "a"]]

/-- The plain answer with a rule listing. -/
def listingAnswer (listing : RuleListing) : Response :=
  plainAnswer (Codec.ruleListing.encode listing)

/-- As many bytes as the plain answer with a rule listing has. -/
def lengthOf (listing : RuleListing) : Nat :=
  (packedEnvelope (.success (Codec.ruleListing.encode listing))
    (Codec.ruleListing.encode listing)).length

/-- Tenant `a` gets a plain answer with a rule listing rewritten. -/
theorem reply_listingAnswer {limit : Nat} (listing : RuleListing) (h : lengthOf listing ≤ limit) :
    ∃ out, ((Hook.ofListings partialSettings limit .rules).reply requestOfA
      (listingAnswer listing)).result = .ok out := by
  have hwritten := Codec.ruleListing_writesBack listing
  have hmatcher : Matcher.ofValues partialSettings.mode ["a"] = .ok (.exact ["a"]) := rfl
  exact ⟨_, reply_plainAnswer "/api/v1/rules" hmatcher (payload_encode hwritten .rules)
    hwritten.distinct (hwritten.depth_le.trans (by decide)) h⟩

theorem reply_faithful_sharedByBoth :
    ∃ out,
      ((Hook.ofListings partialSettings (lengthOf sharedByBoth) .rules).reply requestOfA
        (listingAnswer sharedByBoth)).result = .ok out ∧
      ∃ opened values matcher listing,
        Opens (lengthOf sharedByBoth) (listingAnswer sharedByBoth) opened ∧
        requestOfA.context.values? = some values ∧
        Matcher.ofValues partialSettings.mode values = .ok matcher ∧
        payload Codec.ruleListing .rules opened.envelope.data = .ok listing ∧
        Spells Codec.ruleListing .rules out.body opened.envelope
          (Enforcement.filterRules { label := partialSettings.label, matcher }
            partialSettings.rulesWithActiveAlerts listing) := by
  obtain ⟨out, hreply⟩ := reply_listingAnswer sharedByBoth le_rfl
  exact ⟨out, hreply, (reply_faithful partialSettings _ requestOfA _ out rfl).1 hreply⟩

end TenantView.Rewrite
