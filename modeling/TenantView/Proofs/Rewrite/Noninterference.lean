import TenantView.Proofs.Rewrite.Faithfulness
import TenantView.Proofs.Visibility.Erasure

/-!
# Hidden data does not influence what is sent

Two answers that differ only in what a tenant may not see are rewritten to the same answer, down
to the bytes of the body and the field that holds their number (`hidden_data_irrelevant`).  The
filter makes the same of listings with one erasure; everything before it depends on the head of
the answer alone, and everything behind it on what the filter leaves.
-/

namespace TenantView.Rewrite

open Document (Codec)

/-- The answers have the same head. -/
def SameHead (first second : Response) : Prop :=
  first.status = second.status ∧ first.version = second.version ∧ first.headers = second.headers

/-- The envelopes agree in all but their data. -/
def SameButData (first second : Envelope) : Prop :=
  first.status = second.status ∧ first.errorType = second.errorType ∧
    first.error = second.error ∧ first.warnings = second.warnings ∧ first.infos = second.infos

/-- Whether a body is unpacked depends on the head alone. -/
theorem wasPacked_eq {limit : Nat} {first second : Response} {opened reopened : Opened}
    (hhead : SameHead first second) (h : Opens limit first opened)
    (h' : Opens limit second reopened) : opened.wasPacked = reopened.wasPacked := by
  obtain ⟨body, name, -, hname, hopened⟩ := h
  obtain ⟨body', name', -, hname', hopened'⟩ := h'
  rw [hhead.2.2, hname'] at hname
  cases hname
  obtain ⟨encoding, -, hencoding, -, -, hpacked⟩ := openBody_eq_ok hopened
  obtain ⟨encoding', -, hencoding', -, -, hpacked'⟩ := openBody_eq_ok hopened'
  rw [hencoding] at hencoding'
  cases hencoding'
  rw [hpacked, hpacked']

/-- An answer depends on the head, on the envelope but for its data, and on the new data. -/
theorem answer_congr {first second : Response} {opened reopened : Opened} {data : Json.Value}
    (hhead : SameHead first second) (hpacked : opened.wasPacked = reopened.wasPacked)
    (henvelope : SameButData opened.envelope reopened.envelope) :
    answer first opened data = answer second reopened data := by
  obtain ⟨status, version, headers, body⟩ := first
  obtain ⟨hstatus, hversion, hheaders⟩ := hhead
  obtain ⟨⟨status', old, errorType, error, warnings, infos⟩, wasPacked⟩ := opened
  obtain ⟨hstatus', herrorType, herror, hwarnings, hinfos⟩ := henvelope
  subst hstatus hversion hheaders hpacked hstatus' herrorType herror hwarnings hinfos
  rfl

/-- The answers have the same head, and what they hold differs only in what the tenant of the
request may not see. -/
def DifferInHiddenData (settings : Settings) (limit : Nat) (request : Request)
    (first second : Response) : Prop :=
  SameHead first second ∧
    ∃ opened reopened values matcher listing relisting,
      Opens limit first opened ∧
      Opens limit second reopened ∧
      SameButData opened.envelope reopened.envelope ∧
      payload Codec.ruleListing .rules opened.envelope.data = .ok listing ∧
      payload Codec.ruleListing .rules reopened.envelope.data = .ok relisting ∧
      request.context.values? = some values ∧
      Matcher.ofValues settings.mode values = .ok matcher ∧
      Enforcement.erase { label := settings.label, matcher } settings.rulesWithActiveAlerts
          listing =
        Enforcement.erase { label := settings.label, matcher } settings.rulesWithActiveAlerts
          relisting

/-- The data that is sent for a rule listing is the visible part of that listing. -/
theorem data_eq_of_transform {settings : Settings} {request : Request}
    {values values' : List String} {matcher : Matcher} {envelope : Envelope}
    {listing : RuleListing} {data : Logged Json.Value}
    (hvalues : request.context.values? = some values)
    (hvalues' : request.context.values? = some values')
    (hmatcher : Matcher.ofValues settings.mode values = .ok matcher)
    (hlisting : payload Codec.ruleListing .rules envelope.data = .ok listing)
    (h : transform settings .rules values' envelope = .ok data) :
    data.value = Codec.ruleListing.encode
      (Enforcement.filterRules { label := settings.label, matcher }
        settings.rulesWithActiveAlerts listing) := by
  rw [hvalues] at hvalues'
  cases hvalues'
  obtain ⟨listing', matcher', hlisting', hmatcher', hdata⟩ := transform_rules_eq_ok h
  rw [hlisting] at hlisting'
  cases hlisting'
  rw [hmatcher] at hmatcher'
  cases hmatcher'
  exact hdata

/-- **Hidden data does not influence what a tenant sees**, neither in a listing nor in an
answer. -/
theorem hidden_data_irrelevant :
    (∀ (e : Enforcement) (inPart : Bool) (first second : RuleListing),
      e.erase inPart first = e.erase inPart second →
        e.filterRules inPart first = e.filterRules inPart second) ∧
    (∀ (settings : Settings) (limit : Nat) (request : Request) (first second out out' : Response),
      first.status = okStatus →
      DifferInHiddenData settings limit request first second →
      ((Hook.ofListings settings limit .rules).reply request first).result = .ok out →
      ((Hook.ofListings settings limit .rules).reply request second).result = .ok out' →
        out = out') := by
  refine ⟨fun e inPart first second h ↦ e.filterRules_congr h, ?_⟩
  intro settings limit request first second out out' hstatus hdiffer hreply hreply'
  obtain ⟨hhead, opened, reopened, values, matcher, listing, relisting, hopens, hopens', hsame,
    hlisting, hrelisting, hvalues, hmatcher, herase⟩ := hdiffer
  obtain ⟨opened₁, values₁, data₁, hopens₁, hvalues₁, htransform₁, rfl⟩ :=
    listing_reply_eq_ok hstatus hreply
  obtain ⟨opened₂, values₂, data₂, hopens₂, hvalues₂, htransform₂, rfl⟩ :=
    listing_reply_eq_ok (hhead.1.symm.trans hstatus) hreply'
  cases hopens.unique hopens₁
  cases hopens'.unique hopens₂
  have hdata₁ := data_eq_of_transform hvalues hvalues₁ hmatcher hlisting htransform₁
  have hdata₂ := data_eq_of_transform hvalues hvalues₂ hmatcher hrelisting htransform₂
  rw [hdata₁, hdata₂, Enforcement.filterRules_congr _ herase]
  exact answer_congr hhead (wasPacked_eq hhead hopens hopens') hsame

/-- A rule of tenant `b` that has an alert of tenant `a` alone. -/
def sharedByOne : RuleListing :=
  listingOf [ruleOf "b" pendingState [alertOf "a"]]

/-- A plain answer with a rule listing is taken apart as it was packed. -/
theorem opens_listingAnswer (limit : Nat) (listing : RuleListing)
    (h : lengthOf listing ≤ limit) :
    Opens limit (listingAnswer listing) ⟨.success (Codec.ruleListing.encode listing), false⟩ := by
  have hwritten := Codec.ruleListing_writesBack listing
  exact opens_plainAnswer hwritten.distinct (hwritten.depth_le.trans (by decide)) h

/-- Tenant `a` cannot tell whether a rule of tenant `b` has an alert of its own. -/
theorem hidden_data_irrelevant_sharedRule :
    DifferInHiddenData partialSettings (lengthOf sharedByBoth + lengthOf sharedByOne) requestOfA
      (listingAnswer sharedByBoth) (listingAnswer sharedByOne) ∧
    ∃ out out',
      ((Hook.ofListings partialSettings (lengthOf sharedByBoth + lengthOf sharedByOne)
        .rules).reply requestOfA (listingAnswer sharedByBoth)).result = .ok out ∧
      ((Hook.ofListings partialSettings (lengthOf sharedByBoth + lengthOf sharedByOne)
        .rules).reply requestOfA (listingAnswer sharedByOne)).result = .ok out' ∧
      out = out' := by
  have hboth := opens_listingAnswer (lengthOf sharedByBoth + lengthOf sharedByOne) sharedByBoth
    (Nat.le_add_right _ _)
  have hone := opens_listingAnswer (lengthOf sharedByBoth + lengthOf sharedByOne) sharedByOne
    (Nat.le_add_left _ _)
  have hdiffer : DifferInHiddenData partialSettings
      (lengthOf sharedByBoth + lengthOf sharedByOne) requestOfA (listingAnswer sharedByBoth)
      (listingAnswer sharedByOne) :=
    ⟨⟨rfl, rfl, rfl⟩, _, _, ["a"], .exact ["a"], _, _, hboth, hone, ⟨rfl, rfl, rfl, rfl, rfl⟩,
      payload_encode (Codec.ruleListing_writesBack sharedByBoth) .rules,
      payload_encode (Codec.ruleListing_writesBack sharedByOne) .rules, rfl, rfl, rfl⟩
  obtain ⟨out, hout⟩ := reply_listingAnswer sharedByBoth
    (Nat.le_add_right _ (lengthOf sharedByOne))
  obtain ⟨out', hout'⟩ := reply_listingAnswer sharedByOne
    (Nat.le_add_left _ (lengthOf sharedByBoth))
  exact ⟨hdiffer, out, out', hout, hout',
    hidden_data_irrelevant.2 partialSettings _ requestOfA _ _ out out' rfl hdiffer hout hout'⟩

end TenantView.Rewrite
