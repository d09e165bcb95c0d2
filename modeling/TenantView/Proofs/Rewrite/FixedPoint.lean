import TenantView.Proofs.Rewrite.Cascade
import TenantView.Proofs.Rewrite.Reception

/-!
# What has been rewritten stays

A hook that gets its own answer again finds in it what it would leave, and sends the same bytes
under the same head (`reply_again`).  Nothing but the length of the new body is in the way: numbers
and timestamps are written in a form of their own, and a listing in that form may be longer than the
one that was received.  An answer that has outgrown the limit is given up the second time
(`reply_outgrown`).
-/

namespace TenantView.Rewrite

open Document (Codec)

/-- No request has wider rights than itself. -/
theorem IsNarrower.refl (settings : Settings) (request : Request) :
    IsNarrower settings settings request request := by
  refine ⟨id, fun values others matcher other hvalues hothers hmatcher hother ↦ ?_⟩
  rw [hvalues] at hothers
  cases hothers
  rw [hmatcher] at hother
  cases hother
  exact Enforcement.IsNarrower.refl _

/-- A rewritten answer has its body in one frame. -/
theorem body_of_reply {hook : Hook} {request : Request} {response out : Response}
    (hok : response.status = okStatus) (hout : (hook.reply request response).result = .ok out) :
    out.status = okStatus ∧ ∃ sent, out.body = [.data sent] := by
  obtain ⟨opened, values, payload, data, -, -, -, -, rfl⟩ := reply_eq_ok hok hout
  exact ⟨hok, _, rfl⟩

/-- The same hook sends its own answer again, if the body is not too long. -/
theorem reply_again {settings : Settings} {limit : Nat} {kind : ListingKind} {request : Request}
    {response out : Response} (hok : response.status = okStatus)
    (hout : ((Hook.ofListings settings limit kind).reply request response).result = .ok out)
    (hlimit : ∀ sent, out.body = [.data sent] → sent.length ≤ limit) :
    ((Hook.ofListings settings limit kind).reply request out).outcome = some .rewritten ∧
      ((Hook.ofListings settings limit kind).reply request out).result = .ok out := by
  have hagain := reply_reply_wider hok (.refl settings request) hout hout hlimit
  exact ⟨outcome_eq_rewritten_iff.mpr ⟨(body_of_reply hok hout).1, out, hagain⟩, hagain⟩

/-- An answer that has outgrown the limit is too long for the hook that made it. -/
theorem reply_outgrown (hook : Hook) (request : Request) {out : Response} {sent : Bytes}
    (hok : out.status = okStatus) (hbody : out.body = [.data sent])
    (hlong : hook.limit < sent.length) :
    (hook.reply request out).result = .error (.givenUp (.body (.tooLong hook.limit))) := by
  have harrived : arrived out.body = sent := by
    rw [hbody, arrived_data]
    exact List.append_nil sent
  refine reply_of_stopped hok (prepare_of_unread ?_)
  rw [readBody_eq, harrived, if_pos hlong]

/-- **What a hook has rewritten is a fixed point of the hook, unless it has outgrown the limit.** -/
theorem reply_fixedPoint (settings : Settings) (limit : Nat) (kind : ListingKind)
    (request : Request) (response out : Response) (hok : response.status = okStatus)
    (hout : ((Hook.ofListings settings limit kind).reply request response).result = .ok out) :
    ∃ sent, out.body = [.data sent] ∧
      (sent.length ≤ limit →
        ((Hook.ofListings settings limit kind).reply request out).outcome = some .rewritten ∧
        ((Hook.ofListings settings limit kind).reply request out).result = .ok out) ∧
      (limit < sent.length →
        ((Hook.ofListings settings limit kind).reply request out).result =
          .error (.givenUp (.body (.tooLong limit)))) := by
  obtain ⟨hstatus, sent, hbody⟩ := body_of_reply hok hout
  refine ⟨sent, hbody, fun hshort ↦ reply_again hok hout fun bytes hbytes ↦ ?_,
    reply_outgrown (.ofListings settings limit kind) request hstatus hbody⟩
  rw [hbody] at hbytes
  cases hbytes
  exact hshort

/-- What tenant `a` may see of the rule of tenant `b`. -/
def sharedSeenByA : RuleListing :=
  Enforcement.filterRules { label := partialSettings.label, matcher := .exact ["a"] }
    partialSettings.rulesWithActiveAlerts sharedByBoth

/-- A limit that the rule and the part of it meet. -/
def limitForBoth : Nat :=
  lengthOf sharedByBoth + lengthOf sharedSeenByA

/-- The part of a rule of tenant `b` that tenant `a` gets is sent again as it is. -/
theorem reply_fixedPoint_sharedByBoth :
    ∃ out,
      ((Hook.ofListings partialSettings limitForBoth .rules).reply requestOfA
        (listingAnswer sharedByBoth)).result = .ok out ∧
      ((Hook.ofListings partialSettings limitForBoth .rules).reply requestOfA out).outcome =
        some .rewritten ∧
      ((Hook.ofListings partialSettings limitForBoth .rules).reply requestOfA out).result =
        .ok out := by
  have hwritten := Codec.ruleListing_writesBack sharedByBoth
  have hmatcher : Matcher.ofValues partialSettings.mode ["a"] = .ok (.exact ["a"]) := rfl
  have hlimit : lengthOf sharedByBoth ≤ limitForBoth := Nat.le_add_right _ _
  have hout := reply_plainAnswer requestOfA.uri hmatcher (payload_encode hwritten .rules)
    hwritten.distinct (hwritten.depth_le.trans (by decide)) hlimit
  refine ⟨_, hout, ?_⟩
  obtain ⟨sent, hbody, hshort, -⟩ :=
    reply_fixedPoint partialSettings limitForBoth .rules requestOfA _ _ rfl hout
  obtain ⟨hframe, -⟩ := List.cons.inj hbody
  refine hshort ?_
  rw [← Frame.data.inj hframe]
  exact Nat.le_add_left (lengthOf sharedSeenByA) (lengthOf sharedByBoth)

end TenantView.Rewrite
