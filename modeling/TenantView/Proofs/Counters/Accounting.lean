import TenantView.Proofs.Counters.Tally
import TenantView.Proofs.Rewrite.FirstFailure
import TenantView.Proofs.Rewrite.TwoViews
import TenantView.Session

/-!
# The counters account for every call

A call that is counted leaves one key with the outcomes, and one with the failures if it has failed
(`serve_eq`).  Only a call that is aborted leaves none (`Call.returns_eq_false_iff`).  What a whole
session leaves are thus the tallies of the keys of its calls (`serveAll_eq`), and what can be said
about the counts is said about the calls (`after_exact`).
-/

namespace TenantView

open Rewrite (Outcome Reply okStatus)

/-! ## Keys -/

namespace Call

/-- The stage at which the answer is given up, if it is. -/
def stage? (call : Call) : Option String :=
  match call.reply.result with
  | .error (.givenUp error) => some error.stage
  | .error .overflow => none
  | .ok _ => none

/-- Whether something becomes of the answer; nothing does if the call is aborted. -/
def returns (call : Call) : Bool :=
  call.reply.outcome.isSome

/-- Whether the call is counted for an endpoint. -/
def countsAt (call : Call) (endpoint : String) : Bool :=
  call.counted && decide (call.endpoint = endpoint)

/-- The keys that the call leaves with the outcomes. -/
def outcomeKeys (call : Call) : List (String × Outcome) :=
  if call.counted then call.reply.outcome.toList.map fun outcome ↦ (call.endpoint, outcome) else []

/-- The keys that the call leaves with the failures. -/
def failureKeys (call : Call) : List (String × String) :=
  if call.counted then call.stage?.toList.map fun stage ↦ (call.endpoint, stage) else []

/-- A call that fails does so at some stage. -/
theorem failed_iff (call : Call) :
    call.reply.outcome = some .failed ↔ call.stage?.isSome = true := by
  refine Rewrite.outcome_eq_failed_iff.trans ?_
  change (∃ error, call.reply.result = .error (.givenUp error)) ↔ _
  unfold stage?
  rcases call.reply.result with (error | _) | out <;> simp

/-- A packed body has arrived under a limit with no number above it. -/
def Overflows (call : Call) : Prop :=
  call.response.status = okStatus ∧ UInt64.size ≤ call.hook.limit + 1 ∧
    ∃ body name,
      Rewrite.readBody call.hook.limit call.response.body = .ok body ∧
      Rewrite.encodingName call.response.headers = .ok name ∧
      Rewrite.ContentEncoding.ofName name = .ok .gzip

/-- A call is aborted exactly if it overflows. -/
theorem returns_eq_false_iff (call : Call) : call.returns = false ↔ call.Overflows := by
  rw [returns, Option.isSome_eq_false_iff, Option.isNone_iff_eq_none]
  refine (Rewrite.outcome_eq_none_iff.trans Rewrite.reply_eq_overflow_iff).trans ?_
  refine and_congr_right fun _ ↦ Rewrite.prepare_eq_overflow_iff.trans ?_
  simp only [Rewrite.openBody_eq_overflow_iff]
  constructor
  · rintro ⟨body, name, hbody, hname, hencoding, hlimit⟩
    exact ⟨hlimit, body, name, hbody, hname, hencoding⟩
  · rintro ⟨hlimit, body, name, hbody, hname, hencoding⟩
    exact ⟨body, name, hbody, hname, hencoding, hlimit⟩

theorem countP_outcomeKeys (call : Call) (endpoint : String) (outcome : Outcome) :
    call.outcomeKeys.countP (· = (endpoint, outcome)) =
      if decide (call.reply.outcome = some outcome) && call.countsAt endpoint then 1 else 0 := by
  unfold outcomeKeys countsAt
  cases call.counted <;> cases call.reply.outcome <;> simp [List.countP_singleton, and_comm]

theorem countP_stage_failureKeys (call : Call) (endpoint stage : String) :
    call.failureKeys.countP (· = (endpoint, stage)) =
      if decide (call.stage? = some stage) && call.countsAt endpoint then 1 else 0 := by
  unfold failureKeys countsAt
  cases call.counted <;> cases call.stage? <;> simp [List.countP_singleton, and_comm]

/-- The failures count a call once, whatever the stage is. -/
theorem countP_failureKeys (call : Call) (endpoint : String) :
    (call.failureKeys.countP fun key ↦ key.1 = endpoint) =
      if call.stage?.isSome && call.countsAt endpoint then 1 else 0 := by
  unfold failureKeys countsAt
  cases call.counted <;> cases call.stage? <;> simp [List.countP_singleton]

end Call

namespace Counters

/-! ## One call and many -/

/-- What has become of an answer is counted once with the outcomes, and a failure once more. -/
theorem record_eq (counters : Counters) (endpoint : String) (reply : Reply) :
    counters.record endpoint reply =
      { outcomes :=
          match reply.outcome with
          | some outcome => countOne (endpoint, outcome) counters.outcomes
          | none => counters.outcomes
        failures :=
          match reply.result with
          | .error (.givenUp error) => countOne (endpoint, error.stage) counters.failures
          | .error .overflow => counters.failures
          | .ok _ => counters.failures } := by
  unfold record
  rcases reply.result with (error | _) | out <;> cases reply.outcome <;> rfl

/-- What a call leaves is counted on top of what was there. -/
theorem serve_eq (counters : Counters) (call : Call) :
    counters.serve call =
      (call.reply,
        { outcomes := countAll counters.outcomes call.outcomeKeys
          failures := countAll counters.failures call.failureKeys }) := by
  have hserve : counters.serve call =
      (call.reply,
        if call.counted then counters.record call.endpoint call.reply else counters) := rfl
  unfold Call.outcomeKeys Call.failureKeys Call.stage?
  rw [hserve, record_eq]
  cases call.counted with
  | false => rfl
  | true => rcases call.reply.result with (error | _) | out <;> cases call.reply.outcome <;> rfl

/-- What calls leave is counted on top of what was there, and no call takes notice of it. -/
theorem serveAll_eq (counters : Counters) (calls : List Call) :
    counters.serveAll calls =
      (calls.map Call.reply, ⟨countAll counters.outcomes (calls.flatMap Call.outcomeKeys),
        countAll counters.failures (calls.flatMap Call.failureKeys)⟩) := by
  induction calls generalizing counters with
  | nil => rfl
  | cons call calls ih =>
    simp only [serveAll, serve_eq, ih, List.map_cons, List.flatMap_cons, countAll_append]

/-! ## A session from its start -/

/-- The counters after calls, if nothing had been counted before. -/
def after (calls : List Call) : Counters :=
  (zero.serveAll calls).2

theorem after_outcomes (calls : List Call) :
    (after calls).outcomes = tally (calls.flatMap Call.outcomeKeys) := by
  rw [after, serveAll_eq]
  rfl

theorem after_failures (calls : List Call) :
    (after calls).failures = tally (calls.flatMap Call.failureKeys) := by
  rw [after, serveAll_eq]
  rfl

/-- The calls that are counted for an endpoint. -/
def callsAt (endpoint : String) (calls : List Call) : List Call :=
  calls.filter fun call ↦ call.countsAt endpoint

/-- If all hooks have counters attached, every call is counted for its endpoint. -/
theorem callsAt_of_counted {calls : List Call} (h : ∀ call ∈ calls, call.counted = true)
    (endpoint : String) :
    callsAt endpoint calls = calls.filter fun call ↦ call.endpoint = endpoint := by
  refine List.filter_congr fun call hcall ↦ ?_
  rw [Call.countsAt, h call hcall, Bool.true_and]

/-- If an element stands for one key in question or for none, the keys in question are as many as
the elements that stand for one. -/
theorem countP_flatMap {α β : Type} {f : α → List β} {p : β → Bool} {q : α → Bool}
    (h : ∀ a, (f a).countP p = if q a then 1 else 0) (l : List α) :
    (l.flatMap f).countP p = l.countP q := by
  induction l with
  | nil => rfl
  | cons a l ih => rw [List.flatMap_cons, List.countP_append, h, ih, List.countP_cons, Nat.add_comm]

theorem countOf_after_outcomes (calls : List Call) (endpoint : String) (outcome : Outcome) :
    countOf (endpoint, outcome) (after calls).outcomes =
      (callsAt endpoint calls).countP fun call ↦ call.reply.outcome = some outcome := by
  rw [after_outcomes, countOf_tally, callsAt, List.countP_filter]
  exact countP_flatMap (fun call ↦ call.countP_outcomeKeys endpoint outcome) calls

theorem countOf_after_failures (calls : List Call) (endpoint stage : String) :
    countOf (endpoint, stage) (after calls).failures =
      (callsAt endpoint calls).countP fun call ↦ call.stage? = some stage := by
  rw [after_failures, countOf_tally, callsAt, List.countP_filter]
  exact countP_flatMap (fun call ↦ call.countP_stage_failureKeys endpoint stage) calls

theorem total_after_failures (calls : List Call) (endpoint : String) :
    total (fun key ↦ key.1 = endpoint) (after calls).failures =
      (callsAt endpoint calls).countP fun call ↦ call.stage?.isSome := by
  rw [after_failures, total_tally, callsAt, List.countP_filter]
  exact countP_flatMap (fun call ↦ call.countP_failureKeys endpoint) calls

/-- Every call that is not aborted has one of the three outcomes. -/
theorem countP_outcomes (calls : List Call) :
    (calls.countP fun call ↦ call.reply.outcome = some .passedThrough) +
      (calls.countP fun call ↦ call.reply.outcome = some .rewritten) +
      (calls.countP fun call ↦ call.reply.outcome = some .failed) = calls.countP Call.returns := by
  induction calls with
  | nil => rfl
  | cons call calls ih =>
    simp only [List.countP_cons, decide_eq_true_eq, Call.returns]
    rcases call.reply.outcome.eq_none_or_eq_some with hnone | ⟨outcome, hsome⟩
    · simpa [hnone] using ih
    · cases outcome <;> simp [hsome] <;> omega

/-- What the counters say about an endpoint is what has become of its calls. -/
structure Account (counters : Counters) (endpoint : String) (calls : List Call) : Prop where
  /-- The outcomes are as many as the calls that are not aborted. -/
  complete : countOf (endpoint, .passedThrough) counters.outcomes +
    countOf (endpoint, .rewritten) counters.outcomes +
    countOf (endpoint, .failed) counters.outcomes = calls.countP Call.returns
  /-- What passes through is what reports anything but success. -/
  passedThrough : countOf (endpoint, .passedThrough) counters.outcomes =
    calls.countP fun call ↦ call.response.status ≠ okStatus
  /-- The failures are those of all stages. -/
  failed : countOf (endpoint, .failed) counters.outcomes =
    total (fun key ↦ key.1 = endpoint) counters.failures
  /-- The failures of a stage are the calls that are given up there. -/
  stage : ∀ stage, countOf (endpoint, stage) counters.failures =
    calls.countP fun call ↦ call.stage? = some stage

/-- The counters account for the calls of every endpoint. -/
theorem account_after (calls : List Call) (endpoint : String) :
    (after calls).Account endpoint (callsAt endpoint calls) where
  complete := by
    rw [countOf_after_outcomes, countOf_after_outcomes, countOf_after_outcomes]
    exact countP_outcomes _
  passedThrough := by
    rw [countOf_after_outcomes]
    refine List.countP_congr fun call _ ↦ ?_
    rw [decide_eq_true_eq, decide_eq_true_eq]
    exact Rewrite.outcome_eq_passedThrough_iff
  failed := by
    rw [countOf_after_outcomes, total_after_failures]
    refine List.countP_congr fun call _ ↦ ?_
    rw [decide_eq_true_eq]
    exact call.failed_iff
  stage stage := countOf_after_failures calls endpoint stage

/-- Under limits that have numbers above them no call is aborted. -/
theorem countP_returns_callsAt {calls : List Call}
    (h : ∀ call ∈ calls, call.hook.limit + 1 < UInt64.size) (endpoint : String) :
    (callsAt endpoint calls).countP Call.returns = (callsAt endpoint calls).length := by
  refine List.countP_eq_length.mpr fun call hcall ↦ Bool.eq_true_of_not_eq_false fun haborted ↦ ?_
  obtain ⟨-, hlimit, -⟩ := call.returns_eq_false_iff.mp haborted
  exact Nat.not_lt.mpr hlimit (h call (List.mem_of_mem_filter hcall))

/-- Calls in another order leave the same entries. -/
theorem perm_after {calls others : List Call} (h : calls.Perm others) :
    (after calls).outcomes.Perm (after others).outcomes ∧
      (after calls).failures.Perm (after others).failures := by
  rw [after_outcomes, after_outcomes, after_failures, after_failures]
  exact ⟨perm_tally (h.flatMap_right _), perm_tally (h.flatMap_right _)⟩

/-- **The counters account for every call that is not aborted, in whatever order, and no call
depends on them.**  A call is aborted exactly if a packed body arrives under a limit with no number
above it; under all other limits the outcomes are as many as the calls. -/
theorem after_exact (calls : List Call) :
    (∀ endpoint, (after calls).Account endpoint (callsAt endpoint calls)) ∧
    ((∀ call ∈ calls, call.hook.limit + 1 < UInt64.size) →
      ∀ endpoint, (callsAt endpoint calls).countP Call.returns = (callsAt endpoint calls).length) ∧
    (∀ call ∈ calls, call.returns = false ↔ call.Overflows) ∧
    ((∀ call ∈ calls, call.counted = true) →
      ∀ endpoint, callsAt endpoint calls = calls.filter fun call ↦ call.endpoint = endpoint) ∧
    (IsTally (after calls).outcomes ∧ IsTally (after calls).failures) ∧
    (∀ others, calls.Perm others →
      ((after calls).outcomes.Perm (after others).outcomes ∧
        (after calls).failures.Perm (after others).failures) ∧
      (after calls).sortedLines = (after others).sortedLines) ∧
    ∀ counters : Counters, (counters.serveAll calls).1 = calls.map Call.reply := by
  refine ⟨account_after calls, countP_returns_callsAt, fun call _ ↦ call.returns_eq_false_iff,
    callsAt_of_counted, ⟨?_, ?_⟩, fun others h ↦ ?_, fun counters ↦ ?_⟩
  · exact after_outcomes calls ▸ isTally_tally _
  · exact after_failures calls ▸ isTally_tally _
  · obtain ⟨houtcomes, hfailures⟩ := perm_after h
    exact ⟨⟨houtcomes, hfailures⟩, sortedLines_eq houtcomes hfailures⟩
  · rw [serveAll_eq]

/-- The hooks of a deployment with counters. -/
def countedRoutes : Routes where
  settings := Rewrite.partialSettings
  counted := true

/-- An answer that is no success, one that is rewritten, and one that breaks off. -/
def threeCalls : List Call :=
  [countedRoutes.call .rules Rewrite.requestOfA
      { Rewrite.listingAnswer Rewrite.sharedByBoth with status := 404 },
    countedRoutes.call .rules Rewrite.requestOfA (Rewrite.listingAnswer Rewrite.sharedByBoth),
    countedRoutes.call .alerts Rewrite.alertRequestOfA
      { Rewrite.alertsAnswer with body := [.failure (.other "connection reset")] }]

/-- A packed answer under the greatest limit. -/
def abortedCall : Call :=
  { countedRoutes with limit := UInt64.size - 1 }.call .alerts
    Rewrite.Attempt.greatestLimit.request Rewrite.Attempt.greatestLimit.response

theorem overflows_abortedCall : abortedCall.Overflows := by
  obtain ⟨name, hname, hencoding⟩ :=
    Rewrite.encoding_of_claims Rewrite.Attempt.claims_greatestLimit
  exact ⟨rfl, by decide, _, name,
    Rewrite.Attempt.readBody_of_arrives (Rewrite.Attempt.holds_greatestLimit .arrives), hname,
    hencoding⟩

/-- The three calls are all counted, and alike from the first to the last and from the last to the
first.  A call that is aborted is found under no outcome. -/
theorem after_exact_threeCalls :
    (∀ call ∈ threeCalls, call.counted = true) ∧
    callsAt "alerts" threeCalls = threeCalls.filter (fun call ↦ call.endpoint = "alerts") ∧
    (callsAt "rules" threeCalls).countP Call.returns = 2 ∧
    countOf ("rules", .passedThrough) (after threeCalls).outcomes = 1 ∧
    countOf ("alerts", "body") (after threeCalls).failures = 1 ∧
    threeCalls.Perm threeCalls.reverse ∧
    (after threeCalls).sortedLines = (after threeCalls.reverse).sortedLines ∧
    countOf ("alerts", .passedThrough) (after [abortedCall]).outcomes +
      countOf ("alerts", .rewritten) (after [abortedCall]).outcomes +
      countOf ("alerts", .failed) (after [abortedCall]).outcomes = 0 := by
  have hcounted : ∀ call ∈ threeCalls, call.counted = true := by
    simp [threeCalls, Routes.call, countedRoutes]
  have hlimit : ∀ call ∈ threeCalls, call.hook.limit + 1 < UInt64.size := by
    simp [threeCalls, Routes.call, countedRoutes, Rewrite.Hook.ofListings, Rewrite.defaultLimit,
      UInt64.size]
  have hperm : threeCalls.Perm threeCalls.reverse := threeCalls.reverse_perm.symm
  obtain ⟨haccount, hreturns, -, hcalls, -, horder, -⟩ := after_exact threeCalls
  obtain ⟨habortedAccount, -, haborted, -⟩ := after_exact [abortedCall]
  have hnone : abortedCall.returns = false :=
    (haborted _ (List.mem_singleton_self _)).mpr overflows_abortedCall
  have hcount : (callsAt "alerts" [abortedCall]).countP Call.returns = 0 := by
    refine List.countP_eq_zero.mpr fun call hcall ↦ ?_
    rw [List.mem_singleton.mp (List.mem_of_mem_filter hcall), hnone]
    decide
  exact ⟨hcounted, hcalls hcounted "alerts", (hreturns hlimit "rules").trans rfl,
    (haccount "rules").passedThrough.trans rfl, ((haccount "alerts").stage "body").trans rfl, hperm,
    (horder _ hperm).2, (habortedAccount "alerts").complete.trans hcount⟩

end Counters

end TenantView
