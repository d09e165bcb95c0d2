import TenantView.Proofs.Matcher.Union
import TenantView.Proofs.Rewrite.Faithfulness
import TenantView.Proofs.Visibility.Walk

/-!
# The values of a tenant are a set

In the exact mode and in the glob mode a matcher is the union of its values.  A filter depends on
what its matcher accepts, and a hook on what it filters, so that two lists with the same values get
the same answers to everything (`reply_of_same_values`): the values are used as a set
(`union_of_values`).
-/

namespace TenantView

/-! ## Filters that allow the same -/

namespace Enforcement

variable {e e' : Enforcement}

theorem visibleAlerts_eq_visibleAlerts (h : e.allows = e'.allows) :
    e.visibleAlerts = e'.visibleAlerts := by
  funext alerts
  rw [visibleAlerts, visibleAlerts, h]

theorem visibleRule?_eq_visibleRule? (h : e.allows = e'.allows) (inPart : Bool) :
    e.visibleRule? inPart = e'.visibleRule? inPart := by
  have hpart : e.visiblePart? = e'.visiblePart? := by
    funext rule
    simp only [visiblePart?_eq, visibleAlerts_eq_visibleAlerts h]
  funext rule
  simp only [visibleRule?, h, hpart]

theorem visibleGroup?_eq_visibleGroup? (h : e.allows = e'.allows) (inPart : Bool) :
    e.visibleGroup? inPart = e'.visibleGroup? inPart := by
  funext group
  simp only [visibleGroup?, visibleRule?_eq_visibleRule? h]

theorem walk_eq_walk (h : e.allows = e'.allows) (inPart : Bool) :
    e.walk inPart = e'.walk inPart := by
  funext groups
  rw [walk, walk, visibleGroup?_eq_visibleGroup? h]

theorem filterAlerts_eq_filterAlerts (h : e.allows = e'.allows) :
    e.filterAlerts = e'.filterAlerts := by
  funext listing
  rw [filterAlerts, filterAlerts, visibleAlerts_eq_visibleAlerts h]

theorem allows_eq_allows (label : String) {matcher other : Matcher}
    (h : matcher.accepts = other.accepts) :
    allows ⟨label, matcher⟩ = allows ⟨label, other⟩ := by
  funext labels
  simp only [allows, h]

end Enforcement

/-! ## Answers to lists with the same values -/

namespace Rewrite

open Document (Codec)
open Matcher (Builds)

variable {settings : Settings} {values others : List String}

/-- What is transformed for a tenant depends on what its matcher accepts. -/
theorem transform_eq_transform {matcher other : Matcher} (kind : ListingKind)
    (hmatcher : Matcher.ofValues settings.mode values = .ok matcher)
    (hother : Matcher.ofValues settings.mode others = .ok other)
    (h : matcher.accepts = other.accepts) :
    transform settings kind values = transform settings kind others := by
  have hallows := Enforcement.allows_eq_allows settings.label h
  funext envelope
  rw [transform.eq_def, transform.eq_def, enforcement_eq hmatcher, enforcement_eq hother]
  cases kind with
  | rules =>
    refine congrArg (payload Codec.ruleListing .rules envelope.data >>= ·) (funext fun listing ↦ ?_)
    have hvisible : visibleRules settings ⟨settings.label, matcher⟩ listing =
        visibleRules settings ⟨settings.label, other⟩ listing := by
      rw [visibleRules, visibleRules, Enforcement.walk_eq_walk hallows]
      rfl
    rw [ok_bind, ok_bind, hvisible]
  | alerts =>
    refine congrArg (payload Codec.alertListing .alerts envelope.data >>= ·)
      (funext fun listing ↦ ?_)
    have hvisible : visibleAlerts ⟨settings.label, matcher⟩ listing =
        visibleAlerts ⟨settings.label, other⟩ listing := by
      rw [visibleAlerts, visibleAlerts, Enforcement.filterAlerts_eq_filterAlerts hallows]
      rfl
    rw [ok_bind, ok_bind, hvisible]

/-- If the values make no matcher, nothing is transformed. -/
theorem builds_of_transform {kind : ListingKind} {envelope : Envelope} {data : Logged Json.Value}
    (h : transform settings kind values envelope = .ok data) : Builds settings.mode values := by
  cases kind with
  | rules =>
    obtain ⟨-, matcher, -, hmatcher, -⟩ := transform_rules_eq_ok h
    exact ⟨matcher, hmatcher⟩
  | alerts =>
    obtain ⟨-, matcher, -, hmatcher, -⟩ := transform_alerts_eq_ok h
    exact ⟨matcher, hmatcher⟩

section Replies

variable {limit : Nat} {kind : ListingKind} {request request' : Request}

/-- Values that are transformed alike get the same reply. -/
theorem reply_eq_reply (hvalues : request.context.values? = some values)
    (hothers : request'.context.values? = some others)
    (h : transform settings kind values = transform settings kind others) (response : Response) :
    (Hook.ofListings settings limit kind).reply request response =
      (Hook.ofListings settings limit kind).reply request' response := by
  have hprepare : (Hook.ofListings settings limit kind).prepare request response =
      (Hook.ofListings settings limit kind).prepare request' response := by
    simp only [Hook.prepare, Hook.ofListings, Context.values, hvalues, hothers, Except.mapError,
      ok_bind, h]
  rw [Hook.reply, Hook.reply, Hook.rewrite, Hook.rewrite, hprepare]

/-- Without a matcher only an answer that passes through untouched is sent. -/
theorem reply_eq_ok_iff_of_not_builds (hvalues : request.context.values? = some values)
    (h : ¬ Builds settings.mode values) (response out : Response) :
    ((Hook.ofListings settings limit kind).reply request response).result = .ok out ↔
      response.status ≠ okStatus ∧ response = out := by
  by_cases hok : response.status = okStatus
  · refine iff_of_false (fun hreply ↦ ?_) fun hpassed ↦ hpassed.1 hok
    obtain ⟨opened, values', data, -, hvalues', htransform, -⟩ := listing_reply_eq_ok hok hreply
    cases hvalues.symm.trans hvalues'
    exact h (builds_of_transform htransform)
  · rw [result_of_status_ne hok, Except.ok.injEq, and_iff_right hok]

/-- The outcome for an answer depends on whether one is sent. -/
theorem outcome_eq_outcome {hook : Hook} {response : Response}
    (h : ∀ out, (hook.reply request response).result = .ok out ↔
      (hook.reply request' response).result = .ok out) :
    (hook.reply request response).outcome = (hook.reply request' response).outcome := by
  rcases reply_cases hook request response with ⟨hstatus, houtcome, -⟩ |
    ⟨hstatus, houtcome, out, hresult⟩ | ⟨hstatus, houtcome, error, hresult⟩ |
    ⟨hstatus, houtcome, hresult⟩
  · rw [houtcome, outcome_eq_passedThrough_iff.mpr hstatus]
  · rw [houtcome, outcome_eq_rewritten_iff.mpr ⟨hstatus, out, (h out).mp hresult⟩]
  · rw [houtcome, eq_comm, outcome_eq_failed_iff]
    rcases hresult' : (hook.reply request' response).result with (error' | _) | out
    · exact ⟨error', rfl⟩
    · cases hresult.symm.trans (reply_eq_overflow_congr request hresult')
    · cases hresult.symm.trans ((h out).mpr hresult')
  · rw [houtcome, outcome_eq_none_iff.mpr (reply_eq_overflow_congr request' hresult)]

/-- Lists with the same values get the same answers. -/
theorem reply_of_same_values (hmode : settings.mode ≠ .regex)
    (hsame : ∀ v, v ∈ values ↔ v ∈ others) (hvalues : request.context.values? = some values)
    (hothers : request'.context.values? = some others) (response : Response) :
    let reply := (Hook.ofListings settings limit kind).reply request response
    let reply' := (Hook.ofListings settings limit kind).reply request' response
    (∀ out, reply.result = .ok out ↔ reply'.result = .ok out) ∧
    reply.outcome = reply'.outcome ∧
    (Builds settings.mode values → reply = reply') := by
  intro reply reply'
  have hequal : Builds settings.mode values → reply = reply' := by
    intro hbuilds
    obtain ⟨matcher, hmatcher⟩ := hbuilds
    obtain ⟨other, hother⟩ := (Matcher.builds_iff_builds hmode hsame).mp ⟨matcher, hmatcher⟩
    have haccepts := Matcher.accepts_eq_accepts hmode hsame hmatcher hother
    exact reply_eq_reply hvalues hothers
      (transform_eq_transform kind hmatcher hother haccepts) response
  -- Without a matcher the two may fail with different errors, but neither sends anything new.
  have hresult : ∀ out, reply.result = .ok out ↔ reply'.result = .ok out := by
    intro out
    by_cases hbuilds : Builds settings.mode values
    · rw [hequal hbuilds]
    · have hfails : ¬ Builds settings.mode others :=
        (Matcher.builds_iff_builds hmode hsame).not.mp hbuilds
      rw [reply_eq_ok_iff_of_not_builds hvalues hbuilds,
        reply_eq_ok_iff_of_not_builds hothers hfails]
  exact ⟨hresult, outcome_eq_outcome hresult, hequal⟩

end Replies

/-- **The values of the exact and of the glob mode are used as a set, and a matcher is the union of
its values.**  Only what is reported of patterns that are refused depends on their order. -/
theorem union_of_values {mode : MatchMode} (hmode : mode ≠ .regex) (values : List String) :
    (Builds mode values ↔ values ≠ [] ∧ ∀ v ∈ values, Builds mode [v]) ∧
    (∀ matcher, Matcher.ofValues mode values = .ok matcher → ∀ text,
      (matcher.accepts text = true ↔ ∃ v ∈ values, ∃ single,
        Matcher.ofValues mode [v] = .ok single ∧ single.accepts text = true)) ∧
    (mode = .glob → values ≠ [] → ∀ error, Matcher.ofValues mode values = .error error ↔
      ∃ before pattern after reason, values = before ++ pattern :: after ∧
        (∀ v ∈ before, Builds mode [v]) ∧ Glob.parse pattern = .error reason ∧
        error = .invalidGlob pattern reason) ∧
    (∀ others, (∀ v, v ∈ values ↔ v ∈ others) →
      (Builds mode values ↔ Builds mode others) ∧
      (∀ matcher other, Matcher.ofValues mode values = .ok matcher →
        Matcher.ofValues mode others = .ok other → matcher.accepts = other.accepts) ∧
      ∀ settings limit kind request request' response, settings.mode = mode →
        request.context.values? = some values → request'.context.values? = some others →
        let reply := (Hook.ofListings settings limit kind).reply request response
        let reply' := (Hook.ofListings settings limit kind).reply request' response
        (∀ out, reply.result = .ok out ↔ reply'.result = .ok out) ∧
        reply.outcome = reply'.outcome ∧ (Builds mode values → reply = reply')) ∧
    (∀ more, values ⊆ more → ∀ matcher wider, Matcher.ofValues mode values = .ok matcher →
      Matcher.ofValues mode more = .ok wider →
      ∀ text, matcher.accepts text = true → wider.accepts text = true) := by
  refine ⟨Matcher.builds_iff hmode, fun matcher ↦ Matcher.accepts_iff_exists hmode, ?_, ?_, ?_⟩
  · rintro rfl hne error
    exact Matcher.ofValues_glob_eq_error_iff hne
  · intro others hsame
    refine ⟨Matcher.builds_iff_builds hmode hsame,
      fun matcher other ↦ Matcher.accepts_eq_accepts hmode hsame, ?_⟩
    rintro settings limit kind request request' response rfl hvalues hothers
    exact reply_of_same_values hmode hsame hvalues hothers response
  · intro more hsubset matcher wider hmatcher hwider text
    exact Matcher.accepts_of_subset hmode hsubset hmatcher hwider

/-! ## Patterns in either order -/

/-- The settings of a server whose tenants are given patterns. -/
def patternSettings : Settings where
  label := "tenant"
  mode := .glob

/-- The request of a tenant with the given values. -/
def requestWith (values : List String) : Request where
  uri := "/api/v1/rules"
  context := { values? := some values }

/-- Two patterns in either order, one of them twice, show the same of a rule listing. -/
theorem union_of_values_patterns :
    let hook := Hook.ofListings patternSettings (lengthOf sharedByBoth) .rules
    ∃ matcher out,
      Matcher.ofValues .glob ["[b-d]*", "a"] = .ok matcher ∧ matcher.accepts "c3" = true ∧
      (hook.reply (requestWith ["[b-d]*", "a"]) (listingAnswer sharedByBoth)).result = .ok out ∧
      (hook.reply (requestWith ["a", "[b-d]*", "a"]) (listingAnswer sharedByBoth)).result =
        .ok out := by
  intro hook
  have hwritten := Codec.ruleListing_writesBack sharedByBoth
  have hmatcher : Matcher.ofValues .glob ["[b-d]*", "a"] =
      .ok (.glob [[.within [⟨'b', 'd'⟩], .anySequence], [.char 'a']]) := rfl
  have hfirst : Matcher.ofValues .glob ["[b-d]*"] =
      .ok (.glob [[.within [⟨'b', 'd'⟩], .anySequence]]) := rfl
  have hreply : (hook.reply (requestWith ["[b-d]*", "a"]) (listingAnswer sharedByBoth)).result =
      .ok _ :=
    reply_plainAnswer "/api/v1/rules" hmatcher (payload_encode hwritten .rules)
      hwritten.distinct (hwritten.depth_le.trans (by decide)) le_rfl
  have hglob : MatchMode.glob ≠ .regex := by decide
  obtain ⟨-, haccepts, -, hsame, -⟩ := union_of_values hglob ["[b-d]*", "a"]
  have hmember : "a" ∈ ["[b-d]*", "a"] := by decide
  have hothers (v : String) : v ∈ ["[b-d]*", "a"] ↔ v ∈ ["a", "[b-d]*", "a"] :=
    (or_iff_right_of_imp fun h ↦ h ▸ hmember).symm.trans List.mem_cons.symm
  refine ⟨_, _, hmatcher, (haccepts _ hmatcher "c3").mpr ?_, hreply, ?_⟩
  · exact ⟨_, List.mem_cons_self, _, hfirst, by decide +kernel⟩
  · obtain ⟨-, -, hanswers⟩ := hsame _ hothers
    obtain ⟨hresult, -⟩ := hanswers patternSettings (lengthOf sharedByBoth) .rules
      (requestWith ["[b-d]*", "a"]) (requestWith ["a", "[b-d]*", "a"])
      (listingAnswer sharedByBoth) rfl rfl rfl
    exact (hresult _).mp hreply

end Rewrite

end TenantView
