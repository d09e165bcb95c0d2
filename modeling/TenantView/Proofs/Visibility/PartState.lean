import TenantView.Proofs.Visibility.Absorption
import TenantView.Proofs.Visibility.Exactness

/-!
# The state of a part of a rule

The state of a part is carried from one visible alert to the next.  In closed form it depends on the
states of these alerts that are not empty: the first of them counts, unless it is pending and a
firing one stands behind it (`foldl_nextState_eq`).  So the state of a rule itself and its hidden
alerts play no part, and if all visible alerts are pending or firing, neither does their order
(`visiblePart?_state`).
-/

namespace TenantView

/-! ## The closed form -/

/-- The state on which states settle that are not empty. -/
def settledState : List String → String
  | [] => ""
  | first :: later => if first = pendingState ∧ firingState ∈ later then firingState else first

/-- A state that is neither empty nor pending stays, whatever alerts follow. -/
theorem foldl_nextState_of_ne {state : String} (hempty : state ≠ "")
    (hpending : state ≠ pendingState) (states : List String) :
    states.foldl nextState state = state := by
  induction states with
  | nil => rfl
  | cons next states ih =>
    have hkept : nextState state next = state := by
      rw [nextState, if_neg hempty, if_neg fun h ↦ hpending h.1]
    rw [List.foldl_cons, hkept, ih]

/-- A pending state stays until a firing alert follows. -/
theorem foldl_nextState_pending (states : List String) :
    states.foldl nextState pendingState =
      if firingState ∈ states then firingState else pendingState := by
  induction states with
  | nil => rfl
  | cons next states ih =>
    rw [List.foldl_cons]
    by_cases hfiring : next = firingState
    · have hraised : nextState pendingState next = firingState := by
        subst hfiring
        decide
      rw [hraised, foldl_nextState_of_ne (by decide) (by decide), if_pos]
      exact hfiring ▸ List.mem_cons_self
    · have hkept : nextState pendingState next = pendingState := by
        rw [nextState, if_neg (by decide), if_neg fun h ↦ hfiring h.2]
      have hmem : firingState ∈ next :: states ↔ firingState ∈ states := by
        rw [List.mem_cons, or_iff_right (Ne.symm hfiring)]
      rw [hkept, ih]
      simp only [hmem]

/-- The first state that is not empty settles what comes of the states behind it. -/
theorem foldl_nextState_cons {state : String} (h : state ≠ "") (states : List String) :
    states.foldl nextState state = settledState (state :: states) := by
  by_cases hpending : state = pendingState
  · subst hpending
    rw [foldl_nextState_pending, settledState]
    simp only [true_and]
  · rw [foldl_nextState_of_ne h hpending, settledState, if_neg fun h ↦ hpending h.1]

/-- Carried along from nothing, the state is the one on which the states settle that are not
empty. -/
theorem foldl_nextState_eq (states : List String) :
    states.foldl nextState "" = settledState (states.filter (· ≠ "")) := by
  induction states with
  | nil => rfl
  | cons state states ih =>
    have htaken : nextState "" state = state := if_pos rfl
    rw [List.foldl_cons, htaken]
    by_cases hempty : state = ""
    · subst hempty
      rw [ih, List.filter_cons_of_neg (by decide)]
    · have hfiring : firingState ∈ states.filter (· ≠ "") ↔ firingState ∈ states := by
        rw [List.mem_filter, and_iff_left (by decide)]
      rw [foldl_nextState_cons hempty, List.filter_cons_of_pos (by simpa using hempty)]
      simp only [settledState, hfiring]

example : settledState ["unknown", "pending", "firing"] = "unknown" ∧
    settledState ["pending", "unknown", "firing"] = "firing" := by
  decide

/-- The state is one of those that an alert has that is not at rest. -/
def IsRaised (state : String) : Prop :=
  state = pendingState ∨ state = firingState

instance (state : String) : Decidable (IsRaised state) :=
  inferInstanceAs (Decidable (_ ∨ _))

/-- States that are pending or firing settle on firing as soon as one of them is, in whatever
order. -/
theorem settledState_of_isRaised {states : List String} (hne : states ≠ [])
    (h : ∀ state ∈ states, IsRaised state) :
    settledState states = if firingState ∈ states then firingState else pendingState := by
  cases states with
  | nil => exact absurd rfl hne
  | cons first later =>
    rcases h first List.mem_cons_self with rfl | rfl
    · have hmem : firingState ∈ pendingState :: later ↔ firingState ∈ later := by
        rw [List.mem_cons, or_iff_right (by decide)]
      simp only [settledState, hmem, true_and]
    · rw [settledState, if_neg fun h ↦ absurd h.1 (by decide), if_pos List.mem_cons_self]

/-! ## Parts of rules -/

namespace Enforcement

variable (e : Enforcement)

/-- The states of the alerts of a rule that may be seen, in their order, without the empty ones. -/
def shownStates (rule : AlertingRule) : List String :=
  ((e.visibleAlerts rule.alerts).map Alert.state).filter (· ≠ "")

variable {e} {rule part : AlertingRule}

theorem state_of_visiblePart? (h : e.visiblePart? rule = some part) :
    part.state = settledState (e.shownStates rule) := by
  obtain ⟨-, halerts, hstate, -⟩ := e.of_visiblePart?_eq_some h
  rw [hstate, partState, foldl_nextState_eq, halerts, shownStates]

/-- A rule with an alert that may be seen has a visible part. -/
theorem exists_visiblePart? (h : ∃ alert ∈ rule.alerts, e.allows alert.labels = true) :
    ∃ part, e.visiblePart? rule = some part := by
  refine Option.ne_none_iff_exists'.mp fun hnone ↦ ?_
  obtain ⟨alert, hmem, hallowed⟩ := h
  exact Bool.eq_false_iff.mp (e.visiblePart?_eq_none_iff.mp hnone alert hmem) hallowed

/-- Of alerts that are pending or firing none is without a state. -/
theorem shownStates_of_isRaised (h : ∀ alert ∈ e.visibleAlerts rule.alerts, IsRaised alert.state) :
    e.shownStates rule = (e.visibleAlerts rule.alerts).map Alert.state := by
  refine List.filter_eq_self.mpr fun state hstate ↦ ?_
  obtain ⟨alert, halert, rfl⟩ := List.mem_map.mp hstate
  rcases h alert halert with heq | heq <;> rw [heq] <;> decide

/-- A part of alerts that are pending or firing is firing as soon as one of them is. -/
theorem state_of_isRaised (hpart : e.visiblePart? rule = some part)
    (h : ∀ alert ∈ e.visibleAlerts rule.alerts, IsRaised alert.state) :
    part.state =
      if ∃ alert ∈ e.visibleAlerts rule.alerts, alert.state = firingState then firingState
      else pendingState := by
  obtain ⟨-, halerts, -, hne⟩ := e.of_visiblePart?_eq_some hpart
  rw [halerts] at hne
  have hstates : ∀ state ∈ (e.visibleAlerts rule.alerts).map Alert.state, IsRaised state :=
    List.forall_mem_map.mpr h
  rw [state_of_visiblePart? hpart, shownStates_of_isRaised h,
    settledState_of_isRaised (by simpa using hne) hstates]
  simp only [List.mem_map]

theorem state_eq_firing_iff (hpart : e.visiblePart? rule = some part)
    (h : ∀ alert ∈ e.visibleAlerts rule.alerts, IsRaised alert.state) :
    part.state = firingState ↔
      ∃ alert ∈ e.visibleAlerts rule.alerts, alert.state = firingState := by
  rw [state_of_isRaised hpart h]
  split
  · next hsome => exact iff_of_true rfl hsome
  · next hnone => exact iff_of_false (by decide) hnone

/-- The order of alerts that are pending or firing is of no matter. -/
theorem state_eq_of_perm {other otherPart : AlertingRule} (hpart : e.visiblePart? rule = some part)
    (hother : e.visiblePart? other = some otherPart)
    (hperm : (e.visibleAlerts other.alerts).Perm (e.visibleAlerts rule.alerts))
    (h : ∀ alert ∈ e.visibleAlerts rule.alerts, IsRaised alert.state) :
    otherPart.state = part.state := by
  have h' : ∀ alert ∈ e.visibleAlerts other.alerts, IsRaised alert.state :=
    fun alert halert ↦ h alert (hperm.mem_iff.mp halert)
  rw [state_of_isRaised hpart h, state_of_isRaised hother h']
  simp only [hperm.mem_iff]

/-- **The state of a part in closed form.**  It settles on the states of the visible alerts and on
nothing else of the rule.  If all of these are pending or firing, the part is firing exactly if one
of them is, in whatever order they stand. -/
theorem visiblePart?_state (e : Enforcement) (rule : AlertingRule)
    (h : ∃ alert ∈ rule.alerts, e.allows alert.labels = true) :
    ∃ part, e.visiblePart? rule = some part ∧
      part.state = settledState (e.shownStates rule) ∧
      (∀ (state : String) (alerts : List Alert),
        e.visibleAlerts alerts = e.visibleAlerts rule.alerts →
          e.visiblePart? { rule with state, alerts } = some part) ∧
      ((∀ alert ∈ rule.alerts, e.allows alert.labels = true → IsRaised alert.state) →
        (part.state = firingState ↔
          ∃ alert ∈ rule.alerts, e.allows alert.labels = true ∧ alert.state = firingState) ∧
        ∀ other otherPart : AlertingRule, e.visiblePart? other = some otherPart →
          (e.visibleAlerts other.alerts).Perm (e.visibleAlerts rule.alerts) →
            otherPart.state = part.state) := by
  obtain ⟨part, hpart⟩ := exists_visiblePart? h
  refine ⟨part, hpart, state_of_visiblePart? hpart, fun state alerts halerts ↦ ?_, fun hraised ↦ ?_⟩
  · rw [e.visiblePart?_eq_of_alerts rule state halerts, hpart]
  · have hvisible : ∀ alert ∈ e.visibleAlerts rule.alerts, IsRaised alert.state := by
      intro alert halert
      obtain ⟨hmem, hallowed⟩ := List.mem_filter.mp halert
      exact hraised alert hmem hallowed
    refine ⟨?_, fun other otherPart hother hperm ↦ state_eq_of_perm hpart hother hperm hvisible⟩
    rw [state_eq_firing_iff hpart hvisible]
    simp only [visibleAlerts, List.mem_filter, and_assoc]

end Enforcement

/-- What is enforced for tenant `a`. -/
def enforcedForA : Enforcement where
  label := "tenant"
  matcher := .exact ["a"]

/-- An alert of a tenant in a state. -/
def alertIn (tenant state : String) : Alert where
  labels := .ofList [("tenant", tenant)]
  annotations := .empty
  state
  activeAt := none
  keepFiringSince := none
  value := "1"

/-- A rule of no tenant that has alerts. -/
def ruleWith (alerts : List Alert) : AlertingRule where
  state := "inactive"
  name := "HighLoad"
  query := "load > 1"
  duration := .zero
  keepFiringFor := .zero
  labels := .empty
  annotations := .empty
  alerts
  health := "ok"
  lastError := ""
  evaluationTime := .zero
  lastEvaluation := ⟨⟨1970, 1, 1, 0, 0, 0, 0, 0⟩, by decide, by decide, by decide, by decide⟩

/-- Alerts of two tenants in turn. -/
def interleaved : List Alert :=
  [alertIn "b" "firing", alertIn "a" "pending", alertIn "b" "pending", alertIn "a" "firing"]

/-- Tenant `a` gets a part that is firing, whichever of its alerts stands first.  Without its firing
alert the part is pending, though an alert of tenant `b` is firing. -/
theorem Enforcement.visiblePart?_state_interleaved :
    (∃ part, enforcedForA.visiblePart? (ruleWith interleaved) = some part ∧
      part.state = firingState ∧
      ∀ other otherPart : AlertingRule, enforcedForA.visiblePart? other = some otherPart →
        (enforcedForA.visibleAlerts other.alerts).Perm (enforcedForA.visibleAlerts interleaved) →
          otherPart.state = firingState) ∧
    ∃ part, enforcedForA.visiblePart? (ruleWith (interleaved.take 3)) = some part ∧
      part.state = pendingState := by
  constructor
  · obtain ⟨part, hpart, hstate, -, hraised⟩ :=
      Enforcement.visiblePart?_state enforcedForA (ruleWith interleaved) (by decide +kernel)
    have hfiring : part.state = firingState := by
      rw [hstate]
      decide +kernel
    exact ⟨part, hpart, hfiring, fun other otherPart hother hperm ↦
      ((hraised (by decide +kernel)).2 other otherPart hother hperm).trans hfiring⟩
  · obtain ⟨part, hpart, hstate, -⟩ :=
      Enforcement.visiblePart?_state enforcedForA (ruleWith (interleaved.take 3))
        (by decide +kernel)
    refine ⟨part, hpart, ?_⟩
    rw [hstate]
    decide +kernel

end TenantView
