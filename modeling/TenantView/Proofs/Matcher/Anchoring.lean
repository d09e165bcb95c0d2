import TenantView.Matcher
import TenantView.Proofs.Regex.Wrapping

/-!
# Anchored patterns

A matcher of the regular mode is built from the pattern in a group between the conditions that the
value begins and ends there.  The group is written as text, so the pattern may reach beyond it: a
closing parenthesis without an opening one ends the group early, and a comment at the end hides
the parenthesis that should end it.  Every other pattern becomes a matcher if and only if it is a
regular expression by itself (`ofValues_regex`).
-/

namespace TenantView.Matcher

open Regex (State Deep closing)

/-- What stands before the group in an anchored pattern. -/
def anchorGroup : Regex.OpenGroup where
  branches := []
  parts := [{ value := .look .textStart, depth := 0 }]
  modes := {}

/-- The expression of whole values. -/
def anchoredRegex (regex : Deep Regex) : Deep Regex where
  value := .concat (.concat (.concat .empty (.look .textStart)) regex.value) (.look .textEnd)
  depth := regex.depth + 2

/-- Where the reading of a pattern stops inside the group around it. -/
def stopOf (pattern : String) : Option (State × List Char) :=
  Regex.stop pattern.toList {} pattern.toList

/-- Whether the pattern ends in a comment that takes in what is written behind it. -/
def endsInComment (pattern : String) : Bool :=
  match stopOf pattern with
  | some (state, cs) => (state.modes.skip cs).isEmpty && state.modes.opensComment cs
  | none => false

/-- Whether the pattern ends the group around it and goes on behind it, up to the closing signs. -/
def escapes (pattern : String) : Bool :=
  match stopOf pattern with
  | some (state, cs) =>
    match state.modes.skip cs with
    | _ :: rest => (Regex.readFrom (state.leave anchorGroup) (rest ++ closing)).isSome
    | [] => false
  | none => false

/-- In front of the pattern the group is opened. -/
theorem readFrom_anchor (cs : List Char) :
    Regex.readFrom {} ('^' :: '(' :: '?' :: ':' :: cs) =
      Regex.readFrom (({} : State).within anchorGroup) cs := by
  let anchor := ({} : State).pushRegex (.look .textStart)
  have hcaret : Regex.step {} '^' ('(' :: '?' :: ':' :: cs) =
      some (anchor, '(' :: '?' :: ':' :: cs) := rfl
  have hgroup : Regex.step anchor '(' ('?' :: ':' :: cs) =
      some (({} : State).within anchorGroup, cs) := rfl
  rw [Regex.readFrom_sign (c := '^') rfl, hcaret]
  change Regex.readFrom anchor ('(' :: '?' :: ':' :: cs) = _
  rw [Regex.readFrom_sign (c := '(') rfl, hgroup]
  rfl

/-- An anchored pattern is read inside its group first. -/
theorem read?_anchored (pattern : String) :
    Regex.read? (anchored pattern) =
      stopOf pattern >>= fun p ↦ Regex.resume anchorGroup p.1 p.2 := by
  have htext : (anchored pattern).toList =
      '^' :: '(' :: '?' :: ':' :: (pattern.toList ++ closing) := by
    rw [anchored, String.toList_append, String.toList_append]
    rfl
  rw [Regex.read?, htext, readFrom_anchor, stopOf]
  exact Regex.readFrom_within anchorGroup (Nat.le_refl _) {}

/-- Alone a pattern has to stop at its end. -/
theorem read?_eq_stopOf (pattern : String) :
    Regex.read? pattern =
      stopOf pattern >>= fun p ↦
        if (p.1.modes.skip p.2).isEmpty then p.1.finish? else none :=
  Regex.run_eq_stop (Nat.le_refl _) {}

/-- Behind the group stands the condition that the value ends. -/
theorem readFrom_leave (state : State) :
    Regex.readFrom (state.leave anchorGroup) ['$'] = some (anchoredRegex state.contents) := by
  rfl

theorem endsInComment_eq {pattern : String} {state : State} {cs : List Char}
    (h : stopOf pattern = some (state, cs)) :
    endsInComment pattern =
      ((state.modes.skip cs).isEmpty && state.modes.opensComment cs) := by
  rw [endsInComment, h]

/-- A pattern that is a regular expression by itself, and does not end in a comment, is one of
whole values in its group. -/
theorem read?_anchored_of_read? {pattern : String} {regex : Deep Regex}
    (h : Regex.read? pattern = some regex) (hcomment : endsInComment pattern = false) :
    Regex.read? (anchored pattern) = some (anchoredRegex regex) := by
  rw [read?_eq_stopOf] at h
  obtain ⟨⟨state, cs⟩, hstop, h⟩ := Regex.bind_eq_some h
  simp only at h
  split at h
  · next hend =>
    rw [endsInComment_eq hstop, hend, Bool.true_and] at hcomment
    rw [State.finish?] at h
    split at h
    · next hgroups =>
      cases h
      rw [read?_anchored, hstop]
      change Regex.resume anchorGroup state cs = _
      rw [Regex.resume, List.isEmpty_iff.mp hend, hgroups, hcomment]
      exact readFrom_leave state
    · cases h
  · cases h

/-- A pattern that goes on behind its group stops in front of its end. -/
theorem escapes_eq_true {pattern : String} (h : escapes pattern = true) :
    ∃ state cs c rest, stopOf pattern = some (state, cs) ∧ state.modes.skip cs = c :: rest ∧
      (Regex.readFrom (state.leave anchorGroup) (rest ++ closing)).isSome := by
  rw [escapes] at h
  split at h
  · next state cs hstop =>
    split at h
    · next c rest hsign => exact ⟨state, cs, c, rest, hstop, hsign, h⟩
    · cases h
  · cases h

/-- A pattern that goes on behind its group is no regular expression by itself. -/
theorem read?_of_escapes {pattern : String} (h : escapes pattern = true) :
    Regex.read? pattern = none := by
  obtain ⟨state, cs, c, rest, hstop, hsign, -⟩ := escapes_eq_true h
  rw [read?_eq_stopOf, hstop]
  change (if (state.modes.skip cs).isEmpty then state.finish? else none) = none
  rw [hsign]
  rfl

/-- The exact condition under which an anchored pattern has an expression. -/
theorem read?_anchored_isSome (pattern : String) :
    (Regex.read? (anchored pattern)).isSome ↔
      ((Regex.read? pattern).isSome ∧ endsInComment pattern = false) ∨
        escapes pattern = true := by
  constructor
  · intro h
    rw [read?_anchored] at h
    obtain ⟨whole, hwhole⟩ := Option.isSome_iff_exists.mp h
    obtain ⟨⟨state, cs⟩, hstop, hwhole⟩ := Regex.bind_eq_some hwhole
    cases hsign : state.modes.skip cs with
    | nil =>
      left
      rw [Regex.resume, hsign] at hwhole
      simp only at hwhole
      split at hwhole
      · next hclosed =>
        rw [Bool.and_eq_true, Bool.not_eq_true'] at hclosed
        rw [read?_eq_stopOf, hstop, endsInComment_eq hstop, hclosed.2, Bool.and_false]
        change (if (state.modes.skip cs).isEmpty then state.finish? else none).isSome ∧ _
        rw [hsign, State.finish?, hclosed.1]
        exact ⟨rfl, rfl⟩
      · cases hwhole
    | cons c rest =>
      right
      rw [Regex.resume, hsign] at hwhole
      rw [escapes, hstop]
      simp only [hsign]
      exact Option.isSome_iff_exists.mpr ⟨whole, hwhole⟩
  · rintro (⟨halone, hcomment⟩ | hescapes)
    · obtain ⟨regex, hregex⟩ := Option.isSome_iff_exists.mp halone
      rw [read?_anchored_of_read? hregex hcomment]
      rfl
    · obtain ⟨state, cs, c, rest, hstop, hsign, hrest⟩ := escapes_eq_true hescapes
      rw [read?_anchored, hstop]
      change (Regex.resume anchorGroup state cs).isSome
      rw [Regex.resume, hsign]
      exact hrest

/-- Within the limits a pattern has an expression if it can be read. -/
theorem parse?_isSome {pattern : String} (h : (Regex.read? pattern).all Regex.isWithinLimits) :
    (Regex.parse? pattern).isSome = (Regex.read? pattern).isSome := by
  rw [Regex.parse?]
  cases hread : Regex.read? pattern with
  | none => rfl
  | some regex =>
    rw [hread, Option.all_some] at h
    change (if Regex.isWithinLimits regex then some regex.value else none).isSome = _
    rw [if_pos h]
    rfl

/-- A pattern becomes a matcher if its anchored form is an expression. -/
theorem ofValues_regex_eq (pattern : String) :
    ofValues .regex [pattern] =
      match Regex.parse? (anchored pattern) with
      | some expression => .ok (.regex expression)
      | none => .error (.invalidRegex pattern) :=
  rfl

/-- **A pattern becomes a matcher exactly if it is a regular expression by itself that does not end
in a comment, or is none and goes on behind its group**; every other pattern is refused by name.
The limits on nesting and size are left out of account: they are kept by the pattern alone and by
the anchored one. -/
theorem ofValues_regex (pattern : String)
    (halone : (Regex.read? pattern).all Regex.isWithinLimits)
    (hwhole : (Regex.read? (anchored pattern)).all Regex.isWithinLimits) :
    ((∃ matcher, ofValues .regex [pattern] = .ok matcher) ↔
      ((Regex.parse? pattern).isSome ∧ endsInComment pattern = false) ∨
        escapes pattern = true) ∧
    (escapes pattern = true → Regex.parse? pattern = none) ∧
    ∀ error, ofValues .regex [pattern] = .error error → error = .invalidRegex pattern := by
  refine ⟨?_, fun hescapes ↦ ?_, fun error herror ↦ ?_⟩
  · rw [parse?_isSome halone, ← read?_anchored_isSome, ← parse?_isSome hwhole, ofValues_regex_eq]
    cases Regex.parse? (anchored pattern) with
    | none => exact iff_of_false (fun ⟨_, h⟩ ↦ nomatch h) nofun
    | some expression => exact iff_of_true ⟨_, rfl⟩ rfl
  · rw [Regex.parse?, read?_of_escapes hescapes]
    rfl
  · rw [ofValues_regex_eq] at herror
    split at herror
    · cases herror
    · cases herror
      rfl

/-- A pattern that ends its group and opens another one becomes a matcher, and a regular expression
with a comment at its end does not. -/
theorem ofValues_regex_beyondGroup :
    (Regex.parse? "a)|(?:b" = none ∧
      ∃ matcher, ofValues .regex ["a)|(?:b"] = .ok matcher) ∧
    (Regex.parse? "(?x)a#").isSome ∧
      ¬ ∃ matcher, ofValues .regex ["(?x)a#"] = .ok matcher := by
  have hgroups := ofValues_regex "a)|(?:b" (by decide +kernel) (by decide +kernel)
  have hcomment := ofValues_regex "(?x)a#" (by decide +kernel) (by decide +kernel)
  have hescapes : escapes "a)|(?:b" = true := by decide +kernel
  refine ⟨⟨hgroups.2.1 hescapes, hgroups.1.mpr (.inr hescapes)⟩, by decide +kernel, ?_⟩
  rw [hcomment.1]
  decide +kernel

end TenantView.Matcher
