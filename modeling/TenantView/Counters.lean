import TenantView.Rewrite.Hook
import TenantView.Text.Split

/-!
# Counters

The outcomes of every endpoint are counted, and the stages at which rewrites fail.  The counts
are read as text with a line for each count and for what is said about a family of counts.
-/

namespace TenantView

open Rewrite (Outcome Reply)

/-- The counts so far; what has not happened has no entry. -/
structure Counters where
  outcomes : List ((String × Outcome) × Nat)
  failures : List ((String × String) × Nat)
deriving DecidableEq

namespace Counters

/-- The counts before anything has happened. -/
def zero : Counters where
  outcomes := []
  failures := []

/-- The entries with one more for a key. -/
def countOne {κ : Type} [DecidableEq κ] (key : κ) : List (κ × Nat) → List (κ × Nat)
  | [] => [(key, 1)]
  | (other, n) :: entries =>
    if other = key then (other, n + 1) :: entries else (other, n) :: countOne key entries

/-- The count of a key. -/
def countOf {κ : Type} [DecidableEq κ] (key : κ) (entries : List (κ × Nat)) : Nat :=
  (entries.lookup key).getD 0

theorem countOf_countOne {κ : Type} [DecidableEq κ] (key other : κ) (entries : List (κ × Nat)) :
    countOf other (countOne key entries) =
      countOf other entries + if other = key then 1 else 0 := by
  unfold countOf
  induction entries with
  | nil =>
    by_cases h : other = key
    · simp [countOne, h]
    · simp [countOne, List.lookup_cons, beq_eq_false_iff_ne.mpr h, h]
  | cons entry entries ih =>
    obtain ⟨found, n⟩ := entry
    by_cases hkey : found = key
    · subst hkey
      by_cases h : other = found
      · simp [countOne, h]
      · simp [countOne, List.lookup_cons, beq_eq_false_iff_ne.mpr h, h]
    · by_cases h : other = found
      · subst h
        simp [countOne, hkey]
      · simpa [countOne, hkey, List.lookup_cons, beq_eq_false_iff_ne.mpr h] using ih

/-- Counts an outcome. -/
def recordOutcome (counters : Counters) (endpoint : String) (outcome : Outcome) : Counters :=
  { counters with outcomes := countOne (endpoint, outcome) counters.outcomes }

/-- Counts a failure at a stage. -/
def recordFailure (counters : Counters) (endpoint stage : String) : Counters :=
  { counters with failures := countOne (endpoint, stage) counters.failures }

/-- Counts what a hook has made of an answer; an aborted call is not counted. -/
def record (counters : Counters) (endpoint : String) (reply : Reply) : Counters :=
  let counters :=
    match reply.result with
    | .error (.givenUp error) => counters.recordFailure endpoint error.stage
    | .error .overflow => counters
    | .ok _ => counters
  match reply.outcome with
  | some outcome => counters.recordOutcome endpoint outcome
  | none => counters

/-- The lines that say what a family of counts is. -/
def about (family description : String) : List String :=
  ["# HELP " ++ family ++ " " ++ description ++ ".", "# TYPE " ++ family ++ " counter"]

/-- The line of one count. -/
def sample (family key endpoint value : String) (n : Nat) : String :=
  family ++ "_total\x7bendpoint=\"" ++ endpoint ++ "\"," ++ key ++ "=\"" ++ value ++ "\"\x7d " ++
    Nat.repr n

/-- The name of the family of outcomes. -/
def outcomeFamily : String := "tenantgate_response_rewrites"

/-- The name of the family of failures. -/
def failureFamily : String := "tenantgate_response_rewrite_failures"

/-- All counts as text, an entry for each line.  An entry with a line break in a name goes over
several lines. -/
def exposition (counters : Counters) : List String :=
  about outcomeFamily "Intercepted API responses by endpoint and outcome" ++
    (counters.outcomes.map fun ((endpoint, outcome), n) ↦
      sample outcomeFamily "outcome" endpoint outcome.name n) ++
    about failureFamily "Abandoned response rewrites by endpoint and failing stage" ++
    (counters.failures.map fun ((endpoint, stage), n) ↦
      sample failureFamily "stage" endpoint stage n) ++
    ["# EOF"]

/-- The lines of the text. -/
def lines (counters : Counters) : List String :=
  counters.exposition.flatMap fun entry ↦ (Text.splitAt '\n' entry.toList).map String.ofList

/-- The lines of the text in the order of their bytes. -/
def sortedLines (counters : Counters) : List String :=
  counters.lines.mergeSort fun a b ↦ !decide (Text.byteLt b a)

end Counters

end TenantView
