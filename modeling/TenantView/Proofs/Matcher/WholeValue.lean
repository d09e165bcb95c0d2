import TenantView.Proofs.Matcher.Anchoring
import TenantView.Proofs.Regex.OrderedCounts

/-!
# Whole values

A matcher of the regular mode searches its value for a stretch of the anchored pattern.  If the
pattern is a regular expression by itself, the search succeeds if and only if the pattern describes
the value from its first to its last character (`accepts_iff_matchesWhole`): the pattern is read to
the same expression inside its group, whatever modes it switches, and the conditions around the
group leave one stretch only.
-/

namespace TenantView

/-- The expression describes the stretch from the first to the last position of the value. -/
def Regex.MatchesWhole (regex : Regex) (value : String) : Prop :=
  Regex.Matches value.toList.toArray regex 0 value.toList.length

namespace Matcher

open Regex (Deep Matches)

/-! ## Conditions on the ends of a value -/

section Ends

variable {text : Array Char} {i : Nat}

theorem holdsAt_textStart (h : i ≤ text.size) :
    Regex.holdsAt .textStart text i = true ↔ i = 0 := by
  change (Regex.charBefore text i).isNone = true ↔ i = 0
  rw [Regex.charBefore]
  split
  · next hzero => exact iff_of_true rfl hzero
  · next hpos =>
    have hlt : i - 1 < text.size := by omega
    rw [Array.getElem?_eq_getElem hlt]
    exact iff_of_false nofun hpos

theorem holdsAt_textEnd : Regex.holdsAt .textEnd text i = true ↔ text.size ≤ i := by
  change text[i]?.isNone = true ↔ text.size ≤ i
  rw [Option.isNone_iff_eq_none, Array.getElem?_eq_none_iff]

/-- Between the conditions on its ends an expression describes nothing but the whole text. -/
theorem matches_anchoredRegex_iff {regex : Deep Regex} {j : Nat} (h : i ≤ text.size) :
    Matches text (anchoredRegex regex).value i j ↔
      i = 0 ∧ j = text.size ∧ Matches text regex.value 0 text.size := by
  simp only [anchoredRegex, Matches.concat_iff, Matches.empty_iff, Matches.look_iff]
  constructor
  · rintro ⟨k, ⟨_, ⟨_, rfl, hstart, rfl⟩, hregex⟩, hend, rfl⟩
    obtain rfl := (holdsAt_textStart h).mp hstart
    have hsize := holdsAt_textEnd.mp hend
    have hstretch := hregex.isStretch
    obtain rfl : k = text.size := by
      unfold Regex.IsStretch at hstretch
      omega
    exact ⟨rfl, rfl, hregex⟩
  · rintro ⟨rfl, rfl, hregex⟩
    exact ⟨text.size, ⟨0, ⟨0, rfl, (holdsAt_textStart h).mpr rfl, rfl⟩, hregex⟩,
      holdsAt_textEnd.mpr (Nat.le_refl _), rfl⟩

end Ends

/-! ## Matchers of the regular mode -/

/-- A pattern that is an expression alone and in its group does not end in a comment. -/
theorem endsInComment_eq_false {pattern : String} {regex whole : Deep Regex}
    (halone : Regex.read? pattern = some regex)
    (hwhole : Regex.read? (anchored pattern) = some whole) : endsInComment pattern = false := by
  have hsome := Option.isSome_iff_exists.mpr ⟨whole, hwhole⟩
  rcases (read?_anchored_isSome pattern).mp hsome with ⟨-, hcomment⟩ | hescapes
  · exact hcomment
  · cases halone.symm.trans (read?_of_escapes hescapes)

/-- The expression within the limits is the one that is read. -/
theorem read?_of_parse? {pattern : String} {regex : Regex}
    (h : Regex.parse? pattern = some regex) :
    ∃ whole, Regex.read? pattern = some whole ∧ whole.value = regex := by
  obtain ⟨whole, hread, h⟩ := Regex.bind_eq_some h
  split at h
  · cases h
    exact ⟨whole, hread, rfl⟩
  · cases h

/-- The matcher of a pattern that is an expression by itself has that expression between the
conditions on the ends of the value. -/
theorem eq_of_ofValues_regex {pattern : String} {regex : Deep Regex} {matcher : Matcher}
    (hread : Regex.read? pattern = some regex)
    (hmatcher : ofValues .regex [pattern] = .ok matcher) :
    matcher = .regex (anchoredRegex regex).value := by
  rw [ofValues_regex_eq] at hmatcher
  split at hmatcher
  · next expression hparse =>
    cases hmatcher
    obtain ⟨whole, hwhole, rfl⟩ := read?_of_parse? hparse
    rw [read?_anchored_of_read? hread (endsInComment_eq_false hread hwhole)] at hwhole
    cases hwhole
    rfl
  · cases hmatcher

/-- **A regular expression that becomes a matcher accepts exactly the values that it describes as
a whole.** -/
theorem accepts_iff_matchesWhole {pattern : String} {regex : Regex} {matcher : Matcher}
    (hregex : Regex.parse? pattern = some regex)
    (hmatcher : ofValues .regex [pattern] = .ok matcher) (value : String) :
    matcher.accepts value = true ↔ regex.MatchesWhole value := by
  obtain ⟨inner, hread, rfl⟩ := read?_of_parse? hregex
  have hinner := Regex.hasOrderedCounts_of_read? hread
  have hcounts : (anchoredRegex inner).value.HasOrderedCounts :=
    ⟨⟨⟨trivial, trivial⟩, hinner⟩, trivial⟩
  rw [eq_of_ofValues_regex hread hmatcher]
  change (anchoredRegex inner).value.isMatch value = true ↔ _
  rw [Regex.isMatch_iff hcounts]
  constructor
  · rintro ⟨i, j, hi, hmatches⟩
    exact ((matches_anchoredRegex_iff hi).mp hmatches).2.2
  · intro hwhole
    exact ⟨0, _, Nat.zero_le _,
      (matches_anchoredRegex_iff (Nat.zero_le _)).mpr ⟨rfl, rfl, hwhole⟩⟩

/-- Modes that are switched inside the pattern do not reach the conditions around it: the line may
go on behind the end that the pattern sees, the value may not. -/
theorem accepts_iff_matchesWhole_lines :
    ∃ regex matcher, Regex.parse? "(?ms)^a.b$" = some regex ∧
      ofValues .regex ["(?ms)^a.b$"] = .ok matcher ∧
      regex.MatchesWhole "a\nb" ∧ ¬ regex.MatchesWhole "a\nb\nc" := by
  have hparse : (Regex.parse? "(?ms)^a.b$").isSome = true := by decide +kernel
  have haccepts : (Regex.parse? (anchored "(?ms)^a.b$")).any
      (fun expression ↦ expression.isMatch "a\nb" && !expression.isMatch "a\nb\nc") = true := by
    decide +kernel
  obtain ⟨regex, hregex⟩ := Option.isSome_iff_exists.mp hparse
  obtain ⟨expression, hexpression, haccepts⟩ := (Option.any_eq_true _ _).mp haccepts
  rw [Bool.and_eq_true, Bool.not_eq_true', Bool.eq_false_iff] at haccepts
  have hmatcher : ofValues .regex ["(?ms)^a.b$"] = .ok (.regex expression) := by
    rw [ofValues_regex_eq, hexpression]
  have hwhole := accepts_iff_matchesWhole hregex hmatcher
  exact ⟨regex, _, hregex, hmatcher, (hwhole "a\nb").mp haccepts.1,
    fun h ↦ haccepts.2 ((hwhole "a\nb\nc").mpr h)⟩

end Matcher

end TenantView
