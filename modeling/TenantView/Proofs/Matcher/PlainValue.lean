import TenantView.Proofs.Glob.Verbatim
import TenantView.Proofs.Matcher.Union
import TenantView.Proofs.Matcher.WholeValue
import TenantView.Proofs.Regex.Verbatim

/-!
# Plain values

A value is plain if none of its characters is a sign in some mode.  It does not matter then in which
mode it is given: it makes a matcher that accepts this value and no other
(`exists_accepts_iff_eq`).  In the regular mode the expression of the value may be too large, which
depends on the number of its bytes only (`isWithinSize_iff`).
-/

namespace TenantView.Matcher

open Regex (Deep nestingLimit sizeLimit stateSize)

/-- The characters that do not stand for themselves in some mode. -/
def signs : List Char :=
  ['\\', '.', '+', '*', '?', '(', ')', '|', '[', ']', '\x7b', '\x7d', '^', '$']

/-- A value is plain if it has no signs. -/
def IsPlainValue (value : String) : Prop :=
  ∀ c ∈ value.toList, c ∉ signs

/-- The expression of whole values that a pattern describes, if there is one, is not too large. -/
def IsWithinSize (pattern : String) : Prop :=
  ∀ regex, Regex.read? (anchored pattern) = some regex → regex.value.size ≤ sizeLimit

instance (value : String) : Decidable (IsPlainValue value) :=
  List.decidableBAll (fun c ↦ c ∉ signs) value.toList

variable {value : String}

/-! ## The regular mode -/

namespace IsPlainValue

theorem notMem_regexSigns (h : IsPlainValue value) : ∀ c ∈ value.toList, c ∉ Regex.signs :=
  fun c hc hsign ↦ h c hc ((by decide : Regex.signs ⊆ signs) hsign)

theorem notMem_globSigns (h : IsPlainValue value) : ∀ c ∈ value.toList, c ∉ Glob.signs :=
  fun c hc hsign ↦ h c hc ((by decide : Glob.signs ⊆ signs) hsign)

theorem stopOf_eq (h : IsPlainValue value) :
    stopOf value = some (({} : Regex.State).pushVerbatim value.toList, []) :=
  Regex.stop_verbatim h.notMem_regexSigns (Nat.le_refl _) rfl

/-- A plain value is read as its characters. -/
theorem read?_eq (h : IsPlainValue value) :
    Regex.read? value = some (Regex.verbatim value.toList) := by
  rw [read?_eq_stopOf, h.stopOf_eq]
  change some (Regex.concatParts (_ ++ [])) = _
  rw [List.append_nil]
  rfl

/-- In its group a plain value is read as its characters between the conditions on the ends. -/
theorem read?_anchored_eq (h : IsPlainValue value) :
    Regex.read? (anchored value) = some (anchoredRegex (Regex.verbatim value.toList)) := by
  refine read?_anchored_of_read? h.read?_eq ?_
  rw [endsInComment_eq h.stopOf_eq]
  rfl

end IsPlainValue

theorem size_anchoredRegex (regex : Deep Regex) :
    (anchoredRegex regex).value.size = regex.value.size + 2 * stateSize := by
  change 0 + stateSize + regex.value.size + stateSize = _
  omega

/-- **The expression of a plain value takes a state for each of its bytes, and for each end.** -/
theorem isWithinSize_iff (h : IsPlainValue value) :
    IsWithinSize value ↔ (value.utf8ByteSize + 2) * stateSize ≤ sizeLimit := by
  have hsize := size_anchoredRegex (Regex.verbatim value.toList)
  rw [Regex.size_verbatim, String.ofList_toList, ← Nat.add_mul] at hsize
  rw [IsWithinSize, h.read?_anchored_eq, ← hsize]
  exact ⟨fun hall ↦ hall _ rfl, fun hle _ hregex ↦ Option.some.inj hregex ▸ hle⟩

theorem parse?_of_read? {pattern : String} {regex : Deep Regex}
    (h : Regex.read? pattern = some regex) (hdepth : regex.depth ≤ nestingLimit)
    (hsize : regex.value.size ≤ sizeLimit) : Regex.parse? pattern = some regex.value := by
  have hlimits : Regex.isWithinLimits regex = true := by
    rw [Regex.isWithinLimits, Bool.and_eq_true, decide_eq_true_eq, decide_eq_true_eq]
    exact ⟨hdepth, hsize⟩
  rw [Regex.parse?, h]
  exact if_pos hlimits

/-- Within the limit of size a plain value makes a matcher of the regular mode, which accepts that
value only. -/
theorem exists_accepts_regex_iff (h : IsPlainValue value) (hsize : IsWithinSize value) :
    ∃ matcher, ofValues .regex [value] = .ok matcher ∧
      ∀ text, matcher.accepts text = true ↔ text = value := by
  have hdepth := Regex.depth_verbatim_le value.toList
  have hwhole := hsize _ h.read?_anchored_eq
  have halone : (Regex.verbatim value.toList).value.size ≤ sizeLimit :=
    (Nat.le_add_right _ _).trans ((size_anchoredRegex _).symm.trans_le hwhole)
  have hparse := parse?_of_read? h.read?_eq (hdepth.trans (by decide)) halone
  have hanchored := parse?_of_read? h.read?_anchored_eq
    ((Nat.add_le_add_right hdepth 2).trans (by decide)) hwhole
  have hmatcher : ofValues .regex [value] =
      .ok (.regex (anchoredRegex (Regex.verbatim value.toList)).value) := by
    rw [ofValues_regex_eq, hanchored]
  refine ⟨_, hmatcher, fun text ↦ ?_⟩
  rw [accepts_iff_matchesWhole hparse hmatcher, Regex.MatchesWhole, Regex.matches_verbatim_iff,
    String.toList_inj]

/-! ## All modes -/

/-- **In every mode a plain value makes a matcher that accepts this value and no other.** -/
theorem exists_accepts_iff_eq (h : IsPlainValue value) (hsize : IsWithinSize value)
    (mode : MatchMode) :
    ∃ matcher, ofValues mode [value] = .ok matcher ∧
      ∀ text, matcher.accepts text = true ↔ text = value := by
  cases mode with
  | exact =>
    refine ⟨.exact [value], rfl, fun text ↦ ?_⟩
    simp [accepts]
  | regex => exact exists_accepts_regex_iff h hsize
  | glob =>
    have htokens : globTokens value = .ok (Glob.verbatim value.toList) := by
      rw [globTokens, Glob.parse_verbatim h.notMem_globSigns]
      rfl
    refine ⟨.glob [Glob.verbatim value.toList],
      ofValues_glob_singleton_iff.mpr ⟨_, htokens, rfl⟩, fun text ↦ ?_⟩
    change (Glob.isMatch _ text || false) = true ↔ _
    rw [Bool.or_false, Glob.isMatch_verbatim_iff, String.toList_inj]

/-- Slashes, dashes, letters beyond ASCII and line breaks are plain. -/
theorem exists_accepts_iff_eq_path :
    IsPlainValue "/übung-1\n" ∧ IsWithinSize "/übung-1\n" ∧
      ∀ mode, ∃ matcher, ofValues mode ["/übung-1\n"] = .ok matcher ∧
        ∀ text, matcher.accepts text = true ↔ text = "/übung-1\n" := by
  have hplain : IsPlainValue "/übung-1\n" := by decide
  have hsize : IsWithinSize "/übung-1\n" := (isWithinSize_iff hplain).mpr (by decide)
  exact ⟨hplain, hsize, exists_accepts_iff_eq hplain hsize⟩

end TenantView.Matcher
