import TenantView.Matcher
import TenantView.Proofs.Traversal

/-!
# Values as a set

A matcher of the exact mode or of the glob mode is the union of the matchers of its values.  It can
be made if there are values and each of them makes a matcher by itself (`builds_iff`), and it
accepts what one of those accepts (`accepts_iff_exists`).  So neither the order of the values nor
how often one is given makes a difference.  It does for the error: of the patterns that are refused
the first one is reported (`ofValues_glob_eq_error_iff`).
-/

namespace TenantView.Matcher

variable {mode : MatchMode} {values others : List String} {matcher other : Matcher}

/-- The values make a matcher. -/
def Builds (mode : MatchMode) (values : List String) : Prop :=
  ∃ matcher, ofValues mode values = .ok matcher

theorem ofValues_exact (h : values ≠ []) : ofValues .exact values = .ok (.exact values) := by
  obtain ⟨v, values, rfl⟩ := List.exists_cons_of_ne_nil h
  rfl

theorem ofValues_glob (h : values ≠ []) :
    ofValues .glob values = (values.mapM globTokens).map .glob := by
  obtain ⟨v, values, rfl⟩ := List.exists_cons_of_ne_nil h
  rfl

theorem ne_nil_of_builds (h : Builds mode values) : values ≠ [] := by
  rintro rfl
  obtain ⟨matcher, h⟩ := h
  cases mode <;> cases h

theorem ofValues_glob_eq_ok_iff (h : values ≠ []) :
    ofValues .glob values = .ok matcher ↔
      ∃ patterns, values.mapM globTokens = .ok patterns ∧ .glob patterns = matcher := by
  rw [ofValues_glob h]
  cases values.mapM globTokens <;> simp [Except.map]

theorem ofValues_glob_singleton_iff {pattern : String} :
    ofValues .glob [pattern] = .ok matcher ↔
      ∃ tokens, globTokens pattern = .ok tokens ∧ .glob [tokens] = matcher := by
  have hsingle : [pattern].mapM globTokens = (globTokens pattern).map ([·]) := by
    rw [List.mapM_cons]
    cases globTokens pattern <;> rfl
  rw [ofValues_glob_eq_ok_iff (List.cons_ne_nil pattern []), hsingle]
  cases globTokens pattern <;> simp [Except.map]

theorem builds_glob_iff (h : values ≠ []) :
    Builds .glob values ↔ ∀ v ∈ values, ∃ tokens, globTokens v = .ok tokens := by
  simp only [← exists_mapM_iff, Builds, ofValues_glob_eq_ok_iff h]
  exact ⟨fun ⟨_, patterns, hpatterns, _⟩ ↦ ⟨patterns, hpatterns⟩,
    fun ⟨patterns, hpatterns⟩ ↦ ⟨_, patterns, hpatterns, rfl⟩⟩

theorem builds_glob_singleton_iff {pattern : String} :
    Builds .glob [pattern] ↔ ∃ tokens, globTokens pattern = .ok tokens := by
  rw [builds_glob_iff (List.cons_ne_nil pattern []), List.forall_mem_singleton]

/-- **The values make a matcher if there are some and each of them does by itself.** -/
theorem builds_iff (hmode : mode ≠ .regex) :
    Builds mode values ↔ values ≠ [] ∧ ∀ v ∈ values, Builds mode [v] := by
  by_cases hne : values = []
  · exact iff_of_false (fun h ↦ ne_nil_of_builds h hne) fun h ↦ h.1 hne
  · rw [and_iff_right hne]
    cases mode with
    | exact => exact iff_of_true ⟨_, ofValues_exact hne⟩ fun v _ ↦ ⟨.exact [v], rfl⟩
    | regex => exact absurd rfl hmode
    | glob => simp only [builds_glob_iff hne, builds_glob_singleton_iff]

/-- **A matcher accepts what the matcher of one of its values accepts.** -/
theorem accepts_iff_exists (hmode : mode ≠ .regex) (h : ofValues mode values = .ok matcher)
    (text : String) :
    matcher.accepts text = true ↔ ∃ v ∈ values, ∃ single,
      ofValues mode [v] = .ok single ∧ single.accepts text = true := by
  have hne := ne_nil_of_builds ⟨matcher, h⟩
  cases mode with
  | exact =>
    rw [ofValues_exact hne] at h
    cases h
    have hsingle (v : String) : ofValues .exact [v] = .ok (.exact [v]) := rfl
    simp [hsingle, accepts]
  | regex => exact absurd rfl hmode
  | glob =>
    obtain ⟨patterns, hpatterns, rfl⟩ := (ofValues_glob_eq_ok_iff hne).mp h
    change patterns.any (Glob.isMatch · text) = true ↔ _
    simp only [List.any_eq_true, mem_iff_of_mapM hpatterns, ofValues_glob_singleton_iff]
    constructor
    · rintro ⟨tokens, ⟨v, hv, htokens⟩, hmatch⟩
      exact ⟨v, hv, _, ⟨tokens, htokens, rfl⟩, by simpa [accepts] using hmatch⟩
    · rintro ⟨v, hv, _, ⟨tokens, htokens, rfl⟩, hmatch⟩
      exact ⟨tokens, ⟨v, hv, htokens⟩, by simpa [accepts] using hmatch⟩

/-- The more values there are, the more is accepted. -/
theorem accepts_of_subset (hmode : mode ≠ .regex) (hsubset : values ⊆ others)
    (h : ofValues mode values = .ok matcher) (hother : ofValues mode others = .ok other)
    {text : String} (haccepts : matcher.accepts text = true) : other.accepts text = true := by
  obtain ⟨v, hv, hsingle⟩ := (accepts_iff_exists hmode h text).mp haccepts
  exact (accepts_iff_exists hmode hother text).mpr ⟨v, hsubset hv, hsingle⟩

/-- Lists with the same values make a matcher together. -/
theorem builds_iff_builds (hmode : mode ≠ .regex) (hsame : ∀ v, v ∈ values ↔ v ∈ others) :
    Builds mode values ↔ Builds mode others := by
  have hnil : values = [] ↔ others = [] := by
    simp only [List.eq_nil_iff_forall_not_mem, hsame]
  refine (builds_iff hmode).trans (.trans ?_ (builds_iff hmode).symm)
  simp only [ne_eq, hnil, hsame]

/-- Matchers of the same values accept the same. -/
theorem accepts_eq_accepts (hmode : mode ≠ .regex) (hsame : ∀ v, v ∈ values ↔ v ∈ others)
    (h : ofValues mode values = .ok matcher) (hother : ofValues mode others = .ok other) :
    matcher.accepts = other.accepts := by
  funext text
  rw [Bool.eq_iff_iff]
  exact ⟨accepts_of_subset hmode (fun v ↦ (hsame v).mp) h hother,
    accepts_of_subset hmode (fun v ↦ (hsame v).mpr) hother h⟩

theorem globTokens_eq_error_iff {pattern : String} {error : Error} :
    globTokens pattern = .error error ↔
      ∃ reason, Glob.parse pattern = .error reason ∧ error = .invalidGlob pattern reason := by
  rw [globTokens]
  cases Glob.parse pattern <;> simp [Except.mapError, eq_comm]

/-- **Of the patterns that are refused the first one is reported.** -/
theorem ofValues_glob_eq_error_iff (h : values ≠ []) {error : Error} :
    ofValues .glob values = .error error ↔
      ∃ before pattern after reason, values = before ++ pattern :: after ∧
        (∀ v ∈ before, Builds .glob [v]) ∧ Glob.parse pattern = .error reason ∧
        error = .invalidGlob pattern reason := by
  have herror : ofValues .glob values = .error error ↔ values.mapM globTokens = .error error := by
    rw [ofValues_glob h]
    cases values.mapM globTokens <;> simp [Except.map]
  simp only [herror, mapM_eq_error_iff, globTokens_eq_error_iff, builds_glob_singleton_iff,
    exists_and_left]

end TenantView.Matcher
