import Mathlib.Computability.Language
import TenantView.Proofs.Regex.Matching

/-!
# Expressions as languages

An expression without conditions on positions describes a stretch by its characters alone.  So it
has a language, and it describes exactly the stretches of a text whose characters are a word of that
language (`matches_iff_spans`).
-/

namespace TenantView.Regex

/-- The expression has no conditions on positions. -/
def IsPlain : Regex → Prop
  | empty => True
  | set _ => True
  | look _ => False
  | concat r s => r.IsPlain ∧ s.IsPlain
  | either r s => r.IsPlain ∧ s.IsPlain
  | copies r _ _ => r.IsPlain

/-- The words that an expression without conditions describes. -/
def language : Regex → Language Char
  | empty => 1
  | set chars => {w | ∃ c, chars.contains c = true ∧ w = [c]}
  | look _ => 0
  | concat r s => r.language * s.language
  | either r s => r.language + s.language
  | copies r least most =>
    {w | ∃ count, least ≤ count ∧ (∀ bound ∈ most, count ≤ bound) ∧ w ∈ r.language ^ count}

/-! ## Words at positions of a text -/

/-- Between the two positions of the text stands a word of the language. -/
def Spans (L : Language Char) (text : List Char) (i j : Nat) : Prop :=
  ∃ w ∈ L, w <+: text.drop i ∧ i + w.length = j

namespace Spans

variable {L M : Language Char} {text : List Char} {i j : Nat}

theorem one_iff : Spans 1 text i j ↔ i = j := by
  constructor
  · rintro ⟨w, rfl, -, rfl⟩
    rfl
  · rintro rfl
    exact ⟨[], rfl, List.nil_prefix, rfl⟩

theorem add_iff : Spans (L + M) text i j ↔ Spans L text i j ∨ Spans M text i j := by
  simp only [Spans, Language.mem_add, or_and_right, exists_or]

/-- A text begins with two words in a row if the second one begins what follows the first. -/
theorem append_prefix_iff {u v cs : List Char} :
    u ++ v <+: cs ↔ u <+: cs ∧ v <+: cs.drop u.length := by
  constructor
  · rintro ⟨rest, rfl⟩
    simp
  · rintro ⟨⟨tail, rfl⟩, hv⟩
    rw [List.drop_left] at hv
    exact (List.prefix_append_right_inj u).mpr hv

theorem mul_iff : Spans (L * M) text i j ↔ ∃ k, Spans L text i k ∧ Spans M text k j := by
  constructor
  · rintro ⟨_, ⟨u, hu, v, hv, rfl⟩, hprefix, rfl⟩
    obtain ⟨hfirst, hsecond⟩ := append_prefix_iff.mp hprefix
    rw [List.drop_drop] at hsecond
    exact ⟨i + u.length, ⟨u, hu, hfirst, rfl⟩, v, hv, hsecond, by simp [Nat.add_assoc]⟩
  · rintro ⟨_, ⟨u, hu, hfirst, rfl⟩, v, hv, hsecond, rfl⟩
    rw [← List.drop_drop] at hsecond
    exact ⟨u ++ v, ⟨u, hu, v, hv, rfl⟩, append_prefix_iff.mpr ⟨hfirst, hsecond⟩,
      by simp [Nat.add_assoc]⟩

theorem pow_iff {count : Nat} : Spans (L ^ count) text i j ↔ Chain (Spans L text) count i j := by
  induction count generalizing i with
  | zero => rw [pow_zero, one_iff, Chain]
  | succ count ih => simp only [pow_succ', mul_iff, ih, Chain]

end Spans

variable {text : List Char} {i j : Nat}

theorem spans_set_iff {chars : Text.CharSet} :
    Spans (set chars).language text i j ↔ acceptsAt chars text.toArray i = true ∧ i + 1 = j := by
  have hword (c : Char) : [c] <+: text.drop i ↔ text[i]? = some c := by
    rw [List.singleton_prefix_iff_head?_eq_some, List.head?_drop]
  rw [acceptsAt, List.getElem?_toArray]
  constructor
  · rintro ⟨_, ⟨c, hc, rfl⟩, hprefix, rfl⟩
    rw [(hword c).mp hprefix]
    exact ⟨hc, rfl⟩
  · rintro ⟨haccepts, rfl⟩
    obtain ⟨c, hchar, hc⟩ := (Option.any_eq_true _ _).mp haccepts
    exact ⟨[c], ⟨c, hc, rfl⟩, (hword c).mpr hchar, rfl⟩

/-- **An expression without conditions describes the stretches that are words of its language.** -/
theorem matches_iff_spans {r : Regex} (h : r.IsPlain) :
    Matches text.toArray r i j ↔ Spans r.language text i j := by
  induction r generalizing i j with
  | empty => exact Matches.empty_iff.trans Spans.one_iff.symm
  | set chars => exact Matches.set_iff.trans spans_set_iff.symm
  | look condition => exact h.elim
  | concat r s ihr ihs =>
    simp only [Matches.concat_iff, language, Spans.mul_iff, ihr h.1, ihs h.2]
  | either r s ihr ihs =>
    simp only [Matches.either_iff, language, Spans.add_iff, ihr h.1, ihs h.2]
  | copies r least most ih =>
    have hbody : Matches text.toArray r = Spans r.language text := by
      funext i j
      exact propext (ih h)
    rw [Matches.copies_iff, hbody]
    simp only [← Spans.pow_iff]
    constructor
    · rintro ⟨count, hleast, hmost, w, hw, hspan⟩
      exact ⟨w, ⟨count, hleast, hmost, hw⟩, hspan⟩
    · rintro ⟨w, ⟨count, hleast, hmost, hw⟩, hspan⟩
      exact ⟨count, hleast, hmost, w, hw, hspan⟩

/-! ## Words of some expressions -/

section Words

variable {r s : Regex} {chars : Text.CharSet} {w : List Char}

theorem mem_language_empty : w ∈ empty.language ↔ w = [] :=
  Iff.rfl

theorem mem_language_set : w ∈ (set chars).language ↔ ∃ c, chars.contains c = true ∧ w = [c] :=
  Iff.rfl

theorem mem_language_singleton {c : Char} :
    w ∈ (set (.singleton c)).language ↔ w = [c] := by
  simp only [mem_language_set, Text.CharSet.contains_singleton, exists_eq_left]

theorem mem_language_concat :
    w ∈ (concat r s).language ↔ ∃ u ∈ r.language, ∃ v ∈ s.language, u ++ v = w :=
  Language.mem_mul

/-- Any number of characters of a set. -/
theorem mem_language_any :
    w ∈ (copies (set chars) 0 none).language ↔ ∀ c ∈ w, chars.contains c = true := by
  constructor
  · rintro ⟨count, -, -, hw⟩
    induction count generalizing w with
    | zero =>
      cases hw
      exact nofun
    | succ count ih =>
      rw [pow_succ', Language.mem_mul] at hw
      obtain ⟨_, ⟨c, hc, rfl⟩, w, hw, rfl⟩ := hw
      exact List.forall_mem_cons.mpr ⟨hc, ih hw⟩
  · intro hall
    refine ⟨w.length, Nat.zero_le _, nofun, ?_⟩
    induction w with
    | nil => exact rfl
    | cons c w ih =>
      obtain ⟨hc, hall⟩ := List.forall_mem_cons.mp hall
      rw [List.length_cons, pow_succ', Language.mem_mul]
      exact ⟨[c], ⟨c, hc, rfl⟩, w, ih hall, rfl⟩

/-- At most one copy. -/
theorem mem_language_atMostOne :
    w ∈ (copies r 0 (some 1)).language ↔ w = [] ∨ w ∈ r.language := by
  constructor
  · rintro ⟨count, -, hmost, hw⟩
    rcases Nat.le_one_iff_eq_zero_or_eq_one.mp (hmost 1 rfl) with rfl | rfl
    · exact .inl hw
    · exact .inr (pow_one r.language ▸ hw)
  · rintro (rfl | hw)
    · exact ⟨0, Nat.le_refl 0, fun bound _ ↦ Nat.zero_le bound, rfl⟩
    · refine ⟨1, Nat.zero_le 1, ?_, (pow_one r.language).symm ▸ hw⟩
      rintro bound ⟨⟩
      exact Nat.le_refl 1

end Words

end TenantView.Regex
