import Mathlib.Data.List.Infix
import TenantView.Glob.Match

/-!
# Globs without signs

The signs of a glob are the question mark, the opening bracket and the star.  A text without them
is read as its characters (`parse_verbatim`), and these match that text and no other
(`isMatch_verbatim_iff`): the table of the characters holds, for every suffix of what is matched,
whether it is the text that is left.
-/

namespace TenantView.Glob

/-- The characters that do not always stand for themselves. -/
def signs : List Char :=
  ['?', '[', '*']

/-- The tokens that stand for some characters, each for itself. -/
def verbatim (cs : List Char) : List Token :=
  cs.map .char

/-- A character that is no sign is taken as it is. -/
theorem parseTokens_of_notMem {c : Char} (h : c ∉ signs) (b : Char) (rounds : List Char)
    (previous : Option Char) (position : Nat) (tokens : List Token) (cs : List Char) :
    parseTokens (b :: rounds) previous position tokens (c :: cs) =
      parseTokens rounds (some c) (position + 1) (.char c :: tokens) cs := by
  obtain ⟨hquestion, hbracket, hstar⟩ : c ≠ '?' ∧ c ≠ '[' ∧ c ≠ '*' := by
    simpa [signs] using h
  rw [parseTokens.eq_def]
  exact (if_neg hquestion).trans ((if_neg hbracket).trans (if_neg hstar))

theorem parseTokens_verbatim {rounds cs : List Char} (h : ∀ c ∈ cs, c ∉ signs)
    (hrounds : cs.length ≤ rounds.length) (previous : Option Char) (position : Nat)
    (tokens : List Token) :
    parseTokens rounds previous position tokens cs = .ok (tokens.reverse ++ verbatim cs) := by
  induction cs generalizing rounds previous position tokens with
  | nil => rw [parseTokens, verbatim, List.map_nil, List.append_nil]
  | cons c cs ih =>
    obtain ⟨hc, hcs⟩ := List.forall_mem_cons.mp h
    obtain ⟨b, rounds, rfl⟩ :=
      List.exists_cons_of_length_pos (Nat.lt_of_lt_of_le (Nat.succ_pos cs.length) hrounds)
    rw [parseTokens_of_notMem hc, ih hcs (Nat.le_of_succ_le_succ hrounds), List.reverse_cons,
      List.append_assoc]
    rfl

/-- **A pattern without signs is read as its characters.** -/
theorem parse_verbatim {pattern : String} (h : ∀ c ∈ pattern.toList, c ∉ signs) :
    parse pattern = .ok (verbatim pattern.toList) :=
  parseTokens_verbatim h (Nat.le_refl _) none 0 []

/-! ## Tables over the suffixes of a text -/

/-- What a token for one character makes of what holds of the suffixes behind it. -/
theorem passOne_tails (accepts : Char → Bool) (p : List Char → Bool) (cs : List Char) :
    passOne accepts cs (cs.tails.map p) =
      cs.tails.map fun
        | [] => false
        | c :: rest => accepts c && p rest := by
  induction cs with
  | nil => rfl
  | cons c cs ih =>
    cases cs with
    | nil => rfl
    | cons d cs =>
      simp only [List.tails_cons, List.map_cons] at ih ⊢
      rw [passOne, ih]

theorem replicate_append_eq_tails (cs : List Char) :
    List.replicate cs.length false ++ [true] = cs.tails.map fun rest ↦ decide (rest = []) := by
  induction cs with
  | nil => rfl
  | cons c cs ih => rw [List.tails_cons, List.map_cons, ← ih]; rfl

/-- The table of some characters says which suffix they are. -/
theorem table_verbatim (word cs : List Char) :
    table (verbatim word) cs = cs.tails.map fun rest ↦ decide (rest = word) := by
  induction word with
  | nil => exact replicate_append_eq_tails cs
  | cons c word ih =>
    change passOne (Token.char c).accepts cs (table (verbatim word) cs) = _
    rw [ih, passOne_tails]
    refine List.map_congr_left fun rest _ ↦ ?_
    cases rest with
    | nil => rfl
    | cons d rest => simp [Token.accepts, eq_comm]

/-- **The characters of a text match that text only.** -/
theorem isMatch_verbatim_iff {word : List Char} {text : String} :
    isMatch (verbatim word) text = true ↔ text.toList = word := by
  rw [isMatch, table_verbatim]
  cases text.toList <;> simp

end TenantView.Glob
