import Mathlib.Order.Nat
import TenantView.Json.Skip

/-!
# Texts and numbers passed over

A text or a number that is read is passed over as well when nobody asks for it, up to the same
place (`Quoted.skipText_eq`, `skipNumber_of_readNumber`).  The converse fails: a text that is passed
over need not be UTF-8, and a number may be out of range.
-/

namespace TenantView.Json

/-! ## Texts -/

/-- The bytes lead, behind an opening quote, up to the closing quote, with the rest behind it. -/
inductive Quoted : Bytes → Bytes → Prop
  | close (rest : Bytes) : Quoted (Ascii.quote :: rest) rest
  | unit {a b c d : UInt8} {unit : Nat} {bytes rest : Bytes}
      (spelled : hexUnit? a b c d = some unit) (further : Quoted bytes rest) :
      Quoted (Ascii.backslash :: Ascii.lowerU :: a :: b :: c :: d :: bytes) rest
  | letter {letter b : UInt8} {bytes rest : Bytes} (ne : letter ≠ Ascii.lowerU)
      (escape : simpleEscape? letter = some b) (further : Quoted bytes rest) :
      Quoted (Ascii.backslash :: letter :: bytes) rest
  | plain {b : UInt8} {bytes rest : Bytes} (quote : b ≠ Ascii.quote)
      (backslash : b ≠ Ascii.backslash) (control : ¬ b < Ascii.space)
      (further : Quoted bytes rest) : Quoted (b :: bytes) rest

theorem quoted_of_unescape {taken bytes spelled rest : Bytes}
    (h : unescape taken bytes = .done spelled rest) : Quoted bytes rest := by
  fun_induction unescape taken bytes with
  | case2 taken rest =>
    cases h
    exact .close _
  | case9 taken a b c d leading hleading _ _ a' b' c' d' bytes trailing htrailing _ ih =>
    exact .unit hleading (.unit htrailing (ih h))
  | case14 taken a b c d bytes unit hunit _ _ ih => exact .unit hunit (ih h)
  | case16 taken letter bytes _ hne b hescape ih => exact .letter hne hescape (ih h)
  | case19 taken b bytes hquote hend _ hletter hcontrol ih =>
    refine .plain hquote (fun hbackslash ↦ ?_) hcontrol (ih h)
    cases bytes with
    | nil => exact hend hbackslash rfl
    | cons letter bytes => exact hletter letter bytes hbackslash rfl
  | _ => cases h

theorem Quoted.length_lt {bytes rest : Bytes} (h : Quoted bytes rest) :
    rest.length < bytes.length := by
  induction h with
  | close rest => exact Nat.lt_succ_self _
  | unit _ _ ih | letter _ _ _ ih | plain _ _ _ _ ih =>
    simp only [List.length_cons]
    omega

theorem skipText_plain {b : UInt8} (hquote : b ≠ Ascii.quote) (hbackslash : b ≠ Ascii.backslash)
    (hcontrol : ¬ b < Ascii.space) (bytes : Bytes) : skipText (b :: bytes) = skipText bytes := by
  rw [skipText.eq_def]
  split
  case h_6 heq =>
    obtain ⟨rfl, rfl⟩ := List.cons.inj heq
    exact if_neg hcontrol
  all_goals simp_all

theorem Quoted.skipText_eq {bytes rest : Bytes} (h : Quoted bytes rest) :
    skipText bytes = .done () rest := by
  induction h with
  | close rest => rfl
  | @unit a b c d unit bytes rest hunit _ ih =>
    refine (skipText.eq_4 a b c d bytes).trans ?_
    simp only [hunit, ih]
  | @letter letter b bytes rest hne hescape _ ih =>
    refine (skipText.eq_5 letter bytes fun _ _ _ _ _ hu _ ↦ hne hu).trans ?_
    rw [if_neg hne]
    simp only [hescape, ih]
  | plain hquote hbackslash hcontrol _ ih => rw [skipText_plain hquote hbackslash hcontrol, ih]

theorem quoted_of_readText {bytes rest : Bytes} {s : String} (h : readText bytes = .done s rest) :
    Quoted bytes rest := by
  rw [readText] at h
  cases hspelled : unescape [] bytes with
  | failed fault rest =>
    rw [hspelled] at h
    cases h
  | done spelled behind =>
    rw [hspelled, Outcome.andThen_done] at h
    split at h
    · cases h
      exact quoted_of_unescape hspelled
    · cases h

/-! ## Numbers -/

theorem finishReal_rest {negative : Bool} {digits : Nat} {e : Int} {bytes rest : Bytes}
    {n : Number} (h : finishReal negative digits e bytes = .done n rest) : rest = bytes := by
  rw [finishReal] at h
  split at h <;> cases h
  rfl

theorem ofIntegerPart_rest {negative : Bool} {whole : Nat} {bytes rest : Bytes} {n : Number}
    (h : ofIntegerPart negative whole bytes = .done n rest) : rest = bytes := by
  rw [ofIntegerPart] at h
  split at h <;> split at h
  · cases h
    rfl
  · exact finishReal_rest h
  · cases h
    rfl
  · exact finishReal_rest h

/-- The digits of an exponent that are not read are digits all the same. -/
theorem dropWhile_readExponentDigits (e : Nat) (bytes : Bytes) :
    ((readExponentDigits e bytes).1.isSome → (readExponentDigits e bytes).2 =
      bytes.dropWhile Ascii.isDigit) ∧
    (readExponentDigits e bytes).2.dropWhile Ascii.isDigit = bytes.dropWhile Ascii.isDigit := by
  induction bytes generalizing e with
  | nil => exact ⟨fun _ ↦ rfl, rfl⟩
  | cons b bytes ih =>
    rw [readExponentDigits]
    by_cases hdigit : Ascii.isDigit b = true
    · rw [if_pos hdigit, List.dropWhile_cons_of_pos hdigit]
      simp only
      split
      · exact ⟨nofun, rfl⟩
      · exact ih _
    · rw [if_neg hdigit, List.dropWhile_cons_of_neg hdigit]
      exact ⟨fun _ ↦ rfl, rfl⟩

/-- What skips the digits of an exponent behind its sign. -/
theorem dropWhile_of_readExponentDigits {negative down : Bool} {digits places e : Nat}
    {bytes rest : Bytes} {n : Number}
    (h : (match readExponentDigits e bytes with
      | (some e, rest) =>
        finishReal negative digits ((if down then -(e : Int) else e) - places) rest
      | (none, rest) =>
        if digits ≠ 0 ∧ down = false then failHere .numberOutOfRange rest
        else .done (.real { Double.zero with negative }) (rest.dropWhile Ascii.isDigit)) =
      .done n rest) : rest = bytes.dropWhile Ascii.isDigit := by
  obtain ⟨hsome, hall⟩ := dropWhile_readExponentDigits e bytes
  split at h
  · next e' behind heq =>
    rw [heq] at hsome
    exact (finishReal_rest h).trans (hsome rfl)
  · next behind heq =>
    rw [heq] at hall
    split at h <;> cases h
    exact hall

/-- The sign of an exponent, and what is left behind it. -/
def exponentSign : Bytes → Bool × Bytes
  | Ascii.plus :: rest => (false, rest)
  | Ascii.minus :: rest => (true, rest)
  | rest => (false, rest)

theorem snd_exponentSign (bytes : Bytes) :
    (exponentSign bytes).2 =
      match bytes with
      | Ascii.plus :: rest => rest
      | Ascii.minus :: rest => rest
      | rest => rest := by
  split
  · rfl
  · rfl
  · next hplus hminus => rw [exponentSign.eq_3 bytes hplus hminus]

theorem skipExponent_eq (bytes : Bytes) :
    skipExponent bytes =
      match (exponentSign bytes).2 with
      | [] => failHere .invalidNumber []
      | b :: rest =>
        if Ascii.isDigit b then .done () (rest.dropWhile Ascii.isDigit)
        else failHere .invalidNumber rest := by
  rw [snd_exponentSign]
  rfl

theorem skipExponent_of_readExponent {negative : Bool} {digits places : Nat} {bytes rest : Bytes}
    {n : Number} (h : readExponent negative digits places bytes = .done n rest) :
    skipExponent bytes = .done () rest := by
  rw [skipExponent_eq]
  unfold readExponent at h
  change (match (exponentSign bytes).2 with
    | [] => _
    | b :: rest => _) = _ at h
  split at h
  · cases h
  · next b behind heq =>
    split at h
    · next hdigit =>
      rw [dropWhile_of_readExponentDigits h]
      exact if_pos hdigit
    · cases h

theorem skipFraction_of_readFraction {negative : Bool} {whole : Nat} {bytes rest : Bytes}
    {n : Number} (h : readFraction negative whole bytes = .done n rest) :
    skipFraction bytes = .done () rest := by
  unfold readFraction at h
  unfold skipFraction
  simp only at h ⊢
  split at h
  · cases h
  · cases h
  · next hsome _ =>
    rw [if_neg (by simpa using hsome)]
    split at h
    · exact skipExponent_of_readExponent h
    · exact skipExponent_of_readExponent h
    · rw [finishReal_rest h]

/-- Skips what may stand behind the integer part of a number. -/
def skipBehindInteger : Reader Unit
  | Ascii.point :: rest => skipFraction rest
  | Ascii.lowerE :: rest => skipExponent rest
  | Ascii.upperE :: rest => skipExponent rest
  | rest => .done () rest

/-- An integer part that is read is skipped. -/
theorem skipUnsigned_of_readIntegerPart {bytes rest : Bytes} {n : Nat}
    (h : readIntegerPart bytes = .done n rest) : skipUnsigned bytes = skipBehindInteger rest := by
  cases bytes with
  | nil => cases h
  | cons b bytes =>
    rw [readIntegerPart.eq_def] at h
    rw [skipUnsigned.eq_def]
    simp only at h ⊢
    split at h
    · next hzero =>
      simp only [hzero, if_true]
      cases bytes with
      | nil =>
        cases h
        rfl
      | cons d bytes =>
        simp only at h ⊢
        split at h
        · cases h
        · next hdigit =>
          cases h
          simp only [hdigit, Bool.false_eq_true, if_false]
          rfl
    · next hzero =>
      simp only [hzero, if_false]
      split at h
      · next hdigit =>
        cases h
        simp only [hdigit, if_true]
        rfl
      · cases h

theorem skipUnsigned_of_readUnsigned {negative : Bool} {bytes rest : Bytes}
    {n : Number} (h : readUnsigned negative bytes = .done n rest) :
    skipUnsigned bytes = .done () rest := by
  rw [readUnsigned] at h
  cases hwhole : readIntegerPart bytes with
  | failed fault rest =>
    rw [hwhole] at h
    cases h
  | done whole behind =>
    rw [hwhole, Outcome.andThen_done] at h
    rw [skipUnsigned_of_readIntegerPart hwhole]
    split at h
    · exact skipFraction_of_readFraction h
    · exact skipExponent_of_readExponent h
    · exact skipExponent_of_readExponent h
    · next hpoint hlower hupper =>
      rw [ofIntegerPart_rest h, skipBehindInteger.eq_4 behind hpoint hlower hupper]

/-- A number that is read is skipped. -/
theorem skipNumber_of_readNumber {bytes rest : Bytes} {n : Number}
    (h : readNumber bytes = .done n rest) : skipNumber bytes = .done () rest := by
  unfold readNumber at h
  unfold skipNumber
  split at h
  · exact skipUnsigned_of_readUnsigned h
  · exact skipUnsigned_of_readUnsigned h

/-! ## What a number takes -/

theorem length_dropWhile_le (bytes : Bytes) :
    (bytes.dropWhile Ascii.isDigit).length ≤ bytes.length :=
  (List.dropWhile_suffix Ascii.isDigit).length_le

theorem length_le_of_skipExponent {bytes rest : Bytes} (h : skipExponent bytes = .done () rest) :
    rest.length ≤ bytes.length := by
  have hsign : (exponentSign bytes).2.length ≤ bytes.length := by
    unfold exponentSign
    split <;> simp
  rw [skipExponent_eq] at h
  split at h
  · cases h
  · next b behind heq =>
    rw [heq] at hsign
    split at h
    · cases h
      exact (length_dropWhile_le behind).trans ((Nat.le_succ _).trans hsign)
    · cases h

theorem length_le_of_skipFraction {bytes rest : Bytes} (h : skipFraction bytes = .done () rest) :
    rest.length ≤ bytes.length := by
  have hdigits : (takeDigits bytes).2.length ≤ bytes.length := length_dropWhile_le bytes
  unfold skipFraction at h
  simp only at h
  split at h
  · cases h
  · split at h
    · next behind heq =>
      rw [heq] at hdigits
      exact (length_le_of_skipExponent h).trans ((Nat.le_succ _).trans hdigits)
    · next behind heq =>
      rw [heq] at hdigits
      exact (length_le_of_skipExponent h).trans ((Nat.le_succ _).trans hdigits)
    · cases h
      exact hdigits

theorem length_le_of_skipBehindInteger {bytes rest : Bytes}
    (h : skipBehindInteger bytes = .done () rest) : rest.length ≤ bytes.length := by
  unfold skipBehindInteger at h
  split at h
  · exact (length_le_of_skipFraction h).trans (Nat.le_succ _)
  · exact (length_le_of_skipExponent h).trans (Nat.le_succ _)
  · exact (length_le_of_skipExponent h).trans (Nat.le_succ _)
  · cases h
    exact Nat.le_refl _

theorem length_lt_of_readIntegerPart {bytes rest : Bytes} {n : Nat}
    (h : readIntegerPart bytes = .done n rest) : rest.length < bytes.length := by
  unfold readIntegerPart at h
  split at h
  · cases h
  · next b bytes =>
    split at h
    · split at h
      · split at h <;> cases h
        exact Nat.lt_succ_self _
      · cases h
        exact Nat.lt_succ_self _
    · split at h
      · cases h
        exact Nat.lt_succ_of_le (length_dropWhile_le bytes)
      · cases h

/-- A number takes at least one byte. -/
theorem length_lt_of_readNumber {bytes rest : Bytes} {n : Number}
    (h : readNumber bytes = .done n rest) : rest.length < bytes.length := by
  have hunsigned : ∀ {negative : Bool} {bytes : Bytes},
      readUnsigned negative bytes = .done n rest → rest.length < bytes.length := by
    intro negative bytes h
    have hskip := skipUnsigned_of_readUnsigned h
    rw [readUnsigned] at h
    cases hwhole : readIntegerPart bytes with
    | failed fault rest =>
      rw [hwhole] at h
      cases h
    | done whole behind =>
      rw [skipUnsigned_of_readIntegerPart hwhole] at hskip
      exact (length_le_of_skipBehindInteger hskip).trans_lt (length_lt_of_readIntegerPart hwhole)
  unfold readNumber at h
  split at h
  · exact (hunsigned h).trans (Nat.lt_succ_self _)
  · exact hunsigned h
end TenantView.Json
