import TenantView.Json.Printer
import TenantView.Json.TextReader

/-!
# Quoted text reads back

Reading between quotes undoes escaping byte by byte: what stands for a byte is read as that byte,
whatever was taken before and whatever follows (`unescape_escapeByte`).  Hence a quoted text is
read as itself (`readText_emit`).
-/

namespace TenantView.Json

/-- The four digits that stand for a control spell its number. -/
theorem hexUnit?_control {b : UInt8} (h : b < Ascii.space) :
    hexUnit? Ascii.zero Ascii.zero (Ascii.ofHexDigit (b.toNat / 16))
      (Ascii.ofHexDigit (b.toNat % 16)) = some b.toNat := by
  have hall : ∀ n < 32, hexUnit? Ascii.zero Ascii.zero (Ascii.ofHexDigit (n / 16))
      (Ascii.ofHexDigit (n % 16)) = some n := by decide
  exact hall b.toNat h

/-- The code of a control is spelled by one byte. -/
theorem pushCode_control {b : UInt8} (h : b < Ascii.space) (taken : Bytes) :
    pushCode b.toNat taken = b :: taken := by
  have hall : ∀ n < 32, String.utf8EncodeChar (Char.ofNat n) = [n.toUInt8] := by decide
  rw [pushCode, hall b.toNat h]
  simp

/-- The number of a control is no surrogate. -/
theorem not_surrogate_control {b : UInt8} (h : b < Ascii.space) :
    isTrailingSurrogate b.toNat = false ∧ isLeadingSurrogate b.toNat = false := by
  have hlt : b.toNat < 32 := h
  simp only [isTrailingSurrogate, isLeadingSurrogate, Bool.and_eq_false_iff,
    decide_eq_false_iff_not]
  omega

/-- A byte that needs no escape is taken as it stands. -/
theorem unescape_plain {b : UInt8} (hquote : b ≠ Ascii.quote) (hbackslash : b ≠ Ascii.backslash)
    (hcontrol : ¬ b < Ascii.space) (taken rest : Bytes) :
    unescape taken (b :: rest) = unescape (b :: taken) rest := by
  rw [unescape.eq_def]
  split
  case h_6 heq =>
    obtain ⟨rfl, rfl⟩ := List.cons.inj heq
    exact if_neg hcontrol
  all_goals simp_all

/-- An escape by number is read as the character with that number. -/
theorem unescape_unit {a b c d : UInt8} {unit : Nat} (hunit : hexUnit? a b c d = some unit)
    (htrailing : isTrailingSurrogate unit = false) (hleading : isLeadingSurrogate unit = false)
    (taken rest : Bytes) :
    unescape taken (Ascii.backslash :: Ascii.lowerU :: a :: b :: c :: d :: rest) =
      unescape (pushCode unit taken) rest := by
  refine (unescape.eq_4 taken a b c d rest).trans ?_
  simp only [hunit, htrailing, hleading, Bool.false_eq_true, if_false]

/-- What stands for a byte is read as that byte. -/
theorem unescape_escapeByte (b : UInt8) (taken rest : Bytes) :
    unescape taken (escapeByte b ++ rest) = unescape (b :: taken) rest := by
  unfold escapeByte
  split
  case h_8 hquote hbackslash _ _ _ _ _ =>
    split
    · next hcontrol =>
      obtain ⟨htrailing, hleading⟩ := not_surrogate_control hcontrol
      rw [← pushCode_control hcontrol taken]
      exact unescape_unit (hexUnit?_control hcontrol) htrailing hleading taken rest
    · next hcontrol =>
      exact unescape_plain hquote hbackslash hcontrol taken rest
  all_goals rfl

/-- Escaped bytes up to the closing quote are read as they were. -/
theorem unescape_flatMap (bytes taken rest : Bytes) :
    unescape taken (bytes.flatMap escapeByte ++ Ascii.quote :: rest) =
      .done (taken.reverse ++ bytes) rest := by
  induction bytes generalizing taken with
  | nil =>
    rw [List.append_nil]
    rfl
  | cons b bytes ih =>
    rw [List.flatMap_cons, List.append_assoc, unescape_escapeByte, ih]
    simp

/-- A quoted text is read as itself. -/
theorem readText_emit (s : String) (rest : Bytes) :
    readText ((Text.toBytes s).flatMap escapeByte ++ Ascii.quote :: rest) = .done s rest := by
  simp [readText, unescape_flatMap]

end TenantView.Json
