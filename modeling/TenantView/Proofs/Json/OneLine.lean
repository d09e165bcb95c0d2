import Mathlib.Data.List.Basic
import TenantView.Json.Printer

/-!
# The text of a value is one line

A value is printed without blanks, and the controls of its texts are escaped.  So none of the bytes
of its text is a control (`isPrintable_bytes`); in particular none is a newline, whatever the texts
in the value hold.
-/

namespace TenantView.Json

/-- No byte is a control. -/
def IsPrintable (bytes : Bytes) : Prop :=
  ∀ b ∈ bytes, Ascii.space ≤ b

instance (bytes : Bytes) : Decidable (IsPrintable bytes) :=
  decidable_of_iff (bytes.all (Ascii.space ≤ ·) = true) (by simp [IsPrintable])

@[simp] theorem isPrintable_nil : IsPrintable [] :=
  nofun

@[simp] theorem isPrintable_cons {b : UInt8} {bytes : Bytes} :
    IsPrintable (b :: bytes) ↔ Ascii.space ≤ b ∧ IsPrintable bytes :=
  List.forall_mem_cons

@[simp] theorem isPrintable_append {bytes rest : Bytes} :
    IsPrintable (bytes ++ rest) ↔ IsPrintable bytes ∧ IsPrintable rest :=
  List.forall_mem_append

theorem IsPrintable.newline_notMem {bytes : Bytes} (h : IsPrintable bytes) :
    Ascii.newline ∉ bytes :=
  fun hmem ↦ absurd (h _ hmem) (by decide)

/-! ## Numbers -/

theorem space_le_ofDigit {d : Nat} (h : d < 10) : Ascii.space ≤ Ascii.ofDigit d := by
  have hall : ∀ d < 10, Ascii.space ≤ Ascii.ofDigit d := by decide
  exact hall d h

namespace Notation

theorem isPrintable_digitBytes {ds : List Nat} (h : ∀ d ∈ ds, d < 10) :
    IsPrintable (digitBytes ds) := by
  rintro b hb
  obtain ⟨d, hd, rfl⟩ := List.mem_map.mp hb
  exact space_le_ofDigit (h d hd)

theorem isPrintable_decimal (n : Nat) : IsPrintable (Decimal.bytes n) :=
  isPrintable_digitBytes fun _ ↦ Decimal.lt_ten_of_mem_digits

theorem isPrintable_sign (negative : Bool) : IsPrintable (sign negative) := by
  cases negative <;> decide

theorem isPrintable_exponentPart (exponent : Int) : IsPrintable (exponentPart exponent) := by
  simp only [exponentPart, isPrintable_cons]
  refine ⟨by decide, ?_, isPrintable_decimal _⟩
  split <;> decide

/-- Whatever place the point has, only digits are written around it. -/
theorem isPrintable_positive (format : Notation) (m : Nat) (exponent : Int) :
    IsPrintable (format.positive m exponent) := by
  have hdigits : ∀ d ∈ Decimal.digits m, d < 10 := fun _ ↦ Decimal.lt_ten_of_mem_digits
  have hzeros : ∀ n, ∀ d ∈ List.replicate n 0, d < 10 := by
    intro n d hd
    obtain rfl := List.eq_of_mem_replicate hd
    decide
  have htake : ∀ n, ∀ d ∈ (Decimal.digits m).take n, d < 10 :=
    fun n d hd ↦ hdigits d (List.mem_of_mem_take hd)
  have hdrop : ∀ n, ∀ d ∈ (Decimal.digits m).drop n, d < 10 :=
    fun n d hd ↦ hdigits d (List.mem_of_mem_drop hd)
  unfold positive
  simp only
  split
  · split
    · refine isPrintable_append.mpr ⟨isPrintable_digitBytes ?_, by decide⟩
      exact List.forall_mem_append.mpr ⟨hdigits, hzeros _⟩
    · split
      · exact isPrintable_append.mpr ⟨isPrintable_digitBytes (htake _),
          isPrintable_cons.mpr ⟨by decide, isPrintable_digitBytes (hdrop _)⟩⟩
      · refine isPrintable_cons.mpr ⟨by decide, isPrintable_cons.mpr ⟨by decide, ?_⟩⟩
        exact isPrintable_digitBytes (List.forall_mem_append.mpr ⟨hzeros _, hdigits⟩)
  · refine isPrintable_append.mpr ⟨isPrintable_append.mpr ⟨isPrintable_digitBytes (htake 1), ?_⟩,
      isPrintable_exponentPart _⟩
    split
    · exact isPrintable_nil
    · exact isPrintable_cons.mpr ⟨by decide, isPrintable_digitBytes (hdrop 1)⟩

theorem isPrintable_double (format : Notation) (d : Double) : IsPrintable (format.double d) := by
  refine isPrintable_append.mpr ⟨isPrintable_sign _, ?_⟩
  split
  · decide
  · exact format.isPrintable_positive _ _

end Notation

theorem isPrintable_number (n : Number) : IsPrintable n.bytes := by
  cases n with
  | whole value inRange =>
    exact isPrintable_append.mpr ⟨Notation.isPrintable_sign _, Notation.isPrintable_decimal _⟩
  | real value => exact Notation.isPrintable_double _ _

/-! ## Texts and values -/

/-- What stands for a control is no control. -/
theorem isPrintable_escapeByte (b : UInt8) : IsPrintable (escapeByte b) := by
  have hall : ∀ n < 256, IsPrintable (escapeByte n.toUInt8) := by
    decide +kernel
  have hb : b.toNat.toUInt8 = b := by simp
  exact hb ▸ hall b.toNat b.toNat_lt

theorem isPrintable_emitText (s : String) {rest : Bytes} (h : IsPrintable rest) :
    IsPrintable (emitText s rest) := by
  refine isPrintable_cons.mpr ⟨by decide, isPrintable_append.mpr ⟨fun b hb ↦ ?_, ?_⟩⟩
  · obtain ⟨plain, -, hescape⟩ := List.mem_flatMap.mp hb
    exact isPrintable_escapeByte plain b hescape
  · exact isPrintable_cons.mpr ⟨by decide, h⟩

namespace Value

mutual

/-- The text of a value adds no control to what stands behind it. -/
theorem isPrintable_emit : (v : Value) → {rest : Bytes} → IsPrintable rest →
    IsPrintable (v.emit rest)
  | null, _, h => by simpa +decide [emit] using h
  | boolean true, _, h => by simpa +decide [emit] using h
  | boolean false, _, h => by simpa +decide [emit] using h
  | number n, _, h => isPrintable_append.mpr ⟨isPrintable_number n, h⟩
  | string s, _, h => isPrintable_emitText s h
  | array [], _, h => by simpa +decide [emit] using h
  | array (v :: items), _, h =>
    isPrintable_cons.mpr ⟨by decide,
      isPrintable_emit v (isPrintable_emitItems items (isPrintable_cons.mpr ⟨by decide, h⟩))⟩
  | object [], _, h => by simpa +decide [emit] using h
  | object ((name, v) :: members), rest, h => by
    have hclosed : IsPrintable (Ascii.closeBrace :: rest) := isPrintable_cons.mpr ⟨by decide, h⟩
    have hvalue := isPrintable_emit v (isPrintable_emitMembers members hclosed)
    exact isPrintable_cons.mpr ⟨by decide,
      isPrintable_emitText name (isPrintable_cons.mpr ⟨by decide, hvalue⟩)⟩

theorem isPrintable_emitItems : (items : List Value) → {rest : Bytes} → IsPrintable rest →
    IsPrintable (emitItems items rest)
  | [], _, h => h
  | v :: items, _, h =>
    isPrintable_cons.mpr ⟨by decide, isPrintable_emit v (isPrintable_emitItems items h)⟩

theorem isPrintable_emitMembers : (members : List (String × Value)) → {rest : Bytes} →
    IsPrintable rest → IsPrintable (emitMembers members rest)
  | [], _, h => h
  | (name, v) :: members, _, h => by
    have hvalue := isPrintable_emit v (isPrintable_emitMembers members h)
    exact isPrintable_cons.mpr ⟨by decide,
      isPrintable_emitText name (isPrintable_cons.mpr ⟨by decide, hvalue⟩)⟩

end

/-- **No byte of the text of a value is a control.** -/
theorem isPrintable_bytes (v : Value) : IsPrintable v.bytes :=
  v.isPrintable_emit isPrintable_nil

end Value

end TenantView.Json
