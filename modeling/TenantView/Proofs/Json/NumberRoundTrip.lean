import TenantView.Json.NumberReader
import TenantView.Json.Printer
import TenantView.Proofs.Number.Scaling

/-!
# Numbers read back

A printed number is read as the same number, provided that what follows cannot go on with it
(`EndsNumber`).  An integer is read digit by digit.  The text of a double has the digits of its
shortest decimal, with a point and an exponent that undo each other; since the shortest decimal
reads back, so does the text (`readNumber_bytes`).
-/

namespace TenantView.Json

open Notation

/-- What follows a number does not go on with it. -/
def EndsNumber (rest : Bytes) : Prop :=
  ∀ b ∈ rest.head?, Ascii.isDigit b = false ∧ b ≠ Ascii.point ∧ b ≠ Ascii.lowerE ∧
    b ≠ Ascii.upperE

/-- What follows digits does not go on with them. -/
def EndsDigits (rest : Bytes) : Prop :=
  ∀ b ∈ rest.head?, Ascii.isDigit b = false

theorem EndsNumber.endsDigits {rest : Bytes} (h : EndsNumber rest) : EndsDigits rest :=
  fun b hb ↦ (h b hb).1

theorem endsDigits_cons {b : UInt8} (h : Ascii.isDigit b = false) (rest : Bytes) :
    EndsDigits (b :: rest) := by
  intro c hc
  cases hc
  exact h

/-! ## Digits -/

theorem isDigit_ofDigit {d : Nat} (h : d < 10) : Ascii.isDigit (Ascii.ofDigit d) = true := by
  have hall : ∀ d < 10, Ascii.isDigit (Ascii.ofDigit d) = true := by decide
  exact hall d h

theorem digitValue_ofDigit {d : Nat} (h : d < 10) : Ascii.digitValue (Ascii.ofDigit d) = d := by
  have hall : ∀ d < 10, Ascii.digitValue (Ascii.ofDigit d) = d := by decide
  exact hall d h

theorem ofDigit_eq_zero_iff {d : Nat} (h : d < 10) : Ascii.ofDigit d = Ascii.zero ↔ d = 0 := by
  have hall : ∀ d < 10, Ascii.ofDigit d = Ascii.zero ↔ d = 0 := by decide
  exact hall d h

/-- The digits in front of something else are taken, and just these. -/
theorem takeDigits_digitBytes {ds : List Nat} (hds : ∀ d ∈ ds, d < 10) {rest : Bytes}
    (hrest : EndsDigits rest) : takeDigits (digitBytes ds ++ rest) = (digitBytes ds, rest) := by
  have hall : ∀ b ∈ digitBytes ds, Ascii.isDigit b = true := by
    intro b hb
    obtain ⟨d, hd, rfl⟩ := List.mem_map.mp hb
    exact isDigit_ofDigit (hds d hd)
  have hstop : rest.takeWhile Ascii.isDigit = [] ∧ rest.dropWhile Ascii.isDigit = rest := by
    cases rest with
    | nil => exact ⟨rfl, rfl⟩
    | cons b rest =>
      have hb : Ascii.isDigit b = false := hrest b rfl
      simp [hb]
  rw [takeDigits, List.takeWhile_append_of_pos hall, List.dropWhile_append_of_pos hall, hstop.1,
    hstop.2, List.append_nil]

/-- Digits are read by Horner's rule. -/
theorem extendDigits_digitBytes (n : Nat) {ds : List Nat} (hds : ∀ d ∈ ds, d < 10) :
    extendDigits n (digitBytes ds) = ds.foldl (fun n d ↦ 10 * n + d) n := by
  induction ds generalizing n with
  | nil => rfl
  | cons d ds ih =>
    have hd := digitValue_ofDigit (hds d (by simp))
    have htail := ih (10 * n + d) fun x hx ↦ hds x (by simp [hx])
    simp only [extendDigits, digitBytes, List.map_cons, List.foldl_cons, hd] at htail ⊢
    exact htail

/-- The digits of an integer part: zero alone, or digits that do not begin with zero. -/
structure IsIntegerPart (ds : List Nat) : Prop where
  lt_ten : ∀ d ∈ ds, d < 10
  head : ds = [0] ∨ ∃ d rest, ds = d :: rest ∧ d ≠ 0

theorem isIntegerPart_digits (n : Nat) : IsIntegerPart (Decimal.digits n) := by
  refine ⟨fun d hd ↦ Decimal.lt_ten_of_mem_digits hd, ?_⟩
  by_cases hn : n = 0
  · exact .inl (hn ▸ Decimal.digits_zero)
  · exact .inr (Decimal.digits_eq_cons hn)

/-- An integer part is read up to its last digit. -/
theorem readIntegerPart_digitBytes {ds : List Nat} (hds : IsIntegerPart ds) {rest : Bytes}
    (hrest : EndsDigits rest) :
    readIntegerPart (digitBytes ds ++ rest) = .done (Decimal.ofDigits ds) rest := by
  obtain ⟨hlt, rfl | ⟨d, more, rfl, hd⟩⟩ := hds
  · cases rest with
    | nil => rfl
    | cons b rest =>
      have hb : Ascii.isDigit b = false := hrest b rfl
      change (if Ascii.isDigit b then _ else _) = _
      rw [hb]
      rfl
  · have hten := hlt d (by simp)
    have hmore : ∀ x ∈ more, x < 10 := fun x hx ↦ hlt x (by simp [hx])
    have hzero : Ascii.ofDigit d ≠ Ascii.zero := mt (ofDigit_eq_zero_iff hten).mp hd
    have hfold := extendDigits_digitBytes d hmore
    simp only [digitBytes, List.map_cons, List.cons_append, readIntegerPart, if_neg hzero,
      isDigit_ofDigit hten, if_true, digitValue_ofDigit hten]
    rw [← digitBytes, takeDigits_digitBytes hmore hrest]
    simp only [hfold, Decimal.ofDigits, List.foldl_cons, Nat.mul_zero, Nat.zero_add]

/-! ## The parts of a number -/

/-- A number that has only an integer part is taken as such. -/
theorem readUnsigned_integer (negative : Bool) (n : Nat) {rest : Bytes} (hrest : EndsNumber rest) :
    readUnsigned negative (Decimal.bytes n ++ rest) = ofIntegerPart negative n rest := by
  have hpart := readIntegerPart_digitBytes (isIntegerPart_digits n) hrest.endsDigits
  rw [digitBytes, ← Decimal.bytes, Decimal.ofDigits_digits] at hpart
  rw [readUnsigned, hpart, Outcome.andThen_done]
  cases rest with
  | nil => rfl
  | cons b rest =>
    obtain ⟨-, hpoint, hlower, hupper⟩ := hrest b rfl
    split <;> simp_all

/-- The digits of an exponent are read as long as they do not pass the greatest one. -/
theorem readExponentDigits_digitBytes (n : Nat) {ds : List Nat} (hds : ∀ d ∈ ds, d < 10)
    (hle : ds.foldl (fun n d ↦ 10 * n + d) n ≤ greatestExponent) {rest : Bytes}
    (hrest : EndsDigits rest) :
    readExponentDigits n (digitBytes ds ++ rest) =
      (some (ds.foldl (fun n d ↦ 10 * n + d) n), rest) := by
  induction ds generalizing n with
  | nil =>
    cases rest with
    | nil => rfl
    | cons b rest =>
      have hb : Ascii.isDigit b = false := hrest b rfl
      simp [digitBytes, readExponentDigits, hb]
  | cons d ds ih =>
    have hten := hds d (by simp)
    have hgrow := Decimal.le_foldl_digits (10 * n + d) ds
    have hsmall : ¬ greatestExponent < 10 * n + d := by
      rw [List.foldl_cons] at hle
      omega
    have htail := ih (10 * n + d) (fun x hx ↦ hds x (by simp [hx])) hle
    simp only [digitBytes, List.map_cons, List.cons_append, readExponentDigits,
      isDigit_ofDigit hten, if_true, digitValue_ofDigit hten, if_neg hsmall, List.foldl_cons]
    exact htail

/-- Behind its sign an exponent is read from its first digit on. -/
theorem readExponent_sign (negative down : Bool) (digits places : Nat) (b : UInt8) (rest : Bytes) :
    readExponent negative digits places
        ((if down then Ascii.minus else Ascii.plus) :: b :: rest) =
      if Ascii.isDigit b then
        match readExponentDigits (Ascii.digitValue b) rest with
        | (some e, rest) =>
          finishReal negative digits ((if down then -(e : Int) else e) - places) rest
        | (none, rest) =>
          if digits ≠ 0 ∧ down = false then failHere .numberOutOfRange rest
          else .done (.real { Double.zero with negative }) (rest.dropWhile Ascii.isDigit)
      else failHere .invalidNumber rest := by
  cases down <;> rfl

/-- A written exponent behind its sign is read. -/
theorem readExponent_bytes (negative down : Bool) (digits places : Nat) {n : Nat}
    (hn : n ≤ greatestExponent) {rest : Bytes} (hrest : EndsDigits rest) :
    readExponent negative digits places
        ((if down then Ascii.minus else Ascii.plus) :: (Decimal.bytes n ++ rest)) =
      finishReal negative digits ((if down then -(n : Int) else n) - places) rest := by
  have hvalue := Decimal.ofDigits_digits n
  have hlt : ∀ d ∈ Decimal.digits n, d < 10 := fun d hd ↦ Decimal.lt_ten_of_mem_digits hd
  obtain ⟨d, ds, hds⟩ := List.exists_cons_of_ne_nil (Decimal.digits_ne_nil n)
  rw [hds] at hvalue hlt
  have hten := hlt d (by simp)
  have hfold : ds.foldl (fun n d ↦ 10 * n + d) d = n := by
    simpa [Decimal.ofDigits] using hvalue
  have hread := readExponentDigits_digitBytes d (fun x hx ↦ hlt x (by simp [hx]))
    (hfold ▸ hn) hrest
  rw [hfold] at hread
  have hbytes : Decimal.bytes n ++ rest = Ascii.ofDigit d :: (digitBytes ds ++ rest) := by
    rw [Decimal.bytes, hds]
    rfl
  rw [hbytes, readExponent_sign, isDigit_ofDigit hten, digitValue_ofDigit hten, hread]
  rfl

/-- A written exponent is read. -/
theorem readExponent_exponentPart (negative : Bool) (digits places : Nat) {e : Int}
    (he : e.natAbs ≤ greatestExponent) {rest : Bytes} (hrest : EndsDigits rest) :
    readExponent negative digits places ((exponentPart e).tail ++ rest) =
      finishReal negative digits (e - places) rest := by
  have hread := readExponent_bytes negative (decide (e < 0)) digits places he hrest
  have hvalue : (if e < 0 then -(e.natAbs : Int) else e.natAbs) = e := by
    split <;> omega
  simp only [decide_eq_true_eq, hvalue] at hread
  exact hread

/-- What is read behind the digits of a fraction: an exponent, or nothing. -/
def readBehindFraction (negative : Bool) (digits places : Nat) : Reader Number
  | Ascii.lowerE :: rest => readExponent negative digits places rest
  | Ascii.upperE :: rest => readExponent negative digits places rest
  | rest => finishReal negative digits (-places) rest

/-- Digits behind the point are taken, and what is read next is up to what follows them. -/
theorem readFraction_digitBytes (negative : Bool) (whole : Nat) {ds : List Nat}
    (hds : ∀ d ∈ ds, d < 10) (hne : ds ≠ []) {rest : Bytes} (hrest : EndsDigits rest) :
    readFraction negative whole (digitBytes ds ++ rest) =
      readBehindFraction negative (ds.foldl (fun n d ↦ 10 * n + d) whole) ds.length rest := by
  have hvalue := extendDigits_digitBytes whole hds
  have hlength : (digitBytes ds).length = ds.length := List.length_map ..
  rw [readFraction, takeDigits_digitBytes hds hrest, ← hvalue, ← hlength]
  obtain ⟨d, ds, rfl⟩ := List.exists_cons_of_ne_nil hne
  rfl

/-- A fraction with nothing behind it is read. -/
theorem readUnsigned_fraction (negative : Bool) {whole fraction : List Nat}
    (hwhole : IsIntegerPart whole) (hfraction : ∀ d ∈ fraction, d < 10) (hne : fraction ≠ [])
    {rest : Bytes} (hrest : EndsNumber rest) :
    readUnsigned negative (digitBytes whole ++ Ascii.point :: (digitBytes fraction ++ rest)) =
      finishReal negative (Decimal.ofDigits (whole ++ fraction)) (-fraction.length) rest := by
  have hpart := readIntegerPart_digitBytes hwhole
    (endsDigits_cons (by decide) (digitBytes fraction ++ rest) : EndsDigits (Ascii.point :: _))
  rw [readUnsigned, hpart, Outcome.andThen_done]
  change readFraction negative _ (digitBytes fraction ++ rest) = _
  rw [readFraction_digitBytes negative _ hfraction hne hrest.endsDigits, Decimal.ofDigits,
    Decimal.ofDigits, List.foldl_append]
  cases rest with
  | nil => rfl
  | cons b rest =>
    obtain ⟨-, -, hlower, hupper⟩ := hrest b rfl
    unfold readBehindFraction
    split <;> simp_all

/-- A number with an exponent is read, with a fraction or without one. -/
theorem readUnsigned_exponent (negative : Bool) {whole fraction : List Nat}
    (hwhole : IsIntegerPart whole) (hfraction : ∀ d ∈ fraction, d < 10) {e : Int}
    (he : e.natAbs ≤ greatestExponent) {rest : Bytes} (hrest : EndsDigits rest) :
    readUnsigned negative (digitBytes whole ++
        ((if fraction.isEmpty then [] else Ascii.point :: digitBytes fraction) ++
          (exponentPart e ++ rest))) =
      finishReal negative (Decimal.ofDigits (whole ++ fraction)) (e - fraction.length) rest := by
  have hletter : EndsDigits (exponentPart e ++ rest) := endsDigits_cons (by decide) _
  cases fraction with
  | nil =>
    have hpart := readIntegerPart_digitBytes hwhole hletter
    rw [List.isEmpty_nil, if_pos rfl, List.nil_append, readUnsigned, hpart, Outcome.andThen_done,
      List.append_nil]
    exact readExponent_exponentPart negative _ 0 he hrest
  | cons d ds =>
    have hpart := readIntegerPart_digitBytes hwhole (endsDigits_cons (by decide)
      (digitBytes (d :: ds) ++ (exponentPart e ++ rest)) : EndsDigits (Ascii.point :: _))
    have hexponent := readExponent_exponentPart negative
      (Decimal.ofDigits (whole ++ d :: ds)) (d :: ds).length he hrest
    rw [List.isEmpty_cons, if_neg Bool.false_ne_true, List.cons_append, readUnsigned, hpart,
      Outcome.andThen_done]
    change readFraction negative _ (digitBytes (d :: ds) ++ (exponentPart e ++ rest)) = _
    rw [readFraction_digitBytes negative _ hfraction (by simp) hletter, ← hexponent,
      Decimal.ofDigits, Decimal.ofDigits, List.foldl_append]
    rfl

/-! ## Doubles -/

theorem finishReal_eq_done {negative : Bool} {digits : Nat} {e : Int} {d : Double}
    (h : Double.ofDecimal negative digits e = some d) (rest : Bytes) :
    finishReal negative digits e rest = .done (.real d) rest := by
  rw [finishReal, h]

section Positive

variable {negative : Bool} {ds : List Nat} {x : Int} {d : Double} {rest : Bytes}
  (hds : ∀ n ∈ ds, n < 10) (hhead : ∃ first more, ds = first :: more ∧ first ≠ 0)
  (hread : Double.ofDecimal negative (Decimal.ofDigits ds) x = some d) (hrest : EndsNumber rest)

include hds hhead hread hrest

/-- Digits, zeros up to the point, and a zero behind it. -/
private theorem readUnsigned_pointBehind (hx : 0 ≤ x) (hne : Decimal.ofDigits ds ≠ 0) :
    readUnsigned negative (digitBytes (ds ++ List.replicate x.toNat 0) ++
      Ascii.point :: (digitBytes [0] ++ rest)) = .done (.real d) rest := by
  obtain ⟨first, more, rfl, hfirst⟩ := hhead
  have hwhole : IsIntegerPart (first :: more ++ List.replicate x.toNat 0) := by
    refine ⟨fun n hn ↦ ?_, .inr ⟨first, more ++ List.replicate x.toNat 0, rfl, hfirst⟩⟩
    rcases List.mem_append.mp hn with hn | hn
    · exact hds n hn
    · rw [List.eq_of_mem_replicate hn]
      decide
  have hvalue : Decimal.ofDigits (first :: more ++ List.replicate x.toNat 0 ++ [0]) =
      Decimal.ofDigits (first :: more) * Decimal.scale (x.toNat + 1) := by
    rw [Decimal.ofDigits_append_singleton, Decimal.ofDigits_append_zeros, Decimal.scale_succ]
    ring
  rw [readUnsigned_fraction negative hwhole (by simp) (by simp) hrest, hvalue]
  refine finishReal_eq_done ?_ rest
  rw [Double.ofDecimal_mul_scale negative hne, ← hread, List.length_singleton]
  congr 1
  omega

/-- Digits with the point among them. -/
private theorem readUnsigned_pointAmong (hx : x < 0) (hpoint : 0 < ds.length + x) :
    readUnsigned negative (digitBytes (ds.take (ds.length + x).toNat) ++
      Ascii.point :: (digitBytes (ds.drop (ds.length + x).toNat) ++ rest)) =
        .done (.real d) rest := by
  have hwhole : IsIntegerPart (ds.take (ds.length + x).toNat) := by
    refine ⟨fun n hn ↦ hds n (List.mem_of_mem_take hn), .inr ?_⟩
    obtain ⟨first, more, hcons, hfirst⟩ := hhead
    obtain ⟨k, hk⟩ : ∃ k, (ds.length + x).toNat = k + 1 := ⟨(ds.length + x).toNat - 1, by omega⟩
    exact ⟨first, more.take k, by rw [hk, hcons, List.take_succ_cons], hfirst⟩
  have hne : ds.drop (ds.length + x).toNat ≠ [] := by
    rw [Ne, List.drop_eq_nil_iff]
    omega
  rw [readUnsigned_fraction negative hwhole (fun n hn ↦ hds n (List.mem_of_mem_drop hn)) hne hrest,
    List.take_append_drop, List.length_drop]
  refine finishReal_eq_done ?_ rest
  rw [← hread]
  congr 1
  omega

/-- The point, zeros behind it, and digits. -/
private theorem readUnsigned_pointBefore (hpoint : ds.length + x ≤ 0) :
    readUnsigned negative (digitBytes [0] ++
      Ascii.point :: (digitBytes (List.replicate (-(ds.length + x)).toNat 0 ++ ds) ++ rest)) =
        .done (.real d) rest := by
  obtain ⟨first, more, rfl, -⟩ := hhead
  have hfraction : ∀ n ∈ List.replicate (-((first :: more).length + x)).toNat 0 ++ first :: more,
      n < 10 := by
    intro n hn
    rcases List.mem_append.mp hn with hn | hn
    · rw [List.eq_of_mem_replicate hn]
      decide
    · exact hds n hn
  have hvalue : Decimal.ofDigits
      ([0] ++ (List.replicate (-((first :: more).length + x)).toNat 0 ++ first :: more)) =
        Decimal.ofDigits (first :: more) := by
    rw [show [0] = List.replicate 1 0 from rfl, Decimal.ofDigits_zeros_append,
      Decimal.ofDigits_zeros_append]
  rw [readUnsigned_fraction negative ⟨by simp, .inl rfl⟩ hfraction (by simp) hrest, hvalue]
  refine finishReal_eq_done ?_ rest
  rw [← hread, List.length_append, List.length_replicate]
  congr 1
  omega

/-- One digit, the others behind the point, and an exponent. -/
private theorem readUnsigned_scientific
    (he : ((ds.length : Int) + x - 1).natAbs ≤ greatestExponent) :
    readUnsigned negative (digitBytes (ds.take 1) ++
      ((if (ds.drop 1).isEmpty then [] else Ascii.point :: digitBytes (ds.drop 1)) ++
        (exponentPart (ds.length + x - 1) ++ rest))) = .done (.real d) rest := by
  obtain ⟨first, more, rfl, hfirst⟩ := hhead
  have hwhole : IsIntegerPart ((first :: more).take 1) :=
    ⟨fun n hn ↦ hds n (List.mem_of_mem_take hn), .inr ⟨first, [], rfl, hfirst⟩⟩
  rw [readUnsigned_exponent negative hwhole (fun n hn ↦ hds n (List.mem_of_mem_drop hn)) he
    hrest.endsDigits, List.take_append_drop, List.length_drop, List.length_cons]
  refine finishReal_eq_done ?_ rest
  rw [← hread]
  congr 1
  omega

end Positive

/-- The text of a positive decimal is read as the double that the decimal is read as, whatever
notation it has. -/
theorem readUnsigned_positive (format : Notation) {negative : Bool} {m : Nat} {x : Int}
    {d : Double} (h : Double.ofDecimal negative m x = some d) (hd : d.code ≠ 0) {rest : Bytes}
    (hrest : EndsNumber rest) :
    readUnsigned negative (format.positive m x ++ rest) = .done (.real d) rest := by
  obtain ⟨hm, hlow, hhigh⟩ := Double.places_of_ofDecimal h hd
  have hhead := Decimal.digits_eq_cons hm
  have hlt : ∀ n ∈ Decimal.digits m, n < 10 := fun n hn ↦ Decimal.lt_ten_of_mem_digits hn
  have hvalue := Decimal.ofDigits_digits m
  rw [← Decimal.length_digits] at hlow hhigh
  rw [← hvalue] at h hm
  unfold positive
  simp only
  split
  · split
    · next hx =>
      rw [List.append_assoc]
      exact readUnsigned_pointBehind hlt hhead h hrest hx hm
    · split
      · next hx hpoint =>
        rw [List.append_assoc]
        exact readUnsigned_pointAmong hlt hhead h hrest (by omega) hpoint
      · next hx hpoint =>
        exact readUnsigned_pointBefore hlt hhead h hrest (by omega)
  · have he : (((Decimal.digits m).length : Int) + x - 1).natAbs ≤ greatestExponent := by
      unfold greatestExponent
      omega
    rw [List.append_assoc, List.append_assoc]
    exact readUnsigned_scientific hlt hhead h hrest he

/-- The text of a double is read behind its sign as that double. -/
theorem readUnsigned_double (format : Notation) (d : Double) {rest : Bytes}
    (hrest : EndsNumber rest) :
    readUnsigned d.negative ((if d.code = 0 then [Ascii.zero, Ascii.point, Ascii.zero]
      else
        let c := d.shortest
        let (m, zeros) := Decimal.stripZeros 32 c.digits
        format.positive m (c.exponent + zeros)) ++ rest) = .done (.real d) rest := by
  split
  · next hcode =>
    have hzero : ∀ d ∈ [0], d < 10 := by simp
    have hread := readUnsigned_fraction d.negative (isIntegerPart_digits 0) hzero (by simp) hrest
    rw [Decimal.digits_zero] at hread
    refine hread.trans (finishReal_eq_done ?_ rest)
    obtain ⟨negative, code, hlt⟩ := d
    cases hcode
    rfl
  · next hcode =>
    have hshortest := Double.ofDecimal_shortest d
    have hstrip := Decimal.stripZeros_mul_scale 32 d.shortest.digits
    have hne := (Double.places_of_ofDecimal hshortest hcode).1
    have hm : (Decimal.stripZeros 32 d.shortest.digits).1 ≠ 0 := by
      intro hzero
      rw [hzero, Nat.zero_mul] at hstrip
      exact hne hstrip.symm
    rw [← hstrip, Double.ofDecimal_mul_scale _ hm] at hshortest
    exact readUnsigned_positive format hshortest hcode hrest

/-! ## Numbers -/

/-- Behind its sign a number begins with a digit. -/
theorem isDigit_of_readUnsigned {negative : Bool} {bytes rest : Bytes} {n : Number}
    (h : readUnsigned negative bytes = .done n rest) :
    ∃ b tail, bytes = b :: tail ∧ Ascii.isDigit b = true := by
  cases bytes with
  | nil => cases h
  | cons b tail =>
    refine ⟨b, tail, rfl, ?_⟩
    by_contra hdigit
    have hzero : b ≠ Ascii.zero := fun heq ↦ hdigit (heq ▸ rfl)
    have hfail : readIntegerPart (b :: tail) = failHere .invalidNumber tail :=
      (if_neg hzero).trans (if_neg hdigit)
    rw [readUnsigned, hfail] at h
    cases h

/-- A number without a sign is read from its first digit on. -/
theorem readNumber_of_readUnsigned {bytes rest : Bytes} {n : Number}
    (h : readUnsigned false bytes = .done n rest) : readNumber bytes = .done n rest := by
  obtain ⟨b, tail, rfl, hdigit⟩ := isDigit_of_readUnsigned h
  unfold readNumber
  split
  · next heq =>
    cases heq
    cases hdigit
  · exact h

/-- A number begins with the minus sign or with a digit. -/
theorem start_of_readNumber {bytes rest : Bytes} {n : Number}
    (h : readNumber bytes = .done n rest) :
    ∃ b tail, bytes = b :: tail ∧ (b = Ascii.minus ∨ Ascii.isDigit b = true) := by
  unfold readNumber at h
  split at h
  · exact ⟨_, _, rfl, .inl rfl⟩
  · obtain ⟨b, tail, heq, hdigit⟩ := isDigit_of_readUnsigned h
    exact ⟨b, tail, heq, .inr hdigit⟩

/-- A number is read behind the sign that its text has. -/
theorem readNumber_sign {negative : Bool} {bytes rest : Bytes} {n : Number}
    (h : readUnsigned negative bytes = .done n rest) :
    readNumber (sign negative ++ bytes) = .done n rest := by
  cases negative with
  | true => exact h
  | false => exact readNumber_of_readUnsigned h

/-- **A printed number is read as itself.** -/
theorem readNumber_bytes (n : Number) {rest : Bytes} (hrest : EndsNumber rest) :
    readNumber (n.bytes ++ rest) = .done n rest := by
  cases n with
  | real d =>
    rw [Number.bytes, double, List.append_assoc]
    exact readNumber_sign (readUnsigned_double doubleNotation d hrest)
  | whole value inRange =>
    rw [Number.bytes, List.append_assoc]
    refine readNumber_sign ?_
    rw [readUnsigned_integer _ _ hrest, ofIntegerPart]
    have hhalf : (UInt64.size / 2 : Nat) = 9223372036854775808 := rfl
    have hsize : UInt64.size = 18446744073709551616 := rfl
    rcases lt_or_ge value 0 with hneg | hpos
    · have hbound : value.natAbs ≠ 0 ∧ value.natAbs ≤ UInt64.size / 2 := by omega
      rw [decide_eq_true hneg, if_pos rfl, dif_pos hbound]
      simp only [Number.ofNegated, show -(value.natAbs : Int) = value by omega]
    · have hbound : value.natAbs < UInt64.size := by omega
      rw [decide_eq_false (by omega), if_neg Bool.false_ne_true, dif_pos hbound]
      simp only [Number.ofNat, show (value.natAbs : Int) = value by omega]

end TenantView.Json
