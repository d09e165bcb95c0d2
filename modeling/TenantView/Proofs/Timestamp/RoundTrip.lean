import TenantView.Proofs.Timestamp.Notation
import TenantView.Timestamp.Printer

/-!
# Timestamps read back

A timestamp is printed part by part in the notation in which timestamps are read
(`spelledBy_print`): fields have two digits, a year has four or a sign, and the fraction has the
digits that stand for the nanoseconds (`nanoseconds_fractionDigits`).  So the text of a timestamp
denotes it (`parse_text`).
-/

namespace TenantView.Timestamp

/-! ## Numbers -/

theorem lt_ten_of_mem_paddedDigits {width n d : Nat} (h : d ∈ Decimal.paddedDigits width n) :
    d < 10 := by
  rcases List.mem_append.mp h with h | h
  · rw [List.eq_of_mem_replicate h]
    decide
  · exact Decimal.lt_ten_of_mem_digits h

theorem paddedDigits_ne_nil (width n : Nat) : Decimal.paddedDigits width n ≠ [] :=
  List.append_ne_nil_of_right_ne_nil _ (Decimal.digits_ne_nil n)

theorem ofDigits_paddedDigits (width n : Nat) :
    Decimal.ofDigits (Decimal.paddedDigits width n) = n := by
  rw [Decimal.paddedDigits, Decimal.ofDigits_zeros_append, Decimal.ofDigits_digits]

theorem length_paddedDigits {width n : Nat} (hwidth : 0 < width) (h : n < Decimal.scale width) :
    (Decimal.paddedDigits width n).length = width := by
  have hcount := Decimal.digitCount_le hwidth h
  rw [Decimal.paddedDigits, List.length_append, List.length_replicate, Decimal.length_digits]
  omega

/-- A padded number is spelled by its digits. -/
theorem spellsNumber_padded (width n : Nat) : SpellsNumber (padded width n) n := by
  have hspells : SpellsNumber (padded width n) _ :=
    .intro (paddedDigits_ne_nil width n) fun d ↦ lt_ten_of_mem_paddedDigits
  rwa [ofDigits_paddedDigits] at hspells

theorem length_padded {width n : Nat} (hwidth : 0 < width) (h : n < Decimal.scale width) :
    (padded width n).length = width := by
  rw [padded, List.length_map, length_paddedDigits hwidth h]

theorem spellsField_padded {n : Nat} (h : n < 100) : SpellsField (padded 2 n) n :=
  ⟨spellsNumber_padded 2 n, (length_padded (by decide) h).le⟩

theorem spellsYear_printYear (year : Int) : SpellsYear (printYear year) year := by
  rw [printYear]
  split
  · next h =>
    have hbound : year.toNat < Decimal.scale 4 := by
      rw [show Decimal.scale 4 = 10000 from rfl]
      omega
    have hspells := SpellsYear.unsigned (spellsNumber_padded 4 year.toNat)
      (length_padded (by decide) hbound).le
    rwa [Int.toNat_of_nonneg h.1] at hspells
  · split
    · next hneg =>
      have hspells := SpellsYear.minus (spellsNumber_padded 4 year.natAbs)
      rwa [show -(year.natAbs : Int) = year by omega] at hspells
    · have hspells := SpellsYear.plus (spellsNumber_padded 4 year.natAbs)
      rwa [show (year.natAbs : Int) = year by omega] at hspells

/-! ## The fraction -/

/-- The digits of a printed fraction. -/
def fractionDigits (nanosecond : Nat) : List Nat :=
  if nanosecond = 0 then []
  else if nanosecond % 1000000 = 0 then Decimal.paddedDigits 3 (nanosecond / 1000000)
  else if nanosecond % 1000 = 0 then Decimal.paddedDigits 6 (nanosecond / 1000)
  else Decimal.paddedDigits 9 nanosecond

theorem spellsFraction_printFraction (n : Nat) :
    SpellsFraction (printFraction n) (fractionDigits n) := by
  have hpadded (width n : Nat) :
      SpellsFraction ('.' :: padded width n) (Decimal.paddedDigits width n) :=
    .digits (paddedDigits_ne_nil width n) fun d ↦ lt_ten_of_mem_paddedDigits
  rw [printFraction, fractionDigits]
  split_ifs
  · exact .none
  · exact hpadded 3 _
  · exact hpadded 6 _
  · exact hpadded 9 _

theorem nanoseconds_paddedDigits {width n : Nat} (hwidth : 0 < width) (hmost : width ≤ 9)
    (h : n < Decimal.scale width) :
    nanoseconds (Decimal.paddedDigits width n) = n * Decimal.scale (9 - width) := by
  have hlength := length_paddedDigits hwidth h
  rw [nanoseconds_of_length_le (hlength.trans_le hmost), hlength, ofDigits_paddedDigits]

/-- The digits of a printed fraction stand for its nanoseconds. -/
theorem nanoseconds_fractionDigits {n : Nat} (h : n < 1000000000) :
    nanoseconds (fractionDigits n) = n := by
  have hthree : Decimal.scale 3 = 1000 := rfl
  have hsix : Decimal.scale 6 = 1000000 := rfl
  rw [fractionDigits]
  split_ifs with hzero hmillis hmicros
  · exact hzero.symm
  · rw [nanoseconds_paddedDigits (by decide) (by decide) (by omega), show 9 - 3 = 6 from rfl, hsix,
      Nat.div_mul_cancel (Nat.dvd_of_mod_eq_zero hmillis)]
  · rw [nanoseconds_paddedDigits (by decide) (by decide) (by omega), show 9 - 6 = 3 from rfl,
      hthree, Nat.div_mul_cancel (Nat.dvd_of_mod_eq_zero hmicros)]
  · rw [nanoseconds_paddedDigits (by decide) (by decide) h, Nat.sub_self, Decimal.scale_zero,
      Nat.mul_one]

/-! ## The offset -/

/-- A number below a hundred is written with its tens and its ones. -/
theorem padded_two {n : Nat} (h : n < 100) :
    padded 2 n = [digitChar (n / 10), digitChar (n % 10)] := by
  have hdigits : Decimal.paddedDigits 2 n = [n / 10, n % 10] := by
    rcases lt_or_ge n 10 with hn | hn
    · rw [Decimal.paddedDigits, ← Decimal.length_digits, Decimal.digits, if_pos hn,
        Nat.div_eq_of_lt hn, Nat.mod_eq_of_lt hn]
      rfl
    · rw [Decimal.paddedDigits, ← Decimal.length_digits, Decimal.digits, if_neg (by omega),
        Decimal.digits, if_pos (by omega)]
      rfl
  rw [padded, hdigits]
  rfl

theorem spellsTwoDigits_padded {tens n : Nat} (h : n < 10 * tens) (hn : n < 100) :
    SpellsTwoDigits tens (padded 2 n) n := by
  have hspells : SpellsTwoDigits tens [digitChar (n / 10), digitChar (n % 10)] _ :=
    .intro (by omega) (by omega) (by omega)
  rwa [Nat.div_add_mod, ← padded_two hn] at hspells

/-- Minutes are printed as hours and minutes. -/
theorem spellsHours_padded {minutes : Nat} (h : minutes < 6000) :
    SpellsHours (padded 2 (minutes / 60) ++ ':' :: padded 2 (minutes % 60)) minutes := by
  have hhours : SpellsTwoDigits 10 (padded 2 (minutes / 60)) (minutes / 60) :=
    spellsTwoDigits_padded (by omega) (by omega)
  have hminutes : SpellsTwoDigits 6 (padded 2 (minutes % 60)) (minutes % 60) :=
    spellsTwoDigits_padded (by omega) (by omega)
  have hparting : ∀ c ∈ [':'], c = ':' ∨ Text.isBlank c = true :=
    fun c hc ↦ .inl (List.mem_singleton.mp hc)
  have hspells := SpellsHours.intro hhours hparting hminutes
  rwa [Nat.div_add_mod] at hspells

theorem spellsOffset_printOffset {minutes : Int} (hfirst : -1440 < minutes)
    (hlast : minutes < 1440) : SpellsOffset (printOffset minutes) minutes := by
  have hhours := spellsHours_padded (by omega : minutes.natAbs < 6000)
  rw [printOffset]
  split_ifs with hzero hneg
  · exact hzero ▸ .zulu (.inl rfl)
  · have hspells := SpellsOffset.west (.inl rfl) hhours
    rwa [show -(minutes.natAbs : Int) = minutes by omega] at hspells
  · have hspells := SpellsOffset.east hhours
    rwa [show (minutes.natAbs : Int) = minutes by omega] at hspells

/-! ## Texts -/

/-- The reading that the text of a timestamp spells. -/
def reading (t : Timestamp) : Reading where
  year := t.year
  month := t.month
  day := t.day
  hour := t.hour
  minute := t.minute
  second := t.second
  fraction := fractionDigits t.nanosecond
  offsetMinutes := t.offsetMinutes

theorem fields_reading (t : Timestamp) : t.reading.fields = t.toFields := by
  rw [Reading.fields, reading, nanoseconds_fractionDigits t.timeExists.2.2.2]

/-- **A timestamp is printed in the notation in which timestamps are read.** -/
theorem spelledBy_print (t : Timestamp) : t.reading.SpelledBy t.print := by
  obtain ⟨-, hmonth, -, hday⟩ := bounds_of_dateExists t.dateExists
  obtain ⟨hhour, hminute, hsecond, -⟩ := t.timeExists
  have hspelled := Reading.SpelledBy.intro (r := t.reading)
    (.of (spellsYear_printYear t.year)) (.of rfl)
    (.of (spellsField_padded (by omega : t.month < 100))) (.of rfl)
    (.of (spellsField_padded (by omega : t.day < 100))) (.inr (.inl rfl))
    (.of (spellsField_padded (by omega : t.hour < 100))) (.of rfl)
    (.of (spellsField_padded (by omega : t.minute < 100))) (.of rfl)
    (.of (spellsField_padded (by omega : t.second < 100)))
    (spellsFraction_printFraction t.nanosecond)
    (.of (.offset (spellsOffset_printOffset t.offsetExists.1 t.offsetExists.2)))
    (t.fields_reading ▸ Fields.isReadable_of_exists t.dateExists t.timeExists)
  simp only [print, List.append_assoc, List.cons_append]
  exact hspelled

theorem spells_text (t : Timestamp) : t.reading.Spells t.text :=
  ⟨t.print, [], by rw [text, String.toList_ofList, List.append_nil], t.spelledBy_print, nofun⟩

/-- **The text of a timestamp denotes it.** -/
theorem parse_text (t : Timestamp) : parse t.text = .ok t :=
  parse_eq_ok_iff.mpr ⟨t.reading, t.spells_text, t.fields_reading⟩

end TenantView.Timestamp
