import TenantView.Proofs.Timestamp.Parts

/-!
# The notation of timestamps

What a text says of a time is a reading: the numbers of its fields, the digits behind the point of
the second and the offset.  The parts of the notation, one behind the other, spell it
(`Reading.Spells`).  A text denotes a timestamp if and only if it spells a reading with the fields
of that timestamp (`parse_eq_ok_iff`).
-/

namespace TenantView.Timestamp

/-! ## Readings -/

/-- The numbers are within the bounds of the notation. -/
structure Fields.IsReadable (f : Fields) : Prop where
  year : IsReadableYear f.year
  month : 1 ≤ f.month ∧ f.month ≤ 12
  day : 1 ≤ f.day ∧ f.day ≤ 31
  hour : 0 ≤ f.hour ∧ f.hour ≤ 23
  minute : 0 ≤ f.minute ∧ f.minute ≤ 59
  second : 0 ≤ f.second ∧ f.second ≤ 60

/-- What a text says of a time. -/
structure Reading where
  year : Int
  month : Nat
  day : Nat
  hour : Nat
  minute : Nat
  second : Nat
  /-- The digits behind the point of the second. -/
  fraction : List Nat
  offsetMinutes : Int

namespace Reading

/-- The fields of a timestamp that a reading gives. -/
def fields (r : Reading) : Fields where
  year := r.year
  month := r.month
  day := r.day
  hour := r.hour
  minute := r.minute
  second := r.second
  nanosecond := nanoseconds r.fraction
  offsetMinutes := r.offsetMinutes

/-- The instant of a reading in nanoseconds. -/
def instant (r : Reading) : Int :=
  r.fields.instant

/-- The parts of the notation, one behind the other. -/
inductive SpelledBy (r : Reading) : List Char → Prop
  | intro {year dash month dash' day dateEnd hour colon minute colon' second fraction zone :
      List Char}
    (hyear : AfterBlanks (SpellsYear · r.year) year)
    (hdash : AfterBlanks (· = ['-']) dash)
    (hmonth : AfterBlanks (SpellsField · r.month) month)
    (hdash' : AfterBlanks (· = ['-']) dash')
    (hday : AfterBlanks (SpellsField · r.day) day)
    (hdateEnd : SpellsDateEnd dateEnd)
    (hhour : AfterBlanks (SpellsField · r.hour) hour)
    (hcolon : AfterBlanks (· = [':']) colon)
    (hminute : AfterBlanks (SpellsField · r.minute) minute)
    (hcolon' : AfterBlanks (· = [':']) colon')
    (hsecond : AfterBlanks (SpellsField · r.second) second)
    (hfraction : SpellsFraction fraction r.fraction)
    (hzone : AfterBlanks (SpellsZone · r.offsetMinutes) zone)
    (hbounds : r.fields.IsReadable) :
    SpelledBy r (year ++ (dash ++ (month ++ (dash' ++ (day ++ (dateEnd ++ (hour ++ (colon ++
      (minute ++ (colon' ++ (second ++ (fraction ++ zone))))))))))))

/-- The text spells the reading; blanks may follow it. -/
def Spells (r : Reading) (s : String) : Prop :=
  ∃ front tail, s.toList = front ++ tail ∧ r.SpelledBy front ∧
    ∀ c ∈ tail, Text.isBlank c = true

end Reading

/-- The month and the day of a date that exists are those of some year. -/
theorem bounds_of_dateExists {f : Fields} (h : f.DateExists) :
    1 ≤ f.month ∧ f.month ≤ 12 ∧ 1 ≤ f.day ∧ f.day ≤ 31 := by
  obtain ⟨-, -, hday, hlast⟩ := h
  unfold Calendar.daysInMonth at hlast
  split at hlast <;> first | omega | (split at hlast <;> omega)

theorem Fields.isReadable_of_exists {f : Fields} (hdate : f.DateExists) (htime : f.TimeExists) :
    f.IsReadable := by
  obtain ⟨hmonth, hmonth', hday, hday'⟩ := bounds_of_dateExists hdate
  obtain ⟨hfirst, hlast, -⟩ := hdate
  obtain ⟨hhour, hminute, hsecond, -⟩ := htime
  have hf : Fields.firstYear = -262143 := rfl
  have hl : Fields.lastYear = 262142 := rfl
  have hg : greatestYear = 2147483647 := rfl
  exact ⟨⟨by omega, by omega⟩, ⟨hmonth, hmonth'⟩, ⟨hday, hday'⟩, ⟨Nat.zero_le _, by omega⟩,
    ⟨Nat.zero_le _, by omega⟩, ⟨Nat.zero_le _, hsecond⟩⟩

namespace AfterBlanks

variable {P : List Char → Prop} {part : List Char}

/-- A part begins with a blank, or as it does without blanks. -/
theorem start {Q : Char → Prop} (h : AfterBlanks P part)
    (hblank : ∀ c, Text.isBlank c = true → Q c)
    (hP : ∀ cs, P cs → ∃ c tail, cs = c :: tail ∧ Q c) : ∃ c tail, part = c :: tail ∧ Q c := by
  obtain ⟨hblanks, hpart⟩ := h
  rename_i blanks cs
  cases blanks with
  | nil => exact hP cs hpart
  | cons c blanks => exact ⟨c, blanks ++ cs, rfl, hblank c (hblanks c List.mem_cons_self)⟩

theorem endsDigits (h : AfterBlanks P part)
    (hP : ∀ cs, P cs → ∃ c tail, cs = c :: tail ∧ c.isDigit = false) (rest : List Char) :
    EndsDigits (part ++ rest) := by
  obtain ⟨c, tail, rfl, hc⟩ := h.start (fun c ↦ isDigit_eq_false_of_isBlank) hP
  exact endsDigits_cons hc (tail ++ rest)

end AfterBlanks

theorem endsDigits_separator {separator : Char} {part : List Char}
    (h : AfterBlanks (· = [separator]) part) (hdigit : separator.isDigit = false)
    (rest : List Char) : EndsDigits (part ++ rest) :=
  h.endsDigits (fun _ heq ↦ ⟨separator, [], heq, hdigit⟩) rest

theorem endsDigits_dateEnd {part : List Char} (h : SpellsDateEnd part) (rest : List Char) :
    EndsDigits (part ++ rest) := by
  rcases h with rfl | rfl | rfl <;> exact endsDigits_cons (by decide) rest

/-- A zone does not go on with the fraction in front of it, or the second. -/
theorem ends_zone {zone : List Char} {minutes : Int}
    (h : AfterBlanks (SpellsZone · minutes) zone) (rest : List Char) :
    EndsDigits (zone ++ rest) ∧ (zone ++ rest).head? ≠ some '.' := by
  obtain ⟨c, tail, rfl, hdigit, hpoint⟩ := h.start
    (fun c hc ↦ (⟨isDigit_eq_false_of_isBlank hc, by rintro rfl; exact absurd hc (by decide)⟩ :
      c.isDigit = false ∧ c ≠ '.'))
    fun cs hcs ↦ by
      obtain ⟨c, tail, rfl, -, hdigit, hpoint⟩ := hcs.start
      exact ⟨c, tail, rfl, hdigit, hpoint⟩
  exact ⟨endsDigits_cons hdigit (tail ++ rest), fun heq ↦ hpoint (Option.some.inj heq)⟩

theorem endsDigits_fraction {part rest : List Char} {ds : List Nat} (h : SpellsFraction part ds)
    (hrest : EndsDigits rest) : EndsDigits (part ++ rest) := by
  cases h with
  | none => exact hrest
  | digits => exact endsDigits_cons (by decide) _

/-- The fields are read as the parts spell them. -/
theorem reads_scanFields :
    Reads scanFields (fun cs f ↦ ∃ r : Reading, r.SpelledBy cs ∧ r.fields = f) Anything where
  sound {cs rest f} h := by
    have hdashes := reads_scanSeparator (by decide : Text.isBlank '-' = false)
    have hcolons := reads_scanSeparator (by decide : Text.isBlank ':' = false)
    obtain ⟨year, _, _, ⟨hyear, hyear'⟩, _, h⟩ := reads_scanYear.of_bind h
    obtain ⟨_, _, _, hdash, _, h⟩ := hdashes.of_bind h
    obtain ⟨month, _, _, ⟨hmonth, hmonth'⟩, _, h⟩ := (reads_scanField 1 12).of_bind h
    obtain ⟨_, _, _, hdash', _, h⟩ := hdashes.of_bind h
    obtain ⟨day, _, _, ⟨hday, hday'⟩, _, h⟩ := (reads_scanField 1 31).of_bind h
    obtain ⟨_, _, _, hdateEnd, _, h⟩ := reads_scanDateEnd.of_bind h
    obtain ⟨hour, _, _, ⟨hhour, hhour'⟩, _, h⟩ := (reads_scanField 0 23).of_bind h
    obtain ⟨_, _, _, hcolon, _, h⟩ := hcolons.of_bind h
    obtain ⟨minute, _, _, ⟨hminute, hminute'⟩, _, h⟩ := (reads_scanField 0 59).of_bind h
    obtain ⟨_, _, _, hcolon', _, h⟩ := hcolons.of_bind h
    obtain ⟨second, _, _, ⟨hsecond, hsecond'⟩, _, h⟩ := (reads_scanField 0 60).of_bind h
    obtain ⟨_, _, _, ⟨fraction, hfraction, hnanosecond⟩, _, h⟩ := reads_scanFraction.of_bind h
    obtain ⟨offsetMinutes, _, _, hzone, _, h⟩ := reads_scanZone.of_bind h
    cases h
    subst_vars
    refine ⟨_, ⟨⟨year, month, day, hour, minute, second, fraction, offsetMinutes⟩,
      .intro hyear hdash hmonth hdash' hday hdateEnd hhour hcolon hminute hcolon' hsecond hfraction
        hzone ⟨hyear', hmonth', hday', hhour', hminute', hsecond'⟩, rfl⟩, ?_⟩
    simp only [List.append_assoc]
  complete {part rest f} h _ := by
    obtain ⟨r, ⟨hyear, hdash, hmonth, hdash', hday, hdateEnd, hhour, hcolon, hminute, hcolon',
      hsecond, hfraction, hzone, hbounds⟩, rfl⟩ := h
    have hdashes := reads_scanSeparator (by decide : Text.isBlank '-' = false)
    have hcolons := reads_scanSeparator (by decide : Text.isBlank ':' = false)
    obtain ⟨hends, hhead⟩ := ends_zone hzone rest
    simp only [List.append_assoc]
    refine (reads_scanYear.bind_eq ⟨hyear, hbounds.year⟩
      (endsDigits_separator hdash (by decide) _)).trans ?_
    refine (hdashes.bind_eq (a := ()) hdash trivial).trans ?_
    refine ((reads_scanField 1 12).bind_eq ⟨hmonth, hbounds.month⟩
      (endsDigits_separator hdash' (by decide) _)).trans ?_
    refine (hdashes.bind_eq (a := ()) hdash' trivial).trans ?_
    refine ((reads_scanField 1 31).bind_eq ⟨hday, hbounds.day⟩
      (endsDigits_dateEnd hdateEnd _)).trans ?_
    refine (reads_scanDateEnd.bind_eq (a := ()) hdateEnd trivial).trans ?_
    refine ((reads_scanField 0 23).bind_eq ⟨hhour, hbounds.hour⟩
      (endsDigits_separator hcolon (by decide) _)).trans ?_
    refine (hcolons.bind_eq (a := ()) hcolon trivial).trans ?_
    refine ((reads_scanField 0 59).bind_eq ⟨hminute, hbounds.minute⟩
      (endsDigits_separator hcolon' (by decide) _)).trans ?_
    refine (hcolons.bind_eq (a := ()) hcolon' trivial).trans ?_
    refine ((reads_scanField 0 60).bind_eq ⟨hsecond, hbounds.second⟩
      (endsDigits_fraction hfraction hends)).trans ?_
    refine (reads_scanFraction.bind_eq ⟨_, hfraction, rfl⟩ ⟨hends, hhead⟩).trans ?_
    exact (reads_scanZone.bind_eq hzone trivial).trans rfl

/-! ## Whole texts -/

theorem toFields_of_ofFields {f : Fields} {t : Timestamp} (h : ofFields f = .ok t) :
    t.toFields = f := by
  rw [ofFields] at h
  split_ifs at h
  cases h
  rfl

/-- A text that spells a reading denotes the timestamp with the fields of the reading, if there is
one. -/
theorem parse_of_spells {r : Reading} {s : String} (h : r.Spells s) :
    parse s = ofFields r.fields := by
  obtain ⟨front, tail, hcs, hspelled, htail⟩ := h
  have hblank : tail.all Text.isBlank = true := by simpa using htail
  rw [parse, hcs]
  refine (reads_scanFields.bind_eq ⟨r, hspelled, rfl⟩ trivial).trans ?_
  exact if_pos hblank

/-- **A text denotes a timestamp if it spells a reading with the fields of that timestamp.** -/
theorem parse_eq_ok_iff {s : String} {t : Timestamp} :
    parse s = .ok t ↔ ∃ r : Reading, r.Spells s ∧ r.fields = t.toFields := by
  constructor
  · intro h
    obtain ⟨_, front, rest, ⟨r, hspelled, rfl⟩, hcs, h⟩ := reads_scanFields.of_bind h
    simp only at h
    split at h
    · next hrest =>
      exact ⟨r, ⟨front, rest, hcs, hspelled, by simpa using hrest⟩,
        (toFields_of_ofFields h).symm⟩
    · cases h
  · rintro ⟨r, hspells, hfields⟩
    rw [parse_of_spells hspells, hfields, ofFields_toFields]

/-- All readings of a text that denotes a timestamp have its fields. -/
theorem fields_eq_of_spells {s : String} {t : Timestamp} {r : Reading} (h : parse s = .ok t)
    (hspells : r.Spells s) : r.fields = t.toFields :=
  (toFields_of_ofFields ((parse_of_spells hspells).symm.trans h)).symm

end TenantView.Timestamp
