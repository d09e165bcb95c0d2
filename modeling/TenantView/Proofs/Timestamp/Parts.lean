import Mathlib.Data.List.TakeWhile
import TenantView.Proofs.Timestamp.Digits
import TenantView.Proofs.Traversal

/-!
# Parts of the notation of timestamps

A timestamp is written in parts, most of which may have blanks in front.  How each part is spelled
is said without a word about how it is scanned, and the scanner of the part takes exactly what is
spelled (`Reads`): a year by its sign, fields of one digit or two, the fraction of a second, and the
zone.
-/

namespace TenantView.Timestamp

/-! ## Spellings -/

/-- Digits, one at least, spell a number. -/
inductive SpellsNumber : List Char → Nat → Prop
  | intro {ds : List Nat} (hne : ds ≠ []) (hds : ∀ d ∈ ds, d < 10) :
    SpellsNumber (ds.map digitChar) (Decimal.ofDigits ds)

/-- A field is spelled by one digit or two. -/
def SpellsField (cs : List Char) (n : Nat) : Prop :=
  SpellsNumber cs n ∧ cs.length ≤ 2

/-- A year without a sign has at most four digits, one with a sign any number of them. -/
inductive SpellsYear : List Char → Int → Prop
  | unsigned {cs : List Char} {n : Nat} (h : SpellsNumber cs n) (hlength : cs.length ≤ 4) :
    SpellsYear cs n
  | plus {cs : List Char} {n : Nat} (h : SpellsNumber cs n) : SpellsYear ('+' :: cs) n
  | minus {cs : List Char} {n : Nat} (h : SpellsNumber cs n) : SpellsYear ('-' :: cs) (-n)

/-- The letter in either case, or one space. -/
def SpellsDateEnd (cs : List Char) : Prop :=
  cs = ['t'] ∨ cs = ['T'] ∨ cs = [' ']

/-- The digits behind the point of the second, any number of them. -/
inductive SpellsFraction : List Char → List Nat → Prop
  | none : SpellsFraction [] []
  | digits {ds : List Nat} (hne : ds ≠ []) (hds : ∀ d ∈ ds, d < 10) :
    SpellsFraction ('.' :: ds.map digitChar) ds

/-- Two digits, the first of them below a bound. -/
inductive SpellsTwoDigits (tens : Nat) : List Char → Nat → Prop
  | intro {high low : Nat} (htens : high < tens) (hhigh : high < 10) (hlow : low < 10) :
    SpellsTwoDigits tens [digitChar high, digitChar low] (10 * high + low)

/-- Two digits for hours and two for minutes, with colons and blanks between them or not. -/
inductive SpellsHours : List Char → Nat → Prop
  | intro {first second parting : List Char} {hours minutes : Nat}
    (hhours : SpellsTwoDigits 10 first hours)
    (hparting : ∀ c ∈ parting, c = ':' ∨ Text.isBlank c = true)
    (hminutes : SpellsTwoDigits 6 second minutes) :
    SpellsHours (first ++ (parting ++ second)) (60 * hours + minutes)

/-- A letter, or a sign in front of hours and minutes.  The sign may be the plus, the hyphen or the
minus sign. -/
inductive SpellsOffset : List Char → Int → Prop
  | zulu {letter : Char} (h : letter = 'Z' ∨ letter = 'z') : SpellsOffset [letter] 0
  | east {cs : List Char} {minutes : Nat} (h : SpellsHours cs minutes) :
    SpellsOffset ('+' :: cs) minutes
  | west {sign : Char} {cs : List Char} {minutes : Nat} (hsign : sign = '-' ∨ sign = '\u2212')
    (h : SpellsHours cs minutes) : SpellsOffset (sign :: cs) (-minutes)

/-- The offset from universal time in minutes, or the name of that time in any case. -/
inductive SpellsZone : List Char → Int → Prop
  | utc {u t c : Char} (hu : u.toUpper = 'U') (ht : t.toUpper = 'T') (hc : c.toUpper = 'C') :
    SpellsZone [u, t, c] 0
  | offset {cs : List Char} {minutes : Int} (h : SpellsOffset cs minutes) : SpellsZone cs minutes

/-- Blanks may stand in front of a part. -/
inductive AfterBlanks (P : List Char → Prop) : List Char → Prop
  | intro {blanks cs : List Char} (hblanks : ∀ c ∈ blanks, Text.isBlank c = true) (h : P cs) :
    AfterBlanks P (blanks ++ cs)

theorem AfterBlanks.of {P : List Char → Prop} {cs : List Char} (h : P cs) : AfterBlanks P cs :=
  show AfterBlanks P ([] ++ cs) from .intro nofun h

theorem afterBlanks_and_iff {P : List Char → Prop} {q : Prop} {cs : List Char} :
    AfterBlanks (fun cs ↦ P cs ∧ q) cs ↔ AfterBlanks P cs ∧ q := by
  constructor
  · rintro ⟨hblanks, hpart, hq⟩
    exact ⟨.intro hblanks hpart, hq⟩
  · rintro ⟨⟨hblanks, hpart⟩, hq⟩
    exact .intro hblanks ⟨hpart, hq⟩

/-! ## Scanners -/

/-- A scanner takes from the front what is spelled, where it ends. -/
structure Reads {α : Type} (scan : Scan α) (Spells : List Char → α → Prop)
    (Ends : List Char → Prop) : Prop where
  sound {cs rest : List Char} {a : α} (h : scan cs = .ok (a, rest)) :
    ∃ part, Spells part a ∧ cs = part ++ rest
  complete {part rest : List Char} {a : α} (h : Spells part a) (hrest : Ends rest) :
    scan (part ++ rest) = .ok (a, rest)

/-- What may follow if nothing that follows matters. -/
def Anything (_ : List Char) : Prop :=
  True

namespace Reads

variable {α : Type} {scan : Scan α} {Spells Spells' : List Char → α → Prop}
  {Ends : List Char → Prop}

theorem congr (h : Reads scan Spells Ends) (hiff : ∀ cs a, Spells' cs a ↔ Spells cs a) :
    Reads scan Spells' Ends where
  sound hscan := by simpa only [hiff] using h.sound hscan
  complete hpart hrest := h.complete ((hiff _ _).mp hpart) hrest

/-- What is computed behind a scanner starts from a part that is spelled. -/
theorem of_bind {β : Type} {f : α × List Char → Except TimestampError β} {cs : List Char} {b : β}
    (h : Reads scan Spells Ends) (hbind : scan cs >>= f = .ok b) :
    ∃ a part rest, Spells part a ∧ cs = part ++ rest ∧ f (a, rest) = .ok b := by
  obtain ⟨⟨a, rest⟩, hscan, hbind⟩ := bind_eq_ok hbind
  obtain ⟨part, hpart, hcs⟩ := h.sound hscan
  exact ⟨a, part, rest, hpart, hcs, hbind⟩

theorem bind_eq {β : Type} {f : α × List Char → Except TimestampError β} {part rest : List Char}
    {a : α} (h : Reads scan Spells Ends) (hpart : Spells part a) (hrest : Ends rest) :
    scan (part ++ rest) >>= f = f (a, rest) := by
  rw [h.complete hpart hrest, ok_bind]

/-- What is made of what has been taken may be refused. -/
theorem checked {β : Type} (h : Reads scan Spells Ends) (f : α → β) (Q : β → Prop)
    [DecidablePred Q] (e : TimestampError) :
    Reads (fun cs ↦ scan cs >>= fun p ↦ if Q (f p.1) then .ok (f p.1, p.2) else .error e)
      (fun cs b ↦ ∃ a, Spells cs a ∧ f a = b ∧ Q b) Ends where
  sound {cs rest b} hscan := by
    obtain ⟨⟨a, after⟩, ha, hscan⟩ := bind_eq_ok hscan
    simp only at hscan
    split at hscan
    · next hQ =>
      cases hscan
      obtain ⟨part, hpart, rfl⟩ := h.sound ha
      exact ⟨part, ⟨a, hpart, rfl, hQ⟩, rfl⟩
    · cases hscan
  complete {part rest b} hpart hrest := by
    obtain ⟨a, hpart, rfl, hQ⟩ := hpart
    simp only [h.complete hpart hrest, ok_bind]
    exact if_pos hQ

/-- Blanks in front are dropped, since no part begins with one. -/
theorem afterBlanks (h : Reads scan Spells Ends)
    (hstart : ∀ {cs a}, Spells cs a → ∃ c tail, cs = c :: tail ∧ Text.isBlank c = false) :
    Reads (fun cs ↦ scan (Text.trimStart cs)) (fun cs a ↦ AfterBlanks (Spells · a) cs) Ends where
  sound {cs rest a} hscan := by
    obtain ⟨part, hpart, htrim⟩ := h.sound hscan
    refine ⟨cs.takeWhile Text.isBlank ++ part, .intro (fun c hc ↦ ?_) hpart, ?_⟩
    · exact List.mem_takeWhile_imp hc
    · rw [List.append_assoc, ← htrim, Text.trimStart, List.takeWhile_append_dropWhile]
  complete {part rest a} hpart hrest := by
    obtain ⟨hblanks, hpart⟩ := hpart
    obtain ⟨c, tail, rfl, hc⟩ := hstart hpart
    rw [Text.trimStart, List.append_assoc, List.dropWhile_append_of_pos hblanks, List.cons_append,
      List.dropWhile_cons_of_neg (by simp [hc])]
    exact h.complete hpart hrest

end Reads

theorem reads_scanNumber {width : Nat} (hwidth : 0 < width) :
    Reads (scanNumber width) (fun cs n ↦ SpellsNumber cs n ∧ cs.length ≤ width) EndsDigits where
  sound {cs rest n} h := by
    obtain ⟨ds, tail, hne, hds, -, rfl, rfl, rfl⟩ := run_of_scanNumber h
    refine ⟨(ds.take width).map digitChar, ⟨.intro ?_ fun d hd ↦ hds d (List.mem_of_mem_take hd),
      ?_⟩, ?_⟩
    · simpa [List.take_eq_nil_iff, hne] using hwidth.ne'
    · rw [List.length_map]
      exact List.length_take_le width ds
    · rw [← List.append_assoc, ← List.map_append, List.take_append_drop]
  complete {part rest n} h hrest := by
    obtain ⟨⟨hne, hds⟩, hlength⟩ := h
    rw [List.length_map] at hlength
    rw [scanNumber_run hds hrest hne, List.take_of_length_le hlength,
      List.drop_of_length_le hlength]
    rfl

/-- A number is as long as it may be if its width is all that is left. -/
theorem reads_scanWhole : Reads (fun cs ↦ scanNumber cs.length cs) SpellsNumber EndsDigits where
  sound {cs rest n} h := by
    obtain ⟨ds, tail, hne, hds, -, rfl, rfl, rfl⟩ := run_of_scanNumber h
    have hlength : ds.length ≤ (ds.map digitChar ++ tail).length := by simp
    rw [List.take_of_length_le hlength, List.drop_of_length_le hlength]
    exact ⟨_, .intro hne hds, rfl⟩
  complete {part rest n} h hrest := by
    obtain ⟨hne, hds⟩ := h
    simp only [scanNumber_run hds hrest hne]
    rw [List.take_of_length_le (by simp), List.drop_of_length_le (by simp)]
    rfl

theorem SpellsNumber.start {cs : List Char} {n : Nat} (h : SpellsNumber cs n) :
    ∃ d tail, d < 10 ∧ cs = digitChar d :: tail := by
  obtain ⟨hne, hds⟩ := h
  obtain ⟨d, ds, rfl⟩ := List.exists_cons_of_ne_nil hne
  exact ⟨d, ds.map digitChar, hds d List.mem_cons_self, rfl⟩

/-- A field is read within its bounds. -/
theorem reads_scanField (least most : Nat) :
    Reads (scanField least most)
      (fun cs n ↦ AfterBlanks (SpellsField · n) cs ∧ least ≤ n ∧ n ≤ most) EndsDigits := by
  have hread : Reads
      (fun cs ↦ scanNumber 2 cs >>= fun p ↦
        if least ≤ p.1 ∧ p.1 ≤ most then .ok (p.1, p.2) else .error .outOfRange)
      (fun cs n ↦ SpellsField cs n ∧ least ≤ n ∧ n ≤ most) EndsDigits :=
    ((reads_scanNumber (by decide)).checked id (fun n ↦ least ≤ n ∧ n ≤ most) .outOfRange).congr
      fun cs n ↦ by simp [SpellsField]
  refine (hread.afterBlanks fun h ↦ ?_).congr fun cs n ↦ afterBlanks_and_iff.symm
  obtain ⟨d, tail, hd, rfl⟩ := h.1.1.start
  exact ⟨digitChar d, tail, rfl, (digitChar_spec hd).2.2.1⟩

/-- The one character that is expected is taken. -/
theorem reads_mark (separator : Char) :
    Reads
      (fun
        | [] => .error .tooShort
        | c :: rest => if c = separator then .ok ((), rest) else .error .malformed)
      (fun cs (_ : Unit) ↦ cs = [separator]) Anything where
  sound := fun {cs rest _} hscan ↦ by
    cases cs with
    | nil => cases hscan
    | cons c cs =>
      simp only at hscan
      split at hscan
      · next heq =>
        cases hscan
        exact ⟨[c], congrArg (List.cons · []) heq, rfl⟩
      · cases hscan
  complete := fun {part rest _} hpart _ ↦ by
    cases hpart
    exact if_pos rfl

theorem reads_scanSeparator {separator : Char} (h : Text.isBlank separator = false) :
    Reads (scanSeparator separator) (fun cs _ ↦ AfterBlanks (· = [separator]) cs) Anything :=
  (reads_mark separator).afterBlanks fun hcs ↦ ⟨separator, [], hcs, h⟩

theorem reads_scanDateEnd : Reads scanDateEnd (fun cs _ ↦ SpellsDateEnd cs) Anything where
  sound {cs rest _} h := by
    cases cs with
    | nil => cases h
    | cons c cs =>
      rw [scanDateEnd] at h
      split at h
      · next hc =>
        cases h
        refine ⟨[c], ?_, rfl⟩
        rcases hc with rfl | rfl | rfl
        · exact .inl rfl
        · exact .inr (.inl rfl)
        · exact .inr (.inr rfl)
      · cases h
  complete {part rest _} h _ := by
    rcases h with rfl | rfl | rfl <;> rfl

/-! ### The year -/

/-- The years that are read at all. -/
def IsReadableYear (year : Int) : Prop :=
  -greatestYear - 1 ≤ year ∧ year ≤ greatestYear

theorem isReadableYear_of_length_le {cs : List Char} {n : Nat} (h : SpellsNumber cs n)
    (hlength : cs.length ≤ 4) : IsReadableYear n := by
  obtain ⟨hne, hds⟩ := h
  rw [List.length_map] at hlength
  have hlt := Decimal.ofDigits_lt_scale hds
  have hle : Decimal.scale _ ≤ Decimal.scale 4 := Nat.pow_le_pow_right (by decide) hlength
  have hscale : Decimal.scale 4 = 10000 := rfl
  rw [IsReadableYear, greatestYear]
  omega

theorem SpellsYear.start {cs : List Char} {year : Int} (h : SpellsYear cs year) :
    ∃ c tail, cs = c :: tail ∧ Text.isBlank c = false := by
  cases h with
  | unsigned hn _ =>
    obtain ⟨d, tail, hd, rfl⟩ := hn.start
    exact ⟨digitChar d, tail, rfl, (digitChar_spec hd).2.2.1⟩
  | plus => exact ⟨'+', _, rfl, by decide⟩
  | minus => exact ⟨'-', _, rfl, by decide⟩

/-- A year in front of which no blank stands. -/
def scanTrimmedYear : Scan Int
  | '-' :: cs => do
    let (n, rest) ← scanNumber cs.length cs
    if -greatestYear - 1 ≤ -(n : Int) then return (-(n : Int), rest) else throw .outOfRange
  | '+' :: cs => do
    let (n, rest) ← scanNumber cs.length cs
    if (n : Int) ≤ greatestYear then return ((n : Int), rest) else throw .outOfRange
  | cs => do
    let (n, rest) ← scanNumber 4 cs
    return ((n : Int), rest)

/-- The sign decides how many digits there may be. -/
theorem reads_scanTrimmedYear :
    Reads scanTrimmedYear (fun cs year ↦ SpellsYear cs year ∧ IsReadableYear year) EndsDigits := by
  have hminus := reads_scanWhole.checked (fun n : Nat ↦ -(n : Int))
    (fun year ↦ -greatestYear - 1 ≤ year) .outOfRange
  have hplus := reads_scanWhole.checked (fun n : Nat ↦ (n : Int))
    (fun year ↦ year ≤ greatestYear) .outOfRange
  have hunsigned := reads_scanNumber (by decide : 0 < 4)
  constructor
  case sound =>
    intro cs rest year h
    rw [scanTrimmedYear.eq_def] at h
    split at h
    · obtain ⟨part, ⟨n, hn, rfl, hrange⟩, rfl⟩ := hminus.sound h
      exact ⟨'-' :: part, ⟨.minus hn, hrange, by rw [greatestYear]; omega⟩, rfl⟩
    · obtain ⟨part, ⟨n, hn, rfl, hrange⟩, rfl⟩ := hplus.sound h
      exact ⟨'+' :: part, ⟨.plus hn, by rw [greatestYear]; omega, hrange⟩, rfl⟩
    · obtain ⟨⟨n, after⟩, hscan, h⟩ := bind_eq_ok h
      cases h
      obtain ⟨part, ⟨hn, hlength⟩, rfl⟩ := hunsigned.sound hscan
      exact ⟨part, ⟨.unsigned hn hlength, isReadableYear_of_length_le hn hlength⟩, rfl⟩
  case complete =>
    rintro part rest year ⟨hspells, hrange⟩ hrest
    cases hspells with
    | unsigned hn hlength =>
      have hscan := hunsigned.complete ⟨hn, hlength⟩ hrest
      obtain ⟨d, tail, hd, rfl⟩ := hn.start
      rw [List.cons_append] at hscan ⊢
      rw [scanTrimmedYear, hscan]
      · rfl
      · exact fun _ heq ↦ (digitChar_spec hd).2.2.2.1 (List.cons.inj heq).1
      · exact fun _ heq ↦ (digitChar_spec hd).2.2.2.2 (List.cons.inj heq).1
    | plus hn => exact hplus.complete ⟨_, hn, rfl, hrange.2⟩ hrest
    | minus hn => exact hminus.complete ⟨_, hn, rfl, hrange.1⟩ hrest

theorem reads_scanYear :
    Reads scanYear (fun cs year ↦ AfterBlanks (SpellsYear · year) cs ∧ IsReadableYear year)
      EndsDigits :=
  (reads_scanTrimmedYear.afterBlanks fun h ↦ h.1.start).congr
    fun _ _ ↦ afterBlanks_and_iff.symm

/-! ### The fraction -/

/-- Of the digits behind a point nine count, and the others are taken with them. -/
theorem scanFraction_point {ds : List Nat} {tail : List Char} (hne : ds ≠ [])
    (hds : ∀ d ∈ ds, d < 10) (htail : EndsDigits tail) :
    scanFraction ('.' :: (ds.map digitChar ++ tail)) = .ok (nanoseconds ds, tail) := by
  have hused : (ds.map digitChar ++ tail).length -
      ((ds.drop 9).map digitChar ++ tail).length = (ds.take 9).length := by
    simp only [List.length_append, List.length_map, List.length_drop, List.length_take]
    omega
  have hvalue := nanoseconds_of_length_le (List.length_take_le 9 ds)
  have hskip : ((ds.drop 9).map digitChar ++ tail).dropWhile Char.isDigit = tail :=
    dropWhile_isDigit_run (fun d hd ↦ hds d (List.mem_of_mem_drop hd)) htail
  rw [scanFraction, scanNumber_run hds htail hne, ok_bind]
  simp only [hused, hskip, ← hvalue, nanoseconds_take hds]
  rfl

theorem reads_scanFraction :
    Reads scanFraction (fun cs n ↦ ∃ ds, SpellsFraction cs ds ∧ nanoseconds ds = n)
      (fun rest ↦ EndsDigits rest ∧ rest.head? ≠ some '.') := by
  constructor
  case sound =>
    intro cs rest n h
    rw [scanFraction.eq_def] at h
    split at h
    · next cs =>
      obtain ⟨⟨m, after⟩, hscan, -⟩ := bind_eq_ok h
      obtain ⟨ds, tail, hne, hds, htail, rfl, -, -⟩ := run_of_scanNumber hscan
      have hread := scanFraction_point hne hds htail
      rw [scanFraction] at hread
      cases hread.symm.trans h
      exact ⟨'.' :: ds.map digitChar, ⟨ds, .digits hne hds, rfl⟩, rfl⟩
    · cases h
      exact ⟨[], ⟨[], .none, rfl⟩, rfl⟩
  case complete =>
    rintro part rest _ ⟨ds, hspells, rfl⟩ ⟨hrest, hhead⟩
    cases hspells with
    | none =>
      rw [List.nil_append, scanFraction]
      · rfl
      · rintro cs rfl
        exact hhead rfl
    | digits hne hds => exact scanFraction_point hne hds hrest

/-! ### The offset -/

theorem reads_scanTwoDigits (tens : Nat) :
    Reads (scanTwoDigits tens) (SpellsTwoDigits tens) Anything where
  sound {cs rest n} h := by
    rw [scanTwoDigits.eq_def] at h
    split at h
    · cases h
    · split at h <;> cases h
    · next c d rest' =>
      split at h
      · next hdigits =>
        simp only at h
        split at h
        · next htens =>
          cases h
          obtain ⟨high, hhigh, rfl⟩ := exists_digitChar hdigits.1
          obtain ⟨low, hlow, rfl⟩ := exists_digitChar hdigits.2
          rw [(digitChar_spec hhigh).2.1] at htens ⊢
          rw [(digitChar_spec hlow).2.1]
          exact ⟨[digitChar high, digitChar low], .intro htens hhigh hlow, rfl⟩
        · cases h
      · cases h
  complete {part rest n} h _ := by
    obtain ⟨htens, hhigh, hlow⟩ := h
    obtain ⟨hdigit, hvalue, -⟩ := digitChar_spec hhigh
    obtain ⟨hdigit', hvalue', -⟩ := digitChar_spec hlow
    change (if _ ∧ _ then if _ < tens then _ else _ else _) = _
    rw [if_pos ⟨hdigit, hdigit'⟩, hvalue, if_pos htens, hvalue']
    rfl

/-- The hours and minutes of an offset, with the sign in front of them known. -/
def scanHours : Scan Nat := fun cs ↦
  scanTwoDigits 10 cs >>= fun p ↦ scanOffsetMinutes p.2 >>= fun q ↦ .ok (60 * p.1 + q.1, q.2)

theorem SpellsTwoDigits.start {tens n : Nat} {cs : List Char} (h : SpellsTwoDigits tens cs n) :
    ∃ d tail, d < 10 ∧ cs = digitChar d :: tail := by
  obtain ⟨-, hhigh, -⟩ := h
  exact ⟨_, _, hhigh, rfl⟩

theorem reads_scanHours : Reads scanHours SpellsHours Anything where
  sound {cs rest n} h := by
    obtain ⟨⟨hours, after⟩, hhours, h⟩ := bind_eq_ok h
    obtain ⟨⟨minutes, rest⟩, hminutes, h⟩ := bind_eq_ok h
    cases h
    obtain ⟨first, hfirst, rfl⟩ := (reads_scanTwoDigits 10).sound hhours
    obtain ⟨second, hsecond, htail⟩ := (reads_scanTwoDigits 6).sound hminutes
    let isParting (c : Char) : Bool := c = ':' || Text.isBlank c
    have hparting : ∀ c ∈ after.takeWhile isParting, c = ':' ∨ Text.isBlank c = true :=
      fun c hc ↦ by simpa [isParting] using List.mem_takeWhile_imp hc
    refine ⟨_, .intro hfirst hparting hsecond, ?_⟩
    rw [List.append_assoc, List.append_assoc, ← htail, List.takeWhile_append_dropWhile]
  complete {part rest n} h hrest := by
    obtain ⟨hhours, hparting, hminutes⟩ := h
    obtain ⟨d, tail, hd, rfl⟩ := hminutes.start
    have hdigit := digitChar_spec hd
    have hcolon : digitChar d ≠ ':' := fun heq ↦ absurd (heq ▸ hdigit.1) (by decide)
    have hread := (reads_scanTwoDigits 6).complete hminutes hrest
    rw [scanHours, List.append_assoc, (reads_scanTwoDigits 10).complete hhours trivial, ok_bind,
      scanOffsetMinutes, List.append_assoc, List.dropWhile_append_of_pos (by simpa using hparting),
      List.cons_append, List.dropWhile_cons_of_neg (by simp [hcolon, hdigit.2.2.1]),
      ← List.cons_append, hread]
    rfl

/-- The hours and minutes behind a sign. -/
theorem signed_eq_scanHours (negative : Bool) (cs : List Char) :
    (do
      let (hours, cs) ← scanTwoDigits 10 cs
      let (minutes, cs) ← scanOffsetMinutes cs
      let total : Int := 60 * hours + minutes
      return (if negative then -total else total, cs)) =
    scanHours cs >>= fun p ↦ .ok (if negative then -(p.1 : Int) else p.1, p.2) := by
  rw [scanHours]
  cases scanTwoDigits 10 cs with
  | error e => rfl
  | ok p =>
    obtain ⟨hours, cs⟩ := p
    simp only [ok_bind]
    cases scanOffsetMinutes cs with
    | error e => rfl
    | ok q =>
      simp only [ok_bind, Nat.cast_add, Nat.cast_mul, Nat.cast_ofNat]
      rfl

/-- What is read behind a sign are hours and minutes. -/
theorem exists_spellsHours_of_signed {negative : Bool} {cs rest : List Char} {minutes : Int}
    (h : (scanHours cs >>= fun p ↦ .ok (if negative then -(p.1 : Int) else p.1, p.2)) =
      .ok (minutes, rest)) :
    ∃ part n, SpellsHours part n ∧ cs = part ++ rest ∧
      (if negative then -(n : Int) else n) = minutes := by
  obtain ⟨⟨n, after⟩, hscan, h⟩ := bind_eq_ok h
  cases h
  obtain ⟨part, hpart, rfl⟩ := reads_scanHours.sound hscan
  exact ⟨part, n, hpart, rfl, rfl⟩

theorem reads_scanOffset : Reads scanOffset SpellsOffset Anything where
  sound {cs rest minutes} h := by
    rw [scanOffset.eq_def] at h
    split at h
    · cases h
    · cases h
      exact ⟨['Z'], .zulu (.inl rfl), rfl⟩
    · cases h
      exact ⟨['z'], .zulu (.inr rfl), rfl⟩
    · obtain ⟨part, n, hpart, rfl, rfl⟩ :=
        exists_spellsHours_of_signed ((signed_eq_scanHours false _).symm.trans h)
      exact ⟨'+' :: part, .east hpart, rfl⟩
    · obtain ⟨part, n, hpart, rfl, rfl⟩ :=
        exists_spellsHours_of_signed ((signed_eq_scanHours true _).symm.trans h)
      exact ⟨'-' :: part, .west (.inl rfl) hpart, rfl⟩
    · obtain ⟨part, n, hpart, rfl, rfl⟩ :=
        exists_spellsHours_of_signed ((signed_eq_scanHours true _).symm.trans h)
      exact ⟨'\u2212' :: part, .west (.inr rfl) hpart, rfl⟩
    · cases h
  complete {part rest minutes} h _ := by
    cases h with
    | zulu hletter => rcases hletter with rfl | rfl <;> rfl
    | east hn =>
      refine (signed_eq_scanHours false _).trans ?_
      rw [List.append_eq, reads_scanHours.complete hn trivial]
      rfl
    | west hsign hn =>
      rcases hsign with rfl | rfl <;>
      · refine (signed_eq_scanHours true _).trans ?_
        rw [List.append_eq, reads_scanHours.complete hn trivial]
        rfl

/-! ### The zone -/

theorem eq_of_toUpper_eq {c : Char} (h : c.toUpper = 'U') : c = 'U' ∨ c = 'u' := by
  delta Char.toUpper at h
  split at h
  · next hlower =>
    have hvalue := congrArg (fun c : Char ↦ c.val.toNat) h
    have hmost : c.val.toNat ≤ 122 := UInt32.le_iff_toNat_le.mp hlower.2
    have hshift : ('A'.val - 'a'.val).toNat = 2 ^ 32 - 32 := by decide
    have hupper : 'U'.val.toNat = 85 := by decide
    simp only [UInt32.toNat_add, hshift, hupper] at hvalue
    have hcode : c.val.toNat = 117 := by omega
    exact .inr (Char.ext (UInt32.toNat_inj.mp hcode))
  · exact .inl h

/-- No zone begins like something that goes on with a second. -/
theorem SpellsOffset.start {cs : List Char} {minutes : Int} (h : SpellsOffset cs minutes) :
    ∃ c tail, cs = c :: tail ∧ Text.isBlank c = false ∧ c.isDigit = false ∧ c ≠ '.' ∧
      c.toUpper ≠ 'U' := by
  cases h with
  | zulu hletter => rcases hletter with rfl | rfl <;> exact ⟨_, _, rfl, by decide⟩
  | east => exact ⟨_, _, rfl, by decide⟩
  | west hsign => rcases hsign with rfl | rfl <;> exact ⟨_, _, rfl, by decide⟩

theorem SpellsZone.start {cs : List Char} {minutes : Int} (h : SpellsZone cs minutes) :
    ∃ c tail, cs = c :: tail ∧ Text.isBlank c = false ∧ c.isDigit = false ∧ c ≠ '.' := by
  cases h with
  | utc hu => rcases eq_of_toUpper_eq hu with rfl | rfl <;> exact ⟨_, _, rfl, by decide⟩
  | offset h =>
    obtain ⟨c, tail, rfl, hblank, hdigit, hpoint, -⟩ := h.start
    exact ⟨c, tail, rfl, hblank, hdigit, hpoint⟩

/-- A zone in front of which no blank stands. -/
def scanTrimmedZone : Scan Int
  | u :: t :: c :: rest =>
    if u.toUpper = 'U' ∧ t.toUpper = 'T' ∧ c.toUpper = 'C' then .ok (0, rest)
    else scanOffset (u :: t :: c :: rest)
  | cs => scanOffset cs

theorem reads_scanTrimmedZone : Reads scanTrimmedZone SpellsZone Anything where
  sound {cs rest minutes} h := by
    rw [scanTrimmedZone.eq_def] at h
    split at h
    · next u t c after =>
      split at h
      · next hletters =>
        cases h
        exact ⟨[u, t, c], .utc hletters.1 hletters.2.1 hletters.2.2, rfl⟩
      · obtain ⟨part, hpart, heq⟩ := reads_scanOffset.sound h
        exact ⟨part, .offset hpart, heq⟩
    · obtain ⟨part, hpart, heq⟩ := reads_scanOffset.sound h
      exact ⟨part, .offset hpart, heq⟩
  complete {part rest minutes} h hrest := by
    cases h with
    | utc hu ht hc => exact if_pos ⟨hu, ht, hc⟩
    | offset h =>
      have hread := reads_scanOffset.complete h hrest
      obtain ⟨c, tail, rfl, -, -, -, hupper⟩ := h.start
      rw [scanTrimmedZone.eq_def]
      split
      · next heq =>
        rw [if_neg fun hletters ↦ hupper ((List.cons.inj heq).1 ▸ hletters.1), ← heq]
        exact hread
      · exact hread

theorem reads_scanZone :
    Reads scanZone (fun cs minutes ↦ AfterBlanks (SpellsZone · minutes) cs) Anything :=
  reads_scanTrimmedZone.afterBlanks fun h ↦ by
    obtain ⟨c, tail, rfl, hblank, -⟩ := h.start
    exact ⟨c, tail, rfl, hblank⟩

end TenantView.Timestamp
