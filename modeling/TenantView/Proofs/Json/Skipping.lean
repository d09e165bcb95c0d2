import TenantView.Proofs.Json.Derivation
import TenantView.Proofs.Json.RoundTrip

/-!
# Values passed over

A value that nobody asks for is passed over without being built, with the open brackets in a list.
A value that can be read is passed over up to the same place (`skipValue_of_readTree`).  The
induction is on what has been read: the inside of a bracket is passed over whatever is open around
it (`SkipsInside`), and then the skipping goes on in the next bracket outwards (`skipOuter`).
-/

namespace TenantView.Json

/-- Goes on behind a value that has been passed over, in the brackets that are open around it. -/
def skipOuter (rounds : Bytes) : List Bracket → Reader Unit
  | [], bytes => .done () bytes
  | around :: outer, bytes => skipInside rounds false around outer bytes

/-- The inside of a bracket is passed over up to the rest behind the closing bracket, whatever is
open around it, if there are as many rounds as bytes. -/
def SkipsInside (bracket : Bracket) (first : Bool) (bytes rest : Bytes) : Prop :=
  ∀ rounds outer, bytes.length ≤ rounds.length → ∃ left : Bytes, rest.length ≤ left.length ∧
    skipInside rounds first bracket outer bytes = skipOuter left outer rest

/-- A value is passed over: at once, or by its opening bracket and the inside of it. -/
inductive Skips (bytes rest : Bytes) : Prop
  | atOnce (start : skipStart bytes = .done none rest)
  | bracket {bracket : Bracket} {inside : Bytes}
      (start : skipStart bytes = .done (some bracket) inside)
      (length : inside.length < bytes.length) (skips : SkipsInside bracket true inside rest)

/-- Where a bracket closes. -/
theorem skipsInside_of_close {bracket : Bracket} {first : Bool} {bytes rest : Bytes}
    (hclose : skipBlanks bytes = bracket.closing :: rest) :
    SkipsInside bracket first bytes rest := by
  intro rounds outer hrounds
  have hlength := length_skipBlanks_le bytes
  rw [hclose, List.length_cons] at hlength
  cases rounds with
  | nil => exact absurd (hlength.trans hrounds) (Nat.not_succ_le_zero _)
  | cons r rounds =>
    rw [skipInside.eq_def]
    simp only [hclose, if_true]
    cases outer with
    | nil => exact ⟨rest, Nat.le_refl _, rfl⟩
    | cons around outer =>
      exact ⟨rounds, Nat.le_of_succ_le_succ (hlength.trans hrounds), rfl⟩

/-- Where a part begins: right here at the first one, behind a comma at the others. -/
def BeginsPart (bracket : Bracket) (first : Bool) (bytes part : Bytes) : Prop :=
  (∀ tail, skipBlanks bytes ≠ bracket.closing :: tail) ∧
    (if first then skipBlanks bytes = part ∧ part ≠ []
      else skipBlanks bytes = Ascii.comma :: part)

theorem skipInside_of_part {bracket : Bracket} {first : Bool} {bytes part value : Bytes}
    (hpart : BeginsPart bracket first bytes part)
    (hname : bracket.skipPartName part = .done () value) (r : UInt8) (rounds : Bytes)
    (outer : List Bracket) :
    skipInside (r :: rounds) first bracket outer bytes =
      (skipStart value).andThen fun opened rest ↦
        match opened with
        | none => skipInside rounds false bracket outer rest
        | some inner => skipInside rounds true inner (bracket :: outer) rest := by
  obtain ⟨hclose, hbegins⟩ := hpart
  rw [skipInside.eq_def]
  cases first with
  | true =>
    obtain ⟨hblanks, hne⟩ := hbegins
    obtain ⟨b, behind, rfl⟩ := List.exists_cons_of_ne_nil hne
    have hb : b ≠ bracket.closing := fun heq ↦ hclose behind (heq ▸ hblanks)
    simp only [hblanks, if_neg hb, if_true, hname, Outcome.andThen_done]
    cases skipStart value <;> rfl
  | false =>
    have hblanks : skipBlanks bytes = Ascii.comma :: part := hbegins
    have hb : Ascii.comma ≠ bracket.closing := fun heq ↦ hclose part (heq ▸ hblanks)
    simp only [hblanks, if_neg hb, if_true, hname, Outcome.andThen_done, Bool.false_eq_true,
      if_false]
    cases skipStart value <;> rfl

/-- A part of a bracket is passed over with what precedes its value, and then the others. -/
theorem SkipsInside.part {bracket : Bracket} {first : Bool} {bytes part value next rest : Bytes}
    (hpart : BeginsPart bracket first bytes part)
    (hname : bracket.skipPartName part = .done () value) (hvalue : Skips value next)
    (hlength : value.length ≤ bytes.length) (hnext : next.length < value.length)
    (hrest : SkipsInside bracket false next rest) :
    SkipsInside bracket first bytes rest := by
  intro rounds outer hrounds
  cases rounds with
  | nil =>
    simp only [List.length_nil] at hrounds
    omega
  | cons r rounds =>
    simp only [List.length_cons] at hrounds
    rw [skipInside_of_part hpart hname]
    cases hvalue with
    | atOnce hstart =>
      rw [hstart]
      exact hrest rounds outer (by omega)
    | @bracket inner inside hstart hinside hskips =>
      obtain ⟨left, hleft, heq⟩ := hskips rounds (bracket :: outer) (by omega)
      rw [hstart, Outcome.andThen_done]
      simp only
      rw [heq]
      exact hrest left outer hleft

/-- Blanks in front of a value are passed over with it. -/
theorem Skips.of_skipBlanks {bytes rest : Bytes} (h : Skips (skipBlanks bytes) rest) :
    Skips bytes rest := by
  have hstart : skipStart (skipBlanks bytes) = skipStart bytes := by
    rw [skipStart, skipBlanks_skipBlanks, skipStart]
  cases h with
  | atOnce start => exact .atOnce (hstart ▸ start)
  | bracket start length skips =>
    exact .bracket (hstart ▸ start) (length.trans_le (length_skipBlanks_le bytes)) skips

/-- Items are passed over if each of them is. -/
theorem ItemsAt.skipsInside {item : Reader Value}
    (hitem : ∀ {bytes v rest}, item bytes = .done v rest → Skips bytes rest)
    (hlength : ∀ {bytes v rest}, item bytes = .done v rest → rest.length < bytes.length)
    {first : Bool} {bytes rest : Bytes} {items : List Value}
    (h : ItemsAt item first bytes items (Ascii.closeBracket :: rest)) :
    SkipsInside .sequence first bytes rest := by
  generalize hlast : Ascii.closeBracket :: rest = last at h
  induction h with
  | stop hcloses =>
    obtain ⟨behind, rfl, hclose⟩ := readItemStart_eq_false hcloses
    cases hlast
    exact skipsInside_of_close hclose
  | @item first bytes start next last v items hfollows hhead _ ih =>
    have hnext := hlength hhead
    have hblanks := length_skipBlanks_le bytes
    obtain ⟨hclose, ⟨rfl, rfl⟩ | ⟨rfl, behind, hcomma, rfl⟩⟩ := readItemStart_eq_true hfollows
    · have hne : skipBlanks bytes ≠ [] := List.ne_nil_of_length_pos (Nat.zero_lt_of_lt hnext)
      exact .part ⟨hclose, rfl, hne⟩ rfl (hitem hhead) hblanks hnext (ih hlast)
    · have hbehind := length_skipBlanks_le behind
      rw [hcomma, List.length_cons] at hblanks
      refine .part ⟨fun tail heq ↦ ?_, hcomma⟩ rfl (hitem hhead).of_skipBlanks
        ((Nat.le_succ _).trans hblanks) (hnext.trans_le hbehind) (ih hlast)
      rw [hcomma] at heq
      exact absurd (List.cons.inj heq).1 (by decide)

theorem skipName_of_quote {bytes start colon content : Bytes} {name : String}
    (hquote : skipBlanks bytes = Ascii.quote :: start) (hname : readText start = .done name colon)
    (hcolon : readColon colon = .done () content) : skipName bytes = .done () content := by
  rw [skipName, hquote]
  change (skipText start).andThen _ = _
  rw [(quoted_of_readText hname).skipText_eq, Outcome.andThen_done, hcolon]

/-- Members are passed over if each of their values is. -/
theorem MembersAt.skipsInside {value : Reader Value}
    (hvalue : ∀ {bytes v rest}, value bytes = .done v rest → Skips bytes rest)
    (hlength : ∀ {bytes v rest}, value bytes = .done v rest → rest.length < bytes.length)
    {first : Bool} {bytes rest : Bytes} {members : List (String × Value)}
    (h : MembersAt value first bytes members (Ascii.closeBrace :: rest)) :
    SkipsInside .mapping first bytes rest := by
  generalize hlast : Ascii.closeBrace :: rest = last at h
  induction h with
  | stop hcloses =>
    obtain ⟨behind, rfl, hclose⟩ := readMemberStart_eq_false hcloses
    cases hlast
    exact skipsInside_of_close hclose
  | @member first bytes start colon content next last name v members hfollows hname hcolon hhead _
      ih =>
    have hcontent : content.length ≤ bytes.length := by
      have hstart := length_le_of_readMemberStart hfollows
      have htext := (quoted_of_readText hname).length_lt
      have hblanks := length_skipBlanks_le colon
      rw [readColon_eq_done hcolon, List.length_cons] at hblanks
      omega
    rcases readMemberStart_eq_true hfollows with ⟨rfl, hquote⟩ | ⟨rfl, behind, hcomma, hquote⟩
    · refine .part ⟨fun tail heq ↦ ?_, rfl, hquote ▸ List.cons_ne_nil _ _⟩
        (skipName_of_quote ((skipBlanks_skipBlanks bytes).trans hquote) hname hcolon)
        (hvalue hhead) hcontent (hlength hhead) (ih hlast)
      rw [hquote] at heq
      exact absurd (List.cons.inj heq).1 (by decide)
    · refine .part ⟨fun tail heq ↦ ?_, hcomma⟩ (skipName_of_quote hquote hname hcolon)
        (hvalue hhead) hcontent (hlength hhead) (ih hlast)
      rw [hcomma] at heq
      exact absurd (List.cons.inj heq).1 (by decide)

/-- A number is passed over at once. -/
theorem skipStart_number {b : UInt8} (hstart : b = Ascii.minus ∨ Ascii.isDigit b = true)
    (tail : Bytes) : skipStart (b :: tail) = (skipNumber (b :: tail)).map fun () ↦ none := by
  rw [skipStart, skipBlanks_of_beginsValue (beginsValue_number hstart tail)]
  split
  case h_8 h =>
    cases h
    rw [if_pos hstart]
  case h_1 h => cases h
  all_goals
    next h =>
      cases h
      exact absurd hstart (by decide)

/-- A value at the front is passed over if its parts are. -/
theorem ValueAt.skips {levels : Nat} {bytes rest : Bytes} {v : Value}
    (hparts : ∀ inner, levels = inner + 1 → ∀ {bytes v rest},
      readTree inner bytes = .done v rest → Skips bytes rest)
    (h : ValueAt levels bytes v rest) : Skips bytes rest := by
  have hdone : ∀ {outcome : Outcome Unit}, outcome = .done () rest →
      (outcome.map fun () ↦ (none : Option Bracket)) = .done none rest := by
    rintro _ rfl
    rfl
  cases h with
  | null hkeyword | isTrue hkeyword | isFalse hkeyword => exact .atOnce (hdone hkeyword)
  | string htext => exact .atOnce (hdone (quoted_of_readText htext).skipText_eq)
  | number hstart hnumber =>
    exact .atOnce ((skipStart_number hstart _).trans (hdone (skipNumber_of_readNumber hnumber)))
  | array hitems =>
    exact .bracket rfl (Nat.lt_succ_self _)
      (hitems.skipsInside (hparts _ rfl) length_lt_of_readTree)
  | object hmembers =>
    exact .bracket rfl (Nat.lt_succ_self _)
      (hmembers.skipsInside (hparts _ rfl) length_lt_of_readTree)

theorem skips_of_readTree {levels : Nat} {bytes rest : Bytes} {v : Value}
    (h : readTree levels bytes = .done v rest) : Skips bytes rest := by
  induction levels generalizing bytes v rest with
  | zero =>
    refine ((valueAt_of_readTree h).skips ?_).of_skipBlanks
    exact fun _ heq ↦ absurd heq (Nat.succ_ne_zero _).symm
  | succ levels ih =>
    refine ((valueAt_of_readTree h).skips ?_).of_skipBlanks
    intro inner heq
    cases heq
    exact ih

/-- **A value that is read is passed over** up to the same place, however deep it is nested. -/
theorem skipValue_of_readTree {levels : Nat} {bytes rest : Bytes} {v : Value}
    (h : readTree levels bytes = .done v rest) : skipValue bytes = .done () rest := by
  rw [skipValue]
  cases skips_of_readTree h with
  | atOnce hstart => rw [hstart, Outcome.andThen_done]
  | @bracket bracket inside hstart hinside hskips =>
    obtain ⟨left, -, heq⟩ := hskips inside [] (Nat.le_refl _)
    rw [hstart, Outcome.andThen_done]
    exact heq

end TenantView.Json
