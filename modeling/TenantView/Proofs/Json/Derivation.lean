import Mathlib.Data.List.DropRight
import TenantView.Json.Parser
import TenantView.Proofs.Json.ScalarSkip

/-!
# What has been read

A value that has been read stands at the front of the bytes: `ValueAt`, `ItemsAt` and `MembersAt`
say how, bracket by bracket, without the reader's rounds and without its complaints.  What another
reader makes of the same bytes is proved by induction on them.  Every value takes at least one byte
(`length_lt_of_readTree`), so that a reader has rounds enough wherever there are bytes enough.
-/

namespace TenantView.Json

/-! ## Blanks -/

theorem skipBlanks_skipBlanks (bytes : Bytes) : skipBlanks (skipBlanks bytes) = skipBlanks bytes :=
  List.dropWhile_idempotent ..

theorem length_skipBlanks_le (bytes : Bytes) : (skipBlanks bytes).length ≤ bytes.length :=
  (List.dropWhile_suffix _).length_le

/-! ## Between the parts -/

/-- Another item follows: it begins right here, or behind a comma. -/
theorem readItemStart_eq_true {first : Bool} {bytes start : Bytes}
    (h : readItemStart first bytes = .done true start) :
    (∀ tail, start ≠ Ascii.closeBracket :: tail) ∧
    ((first = true ∧ skipBlanks bytes = start) ∨
      (first = false ∧ ∃ behind, skipBlanks bytes = Ascii.comma :: behind ∧
        skipBlanks behind = start)) := by
  unfold readItemStart at h
  split at h
  · cases h
  · cases h
  · next b tail hclose heq =>
    split at h
    · next hfirst =>
      cases h
      exact ⟨fun tail' heq' ↦ hclose (List.cons.inj heq').1, .inl ⟨hfirst, heq⟩⟩
    · next hfirst =>
      split at h
      · next hcomma =>
        subst hcomma
        split at h
        · cases h
        · cases h
        · next hnil hclose' =>
          cases h
          exact ⟨hclose', .inr ⟨Bool.eq_false_iff.mpr hfirst, tail, heq, rfl⟩⟩
      · cases h

/-- No item follows: the closing bracket is next. -/
theorem readItemStart_eq_false {first : Bool} {bytes rest : Bytes}
    (h : readItemStart first bytes = .done false rest) :
    ∃ behind, rest = Ascii.closeBracket :: behind ∧
      skipBlanks bytes = Ascii.closeBracket :: behind := by
  unfold readItemStart at h
  split at h
  · cases h
  · next behind heq =>
    cases h
    exact ⟨behind, rfl, heq⟩
  · split at h
    · cases h
    · split at h
      · split at h <;> cases h
      · cases h

/-- Another member follows: the quote of its name stands right here, or behind a comma. -/
theorem readMemberStart_eq_true {first : Bool} {bytes start : Bytes}
    (h : readMemberStart first bytes = .done true start) :
    (first = true ∧ skipBlanks bytes = Ascii.quote :: start) ∨
      (first = false ∧ ∃ behind, skipBlanks bytes = Ascii.comma :: behind ∧
        skipBlanks behind = Ascii.quote :: start) := by
  unfold readMemberStart at h
  split at h
  · cases h
  · cases h
  · next b tail hclose heq =>
    split at h
    · next hfirst =>
      split at h
      · next hquote =>
        cases h
        exact .inl ⟨hfirst, hquote ▸ heq⟩
      · cases h
    · next hfirst =>
      split at h
      · next hcomma =>
        subst hcomma
        split at h
        · cases h
        · next behind heq' =>
          cases h
          exact .inr ⟨Bool.eq_false_iff.mpr hfirst, tail, heq, heq'⟩
        · cases h
        · cases h
      · cases h

/-- No member follows: the closing brace is next. -/
theorem readMemberStart_eq_false {first : Bool} {bytes rest : Bytes}
    (h : readMemberStart first bytes = .done false rest) :
    ∃ behind, rest = Ascii.closeBrace :: behind ∧
      skipBlanks bytes = Ascii.closeBrace :: behind := by
  unfold readMemberStart at h
  split at h
  · cases h
  · next behind heq =>
    cases h
    exact ⟨behind, rfl, heq⟩
  · split at h
    · split at h <;> cases h
    · split at h
      · split at h <;> cases h
      · cases h

theorem readColon_eq_done {bytes rest : Bytes} (h : readColon bytes = .done () rest) :
    skipBlanks bytes = Ascii.colon :: rest := by
  unfold readColon at h
  split at h
  · cases h
  · next heq =>
    cases h
    exact heq
  · cases h

/-! ## The parts of a value -/

namespace Outcome

/-- What is read behind something else is read where that ends. -/
theorem andThen_eq_done {α β : Type} {outcome : Outcome α} {next : α → Reader β} {y : β}
    {rest : Bytes} (h : outcome.andThen next = .done y rest) :
    ∃ x behind, outcome = .done x behind ∧ next x behind = .done y rest := by
  cases outcome with
  | done x behind => exact ⟨x, behind, rfl, h⟩
  | failed fault behind => cases h

theorem map_eq_done {α β : Type} {f : α → β} {outcome : Outcome α} {y : β} {rest : Bytes}
    (h : outcome.map f = .done y rest) : ∃ x, outcome = .done x rest ∧ f x = y := by
  cases outcome with
  | done x behind =>
    cases h
    exact ⟨x, rfl, rfl⟩
  | failed fault behind => cases h

theorem closedBy_eq_done {α : Type} {close : Reader Unit} {outcome : Outcome α} {x : α}
    {rest : Bytes} (h : outcome.closedBy close = .done x rest) :
    ∃ behind, outcome = .done x behind ∧ close behind = .done () rest := by
  cases outcome with
  | done y behind =>
    rw [closedBy] at h
    split at h
    · next hclose =>
      cases h
      exact ⟨behind, rfl, hclose⟩
    · cases h
  | failed fault behind =>
    rw [closedBy] at h
    split at h <;> cases h

theorem placed_eq_done {α : Type} {outcome : Outcome α} {x : α} {rest : Bytes}
    (h : outcome.placed = .done x rest) : outcome = .done x rest := by
  rcases outcome with _ | ⟨⟨cause, place⟩, behind⟩
  · exact h
  · cases place <;> cases h

end Outcome

/-- A document is read if a value is in front of it and nothing but blanks behind. -/
theorem readDocument_eq_ok_iff {α : Type} {reader : Reader α} {document : Bytes} {x : α} :
    readDocument reader document = .ok x ↔
      ∃ rest, reader document = .done x rest ∧ skipBlanks rest = [] := by
  rw [readDocument]
  cases reader document with
  | failed fault rest => simp
  | done y rest =>
    simp only [Outcome.done.injEq]
    cases hrest : skipBlanks rest with
    | nil => simp [hrest]
    | cons b after =>
      simp only [reduceCtorEq, false_iff]
      rintro ⟨_, ⟨-, rfl⟩, hnil⟩
      exact absurd (hrest.symm.trans hnil) (List.cons_ne_nil _ _)

/-- The items at the front of the bytes, up to the closing bracket. -/
inductive ItemsAt {α : Type} (item : Reader α) : (first : Bool) → Bytes → List α → Bytes → Prop
  | stop {first : Bool} {bytes rest : Bytes}
      (closes : readItemStart first bytes = .done false rest) : ItemsAt item first bytes [] rest
  | item {first : Bool} {bytes start next rest : Bytes} {x : α} {xs : List α}
      (follows : readItemStart first bytes = .done true start) (head : item start = .done x next)
      (tail : ItemsAt item false next xs rest) : ItemsAt item first bytes (x :: xs) rest

/-- The members at the front of the bytes, up to the closing brace. -/
inductive MembersAt (value : Reader Value) :
    (first : Bool) → Bytes → List (String × Value) → Bytes → Prop
  | stop {first : Bool} {bytes rest : Bytes}
      (closes : readMemberStart first bytes = .done false rest) :
      MembersAt value first bytes [] rest
  | member {first : Bool} {bytes start colon content next rest : Bytes} {name : String} {v : Value}
      {members : List (String × Value)} (follows : readMemberStart first bytes = .done true start)
      (named : readText start = .done name colon) (divided : readColon colon = .done () content)
      (head : value content = .done v next) (tail : MembersAt value false next members rest) :
      MembersAt value first bytes ((name, v) :: members) rest

/-- The value at the front of the bytes, where it begins without blanks and is nested at most
`levels` deep. -/
inductive ValueAt : (levels : Nat) → Bytes → Value → Bytes → Prop
  | null {levels : Nat} {bytes rest : Bytes}
      (keyword : readKeyword restOfNull bytes = .done () rest) :
      ValueAt levels (Ascii.lowerN :: bytes) .null rest
  | isTrue {levels : Nat} {bytes rest : Bytes}
      (keyword : readKeyword restOfTrue bytes = .done () rest) :
      ValueAt levels (Ascii.lowerT :: bytes) (.boolean true) rest
  | isFalse {levels : Nat} {bytes rest : Bytes}
      (keyword : readKeyword restOfFalse bytes = .done () rest) :
      ValueAt levels (Ascii.lowerF :: bytes) (.boolean false) rest
  | string {levels : Nat} {bytes rest : Bytes} {s : String} (text : readText bytes = .done s rest) :
      ValueAt levels (Ascii.quote :: bytes) (.string s) rest
  | number {levels : Nat} {b : UInt8} {bytes rest : Bytes} {n : Number}
      (start : b = Ascii.minus ∨ Ascii.isDigit b = true)
      (digits : readNumber (b :: bytes) = .done n rest) :
      ValueAt levels (b :: bytes) (.number n) rest
  | array {levels : Nat} {bytes rest : Bytes} {items : List Value}
      (inside : ItemsAt (readTree levels) true bytes items (Ascii.closeBracket :: rest)) :
      ValueAt (levels + 1) (Ascii.openBracket :: bytes) (.array items) rest
  | object {levels : Nat} {bytes rest : Bytes} {members : List (String × Value)}
      (inside : MembersAt (readTree levels) true bytes members (Ascii.closeBrace :: rest)) :
      ValueAt (levels + 1) (Ascii.openBrace :: bytes) (.object members) rest

/-- What is read as items are the items at the front. -/
theorem itemsAt_of_readItems {α : Type} {item : Reader α} {rounds : Bytes} {first : Bool}
    {taken xs : List α} {bytes rest : Bytes}
    (h : readItems item rounds first taken bytes = .done xs rest) :
    ∃ behind, xs = taken.reverse ++ behind ∧ ItemsAt item first bytes behind rest := by
  fun_induction readItems item rounds first taken bytes with
  | case2 rounds first taken bytes rest hcloses =>
    cases h
    exact ⟨[], (List.append_nil _).symm, .stop hcloses⟩
  | case5 first taken bytes start hfollows x next hhead b rounds ih =>
    obtain ⟨behind, rfl, hbehind⟩ := ih h
    exact ⟨x :: behind, by simp, .item hfollows hhead hbehind⟩
  | _ => cases h

theorem readMember_eq_done {value : Reader Value} {taken all : List (String × Value)}
    {bytes rest : Bytes} (h : readMember value taken bytes = .done all rest) :
    ∃ name v colon content, readText bytes = .done name colon ∧
      readColon colon = .done () content ∧ value content = .done v rest ∧
      all = (name, v) :: taken := by
  obtain ⟨name, colon, hname, h⟩ := Outcome.andThen_eq_done h
  obtain ⟨_, content, hcolon, h⟩ := Outcome.andThen_eq_done h
  obtain ⟨v, hvalue, rfl⟩ := Outcome.map_eq_done h
  exact ⟨name, v, colon, content, hname, hcolon, hvalue, rfl⟩

/-- What is read as members are the members at the front, in reverse. -/
theorem membersAt_of_readMembers {value : Reader Value} {rounds : Bytes} {first : Bool}
    {taken all : List (String × Value)} {bytes rest : Bytes}
    (h : readMembers (readMember value) rounds first taken bytes = .done all rest) :
    ∃ members, all = members.reverse ++ taken ∧ MembersAt value first bytes members rest := by
  fun_induction readMembers (readMember value) rounds first taken bytes with
  | case2 rounds first taken bytes rest hcloses =>
    cases h
    exact ⟨[], rfl, .stop hcloses⟩
  | case5 first taken bytes start hfollows state next hread b rounds ih =>
    obtain ⟨name, v, colon, content, hname, hcolon, hvalue, rfl⟩ := readMember_eq_done hread
    obtain ⟨members, rfl, hmembers⟩ := ih h
    exact ⟨(name, v) :: members, by simp, .member hfollows hname hcolon hvalue hmembers⟩
  | _ => cases h

/-- The members at the front are read, if there are rounds enough. -/
theorem readMembers_of_membersAt {value : Reader Value} {first : Bool} {bytes rest : Bytes}
    {members : List (String × Value)} (h : MembersAt value first bytes members rest)
    {rounds : Bytes} (hrounds : members.length ≤ rounds.length) (taken : List (String × Value)) :
    readMembers (readMember value) rounds first taken bytes =
      .done (members.reverse ++ taken) rest := by
  induction h generalizing rounds taken with
  | stop hcloses =>
    rw [readMembers, hcloses]
    rfl
  | @member first bytes start colon content next rest name v members hfollows hname hcolon hhead _
      ih =>
    obtain ⟨r, rounds, rfl⟩ := List.exists_cons_of_length_pos (Nat.zero_lt_of_lt hrounds)
    have hmember : readMember value taken start = .done ((name, v) :: taken) next := by
      rw [readMember, hname, Outcome.andThen_done, hcolon, Outcome.andThen_done, hhead]
      rfl
    rw [readMembers, hfollows]
    simp only [hmember]
    rw [ih (Nat.le_of_succ_le_succ hrounds), List.reverse_cons, List.append_assoc]
    rfl

/-- What brackets enclose is read up to the closing one, which is taken. -/
theorem enclosed_eq_done {α : Type} {inner : Option (Reader α)} {close : Reader Unit}
    {opened rest : Bytes} {x : α} (h : enclosed inner close opened = .done x rest) :
    ∃ inside behind, inner = some inside ∧ inside opened.tail = .done x behind ∧
      close behind = .done () rest := by
  cases inner with
  | none => cases h
  | some inside =>
    obtain ⟨behind, hinside, hclose⟩ := Outcome.closedBy_eq_done (Outcome.placed_eq_done h)
    exact ⟨inside, behind, rfl, hinside, hclose⟩

theorem ItemsAt.exists_rest {α : Type} {item : Reader α} {first : Bool} {bytes rest : Bytes}
    {xs : List α} (h : ItemsAt item first bytes xs rest) :
    ∃ behind, rest = Ascii.closeBracket :: behind := by
  induction h with
  | stop hstart =>
    obtain ⟨behind, rfl, -⟩ := readItemStart_eq_false hstart
    exact ⟨behind, rfl⟩
  | item _ _ _ ih => exact ih

theorem MembersAt.exists_rest {value : Reader Value} {first : Bool} {bytes rest : Bytes}
    {members : List (String × Value)} (h : MembersAt value first bytes members rest) :
    ∃ behind, rest = Ascii.closeBrace :: behind := by
  induction h with
  | stop hstart =>
    obtain ⟨behind, rfl, -⟩ := readMemberStart_eq_false hstart
    exact ⟨behind, rfl⟩
  | member _ _ _ _ _ ih => exact ih

/-- Behind the last item stands the closing bracket, and it is taken. -/
theorem closeSequence_closeBracket (rest : Bytes) :
    closeSequence (Ascii.closeBracket :: rest) = .done () rest :=
  rfl

theorem closeMapping_closeBrace (rest : Bytes) :
    closeMapping (Ascii.closeBrace :: rest) = .done () rest :=
  rfl

theorem readTree_eq (levels : Nat) :
    readTree levels = readNode (match levels with
      | 0 => none
      | levels + 1 => some (readTree levels)) := by
  cases levels <;> rfl

/-- **A value that is read stands at the front**, behind blanks. -/
theorem valueAt_of_readTree {levels : Nat} {bytes rest : Bytes} {v : Value}
    (h : readTree levels bytes = .done v rest) : ValueAt levels (skipBlanks bytes) v rest := by
  rw [readTree_eq, readNode] at h
  split at h
  · cases h
  · next heq =>
    obtain ⟨_, hkeyword, rfl⟩ := Outcome.map_eq_done h
    exact heq ▸ .null hkeyword
  · next heq =>
    obtain ⟨_, hkeyword, rfl⟩ := Outcome.map_eq_done h
    exact heq ▸ .isTrue hkeyword
  · next heq =>
    obtain ⟨_, hkeyword, rfl⟩ := Outcome.map_eq_done h
    exact heq ▸ .isFalse hkeyword
  · next heq =>
    obtain ⟨s, htext, rfl⟩ := Outcome.map_eq_done h
    exact heq ▸ .string htext
  · next behind heq =>
    obtain ⟨inside, mid, hinner, hinside, hclose⟩ := enclosed_eq_done h
    cases levels with
    | zero => cases hinner
    | succ levels =>
      cases hinner
      obtain ⟨items, hread, rfl⟩ := Outcome.map_eq_done hinside
      obtain ⟨_, rfl, hitems⟩ := itemsAt_of_readItems hread
      obtain ⟨behind', rfl⟩ := hitems.exists_rest
      cases hclose
      exact heq ▸ .array hitems
  · next behind heq =>
    obtain ⟨inside, mid, hinner, hinside, hclose⟩ := enclosed_eq_done h
    cases levels with
    | zero => cases hinner
    | succ levels =>
      cases hinner
      obtain ⟨members, hread, rfl⟩ := Outcome.map_eq_done hinside
      obtain ⟨_, rfl, hmembers⟩ := membersAt_of_readMembers hread
      obtain ⟨behind', rfl⟩ := hmembers.exists_rest
      cases hclose
      rw [List.append_nil, List.reverse_reverse]
      exact heq ▸ .object hmembers
  · next b behind _ _ _ _ _ _ heq =>
    split at h
    · next hstart =>
      obtain ⟨n, hnumber, rfl⟩ := Outcome.map_eq_done h
      exact heq ▸ .number hstart hnumber
    · cases h

/-! ## What the first byte says -/

section FirstByte

variable {levels : Nat} {tail rest : Bytes} {v : Value}

theorem ValueAt.of_lowerN (h : ValueAt levels (Ascii.lowerN :: tail) v rest) :
    v = .null ∧ readKeyword restOfNull tail = .done () rest := by
  generalize hfront : Ascii.lowerN :: tail = front at h
  cases h with
  | null hkeyword =>
    cases hfront
    exact ⟨rfl, hkeyword⟩
  | number hstart _ =>
    cases hfront
    exact absurd hstart (by decide)
  | _ => cases hfront

theorem ValueAt.of_quote (h : ValueAt levels (Ascii.quote :: tail) v rest) :
    ∃ s, v = .string s ∧ readText tail = .done s rest := by
  generalize hfront : Ascii.quote :: tail = front at h
  cases h with
  | string htext =>
    cases hfront
    exact ⟨_, rfl, htext⟩
  | number hstart _ =>
    cases hfront
    exact absurd hstart (by decide)
  | _ => cases hfront

theorem ValueAt.of_openBracket (h : ValueAt levels (Ascii.openBracket :: tail) v rest) :
    ∃ inner items, levels = inner + 1 ∧ v = .array items ∧
      ItemsAt (readTree inner) true tail items (Ascii.closeBracket :: rest) := by
  generalize hfront : Ascii.openBracket :: tail = front at h
  cases h with
  | array hitems =>
    cases hfront
    exact ⟨_, _, rfl, rfl, hitems⟩
  | number hstart _ =>
    cases hfront
    exact absurd hstart (by decide)
  | _ => cases hfront

theorem ValueAt.of_openBrace (h : ValueAt levels (Ascii.openBrace :: tail) v rest) :
    ∃ inner members, levels = inner + 1 ∧ v = .object members ∧
      MembersAt (readTree inner) true tail members (Ascii.closeBrace :: rest) := by
  generalize hfront : Ascii.openBrace :: tail = front at h
  cases h with
  | object hmembers =>
    cases hfront
    exact ⟨_, _, rfl, rfl, hmembers⟩
  | number hstart _ =>
    cases hfront
    exact absurd hstart (by decide)
  | _ => cases hfront

theorem ValueAt.of_numberStart {b : UInt8} (hb : b = Ascii.minus ∨ Ascii.isDigit b = true)
    (h : ValueAt levels (b :: tail) v rest) :
    ∃ n, v = .number n ∧ readNumber (b :: tail) = .done n rest := by
  generalize hfront : b :: tail = front at h
  cases h with
  | number _ hnumber => exact ⟨_, rfl, hfront ▸ hnumber⟩
  | _ =>
    cases hfront
    exact absurd hb (by decide)

end FirstByte

/-! ## Lengths -/

theorem length_le_of_readKeyword {letters bytes rest : Bytes}
    (h : readKeyword letters bytes = .done () rest) : rest.length ≤ bytes.length := by
  induction letters generalizing bytes with
  | nil =>
    cases h
    exact Nat.le_refl _
  | cons letter letters ih =>
    cases bytes with
    | nil => cases h
    | cons b bytes =>
      rw [readKeyword] at h
      split at h
      · exact (ih h).trans (Nat.le_succ _)
      · cases h

theorem length_le_of_readItemStart {first follows : Bool} {bytes start : Bytes}
    (h : readItemStart first bytes = .done follows start) : start.length ≤ bytes.length := by
  have hblanks := length_skipBlanks_le bytes
  cases follows with
  | false =>
    obtain ⟨behind, rfl, heq⟩ := readItemStart_eq_false h
    exact heq ▸ hblanks
  | true =>
    rcases (readItemStart_eq_true h).2 with ⟨-, rfl⟩ | ⟨-, behind, heq, rfl⟩
    · exact hblanks
    · rw [heq] at hblanks
      exact (length_skipBlanks_le behind).trans ((Nat.le_succ _).trans hblanks)

theorem length_le_of_readMemberStart {first follows : Bool} {bytes start : Bytes}
    (h : readMemberStart first bytes = .done follows start) : start.length ≤ bytes.length := by
  have hblanks := length_skipBlanks_le bytes
  cases follows with
  | false =>
    obtain ⟨behind, rfl, heq⟩ := readMemberStart_eq_false h
    exact heq ▸ hblanks
  | true =>
    rcases readMemberStart_eq_true h with ⟨-, heq⟩ | ⟨-, behind, heq, heq'⟩
    · rw [heq] at hblanks
      exact (Nat.le_succ _).trans hblanks
    · have hblanks' := length_skipBlanks_le behind
      rw [heq] at hblanks
      rw [heq'] at hblanks'
      simp only [List.length_cons] at hblanks hblanks'
      omega

/-- Every item takes at least one byte if its reader does. -/
theorem ItemsAt.length_le {α : Type} {item : Reader α}
    (hitem : ∀ {bytes x rest}, item bytes = .done x rest → rest.length < bytes.length)
    {first : Bool} {bytes rest : Bytes} {xs : List α} (h : ItemsAt item first bytes xs rest) :
    xs.length + rest.length ≤ bytes.length := by
  induction h with
  | stop hcloses =>
    have hstart := length_le_of_readItemStart hcloses
    simpa using hstart
  | item hfollows hhead _ ih =>
    have hstart := length_le_of_readItemStart hfollows
    have hx := hitem hhead
    simp only [List.length_cons]
    omega

/-- Every member takes at least one byte. -/
theorem MembersAt.length_le {value : Reader Value}
    (hvalue : ∀ {bytes v rest}, value bytes = .done v rest → rest.length < bytes.length)
    {first : Bool} {bytes rest : Bytes} {members : List (String × Value)}
    (h : MembersAt value first bytes members rest) :
    members.length + rest.length ≤ bytes.length := by
  induction h with
  | stop hcloses =>
    have hstart := length_le_of_readMemberStart hcloses
    simpa using hstart
  | @member _ _ _ colon content _ _ _ _ _ hfollows hname hcolon hhead _ ih =>
    have hstart := length_le_of_readMemberStart hfollows
    have htext := (quoted_of_readText hname).length_lt
    have hblanks := length_skipBlanks_le colon
    rw [readColon_eq_done hcolon] at hblanks
    have hv := hvalue hhead
    simp only [List.length_cons] at hblanks ⊢
    omega

/-- A value at the front takes at least one byte if its parts do. -/
theorem ValueAt.length_lt {levels : Nat} {bytes rest : Bytes} {v : Value}
    (hparts : ∀ inner, levels = inner + 1 → ∀ {bytes v rest},
      readTree inner bytes = .done v rest → rest.length < bytes.length)
    (h : ValueAt levels bytes v rest) : rest.length < bytes.length := by
  cases h with
  | null hkeyword | isTrue hkeyword | isFalse hkeyword =>
    exact Nat.lt_succ_of_le (length_le_of_readKeyword hkeyword)
  | string htext => exact (quoted_of_readText htext).length_lt.trans (Nat.lt_succ_self _)
  | number _ hnumber => exact length_lt_of_readNumber hnumber
  | array hitems =>
    have hlength := hitems.length_le (hparts _ rfl)
    simp only [List.length_cons] at hlength ⊢
    omega
  | object hmembers =>
    have hlength := hmembers.length_le (hparts _ rfl)
    simp only [List.length_cons] at hlength ⊢
    omega

/-- A value that is read takes at least one byte. -/
theorem length_lt_of_readTree {levels : Nat} {bytes rest : Bytes} {v : Value}
    (h : readTree levels bytes = .done v rest) : rest.length < bytes.length := by
  induction levels generalizing bytes v rest with
  | zero =>
    refine ((valueAt_of_readTree h).length_lt ?_).trans_le (length_skipBlanks_le bytes)
    exact fun _ heq ↦ absurd heq (Nat.succ_ne_zero _).symm
  | succ levels ih =>
    refine ((valueAt_of_readTree h).length_lt ?_).trans_le (length_skipBlanks_le bytes)
    intro inner heq
    cases heq
    exact ih

end TenantView.Json
