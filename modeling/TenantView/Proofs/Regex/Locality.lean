import TenantView.Proofs.Regex.Closing

/-!
# Escapes, counts and openings in front of closing signs

The readers of one sign of a pattern do the same in front of the closing signs, or use one of them
up.  The edge of a word is the exception: in front of an opening brace it leaves the closing signs
to counts that cannot be read (`readEscape_local`, `readCounts_atClosing`).
-/

namespace TenantView.Regex

/-! ## Escapes -/

theorem readHexDigits_local (modes : Modes) (count value : Nat) :
    IsLocal IsSpent (readHexDigits modes count value) := by
  induction count generalizing value with
  | zero => exact fun cs ↦ .done value cs
  | succ count ih =>
    intro cs
    rw [readHexDigits, readHexDigits]
    rcases modes.skip_cases cs with ⟨c, rest, h, h'⟩ | ⟨h, h'⟩
    · rw [h, h']
      cases hdigit : Text.radixDigit? 16 c with
      | none =>
        simp only [hdigit]
        exact .none
      | some digit =>
        simp only [hdigit]
        exact ih (16 * value + digit) rest
    · rw [h]
      rcases h' with h' | h'
      · rw [h']
        exact .none
      · rw [h']
        exact .none

/-- A character in braces is taken with the rest of them. -/
theorem splitBraces_cons {modes : Modes} {cs rest : List Char} {c : Char}
    (hsign : modes.skip cs = c :: rest) (hc : c ≠ '\x7d') (b : Char) (rounds : List Char) :
    splitBraces modes (b :: rounds) cs =
      (splitBraces modes rounds rest).map fun p ↦ (c :: p.1, p.2) := by
  rw [splitBraces, hsign]
  split
  · next heq => cases heq
  · next heq => exact absurd (List.cons.inj heq).1 hc
  · next heq =>
    cases heq
    rfl

/-- Braces that are closed behind the pattern use up the closing sign. -/
theorem splitBraces_used {modes : Modes} {rounds cs inside rest : List Char}
    (h : modes.IsAtClosing cs) (hread : splitBraces modes rounds cs = some (inside, rest)) :
    IsSpent inside rest := by
  cases rounds with
  | nil => cases hread
  | cons b rounds =>
    rw [splitBraces] at hread
    rcases h with h | h
    · rw [h] at hread
      obtain ⟨⟨before, after⟩, hsplit, heq⟩ := map_eq_some hread
      cases heq
      exact splitBraces_suffix hsplit
    · rw [h] at hread
      cases hread

/-- The rounds are enough for what is there; nothing else matters about them. -/
theorem splitBraces_localAt (modes : Modes) {rounds rounds' cs : List Char}
    (h : Enough rounds rounds' cs) :
    LocalAt IsSpent (splitBraces modes rounds cs) (splitBraces modes rounds' (cs ++ closing)) := by
  induction rounds generalizing rounds' cs with
  | nil =>
    refine .failed fun inside rest hread ↦ splitBraces_used ?_ hread
    obtain rfl := h.eq_nil
    exact .inl modes.skip_closing
  | cons b rounds ih =>
    obtain ⟨b', rounds', rfl⟩ := h.exists_cons
    rcases modes.skip_cases cs with ⟨c, rest, hsign, hsign'⟩ | ⟨hnone, hclosing⟩
    · have hlength := Modes.rest_length_lt hsign
      by_cases hbrace : c = '\x7d'
      · subst hbrace
        rw [splitBraces, splitBraces, hsign, hsign']
        exact .done [] rest
      · rw [splitBraces_cons hsign hbrace, splitBraces_cons hsign' hbrace]
        exact (ih (h.after hlength)).map fun _ _ hspent ↦ hspent
    · have hfailed : splitBraces modes (b :: rounds) cs = none := by
        rw [splitBraces, hnone]
      rw [hfailed]
      exact .failed fun inside rest hread ↦ splitBraces_used hclosing hread

theorem readCode_local (modes : Modes) (count : Nat) :
    IsLocal IsSpent (readCode modes count) := by
  intro cs
  have hdigits : LocalAt IsSpent
      (readHexDigits modes count 0 cs >>= fun p ↦ pure ((p.1, false), p.2))
      (readHexDigits modes count 0 (cs ++ closing) >>= fun p ↦ pure ((p.1, false), p.2)) := by
    refine (readHexDigits_local modes count 0 cs).bindSpent (fun x rest _ ↦ .done (x, false) rest)
      fun x rest y rest' h ↦ ?_
    cases h
    exact List.suffix_rfl
  rw [readCode, readCode]
  rcases modes.skip_cases cs with ⟨c, rest, hsign, hsign'⟩ | ⟨hnone, hclosing | hclosing⟩
  · rw [hsign, hsign']
    by_cases hbrace : c = '\x7b'
    · subst hbrace
      exact (splitBraces_localAt modes (.all _)).bindSpent
        (fun inside rest _ ↦ .checked (codeOfDigits inside) _ rest) fun _ _ _ _ ↦ checked_suffix
    · split
      · next heq => exact absurd (List.cons.inj heq).1 hbrace
      · split
        · next heq => exact absurd (List.cons.inj heq).1 hbrace
        · exact hdigits
  · rw [hnone, hclosing]
    exact hdigits
  · rw [hnone, hclosing]
    exact hdigits

theorem readCodeChar_local (modes : Modes) (count : Nat) :
    IsLocal IsSpent (readCodeChar modes count) := fun cs ↦
  (readCode_local modes count cs).bindSpent
    (fun x rest _ ↦ .checked (codeChar modes count x.1 x.2) id rest) fun _ _ _ _ ↦ checked_suffix

/-- A letter without braces is the name of a property. -/
theorem readPropertyName_letter {modes : Modes} {cs rest : List Char} {c : Char}
    (hsign : modes.skip cs = c :: rest) (hbackslash : c ≠ '\\') (hbrace : c ≠ '\x7b') :
    readPropertyName modes cs = some ([c], rest) := by
  rw [readPropertyName, hsign]
  split
  · next heq => cases heq
  · next heq => exact absurd (List.cons.inj heq).1 hbackslash
  · next heq => exact absurd (List.cons.inj heq).1 hbrace
  · next heq =>
    cases heq
    rfl

theorem readPropertyName_local (modes : Modes) : IsLocal IsSpent (readPropertyName modes) := by
  intro cs
  rcases modes.skip_cases cs with ⟨c, rest, hsign, hsign'⟩ | ⟨hnone, hclosing⟩
  · by_cases hbackslash : c = '\\'
    · subst hbackslash
      rw [readPropertyName, readPropertyName, hsign, hsign']
      exact .none
    · by_cases hbrace : c = '\x7b'
      · subst hbrace
        rw [readPropertyName, readPropertyName, hsign, hsign']
        exact splitBraces_localAt modes (.all _)
      · rw [readPropertyName_letter hsign hbackslash hbrace,
          readPropertyName_letter hsign' hbackslash hbrace]
        exact .done [c] rest
  · rw [readPropertyName, readPropertyName, hnone]
    rcases hclosing with hclosing | hclosing
    · rw [hclosing]
      refine .failed fun name rest h ↦ ?_
      cases h
      exact List.suffix_rfl
    · rw [hclosing]
      exact .none

theorem readProperty_local (modes : Modes) (negated : Bool) :
    IsLocal IsSpent (readProperty modes negated) := fun cs ↦
  (readPropertyName_local modes cs).bindSpent
    (fun name rest _ ↦ .checked (propertyChars modes negated name) id rest)
    fun _ _ _ _ ↦ checked_suffix

/-- A name of an edge that goes on behind the pattern is no name. -/
theorem readEdgeName_atClosing {modes : Modes} {cs : List Char} (h : modes.IsAtClosing cs)
    (rounds : List Char) : readEdgeName modes rounds cs = none := by
  cases rounds with
  | nil => rfl
  | cons b rounds =>
    rw [readEdgeName]
    rcases h with h | h
    · rw [h]
      rfl
    · rw [h]

/-- A letter of the name of an edge is taken with the rest of them. -/
theorem readEdgeName_cons {modes : Modes} {cs rest : List Char} {c : Char}
    (hsign : modes.skip cs = c :: rest) (hbrace : c ≠ '\x7d') (b : Char) (rounds : List Char) :
    readEdgeName modes (b :: rounds) cs =
      if c.isAlpha || c = '-' then
        (readEdgeName modes rounds rest).map fun p ↦ (c :: p.1, p.2)
      else none := by
  rw [readEdgeName, hsign]
  split
  · next heq => exact absurd (List.cons.inj heq).1 hbrace
  · next heq =>
    cases heq
    rfl
  · next heq => cases heq

theorem readEdgeName_localAt (modes : Modes) {rounds rounds' cs : List Char}
    (h : Enough rounds rounds' cs) :
    LocalAt IsSpent (readEdgeName modes rounds cs)
      (readEdgeName modes rounds' (cs ++ closing)) := by
  induction rounds generalizing rounds' cs with
  | nil =>
    obtain rfl := h.eq_nil
    rw [List.nil_append, readEdgeName_atClosing (.inl modes.skip_closing)]
    exact .none
  | cons b rounds ih =>
    obtain ⟨b', rounds', rfl⟩ := h.exists_cons
    rcases modes.skip_cases cs with ⟨c, rest, hsign, hsign'⟩ | ⟨hnone, hclosing⟩
    · have hlength := Modes.rest_length_lt hsign
      by_cases hbrace : c = '\x7d'
      · subst hbrace
        rw [readEdgeName, readEdgeName, hsign, hsign']
        exact .done [] rest
      · rw [readEdgeName_cons hsign hbrace, readEdgeName_cons hsign' hbrace]
        split
        · exact (ih (h.after hlength)).map fun _ _ hspent ↦ hspent
        · exact .none
    · rw [readEdgeName_atClosing hclosing, readEdgeName, hnone]
      exact .none

/-- What is left behind the edge of a word when the pattern ends inside an opening brace: the brace
is left for a repetition. -/
def IsLeftForCounts (modes : Modes) (rest : List Char) : Prop :=
  ∃ tail, rest = '\x7b' :: tail ∧ modes.skip tail = closing

/-- The edge of a word has no kind in front of anything but a brace. -/
theorem readEdge_plain (modes : Modes) {cs : List Char} (h : ∀ rest, cs ≠ '\x7b' :: rest) :
    readEdge modes cs = some (.boundary, cs) := by
  rw [readEdge.eq_def]
  split
  · next rest => exact absurd rfl (h rest)
  · rfl

/-- The kinds of edges in braces. -/
theorem readEdge_brace {modes : Modes} {rest tail : List Char} {c : Char}
    (hsign : modes.skip rest = c :: tail) :
    readEdge modes ('\x7b' :: rest) =
      if c.isAlpha || c = '-' then
        readEdgeName modes rest rest >>= fun p ↦ edgeOfName p.1 >>= fun kind ↦ pure (kind, p.2)
      else some (.boundary, '\x7b' :: rest) := by
  rw [readEdge, hsign]

theorem readEdge_local (modes : Modes) :
    IsLocal (fun _ rest ↦ rest <:+ ['$'] ∨ IsLeftForCounts modes rest) (readEdge modes) := by
  intro cs
  by_cases hbrace : ∃ rest, cs = '\x7b' :: rest
  · obtain ⟨rest, rfl⟩ := hbrace
    rw [List.cons_append]
    rcases modes.skip_cases rest with ⟨c, tail, hsign, hsign'⟩ | ⟨hnone, hclosing⟩
    · rw [readEdge_brace hsign, readEdge_brace hsign']
      split
      · refine (readEdgeName_localAt modes (.all _)).bind
          (fun name after _ ↦ .checked (edgeOfName name) id after)
          fun name after kind after' h h' ↦ ?_
        exact .inl ((checked_suffix h').trans h)
      · exact .done _ _
    · have hfailed : readEdge modes ('\x7b' :: rest) = none := by
        rw [readEdge, hnone]
      rw [hfailed]
      rcases hclosing with hclosing | hclosing
      · rw [readEdge_brace hclosing]
        refine .failed fun kind after h ↦ ?_
        cases h
        exact .inr ⟨rest ++ closing, rfl, hclosing⟩
      · rw [readEdge, hclosing]
        exact .none
  · have hplain : ∀ rest, cs ≠ '\x7b' :: rest := fun rest heq ↦ hbrace ⟨rest, heq⟩
    have hplain' : ∀ rest, cs ++ closing ≠ '\x7b' :: rest := by
      intro rest heq
      cases cs with
      | nil => cases heq
      | cons c cs => exact hbrace ⟨cs, congrArg (· :: cs) (List.cons.inj heq).1⟩
    rw [readEdge_plain modes hplain, readEdge_plain modes hplain']
    exact .done _ cs

/-- What is left behind an escape that needs the closing signs. -/
def UsedByEscape (modes : Modes) (primitive : Primitive) (rest : List Char) : Prop :=
  rest <:+ ['$'] ∨ (∃ condition, primitive = .look condition) ∧ IsLeftForCounts modes rest

theorem escapedSet_localAt (modes : Modes) (negated : Bool) (chars : Text.CharSet)
    (cs : List Char) :
    LocalAt (UsedByEscape modes) (escapedSet modes negated chars cs)
      (escapedSet modes negated chars (cs ++ closing)) := by
  unfold escapedSet
  cases modes.negate negated chars with
  | none => exact .none
  | some set => exact .done (Primitive.chars set) cs

theorem LocalAt.ofSpent {modes : Modes} {a b : Option (Primitive × List Char)}
    (h : LocalAt IsSpent a b) : LocalAt (UsedByEscape modes) a b where
  append := h.append
  used ha hb := .inl (h.used ha hb)

/-- An escape is the same in front of the closing signs. -/
theorem readEscape_local (modes : Modes) : IsLocal (UsedByEscape modes) (readEscape modes) := by
  intro cs
  cases cs with
  | nil =>
    refine .failed fun x rest h ↦ .inl ?_
    cases h
    exact List.suffix_rfl
  | cons c cs =>
    rw [List.cons_append, readEscape.eq_def, readEscape.eq_def]
    simp only
    split
    case h_1 | h_2 | h_3 => exact (readCodeChar_local modes _ cs).ofSpent
    case h_4 | h_5 => exact (readProperty_local modes _ cs).ofSpent
    case h_6 | h_7 | h_8 | h_9 | h_10 | h_11 => exact escapedSet_localAt modes _ _ cs
    case h_20 =>
      refine (readEdge_local modes cs).map
        (f := fun kind ↦ Primitive.look (.word kind modes.wordChars)) fun kind rest h ↦ ?_
      rcases h with h | hleft
      · exact .inl h
      · exact .inr ⟨⟨_, rfl⟩, hleft⟩
    case h_24 =>
      split
      · exact .done _ cs
      · exact .none
    all_goals exact .done _ cs

/-! ## Counts -/

theorem readDigits_atClosing {modes : Modes} {cs : List Char} (h : modes.IsAtClosing cs)
    (rounds digits : List Char) : readDigits modes rounds digits cs = (digits.reverse, cs) := by
  cases rounds with
  | nil => rfl
  | cons b rounds =>
    rw [readDigits]
    rcases h with h | h
    · rw [h]
      rfl
    · rw [h]

/-- Digits end where the pattern ends. -/
theorem readDigits_append (modes : Modes) {rounds rounds' cs : List Char}
    (h : Enough rounds rounds' cs)
    (digits : List Char) :
    readDigits modes rounds' digits (cs ++ closing) =
      ((readDigits modes rounds digits cs).1,
        (readDigits modes rounds digits cs).2 ++ closing) := by
  induction rounds generalizing rounds' cs digits with
  | nil =>
    obtain rfl := h.eq_nil
    exact readDigits_atClosing (.inl modes.skip_closing) rounds' digits
  | cons b rounds ih =>
    obtain ⟨b', rounds', rfl⟩ := h.exists_cons
    rcases modes.skip_cases cs with ⟨c, rest, hsign, hsign'⟩ | ⟨hnone, hclosing⟩
    · have hlength := Modes.rest_length_lt hsign
      rw [readDigits, readDigits, hsign, hsign']
      simp only
      split
      · exact ih (h.after hlength) (c :: digits)
      · rfl
    · rw [readDigits_atClosing hclosing, readDigits, hnone]

theorem readCount_local (modes : Modes) {Used : Nat → List Char → Prop} :
    IsLocal Used (readCount modes) := by
  intro cs
  rw [readCount, readCount, dropBlanks_append,
    readDigits_append modes (.all _)]
  exact .checked (countOfDigits _) id _

/-- There is no count where the pattern has ended. -/
theorem readCount_nil (modes : Modes) : readCount modes [] = none :=
  rfl

theorem readCount_closing (modes : Modes) : readCount modes closing = none := by
  have hblanks : closing.dropWhile Text.isBlank = closing := rfl
  rw [readCount, hblanks, readDigits_atClosing (.inl modes.skip_closing)]
  rfl

theorem readCount_atClosing {modes : Modes} {cs : List Char} (h : modes.IsAtClosing cs) :
    readCount modes (modes.skip cs) = none := by
  rcases h with h | h
  · rw [h, readCount_closing]
  · rw [h, readCount_nil]

/-- A sign is looked for in front of the closing signs. -/
theorem takeSign_append (modes : Modes) {sign : Char} (hsign : sign ≠ ')') (cs : List Char) :
    takeSign modes sign (cs ++ closing) =
      ((takeSign modes sign cs).1, (takeSign modes sign cs).2 ++ closing) := by
  rw [takeSign, takeSign]
  rcases modes.skip_cases cs with ⟨c, rest, h, h'⟩ | ⟨h, h' | h'⟩
  · rw [h, h']
    simp only
    split
    · rfl
    · rfl
  · rw [h, h']
    exact if_neg hsign.symm
  · rw [h, h']

theorem closeCounts_local (modes : Modes) (least : Nat) (most : Option Nat)
    {Used : Nat × Option Nat → List Char → Prop} :
    IsLocal Used (closeCounts modes least most) := by
  intro cs
  cases cs with
  | nil => exact .none
  | cons c cs =>
    by_cases hbrace : c = '\x7d'
    · subst hbrace
      rw [List.cons_append, closeCounts, closeCounts, takeSign_append modes (by decide)]
      split
      · exact .done _ _
      · exact .none
    · have hfailed (rest : List Char) : closeCounts modes least most (c :: rest) = none := by
        rw [closeCounts.eq_def]
        split
        · next heq => exact absurd (List.cons.inj heq).1 hbrace
        · rfl
      rw [List.cons_append, hfailed, hfailed]
      exact .none

theorem closeCounts_skipCount (modes : Modes) (least : Nat) (most : Option Nat)
    {Used : Nat × Option Nat → List Char → Prop} :
    IsLocal Used fun cs ↦ closeCounts modes least most (skipCount modes cs) := by
  intro cs
  simp only [skipCount, dropBlanks_append]
  exact (closeCounts_local modes least most).skip rfl modes _

/-- A greatest count that is no brace is read as a count. -/
theorem readMost_cons {modes : Modes} {least : Nat} {cs rest : List Char} {c : Char}
    (hsign : modes.skip cs = c :: rest) (hbrace : c ≠ '\x7d') :
    readMost modes least cs =
      readCount modes (c :: rest) >>= fun p ↦
        closeCounts modes least (some p.1) (skipCount modes p.2) := by
  rw [readMost, hsign]
  split
  · next heq => exact absurd (List.cons.inj heq).1 hbrace
  · rfl

theorem readMost_local (modes : Modes) (least : Nat) : IsLocal IsSpent (readMost modes least) := by
  intro cs
  rcases modes.skip_cases cs with ⟨c, rest, h, h'⟩ | ⟨hnone, hclosing⟩
  · by_cases hbrace : c = '\x7d'
    · subst hbrace
      rw [readMost, readMost, h, h']
      exact closeCounts_local modes least Option.none ('\x7d' :: rest)
    · rw [readMost_cons h hbrace, readMost_cons h' hbrace]
      refine (readCount_local modes (c :: rest)).bindSpent
        (fun most after _ ↦ closeCounts_skipCount modes least (some most) after)
        fun most after x rest' hclose ↦ ?_
      exact (closeCounts_suffix hclose).trans (skipCount_suffix modes after)
  · rw [readMost, readMost, hnone]
    rcases hclosing with h' | h'
    · rw [h']
      change LocalAt IsSpent Option.none (readCount modes closing >>= _)
      rw [readCount_closing]
      exact .none
    · rw [h']
      exact .none

/-- A single count is followed by the closing brace. -/
theorem readCountsFrom_cons {modes : Modes} {least : Nat} {cs rest : List Char} {c : Char}
    (hsign : skipCount modes cs = c :: rest) (hcomma : c ≠ ',') :
    readCountsFrom modes least cs = closeCounts modes least (some least) (c :: rest) := by
  rw [readCountsFrom, hsign]
  split
  · next heq => exact absurd (List.cons.inj heq).1 hcomma
  · rfl

theorem readCountsFrom_local (modes : Modes) (least : Nat) :
    IsLocal IsSpent (readCountsFrom modes least) := by
  intro cs
  have happend : skipCount modes (cs ++ closing) =
      modes.skip (cs.dropWhile Text.isBlank ++ closing) := by
    rw [skipCount, dropBlanks_append]
  rcases modes.skip_cases (cs.dropWhile Text.isBlank) with ⟨c, rest, h, h'⟩ | ⟨hnone, hclosing⟩
  · rw [← happend] at h'
    by_cases hcomma : c = ','
    · subst hcomma
      rw [readCountsFrom, readCountsFrom, h', show skipCount modes cs = ',' :: rest from h]
      exact readMost_local modes least rest
    · rw [readCountsFrom_cons h hcomma, readCountsFrom_cons h' hcomma]
      exact closeCounts_local modes least (some least) (c :: rest)
  · rw [readCountsFrom, readCountsFrom, show skipCount modes cs = [] from hnone, happend]
    rcases hclosing with h' | h'
    · rw [h']
      exact .none
    · rw [h']
      exact .none

theorem readCounts_local (modes : Modes) : IsLocal IsSpent (readCounts modes) := fun cs ↦
  ((readCount_local modes).skip (readCount_nil modes) modes cs).bindSpent
    (fun least after _ ↦ readCountsFrom_local modes least after)
    fun _ _ _ _ ↦ readCountsFrom_suffix

/-- There are no counts where the pattern has ended. -/
theorem readCounts_atClosing {modes : Modes} {cs : List Char} (h : modes.skip cs = closing) :
    readCounts modes cs = none := by
  rw [readCounts, readCount_atClosing (.inl h)]
  rfl

/-! ## Openings of groups -/

/-- Modes that go on behind the pattern end with the group around it. -/
theorem readModes_closing {seen rest : List Char} {modes : Modes} {x : Opening}
    (h : readModes seen modes closing = some (x, rest)) : IsSpent x rest := by
  rw [closing, readModes, if_pos (.inr rfl)] at h
  split_ifs at h
  · next hcolon => exact absurd hcolon (by decide)
  · cases h
    exact List.suffix_rfl

theorem readModes_local (seen : List Char) (modes : Modes) :
    IsLocal IsSpent (readModes seen modes) := by
  intro cs
  induction cs generalizing seen modes with
  | nil => exact .failed fun _ _ ↦ readModes_closing
  | cons c cs ih =>
    rw [List.cons_append, readModes, readModes]
    split
    · split
      · exact .none
      · split
        · exact .done _ cs
        · split
          · exact .none
          · exact .done _ cs
    · split
      · exact .none
      · split
        · exact ih _ _
        · split
          · exact ih _ _
          · exact .none

/-- There is no name without the sign that ends it. -/
theorem readName_unended (modes : Modes) {cs : List Char} (h : cs.dropWhile (· ≠ '>') = []) :
    readName modes cs = none := by
  rw [readName, h]
  split
  · next heq => cases heq
  · rfl

/-- A name has to be ended by its own sign, which is none of the closing ones. -/
theorem readName_local (modes : Modes) : IsLocal IsSpent (readName modes) := by
  intro cs
  cases hdrop : cs.dropWhile (· ≠ '>') with
  | nil =>
    rw [readName_unended modes hdrop, readName_unended modes (dropWhile_append_closing hdrop)]
    exact .none
  | cons d rest =>
    have hspan := span_append hdrop closing
    rw [readName, readName, hdrop, hspan.1, hspan.2]
    cases cs.takeWhile (· ≠ '>') with
    | nil => exact .none
    | cons c name =>
      simp only
      split
      · exact .done _ rest
      · exact .none

theorem readHead_local (modes : Modes) : IsLocal IsSpent (readHead modes) := by
  intro cs
  rw [readHead.eq_def modes cs]
  split
  case h_1 | h_2 | h_3 | h_4 => exact .none
  case h_5 tail => exact readName_local modes tail
  case h_6 tail hequal hbang =>
    have hname : readHead modes ('<' :: tail ++ closing) = readName modes (tail ++ closing) := by
      rw [List.cons_append, readHead]
      · intro tail' heq
        obtain ⟨tail'', rfl⟩ := cons_of_append_closing (by decide) heq
        exact hequal tail'' rfl
      · intro tail' heq
        obtain ⟨tail'', rfl⟩ := cons_of_append_closing (by decide) heq
        exact hbang tail'' rfl
    rw [hname]
    exact readName_local modes tail
  case h_7 hequal hbang _ _ hletter hangle =>
    have hmodes : readHead modes (cs ++ closing) = readModes [] modes (cs ++ closing) := by
      rw [readHead]
      all_goals intro tail heq
      · obtain ⟨tail', rfl⟩ := cons_of_append_closing (by decide) heq
        exact hequal tail' rfl
      · obtain ⟨tail', rfl⟩ := cons_of_append_closing (by decide) heq
        exact hbang tail' rfl
      · obtain ⟨tail', rfl⟩ := cons_of_append_closing (by decide) heq
        exact hangle tail' rfl
      · obtain ⟨tail', rfl⟩ := cons_of_append_closing (by decide) heq
        exact hangle tail' rfl
      · obtain ⟨tail', rfl⟩ := cons_of_append_closing (by decide) heq
        obtain ⟨tail'', rfl⟩ := cons_of_append_closing (by decide) (List.cons.inj heq).2
        exact hletter tail'' rfl
      · obtain ⟨tail', rfl⟩ := cons_of_append_closing (by decide) heq
        exact hangle tail' rfl
    rw [hmodes]
    exact readModes_local [] modes cs

theorem readOpening_local (modes : Modes) : IsLocal IsSpent (readOpening modes) := by
  intro cs
  rcases modes.skip_cases cs with ⟨c, rest, h, h'⟩ | ⟨hnone, hclosing⟩
  · by_cases hmark : c = '?'
    · subst hmark
      rw [readOpening, readOpening, h, h']
      exact readHead_local modes rest
    · rw [readOpening, readOpening, h, h']
      split
      · next heq => exact absurd (List.cons.inj heq).1 hmark
      · split
        · next heq => exact absurd (List.cons.inj heq).1 hmark
        · exact .done _ cs
  · rw [readOpening, readOpening, hnone]
    rcases hclosing with hclosing | hclosing
    · rw [hclosing]
      exact .done _ cs
    · rw [hclosing]
      exact .done _ cs

end TenantView.Regex
