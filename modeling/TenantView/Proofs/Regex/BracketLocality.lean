import TenantView.Proofs.Regex.Locality

/-!
# Sets in front of closing signs

A set in brackets is the same in front of the closing signs.  One that is not closed in the pattern
can only be closed behind it when the closing signs have become items of the set.
-/

namespace TenantView.Regex

open Text (CharSet)

/-! ## What is taken without regard to blanks -/

theorem splitAsciiName_append (negated : Bool) (cs : List Char) :
    splitAsciiName negated (cs ++ closing) =
      (splitAsciiName negated cs).map fun p ↦ (p.1, p.2.1, p.2.2 ++ closing) := by
  have hunended {cs : List Char} (h : cs.dropWhile (· ≠ ':') = []) :
      splitAsciiName negated cs = none := by
    rw [splitAsciiName, h]
  cases hdrop : cs.dropWhile (· ≠ ':') with
  | nil =>
    rw [hunended hdrop, hunended (dropWhile_append_closing hdrop)]
    rfl
  | cons d rest =>
    have hspan := span_append hdrop closing
    rw [splitAsciiName, splitAsciiName, hdrop, hspan.1, hspan.2]
    split
    · next tail heq =>
      obtain ⟨rfl, htail⟩ := List.cons.inj heq
      obtain ⟨tail', rfl⟩ := cons_of_append_closing (by decide) htail
      cases htail
      cases asciiSet? (cs.takeWhile (· ≠ ':')) <;> rfl
    · next hbracket =>
      split
      · next tail heq =>
        cases heq
        exact absurd rfl (hbracket (tail ++ closing))
      · rfl

theorem splitAsciiSet_append (cs : List Char) :
    splitAsciiSet (cs ++ closing) =
      (splitAsciiSet cs).map fun p ↦ (p.1, p.2.1, p.2.2 ++ closing) := by
  rw [splitAsciiSet.eq_def cs]
  split
  · exact splitAsciiName_append true _
  · next tail hcaret => 
    rw [List.cons_append, splitAsciiSet]
    · exact splitAsciiName_append false tail
    · intro tail' heq
      obtain ⟨tail'', rfl⟩ := cons_of_append_closing (by decide) heq
      exact hcaret tail'' rfl
  · next hcaret hcolon =>
    rw [splitAsciiSet]
    · rfl
    all_goals
      intro tail heq
      obtain ⟨tail', rfl⟩ := cons_of_append_closing (by decide) heq
      exact hcolon tail' rfl

theorem takeOperation_append (cs : List Char) :
    takeOperation (cs ++ closing) =
      (takeOperation cs).map fun p ↦ (p.1, p.2 ++ closing) := by
  rw [takeOperation.eq_def cs]
  split
  case h_1 | h_2 | h_3 => rfl
  case h_4 hand hminus htilde =>
    rw [takeOperation]
    · rfl
    all_goals
      intro tail heq
      obtain ⟨tail', rfl⟩ := cons_of_append_closing (by decide) heq
      obtain ⟨tail'', rfl⟩ := cons_of_append_closing (by decide) (List.cons.inj heq).2
    · exact hand tail'' rfl
    · exact hminus tail'' rfl
    · exact htilde tail'' rfl

theorem lookThrough_append (cs : List Char) :
    lookThrough (cs ++ closing) = lookThrough cs ++ closing := by
  rw [lookThrough, lookThrough, dropBlanks_append]
  cases cs.dropWhile Text.isBlank with
  | nil => rfl
  | cons c rest =>
    by_cases hcomment : c = '#'
    · subst hcomment
      exact dropBlanks_append rest
    · split
      · next heq => exact absurd (List.cons.inj heq).1 hcomment
      · split
        · next heq => exact absurd (List.cons.inj heq).1 hcomment
        · rfl

/-- A sign that is neither blank nor begins a comment is not looked through. -/
theorem lookThrough_sign {c : Char} (hcomment : c ≠ '#') (hblank : Text.isBlank c = false)
    (cs : List Char) : lookThrough (c :: cs) = c :: cs := by
  rw [lookThrough, List.dropWhile_cons_of_neg (Bool.eq_false_iff.mp hblank)]
  split
  · next heq => exact absurd (List.cons.inj heq).1 hcomment
  · rfl

/-- A sign that is neither blank nor begins a comment is seen with and without the closing
signs. -/
theorem peek_append (modes : Modes) {c : Char} (hclosing : c ≠ ')') (hcomment : c ≠ '#')
    (hblank : Text.isBlank c = false) (cs : List Char) :
    peek modes (cs ++ closing) = some c ↔ peek modes cs = some c := by
  have hfirst : some ')' ≠ some c := fun h ↦ hclosing (Option.some.inj h).symm
  rw [peek, peek]
  split
  · rw [lookThrough_append]
    cases hseen : lookThrough cs with
    | cons d rest => rfl
    | nil =>
      refine iff_of_false hfirst fun h ↦ ?_
      obtain ⟨rest, rfl⟩ := List.head?_eq_some_iff.mp h
      rw [lookThrough_sign hcomment hblank] at hseen
      cases hseen
  · cases cs with
    | nil => exact iff_of_false hfirst nofun
    | cons d rest => rfl

/-! ## Items -/

theorem readBracketPrimitive_local (modes : Modes) :
    IsLocal (UsedByEscape modes) (readBracketPrimitive modes) := by
  intro cs
  cases cs with
  | nil =>
    refine .failed fun x rest h ↦ .inl ?_
    cases h
    exact List.suffix_rfl
  | cons c cs =>
    by_cases hbackslash : c = '\\'
    · subst hbackslash
      exact readEscape_local modes cs
    · have hplain (rest : List Char) :
          readBracketPrimitive modes (c :: rest) = some (.char c, rest) := by
        rw [readBracketPrimitive.eq_def]
        split
        · next heq => cases heq
        · next heq => exact absurd (List.cons.inj heq).1 hbackslash
        · next heq =>
          cases heq
          rfl
      rw [List.cons_append, hplain, hplain]
      exact .done _ cs

/-- A condition on the position is no end of a range. -/
theorem rangeItem_look (modes : Modes) (first : Primitive) (condition : Look) :
    rangeItem modes first (.look condition) = none := by
  rw [rangeItem]
  cases listed? modes first <;> rfl

theorem readRange_local (modes : Modes) (first : Primitive) :
    IsLocal IsSpent (readRange modes first) := by
  intro cs
  refine ((readBracketPrimitive_local modes).skip rfl modes cs).bind
    (fun last rest _ ↦ .checked (rangeItem modes first last) id rest)
    fun last rest y rest' hused h ↦ ?_
  simp only at h
  rcases hused with hspent | ⟨⟨condition, rfl⟩, -⟩
  · exact (checked_suffix h).trans hspent
  · rw [rangeItem_look] at h
    cases h

/-- A condition on the position begins no item. -/
theorem readItemFrom_look (modes : Modes) (condition : Look) (cs : List Char) :
    readItemFrom modes (.look condition) cs = none := by
  rw [readItemFrom]
  split
  · next rest _ =>
    split
    · rfl
    · rw [readRange]
      cases readBracketPrimitive modes (modes.skip rest) <;> rfl
  · rfl

theorem singleItem_localAt (modes : Modes) (primitive : Primitive) (cs : List Char) :
    LocalAt IsSpent (singleItem modes primitive cs)
      (singleItem modes primitive (cs ++ closing)) := by
  rw [singleItem, singleItem]
  cases primitive.set? modes with
  | none => exact .none
  | some chars => exact .done _ cs

/-- An item without a dash behind it is no range. -/
theorem readItemFrom_single {modes : Modes} {cs : List Char}
    (h : ∀ rest, modes.skip cs ≠ '-' :: rest) (first : Primitive) :
    readItemFrom modes first cs = singleItem modes first cs := by
  rw [readItemFrom]
  split
  · next rest heq => exact absurd heq (h rest)
  · rfl

theorem readItemFrom_local (modes : Modes) (first : Primitive) :
    IsLocal IsSpent (readItemFrom modes first) := by
  intro cs
  by_cases hdash : ∃ rest, modes.skip cs = '-' :: rest
  · obtain ⟨rest, h⟩ := hdash
    have h' : modes.skip (cs ++ closing) = '-' :: (rest ++ closing) := by
      rcases modes.skip_cases cs with ⟨c, tail, hsign, hsign'⟩ | ⟨hnone, -⟩
      · cases h.symm.trans hsign
        exact hsign'
      · cases h.symm.trans hnone
    rw [readItemFrom, readItemFrom, h, h']
    simp only [peek_append modes (c := ']') (by decide) (by decide) (by decide),
      peek_append modes (c := '-') (by decide) (by decide) (by decide)]
    split
    · exact singleItem_localAt modes first cs
    · exact readRange_local modes first rest
  · have h (rest : List Char) : modes.skip cs ≠ '-' :: rest := fun heq ↦ hdash ⟨rest, heq⟩
    have h' (rest : List Char) : modes.skip (cs ++ closing) ≠ '-' :: rest := by
      intro heq
      rcases modes.skip_cases cs with ⟨c, tail, hsign, hsign'⟩ | ⟨-, hclosing | hclosing⟩
      · obtain ⟨rfl, -⟩ := List.cons.inj (hsign'.symm.trans heq)
        exact h tail hsign
      · cases hclosing.symm.trans heq
      · cases hclosing.symm.trans heq
    rw [readItemFrom_single h, readItemFrom_single h']
    exact singleItem_localAt modes first cs

theorem readBracketItem_local (modes : Modes) :
    IsLocal IsSpent (readBracketItem modes) := by
  intro cs
  refine (readBracketPrimitive_local modes cs).bind
    (fun first rest _ ↦ readItemFrom_local modes first rest) fun first rest y rest' hused h ↦ ?_
  rcases hused with hspent | ⟨⟨condition, rfl⟩, -⟩
  · exact (readItemFrom_suffix h).trans hspent
  · cases (readItemFrom_look modes condition rest).symm.trans h

/-! ## Brackets -/

theorem readDashes_atClosing {modes : Modes} {cs : List Char} (h : modes.IsAtClosing cs)
    (rounds : List Char) (bracket : Bracket) :
    readDashes modes rounds bracket cs = (bracket, cs) := by
  cases rounds with
  | nil => rfl
  | cons b rounds =>
    rw [readDashes]
    rcases h with h | h
    · rw [h]
      rfl
    · rw [h]

theorem readDashes_append (modes : Modes) {rounds rounds' cs : List Char}
    (h : Enough rounds rounds' cs)
    (bracket : Bracket) :
    readDashes modes rounds' bracket (cs ++ closing) =
      ((readDashes modes rounds bracket cs).1,
        (readDashes modes rounds bracket cs).2 ++ closing) := by
  induction rounds generalizing rounds' cs bracket with
  | nil =>
    obtain rfl := h.eq_nil
    exact readDashes_atClosing (.inl modes.skip_closing) rounds' bracket
  | cons b rounds ih =>
    obtain ⟨b', rounds', rfl⟩ := h.exists_cons
    rcases modes.skip_cases cs with ⟨c, rest, hsign, hsign'⟩ | ⟨hnone, hclosing⟩
    · have hlength := Modes.rest_length_lt hsign
      rw [readDashes, readDashes, hsign, hsign']
      by_cases hdash : c = '-'
      · subst hdash
        exact ih (h.after hlength) _
      · split
        · next heq => exact absurd (List.cons.inj heq).1 hdash
        · split
          · next heq => exact absurd (List.cons.inj heq).1 hdash
          · rfl
    · rw [readDashes_atClosing hclosing, readDashes, hnone]

theorem openBracket_append (modes : Modes) (cs : List Char) :
    openBracket modes (cs ++ closing) =
      ((openBracket modes cs).1, (openBracket modes cs).2 ++ closing) := by
  rw [openBracket, openBracket, takeSign_append modes (by decide)]
  simp only [readDashes_append modes (.all _)]
  split
  · rw [takeSign_append modes (by decide)]
  · rfl

/-- A set that is closed behind the pattern has taken the closing sign as an item. -/
theorem readBrackets_used {modes : Modes} {rounds cs rest : List Char} {outer : List Bracket}
    {bracket : Bracket} {x : Deep CharSet} (h : modes.IsAtClosing cs)
    (hread : readBrackets modes rounds outer bracket cs = some (x, rest)) : IsSpent x rest := by
  obtain ⟨hsuffix, hlength⟩ := readBrackets_suffix hread
  rcases h with h | h
  · rw [h] at hsuffix hlength
    rcases List.suffix_cons_iff.mp hsuffix with rfl | hspent
    · simp [closing] at hlength
    · exact hspent
  · rw [h] at hlength
    cases hlength

/-- What is neither an opening nor a closing bracket is an operation or an item. -/
theorem readBrackets_item {modes : Modes} {cs rest : List Char} {c : Char}
    (hsign : modes.skip cs = c :: rest) (hopen : c ≠ '[') (hclose : c ≠ ']') (b : Char)
    (rounds : List Char) (outer : List Bracket) (bracket : Bracket) :
    readBrackets modes (b :: rounds) outer bracket cs =
      match takeOperation (c :: rest) with
      | some (operation, after) =>
        readBrackets modes rounds outer (bracket.operate modes operation) after
      | none =>
        readBracketItem modes (c :: rest) >>= fun p ↦
          readBrackets modes rounds outer (bracket.push p.1) p.2 := by
  rw [readBrackets, hsign]
  split
  · next heq => cases heq
  · next heq => exact absurd (List.cons.inj heq).1 hopen
  · next heq => exact absurd (List.cons.inj heq).1 hclose
  · rfl

theorem readBrackets_localAt (modes : Modes) {rounds rounds' cs : List Char}
    (h : Enough rounds rounds' cs)
    (outer : List Bracket) (bracket : Bracket) :
    LocalAt IsSpent (readBrackets modes rounds outer bracket cs)
      (readBrackets modes rounds' outer bracket (cs ++ closing)) := by
  induction rounds generalizing rounds' cs outer bracket with
  | nil =>
    refine .failed fun x rest hread ↦ readBrackets_used ?_ hread
    obtain rfl := h.eq_nil
    exact .inl modes.skip_closing
  | cons b rounds ih =>
    obtain ⟨b', rounds', rfl⟩ := h.exists_cons
    rcases modes.skip_cases cs with ⟨c, rest, hsign, hsign'⟩ | ⟨hnone, hclosing⟩
    · have hrest := Modes.rest_length_lt hsign
      -- whatever is left behind something is read the same by what is left of the rounds
      have hleft {after : List Char} (hafter : after.length ≤ rest.length)
          (outer : List Bracket) (bracket : Bracket) :
          LocalAt IsSpent (readBrackets modes rounds outer bracket after)
            (readBrackets modes rounds' outer bracket (after ++ closing)) :=
        ih (h.after (Nat.lt_of_le_of_lt hafter hrest)) outer bracket
      by_cases hopen : c = '['
      · subst hopen
        rw [readBrackets, readBrackets, hsign, hsign']
        simp only [splitAsciiSet_append, openBracket_append]
        cases hset : splitAsciiSet rest with
        | none => exact hleft (openBracket_suffix modes rest).length_le _ _
        | some found =>
          obtain ⟨negated, chars, after⟩ := found
          simp only [Option.map_some]
          cases modes.negate negated (modes.fold chars) with
          | none => exact .none
          | some set => exact hleft (splitAsciiSet_suffix hset).length_le _ _
      · by_cases hclose : c = ']'
        · subst hclose
          rw [readBrackets, readBrackets, hsign, hsign']
          simp only
          cases bracket.close modes with
          | none => exact .none
          | some set =>
            cases outer with
            | nil => exact .done set rest
            | cons enclosing outer => exact hleft (Nat.le_refl _) _ _
        · rw [readBrackets_item hsign hopen hclose, readBrackets_item hsign' hopen hclose,
            ← List.cons_append, takeOperation_append]
          cases hoperation : takeOperation (c :: rest) with
          | some taken =>
            obtain ⟨operation, after⟩ := taken
            exact hleft (Nat.le_of_lt_succ (takeOperation_suffix hoperation).2) _ _
          | none =>
            refine (readBracketItem_local modes (c :: rest)).bindSpent (fun item after hitem ↦ ?_)
              fun item after x rest' hread ↦ ?_
            · exact hleft (Nat.le_of_lt_succ (readBracketItem_suffix hitem).2) _ _
            · exact (readBrackets_suffix hread).1.trans (modes.skip_suffix after)
    · have hfailed : readBrackets modes (b :: rounds) outer bracket cs = none := by
        rw [readBrackets, hnone]
      rw [hfailed]
      exact .failed fun x rest hread ↦ readBrackets_used hclosing hread

theorem readSet_local (modes : Modes) : IsLocal IsSpent (readSet modes) := by
  intro cs
  rw [readSet, readSet, openBracket_append]
  exact readBrackets_localAt modes (.ofSuffix (openBracket_suffix modes cs)) [] _

end TenantView.Regex
