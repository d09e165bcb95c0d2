import Mathlib.Tactic.SplitIfs
import TenantView.Regex.Parser

/-!
# Readers take from the front

Whatever a reader of patterns leaves is a suffix of what it was given: blanks and comments are
dropped in front, and every other reader is made of readers that take the next sign.  The rounds
that bound a reader play no part in this.
-/

namespace TenantView.Regex

namespace Modes

theorem dropComments_suffix (inComment : Bool) (cs : List Char) :
    dropComments inComment cs <:+ cs := by
  induction cs generalizing inComment with
  | nil => cases inComment <;> exact List.suffix_rfl
  | cons c cs ih =>
    have hih (b : Bool) : dropComments b cs <:+ c :: cs := (ih b).trans (List.suffix_cons c cs)
    cases inComment with
    | true => exact hih _
    | false =>
      rw [dropComments]
      split
      · exact hih true
      · split
        · exact hih false
        · exact List.suffix_rfl

theorem skip_suffix (modes : Modes) (cs : List Char) : modes.skip cs <:+ cs := by
  rw [skip]
  split
  · exact dropComments_suffix false cs
  · exact List.suffix_rfl

theorem skip_nil (modes : Modes) : modes.skip [] = [] :=
  List.suffix_nil.mp (modes.skip_suffix [])

/-- What follows the next sign is left of what was there. -/
theorem rest_suffix {modes : Modes} {cs rest : List Char} {c : Char}
    (h : modes.skip cs = c :: rest) : rest <:+ cs :=
  (List.suffix_cons c rest).trans (h ▸ modes.skip_suffix cs)

/-- The next sign is taken from what was there. -/
theorem rest_length_lt {modes : Modes} {cs rest : List Char} {c : Char}
    (h : modes.skip cs = c :: rest) : rest.length < cs.length := by
  have hlength := (h ▸ modes.skip_suffix cs : c :: rest <:+ cs).length_le
  rwa [List.length_cons] at hlength

end Modes

theorem bind_eq_some {α β : Type} {a : Option α} {f : α → Option β} {y : β}
    (h : a >>= f = some y) : ∃ x, a = some x ∧ f x = some y :=
  Option.bind_eq_some_iff.mp h

theorem map_eq_some {α β : Type} {a : Option α} {f : α → β} {y : β} (h : a.map f = some y) :
    ∃ x, a = some x ∧ f x = y :=
  Option.map_eq_some_iff.mp h

/-! ## Escapes -/

theorem readHexDigits_suffix {modes : Modes} {count value code : Nat} {cs rest : List Char}
    (h : readHexDigits modes count value cs = some (code, rest)) : rest <:+ cs := by
  induction count generalizing value cs with
  | zero =>
    cases h
    exact List.suffix_rfl
  | succ count ih =>
    rw [readHexDigits] at h
    split at h
    · cases h
    · next c tail hsign =>
      obtain ⟨digit, -, h⟩ := bind_eq_some h
      exact (ih h).trans (Modes.rest_suffix hsign)

theorem splitBraces_suffix {modes : Modes} {rounds cs inside rest : List Char}
    (h : splitBraces modes rounds cs = some (inside, rest)) : rest <:+ cs := by
  induction rounds generalizing cs inside with
  | nil => cases h
  | cons b rounds ih =>
    rw [splitBraces] at h
    split at h
    · cases h
    · next tail hsign =>
      cases h
      exact Modes.rest_suffix hsign
    · next c tail hsign =>
      obtain ⟨⟨before, after⟩, hsplit, heq⟩ := map_eq_some h
      cases heq
      exact (ih hsplit).trans (Modes.rest_suffix hsign)

theorem readCode_suffix {modes : Modes} {count : Nat} {cs rest : List Char} {x : Nat × Bool}
    (h : readCode modes count cs = some (x, rest)) : rest <:+ cs := by
  rw [readCode] at h
  split at h
  · next tail hsign =>
    obtain ⟨⟨inside, after⟩, hsplit, h⟩ := bind_eq_some h
    obtain ⟨value, -, h⟩ := bind_eq_some h
    cases h
    exact (splitBraces_suffix hsplit).trans (Modes.rest_suffix hsign)
  · obtain ⟨⟨value, after⟩, hdigits, h⟩ := bind_eq_some h
    cases h
    exact readHexDigits_suffix hdigits

theorem readCodeChar_suffix {modes : Modes} {count : Nat} {cs rest : List Char} {x : Primitive}
    (h : readCodeChar modes count cs = some (x, rest)) : rest <:+ cs := by
  obtain ⟨⟨y, after⟩, hcode, h⟩ := bind_eq_some h
  obtain ⟨c, -, h⟩ := bind_eq_some h
  cases h
  exact readCode_suffix hcode

theorem readPropertyName_suffix {modes : Modes} {cs name rest : List Char}
    (h : readPropertyName modes cs = some (name, rest)) : rest <:+ cs := by
  rw [readPropertyName] at h
  split at h
  · cases h
  · cases h
  · next tail hsign => exact (splitBraces_suffix h).trans (Modes.rest_suffix hsign)
  · next c tail hsign =>
    cases h
    exact Modes.rest_suffix hsign

theorem readProperty_suffix {modes : Modes} {negated : Bool} {cs rest : List Char} {x : Primitive}
    (h : readProperty modes negated cs = some (x, rest)) : rest <:+ cs := by
  obtain ⟨⟨name, after⟩, hname, h⟩ := bind_eq_some h
  obtain ⟨chars, -, h⟩ := bind_eq_some h
  cases h
  exact readPropertyName_suffix hname

theorem readEdgeName_suffix {modes : Modes} {rounds cs name rest : List Char}
    (h : readEdgeName modes rounds cs = some (name, rest)) : rest <:+ cs := by
  induction rounds generalizing cs name with
  | nil => cases h
  | cons b rounds ih =>
    rw [readEdgeName] at h
    split at h
    · next tail hsign =>
      cases h
      exact Modes.rest_suffix hsign
    · next c tail hsign =>
      split at h
      · obtain ⟨⟨before, after⟩, hname, heq⟩ := map_eq_some h
        cases heq
        exact (ih hname).trans (Modes.rest_suffix hsign)
      · cases h
    · cases h

theorem readEdge_suffix {modes : Modes} {cs rest : List Char} {x : WordEdge}
    (h : readEdge modes cs = some (x, rest)) : rest <:+ cs := by
  rw [readEdge.eq_def] at h
  split at h
  · next tail =>
    split at h
    · cases h
    · split at h
      · obtain ⟨⟨name, after⟩, hname, h⟩ := bind_eq_some h
        obtain ⟨edge, -, h⟩ := bind_eq_some h
        cases h
        exact (readEdgeName_suffix hname).trans (List.suffix_cons _ tail)
      · cases h
        exact List.suffix_rfl
  · cases h
    exact List.suffix_rfl

theorem escapedSet_eq_some {modes : Modes} {negated : Bool} {chars : Text.CharSet}
    {cs rest : List Char} {x : Primitive} (h : escapedSet modes negated chars cs = some (x, rest)) :
    rest = cs := by
  obtain ⟨set, -, heq⟩ := map_eq_some h
  cases heq
  rfl

theorem readEscape_suffix {modes : Modes} {cs rest : List Char} {x : Primitive}
    (h : readEscape modes cs = some (x, rest)) : rest <:+ cs := by
  cases cs with
  | nil => cases h
  | cons c cs =>
    refine List.IsSuffix.trans ?_ (List.suffix_cons c cs)
    rw [readEscape.eq_def] at h
    simp only at h
    split at h
    case h_1 | h_2 | h_3 => exact readCodeChar_suffix h
    case h_4 | h_5 => exact readProperty_suffix h
    case h_6 | h_7 | h_8 | h_9 | h_10 | h_11 => exact escapedSet_eq_some h ▸ List.suffix_rfl
    case h_20 =>
      obtain ⟨⟨kind, after⟩, hedge, heq⟩ := map_eq_some h
      cases heq
      exact readEdge_suffix hedge
    case h_24 =>
      split at h
      · cases h
        exact List.suffix_rfl
      · cases h
    all_goals
      cases h
      exact List.suffix_rfl

/-! ## Counts -/

theorem readDigits_suffix (modes : Modes) (rounds digits cs : List Char) :
    (readDigits modes rounds digits cs).2 <:+ cs := by
  induction rounds generalizing digits cs with
  | nil => exact List.suffix_rfl
  | cons b rounds ih =>
    rw [readDigits]
    split
    · next c tail hsign =>
      split
      · exact (ih (c :: digits) tail).trans (Modes.rest_suffix hsign)
      · exact List.suffix_rfl
    · exact List.suffix_rfl

theorem readCount_suffix {modes : Modes} {cs rest : List Char} {n : Nat}
    (h : readCount modes cs = some (n, rest)) : rest <:+ cs := by
  obtain ⟨count, -, h⟩ := bind_eq_some h
  cases h
  exact (readDigits_suffix modes _ _ _).trans (List.dropWhile_suffix _)

theorem skipCount_suffix (modes : Modes) (cs : List Char) : skipCount modes cs <:+ cs :=
  (modes.skip_suffix _).trans (List.dropWhile_suffix _)

theorem takeSign_suffix (modes : Modes) (sign : Char) (cs : List Char) :
    (takeSign modes sign cs).2 <:+ cs := by
  rw [takeSign]
  split
  · next c tail hsign =>
    split
    · exact Modes.rest_suffix hsign
    · exact List.suffix_rfl
  · exact List.suffix_rfl

theorem closeCounts_suffix {modes : Modes} {least : Nat} {most : Option Nat}
    {cs rest : List Char} {x : Nat × Option Nat}
    (h : closeCounts modes least most cs = some (x, rest)) : rest <:+ cs := by
  rw [closeCounts.eq_def] at h
  split at h
  · next tail =>
    split at h
    · cases h
      exact (takeSign_suffix modes '?' tail).trans (List.suffix_cons _ tail)
    · cases h
  · cases h

theorem readMost_suffix {modes : Modes} {least : Nat} {cs rest : List Char} {x : Nat × Option Nat}
    (h : readMost modes least cs = some (x, rest)) : rest <:+ cs := by
  rw [readMost] at h
  have hskip := modes.skip_suffix cs
  split at h
  · next tail hbrace => exact (closeCounts_suffix h).trans (hbrace ▸ hskip)
  · obtain ⟨⟨most, after⟩, hmost, h⟩ := bind_eq_some h
    exact (closeCounts_suffix h).trans
      ((skipCount_suffix modes after).trans ((readCount_suffix hmost).trans hskip))

theorem readCountsFrom_suffix {modes : Modes} {least : Nat} {cs rest : List Char}
    {x : Nat × Option Nat} (h : readCountsFrom modes least cs = some (x, rest)) : rest <:+ cs := by
  rw [readCountsFrom] at h
  have hskip := skipCount_suffix modes cs
  split at h
  · next tail hcomma =>
    rw [hcomma] at hskip
    exact (readMost_suffix h).trans ((List.suffix_cons _ tail).trans hskip)
  · exact (closeCounts_suffix h).trans hskip

theorem readCounts_suffix {modes : Modes} {cs rest : List Char} {x : Nat × Option Nat}
    (h : readCounts modes cs = some (x, rest)) : rest <:+ cs := by
  obtain ⟨⟨least, after⟩, hleast, h⟩ := bind_eq_some h
  exact (readCountsFrom_suffix h).trans ((readCount_suffix hleast).trans (modes.skip_suffix cs))

/-! ## Openings of groups -/

theorem readModes_suffix {seen cs rest : List Char} {modes : Modes} {x : Opening}
    (h : readModes seen modes cs = some (x, rest)) : rest <:+ cs := by
  induction cs generalizing seen modes with
  | nil => cases h
  | cons c cs ih =>
    refine List.IsSuffix.trans ?_ (List.suffix_cons c cs)
    rw [readModes] at h
    split_ifs at h
    · cases h
      exact List.suffix_rfl
    · cases h
      exact List.suffix_rfl
    · exact ih h
    · split at h
      · exact ih h
      · cases h

theorem readName_suffix {modes : Modes} {cs rest : List Char} {x : Opening}
    (h : readName modes cs = some (x, rest)) : rest <:+ cs := by
  rw [readName] at h
  split at h
  · next c name d tail _ hdrop =>
    split at h
    · cases h
      have hsuffix := List.dropWhile_suffix (l := cs) (· ≠ '>')
      rw [hdrop] at hsuffix
      exact (List.suffix_cons d rest).trans hsuffix
    · cases h
  · cases h

theorem readHead_suffix {modes : Modes} {cs rest : List Char} {x : Opening}
    (h : readHead modes cs = some (x, rest)) : rest <:+ cs := by
  rw [readHead.eq_def] at h
  split at h
  case h_1 | h_2 | h_3 | h_4 => cases h
  case h_5 => exact (readName_suffix h).trans ⟨['P', '<'], rfl⟩
  case h_6 => exact (readName_suffix h).trans ⟨['<'], rfl⟩
  case h_7 => exact readModes_suffix h

theorem readOpening_suffix {modes : Modes} {cs rest : List Char} {x : Opening}
    (h : readOpening modes cs = some (x, rest)) : rest <:+ cs := by
  rw [readOpening] at h
  split at h
  · next tail hsign => exact (readHead_suffix h).trans (Modes.rest_suffix hsign)
  · cases h
    exact List.suffix_rfl

/-! ## Brackets -/

theorem splitAsciiName_suffix {sign negated : Bool} {cs rest : List Char} {chars : Text.CharSet}
    (h : splitAsciiName sign cs = some (negated, chars, rest)) : rest <:+ cs := by
  rw [splitAsciiName] at h
  split at h
  · next tail hdrop =>
    obtain ⟨set, -, heq⟩ := map_eq_some h
    cases heq
    have hsuffix := List.dropWhile_suffix (l := cs) (· ≠ ':')
    rw [hdrop] at hsuffix
    exact List.IsSuffix.trans ⟨[':', ']'], rfl⟩ hsuffix
  · cases h

theorem splitAsciiSet_suffix {cs rest : List Char} {negated : Bool} {chars : Text.CharSet}
    (h : splitAsciiSet cs = some (negated, chars, rest)) : rest <:+ cs := by
  rw [splitAsciiSet.eq_def] at h
  split at h
  · exact (splitAsciiName_suffix h).trans ⟨[':', '^'], rfl⟩
  · exact (splitAsciiName_suffix h).trans ⟨[':'], rfl⟩
  · cases h

theorem readBracketPrimitive_suffix {modes : Modes} {cs rest : List Char} {x : Primitive}
    (h : readBracketPrimitive modes cs = some (x, rest)) : rest <:+ cs := by
  rw [readBracketPrimitive.eq_def] at h
  split at h
  · cases h
  · exact (readEscape_suffix h).trans (List.suffix_cons _ _)
  · cases h
    exact List.suffix_cons _ _

/-- A character that is read in a bracket is taken from what was there. -/
theorem readBracketPrimitive_length_lt {modes : Modes} {cs rest : List Char} {x : Primitive}
    (h : readBracketPrimitive modes cs = some (x, rest)) : rest.length < cs.length := by
  rw [readBracketPrimitive.eq_def] at h
  split at h
  · cases h
  · exact Nat.lt_succ_of_le (readEscape_suffix h).length_le
  · cases h
    exact Nat.lt_succ_self _

theorem readRange_suffix {modes : Modes} {first : Primitive} {cs rest : List Char}
    {x : Deep Text.CharSet} (h : readRange modes first cs = some (x, rest)) : rest <:+ cs := by
  obtain ⟨⟨last, after⟩, hlast, h⟩ := bind_eq_some h
  obtain ⟨item, -, h⟩ := bind_eq_some h
  cases h
  exact (readBracketPrimitive_suffix hlast).trans (modes.skip_suffix cs)

theorem singleItem_eq_some {modes : Modes} {primitive : Primitive} {cs rest : List Char}
    {x : Deep Text.CharSet} (h : singleItem modes primitive cs = some (x, rest)) : rest = cs := by
  obtain ⟨set, -, heq⟩ := map_eq_some h
  cases heq
  rfl

theorem readItemFrom_suffix {modes : Modes} {first : Primitive} {cs rest : List Char}
    {x : Deep Text.CharSet} (h : readItemFrom modes first cs = some (x, rest)) : rest <:+ cs := by
  rw [readItemFrom] at h
  split at h
  · next tail hdash =>
    split at h
    · exact singleItem_eq_some h ▸ List.suffix_rfl
    · exact (readRange_suffix h).trans (Modes.rest_suffix hdash)
  · exact singleItem_eq_some h ▸ List.suffix_rfl

theorem readBracketItem_suffix {modes : Modes} {cs rest : List Char} {x : Deep Text.CharSet}
    (h : readBracketItem modes cs = some (x, rest)) :
    rest <:+ cs ∧ rest.length < cs.length := by
  obtain ⟨⟨first, after⟩, hfirst, h⟩ := bind_eq_some h
  have hrest := readItemFrom_suffix h
  exact ⟨hrest.trans (readBracketPrimitive_suffix hfirst),
    Nat.lt_of_le_of_lt hrest.length_le (readBracketPrimitive_length_lt hfirst)⟩

theorem readDashes_suffix (modes : Modes) (rounds : List Char) (bracket : Bracket)
    (cs : List Char) : (readDashes modes rounds bracket cs).2 <:+ cs := by
  induction rounds generalizing bracket cs with
  | nil => exact List.suffix_rfl
  | cons b rounds ih =>
    rw [readDashes]
    split
    · next tail hsign => exact (ih _ tail).trans (Modes.rest_suffix hsign)
    · exact List.suffix_rfl

theorem openBracket_suffix (modes : Modes) (cs : List Char) : (openBracket modes cs).2 <:+ cs := by
  have hsign := takeSign_suffix modes '^' cs
  have hdashes := (readDashes_suffix modes (takeSign modes '^' cs).2
    { negated := (takeSign modes '^' cs).1, left := none, items := [] }
    (takeSign modes '^' cs).2).trans hsign
  rw [openBracket]
  simp only
  split
  · exact (takeSign_suffix modes ']' _).trans hdashes
  · exact hdashes

theorem takeOperation_suffix {cs rest : List Char} {operation : SetOperation}
    (h : takeOperation cs = some (operation, rest)) : rest <:+ cs ∧ rest.length < cs.length := by
  rw [takeOperation.eq_def] at h
  split at h
  case h_4 => cases h
  all_goals
    cases h
    exact ⟨⟨[_, _], rfl⟩, Nat.lt_succ_of_lt (Nat.lt_succ_self _)⟩

/-- A set in brackets is taken from the signs that count. -/
theorem readBrackets_suffix {modes : Modes} {rounds cs rest : List Char} {outer : List Bracket}
    {bracket : Bracket} {x : Deep Text.CharSet}
    (h : readBrackets modes rounds outer bracket cs = some (x, rest)) :
    rest <:+ modes.skip cs ∧ rest.length < (modes.skip cs).length := by
  induction rounds generalizing outer bracket cs with
  | nil => cases h
  | cons b rounds ih =>
    -- what is read after something has been taken is taken from less
    have hrest {outer : List Bracket} {bracket : Bracket} {after : List Char}
        (h : readBrackets modes rounds outer bracket after = some (x, rest))
        (hafter : after <:+ modes.skip cs ∧ after.length < (modes.skip cs).length) :
        rest <:+ modes.skip cs ∧ rest.length < (modes.skip cs).length :=
      have hsuffix := (ih h).1.trans (modes.skip_suffix after)
      ⟨hsuffix.trans hafter.1, Nat.lt_of_le_of_lt hsuffix.length_le hafter.2⟩
    rw [readBrackets.eq_def] at h
    simp only at h
    split at h
    · cases h
    · next tail hsign =>
      have htail {after : List Char} (hafter : after <:+ tail) :
          after <:+ modes.skip cs ∧ after.length < (modes.skip cs).length := by
        rw [hsign]
        exact ⟨hafter.trans (List.suffix_cons _ tail), Nat.lt_succ_of_le hafter.length_le⟩
      split at h
      · next hset =>
        obtain ⟨set, -, h⟩ := bind_eq_some h
        exact hrest h (htail (splitAsciiSet_suffix hset))
      · exact hrest h (htail (openBracket_suffix modes tail))
    · next tail hsign =>
      have htail : tail <:+ modes.skip cs ∧ tail.length < (modes.skip cs).length := by
        rw [hsign]
        exact ⟨List.suffix_cons _ tail, Nat.lt_succ_self _⟩
      obtain ⟨set, -, h⟩ := bind_eq_some h
      split at h
      · cases h
        exact htail
      · exact hrest h htail
    · split at h
      · next hoperation => exact hrest h (takeOperation_suffix hoperation)
      · obtain ⟨⟨item, after⟩, hitem, h⟩ := bind_eq_some h
        exact hrest h (readBracketItem_suffix hitem)

theorem readSet_suffix {modes : Modes} {cs rest : List Char} {x : Deep Text.CharSet}
    (h : readSet modes cs = some (x, rest)) : rest <:+ cs :=
  (readBrackets_suffix h).1.trans ((modes.skip_suffix _).trans (openBracket_suffix modes cs))

/-! ## Signs of a pattern -/

theorem dropLazy_suffix (cs : List Char) : dropLazy cs <:+ cs := by
  rw [dropLazy.eq_def]
  split
  · exact List.suffix_cons _ _
  · exact List.suffix_rfl

/-- A step takes its sign and what belongs to it. -/
theorem step_suffix {state next : State} {c : Char} {cs rest : List Char}
    (h : step state c cs = some (next, rest)) : rest <:+ cs := by
  rw [step.eq_def] at h
  split at h
  case h_1 =>
    obtain ⟨⟨opening, after⟩, hopening, h⟩ := bind_eq_some h
    obtain ⟨opened, -, h⟩ := bind_eq_some h
    cases h
    exact readOpening_suffix hopening
  case h_4 =>
    obtain ⟨⟨chars, after⟩, hset, h⟩ := bind_eq_some h
    cases h
    exact readSet_suffix hset
  case h_5 | h_6 | h_7 =>
    obtain ⟨repeated, -, h⟩ := bind_eq_some h
    cases h
    exact dropLazy_suffix cs
  case h_8 =>
    obtain ⟨⟨⟨least, most⟩, after⟩, hcounts, h⟩ := bind_eq_some h
    obtain ⟨repeated, -, h⟩ := bind_eq_some h
    cases h
    exact readCounts_suffix hcounts
  case h_9 =>
    obtain ⟨⟨primitive, after⟩, hescape, h⟩ := bind_eq_some h
    cases h
    exact readEscape_suffix hescape
  case h_2 | h_10 =>
    obtain ⟨closed, -, h⟩ := bind_eq_some h
    cases h
    exact List.suffix_rfl
  all_goals
    cases h
    exact List.suffix_rfl

end TenantView.Regex
