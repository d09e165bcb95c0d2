import TenantView.Proofs.Regex.Language
import TenantView.Proofs.Template.Scan
import TenantView.Regex.Parser

/-!
# Placeholders as a regular expression

The placeholders of a template can be described by a regular expression (`matches_iff`), whose two
groups are the name and the default (`captures_text_iff`), and a template is filled in by replacing
every stretch that repeated searching for it finds.  Where a stretch begins, it can end at one
position only, so that it makes no difference which alternative a search prefers.  Hence the
placeholders that a scan takes are exactly those that are found (`Scans.searches`), and
`substitute_eq_scan` says what filling in does.
-/

namespace TenantView

/-! ## Repeated searching -/

/-- What repeated searching finds from a position on: the first stretch that the expression
describes, and then what is found from its end on. -/
inductive Regex.Searches (text : Array Char) (r : Regex) : Nat → List (Nat × Nat) → Prop
  | done {start : Nat} (h : ∀ i j, start ≤ i → ¬ Matches text r i j) : Searches text r start []
  | found {start i j : Nat} {stretches : List (Nat × Nat)} (hstart : start ≤ i)
    (hmatch : Matches text r i j) (hfirst : ∀ k l, start ≤ k → k < i → ¬ Matches text r k l)
    (hrest : Searches text r j stretches) : Searches text r start ((i, j) :: stretches)

namespace Regex.Searches

variable {text : Array Char} {r : Regex} {start : Nat} {stretches others : List (Nat × Nat)}

/-- A position where no stretch begins is passed. -/
theorem of_succ (h : ∀ j, ¬ Matches text r start j)
    (hsearch : Searches text r (start + 1) stretches) : Searches text r start stretches := by
  cases hsearch with
  | done hnone =>
    refine .done fun i j hi hmatch ↦ ?_
    rcases Nat.eq_or_lt_of_le hi with rfl | hlt
    · exact h j hmatch
    · exact hnone i j hlt hmatch
  | found hstart hmatch hfirst hrest =>
    refine .found (Nat.le_of_succ_le hstart) hmatch (fun k l hk hlt hother ↦ ?_) hrest
    rcases Nat.eq_or_lt_of_le hk with rfl | hpast
    · exact h l hother
    · exact hfirst k l hpast hlt hother

/-- If a stretch is determined by its beginning, so is what is found. -/
theorem unique (hends : ∀ {i j k}, Matches text r i j → Matches text r i k → j = k)
    (h : Searches text r start stretches) (h' : Searches text r start others) :
    stretches = others := by
  induction h generalizing others with
  | done hnone =>
    cases h' with
    | done => rfl
    | found hstart hmatch => exact absurd hmatch (hnone _ _ hstart)
  | @found start i j stretches hstart hmatch hfirst _ ih =>
    cases h' with
    | done hnone => exact absurd hmatch (hnone _ _ hstart)
    | @found _ k l _ hstart' hmatch' hfirst' hrest' =>
      obtain rfl : i = k := by
        rcases Nat.lt_trichotomy i k with hlt | heq | hlt
        · exact absurd hmatch (hfirst' i j hstart hlt)
        · exact heq
        · exact absurd hmatch' (hfirst k l hstart' hlt)
      obtain rfl := hends hmatch hmatch'
      rw [ih hrest']

end Regex.Searches

namespace Template

open Regex (Matches Searches Spans)

/-! ## The expression of a placeholder -/

/-- The regular expression of a placeholder. -/
def placeholderPattern : String :=
  "\\$\\\x7b([A-Za-z_][A-Za-z0-9_]*)(?::-([^\x7d]*))?\\\x7d"

/-- The first group of it, a name. -/
def namePattern : String :=
  "[A-Za-z_][A-Za-z0-9_]*"

/-- The second group of it, a default. -/
def defaultPattern : String :=
  "[^\x7d]*"

theorem placeholderPattern_eq_groups :
    placeholderPattern =
      "\\$\\\x7b(" ++ namePattern ++ ")(?::-(" ++ defaultPattern ++ "))?\\\x7d" := by
  decide +kernel

section Expression

open Text (CharSet)

/-- The characters in front of a name. -/
def startChars : CharSet :=
  .empty ∪ .range 'A' 'Z' ∪ .range 'a' 'z' ∪ .singleton '_'

/-- The other characters of a name. -/
def restChars : CharSet :=
  .empty ∪ .range 'A' 'Z' ∪ .range 'a' 'z' ∪ .range '0' '9' ∪ .singleton '_'

/-- The expression of what is in front of a name. -/
def openExpression : Regex :=
  .concat (.concat .empty (.set (.singleton '$'))) (.set (.singleton '\x7b'))

/-- The expression of a name. -/
def nameExpression : Regex :=
  .concat (.concat .empty (.set startChars)) (.copies (.set restChars) 0 none)

/-- The expression of the sign in front of a default. -/
def signExpression : Regex :=
  .concat (.concat .empty (.set (.singleton ':'))) (.set (.singleton '-'))

/-- The expression of a default. -/
def defaultExpression : Regex :=
  .copies (.set (CharSet.singleton '\x7d').compl) 0 none

/-- The expression of what is behind a placeholder. -/
def closeExpression : Regex :=
  .set (.singleton '\x7d')

/-- The expression that the pattern spells. -/
def placeholderExpression : Regex :=
  .concat (.concat (.concat openExpression nameExpression)
    (.copies (.concat signExpression defaultExpression) 0 (some 1))) closeExpression

theorem parse?_placeholderPattern :
    Regex.parse? placeholderPattern = some placeholderExpression :=
  rfl

theorem parse?_namePattern : Regex.parse? namePattern = some nameExpression :=
  rfl

theorem parse?_defaultPattern : Regex.parse? defaultPattern = some defaultExpression :=
  rfl

theorem contains_startChars (c : Char) : startChars.contains c = Text.isIdentifierStart c := by
  have hupper : (CharSet.range 'A' 'Z').contains c = c.isUpper := (Bool.decide_and _ _).symm
  have hlower : (CharSet.range 'a' 'z').contains c = c.isLower := rfl
  have halpha : c.isAlpha = (c.isUpper || c.isLower) := rfl
  rw [Bool.eq_iff_iff]
  simp [startChars, hupper, hlower, Text.isIdentifierStart, halpha]

theorem contains_restChars (c : Char) : restChars.contains c = Text.isIdentifierRest c := by
  have hdigit : (CharSet.range '0' '9').contains c = c.isDigit := rfl
  have hstart := contains_startChars c
  rw [Bool.eq_iff_iff] at hstart ⊢
  simp only [startChars, restChars, CharSet.contains_union, hdigit, Bool.or_eq_true,
    Text.isIdentifierStart, Text.isIdentifierRest, Char.isAlphanum] at hstart ⊢
  tauto

theorem mem_nameExpression_iff {w : List Char} :
    w ∈ nameExpression.language ↔ Text.isIdentifier w = true := by
  simp only [nameExpression, Regex.mem_language_concat, Regex.mem_language_empty,
    Regex.mem_language_set, Regex.mem_language_any, contains_startChars, contains_restChars]
  constructor
  · rintro ⟨_, ⟨_, rfl, _, ⟨c, hc, rfl⟩, rfl⟩, cs, hcs, rfl⟩
    exact Bool.and_eq_true_iff.mpr ⟨hc, List.all_eq_true.mpr hcs⟩
  · intro h
    cases w with
    | nil => cases h
    | cons c cs =>
      obtain ⟨hc, hcs⟩ := Bool.and_eq_true_iff.mp h
      exact ⟨[c], ⟨[], rfl, [c], ⟨c, hc, rfl⟩, rfl⟩, cs, List.all_eq_true.mp hcs, rfl⟩

theorem mem_defaultExpression_iff {w : List Char} :
    w ∈ defaultExpression.language ↔ '\x7d' ∉ w := by
  have hother (c : Char) :
      (CharSet.singleton '\x7d').compl.contains c = true ↔ c ≠ '\x7d' := by
    rw [CharSet.contains_compl, Bool.not_eq_true', ← Bool.not_eq_true, CharSet.contains_singleton]
  simp only [defaultExpression, Regex.mem_language_any, hother]
  exact ⟨fun h hmem ↦ h _ hmem rfl, fun h c hc heq ↦ h (heq ▸ hc)⟩

theorem mem_openExpression_iff {w : List Char} :
    w ∈ openExpression.language ↔ w = ['$', '\x7b'] := by
  simp only [openExpression, Regex.mem_language_concat, Regex.mem_language_empty,
    Regex.mem_language_singleton]
  constructor
  · rintro ⟨_, ⟨_, rfl, _, rfl, rfl⟩, _, rfl, rfl⟩
    rfl
  · rintro rfl
    exact ⟨_, ⟨_, rfl, _, rfl, rfl⟩, _, rfl, rfl⟩

theorem mem_signExpression_iff {w : List Char} :
    w ∈ signExpression.language ↔ w = [':', '-'] := by
  simp only [signExpression, Regex.mem_language_concat, Regex.mem_language_empty,
    Regex.mem_language_singleton]
  constructor
  · rintro ⟨_, ⟨_, rfl, _, rfl, rfl⟩, _, rfl, rfl⟩
    rfl
  · rintro rfl
    exact ⟨_, ⟨_, rfl, _, rfl, rfl⟩, _, rfl, rfl⟩

/-! ## The groups of the expression -/

/-- What the second group takes of the optional part of the expression, which may be skipped. -/
inductive CapturesDefault : List Char → Option (List Char) → Prop
  | skipped : CapturesDefault [] none
  | taken {sign default : List Char} (hsign : sign ∈ signExpression.language)
    (hdefault : default ∈ defaultExpression.language) :
    CapturesDefault (sign ++ default) (some default)

/-- The expression describes a text, with a name as its first group and a default as its second
one. -/
inductive Captures : List Char → (name : List Char) → (default? : Option (List Char)) → Prop
  | intro {front name optional back : List Char} {default? : Option (List Char)}
    (hfront : front ∈ openExpression.language) (hname : name ∈ nameExpression.language)
    (hoptional : CapturesDefault optional default?) (hback : back ∈ closeExpression.language) :
    Captures (front ++ name ++ optional ++ back) name default?

/-- Whatever the expression describes has groups. -/
theorem mem_placeholderExpression_iff_captures {w : List Char} :
    w ∈ placeholderExpression.language ↔ ∃ name default?, Captures w name default? := by
  simp only [placeholderExpression, Regex.mem_language_concat, Regex.mem_language_atMostOne]
  constructor
  · rintro ⟨_, ⟨_, ⟨front, hfront, name, hname, rfl⟩, _, hoptional, rfl⟩, back, hback, rfl⟩
    rcases hoptional with rfl | ⟨sign, hsign, default, hdefault, rfl⟩
    · exact ⟨name, none, .intro hfront hname .skipped hback⟩
    · exact ⟨name, some default, .intro hfront hname (.taken hsign hdefault) hback⟩
  · rintro ⟨name, default?, ⟨hfront, hname, hoptional, hback⟩⟩
    refine ⟨_, ⟨_, ⟨_, hfront, name, hname, rfl⟩, _, ?_, rfl⟩, _, hback, rfl⟩
    cases hoptional with
    | skipped => exact .inl rfl
    | taken hsign hdefault => exact .inr ⟨_, hsign, _, hdefault, rfl⟩

/-- The groups of a text are the name and the default of a placeholder that it spells. -/
theorem captures_iff {w name : List Char} {default? : Option (List Char)} :
    Captures w name default? ↔ ∃ p : Placeholder, p.IsProper ∧ w = p.text ∧
      p.name.toList = name ∧ p.default? = default? := by
  have htext : (String.ofList name).toList = name := String.toList_ofList
  constructor
  · rintro ⟨hfront, hname, hoptional, hback⟩
    cases mem_openExpression_iff.mp hfront
    cases Regex.mem_language_singleton.mp hback
    have hname' := mem_nameExpression_iff.mp hname
    refine ⟨⟨.ofList name, default?⟩, ⟨htext.symm ▸ hname', ?_⟩, ?_, htext, rfl⟩
    · rintro default ⟨⟩
      cases hoptional with
      | taken _ hdefault => exact mem_defaultExpression_iff.mp hdefault
    · cases hoptional with
      | skipped => simp [Placeholder.text, Placeholder.ending, htext]
      | taken hsign _ =>
        cases mem_signExpression_iff.mp hsign
        simp [Placeholder.text, Placeholder.ending, htext]
  · rintro ⟨⟨name', default?⟩, ⟨hname, hdefault⟩, rfl, rfl, rfl⟩
    have hfront := mem_openExpression_iff.mpr rfl
    have hname' := mem_nameExpression_iff.mpr hname
    have hback : ['\x7d'] ∈ closeExpression.language := Regex.mem_language_singleton.mpr rfl
    cases default? with
    | none => simpa [Placeholder.text, Placeholder.ending] using
        Captures.intro hfront hname' .skipped hback
    | some default =>
      have hdefault' := mem_defaultExpression_iff.mpr (hdefault default rfl)
      simpa [Placeholder.text, Placeholder.ending] using
        Captures.intro hfront hname' (.taken (mem_signExpression_iff.mpr rfl) hdefault') hback

theorem mem_placeholderExpression_iff {w : List Char} :
    w ∈ placeholderExpression.language ↔ ∃ p : Placeholder, p.IsProper ∧ w = p.text := by
  simp only [mem_placeholderExpression_iff_captures, captures_iff]
  constructor
  · rintro ⟨_, _, p, hp, rfl, -⟩
    exact ⟨p, hp, rfl⟩
  · rintro ⟨p, hp, rfl⟩
    exact ⟨_, _, p, hp, rfl, rfl, rfl⟩

/-- **The groups of what is found are the name and the default of the placeholder**, and can be no
others. -/
theorem captures_text_iff {p : Placeholder} (hp : p.IsProper) {name : List Char}
    {default? : Option (List Char)} :
    Captures p.text name default? ↔ name = p.name.toList ∧ default? = p.default? := by
  rw [captures_iff]
  constructor
  · rintro ⟨q, hq, htext, rfl, rfl⟩
    obtain rfl := Placeholder.eq_of_prefix hp hq List.prefix_rfl (htext ▸ List.prefix_rfl)
    exact ⟨rfl, rfl⟩
  · rintro ⟨rfl, rfl⟩
    exact ⟨p, hp, rfl, rfl, rfl⟩

end Expression

/-- The expression describes the stretches where a placeholder stands. -/
theorem matches_iff {text : List Char} {i j : Nat} :
    Matches text.toArray placeholderExpression i j ↔
      ∃ p : Placeholder, p.IsProper ∧ p.text <+: text.drop i ∧ i + p.text.length = j := by
  have hplain : placeholderExpression.IsPlain := by
    simp [placeholderExpression, openExpression, nameExpression, signExpression, defaultExpression,
      closeExpression, Regex.IsPlain]
  rw [Regex.matches_iff_spans hplain, Spans]
  simp only [mem_placeholderExpression_iff]
  constructor
  · rintro ⟨_, ⟨p, hp, rfl⟩, hprefix, hend⟩
    exact ⟨p, hp, hprefix, hend⟩
  · rintro ⟨p, hp, hprefix, hend⟩
    exact ⟨_, ⟨p, hp, rfl⟩, hprefix, hend⟩

/-- Whatever is preferred, a search for a placeholder from a position can end in one way only. -/
theorem end_unique {text : List Char} {i j k : Nat}
    (hj : Matches text.toArray placeholderExpression i j)
    (hk : Matches text.toArray placeholderExpression i k) : j = k := by
  obtain ⟨p, hp, hprefix, rfl⟩ := matches_iff.mp hj
  obtain ⟨q, hq, hprefix', rfl⟩ := matches_iff.mp hk
  rw [Placeholder.eq_of_prefix hp hq hprefix hprefix']

/-! ## Scanning and searching -/

/-- Where the placeholders among pieces stand, if the first piece begins at a position. -/
def stretches : (start : Nat) → List Piece → List (Nat × Nat)
  | _, [] => []
  | start, .char _ :: pieces => stretches (start + 1) pieces
  | start, .placeholder p :: pieces =>
    (start, start + p.text.length) :: stretches (start + p.text.length) pieces

/-- The placeholders that a scan takes are those that repeated searching finds. -/
theorem Scans.searches {cs : List Char} {pieces : List Piece} (h : Scans cs pieces)
    (before : List Char) :
    Searches (before ++ cs).toArray placeholderExpression before.length
      (stretches before.length pieces) := by
  -- The scan forgets what it has passed, while the search goes on in the same text: whatever is
  -- taken moves to the text before.
  induction h generalizing before with
  | nil =>
    refine .done fun i j hi hmatch ↦ ?_
    obtain ⟨p, -, hprefix, -⟩ := matches_iff.mp hmatch
    rw [List.append_nil, List.drop_eq_nil_of_le hi, List.prefix_nil] at hprefix
    cases hprefix
  | @placeholder p rest pieces hp _ ih =>
    have hmatch : Matches (before ++ (p.text ++ rest)).toArray placeholderExpression before.length
        (before.length + p.text.length) := by
      refine matches_iff.mpr ⟨p, hp, ?_, rfl⟩
      rw [List.drop_left]
      exact List.prefix_append _ _
    have hrest := ih (before ++ p.text)
    rw [List.append_assoc, List.length_append] at hrest
    exact .found le_rfl hmatch (fun k l hk hlt ↦ absurd hk (Nat.not_le_of_lt hlt)) hrest
  | @char c cs pieces hchar _ ih =>
    have hrest := ih (before ++ [c])
    rw [List.append_assoc, List.length_append] at hrest
    refine .of_succ (fun j hmatch ↦ ?_) hrest
    obtain ⟨p, hp, hprefix, -⟩ := matches_iff.mp hmatch
    rw [List.drop_left] at hprefix
    exact hchar p hp hprefix

/-- **Filling in a template replaces what repeated searching for the expression finds, and this is
one scan from the left.**  The groups of what is found are the name and the default.  It goes wrong
if some variable is missing and names the leftmost one, and it looks up no other variables than
those of the placeholders. -/
theorem substitute_eq_scan (template : String) :
    ∃ expression pieces,
      Regex.parse? placeholderPattern = some expression ∧
      (∀ found, Searches template.toList.toArray expression 0 found ↔
        found = stretches 0 pieces) ∧
      (∀ scanned, Scans template.toList scanned ↔ scanned = pieces) ∧
      pieces.flatMap Piece.text = template.toList ∧
      (∀ p : Placeholder, .placeholder p ∈ pieces → ∀ name default?,
        Captures p.text name default? ↔ name = p.name.toList ∧ default? = p.default?) ∧
      ∀ env,
        (∀ text, substitute env template = .ok text ↔
          ∃ texts, List.Forall₂ (Gives env) pieces texts ∧ text = String.ofList texts.flatten) ∧
        (∀ name, substitute env template = .error name ↔
          ∃ before p after, pieces = before ++ .placeholder p :: after ∧
            (∀ q : Placeholder, .placeholder q ∈ before → ¬ q.IsMissing env) ∧
            p.IsMissing env ∧ p.name = name) ∧
        ((∃ name, substitute env template = .error name) ↔
          ∃ p : Placeholder, .placeholder p ∈ pieces ∧ p.IsMissing env) ∧
        ∀ env', (∀ p : Placeholder, .placeholder p ∈ pieces →
            env.value? p.name = env'.value? p.name) →
          substitute env template = substitute env' template := by
  have hscans : Scans template.toList (parse template) := scans_iff.mpr rfl
  have hsearch := hscans.searches []
  refine ⟨placeholderExpression, parse template, parse?_placeholderPattern, fun found ↦ ?_,
    fun scanned ↦ scans_iff.trans eq_comm, hscans.flatMap_text,
    fun p hp _ _ ↦ captures_text_iff (hscans.isProper hp), fun env ↦
      ⟨fun text ↦ substitute_eq_ok_iff, fun name ↦ substitute_eq_error_iff,
        exists_substitute_eq_error_iff, fun env' ↦ substitute_eq_substitute⟩⟩
  constructor
  · exact fun hfound ↦ hfound.unique end_unique hsearch
  · rintro rfl
    exact hsearch

/-- A default is not looked at again: it ends before the first closing brace. -/
example : substitute ⟨fun _ ↦ none⟩ "$\x7bA:-$\x7bB\x7d\x7d" = .ok "$\x7bB\x7d" := by
  decide +kernel

end Template

end TenantView
