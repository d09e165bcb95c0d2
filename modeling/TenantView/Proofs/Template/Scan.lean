import Mathlib.Data.List.TakeWhile
import TenantView.Proofs.Traversal
import TenantView.Template

/-!
# A template is scanned once

A placeholder is read in front of a text if and only if the text begins with a spelling of it
(`readPlaceholder?_eq_some_iff`).  So the pieces of a template are those of one scan from the left
(`scans_iff`).  That filling in goes on behind a variable that is missing makes no difference to
stopping there (`result_foldl_step`).  So it yields the values and defaults between the characters
that were copied (`substitute_eq_ok_iff`), or names the leftmost variable that is missing
(`substitute_eq_error_iff`).
-/

namespace TenantView.Template

/-! ## Placeholders -/

namespace Placeholder

/-- What follows the name of a placeholder. -/
def ending : Option (List Char) → List Char
  | none => ['\x7d']
  | some default => ':' :: '-' :: default ++ ['\x7d']

/-- The text of a placeholder. -/
def text (p : Placeholder) : List Char :=
  '$' :: '\x7b' :: p.name.toList ++ ending p.default?

theorem length_text_pos (p : Placeholder) : 0 < p.text.length :=
  Nat.succ_pos _

/-- The name is an identifier, and the default has no closing brace. -/
structure IsProper (p : Placeholder) : Prop where
  name : Text.isIdentifier p.name.toList = true
  default : ∀ default ∈ p.default?, '\x7d' ∉ default

end Placeholder

open Placeholder (ending)

theorem splitBrace?_eq_some_iff {cs default rest : List Char} :
    splitBrace? cs = some (default, rest) ↔ '\x7d' ∉ default ∧ cs = default ++ '\x7d' :: rest := by
  constructor
  · intro h
    rw [splitBrace?] at h
    split at h
    · cases h
    · next c tail hdrop =>
      cases h
      have hbrace := List.head?_dropWhile_not (· ≠ '\x7d') cs
      rw [hdrop] at hbrace
      obtain rfl : c = '\x7d' := by simpa using hbrace
      refine ⟨fun hmem ↦ ?_, ?_⟩
      · simpa using List.mem_takeWhile_imp hmem
      · rw [← hdrop, List.takeWhile_append_dropWhile]
  · rintro ⟨hbrace, rfl⟩
    have hother : ∀ c ∈ default, decide (c ≠ '\x7d') = true :=
      fun c hc ↦ decide_eq_true fun heq ↦ hbrace (heq ▸ hc)
    rw [splitBrace?, List.dropWhile_append_of_pos hother, List.takeWhile_append_of_pos hother]
    simp

theorem closePlaceholder?_eq_some_iff {name : String} {cs rest : List Char} {p : Placeholder} :
    closePlaceholder? name cs = some (p, rest) ↔
      p.name = name ∧ (∀ default ∈ p.default?, '\x7d' ∉ default) ∧
        cs = ending p.default? ++ rest := by
  obtain ⟨name', default?⟩ := p
  constructor
  · intro h
    rw [closePlaceholder?.eq_def] at h
    split at h
    · cases h
      exact ⟨rfl, nofun, rfl⟩
    · obtain ⟨⟨default, tail⟩, hsplit, h⟩ := Option.map_eq_some_iff.mp h
      cases h
      obtain ⟨hbrace, rfl⟩ := splitBrace?_eq_some_iff.mp hsplit
      exact ⟨rfl, by rintro _ ⟨⟩; exact hbrace, by simp [ending]⟩
    · cases h
  · rintro ⟨rfl, hbrace, rfl⟩
    cases default? with
    | none => rfl
    | some default =>
      have hsplit : splitBrace? (default ++ ['\x7d'] ++ rest) = some (default, rest) :=
        splitBrace?_eq_some_iff.mpr ⟨hbrace default rfl, by simp⟩
      change (splitBrace? (default ++ ['\x7d'] ++ rest)).map _ = _
      rw [hsplit]
      rfl

/-- The name of a placeholder ends before what follows it. -/
theorem isIdentifierRest_head_ending (default? : Option (List Char)) (rest : List Char) :
    ∀ c ∈ (ending default? ++ rest).head?, Text.isIdentifierRest c = false := by
  cases default? <;> rintro _ ⟨⟩ <;> rfl

theorem readPlaceholder?_eq_some_iff {cs rest : List Char} {p : Placeholder} :
    readPlaceholder? cs = some (p, rest) ↔ p.IsProper ∧ cs = p.text ++ rest := by
  constructor
  · intro h
    rw [readPlaceholder?.eq_def] at h
    split at h
    · obtain ⟨⟨name, tail⟩, hsplit, hclose⟩ := Option.bind_eq_some_iff.mp h
      obtain ⟨hname, hbrace, rfl⟩ := closePlaceholder?_eq_some_iff.mp hclose
      have hname : p.name.toList = name := by rw [hname, String.toList_ofList]
      refine ⟨⟨?_, hbrace⟩, ?_⟩
      · rw [hname]
        exact Text.isIdentifier_of_splitIdentifier? hsplit
      · rw [← Text.append_of_splitIdentifier? hsplit, Placeholder.text, hname]
        simp
    · cases h
  · rintro ⟨⟨hname, hbrace⟩, rfl⟩
    have hsplit := Text.splitIdentifier?_append hname (isIdentifierRest_head_ending p.default? rest)
    have hclose : closePlaceholder? p.name (ending p.default? ++ rest) = some (p, rest) :=
      closePlaceholder?_eq_some_iff.mpr ⟨rfl, hbrace, rfl⟩
    change (Text.splitIdentifier? (p.name.toList ++ ending p.default? ++ rest)).bind _ = _
    rw [List.append_assoc, hsplit]
    change closePlaceholder? (String.ofList p.name.toList) _ = _
    rw [String.ofList_toList, hclose]

theorem readPlaceholder?_text {p : Placeholder} (h : p.IsProper) (rest : List Char) :
    readPlaceholder? (p.text ++ rest) = some (p, rest) :=
  readPlaceholder?_eq_some_iff.mpr ⟨h, rfl⟩

/-- At most one placeholder stands in front of a text. -/
theorem Placeholder.eq_of_prefix {p q : Placeholder} {cs : List Char} (hp : p.IsProper)
    (hq : q.IsProper) (hpcs : p.text <+: cs) (hqcs : q.text <+: cs) : p = q := by
  obtain ⟨rest, rfl⟩ := hpcs
  obtain ⟨rest', hrest'⟩ := hqcs
  have hread := readPlaceholder?_text hq rest'
  rw [hrest', readPlaceholder?_text hp rest] at hread
  cases hread
  rfl

/-! ## Scanning -/

/-- The pieces of a text, from the left: where a placeholder stands it is taken, and the scan goes
on behind it; a character where none stands is taken as it is. -/
inductive Scans : List Char → List Piece → Prop
  | nil : Scans [] []
  | placeholder {p : Placeholder} {rest : List Char} {pieces : List Piece} (h : p.IsProper)
    (hrest : Scans rest pieces) : Scans (p.text ++ rest) (.placeholder p :: pieces)
  | char {c : Char} {cs : List Char} {pieces : List Piece}
    (h : ∀ p : Placeholder, p.IsProper → ¬ p.text <+: c :: cs) (hrest : Scans cs pieces) :
    Scans (c :: cs) (.char c :: pieces)

/-- The text of a piece. -/
def Piece.text : Piece → List Char
  | .char c => [c]
  | .placeholder p => p.text

/-- A scan leaves nothing out. -/
theorem Scans.flatMap_text {cs : List Char} {pieces : List Piece} (h : Scans cs pieces) :
    pieces.flatMap Piece.text = cs := by
  induction h with
  | nil => rfl
  | placeholder _ _ ih | char _ _ ih =>
    rw [List.flatMap_cons, ih]
    rfl

/-- Every placeholder that a scan takes is one. -/
theorem Scans.isProper {cs : List Char} {pieces : List Piece} (h : Scans cs pieces)
    {p : Placeholder} (hp : .placeholder p ∈ pieces) : p.IsProper := by
  induction h with
  | nil => cases hp
  | placeholder hproper _ ih =>
    rcases List.mem_cons.mp hp with heq | hrest
    · cases heq
      exact hproper
    · exact ih hrest
  | char _ _ ih =>
    rcases List.mem_cons.mp hp with heq | hrest
    · cases heq
    · exact ih hrest

section Rounds

variable {round c : Char} {rounds cs rest : List Char} {p : Placeholder}

theorem pieces_of_readPlaceholder? (h : readPlaceholder? cs = some (p, rest)) :
    pieces (round :: rounds) cs = .placeholder p :: pieces rounds rest := by
  cases cs with
  | nil => cases h
  | cons c cs => rw [pieces, h]

theorem pieces_of_readPlaceholder?_eq_none (h : readPlaceholder? (c :: cs) = none) :
    pieces (round :: rounds) (c :: cs) = .char c :: pieces rounds cs := by
  rw [pieces, h]

theorem readPlaceholder?_eq_none_iff :
    readPlaceholder? cs = none ↔ ∀ p : Placeholder, p.IsProper → ¬ p.text <+: cs := by
  rw [Option.eq_none_iff_forall_ne_some]
  constructor
  · rintro h p hp ⟨rest, hrest⟩
    exact h (p, rest) (readPlaceholder?_eq_some_iff.mpr ⟨hp, hrest.symm⟩)
  · rintro h ⟨p, rest⟩ hread
    obtain ⟨hp, hcs⟩ := readPlaceholder?_eq_some_iff.mp hread
    exact h p hp ⟨rest, hcs.symm⟩

/-- A placeholder takes a character of the text at least. -/
theorem length_lt_of_readPlaceholder? (h : readPlaceholder? cs = some (p, rest)) :
    rest.length < cs.length := by
  obtain ⟨-, rfl⟩ := readPlaceholder?_eq_some_iff.mp h
  rw [List.length_append]
  exact Nat.lt_add_of_pos_left p.length_text_pos

end Rounds

theorem scans_pieces {rounds cs : List Char} (h : cs.length ≤ rounds.length) :
    Scans cs (pieces rounds cs) := by
  induction rounds generalizing cs with
  | nil =>
    obtain rfl := List.eq_nil_of_length_eq_zero (Nat.le_zero.mp h)
    exact .nil
  | cons round rounds ih =>
    cases hread : readPlaceholder? cs with
    | some read =>
      obtain ⟨p, rest⟩ := read
      have hrest := length_lt_of_readPlaceholder? hread
      rw [pieces_of_readPlaceholder? hread]
      obtain ⟨hp, rfl⟩ := readPlaceholder?_eq_some_iff.mp hread
      exact .placeholder hp (ih (Nat.le_of_lt_succ (hrest.trans_le h)))
    | none =>
      cases cs with
      | nil => exact .nil
      | cons c cs =>
        rw [pieces_of_readPlaceholder?_eq_none hread]
        exact .char (readPlaceholder?_eq_none_iff.mp hread) (ih (Nat.le_of_succ_le_succ h))

theorem Scans.pieces_eq {rounds cs : List Char} {scanned : List Piece} (h : Scans cs scanned)
    (hrounds : cs.length ≤ rounds.length) : pieces rounds cs = scanned := by
  induction h generalizing rounds with
  | nil => cases rounds <;> rfl
  | @placeholder p rest scanned hp _ ih =>
    have hread := readPlaceholder?_text hp rest
    have hrest := length_lt_of_readPlaceholder? hread
    obtain ⟨round, rounds, rfl⟩ := List.exists_cons_of_length_pos
      ((Nat.zero_le _).trans_lt (hrest.trans_le hrounds))
    rw [pieces_of_readPlaceholder? hread, ih (Nat.le_of_lt_succ (hrest.trans_le hrounds))]
  | @char c cs scanned hchar _ ih =>
    obtain ⟨round, rounds, rfl⟩ := List.exists_cons_of_length_pos
      ((Nat.zero_lt_succ _).trans_le hrounds)
    rw [pieces_of_readPlaceholder?_eq_none (readPlaceholder?_eq_none_iff.mpr hchar),
      ih (Nat.le_of_succ_le_succ hrounds)]

/-- **Parsing is one scan from the left.** -/
theorem scans_iff {template : String} {scanned : List Piece} :
    Scans template.toList scanned ↔ parse template = scanned := by
  constructor
  · exact fun h ↦ h.pieces_eq le_rfl
  · rintro rfl
    exact scans_pieces le_rfl

/-! ## Filling in -/

/-- What stands for a piece in an environment. -/
inductive Gives (env : Environment) : Piece → List Char → Prop
  | char (c : Char) : Gives env (.char c) [c]
  | value {p : Placeholder} {value : String} (h : env.value? p.name = some value) :
    Gives env (.placeholder p) value.toList
  | default {p : Placeholder} {text : List Char} (h : env.value? p.name = none)
    (hdefault : p.default? = some text) : Gives env (.placeholder p) text

/-- Neither the variable nor a default is there. -/
structure Placeholder.IsMissing (env : Environment) (p : Placeholder) : Prop where
  value : env.value? p.name = none
  default : p.default? = none

variable {env env' : Environment}

section Value

variable {p : Placeholder}

theorem value?_of_set {value : String} (h : env.value? p.name = some value) :
    p.value? env = some value.toList := by
  rw [Placeholder.value?, h]

theorem value?_of_unset (h : env.value? p.name = none) : p.value? env = p.default? := by
  rw [Placeholder.value?, h]

theorem gives_placeholder_iff {text : List Char} :
    Gives env (.placeholder p) text ↔ p.value? env = some text := by
  constructor
  · rintro (_ | hset | ⟨hunset, hdefault⟩)
    · exact value?_of_set hset
    · exact (value?_of_unset hunset).trans hdefault
  · intro h
    cases hvalue : env.value? p.name with
    | some value =>
      cases (value?_of_set hvalue).symm.trans h
      exact .value hvalue
    | none => exact .default hvalue ((value?_of_unset hvalue).symm.trans h)

theorem isMissing_iff : p.IsMissing env ↔ p.value? env = none := by
  constructor
  · rintro ⟨hunset, hdefault⟩
    exact (value?_of_unset hunset).trans hdefault
  · intro h
    cases hvalue : env.value? p.name with
    | some value => cases (value?_of_set hvalue).symm.trans h
    | none => exact ⟨hvalue, (value?_of_unset hvalue).symm.trans h⟩

end Value

theorem fill_eq_ok_iff {piece : Piece} {text : List Char} :
    piece.fill env = .ok text ↔ Gives env piece text := by
  cases piece with
  | char c =>
    constructor
    · rintro ⟨⟩
      exact .char c
    · rintro ⟨⟩
      rfl
  | placeholder p =>
    rw [gives_placeholder_iff, Piece.fill]
    cases p.value? env <;> simp

theorem fill_eq_error_iff {piece : Piece} {name : String} :
    piece.fill env = .error name ↔
      ∃ p : Placeholder, piece = .placeholder p ∧ p.IsMissing env ∧ p.name = name := by
  cases piece with
  | char c => exact iff_of_false nofun nofun
  | placeholder p =>
    simp only [Piece.placeholder.injEq, exists_eq_left', isMissing_iff, Piece.fill]
    cases p.value? env <;> simp

/-- Behind one more piece the text goes on with what stands for it, unless a variable is missing
there or has been before. -/
theorem Filling.result_step (filling : Filling) (piece : Piece) :
    (filling.step env piece).result =
      filling.result >>= fun front ↦ (piece.fill env).map (front ++ ·) := by
  unfold step result
  cases piece.fill env <;> cases filling.missing <;> rfl

/-- **Going on behind a variable that is missing comes to the same as stopping there**: the one that
is remembered is the first one at which a traversal of the pieces fails. -/
theorem Filling.result_foldl_step (filling : Filling) (pieces : List Piece) :
    (pieces.foldl (step env) filling).result =
      filling.result >>= fun front ↦
        (pieces.mapM (Piece.fill env)).map fun texts ↦ front ++ texts.flatten := by
  -- what has been filled in so far changes with every piece, and with it the filling to start from
  induction pieces generalizing filling with
  | nil =>
    rw [List.foldl_nil]
    cases filling.result with
    | error name => rfl
    | ok front => exact congrArg Except.ok (List.append_nil front).symm
  | cons piece pieces ih =>
    rw [List.foldl_cons, ih, result_step]
    cases filling.result with
    | error name => rfl
    | ok front =>
      rw [ok_bind, ok_bind]
      cases hfill : piece.fill env with
      | error name =>
        rw [mapM_cons_of_error hfill]
        rfl
      | ok text =>
        rw [mapM_cons_of_ok hfill]
        cases pieces.mapM (Piece.fill env) <;> simp [Except.map, Bind.bind, Except.bind]

theorem substitute_eq (env : Environment) (template : String) :
    substitute env template =
      ((parse template).mapM (Piece.fill env)).map fun texts ↦ String.ofList texts.flatten := by
  have hstart : Filling.start.result = .ok [] := rfl
  rw [substitute, Filling.result_foldl_step, hstart, ok_bind]
  cases (parse template).mapM (Piece.fill env) <;> rfl

/-- What is filled in is the text of what stands for the pieces. -/
theorem substitute_eq_ok_iff {template text : String} :
    substitute env template = .ok text ↔
      ∃ texts, List.Forall₂ (Gives env) (parse template) texts ∧
        text = String.ofList texts.flatten := by
  have hgives : Gives env = fun piece text ↦ piece.fill env = .ok text := by
    funext piece text
    exact propext fill_eq_ok_iff.symm
  rw [hgives, substitute_eq]
  simp only [← mapM_eq_ok_iff]
  cases (parse template).mapM (Piece.fill env) <;> simp [Except.map, eq_comm]

/-- A piece is filled in unless its variable is missing. -/
theorem exists_fill_iff {piece : Piece} :
    (∃ text, piece.fill env = .ok text) ↔
      ∀ p : Placeholder, piece = .placeholder p → ¬ p.IsMissing env := by
  cases hfill : piece.fill env with
  | ok text =>
    refine iff_of_true ⟨text, rfl⟩ fun p hp hmissing ↦ ?_
    cases hfill.symm.trans (fill_eq_error_iff.mpr ⟨p, hp, hmissing, rfl⟩)
  | error name =>
    obtain ⟨p, hp, hmissing, -⟩ := fill_eq_error_iff.mp hfill
    exact iff_of_false nofun fun h ↦ h p hp hmissing

/-- The leftmost variable that is missing is named. -/
theorem substitute_eq_error_iff {template name : String} :
    substitute env template = .error name ↔
      ∃ before p after, parse template = before ++ .placeholder p :: after ∧
        (∀ q : Placeholder, .placeholder q ∈ before → ¬ q.IsMissing env) ∧ p.IsMissing env ∧
        p.name = name := by
  have herror : substitute env template = .error name ↔
      (parse template).mapM (Piece.fill env) = .error name := by
    rw [substitute_eq]
    cases (parse template).mapM (Piece.fill env) <;> simp [Except.map]
  rw [herror, mapM_eq_error_iff]
  simp only [exists_fill_iff, fill_eq_error_iff]
  constructor
  · rintro ⟨before, _, after, hsplit, hbefore, p, rfl, hp⟩
    exact ⟨before, p, after, hsplit, fun q hq ↦ hbefore _ hq q rfl, hp⟩
  · rintro ⟨before, p, after, hsplit, hbefore, hp⟩
    refine ⟨before, _, after, hsplit, ?_, p, rfl, hp⟩
    rintro _ hpiece q rfl
    exact hbefore q hpiece

theorem exists_substitute_eq_error_iff {template : String} :
    (∃ name, substitute env template = .error name) ↔
      ∃ p : Placeholder, .placeholder p ∈ parse template ∧ p.IsMissing env := by
  constructor
  · rintro ⟨name, h⟩
    obtain ⟨before, p, after, hsplit, -, hmissing, -⟩ := substitute_eq_error_iff.mp h
    exact ⟨p, hsplit ▸ List.mem_append_right before List.mem_cons_self, hmissing⟩
  · rintro ⟨p, hp, hmissing⟩
    cases hfill : (parse template).mapM (Piece.fill env) with
    | error name =>
      refine ⟨name, ?_⟩
      rw [substitute_eq, hfill]
      rfl
    | ok texts =>
      have hall := exists_mapM_iff.mp ⟨texts, hfill⟩
      exact absurd hmissing (exists_fill_iff.mp (hall _ hp) p rfl)

/-- Only the variables that the placeholders name are looked up. -/
theorem substitute_eq_substitute {template : String}
    (h : ∀ p : Placeholder, .placeholder p ∈ parse template →
      env.value? p.name = env'.value? p.name) :
    substitute env template = substitute env' template := by
  rw [substitute_eq, substitute_eq]
  refine congrArg (Except.map _) (mapM_eq_mapM fun piece hpiece ↦ ?_)
  cases piece with
  | char c => rfl
  | placeholder p => rw [Piece.fill, Piece.fill, Placeholder.value?, Placeholder.value?, h p hpiece]

end TenantView.Template
