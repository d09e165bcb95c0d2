import TenantView.Proofs.Regex.Suffix

/-!
# Readers in front of closing signs

A pattern may be put into a group by writing signs around it, and then every reader meets what is
written behind the pattern.  A reader that succeeds on the pattern does the same in front of the
closing signs, and leaves them alone.  A reader that fails on the pattern may succeed there, but
then it has used up the sign that closes the group (`IsLocal`).
-/

namespace TenantView.Regex

/-- The signs that close the group around a pattern and end the whole. -/
def closing : List Char := [')', '$']

/-- What is left holds no sign that could close a group. -/
def IsSpent {α : Type} (_ : α) (rest : List Char) : Prop :=
  rest <:+ ['$']

/-- What the outcome `b` in front of the closing signs has to do with the outcome `a` without
them: a success stays and leaves the closing signs, and what is left behind a failure that has
become a success is described by `Used`. -/
structure LocalAt {α : Type} (Used : α → List Char → Prop) (a b : Option (α × List Char)) :
    Prop where
  append : ∀ {x rest}, a = some (x, rest) → b = some (x, rest ++ closing)
  used : ∀ {x rest}, a = none → b = some (x, rest) → Used x rest

/-- The reader does the same in front of the closing signs, or uses one of them up. -/
def IsLocal {α : Type} (Used : α → List Char → Prop) (reader : List Char → Option (α × List Char)) :
    Prop :=
  ∀ cs, LocalAt Used (reader cs) (reader (cs ++ closing))

namespace LocalAt

variable {α β : Type} {Used : α → List Char → Prop} {Used' : β → List Char → Prop}
variable {a b : Option (α × List Char)}

theorem done (x : α) (rest : List Char) :
    LocalAt Used (some (x, rest)) (some (x, rest ++ closing)) where
  append h := by
    cases h
    rfl
  used h := nomatch h

/-- A failure without the closing signs says nothing but what is used up. -/
theorem failed (h : ∀ x rest, b = some (x, rest) → Used x rest) : LocalAt Used none b where
  append h := nomatch h
  used _ hb := h _ _ hb

theorem none : LocalAt Used none none :=
  failed fun _ _ h ↦ nomatch h

theorem bind (h : LocalAt Used a b) {f g : α × List Char → Option (β × List Char)}
    (hf : ∀ x rest, a = some (x, rest) → LocalAt Used' (f (x, rest)) (g (x, rest ++ closing)))
    (hg : ∀ x rest y rest', Used x rest → g (x, rest) = some (y, rest') → Used' y rest') :
    LocalAt Used' (a >>= f) (b >>= g) := by
  cases ha : a with
  | none =>
    refine failed fun y rest' hb ↦ ?_
    obtain ⟨⟨x, rest⟩, hx, hy⟩ := bind_eq_some hb
    exact hg x rest y rest' (h.used ha hx) hy
  | some p =>
    obtain ⟨x, rest⟩ := p
    rw [h.append ha]
    exact hf x rest ha

theorem map (h : LocalAt Used a b) {f : α → β} (hf : ∀ x rest, Used x rest → Used' (f x) rest) :
    LocalAt Used' (a.map fun p ↦ (f p.1, p.2)) (b.map fun p ↦ (f p.1, p.2)) where
  append ha := by
    obtain ⟨⟨x, rest⟩, hx, heq⟩ := map_eq_some ha
    cases heq
    rw [h.append hx]
    rfl
  used ha hb := by
    obtain ⟨⟨x, rest⟩, hx, heq⟩ := map_eq_some hb
    cases heq
    exact hf x rest (h.used (Option.map_eq_none_iff.mp ha) hx)

/-- What only takes more off the front keeps what is spent. -/
theorem bindSpent (h : LocalAt IsSpent a b) {f g : α × List Char → Option (β × List Char)}
    (hf : ∀ x rest, a = some (x, rest) → LocalAt IsSpent (f (x, rest)) (g (x, rest ++ closing)))
    (hg : ∀ x rest y rest', g (x, rest) = some (y, rest') → rest' <:+ rest) :
    LocalAt IsSpent (a >>= f) (b >>= g) :=
  h.bind hf fun x rest y rest' hspent hy ↦ (hg x rest y rest' hy).trans hspent

/-- A value that is found without looking at the rest. -/
theorem checked {γ : Type} (o : Option γ) (k : γ → β) (rest : List Char) :
    LocalAt Used' (o >>= fun z ↦ pure (k z, rest)) (o >>= fun z ↦ pure (k z, rest ++ closing)) := by
  cases o with
  | none => exact .none
  | some z => exact .done (k z) rest

end LocalAt

/-- What is found without looking at the rest leaves all of it. -/
theorem checked_suffix {β γ : Type} {o : Option γ} {k : γ → β} {rest rest' : List Char} {y : β}
    (h : (o >>= fun z ↦ pure (k z, rest)) = some (y, rest')) : rest' <:+ rest := by
  obtain ⟨z, -, hz⟩ := bind_eq_some h
  cases hz
  exact List.suffix_rfl

/-- Whether the rounds of two readers are enough for some characters, alone and in front of the
closing signs. -/
structure Enough (rounds rounds' cs : List Char) : Prop where
  alone : cs.length ≤ rounds.length
  closed : (cs ++ closing).length ≤ rounds'.length

namespace Enough

variable {rounds rounds' cs : List Char}

/-- What there was at first is enough for what is left of it. -/
theorem ofSuffix {after : List Char} (h : after <:+ cs) : Enough cs (cs ++ closing) after where
  alone := h.length_le
  closed := by
    simp only [List.length_append]
    exact Nat.add_le_add_right h.length_le _

theorem all (cs : List Char) : Enough cs (cs ++ closing) cs :=
  ofSuffix List.suffix_rfl

theorem eq_nil (h : Enough [] rounds' cs) : cs = [] :=
  List.eq_nil_of_length_eq_zero (Nat.le_zero.mp h.alone)

/-- The closing signs always take a round. -/
theorem exists_cons (h : Enough rounds rounds' cs) : ∃ b tail, rounds' = b :: tail := by
  refine List.exists_cons_of_length_pos (Nat.lt_of_lt_of_le ?_ h.closed)
  rw [List.length_append]
  exact Nat.add_pos_right _ (by decide)

/-- A round is spared by taking a character. -/
theorem after {b b' : Char} (h : Enough (b :: rounds) (b' :: rounds') cs) {after : List Char}
    (hafter : after.length < cs.length) : Enough rounds rounds' after where
  alone := Nat.le_of_lt_succ (Nat.lt_of_lt_of_le hafter h.alone)
  closed := by
    have hclosed := h.closed
    simp only [List.length_append, List.length_cons] at hclosed ⊢
    omega

end Enough

/-- A sign that is met in front of the closing ones, and is none of them, is met without them. -/
theorem cons_of_append_closing {cs tail : List Char} {c : Char} (hc : c ≠ ')')
    (h : cs ++ closing = c :: tail) : ∃ tail', cs = c :: tail' := by
  cases cs with
  | nil => exact absurd (List.cons.inj h).1.symm hc
  | cons d cs => exact ⟨cs, congrArg (· :: cs) (List.cons.inj h).1⟩

/-- What is taken up to a sign ends there, whatever is written behind. -/
theorem span_append {p : Char → Bool} {cs rest : List Char} {c : Char}
    (h : cs.dropWhile p = c :: rest) (more : List Char) :
    (cs ++ more).takeWhile p = cs.takeWhile p ∧
      (cs ++ more).dropWhile p = c :: (rest ++ more) := by
  constructor
  · rw [List.takeWhile_append, if_neg]
    intro hlength
    have hall := congrArg List.length (List.takeWhile_append_dropWhile (p := p) (l := cs))
    rw [h, List.length_append, hlength, List.length_cons] at hall
    omega
  · rw [List.dropWhile_append, h]
    rfl

/-- What is dropped goes on behind the pattern if there is no sign to stop it. -/
theorem dropWhile_append_closing {p : Char → Bool} {cs : List Char} (h : cs.dropWhile p = []) :
    (cs ++ closing).dropWhile p = closing.dropWhile p := by
  rw [List.dropWhile_append, h]
  rfl

/-! ## Blanks and comments -/

/-- The closing signs are no blanks. -/
theorem dropBlanks_append (cs : List Char) :
    (cs ++ closing).dropWhile Text.isBlank = cs.dropWhile Text.isBlank ++ closing := by
  cases hdrop : cs.dropWhile Text.isBlank with
  | nil => exact dropWhile_append_closing hdrop
  | cons c rest => exact (span_append hdrop closing).2

namespace Modes

/-- Whether a comment is open at the end of some characters. -/
def endsInComment : (inComment : Bool) → List Char → Bool
  | inComment, [] => inComment
  | true, c :: cs => endsInComment (c ≠ '\n') cs
  | false, c :: cs =>
    if c = '#' then endsInComment true cs
    else if Text.isBlank c then endsInComment false cs
    else false

/-- Whether an open comment takes in what is written behind some characters. -/
def opensComment (modes : Modes) (cs : List Char) : Bool :=
  modes.verbose && endsInComment false cs

/-- The closing signs are met as they are unless a comment is open. -/
theorem dropComments_append (inComment : Bool) (cs : List Char) :
    dropComments inComment (cs ++ closing) =
      if (dropComments inComment cs).isEmpty && endsInComment inComment cs then []
      else dropComments inComment cs ++ closing := by
  induction cs generalizing inComment with
  | nil => cases inComment <;> rfl
  | cons c cs ih =>
    cases inComment with
    | true => exact ih _
    | false =>
      rw [List.cons_append, dropComments, dropComments, endsInComment]
      by_cases hhash : c = '#'
      · simp only [hhash, if_true]
        exact ih true
      · by_cases hblank : Text.isBlank c = true
        · simp only [hhash, hblank, if_true, if_false]
          exact ih false
        · simp only [hhash, hblank, if_false, Bool.false_eq_true, List.isEmpty_cons,
            Bool.false_and, List.cons_append]

/-- In front of the closing signs the next sign is the same; where there is none, it is the first
of the closing signs, unless a comment takes them in. -/
theorem skip_append (modes : Modes) (cs : List Char) :
    (∃ c rest, modes.skip cs = c :: rest ∧ modes.skip (cs ++ closing) = c :: (rest ++ closing)) ∨
      modes.skip cs = [] ∧
        modes.skip (cs ++ closing) = if modes.opensComment cs then [] else closing := by
  unfold skip opensComment
  cases modes.verbose with
  | false =>
    cases cs with
    | nil => exact .inr ⟨rfl, rfl⟩
    | cons c rest => exact .inl ⟨c, rest, rfl, rfl⟩
  | true =>
    simp only [if_true, Bool.true_and, dropComments_append]
    cases hdrop : dropComments false cs with
    | nil => exact .inr ⟨rfl, rfl⟩
    | cons c rest => exact .inl ⟨c, rest, rfl, rfl⟩

/-- Where the pattern has no sign left, the next sign is the first of the closing signs, or there
is none. -/
def IsAtClosing (modes : Modes) (cs : List Char) : Prop :=
  modes.skip cs = closing ∨ modes.skip cs = []

theorem skip_closing (modes : Modes) : modes.skip closing = closing := by
  unfold skip
  cases modes.verbose <;> rfl

/-- The cases in which a reader may find itself that takes the next sign. -/
theorem skip_cases (modes : Modes) (cs : List Char) :
    (∃ c rest, modes.skip cs = c :: rest ∧ modes.skip (cs ++ closing) = c :: (rest ++ closing)) ∨
      modes.skip cs = [] ∧ modes.IsAtClosing (cs ++ closing) := by
  rcases modes.skip_append cs with hsign | ⟨hnone, hclosing⟩
  · exact .inl hsign
  · split at hclosing
    · exact .inr ⟨hnone, .inr hclosing⟩
    · exact .inr ⟨hnone, .inl hclosing⟩

end Modes

/-- A reader that finds nothing where there is nothing may begin at the next sign. -/
theorem IsLocal.skip {α : Type} {Used : α → List Char → Prop}
    {reader : List Char → Option (α × List Char)} (h : IsLocal Used reader)
    (hnil : reader [] = none) (modes : Modes) :
    IsLocal Used fun cs ↦ reader (modes.skip cs) := by
  intro cs
  simp only
  rcases modes.skip_cases cs with ⟨c, rest, hsign, hsign'⟩ | ⟨hnone, hclosing | hclosing⟩
  · rw [hsign, hsign']
    exact h (c :: rest)
  · rw [hnone, hclosing]
    exact h []
  · rw [hnone, hclosing, hnil]
    exact .none

end TenantView.Regex
