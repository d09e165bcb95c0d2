import TenantView.Proofs.Regex.BracketLocality
import TenantView.Proofs.Regex.Moves

/-!
# Patterns in a group

A pattern that is written into a group is read by the same steps as alone, with the group below
all groups of its own (`step_within`).  The two readings part where the pattern alone is refused:
at a closing parenthesis without an opening one, which ends the group around the pattern instead,
and where a sign of the pattern takes closing signs for its own.  The latter cannot be repaired,
because no sign is left then that closes the group (`readFrom_spent`).
-/

namespace TenantView.Regex

/-! ## States in a group -/

namespace State

/-- The state inside a group around all groups that are open. -/
def within (outer : OpenGroup) (state : State) : State :=
  { state with groups := state.groups ++ [outer] }

/-- The state behind the end of the group around the pattern. -/
def leave (outer : OpenGroup) (state : State) : State :=
  { state with
    groups := []
    branches := outer.branches
    parts := { value := state.contents.value, depth := state.contents.depth + 1 } :: outer.parts
    modes := outer.modes }

variable (outer : OpenGroup) (state : State)

theorem within_groups_ne_nil : (state.within outer).groups ≠ [] :=
  List.append_ne_nil_of_right_ne_nil _ (List.cons_ne_nil outer [])

theorem within_closeGroup? (h : state.groups ≠ []) :
    (state.within outer).closeGroup? = state.closeGroup?.map (within outer) := by
  obtain ⟨groups, branches, parts, modes, names⟩ := state
  cases groups with
  | nil => exact absurd rfl h
  | cons group groups => rfl

theorem closeGroup?_ne_none (h : state.groups ≠ []) : state.closeGroup? ≠ none := by
  obtain ⟨groups, branches, parts, modes, names⟩ := state
  cases groups with
  | nil => exact absurd rfl h
  | cons group groups => nofun

/-- Behind the groups of the pattern the next end of a group is the end of the one around it. -/
theorem within_closeGroup?_leave (h : state.groups = []) :
    (state.within outer).closeGroup? = some (state.leave outer) := by
  obtain ⟨groups, branches, parts, modes, names⟩ := state
  cases h
  rfl

theorem within_repeat? (least : Nat) (most : Option Nat) :
    (state.within outer).repeat? least most =
      (state.repeat? least most).map (within outer) := by
  obtain ⟨groups, branches, parts, modes, names⟩ := state
  cases parts with
  | nil => rfl
  | cons part parts =>
    simp only [repeat?, within]
    split <;> rfl

theorem within_openWith (opening : Opening) :
    openWith (state.within outer) opening = (openWith state opening).map (within outer) := by
  cases opening with
  | switch modes => rfl
  | group modes name =>
    cases name with
    | none => rfl
    | some name =>
      cases hname : state.names.contains name <;> simp only [openWith, within, hname] <;> rfl

/-- Only the end of a group takes groups away. -/
theorem repeat?_groups {least : Nat} {most : Option Nat} {next : State}
    (h : state.repeat? least most = some next) : next.groups = state.groups := by
  rw [repeat?.eq_def] at h
  split at h
  · split at h
    · cases h
      rfl
    · cases h
  · cases h

theorem openWith_groups {opening : Opening} {next : State}
    (h : openWith state opening = some next) : state.groups <:+ next.groups := by
  rw [openWith.eq_def] at h
  split at h
  · cases h
    exact List.suffix_rfl
  · cases h
    exact List.suffix_cons _ _
  · split at h
    · cases h
    · cases h
      exact List.suffix_cons _ _

end State

/-! ## Steps -/

/-- The outcomes of a step in the pattern alone, put into a group. -/
def inGroup (outer : OpenGroup) (outcome : Option (State × List Char)) :
    Option (State × List Char) :=
  outcome.map fun p ↦ (p.1.within outer, p.2)

theorem dropLazy_append (cs : List Char) : dropLazy (cs ++ closing) = dropLazy cs ++ closing := by
  cases cs with
  | nil => rfl
  | cons c cs =>
    by_cases hlazy : c = '?'
    · subst hlazy
      rfl
    · have hplain (rest : List Char) : dropLazy (c :: rest) = c :: rest := by
        rw [dropLazy.eq_def]
        split
        · next heq => exact absurd (List.cons.inj heq).1 hlazy
        · rfl
      rw [List.cons_append, hplain, hplain, List.cons_append]

/-- What is left behind a step that needs the closing signs. -/
def UsedByStep (next : State) (rest : List Char) : Prop :=
  rest <:+ ['$'] ∨ IsLeftForCounts next.modes rest

theorem inGroup_bind {α : Type} {Used : α → List Char → Prop} {outer : OpenGroup}
    {a b : Option (α × List Char)} (h : LocalAt Used a b)
    {f g : α × List Char → Option (State × List Char)}
    (hf : ∀ x rest, LocalAt UsedByStep (inGroup outer (f (x, rest))) (g (x, rest ++ closing)))
    (hg : ∀ x rest next rest', Used x rest → g (x, rest) = some (next, rest') →
      UsedByStep next rest') :
    LocalAt UsedByStep (inGroup outer (a >>= f)) (b >>= g) := by
  have hbind : inGroup outer (a >>= f) = a >>= fun p ↦ inGroup outer (f p) := by
    cases a <;> rfl
  rw [hbind]
  exact h.bind (fun x rest _ ↦ hf x rest) hg

/-- A state that is found without looking at the rest. -/
theorem inGroup_checked (outer : OpenGroup) (o : Option State) (rest : List Char) :
    LocalAt UsedByStep (inGroup outer (o >>= fun next ↦ pure (next, rest)))
      (o.map (State.within outer) >>= fun next ↦ pure (next, rest ++ closing)) := by
  cases o with
  | none => exact .none
  | some next => exact .done (next.within outer) rest

/-- A step in a group is the step without it, unless it needs the closing signs or ends the group
itself. -/
theorem step_within (outer : OpenGroup) (state : State) {c : Char} (cs : List Char)
    (h : c ≠ ')' ∨ state.groups ≠ []) :
    LocalAt UsedByStep (inGroup outer (step state c cs))
      (step (state.within outer) c (cs ++ closing)) := by
  rw [step.eq_def, step.eq_def]
  -- one case for each sign; a sign that reads on is local by its own reader
  split
  case h_1 =>
    refine inGroup_bind (readOpening_local state.modes cs) (fun opening rest ↦ ?_) ?_
    · simp only [State.within_openWith]
      exact inGroup_checked outer (openWith state opening) rest
    · intro opening rest next rest' hspent hnext
      exact .inl ((checked_suffix (k := id) hnext).trans hspent)
  case h_2 =>
    rw [State.within_closeGroup? outer state (h.resolve_left (absurd rfl))]
    exact inGroup_checked outer state.closeGroup? cs
  case h_4 =>
    refine inGroup_bind (readSet_local state.modes cs) (fun chars rest ↦ .done _ rest) ?_
    intro chars rest next rest' hspent hnext
    cases hnext
    exact .inl hspent
  case h_5 | h_6 | h_7 =>
    rw [State.within_repeat?, dropLazy_append]
    exact inGroup_checked outer _ (dropLazy cs)
  case h_8 =>
    refine inGroup_bind (readCounts_local state.modes cs) (fun counts rest ↦ ?_) ?_
    · simp only [State.within_repeat?]
      exact inGroup_checked outer (state.repeat? counts.1 counts.2) rest
    · intro counts rest next rest' hspent hnext
      exact .inl ((checked_suffix (k := id) hnext).trans hspent)
  case h_9 =>
    refine inGroup_bind (readEscape_local state.modes cs) (fun primitive rest ↦ .done _ rest) ?_
    intro primitive rest next rest' hused hnext
    cases hnext
    exact hused.imp_right And.right
  case h_10 =>
    change LocalAt UsedByStep (inGroup outer (anyChar state.modes >>= _))
      (anyChar state.modes >>= _)
    cases anyChar state.modes with
    | none => exact .none
    | some chars => exact .done _ cs
  all_goals exact .done _ cs

/-- No sign but a closing parenthesis takes groups away. -/
theorem step_groups {state next : State} {c : Char} {cs rest : List Char} (hc : c ≠ ')')
    (h : step state c cs = some (next, rest)) : state.groups <:+ next.groups := by
  cases moves_of_step h with
  | leaf | branched => exact List.suffix_rfl
  | repeated _ hnext => exact State.repeat?_groups state hnext ▸ List.suffix_rfl
  | opened hnext => exact State.openWith_groups state hnext
  | closed => exact absurd rfl hc

/-! ## Readings of the rest -/

theorem run_end {state : State} {cs : List Char} (h : state.modes.skip cs = [])
    (rounds : List Char) : run rounds state cs = some state := by
  cases rounds with
  | nil =>
    rw [run, h]
    rfl
  | cons b rounds => rw [run, h]

theorem run_sign {state : State} {cs rest : List Char} {c : Char}
    (h : state.modes.skip cs = c :: rest) (b : Char) (rounds : List Char) :
    run (b :: rounds) state cs = step state c rest >>= fun p ↦ run rounds p.1 p.2 := by
  rw [run, h]
  simp only
  cases step state c rest <;> rfl

/-- The rounds are enough for what is there; nothing else matters about them. -/
theorem run_rounds {rounds rounds' cs : List Char} (h : cs.length ≤ rounds.length)
    (h' : cs.length ≤ rounds'.length) (state : State) :
    run rounds state cs = run rounds' state cs := by
  induction rounds generalizing rounds' cs state with
  | nil =>
    obtain rfl := List.eq_nil_of_length_eq_zero (Nat.le_zero.mp h)
    rw [run_end state.modes.skip_nil, run_end state.modes.skip_nil]
  | cons b rounds ih =>
    cases hsign : state.modes.skip cs with
    | nil => rw [run_end hsign, run_end hsign]
    | cons c rest =>
      have hrest := Modes.rest_length_lt hsign
      obtain ⟨b', rounds', rfl⟩ := List.exists_cons_of_length_pos (l := rounds')
        (Nat.lt_of_lt_of_le (Nat.zero_lt_of_lt hrest) h')
      rw [run_sign hsign, run_sign hsign]
      cases hstep : step state c rest with
      | none => rfl
      | some p =>
        have hafter := (step_suffix hstep).length_le
        simp only [List.length_cons] at h h'
        exact ih (by omega) (by omega) p.1

theorem readFrom_end {state : State} {cs : List Char} (h : state.modes.skip cs = []) :
    readFrom state cs = state.finish? := by
  rw [readFrom, run_end h]
  rfl

theorem readFrom_sign {state : State} {cs rest : List Char} {c : Char}
    (h : state.modes.skip cs = c :: rest) :
    readFrom state cs = step state c rest >>= fun p ↦ readFrom p.1 p.2 := by
  have hrest := Modes.rest_length_lt h
  obtain ⟨d, tail, rfl⟩ := List.exists_cons_of_length_pos (Nat.zero_lt_of_lt hrest)
  rw [readFrom, run_sign h]
  cases hstep : step state c rest with
  | none => rfl
  | some p =>
    have hafter := (step_suffix hstep).length_le
    simp only [List.length_cons] at hrest
    change (run tail p.1 p.2 >>= State.finish?) = readFrom p.1 p.2
    rw [readFrom, run_rounds (by omega) (Nat.le_refl _)]

/-- A group stays open where there is no closing parenthesis. -/
theorem run_open {rounds cs : List Char} {state final : State} (h : ')' ∉ cs)
    (hgroups : state.groups ≠ []) (hrun : run rounds state cs = some final) :
    final.groups ≠ [] := by
  induction rounds generalizing state cs with
  | nil =>
    rw [run] at hrun
    split at hrun
    · cases hrun
      exact hgroups
    · cases hrun
  | cons b rounds ih =>
    cases hsign : state.modes.skip cs with
    | nil =>
      rw [run_end hsign] at hrun
      cases hrun
      exact hgroups
    | cons c rest =>
      rw [run_sign hsign] at hrun
      obtain ⟨⟨next, after⟩, hstep, hrun⟩ := bind_eq_some hrun
      -- every sign is taken from the rest, in which no closing parenthesis is
      have hsuffix := hsign ▸ state.modes.skip_suffix cs
      have hc : c ≠ ')' := by
        rintro rfl
        exact h (hsuffix.subset List.mem_cons_self)
      refine ih (fun hmem ↦ h ?_) (fun hnil ↦ hgroups ?_) hrun
      · exact hsuffix.subset (List.mem_cons_of_mem c ((step_suffix hstep).subset hmem))
      · exact List.suffix_nil.mp (hnil ▸ step_groups hc hstep)

theorem readFrom_open {state : State} {cs : List Char} (h : ')' ∉ cs)
    (hgroups : state.groups ≠ []) : readFrom state cs = none := by
  rw [readFrom]
  cases hrun : run cs state cs with
  | none => rfl
  | some final =>
    exact if_neg fun hnil ↦ run_open h hgroups hrun (List.isEmpty_iff.mp hnil)

/-- What is left behind a step that needs the closing signs cannot be read to the end of a
group. -/
theorem readFrom_used {state : State} {cs : List Char} (h : UsedByStep state cs)
    (hgroups : state.groups ≠ []) : readFrom state cs = none := by
  rcases h with hspent | ⟨tail, rfl, htail⟩
  · refine readFrom_open (fun hmem ↦ ?_) hgroups
    exact absurd (List.mem_singleton.mp (hspent.subset hmem)) (by decide)
  · have hsign : state.modes.skip ('\x7b' :: tail) = '\x7b' :: tail := by
      unfold Modes.skip
      split <;> rfl
    rw [readFrom_sign hsign, step, readCounts_atClosing htail]
    rfl

/-- A step that is refused alone, and does not end the group, leads to no end of the group. -/
theorem readFrom_refused (outer : OpenGroup) {state next : State} {c : Char}
    {cs rest : List Char} (hopen : c ≠ ')' ∨ state.groups ≠ [])
    (halone : step state c cs = none)
    (hgroup : step (state.within outer) c (cs ++ closing) = some (next, rest)) :
    readFrom next rest = none := by
  have hc : c ≠ ')' := by
    rintro rfl
    have hgroups := hopen.resolve_left (absurd rfl)
    cases hclose : state.closeGroup? with
    | none => exact state.closeGroup?_ne_none hgroups hclose
    | some closed =>
      rw [step, hclose] at halone
      cases halone
  have hstep := step_within outer state cs hopen
  rw [halone] at hstep
  refine readFrom_used (hstep.used rfl hgroup) fun hnil ↦ ?_
  exact State.within_groups_ne_nil outer state
    (List.suffix_nil.mp (hnil ▸ step_groups hc hgroup))

/-! ## The end of the group around a pattern -/

/-- Where the reading of a pattern stops inside a group around it: at the end, or in front of a
closing parenthesis that is not the pattern's own. -/
def stop : (rounds : List Char) → State → List Char → Option (State × List Char)
  | [], state, cs => some (state, cs)
  | _ :: rounds, state, cs =>
    match state.modes.skip cs with
    | [] => some (state, cs)
    | c :: rest =>
      if c = ')' ∧ state.groups.isEmpty then some (state, cs)
      else step state c rest >>= fun p ↦ stop rounds p.1 p.2

/-- The reading behind the place where the pattern stops inside its group. -/
def resume (outer : OpenGroup) (state : State) (cs : List Char) : Option (Deep Regex) :=
  match state.modes.skip cs with
  | _ :: rest => readFrom (state.leave outer) (rest ++ closing)
  | [] =>
    if state.groups.isEmpty && !state.modes.opensComment cs then
      readFrom (state.leave outer) ['$']
    else none

theorem stop_end {state : State} {cs : List Char} (h : state.modes.skip cs = [])
    (rounds : List Char) : stop rounds state cs = some (state, cs) := by
  cases rounds with
  | nil => rfl
  | cons b rounds => rw [stop, h]

theorem stop_closing {state : State} {cs rest : List Char} (h : state.modes.skip cs = ')' :: rest)
    (hgroups : state.groups = []) (rounds : List Char) :
    stop rounds state cs = some (state, cs) := by
  cases rounds with
  | nil => rfl
  | cons b rounds =>
    rw [stop, h]
    exact if_pos ⟨rfl, List.isEmpty_iff.mpr hgroups⟩

theorem stop_sign {state : State} {cs rest : List Char} {c : Char}
    (h : state.modes.skip cs = c :: rest) (hc : c ≠ ')' ∨ state.groups ≠ []) (b : Char)
    (rounds : List Char) :
    stop (b :: rounds) state cs = step state c rest >>= fun p ↦ stop rounds p.1 p.2 := by
  rw [stop, h]
  exact if_neg fun ⟨heq, hnil⟩ ↦ hc.elim (absurd heq) (absurd (List.isEmpty_iff.mp hnil))

/-- Alone a pattern has an expression if it stops at its end, with no group open. -/
theorem run_eq_stop {rounds cs : List Char} (h : cs.length ≤ rounds.length) (state : State) :
    (run rounds state cs >>= State.finish?) =
      stop rounds state cs >>= fun p ↦
        if (p.1.modes.skip p.2).isEmpty then p.1.finish? else none := by
  have hend (rounds : List Char) {state : State} {cs : List Char}
      (hnone : state.modes.skip cs = []) :
      (run rounds state cs >>= State.finish?) =
        stop rounds state cs >>= fun p ↦
          if (p.1.modes.skip p.2).isEmpty then p.1.finish? else none := by
    rw [run_end hnone, stop_end hnone]
    change _ = if (state.modes.skip cs).isEmpty then _ else _
    rw [hnone]
    rfl
  induction rounds generalizing state cs with
  | nil =>
    obtain rfl := List.eq_nil_of_length_eq_zero (Nat.le_zero.mp h)
    exact hend [] state.modes.skip_nil
  | cons b rounds ih =>
    cases hsign : state.modes.skip cs with
    | nil => exact hend (b :: rounds) hsign
    | cons c rest =>
      rw [run_sign hsign]
      by_cases hclosing : c = ')' ∧ state.groups = []
      · obtain ⟨rfl, hgroups⟩ := hclosing
        rw [stop_closing hsign hgroups]
        change _ = if (state.modes.skip cs).isEmpty then _ else _
        rw [hsign, step, State.closeGroup?, hgroups]
        rfl
      · rw [stop_sign hsign (Classical.not_and_iff_not_or_not.mp hclosing)]
        cases hstep : step state c rest with
        | none => rfl
        | some p =>
          have hrest := Modes.rest_length_lt hsign
          have hafter := (step_suffix hstep).length_le
          simp only [List.length_cons] at h
          exact ih (by omega) p.1

/-- Where a pattern ends inside a group, the group around it is closed, unless a group of the
pattern or a comment is open. -/
theorem readFrom_within_end (outer : OpenGroup) {state : State} {cs : List Char}
    (hnone : state.modes.skip cs = []) :
    readFrom (state.within outer) (cs ++ closing) = resume outer state cs := by
  have hopen := State.within_groups_ne_nil outer
  have hclosing : (state.within outer).modes.skip (cs ++ closing) =
      if state.modes.opensComment cs then [] else closing := by
    rcases state.modes.skip_append cs with ⟨c, rest, hsign, -⟩ | ⟨-, hclosing⟩
    · cases hnone.symm.trans hsign
    · exact hclosing
  rw [resume, hnone]
  cases hcomment : state.modes.opensComment cs with
  | true =>
    rw [hcomment] at hclosing
    rw [readFrom_end hclosing, State.finish?, Bool.not_true, Bool.and_false]
    exact if_neg fun hnil ↦ hopen state (List.isEmpty_iff.mp hnil)
  | false =>
    rw [hcomment] at hclosing
    rw [readFrom_sign hclosing, step, Bool.not_false, Bool.and_true]
    cases hgroups : state.groups with
    | nil =>
      rw [State.within_closeGroup?_leave outer state hgroups]
      rfl
    | cons group groups =>
      rw [State.within_closeGroup? outer state (hgroups ▸ List.cons_ne_nil group groups)]
      cases state.closeGroup? with
      | none => rfl
      | some closed =>
        have hdollar : ')' ∉ ['$'] := by decide
        exact readFrom_open hdollar (hopen closed)

/-- In a group a pattern is read to the same place, and on behind the group. -/
theorem readFrom_within (outer : OpenGroup) {rounds cs : List Char}
    (h : cs.length ≤ rounds.length) (state : State) :
    readFrom (state.within outer) (cs ++ closing) =
      stop rounds state cs >>= fun p ↦ resume outer p.1 p.2 := by
  induction rounds generalizing state cs with
  | nil =>
    obtain rfl := List.eq_nil_of_length_eq_zero (Nat.le_zero.mp h)
    rw [stop_end state.modes.skip_nil]
    exact readFrom_within_end outer state.modes.skip_nil
  | cons b rounds ih =>
    rcases state.modes.skip_append cs with ⟨c, rest, hsign, hsign'⟩ | ⟨hnone, -⟩
    · have hwithin : (state.within outer).modes.skip (cs ++ closing) = c :: (rest ++ closing) :=
        hsign'
      rw [readFrom_sign hwithin]
      by_cases hclosing : c = ')' ∧ state.groups = []
      -- here the two readings part: alone the parenthesis is refused, in the group it ends it
      · obtain ⟨rfl, hgroups⟩ := hclosing
        rw [stop_closing hsign hgroups, step, State.within_closeGroup?_leave outer state hgroups]
        change _ = resume outer state cs
        rw [resume, hsign]
        rfl
      · have hopen := Classical.not_and_iff_not_or_not.mp hclosing
        rw [stop_sign hsign hopen]
        cases halone : step state c rest with
        | none =>
          cases hgroup : step (state.within outer) c (rest ++ closing) with
          | none => rfl
          | some p => exact readFrom_refused outer hopen halone hgroup
        | some p =>
          obtain ⟨next, after⟩ := p
          have hstep := step_within outer state rest hopen
          rw [halone] at hstep
          rw [hstep.append rfl]
          have hrest := Modes.rest_length_lt hsign
          have hafter := (step_suffix halone).length_le
          simp only [List.length_cons] at h
          have hlength : after.length ≤ rounds.length := by omega
          exact ih hlength next
    · rw [stop_end hnone]
      exact readFrom_within_end outer hnone

end TenantView.Regex
