import TenantView.Document.Labels
import TenantView.Proofs.Json.Skipping

/-!
# Two ways to the same contents

A shape is read straight from the bytes of a document, or taken from a value that has been read
already.  `Codec.Agrees` says that both accept the same documents without repeated names and come to
the same contents: from the bytes of a value either both take the same, and the reader leaves what
stands behind the value, or both refuse.  What they say when they refuse may differ, because only
the reader knows positions and stops at the first fault.  This file has the plain shapes, lists and
label sets.
-/

namespace TenantView.Document

open TenantView.Json

/-! ## Agreement -/

/-- The reader yields what the value is taken for and leaves the given bytes, or both refuse. -/
inductive AgreesAt {α : Type} (rest : Bytes) : Outcome α → Except Cause α → Prop
  | done (x : α) : AgreesAt rest (.done x rest) (.ok x)
  | failed (fault : Fault) (left : Bytes) (cause : Cause) :
    AgreesAt rest (.failed fault left) (.error cause)

namespace AgreesAt

variable {α β : Type} {rest rest' : Bytes} {outcome : Outcome α} {result : Except Cause α}

/-- The two ways to agree, as equations. -/
theorem cases (h : AgreesAt rest outcome result) :
    (∃ x, outcome = .done x rest ∧ result = .ok x) ∨
      (∃ fault left cause, outcome = .failed fault left ∧ result = .error cause) := by
  cases h with
  | done x => exact .inl ⟨x, rfl, rfl⟩
  | failed fault left cause => exact .inr ⟨fault, left, cause, rfl, rfl⟩

theorem map (h : AgreesAt rest outcome result) (f : α → β) :
    AgreesAt rest (outcome.map f) (result.map f) := by
  cases h with
  | done x => exact .done (f x)
  | failed fault left cause => exact .failed fault left cause

theorem andThen (h : AgreesAt rest outcome result) {next : α → Reader β}
    {further : α → Except Cause β} (hnext : ∀ x, AgreesAt rest' (next x rest) (further x)) :
    AgreesAt rest' (outcome.andThen next) (result >>= further) := by
  cases h with
  | done x => exact hnext x
  | failed fault left cause => exact .failed fault left cause

/-- What has been taken from a text or a number agrees with itself. -/
theorem made (made : Except Cause α) (rest : Bytes) :
    AgreesAt rest (match made with
      | .ok x => .done x rest
      | .error cause => failHere cause rest) made := by
  cases made with
  | ok x => exact .done x
  | error cause => exact .failed _ _ cause

/-- The same where the place of a refusal is left open. -/
theorem finished (made : Except Cause α) (rest : Bytes) :
    AgreesAt rest (match made with
      | .ok x => .done x rest
      | .error cause => failUnplaced cause rest) made := by
  cases made with
  | ok x => exact .done x
  | error cause => exact .failed _ _ cause

/-- Behind brackets that close where the inside ends. -/
theorem placed {close : Reader Unit} (h : AgreesAt rest (outcome.closedBy close) result) :
    AgreesAt rest (outcome.closedBy close).placed result := by
  generalize outcome.closedBy close = closed at h
  cases h with
  | done x => exact .done x
  | failed fault left cause =>
    obtain ⟨cause', place⟩ := fault
    cases place <;> exact .failed _ _ cause

theorem closedBy {close : Reader Unit} (h : AgreesAt rest outcome result)
    (hclose : close rest = .done () rest') : AgreesAt rest' (outcome.closedBy close) result := by
  cases h with
  | done x =>
    rw [Outcome.closedBy, hclose]
    exact .done x
  | failed fault left cause =>
    rw [Outcome.closedBy]
    split <;> exact .failed _ _ cause

end AgreesAt

/-- A reader of a shape and the decoder of that shape accept the same values and agree on them. -/
def Codec.Agrees {α : Type} (c : Codec α) : Prop :=
  ∀ ⦃levels : Nat⦄ ⦃bytes rest : Bytes⦄ ⦃v : Value⦄, readTree levels bytes = .done v rest →
    v.Distinct → AgreesAt rest (c.read levels bytes) (c.decode .parsed v)

/-- What is taken from a value is read from its text. -/
theorem Codec.Agrees.takes {α : Type} {c : Codec α} (hc : c.Agrees) {levels : Nat} {v : Value}
    {x : α} (hdepth : v.depth ≤ levels) (hdistinct : v.Distinct)
    (h : c.decode .parsed v = .ok x) : Takes (c.read levels) v x := by
  intro rest hrest
  rcases (hc (readTree_emit levels v hdepth rest hrest) hdistinct).cases with
    ⟨y, hread, hy⟩ | ⟨fault, left, cause, -, hcause⟩
  · rw [hread, Except.ok.inj (hy.symm.trans h)]
  · exact absurd (hcause.symm.trans h) nofun

/-- Nothing is read where a part is refused, whatever is in front. -/
theorem refuseNext_agrees {α : Type} (expected : Expected) (bytes : Bytes) (v : Value)
    (rest : Bytes) : AgreesAt (α := α) rest (refuseNext expected bytes) (refuse expected v) := by
  have hfails : ∃ fault left, (refuseNext expected bytes : Outcome α) = .failed fault left := by
    have hwrong : ∀ {β : Type} (outcome : Outcome β) (found : β → Found),
        ∃ fault left, (outcome.andThen fun x ↦ (failHere (.wrongKind (found x) expected) :
          Reader α)) = .failed fault left := by
      intro β outcome found
      cases outcome <;> exact ⟨_, _, rfl⟩
    rw [refuseNext]
    split
    case h_1 | h_6 | h_7 => exact ⟨_, _, rfl⟩
    case h_8 =>
      split
      · exact hwrong _ _
      · exact ⟨_, _, rfl⟩
    all_goals exact hwrong _ _
  obtain ⟨fault, left, heq⟩ := hfails
  rw [heq]
  exact .failed _ _ _

/-! ## Texts and numbers -/

namespace Codec

/-- What is made of a text, where the value is one. -/
def takeText {α : Type} (expected : Expected) (make : String → Except Cause α) :
    Value → Except Cause α
  | .string s => make s
  | v => refuse expected v

theorem readTextAs_agrees {α : Type} (expected : Expected) (make : String → Except Cause α)
    {levels : Nat} {bytes rest : Bytes} {v : Value} (h : readTree levels bytes = .done v rest) :
    AgreesAt rest (readTextAs expected make bytes) (takeText expected make v) := by
  have hfront := valueAt_of_readTree h
  rw [readTextAs]
  split
  · next heq =>
    obtain ⟨s, rfl, htext⟩ := (heq ▸ hfront).of_quote
    rw [htext]
    exact .made (make s) rest
  · next hother =>
    generalize skipBlanks bytes = front at hfront hother ⊢
    cases hfront with
    | string _ => exact absurd rfl (hother _)
    | _ => exact refuseNext_agrees expected _ _ rest

theorem text_agrees : text.Agrees := by
  intro levels bytes rest v h _
  have hread := readTextAs_agrees .text .ok h
  cases v <;> exact hread

theorem timestamp_agrees : timestamp.Agrees := by
  intro levels bytes rest v h _
  have hread := readTextAs_agrees .timestamp parseTimestamp h
  cases v <;> exact hread

/-- What is made of a number, where the value is one. -/
def takeNumber {α : Type} (expected : Expected) (make : Number → Except Cause α) :
    Value → Except Cause α
  | .number n => make n
  | v => refuse expected v

theorem readNumberAs_agrees {α : Type} (expected : Expected) (make : Number → Except Cause α)
    {levels : Nat} {bytes rest : Bytes} {v : Value} (h : readTree levels bytes = .done v rest) :
    AgreesAt rest (readNumberAs expected make bytes) (takeNumber expected make v) := by
  have hfront := valueAt_of_readTree h
  rw [readNumberAs]
  generalize skipBlanks bytes = front at hfront
  split
  · split
    · next hstart =>
      obtain ⟨n, rfl, hnumber⟩ := hfront.of_numberStart hstart
      rw [hnumber]
      exact .made (make n) rest
    · next hother =>
      cases hfront with
      | number hstart _ => exact absurd hstart hother
      | _ => exact refuseNext_agrees expected _ _ rest
  · cases hfront

theorem real_agrees : real.Agrees := by
  intro levels bytes rest v h _
  have hread := readNumberAs_agrees .real (fun n ↦ .ok n.toDouble) h
  cases v <;> exact hread

theorem natural_agrees : natural.Agrees := by
  intro levels bytes rest v h _
  have hread := readNumberAs_agrees .natural naturalOf h
  cases v <;> exact hread

theorem opaqueValue_agrees : opaqueValue.Agrees := by
  intro levels bytes rest v h hdistinct
  change AgreesAt rest ((readTree levels bytes).map Value.collapse) (.ok v)
  rw [h, Outcome.map_done, Value.collapse_of_distinct v hdistinct]
  exact .done v

/-! ## Parts that may be null -/

section

variable {α : Type} {c : Codec α}

theorem readTree_skipBlanks (levels : Nat) (bytes : Bytes) :
    readTree levels (skipBlanks bytes) = readTree levels bytes := by
  rw [readTree_eq, readNode, skipBlanks_skipBlanks, readNode]

theorem nullable_agrees (hc : c.Agrees) : c.nullable.Agrees := by
  intro levels bytes rest v h hdistinct
  have hfront := valueAt_of_readTree h
  have hpart := (hc ((readTree_skipBlanks levels bytes).trans h) hdistinct).map some
  rw [nullable]
  simp only
  split
  · next heq =>
    obtain ⟨rfl, hkeyword⟩ := (heq ▸ hfront).of_lowerN
    rw [hkeyword]
    exact .done none
  · next hother =>
    generalize skipBlanks bytes = front at hfront hother hpart ⊢
    cases hfront with
    | null _ => exact absurd rfl (hother _)
    | _ => exact hpart

/-! ## Lists -/

/-- A reader of items agrees with what the items are taken for, up to the first refusal. -/
theorem readItems_agrees {item : Reader α} {take : Value → Except Cause α} {levels : Nat}
    (hitem : ∀ ⦃bytes rest v⦄, readTree levels bytes = .done v rest → v.Distinct →
      AgreesAt rest (item bytes) (take v))
    {first : Bool} {bytes rest : Bytes} {values : List Value}
    (h : ItemsAt (readTree levels) first bytes values rest) (hdistinct : ∀ v ∈ values, v.Distinct)
    {rounds : Bytes} (hrounds : values.length ≤ rounds.length) (taken : List α) :
    AgreesAt rest (readItems item rounds first taken bytes)
      ((decodeItems take values).map (taken.reverse ++ ·)) := by
  induction h generalizing rounds taken with
  | @stop first bytes rest hcloses =>
    rw [readItems, hcloses, decodeItems]
    change AgreesAt rest (.done taken.reverse rest) (.ok (taken.reverse ++ []))
    rw [List.append_nil]
    exact .done _
  | @item first bytes start next rest v values hfollows hhead _ ih =>
    obtain ⟨r, rounds, rfl⟩ := List.exists_cons_of_length_pos (Nat.zero_lt_of_lt hrounds)
    rw [readItems, hfollows, decodeItems]
    rcases (hitem hhead (hdistinct v List.mem_cons_self)).cases with
      ⟨x, hread, htake⟩ | ⟨fault, left, cause, hread, htake⟩
    · have hrest := ih (fun w hw ↦ hdistinct w (List.mem_cons_of_mem v hw))
        (Nat.le_of_succ_le_succ hrounds) (x :: taken)
      have hmap : ((take v >>= fun x ↦ decodeItems take values >>= fun xs ↦ .ok (x :: xs)).map
          (taken.reverse ++ ·)) = (decodeItems take values).map ((x :: taken).reverse ++ ·) := by
        rw [htake]
        change Except.map _ (decodeItems take values >>= _) = _
        cases decodeItems take values with
        | error cause => rfl
        | ok xs => exact congrArg Except.ok (by simp)
      simp only [hread]
      exact hmap ▸ hrest
    · simp only [hread, htake]
      exact .failed _ _ _

/-- The items between the brackets of a sequence, all of them. -/
theorem readSequence_agrees {item : Reader α} {take : Value → Except Cause α} {levels : Nat}
    (hitem : ∀ ⦃bytes rest v⦄, readTree levels bytes = .done v rest → v.Distinct →
      AgreesAt rest (item bytes) (take v))
    {first : Bool} {bytes rest : Bytes} {values : List Value}
    (h : ItemsAt (readTree levels) first bytes values rest) (hdistinct : ∀ v ∈ values, v.Distinct) :
    AgreesAt rest (readItems item bytes first [] bytes) (decodeItems take values) := by
  have hlength := h.length_le length_lt_of_readTree
  have hrounds : values.length ≤ bytes.length := by omega
  have hread := readItems_agrees hitem h hdistinct hrounds []
  generalize decodeItems take values = result at hread
  cases result <;> exact hread

theorem list_agrees (hc : c.Agrees) : (list c).Agrees := by
  intro levels bytes rest v h hdistinct
  have hfront := valueAt_of_readTree h
  rw [list]
  simp only
  split
  · next heq =>
    obtain ⟨inner, items, rfl, rfl, hitems⟩ := (heq ▸ hfront).of_openBracket
    have hread := readSequence_agrees (@hc inner) hitems (Value.distinctItems_iff.mp hdistinct)
    exact (hread.closedBy (closeSequence_closeBracket rest)).placed
  · next hother =>
    generalize skipBlanks bytes = front at hfront hother ⊢
    cases hfront with
    | array _ => exact absurd rfl (hother _)
    | _ => exact refuseNext_agrees .sequence _ _ rest

theorem listOrNull_agrees (hc : c.Agrees) : (listOrNull c).Agrees :=
  fun _ _ _ _ h hdistinct ↦ (nullable_agrees (list_agrees hc) h hdistinct).map _

end

/-! ## Members of a mapping -/

/-- A reader of members agrees with what the members are taken for, one after the other. -/
theorem readMembers_agrees {σ : Type} {member : σ → Reader σ}
    {take : σ → String × Value → Except Cause σ} {value : Reader Value}
    (hmember : ∀ {start colon content rest : Bytes} {name : String} {v : Value} (state : σ),
      readText start = .done name colon → readColon colon = .done () content →
      value content = .done v rest → v.Distinct →
        AgreesAt rest (member state start) (take state (name, v)))
    {first : Bool} {bytes rest : Bytes} {members : List (String × Value)}
    (h : MembersAt value first bytes members rest) (hdistinct : ∀ m ∈ members, m.2.Distinct)
    {rounds : Bytes} (hrounds : members.length ≤ rounds.length) (state : σ) :
    AgreesAt rest (readMembers member rounds first state bytes) (members.foldlM take state) := by
  induction h generalizing rounds state with
  | stop hcloses =>
    rw [readMembers, hcloses]
    exact .done state
  | @member first bytes start colon content next rest name v members hfollows hname hcolon hhead _
      ih =>
    obtain ⟨r, rounds, rfl⟩ := List.exists_cons_of_length_pos (Nat.zero_lt_of_lt hrounds)
    rw [readMembers, hfollows, List.foldlM_cons]
    rcases (hmember state hname hcolon hhead (hdistinct _ List.mem_cons_self)).cases with
      ⟨next, hread, htake⟩ | ⟨fault, left, cause, hread, htake⟩
    · simp only [hread, htake]
      exact ih (fun m hm ↦ hdistinct m (List.mem_cons_of_mem _ hm))
        (Nat.le_of_succ_le_succ hrounds) next
    · simp only [hread, htake]
      exact .failed _ _ _

/-- The members between the braces of a mapping, all of them. -/
theorem readMapping_agrees {σ : Type} {member : σ → Reader σ}
    {take : σ → String × Value → Except Cause σ} {levels : Nat}
    (hmember : ∀ {start colon content rest : Bytes} {name : String} {v : Value} (state : σ),
      readText start = .done name colon → readColon colon = .done () content →
      readTree levels content = .done v rest → v.Distinct →
        AgreesAt rest (member state start) (take state (name, v)))
    {bytes rest : Bytes} {members : List (String × Value)}
    (h : MembersAt (readTree levels) true bytes members rest)
    (hdistinct : Value.DistinctMembers members) (state : σ) :
    AgreesAt rest (readMembers member bytes true state bytes) (members.foldlM take state) := by
  have hrounds := h.length_le length_lt_of_readTree
  exact readMembers_agrees hmember h (Value.distinctMembers_iff.mp hdistinct) (by omega) state

/-- Takes one label into a label set. -/
def takeLabel (source : Source) (labels : LabelSet) (m : String × Value) : Except Cause LabelSet :=
  (text.decode source m.2).map fun value ↦ labels.insert m.1 value

theorem decodeLabels_eq_foldlM (source : Source) (members : List (String × Value))
    (labels : LabelSet) :
    decodeLabels source members labels = members.foldlM (takeLabel source) labels := by
  induction members generalizing labels with
  | nil => rfl
  | cons m members ih =>
    rw [decodeLabels, List.foldlM_cons, takeLabel]
    cases text.decode source m.2 with
    | error cause => rfl
    | ok value => exact ih _

theorem readLabel_agrees {levels : Nat} {start colon content rest : Bytes} {name : String}
    {v : Value} (labels : LabelSet) (hname : readText start = .done name colon)
    (hcolon : readColon colon = .done () content) (hvalue : readTree levels content = .done v rest)
    (hdistinct : v.Distinct) :
    AgreesAt rest (readLabel levels labels start) (takeLabel .parsed labels (name, v)) := by
  rw [readLabel, hname, Outcome.andThen_done, hcolon, Outcome.andThen_done]
  exact (text_agrees hvalue hdistinct).map _

theorem labelMapping_agrees : labelMapping.Agrees := by
  intro levels bytes rest v h hdistinct
  have hfront := valueAt_of_readTree h
  rw [labelMapping]
  simp only
  split
  · next heq =>
    obtain ⟨inner, members, rfl, rfl, hmembers⟩ := (heq ▸ hfront).of_openBrace
    have hread := readMapping_agrees readLabel_agrees hmembers hdistinct.2 LabelSet.empty
    simp only [decodeLabels_eq_foldlM]
    exact (hread.closedBy (closeMapping_closeBrace rest)).placed
  · next hother =>
    generalize skipBlanks bytes = front at hfront hother ⊢
    cases hfront with
    | object _ => exact absurd rfl (hother _)
    | _ => exact refuseNext_agrees .mapping _ _ rest

theorem labels_agrees : labels.Agrees :=
  fun _ _ _ _ h hdistinct ↦ (nullable_agrees labelMapping_agrees h hdistinct).map _

end Codec

end TenantView.Document
