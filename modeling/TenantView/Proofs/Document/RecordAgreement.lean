import TenantView.Document.Envelope
import TenantView.Document.Listing
import TenantView.Proofs.Document.Agreement
import TenantView.Proofs.Document.RecordRoundTrip

/-!
# Records read in two ways

A record is read straight from bytes as it is taken from a value (`Codec.record_agrees`), if its
fields are.  As a mapping it goes member by member, and a member of an unknown name is passed over
(`Record.readSlot_agrees`); as a sequence it goes field by field, and an item that is left over is
noticed at the closing bracket (`Record.readItems_agrees`).  A rule is split into its kind and the
rest before it is taken, in both ways.  So all documents agree, up to the envelope.
-/

namespace TenantView.Document

open TenantView.Json

namespace Record

/-- Each field is read as it is taken. -/
def Agrees : {β σ : Type} → Record β σ → Prop
  | _, _, done => True
  | _, _, field f rest => f.codec.Agrees ∧ rest.Agrees

variable {levels : Nat} {rest : Bytes}

/-! ## Fields by name -/

section Slots

variable {α β σ : Type} (f : Field α) (further : Record β σ)

theorem readSlot_self (slots : σ) (bytes : Bytes) :
    (field f further).readSlot levels f.name (none, slots) bytes =
      (readColon bytes).andThen fun () bytes ↦
        (f.codec.read levels bytes).map fun x ↦ (some x, slots) :=
  if_pos rfl

theorem readSlot_self_filled (x : α) (slots : σ) (bytes : Bytes) :
    (field f further).readSlot levels f.name (some x, slots) bytes =
      failUnplaced (.duplicateField f.name) bytes :=
  if_pos rfl

theorem readSlot_of_ne {name : String} (h : name ≠ f.name) (slot : Option α) (slots : σ)
    (bytes : Bytes) :
    (field f further).readSlot levels name (slot, slots) bytes =
      (further.readSlot levels name slots bytes).map fun slots ↦ (slot, slots) :=
  if_neg h

end Slots

/-- A member is read into its slot as its value is taken into it, and an unknown one is passed
over. -/
theorem readSlot_agrees {β σ : Type} (r : Record β σ) (hr : r.Agrees) {colon content : Bytes}
    (name : String) {v : Value} (hcolon : readColon colon = .done () content)
    (hvalue : readTree levels content = .done v rest) (hdistinct : v.Distinct) (slots : σ) :
    AgreesAt rest (r.readSlot levels name slots colon) (r.decodeSlot .parsed name v slots) := by
  induction r with
  | done =>
    change AgreesAt rest ((readColon colon).andThen fun () rest ↦ skipValue rest) (.ok ())
    rw [hcolon, Outcome.andThen_done, skipValue_of_readTree hvalue]
    exact .done ()
  | field f further ih =>
    obtain ⟨slot, slots⟩ := slots
    by_cases heq : name = f.name
    · subst heq
      cases slot with
      | some x =>
        rw [readSlot_self_filled, decodeSlot_self_filled]
        exact .failed _ _ _
      | none =>
        rw [readSlot_self, decodeSlot_self, hcolon, Outcome.andThen_done]
        exact (hr.1 hvalue hdistinct).map _
    · rw [readSlot_of_ne f further heq, decodeSlot_of_ne f further .parsed v heq]
      exact (ih hr.2 slots).map _

theorem decodeMembers_eq_foldlM {β σ : Type} (r : Record β σ) (source : Source)
    (members : List (String × Value)) (slots : σ) :
    r.decodeMembers source members slots =
      members.foldlM (fun slots m ↦ r.decodeSlot source m.1 m.2 slots) slots := by
  induction members generalizing slots with
  | nil => rfl
  | cons m members ih =>
    rw [decodeMembers, List.foldlM_cons]
    exact bind_congr ih

theorem readMapping_agrees {β σ : Type} (r : Record β σ) (hr : r.Agrees) {bytes : Bytes}
    {members : List (String × Value)} (h : MembersAt (readTree levels) true bytes members rest)
    (hdistinct : Value.DistinctMembers members) :
    AgreesAt rest (r.readMapping levels bytes)
      (r.decodeMembers .parsed members r.emptySlots >>= r.finish) := by
  rw [decodeMembers_eq_foldlM, readMapping]
  refine AgreesAt.andThen ?_ fun slots ↦ .finished (r.finish slots) rest
  refine Codec.readMapping_agrees ?_ h hdistinct r.emptySlots
  intro start colon content behind name v slots hname hcolon hvalue hv
  rw [readMember, hname, Outcome.andThen_done]
  exact r.readSlot_agrees hr name hcolon hvalue hv slots

/-! ## Fields by place -/

/-- Where an item follows, the closing bracket is not next. -/
theorem closeSequence_fails {first : Bool} {bytes start : Bytes}
    (h : readItemStart first bytes = .done true start) :
    ∃ fault left, closeSequence bytes = .failed fault left := by
  have hnext : ∀ tail, skipBlanks bytes ≠ Ascii.closeBracket :: tail := by
    intro tail heq
    obtain ⟨hstart, ⟨-, hblanks⟩ | ⟨-, behind, hcomma, -⟩⟩ := readItemStart_eq_true h
    · exact hstart tail (hblanks.symm.trans heq)
    · exact absurd (List.cons.inj (hcomma.symm.trans heq)).1 (by decide)
  rw [closeSequence]
  split
  · exact ⟨_, _, rfl⟩
  · next heq => exact absurd heq (hnext _)
  · split <;> exact ⟨_, _, rfl⟩
  · exact ⟨_, _, rfl⟩

theorem closeSequence_of_stop {first : Bool} {bytes : Bytes}
    (h : readItemStart first bytes = .done false (Ascii.closeBracket :: rest)) :
    closeSequence bytes = .done () rest := by
  obtain ⟨behind, heq, hclose⟩ := readItemStart_eq_false h
  cases heq
  rw [closeSequence, hclose]
  rfl

/-- The fields of a sequence if no items are left over. -/
def exactly {β : Type} (source : Source) (total : Nat) (taken : β × List Value) : Except Cause β :=
  if taken.2.isEmpty then .ok taken.1
  else .error (source.tooLong (total - taken.2.length) total)

theorem bind_exactly {α β : Type} (source : Source) (total : Nat) (x : α)
    (taken : Except Cause (β × List Value)) :
    (taken >>= fun p ↦ .ok ((x, p.1), p.2)) >>= exactly source total =
      (taken >>= exactly source total).map fun y ↦ (x, y) := by
  cases taken with
  | error cause => rfl
  | ok p =>
    change exactly source total ((x, p.1), p.2) = (exactly source total p).map _
    rw [exactly, exactly]
    split <;> rfl

theorem closedBy_map {α β : Type} (f : α → β) (close : Reader Unit) (outcome : Outcome α) :
    (outcome.map f).closedBy close = (outcome.closedBy close).map f := by
  cases outcome with
  | done x left =>
    rw [Outcome.map_done, Outcome.closedBy, Outcome.closedBy]
    split <;> rfl
  | failed fault left =>
    rw [Outcome.map, Outcome.closedBy, Outcome.closedBy]
    split <;> rfl

section

variable {α β σ : Type} (f : Field α) (further : Record β σ) (complaint : Nat → Cause)
  (place : Nat) {bytes start : Bytes}

/-- The content of the field at an item. -/
theorem readItems_item (hfollows : readItemStart (place == 0) bytes = .done true start) :
    (field f further).readItems levels complaint place bytes =
      (f.codec.read levels start).andThen fun x bytes ↦
        (further.readItems levels complaint (place + 1) bytes).map fun y ↦ (x, y) := by
  rw [readItems]
  simp only [hfollows, Outcome.andThen_done, if_true]

/-- The default of the field behind the last item. -/
theorem readItems_stop (hcloses : readItemStart (place == 0) bytes = .done false start) :
    (field f further).readItems levels complaint place bytes =
      match f.absent with
      | some x => (further.readItems levels complaint (place + 1) start).map fun y ↦ (x, y)
      | none => failUnplaced (complaint place) start := by
  rw [readItems]
  simp only [hcloses, Outcome.andThen_done, Bool.false_eq_true, if_false]
  cases f.absent <;> rfl

theorem closedBy_failUnplaced {α : Type} (cause : Cause) (bytes : Bytes) (close : Reader Unit)
    (cause' : Cause) :
    AgreesAt (α := α) rest ((failUnplaced cause bytes).closedBy close) (.error cause') := by
  rw [failUnplaced, Outcome.closedBy]
  split <;> exact .failed _ _ _

end

/-- The fields are read in their order, a missing one is replaced, and an item that is left over is
refused at the closing bracket. -/
theorem readItems_agrees {β σ : Type} (r : Record β σ) (hr : r.Agrees) (complaint : Nat → Cause)
    {place : Nat} {bytes : Bytes} {values : List Value}
    (h : ItemsAt (readTree levels) (place == 0) bytes values (Ascii.closeBracket :: rest))
    (hdistinct : ∀ v ∈ values, v.Distinct) (total : Nat) :
    AgreesAt rest ((r.readItems levels complaint place bytes).closedBy closeSequence)
      (r.decodeItems .parsed complaint place values >>= exactly .parsed total) := by
  induction r generalizing place bytes values with
  | done =>
    change AgreesAt rest ((Outcome.done () bytes).closedBy closeSequence)
      (exactly .parsed total ((), values))
    rw [Outcome.closedBy]
    cases h with
    | stop hcloses =>
      rw [closeSequence_of_stop hcloses]
      exact .done ()
    | item hfollows _ _ =>
      obtain ⟨fault, left, hfails⟩ := closeSequence_fails hfollows
      rw [hfails]
      exact .failed _ _ _
  | field f further ih =>
    cases h with
    | stop hcloses =>
      rw [readItems_stop f further complaint place hcloses, decodeItems]
      obtain ⟨behind, heq, -⟩ := readItemStart_eq_false hcloses
      cases f.absent with
      | none => exact closedBy_failUnplaced _ _ _ _
      | some x =>
        have htail : ItemsAt (readTree levels) (place + 1 == 0) (Ascii.closeBracket :: rest) []
            (Ascii.closeBracket :: rest) := .stop rfl
        simp only [closedBy_map]
        exact bind_exactly .parsed total x _ ▸ (ih hr.2 htail hdistinct).map _
    | @item _ _ start next _ v values hfollows hhead htail =>
      rw [readItems_item f further complaint place hfollows, decodeItems]
      rcases (hr.1 hhead (hdistinct v List.mem_cons_self)).cases with
        ⟨x, hread, htake⟩ | ⟨fault, left, cause, hread, htake⟩
      · have hnext : ItemsAt (readTree levels) (place + 1 == 0) next values
            (Ascii.closeBracket :: rest) := htail
        have hrest := ih hr.2 hnext fun w hw ↦ hdistinct w (List.mem_cons_of_mem v hw)
        rw [hread, Outcome.andThen_done, closedBy_map, htake]
        exact bind_exactly .parsed total x _ ▸ hrest.map _
      · rw [hread, Outcome.andThen_failed, Outcome.closedBy, htake]
        split <;> exact .failed _ _ cause

end Record

variable {β σ : Type}

/-! ## Records -/

theorem Record.read_agrees (r : Record β σ) (hr : r.Agrees) (name : String) {levels : Nat}
    {bytes rest : Bytes} {v : Value} (h : readTree levels bytes = .done v rest)
    (hdistinct : v.Distinct) :
    AgreesAt rest (r.read name levels bytes) (r.decode name .parsed v) := by
  have hfront := valueAt_of_readTree h
  rw [Record.read]
  split
  · next heq =>
    obtain ⟨inner, items, rfl, rfl, hitems⟩ := (heq ▸ hfront).of_openBracket
    exact (r.readItems_agrees hr _ hitems (Value.distinctItems_iff.mp hdistinct)
      items.length).placed
  · next heq =>
    obtain ⟨inner, members, rfl, rfl, hmembers⟩ := (heq ▸ hfront).of_openBrace
    exact ((r.readMapping_agrees hr hmembers hdistinct.2).closedBy
      (closeMapping_closeBrace rest)).placed
  · next hsequence hmapping =>
    generalize skipBlanks bytes = front at hfront hsequence hmapping ⊢
    cases hfront with
    | array _ => exact absurd rfl (hsequence _)
    | object _ => exact absurd rfl (hmapping _)
    | _ => exact refuseNext_agrees _ _ _ rest

namespace Codec

theorem record_agrees {τ : Type} {r : Record β σ} (hr : r.Agrees) (name : String)
    (ofContents : β → τ) (contents : τ → β) : (Codec.record name r ofContents contents).Agrees :=
  fun _ _ _ _ h hdistinct ↦ (r.read_agrees hr name h hdistinct).map ofContents

theorem alertFields_agrees : alertFields.Agrees :=
  ⟨labels_agrees, labels_agrees, text_agrees, nullable_agrees timestamp_agrees,
    nullable_agrees timestamp_agrees, text_agrees, trivial⟩

theorem alert_agrees : alert.Agrees :=
  record_agrees alertFields_agrees ..

theorem alertingFields_agrees : alertingFields.Agrees :=
  ⟨text_agrees, text_agrees, text_agrees, real_agrees, real_agrees, labels_agrees, labels_agrees,
    listOrNull_agrees alert_agrees, text_agrees, text_agrees, real_agrees, timestamp_agrees,
    trivial⟩

theorem alertingRule_agrees : alertingRule.Agrees :=
  record_agrees alertingFields_agrees ..

theorem recordingFields_agrees : recordingFields.Agrees :=
  ⟨text_agrees, text_agrees, labels_agrees, text_agrees, text_agrees, real_agrees,
    timestamp_agrees, trivial⟩

theorem recordingRule_agrees : recordingRule.Agrees :=
  record_agrees recordingFields_agrees ..

/-! ## Rules -/

theorem ruleKindText_agrees : ruleKindText.Agrees := by
  intro levels bytes rest v h _
  have hread := readTextAs_agrees .variantName ruleKind h
  cases v <;> exact hread

theorem readRuleMember_agrees {levels : Nat} {start colon content rest : Bytes} {name : String}
    {v : Value} (state : Option RuleKind × List (String × Value))
    (hname : readText start = .done name colon) (hcolon : readColon colon = .done () content)
    (hvalue : readTree levels content = .done v rest) (hdistinct : v.Distinct) :
    AgreesAt rest (readRuleMember levels state start) (splitMember .parsed state (name, v)) := by
  rw [readRuleMember, hname, Outcome.andThen_done, splitMember]
  simp only
  split
  · cases state.1 with
    | some kind => exact .failed _ _ _
    | none =>
      simp only [hcolon, Outcome.andThen_done]
      exact (ruleKindText_agrees hvalue hdistinct).map _
  · simp only [hcolon, Outcome.andThen_done, hvalue, Outcome.map_done]
    exact .done _

/-- The kind and the rest of a rule, from its members. -/
def splitMembers (members : List (String × Value)) : Except Cause (RuleKind × Value) := do
  let (kind, rest) ← members.foldlM (splitMember .parsed) (none, [])
  match kind with
  | none => throw (.missingField kindField)
  | some kind => return (kind, .object rest.reverse)

/-- The kind and the rest of a rule, from its items. -/
def splitItems : List Value → Except Cause (RuleKind × Value)
  | [] => .error (.missingField kindField)
  | v :: items => do
    let kind ← ruleKindText.decode .parsed v
    return (kind, .array items)

/-- The kind and the rest of a rule. -/
def splitRule : Value → Except Cause (RuleKind × Value)
  | .object members => splitMembers members
  | .array items => splitItems items
  | v => refuse (.taggedRecord "Rule") v

theorem decodeRule_eq (v : Value) :
    decodeRule .parsed v = splitRule v >>= fun p ↦ ruleOfKind p.1 p.2 := by
  cases v with
  | object members =>
    rw [decodeRule, splitRule, splitMembers]
    cases members.foldlM (splitMember .parsed) (none, []) with
    | error cause => rfl
    | ok state =>
      obtain ⟨kind, rest⟩ := state
      cases kind <;> rfl
  | array items =>
    cases items with
    | nil => rfl
    | cons v items =>
      rw [decodeRule, splitRule, splitItems]
      cases ruleKindText.decode .parsed v <;> rfl
  | _ => rfl

theorem readRuleMapping_agrees {levels : Nat} {bytes rest : Bytes}
    {members : List (String × Value)} (h : MembersAt (readTree levels) true bytes members rest)
    (hdistinct : Value.DistinctMembers members) :
    AgreesAt rest (readRuleMapping levels bytes) (splitMembers members) := by
  rw [readRuleMapping, splitMembers]
  refine (readMapping_agrees readRuleMember_agrees h hdistinct (none, [])).andThen fun state ↦ ?_
  obtain ⟨kind, set⟩ := state
  cases kind with
  | none => exact .failed _ _ _
  | some kind => exact .done _

/-- A value that is set aside is taken as it is. -/
theorem readTree_agrees {levels : Nat} ⦃bytes rest : Bytes⦄ ⦃v : Value⦄
    (h : readTree levels bytes = .done v rest) (_ : v.Distinct) :
    AgreesAt rest (readTree levels bytes) (.ok v) := by
  rw [h]
  exact .done v

theorem decodeItems_ok (values : List Value) : decodeItems .ok values = .ok values := by
  induction values with
  | nil => rfl
  | cons v values ih =>
    rw [decodeItems, ih]
    rfl

theorem readRuleItems_agrees {levels : Nat} {bytes rest : Bytes} {items : List Value}
    (h : ItemsAt (readTree levels) true bytes items rest) (hdistinct : ∀ v ∈ items, v.Distinct) :
    AgreesAt rest (readRuleItems levels bytes) (splitItems items) := by
  cases h with
  | stop hcloses =>
    rw [readRuleItems, hcloses]
    exact .failed _ _ _
  | @item _ _ start next _ v items hfollows hhead htail =>
    rw [readRuleItems, hfollows, Outcome.andThen_done, splitItems]
    refine (ruleKindText_agrees hhead (hdistinct v List.mem_cons_self)).andThen fun kind ↦ ?_
    have hrest := readSequence_agrees readTree_agrees htail fun w hw ↦
      hdistinct w (List.mem_cons_of_mem v hw)
    rw [decodeItems_ok] at hrest
    exact hrest.map fun items ↦ (kind, Value.array items)

theorem rule_agrees : rule.Agrees := by
  intro levels bytes rest v h hdistinct
  have hfront := valueAt_of_readTree h
  change AgreesAt rest (readRule levels bytes) (decodeRule .parsed v)
  rw [decodeRule_eq, readRule]
  refine @AgreesAt.andThen _ _ rest rest _ _ ?_ _ _ ?_
  · split
    · next heq =>
      obtain ⟨inner, items, rfl, rfl, hitems⟩ := (heq ▸ hfront).of_openBracket
      exact ((readRuleItems_agrees hitems (Value.distinctItems_iff.mp hdistinct)).closedBy
        (closeSequence_closeBracket rest)).placed
    · next heq =>
      obtain ⟨inner, members, rfl, rfl, hmembers⟩ := (heq ▸ hfront).of_openBrace
      exact ((readRuleMapping_agrees hmembers hdistinct.2).closedBy
        (closeMapping_closeBrace rest)).placed
    · next hsequence hmapping =>
      generalize skipBlanks bytes = front at hfront hsequence hmapping ⊢
      cases hfront with
      | array _ => exact absurd rfl (hsequence _)
      | object _ => exact absurd rfl (hmapping _)
      | _ => exact refuseNext_agrees _ _ _ rest
  · rintro ⟨kind, body⟩
    simp only
    cases ruleOfKind kind body with
    | ok rule => exact .done rule
    | error cause => exact .failed _ _ cause

/-! ## Listings and envelopes -/

theorem groupFields_agrees : groupFields.Agrees :=
  ⟨text_agrees, text_agrees, listOrNull_agrees rule_agrees, real_agrees,
    nullable_agrees natural_agrees, nullable_agrees real_agrees, nullable_agrees timestamp_agrees,
    trivial⟩

theorem ruleGroup_agrees : ruleGroup.Agrees :=
  record_agrees groupFields_agrees ..

theorem ruleListing_agrees : ruleListing.Agrees :=
  record_agrees (r := ruleListingFields) ⟨listOrNull_agrees ruleGroup_agrees, trivial⟩ ..

theorem alertListing_agrees : alertListing.Agrees :=
  record_agrees (r := alertListingFields) ⟨listOrNull_agrees alert_agrees, trivial⟩ ..

theorem envelopeFields_agrees : envelopeFields.Agrees :=
  ⟨text_agrees, opaqueValue_agrees, text_agrees, text_agrees, list_agrees text_agrees,
    list_agrees text_agrees, trivial⟩

theorem envelope_agrees : envelope.Agrees :=
  record_agrees envelopeFields_agrees ..

end Codec

end TenantView.Document
