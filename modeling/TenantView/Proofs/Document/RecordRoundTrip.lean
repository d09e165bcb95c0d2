import TenantView.Document.Record
import TenantView.Proofs.Json.RoundTrip

/-!
# Records read back

A codec writes a content back if taking it from the value it is written as yields it again.  A
record whose fields have different names inherits this from its fields, provided that a content
that is left out is the one that a missing field stands for (`record_writesBack`).
-/

namespace TenantView.Document

open TenantView.Json

/-- Writing a content and taking it from its value yields it, wherever the value comes from.  The
value has no name twice and is nested at most `depth` deep. -/
structure Codec.WritesBack {α : Type} (c : Codec α) (depth : Nat) (x : α) : Prop where
  decode_encode : ∀ source, c.decode source (c.encode x) = .ok x
  distinct : (c.encode x).Distinct
  depth_le : (c.encode x).depth ≤ depth

/-- A field writes a content back, also by leaving it out. -/
structure Field.WritesBack {α : Type} (f : Field α) (depth : Nat) (x : α) : Prop where
  codec : f.codec.WritesBack depth x
  absent_of_leftOut : f.isLeftOut x = true → f.absent = some x

namespace Record

/-- The names of the fields. -/
def names : {β σ : Type} → Record β σ → List String
  | _, _, done => []
  | _, _, field f rest => f.name :: rest.names

/-- Every field writes its content back. -/
def WritesBack (depth : Nat) : {β σ : Type} → Record β σ → β → Prop
  | _, _, done, () => True
  | _, _, field f rest, (x, y) => f.WritesBack depth x ∧ rest.WritesBack depth y

/-- The slots of what is written. -/
def written : {β σ : Type} → Record β σ → β → σ
  | _, _, done, () => ()
  | _, _, field f rest, (x, y) => (if f.isLeftOut x then none else some x, rest.written y)

/-! ## Taking a record from its value -/

section Slots

variable {α β σ : Type} (f : Field α) (rest : Record β σ) (source : Source) (v : Value)

/-- The member that has the name of the first field goes to its empty slot. -/
theorem decodeSlot_self (slots : σ) :
    (field f rest).decodeSlot source f.name v (none, slots) =
      (f.codec.decode source v).map fun x ↦ (some x, slots) :=
  if_pos rfl

/-- A slot is filled once. -/
theorem decodeSlot_self_filled (x : α) (slots : σ) :
    (field f rest).decodeSlot source f.name v (some x, slots) = .error (.duplicateField f.name) :=
  if_pos rfl

/-- A member with another name is left to the other fields. -/
theorem decodeSlot_of_ne {name : String} (h : name ≠ f.name) (slot : Option α) (slots : σ) :
    (field f rest).decodeSlot source name v (slot, slots) =
      (rest.decodeSlot source name v slots).map fun slots ↦ (slot, slots) :=
  if_neg h

end Slots

/-- The members that are written have names of fields, in their order. -/
theorem names_encodeMembers {β σ : Type} (r : Record β σ) (x : β) :
    ((r.encodeMembers x).map Prod.fst).Sublist r.names := by
  induction r with
  | done => exact .slnil
  | field f rest ih =>
    obtain ⟨x, y⟩ := x
    rw [encodeMembers, names]
    split
    · exact (ih y).cons _
    · exact (ih y).cons_cons _

/-- Members with other names leave the slot of a field alone. -/
theorem decodeMembers_field {α β σ : Type} (f : Field α) (rest : Record β σ) (source : Source)
    {members : List (String × Value)} (h : f.name ∉ members.map Prod.fst) (slot : Option α)
    (slots : σ) :
    (field f rest).decodeMembers source members (slot, slots) =
      (rest.decodeMembers source members slots).map fun slots ↦ (slot, slots) := by
  induction members generalizing slots with
  | nil => rfl
  | cons m members ih =>
    obtain ⟨name, v⟩ := m
    simp only [List.map_cons, List.mem_cons, not_or] at h
    rw [decodeMembers, decodeMembers, decodeSlot_of_ne f rest source v (Ne.symm h.1)]
    cases rest.decodeSlot source name v slots with
    | error cause => rfl
    | ok slots => exact ih h.2 slots

/-- The members that are written fill the slots. -/
theorem decodeMembers_encodeMembers {β σ : Type} (r : Record β σ) {depth : Nat} {x : β}
    (hnames : r.names.Nodup) (h : r.WritesBack depth x) (source : Source) :
    r.decodeMembers source (r.encodeMembers x) r.emptySlots = .ok (r.written x) := by
  induction r with
  | done => rfl
  | field f rest ih =>
    obtain ⟨x, y⟩ := x
    obtain ⟨hx, hy⟩ := h
    rw [names, List.nodup_cons] at hnames
    have hfresh : f.name ∉ (rest.encodeMembers y).map Prod.fst :=
      fun hmem ↦ hnames.1 ((rest.names_encodeMembers y).subset hmem)
    have hrest := ih hnames.2 hy
    rw [encodeMembers, written, emptySlots]
    split
    · rw [decodeMembers_field f rest source hfresh, hrest]
      rfl
    · rw [decodeMembers, decodeSlot_self, hx.codec.decode_encode]
      change (field f rest).decodeMembers source _ (some x, rest.emptySlots) = _
      rw [decodeMembers_field f rest source hfresh, hrest]
      rfl

/-- The slots of what is written hold its contents: one that is left out is the default. -/
theorem finish_written {β σ : Type} (r : Record β σ) {depth : Nat} {x : β}
    (h : r.WritesBack depth x) : r.finish (r.written x) = .ok x := by
  induction r with
  | done => rfl
  | field f rest ih =>
    obtain ⟨x, y⟩ := x
    obtain ⟨hx, hy⟩ := h
    have hslot : (if f.isLeftOut x then none else some x).or f.absent = some x := by
      split
      · next hout => rw [Option.none_or, hx.absent_of_leftOut hout]
      · rfl
    rw [written, finish, hslot]
    simp only [ih hy]
    rfl

/-- The values of the members that are written have no name twice and bounded depth. -/
theorem encodeMembers_bounds {β σ : Type} (r : Record β σ) {depth : Nat} {x : β}
    (h : r.WritesBack depth x) :
    ∀ m ∈ r.encodeMembers x, m.2.Distinct ∧ m.2.depth ≤ depth := by
  induction r with
  | done => exact fun m hm ↦ nomatch hm
  | field f rest ih =>
    obtain ⟨x, y⟩ := x
    obtain ⟨hx, hy⟩ := h
    rw [encodeMembers]
    intro m hm
    split at hm
    · exact ih hy m hm
    · rcases List.mem_cons.mp hm with rfl | hm
      · exact ⟨hx.codec.distinct, hx.codec.depth_le⟩
      · exact ih hy m hm

end Record

/-- **A record of different names writes its contents back if its fields do.** -/
theorem Codec.record_writesBack {τ β σ : Type} {name : String} {r : Record β σ} {ofContents : β → τ}
    {contents : τ → β} {depth : Nat} {x : τ} (hcontents : ofContents (contents x) = x)
    (hnames : r.names.Nodup) (h : r.WritesBack depth (contents x)) :
    (Codec.record name r ofContents contents).WritesBack (depth + 1) x where
  decode_encode source := by
    change ((r.decodeMembers source (r.encodeMembers (contents x)) r.emptySlots >>= r.finish).map
      ofContents) = _
    rw [r.decodeMembers_encodeMembers hnames h source]
    change (r.finish _).map ofContents = _
    rw [r.finish_written h]
    exact congrArg Except.ok hcontents
  distinct :=
    ⟨(r.names_encodeMembers _).nodup hnames,
      Value.distinctMembers_iff.mpr fun m hm ↦ (r.encodeMembers_bounds h m hm).1⟩
  depth_le :=
    Nat.succ_le_succ
      (Value.depthMembers_le_iff.mpr fun m hm ↦ (r.encodeMembers_bounds h m hm).2)

end TenantView.Document
