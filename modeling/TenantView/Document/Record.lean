import TenantView.Document.Codec

/-!
# Records

A record has named fields.  It is spelled as a mapping, in any order and with unknown names
passed over, or as a sequence of its fields in their order.  A field that is missing takes its
default if it has one; a name that occurs twice is refused.  One description of the fields
(`Record`) serves reading from bytes, taking from a value and writing: while a record is being
read each field has a slot, which is filled when its name comes up and looked at in the end.
-/

namespace TenantView.Document

open TenantView.Json

/-- One field of a record. -/
structure Field (α : Type) where
  name : String
  codec : Codec α
  /-- What a missing field stands for; a field without it has to be given. -/
  absent : Option α := none
  /-- Whether a content is left out when the record is written. -/
  isLeftOut : α → Bool := fun _ ↦ false

/-- The fields of a record in their order, with the type of their contents and the type of the
slots they fill. -/
inductive Record : Type → Type → Type 1
  | done : Record Unit Unit
  | field {α β σ : Type} (f : Field α) (rest : Record β σ) : Record (α × β) (Option α × σ)

namespace Record

/-- The number of fields. -/
def size : {β σ : Type} → Record β σ → Nat
  | _, _, done => 0
  | _, _, field _ rest => rest.size + 1

/-- The slots before anything has been read. -/
def emptySlots : {β σ : Type} → Record β σ → σ
  | _, _, done => ()
  | _, _, field _ rest => (none, rest.emptySlots)

/-- Reads the colon and the value of the member with the given name into its slot.  A member of
an unknown name is skipped. -/
def readSlot : {β σ : Type} → Record β σ → (levels : Nat) → (name : String) → σ → Reader σ
  | _, _, done, _, _, () => fun bytes ↦
    (readColon bytes).andThen fun () rest ↦ skipValue rest
  | _, _, field f rest, levels, name, (slot, slots) => fun bytes ↦
    if name = f.name then
      match slot with
      | some _ => failUnplaced (.duplicateField name) bytes
      | none =>
        (readColon bytes).andThen fun () bytes ↦
          (f.codec.read levels bytes).map fun x ↦ (some x, slots)
    else (rest.readSlot levels name slots bytes).map fun slots ↦ (slot, slots)

/-- Takes the value of the member with the given name into its slot. -/
def decodeSlot : {β σ : Type} → Record β σ → Source → (name : String) → Value → σ →
    Except Cause σ
  | _, _, done, _, _, _, () => .ok ()
  | _, _, field f rest, source, name, v, (slot, slots) =>
    if name = f.name then
      match slot with
      | some _ => .error (.duplicateField name)
      | none => (f.codec.decode source v).map fun x ↦ (some x, slots)
    else (rest.decodeSlot source name v slots).map fun slots ↦ (slot, slots)

/-- The contents of the slots, with defaults for the empty ones; the first field that is missing
without a default is named. -/
def finish : {β σ : Type} → Record β σ → σ → Except Cause β
  | _, _, done, () => .ok ()
  | _, _, field f rest, (slot, slots) =>
    match slot.or f.absent with
    | some x => (rest.finish slots).map fun y ↦ (x, y)
    | none => .error (.missingField f.name)

/-- Takes the members of a mapping into their slots, one after the other. -/
def decodeMembers {β σ : Type} (r : Record β σ) (source : Source) :
    List (String × Value) → σ → Except Cause σ
  | [], slots => .ok slots
  | (name, v) :: rest, slots => do
    let slots ← r.decodeSlot source name v slots
    r.decodeMembers source rest slots

/-- Reads the fields of a record that is spelled as a sequence, behind its opening bracket;
`place` fields precede these. -/
def readItems : {β σ : Type} → Record β σ → (levels : Nat) → (complaint : Nat → Cause) →
    (place : Nat) → Reader β
  | _, _, done, _, _, _ => fun bytes ↦ .done () bytes
  | _, _, field f rest, levels, complaint, place => fun bytes ↦
    (readItemStart (place == 0) bytes).andThen fun follows bytes ↦
      let content : Outcome _ :=
        if follows then f.codec.read levels bytes
        else
          match f.absent with
          | some x => .done x bytes
          | none => failUnplaced (complaint place) bytes
      content.andThen fun x bytes ↦
        (rest.readItems levels complaint (place + 1) bytes).map fun y ↦ (x, y)

/-- Takes the fields of a record that is spelled as a sequence, and the items left over. -/
def decodeItems : {β σ : Type} → Record β σ → Source → (complaint : Nat → Cause) →
    (place : Nat) → List Value → Except Cause (β × List Value)
  | _, _, done, _, _, _, items => .ok ((), items)
  | _, _, field f rest, source, complaint, place, [] => do
    match f.absent with
    | some x =>
      let (y, items) ← rest.decodeItems source complaint (place + 1) []
      return ((x, y), items)
    | none => .error (complaint place)
  | _, _, field f rest, source, complaint, place, v :: items => do
    let x ← f.codec.decode source v
    let (y, items) ← rest.decodeItems source complaint (place + 1) items
    return ((x, y), items)

/-- The members of a record in the order of its fields. -/
def encodeMembers : {β σ : Type} → Record β σ → β → List (String × Value)
  | _, _, done, () => []
  | _, _, field f rest, (x, y) =>
    if f.isLeftOut x then rest.encodeMembers y
    else (f.name, f.codec.encode x) :: rest.encodeMembers y

/-- Reads one member of a record, behind the opening quote of its name. -/
def readMember {β σ : Type} (r : Record β σ) (levels : Nat) (slots : σ) : Reader σ := fun bytes ↦
  (readText bytes).andThen fun name rest ↦ r.readSlot levels name slots rest

/-- Reads the inside of a record that is spelled as a mapping. -/
def readMapping {β σ : Type} (r : Record β σ) (levels : Nat) : Reader β := fun bytes ↦
  (readMembers (r.readMember levels) bytes true r.emptySlots bytes).andThen fun slots rest ↦
    match r.finish slots with
    | .ok x => .done x rest
    | .error cause => failUnplaced cause rest

/-- The contents of a record that has been read already. -/
def decode {β σ : Type} (r : Record β σ) (name : String) (source : Source) :
    Value → Except Cause β
  | .object members => do
    let slots ← r.decodeMembers source members r.emptySlots
    r.finish slots
  | .array items => do
    let complaint place := Cause.wrongLength place (.record name r.size)
    let (x, left) ← r.decodeItems source complaint 0 items
    if left.isEmpty then return x
    else throw (source.tooLong (items.length - left.length) items.length)
  | v => refuse (.record name) v

/-- The contents of a record at the front of the bytes. -/
def read {β σ : Type} (r : Record β σ) (name : String) (levels : Nat) : Reader β := fun bytes ↦
  match skipBlanks bytes with
  | Ascii.openBracket :: rest =>
    let complaint place := Cause.wrongLength place (.record name r.size)
    enclosed (nested levels fun levels ↦ r.readItems levels complaint 0)
      closeSequence (Ascii.openBracket :: rest)
  | Ascii.openBrace :: rest =>
    enclosed (nested levels r.readMapping) closeMapping (Ascii.openBrace :: rest)
  | bytes => refuseNext (.record name) bytes

end Record

/-- The codec of a record type whose values are the contents of the given fields. -/
def Codec.record {τ β σ : Type} (name : String) (r : Record β σ) (ofContents : β → τ)
    (contents : τ → β) : Codec τ where
  read levels := fun bytes ↦ (r.read name levels bytes).map ofContents
  decode source v := (r.decode name source v).map ofContents
  encode x := .object (r.encodeMembers (contents x))

end TenantView.Document
