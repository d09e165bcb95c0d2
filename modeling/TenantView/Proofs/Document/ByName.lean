import TenantView.Proofs.Document.RoundTrip
import TenantView.Proofs.Labels.FiniteMap

/-!
# Mappings read by name

Members are taken one after the other, each into the slot of its name.  If no name repeats, what
comes of them only depends on what each name has: a record is filled by the contents of its fields'
names (`Record.decode_object_eq_ok_iff`), a label set has the texts of all names
(`Codec.decodeLabels_eq_ok_iff`), and a rule is the record of the kind that its tag says, from the
very same members (`Codec.decodeRule_object_eq_ok_iff`), as the tag is no field of that record.
-/

namespace TenantView.Document

open TenantView.Json

variable {source : Source} {members : List (String × Value)}

/-! ## Records -/

/-- A field is filled by what its name has, and by its default if that is nothing. -/
def Field.FilledBy {α : Type} (f : Field α) (source : Source) (content : Option Value) (x : α) :
    Prop :=
  match content with
  | some v => f.codec.decode source v = .ok x
  | none => f.absent = some x

namespace Record

/-- Every field is filled by what its name has. -/
def FilledBy (source : Source) (content : String → Option Value) :
    {β σ : Type} → Record β σ → β → Prop
  | _, _, done, () => True
  | _, _, field f rest, (x, y) =>
    f.FilledBy source (content f.name) x ∧ rest.FilledBy source content y

theorem filledBy_congr {β σ : Type} (r : Record β σ) {content content' : String → Option Value}
    (h : ∀ name ∈ r.names, content name = content' name) (x : β) :
    r.FilledBy source content x ↔ r.FilledBy source content' x := by
  induction r with
  | done => exact Iff.rfl
  | field f rest ih =>
    obtain ⟨x, y⟩ := x
    rw [names, List.forall_mem_cons] at h
    rw [FilledBy, FilledBy, h.1, ih h.2]

/-- A member of another name fills no slot. -/
theorem decodeSlot_of_notMem {β σ : Type} (r : Record β σ) {name : String} (h : name ∉ r.names)
    (v : Value) (slots : σ) : r.decodeSlot source name v slots = .ok slots := by
  induction r with
  | done => rfl
  | field f rest ih =>
    rw [names, List.mem_cons, not_or] at h
    rw [decodeSlot_of_ne f rest source v h.1, ih h.2]
    rfl

/-- The first slot is filled by what its name has, and the others as if it were not there. -/
theorem decodeMembers_field_eq_ok_iff {α β σ : Type} {f : Field α} {rest : Record β σ}
    (hf : f.name ∉ rest.names) (hnames : (members.map Prod.fst).Nodup) {slot : Option α}
    {slots slots' : σ} :
    (field f rest).decodeMembers source members (none, slots) = .ok (slot, slots') ↔
      (members.lookup f.name).mapM (f.codec.decode source) = .ok slot ∧
        rest.decodeMembers source members slots = .ok slots' := by
  induction members generalizing slots with
  | nil => simp [decodeMembers, pure, Except.pure]
  | cons m members ih =>
    obtain ⟨name, v⟩ := m
    rw [List.map_cons, List.nodup_cons] at hnames
    by_cases hname : name = f.name
    · subst hname
      rw [decodeMembers, decodeMembers, decodeSlot_self, decodeSlot_of_notMem rest hf, ok_bind,
        List.lookup_cons_self, Option.mapM_some]
      cases f.codec.decode source v with
      | error cause => simp [Except.map, bind, Except.bind, Functor.map]
      | ok x =>
        change (field f rest).decodeMembers source members (some x, slots) = _ ↔ _
        rw [decodeMembers_field f rest source hnames.1]
        cases rest.decodeMembers source members slots <;> simp [Except.map, Functor.map]
    · rw [decodeMembers, decodeMembers, decodeSlot_of_ne f rest source v hname,
        lookup_cons_ite, if_neg (Ne.symm hname)]
      cases rest.decodeSlot source name v slots with
      | error cause => simp [Except.map, bind, Except.bind]
      | ok slots => exact ih hnames.2

theorem finish_field_eq_ok_iff {α β σ : Type} {f : Field α} {rest : Record β σ} {slot : Option α}
    {slots : σ} {x : α} {y : β} :
    (field f rest).finish (slot, slots) = .ok (x, y) ↔
      slot.or f.absent = some x ∧ rest.finish slots = .ok y := by
  rw [finish]
  cases slot.or f.absent with
  | none => simp
  | some x' => cases rest.finish slots <;> simp [Except.map]

/-- What is in a slot in the end fills the field. -/
theorem filledBy_iff_slot {α : Type} {f : Field α} {content : Option Value} {x : α} :
    f.FilledBy source content x ↔
      ∃ slot, content.mapM (f.codec.decode source) = .ok slot ∧ slot.or f.absent = some x := by
  cases content with
  | none => simp [Field.FilledBy, pure, Except.pure]
  | some v =>
    rw [Field.FilledBy, Option.mapM_some]
    cases f.codec.decode source v <;> simp [Functor.map, Except.map]

/-- The slots of a mapping are filled by what the names have. -/
theorem decodeMembers_bind_finish_eq_ok_iff {β σ : Type} (r : Record β σ)
    (hr : r.names.Nodup) (hnames : (members.map Prod.fst).Nodup) {x : β} :
    r.decodeMembers source members r.emptySlots >>= r.finish = .ok x ↔
      r.FilledBy source (fun name ↦ members.lookup name) x := by
  rw [bind_eq_ok_iff]
  induction r with
  | done =>
    have hmembers : done.decodeMembers source members () = .ok () := by
      clear hnames
      induction members with
      | nil => rfl
      | cons m members ih => exact ih
    exact ⟨fun _ ↦ trivial, fun _ ↦ ⟨(), hmembers, rfl⟩⟩
  | field f rest ih =>
    obtain ⟨x, y⟩ := x
    rw [names, List.nodup_cons] at hr
    rw [FilledBy, filledBy_iff_slot, ← ih hr.2, emptySlots, Prod.exists]
    simp only [decodeMembers_field_eq_ok_iff hr.1 hnames, finish_field_eq_ok_iff]
    constructor
    · rintro ⟨slot, slots, ⟨hslot, hslots⟩, hx, hy⟩
      exact ⟨⟨slot, hslot, hx⟩, slots, hslots, hy⟩
    · rintro ⟨⟨slot, hslot, hx⟩, slots, hslots, hy⟩
      exact ⟨slot, slots, ⟨hslot, hslots⟩, hx, hy⟩

/-- **A mapping is taken for a record if the fields are filled by what their names have.** -/
theorem decode_object_eq_ok_iff {β σ : Type} (r : Record β σ) (hr : r.names.Nodup) (name : String)
    (hnames : (members.map Prod.fst).Nodup) {x : β} :
    r.decode name source (.object members) = .ok x ↔
      r.FilledBy source (fun name ↦ members.lookup name) x :=
  r.decodeMembers_bind_finish_eq_ok_iff hr hnames

/-- The first field takes the first item. -/
theorem decodeItems_cons_eq_ok_iff {α β σ : Type} {f : Field α} {rest : Record β σ}
    {complaint : Nat → Cause} {place : Nat} {v : Value} {items left : List Value} {x : α} {y : β} :
    (field f rest).decodeItems source complaint place (v :: items) = .ok ((x, y), left) ↔
      f.codec.decode source v = .ok x ∧
        rest.decodeItems source complaint (place + 1) items = .ok (y, left) := by
  rw [decodeItems]
  cases f.codec.decode source v with
  | error cause => simp [bind, Except.bind]
  | ok x' =>
    cases rest.decodeItems source complaint (place + 1) items with
    | error cause => simp [bind, Except.bind]
    | ok taken => simp [bind, Except.bind, pure, Except.pure, Prod.ext_iff, and_assoc]

/-- A sequence is taken for a record if its items fill the fields, and none is left over. -/
theorem decode_array_eq_ok_iff {β σ : Type} (r : Record β σ) (name : String) {items : List Value}
    {x : β} :
    r.decode name source (.array items) = .ok x ↔
      r.decodeItems source (fun place ↦ .wrongLength place (.record name r.size)) 0 items =
        .ok (x, []) := by
  rw [decode]
  cases r.decodeItems source (fun place ↦ .wrongLength place (.record name r.size)) 0 items with
  | error cause => exact iff_of_false nofun nofun
  | ok taken =>
    obtain ⟨y, left⟩ := taken
    cases left with
    | nil => simp [bind, Except.bind, pure, Except.pure]
    | cons v left => exact iff_of_false nofun (by simp)

/-- A member of another name may be dropped. -/
theorem decode_object_dropMember {β σ : Type} (r : Record β σ) (hr : r.names.Nodup) (name : String)
    {before after : List (String × Value)} {other : String} {v : Value}
    (hnames : ((before ++ (other, v) :: after).map Prod.fst).Nodup) (hother : other ∉ r.names)
    {x : β} :
    r.decode name source (.object (before ++ after)) = .ok x ↔
      r.decode name source (.object (before ++ (other, v) :: after)) = .ok x := by
  have hfewer : ((before ++ after).map Prod.fst).Nodup :=
    hnames.sublist ((List.Sublist.append_left (List.sublist_cons_self _ after) before).map _)
  rw [r.decode_object_eq_ok_iff hr name hnames, r.decode_object_eq_ok_iff hr name hfewer]
  refine r.filledBy_congr (fun name hname ↦ ?_) x
  rw [List.lookup_append, List.lookup_append, lookup_cons_ite,
    if_neg (ne_of_mem_of_not_mem hname hother)]

end Record

namespace Codec

/-! ## Label sets -/

theorem exists_of_text_decode {v : Value} {s : String} (h : text.decode source v = .ok s) :
    ∃ s, v = .string s := by
  cases v with
  | string s => exact ⟨s, rfl⟩
  | _ => cases h

/-- Labels that are taken go before those that are there, and all contents have to be texts. -/
theorem decodeLabels_eq_ok_iff_or {labels all : LabelSet}
    (hnames : (members.map Prod.fst).Nodup) :
    decodeLabels source members labels = .ok all ↔
      ∀ name, (members.lookup name).or ((labels.find? name).map Value.string) =
        (all.find? name).map Value.string := by
  induction members generalizing labels with
  | nil =>
    have hinjective : Function.Injective (Option.map Value.string) :=
      Option.map_injective fun _ _ h ↦ Value.string.inj h
    constructor
    · intro h name
      cases h
      rfl
    · exact fun h ↦ congrArg Except.ok (LabelSet.ext_find? fun name ↦ hinjective (h name))
  | cons m members ih =>
    obtain ⟨name, v⟩ := m
    rw [List.map_cons, List.nodup_cons] at hnames
    have hfresh : members.lookup name = none := lookup_eq_none_iff_notMem.mpr hnames.1
    by_cases htext : ∃ s, v = .string s
    · obtain ⟨s, rfl⟩ := htext
      change decodeLabels source members (labels.insert name s) = .ok all ↔ _
      rw [ih hnames.2]
      refine forall_congr' fun other ↦ ?_
      rw [lookup_cons_ite, LabelSet.find?_insert]
      split_ifs with hother
      · rw [hother, hfresh]
        rfl
      · rfl
    · refine iff_of_false (fun h ↦ ?_) fun h ↦ ?_
      · obtain ⟨s, hs, -⟩ := bind_eq_ok h
        exact htext (exists_of_text_decode hs)
      · have hname := h name
        rw [List.lookup_cons_self, Option.some_or] at hname
        obtain ⟨s, -, hs⟩ := Option.map_eq_some_iff.mp hname.symm
        exact htext ⟨s, hs.symm⟩

/-- **A mapping is taken for the label set that has the text of every name.** -/
theorem decodeLabels_eq_ok_iff {labels : LabelSet} (hnames : (members.map Prod.fst).Nodup) :
    decodeLabels source members .empty = .ok labels ↔
      ∀ name, members.lookup name = (labels.find? name).map Value.string := by
  rw [decodeLabels_eq_ok_iff_or hnames]
  refine forall_congr' fun name ↦ ?_
  change (members.lookup name).or none = _ ↔ _
  rw [Option.or_none]

/-! ## Rules -/

theorem ruleKindText_decode_eq_ok_iff (source : Source) {v : Value} {kind : RuleKind} :
    ruleKindText.decode source v = .ok kind ↔ v = ruleKindText.encode kind := by
  constructor
  · intro h
    cases v with
    | string word =>
      change ruleKind word = .ok kind at h
      rw [ruleKind] at h
      split_ifs at h with halerting hrecording
      · cases h
        exact congrArg Value.string halerting
      · cases h
        exact congrArg Value.string hrecording
    | _ => cases h
  · rintro rfl
    cases kind <;> rfl

/-- The tag of a rule is no field of the record of its kind. -/
theorem ruleOfKind_dropTag (kind : RuleKind) {before after : List (String × Value)} {v : Value}
    (hnames : ((before ++ (kindField, v) :: after).map Prod.fst).Nodup) {rule : Rule} :
    ruleOfKind kind (.object (before ++ after)) = .ok rule ↔
      ruleOfKind kind (.object (before ++ (kindField, v) :: after)) = .ok rule := by
  cases kind with
  | alerting =>
    refine map_eq_ok_congr (fun _ ↦ map_eq_ok_congr (fun _ ↦ ?_) _) _
    exact alertingFields.decode_object_dropMember (by decide) _ hnames (by decide)
  | recording =>
    refine map_eq_ok_congr (fun _ ↦ map_eq_ok_congr (fun _ ↦ ?_) _) _
    exact recordingFields.decode_object_dropMember (by decide) _ hnames (by decide)

/-- The tag is taken where it stands, and the members around it are set aside. -/
theorem foldlM_splitMember_tag {before after : List (String × Value)} (v : Value)
    (hbefore : kindField ∉ before.map Prod.fst) (hafter : kindField ∉ after.map Prod.fst) :
    (before ++ (kindField, v) :: after).foldlM (splitMember source) (none, []) =
      (ruleKindText.decode source v).map fun kind ↦ (some kind, (before ++ after).reverse) := by
  have htag (taken : List (String × Value)) : splitMember source (none, taken) (kindField, v) =
      (ruleKindText.decode source v).map fun kind ↦ (some kind, taken) :=
    if_pos rfl
  rw [List.foldlM_append, foldlM_splitMember hbefore, ok_bind, List.foldlM_cons, htag]
  cases ruleKindText.decode source v with
  | error cause => rfl
  | ok kind =>
    change after.foldlM (splitMember source) (some kind, before.reverse ++ []) = _
    rw [foldlM_splitMember hafter, List.append_nil, List.reverse_append]
    rfl

/-- **A rule is the record of the kind that its tag says**, wherever the tag stands. -/
theorem decodeRule_object_eq_ok_iff (hnames : (members.map Prod.fst).Nodup) {rule : Rule} :
    decodeRule source (.object members) = .ok rule ↔
      ∃ kind, members.lookup kindField = some (ruleKindText.encode kind) ∧
        ruleOfKind kind (.object members) = .ok rule := by
  rw [decodeRule]
  cases hlookup : members.lookup kindField with
  | none =>
    rw [foldlM_splitMember (lookup_eq_none_iff_notMem.mp hlookup), ok_bind]
    simp [throw, throwThe, MonadExceptOf.throw]
  | some v =>
    obtain ⟨before, after, rfl, -⟩ := List.lookup_eq_some_iff.mp hlookup
    obtain ⟨hbefore, hafter⟩ := notMem_of_nodup_middle hnames
    rw [foldlM_splitMember_tag v hbefore hafter, bind_eq_ok_iff]
    simp only [map_eq_ok_iff, Option.some_inj, ← ruleKindText_decode_eq_ok_iff source,
      ← ruleOfKind_dropTag _ hnames]
    constructor
    · rintro ⟨_, ⟨kind, hkind, rfl⟩, h⟩
      rw [List.reverse_reverse] at h
      exact ⟨kind, hkind, h⟩
    · rintro ⟨kind, hkind, h⟩
      refine ⟨_, ⟨kind, hkind, rfl⟩, ?_⟩
      rw [List.reverse_reverse]
      exact h

/-- A rule that is spelled as a sequence has its tag in front of the fields of its kind. -/
theorem decodeRule_array_eq_ok_iff {v : Value} {items : List Value} {rule : Rule} :
    decodeRule source (.array (v :: items)) = .ok rule ↔
      ∃ kind, v = ruleKindText.encode kind ∧ ruleOfKind kind (.array items) = .ok rule := by
  rw [decodeRule, bind_eq_ok_iff]
  simp only [ruleKindText_decode_eq_ok_iff]

end Codec

end TenantView.Document
