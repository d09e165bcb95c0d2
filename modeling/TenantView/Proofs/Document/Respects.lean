import TenantView.Proofs.Document.ByName
import TenantView.Proofs.Document.Rearrangement

/-!
# Codecs that respect a shape

A codec respects a shape if one step between values of that shape changes nothing in what is taken
from them.  Texts, numbers and timestamps are not taken from values with parts, and so respect every
shape; lists, label sets and records respect theirs, because a step leaves what each name and each
place has as it is or is a step there.  What holds for a step holds for a chain of them
(`Codec.Respects.decode_iff_of_rearranged`).
-/

namespace TenantView.Document

open TenantView.Json Relation

/-- What is taken from a value is also taken after a step between values of the shape, and the other
way round. -/
def Codec.Respects {α : Type} (c : Codec α) (shape : Shape) : Prop :=
  ∀ ⦃v v' : Value⦄, Change shape v v' → v.Distinct →
    ∀ source x, c.decode source v = .ok x ↔ c.decode source v' = .ok x

/-! ## Plain shapes -/

namespace Codec

variable {α : Type} {c : Codec α} {shape : Shape}

theorem Respects.of_reflGen (hc : c.Respects shape) {v v' : Value}
    (h : ReflGen (Change shape) v v') (hdistinct : v.Distinct) (source : Source) (x : α) :
    c.decode source v = .ok x ↔ c.decode source v' = .ok x := by
  cases h with
  | refl => exact Iff.rfl
  | single h => exact hc h hdistinct source x

/-- **The same is taken from values that are rearranged.** -/
theorem Respects.decode_iff_of_rearranged (hc : c.Respects shape) {v v' : Value}
    (h : Rearranged shape v v') (hdistinct : v.Distinct) (source : Source) (x : α) :
    c.decode source v = .ok x ↔ c.decode source v' = .ok x := by
  induction h with
  | rel _ _ h => exact hc h hdistinct source x
  | refl _ => exact Iff.rfl
  | symm _ _ h ih => exact (ih (Rearranged.distinct_iff h |>.mpr hdistinct)).symm
  | trans _ _ _ h _ ih ih' =>
    exact (ih hdistinct).trans (ih' (Rearranged.distinct_iff h |>.mp hdistinct))

/-- What is taken from values without parts alone respects every shape. -/
theorem respects_of_refuses
    (hobject : ∀ source members x, c.decode source (.object members) ≠ .ok x)
    (harray : ∀ source items x, c.decode source (.array items) ≠ .ok x) : c.Respects shape := by
  intro v v' h _ source x
  obtain ⟨_, _, rfl, rfl⟩ | ⟨_, _, rfl, rfl⟩ := h.cases_kind
  · exact iff_of_false (hobject source _ x) (hobject source _ x)
  · exact iff_of_false (harray source _ x) (harray source _ x)

theorem text_respects : text.Respects shape :=
  respects_of_refuses (fun _ _ _ ↦ nofun) (fun _ _ _ ↦ nofun)

theorem timestamp_respects : timestamp.Respects shape :=
  respects_of_refuses (fun _ _ _ ↦ nofun) (fun _ _ _ ↦ nofun)

theorem real_respects : real.Respects shape :=
  respects_of_refuses (fun _ _ _ ↦ nofun) (fun _ _ _ ↦ nofun)

theorem natural_respects : natural.Respects shape :=
  respects_of_refuses (fun _ _ _ ↦ nofun) (fun _ _ _ ↦ nofun)

theorem opaqueValue_respects : opaqueValue.Respects .verbatim :=
  fun _ _ h _ ↦ absurd rfl h.shape_ne_verbatim

theorem nullable_respects (hc : c.Respects shape) : c.nullable.Respects shape := by
  intro v v' h hdistinct source x
  have hpart := map_eq_ok_congr (b := x) (hc h hdistinct source) some
  obtain ⟨_, _, rfl, rfl⟩ | ⟨_, _, rfl, rfl⟩ := h.cases_kind <;> exact hpart

/-! ## Lists -/

/-- Sequences that have the same at each place, up to a step, are taken for the same list. -/
theorem decodeItems_eq_ok_iff_of_places (hc : c.Respects shape) {items items' : List Value}
    (h : ∀ place : Nat, Option.Rel (ReflGen (Change shape)) items[place]? items'[place]?)
    (hdistinct : ∀ v ∈ items, v.Distinct) (source : Source) (xs : List α) :
    decodeItems (c.decode source) items = .ok xs ↔
      decodeItems (c.decode source) items' = .ok xs := by
  induction items generalizing items' xs with
  | nil =>
    obtain ⟨-, rfl⟩ | ⟨_, _, _, _, hnil, -⟩ :=
      Change.cases_of_places (r := fun _ ↦ ReflGen (Change shape)) h
    · exact Iff.rfl
    · cases hnil
  | cons v items ih =>
    obtain ⟨hnil, -⟩ | ⟨_, v', _, rest', hcons, rfl, hv, hrest⟩ :=
      Change.cases_of_places (r := fun _ ↦ ReflGen (Change shape)) h
    · cases hnil
    · cases hcons
      rw [List.forall_mem_cons] at hdistinct
      rw [decodeItems, decodeItems]
      simp only [bind_eq_ok_iff, hc.of_reflGen hv hdistinct.1, ih hrest hdistinct.2]

theorem list_respects (hc : c.Respects shape) : c.list.Respects (.list shape) := by
  intro v v' h hdistinct source x
  obtain ⟨_, _, rfl, rfl⟩ | ⟨items, items', rfl, rfl⟩ := h.cases_kind
  · exact iff_of_false nofun nofun
  · exact decodeItems_eq_ok_iff_of_places hc h.place_rel (Value.distinctItems_iff.mp hdistinct)
      source x

theorem listOrNull_respects (hc : c.Respects shape) : c.listOrNull.Respects (.list shape) :=
  fun _ _ h hdistinct source _ ↦
    map_eq_ok_congr (nullable_respects (list_respects hc) h hdistinct source) _

/-! ## Label sets -/

/-- All names of a mapping of labels count. -/
theorem labelMapping_respects : labelMapping.Respects .plain := by
  intro v v' h hdistinct source labels
  have hdistinct' := h.distinct_iff.mp hdistinct
  obtain ⟨members, members', rfl, rfl⟩ | ⟨_, _, rfl, rfl⟩ := h.cases_kind
  · change decodeLabels source members .empty = .ok labels ↔
      decodeLabels source members' .empty = .ok labels
    rw [decodeLabels_eq_ok_iff hdistinct.1, decodeLabels_eq_ok_iff hdistinct'.1]
    refine forall_congr' fun name ↦ ?_
    exact Change.eq_text_iff_of_rel (h.lookup_rel hdistinct.1 nofun) _
  · exact iff_of_false nofun nofun

theorem labels_respects : labels.Respects .plain :=
  fun _ _ h hdistinct source _ ↦
    map_eq_ok_congr (nullable_respects labelMapping_respects h hdistinct source) _

end Codec

/-! ## Records -/

namespace Record

/-- Each field respects the shape that stands beside its name. -/
inductive Respects : {β σ : Type} → Record β σ → List (String × Shape) → Prop
  | done : Respects .done []
  | field {α β σ : Type} {f : Field α} {rest : Record β σ} {shape : Shape}
    {fields : List (String × Shape)} (hf : f.codec.Respects shape) (hrest : Respects rest fields) :
    Respects (.field f rest) ((f.name, shape) :: fields)

variable {β σ : Type} {r : Record β σ} {fields : List (String × Shape)}

theorem Respects.names_eq (hr : r.Respects fields) : fields.map Prod.fst = r.names := by
  induction hr with
  | done => rfl
  | field _ _ ih => rw [List.map_cons, names, ih]

/-- What fills a field still fills it after a step in it. -/
theorem filledBy_field_iff_of_rel {α : Type} {f : Field α} {shape : Shape}
    (hf : f.codec.Respects shape) {content content' : Option Value}
    (h : Option.Rel (ReflGen (Change shape)) content content')
    (hdistinct : ∀ v ∈ content, v.Distinct) (source : Source) (x : α) :
    f.FilledBy source content x ↔ f.FilledBy source content' x := by
  cases h with
  | none => exact Iff.rfl
  | some h => exact hf.of_reflGen h (hdistinct _ rfl) source x

/-- A record is filled by the same contents after a step in those of its fields. -/
theorem Respects.filledBy_iff_of_rel (hr : r.Respects fields)
    {content content' : String → Option Value}
    (h : ∀ field ∈ fields,
      Option.Rel (ReflGen (Change field.2)) (content field.1) (content' field.1))
    (hdistinct : ∀ name, ∀ v ∈ content name, v.Distinct) (source : Source) (x : β) :
    r.FilledBy source content x ↔ r.FilledBy source content' x := by
  induction hr with
  | done => exact Iff.rfl
  | field hf _ ih =>
    obtain ⟨x, y⟩ := x
    rw [List.forall_mem_cons] at h
    rw [FilledBy, FilledBy, filledBy_field_iff_of_rel hf h.1 (hdistinct _), ih h.2]

/-- Mappings that have the same under each name, up to a step, are taken for the same record. -/
theorem Respects.decode_object_iff_of_rel (hr : r.Respects fields) (hnames : r.names.Nodup)
    (name : String) {members members' : List (String × Value)}
    (hdistinct : (Value.object members).Distinct) (hdistinct' : (Value.object members').Distinct)
    (h : ∀ field ∈ fields,
      Option.Rel (ReflGen (Change field.2)) (members.lookup field.1) (members'.lookup field.1))
    (source : Source) (x : β) :
    r.decode name source (.object members) = .ok x ↔
      r.decode name source (.object members') = .ok x := by
  rw [r.decode_object_eq_ok_iff hnames name hdistinct.1,
    r.decode_object_eq_ok_iff hnames name hdistinct'.1]
  refine hr.filledBy_iff_of_rel h (fun name v hv ↦ ?_) source x
  exact Value.distinctMembers_iff.mp hdistinct.2 _ (mem_of_lookup_eq_some hv)

/-- Items that fill the fields still fill them after a step in them. -/
theorem Respects.decodeItems_iff_of_places (hr : r.Respects fields) {items items' : List Value}
    (h : ∀ place : Nat, Option.Rel (ReflGen (Change ((fields[place]?.map Prod.snd).getD .plain)))
      items[place]? items'[place]?)
    (hdistinct : ∀ v ∈ items, v.Distinct) (source : Source) (complaint : Nat → Cause)
    (place : Nat) (x : β) :
    r.decodeItems source complaint place items = .ok (x, []) ↔
      r.decodeItems source complaint place items' = .ok (x, []) := by
  induction hr generalizing items items' place with
  | done =>
    obtain ⟨rfl, rfl⟩ | ⟨_, _, _, _, rfl, rfl, -⟩ := Change.cases_of_places h
    · exact Iff.rfl
    · exact iff_of_false nofun nofun
  | @field _ _ _ f _ _ _ hf _ ih =>
    obtain ⟨x, y⟩ := x
    obtain ⟨rfl, rfl⟩ | ⟨v, v', rest, rest', rfl, rfl, hv, hrest⟩ := Change.cases_of_places h
    · exact Iff.rfl
    · rw [List.forall_mem_cons] at hdistinct
      rw [decodeItems_cons_eq_ok_iff, decodeItems_cons_eq_ok_iff,
        hf.of_reflGen hv hdistinct.1, ih hrest hdistinct.2]

/-- Sequences that have the same at each place, up to a step, are taken for the same record. -/
theorem Respects.decode_array_iff_of_places (hr : r.Respects fields) (name : String)
    {items items' : List Value} (hdistinct : (Value.array items).Distinct)
    (h : ∀ place : Nat, Option.Rel (ReflGen (Change ((fields[place]?.map Prod.snd).getD .plain)))
      items[place]? items'[place]?)
    (source : Source) (x : β) :
    r.decode name source (.array items) = .ok x ↔
      r.decode name source (.array items') = .ok x := by
  rw [decode_array_eq_ok_iff, decode_array_eq_ok_iff]
  exact hr.decodeItems_iff_of_places h (Value.distinctItems_iff.mp hdistinct) source _ 0 x

end Record

namespace Codec

/-- **A record of different names respects the shape of its fields**, however it is spelled. -/
theorem record_respects {τ β σ : Type} {r : Record β σ} {fields : List (String × Shape)}
    (hr : r.Respects fields) (hnames : r.names.Nodup) (name : String) (ofContents : β → τ)
    (contents : τ → β) : (record name r ofContents contents).Respects (.record fields) := by
  intro v v' h hdistinct source x
  have hdistinct' := h.distinct_iff.mp hdistinct
  have hfields : (fields.map Prod.fst).Nodup := hr.names_eq ▸ hnames
  refine map_eq_ok_congr (fun y ↦ ?_) ofContents
  obtain ⟨members, members', rfl, rfl⟩ | ⟨items, items', rfl, rfl⟩ := h.cases_kind
  · exact hr.decode_object_iff_of_rel hnames name hdistinct hdistinct'
      (fun field hfield ↦ h.field_rel hdistinct.1 rfl hfields hfield) source y
  · exact hr.decode_array_iff_of_places name hdistinct h.place_rel source y

end Codec

end TenantView.Document
