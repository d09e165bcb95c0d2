import Mathlib.Data.Option.Basic
import Mathlib.Logic.Relation
import TenantView.Proofs.Json.RoundTrip
import TenantView.Proofs.NamedEntries

/-!
# Rearranged documents

A document says the same if the members of its mappings stand in another order, and if members are
added or removed that no record has a field for.  What counts as a field depends on what a part is
read as, which a `Shape` tells: a record has fields, and a tagged record has those of the kind that
its tag says.  A `Change` is one such step somewhere in a value, and values are `Rearranged` if a
chain of steps leads from one to the other, in either direction.  After a step, what each known name
and each place has is the same or is itself changed by one step (`Change.field_rel`,
`Change.place_rel`).
-/

namespace TenantView.Document

open TenantView.Json Relation

/-! ## Shapes -/

/-- What a part of a document is read as, so far as it says which names are fields. -/
inductive Shape
  /-- A part that is not read as a record, so that no name in it is passed over. -/
  | plain
  /-- A part that is kept as it is, with the order of its members. -/
  | verbatim
  | list (item : Shape)
  /-- A record with the given fields in their order. -/
  | record (fields : List (String × Shape))
  /-- A record whose kind, and with it the fields, is what the tag says. -/
  | tagged (tag : String) (variants : List (String × List (String × Shape)))

namespace Shape

/-- The fields of the variant that a value names; what names no variant has no fields. -/
def variantFields (variants : List (String × List (String × Shape))) :
    Option Value → List (String × Shape)
  | some (.string kind) => (variants.lookup kind).getD []
  | _ => []

/-- The fields of a part that is read as a record, where `said tag` is what it says under a tag. -/
def fields? (said : String → Option Value) : Shape → Option (List (String × Shape))
  | record fields => some fields
  | tagged tag variants => some ((tag, plain) :: variantFields variants (said tag))
  | _ => none

/-- The fields of a record that is spelled as a mapping. -/
def fieldsByName? (shape : Shape) (members : List (String × Value)) :
    Option (List (String × Shape)) :=
  shape.fields? fun tag ↦ members.lookup tag

/-- The fields of a record that is spelled as a sequence, which starts with the tag. -/
def fieldsByPlace? (shape : Shape) (items : List Value) : Option (List (String × Shape)) :=
  shape.fields? fun _ ↦ items.head?

/-- What the content of a name is read as; an unknown name is not read as anything. -/
def member (shape : Shape) (members : List (String × Value)) (name : String) : Shape :=
  match shape with
  | verbatim => verbatim
  | shape => (((shape.fieldsByName? members).getD []).lookup name).getD plain

/-- What the item at a place is read as. -/
def item (shape : Shape) (items : List Value) (place : Nat) : Shape :=
  match shape with
  | verbatim => verbatim
  | list item => item
  | shape => (((shape.fieldsByPlace? items).getD [])[place]?.map Prod.snd).getD plain

variable {shape : Shape} {fields : List (String × Shape)}

/-- A known name is read as its field says. -/
theorem member_eq {members : List (String × Value)} (h : shape.fieldsByName? members = some fields)
    (hnames : (fields.map Prod.fst).Nodup) {field : String × Shape} (hfield : field ∈ fields) :
    shape.member members field.1 = field.2 := by
  have hlookup : fields.lookup field.1 = some field.2 := (lookup_eq_some_iff_mem hnames).mpr hfield
  cases shape with
  | verbatim => cases h
  | _ =>
    rw [member, h, Option.getD_some, hlookup, Option.getD_some]
    exact nofun

/-- The item at a place is read as the field at this place says. -/
theorem item_eq {items : List Value} (h : shape.fieldsByPlace? items = some fields) (place : Nat) :
    shape.item items place = (fields[place]?.map Prod.snd).getD plain := by
  cases shape with
  | record _ => cases h; rfl
  | tagged _ _ => cases h; rfl
  | _ => cases h

end Shape

/-! ## Changes -/

/-- One step between values of a shape: the members of one mapping are permuted, or a member is put
in front of them that no field is there for, and this in any part that is not kept as it is. -/
inductive Change : Shape → Value → Value → Prop
  | permute {shape : Shape} {members members' : List (String × Value)}
    (hshape : shape ≠ .verbatim) (hperm : members.Perm members') :
    Change shape (.object members) (.object members')
  | unknown {shape : Shape} {fields : List (String × Shape)} {members : List (String × Value)}
    {name : String} {content : Value} (hfields : shape.fieldsByName? members = some fields)
    (hname : name ∉ fields.map Prod.fst) (hnew : name ∉ members.map Prod.fst)
    (hcontent : content.Distinct) :
    Change shape (.object members) (.object ((name, content) :: members))
  | member {shape : Shape} {before after : List (String × Value)} {name : String} {v v' : Value}
    (h : Change (shape.member (before ++ (name, v) :: after) name) v v') :
    Change shape (.object (before ++ (name, v) :: after)) (.object (before ++ (name, v') :: after))
  | item {shape : Shape} {before after : List Value} {v v' : Value}
    (h : Change (shape.item (before ++ v :: after) before.length) v v') :
    Change shape (.array (before ++ v :: after)) (.array (before ++ v' :: after))

/-- Values of a shape that come from each other by permuting members and by adding and removing
members that no field is there for. -/
def Rearranged (shape : Shape) : Value → Value → Prop :=
  EqvGen (Change shape)

namespace Change

variable {shape : Shape} {v v' : Value}

/-- Nothing changes in a part that is kept as it is. -/
theorem shape_ne_verbatim (h : Change shape v v') : shape ≠ .verbatim := by
  induction h with
  | permute hshape _ => exact hshape
  | unknown hfields _ _ _ =>
    rintro rfl
    cases hfields
  | member _ ih =>
    rintro rfl
    exact ih rfl
  | item _ ih =>
    rintro rfl
    exact ih rfl

/-- Where no name is repeated, none is repeated after a change, and the other way round. -/
theorem distinct_iff (h : Change shape v v') : v.Distinct ↔ v'.Distinct := by
  induction h with
  | permute _ hperm =>
    simp only [Value.Distinct, Value.distinctMembers_iff, (hperm.map Prod.fst).nodup_iff,
      hperm.mem_iff]
  | unknown _ _ hnew hcontent =>
    simp only [Value.Distinct, Value.DistinctMembers, List.map_cons, List.nodup_cons, hnew,
      hcontent, not_false_eq_true, true_and]
  | member _ ih =>
    simp only [Value.Distinct, Value.distinctMembers_iff, List.map_append, List.map_cons,
      List.forall_mem_append, List.forall_mem_cons, ih]
  | item _ ih =>
    simp only [Value.Distinct, Value.distinctItems_iff, List.forall_mem_append,
      List.forall_mem_cons, ih]

/-- A change leads from a mapping to a mapping, or from a sequence to a sequence. -/
theorem cases_kind (h : Change shape v v') :
    (∃ members members', v = .object members ∧ v' = .object members') ∨
      ∃ items items', v = .array items ∧ v' = .array items' := by
  cases h with
  | permute _ _ => exact .inl ⟨_, _, rfl, rfl⟩
  | unknown _ _ _ _ => exact .inl ⟨_, _, rfl, rfl⟩
  | member _ => exact .inl ⟨_, _, rfl, rfl⟩
  | item _ => exact .inr ⟨_, _, rfl, rfl⟩

/-- A text is not changed, and nothing is changed into a text. -/
theorem eq_string_iff (h : ReflGen (Change shape) v v') (s : String) :
    v = .string s ↔ v' = .string s := by
  cases h with
  | refl => exact Iff.rfl
  | single h =>
    obtain ⟨_, _, rfl, rfl⟩ | ⟨_, _, rfl, rfl⟩ := h.cases_kind
    · exact iff_of_false nofun nofun
    · exact iff_of_false nofun nofun

/-- The same text is there, or missing, after a change. -/
theorem eq_text_iff_of_rel {content content' : Option Value}
    (h : Option.Rel (ReflGen (Change shape)) content content') (text : Option String) :
    content = text.map .string ↔ content' = text.map .string := by
  cases h with
  | none => exact Iff.rfl
  | some h =>
    cases text with
    | none => exact iff_of_false nofun nofun
    | some s => rw [Option.map_some, Option.some_inj, Option.some_inj, eq_string_iff h]

theorem rel_refl (o : Option Value) : Option.Rel (ReflGen (Change shape)) o o := by
  cases o with
  | none => exact .none
  | some v => exact .some .refl

section Names

variable {members members' : List (String × Value)}

/-- What a name has, unless it may be passed over, stays the same or is changed by one step. -/
theorem lookup_rel (h : Change shape (.object members) (.object members'))
    (hnames : (members.map Prod.fst).Nodup) {name : String}
    (hknown : ∀ fields, shape.fieldsByName? members = some fields →
      name ∈ fields.map Prod.fst) :
    Option.Rel (ReflGen (Change (shape.member members name))) (members.lookup name)
      (members'.lookup name) := by
  cases h with
  | permute _ hperm =>
    rw [lookup_eq_lookup_of_perm hnames hperm]
    exact rel_refl _
  | unknown hfields hname _ _ =>
    rw [lookup_cons_ite, if_neg (ne_of_mem_of_not_mem (hknown _ hfields) hname)]
    exact rel_refl _
  | @member _ before after other v v' h =>
    by_cases heq : name = other
    · subst heq
      -- The name stands nowhere else, so that the changed member is the one that is found.
      have hbefore : before.lookup name = none :=
        lookup_eq_none_iff_notMem.mpr (notMem_of_nodup_middle hnames).1
      rw [List.lookup_append, List.lookup_append, hbefore, List.lookup_cons_self,
        List.lookup_cons_self]
      exact .some (.single h)
    · rw [List.lookup_append, List.lookup_append, lookup_cons_ite, lookup_cons_ite, if_neg heq,
        if_neg heq]
      exact rel_refl _

/-- **What the name of a field has stays the same or is changed by one step.** -/
theorem field_rel (h : Change shape (.object members) (.object members'))
    (hnames : (members.map Prod.fst).Nodup) {fields : List (String × Shape)}
    (hfields : shape.fieldsByName? members = some fields)
    (hfieldNames : (fields.map Prod.fst).Nodup) {field : String × Shape} (hfield : field ∈ fields) :
    Option.Rel (ReflGen (Change field.2)) (members.lookup field.1) (members'.lookup field.1) := by
  rw [← Shape.member_eq hfields hfieldNames hfield]
  refine h.lookup_rel hnames fun others hothers ↦ ?_
  cases hfields.symm.trans hothers
  exact List.mem_map_of_mem hfield

end Names

section Places

variable {items items' : List Value}

/-- **What a place has stays the same or is changed by one step.** -/
theorem place_rel (h : Change shape (.array items) (.array items')) (place : Nat) :
    Option.Rel (ReflGen (Change (shape.item items place))) items[place]? items'[place]? := by
  cases h with
  | @item _ before after v v' h =>
    obtain hplace | rfl | hplace := Nat.lt_trichotomy place before.length
    · rw [List.getElem?_append_left hplace, List.getElem?_append_left hplace]
      exact rel_refl _
    · rw [List.getElem?_append_right le_rfl, List.getElem?_append_right le_rfl, Nat.sub_self]
      exact .some (.single h)
    · obtain ⟨further, rfl⟩ := Nat.exists_eq_add_of_lt hplace
      rw [List.getElem?_append_right hplace.le, List.getElem?_append_right hplace.le,
        Nat.add_assoc, Nat.add_sub_cancel_left]
      exact rel_refl _

/-- Sequences that are related at each place are empty together, or start with related items. -/
theorem cases_of_places {r : Nat → Value → Value → Prop}
    (h : ∀ place : Nat, Option.Rel (r place) items[place]? items'[place]?) :
    (items = [] ∧ items' = []) ∨ ∃ v v' rest rest', items = v :: rest ∧ items' = v' :: rest' ∧
      r 0 v v' ∧ ∀ place, Option.Rel (r (place + 1)) rest[place]? rest'[place]? := by
  have hfront := h 0
  cases items with
  | nil =>
    cases items' with
    | nil => exact .inl ⟨rfl, rfl⟩
    | cons _ _ => cases hfront
  | cons v rest =>
    cases items' with
    | nil => cases hfront
    | cons v' rest' =>
      cases hfront with
      | some hv => exact .inr ⟨v, v', rest, rest', rfl, rfl, hv, fun place ↦ h (place + 1)⟩

end Places

end Change

theorem Rearranged.distinct_iff {shape : Shape} {v v' : Value} (h : Rearranged shape v v') :
    v.Distinct ↔ v'.Distinct := by
  induction h with
  | rel _ _ h => exact h.distinct_iff
  | refl _ => exact Iff.rfl
  | symm _ _ _ ih => exact ih.symm
  | trans _ _ _ _ _ ih ih' => exact ih.trans ih'

end TenantView.Document
