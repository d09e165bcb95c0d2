import TenantView.Proofs.Labels.Decoding
import TenantView.Proofs.Labels.FiniteMap

/-!
# Histories of label sets

A program has label sets in numbered variables.  It collects pairs into one, inserts into one, puts
what a document spells into one, and copies one into another.  Run with finite maps in the variables
instead, the program answers the same, and every set stands for the map in its place
(`run_refines`).  So it does not matter how a set has come about: what it answers, the order of its
entries and its text only depend on the map.
-/

namespace TenantView

open Json Document

/-! ## Programs -/

/-- What can be done with something that holds labels. -/
structure LabelHolder (σ : Type) where
  /-- Collects pairs. -/
  collect : List (String × String) → σ
  /-- Sets a name to a value; what the name had before comes back too. -/
  insert : σ → String → String → Option String × σ
  /-- Takes what a document spells. -/
  decode : Bytes → Option σ

/-- An operation on numbered variables. -/
inductive LabelOperation
  | collect (target : Nat) (pairs : List (String × String))
  | insert (target : Nat) (name value : String)
  | decode (target : Nat) (document : Bytes)
  | copy (source target : Nat)

/-- What an operation answers. -/
inductive LabelAnswer
  | nothing
  | previous (value : Option String)
  | decoded (succeeded : Bool)
deriving DecidableEq

namespace LabelHolder

variable {σ τ : Type}

/-- Carries an operation out.  A document that is refused changes nothing. -/
def step (holder : LabelHolder σ) (store : Nat → σ) :
    LabelOperation → LabelAnswer × (Nat → σ)
  | .collect target pairs => (.nothing, Function.update store target (holder.collect pairs))
  | .insert target name value =>
    let (previous, changed) := holder.insert (store target) name value
    (.previous previous, Function.update store target changed)
  | .decode target document =>
    match holder.decode document with
    | some taken => (.decoded true, Function.update store target taken)
    | none => (.decoded false, store)
  | .copy source target => (.nothing, Function.update store target (store source))

/-- Carries operations out, one after the other. -/
def run (holder : LabelHolder σ) (store : Nat → σ) :
    List LabelOperation → List LabelAnswer × (Nat → σ)
  | [] => ([], store)
  | operation :: program =>
    let (answer, store) := holder.step store operation
    let (answers, store) := holder.run store program
    (answer :: answers, store)

/-- One holder does what another does, seen through a view of its contents. -/
structure Simulates (holder : LabelHolder σ) (view : σ → τ) (model : LabelHolder τ) : Prop where
  collect : ∀ pairs, view (holder.collect pairs) = model.collect pairs
  insert : ∀ labels name value,
    Prod.map id view (holder.insert labels name value) = model.insert (view labels) name value
  decode : ∀ document, (holder.decode document).map view = model.decode document

namespace Simulates

variable {holder : LabelHolder σ} {view : σ → τ} {model : LabelHolder τ}

/-- An operation answers the same, and leaves what is seen in the variables the same. -/
theorem step (h : holder.Simulates view model) (store : Nat → σ)
    (operation : LabelOperation) :
    Prod.map id (view ∘ ·) (holder.step store operation) =
      model.step (view ∘ store) operation := by
  cases operation with
  | collect target pairs =>
    rw [LabelHolder.step, Prod.map_apply, Function.comp_update, h.collect]
    rfl
  | insert target name value =>
    have hinsert := h.insert (store target) name value
    rw [LabelHolder.step, LabelHolder.step, Function.comp_apply, ← hinsert, Prod.map_apply,
      Function.comp_update]
    rfl
  | decode target document =>
    rw [LabelHolder.step, LabelHolder.step, ← h.decode]
    cases holder.decode document with
    | none => rfl
    | some taken =>
      rw [Option.map_some, Prod.map_apply, Function.comp_update]
      rfl
  | copy source target =>
    rw [LabelHolder.step, Prod.map_apply, Function.comp_update]
    rfl

/-- A program answers the same, and leaves what is seen in the variables the same. -/
theorem run (h : holder.Simulates view model) (store : Nat → σ)
    (program : List LabelOperation) :
    Prod.map id (view ∘ ·) (holder.run store program) =
      model.run (view ∘ store) program := by
  induction program generalizing store with
  | nil => rfl
  | cons operation program ih =>
    have hstep := h.step store operation
    have hrest := ih (holder.step store operation).2
    rw [LabelHolder.run, LabelHolder.run, ← hstep]
    simp only [Prod.map_snd, Prod.map_fst, ← hrest]
    rfl

end Simulates

end LabelHolder

/-! ## Sets and maps -/

/-- Label sets as they are. -/
def LabelSet.holder : LabelHolder LabelSet where
  collect := ofList
  insert labels name value := (labels.find? name, labels.insert name value)
  decode document := (readDocument (Codec.labels.read nestingLimit) document).toOption

/-- Finite maps: the last value of a name stays. -/
def LabelMap.holder : LabelHolder LabelMap where
  collect := insertAll ∅
  insert map name value := (map.lookup name, map.insert name value)
  decode document := (LabelSet.spelledLabels? document).map (insertAll ∅)

namespace LabelSet

/-- Label sets do what finite maps do. -/
theorem holder_simulates : holder.Simulates toMap LabelMap.holder where
  collect := toMap_ofList
  insert labels name value := by
    change (labels.find? name, (labels.insert name value).toMap) =
      (labels.toMap.lookup name, labels.toMap.insert name value)
    rw [toMap_insert, lookup_toMap]
  decode document := by
    change (readDocument _ document).toOption.map toMap =
      (spelledLabels? document).map (LabelMap.insertAll ∅)
    cases hread : readDocument (Codec.labels.read nestingLimit) document with
    | ok labels =>
      obtain ⟨pairs, hspelled, rfl⟩ := readDocument_labels_eq_ok_iff.mp hread
      rw [hspelled, Option.map_some, ← toMap_ofList]
      rfl
    | error refusal =>
      cases hspelled : spelledLabels? document with
      | none => rfl
      | some pairs =>
        have hcollected := readDocument_labels_eq_ok_iff.mpr ⟨pairs, hspelled, rfl⟩
        cases hread.symm.trans hcollected

/-! ## What can be seen -/

/-- What can be seen of a label set is what can be seen of a map, with the names in increasing order
of their bytes. -/
structure Represents (labels : LabelSet) (map : LabelMap) : Prop where
  get_eq : ∀ name, labels.get name = (map.lookup name).getD ""
  size_eq : labels.size = map.keys.card
  isEmpty_iff : labels.isEmpty = true ↔ map = ∅
  mem_toList_iff : ∀ name value, (name, value) ∈ labels.toList ↔ map.lookup name = some value
  increasing : (labels.toList.map Prod.fst).Pairwise Text.byteLt
  /-- The text is the mapping of the entries in their order. -/
  readDocument_text :
    readDocument (readTree nestingLimit) labels.text = .ok (.object (members labels.toList))
  /-- The set is read back from its text. -/
  readDocument_labels_text :
    readDocument (Codec.labels.read nestingLimit) labels.text = .ok labels

/-- A set represents the map that it stands for. -/
theorem represents_toMap (labels : LabelSet) : labels.Represents labels.toMap where
  get_eq name := by rw [get, lookup_toMap]
  size_eq := labels.card_keys_toMap.symm
  isEmpty_iff := isEmpty_iff_toMap
  mem_toList_iff name value := by rw [lookup_toMap, find?_eq_some_iff_mem]
  increasing := labels.increasing.map Prod.fst fun _ _ h ↦ h
  readDocument_text := labels.readDocument_text
  readDocument_labels_text := labels.readDocument_labels_text

/-- The sets in the variables after a program that begins with empty ones. -/
def after (program : List LabelOperation) : Nat → LabelSet :=
  (holder.run (fun _ ↦ empty) program).2

/-- **Label sets are finite maps with one text each.**  Whatever a program does, it is answered what
finite maps would answer, every set represents the map in its place, and two sets are the same if
and only if their maps are, and if and only if their texts are. -/
theorem run_refines (program : List LabelOperation) :
    (holder.run (fun _ ↦ empty) program).1 = (LabelMap.holder.run (fun _ ↦ ∅) program).1 ∧
    (∀ i, (after program i).Represents ((LabelMap.holder.run (fun _ ↦ ∅) program).2 i)) ∧
    ∀ other i j,
      (after program i = after other j ↔
        (LabelMap.holder.run (fun _ ↦ ∅) program).2 i =
          (LabelMap.holder.run (fun _ ↦ ∅) other).2 j) ∧
      (after program i = after other j ↔ (after program i).text = (after other j).text) := by
  have hstart : toMap ∘ (fun _ ↦ empty) = fun _ : Nat ↦ (∅ : LabelMap) :=
    funext fun _ ↦ toMap_empty
  have hrun (program : List LabelOperation) :
      Prod.map id (toMap ∘ ·) (holder.run (fun _ ↦ empty) program) =
        LabelMap.holder.run (fun _ ↦ ∅) program :=
    hstart ▸ holder_simulates.run (fun _ ↦ empty) program
  simp only [← hrun]
  refine ⟨rfl, fun i ↦ (after program i).represents_toMap, fun other i j ↦ ⟨?_, ?_⟩⟩
  · exact toMap_injective.eq_iff.symm
  · exact text_injective.eq_iff.symm

end LabelSet

end TenantView
