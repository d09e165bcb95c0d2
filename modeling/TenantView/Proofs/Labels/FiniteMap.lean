import Mathlib.Data.Finmap
import TenantView.LabelSet
import TenantView.Proofs.NamedEntries

/-!
# Label sets as finite maps

A label set keeps its entries in a list, but what it stands for is a finite map from names to
values (`toMap`).  Insertion sets one name of that map (`toMap_insert`), collecting pairs sets one
name after the other, and the number of labels is the number of names.  Because the entries are in
strictly increasing order, two sets that stand for the same map are the same set
(`toMap_injective`), whatever has been done to build them.
-/

namespace TenantView

/-- A finite map from names to values. -/
abbrev LabelMap :=
  Finmap fun _ : String ↦ String

/-- Sets one name after the other, so that the last value of a name stays. -/
def LabelMap.insertAll (map : LabelMap) (pairs : List (String × String)) : LabelMap :=
  pairs.foldl (fun map pair ↦ map.insert pair.1 pair.2) map

namespace LabelSet

variable {labels others : LabelSet} {name value : String}

/-! ## Looking up -/

theorem lookup_insertEntry (name value other : String) (entries : List (String × String)) :
    (insertEntry name value entries).lookup other =
      if other = name then some value else entries.lookup other := by
  induction entries with
  | nil => rw [insertEntry, lookup_cons_ite]
  | cons e entries ih =>
    obtain ⟨head, old⟩ := e
    simp only [insertEntry]
    by_cases hsame : name = head
    · subst hsame
      rw [if_pos rfl, lookup_cons_ite, lookup_cons_ite]
      split <;> rfl
    · rw [if_neg hsame]
      by_cases hbefore : Text.byteLt name head
      · rw [if_pos hbefore, lookup_cons_ite]
      · rw [if_neg hbefore, lookup_cons_ite, ih, lookup_cons_ite]
        by_cases hhead : other = head
        · rw [if_pos hhead, if_pos hhead, if_neg (fun hname ↦ hsame (hname.symm.trans hhead))]
        · rw [if_neg hhead, if_neg hhead]

/-- Insertion changes what one name has, and nothing else. -/
theorem find?_insert (labels : LabelSet) (name value other : String) :
    (labels.insert name value).find? other =
      if other = name then some value else labels.find? other :=
  lookup_insertEntry name value other labels.entries

theorem find?_eq_some_iff_mem : labels.find? name = some value ↔ (name, value) ∈ labels.toList :=
  lookup_eq_some_iff_mem labels.nodup_names

/-- **A set is determined by what its names have.** -/
theorem ext_find? (h : ∀ name, labels.find? name = others.find? name) : labels = others := by
  have hmem (e : String × String) : e ∈ labels.entries ↔ e ∈ others.entries := by
    rw [← lookup_eq_some_iff_mem labels.nodup_names, ← lookup_eq_some_iff_mem others.nodup_names]
    exact Eq.congr_left (h e.1)
  have hperm : labels.entries.Perm others.entries :=
    (List.perm_ext_iff_of_nodup labels.nodup_names.of_map others.nodup_names.of_map).mpr hmem
  have hentries : labels.entries = others.entries :=
    hperm.eq_of_pairwise
      (fun a b _ _ hab hba ↦ absurd (byteLt_trans hab hba) (not_byteLt_self a.1))
      labels.increasing others.increasing
  cases labels
  cases others
  cases hentries
  rfl

/-! ## The map of a set -/

/-- The finite map that the set stands for. -/
def toMap (labels : LabelSet) : LabelMap :=
  (labels.entries.map fun e ↦ (⟨e.1, e.2⟩ : Sigma fun _ : String ↦ String)).toFinmap

theorem dlookup_map_entries (name : String) (entries : List (String × String)) :
    (entries.map fun e ↦ (⟨e.1, e.2⟩ : Sigma fun _ : String ↦ String)).dlookup name =
      entries.lookup name := by
  induction entries with
  | nil => rfl
  | cons e entries ih =>
    obtain ⟨head, value⟩ := e
    rw [List.map_cons, lookup_cons_ite]
    split_ifs with h
    · subst h
      exact List.dlookup_cons_eq _ _ _
    · rw [List.dlookup_cons_ne _ _ h, ih]

@[simp] theorem lookup_toMap (labels : LabelSet) (name : String) :
    labels.toMap.lookup name = labels.find? name := by
  rw [toMap, Finmap.dlookup_list_toFinmap, dlookup_map_entries, find?]

/-- **Equal maps come from equal sets.** -/
theorem toMap_injective : Function.Injective toMap := fun labels others h ↦
  ext_find? fun name ↦ by rw [← lookup_toMap, ← lookup_toMap, h]

@[simp] theorem toMap_empty : empty.toMap = ∅ :=
  Finmap.ext_lookup fun name ↦ by rw [lookup_toMap, Finmap.lookup_empty]; rfl

/-- Insertion sets one name of the map. -/
@[simp] theorem toMap_insert (labels : LabelSet) (name value : String) :
    (labels.insert name value).toMap = labels.toMap.insert name value := by
  refine Finmap.ext_lookup fun other ↦ ?_
  rw [lookup_toMap, find?_insert]
  split_ifs with h
  · rw [h, Finmap.lookup_insert]
  · rw [Finmap.lookup_insert_of_ne _ h, lookup_toMap]

/-- The set with some labels set one after the other. -/
def insertAll (labels : LabelSet) (pairs : List (String × String)) : LabelSet :=
  pairs.foldl (fun labels (name, value) ↦ labels.insert name value) labels

/-- Labels that are set one after the other are set in the map. -/
@[simp] theorem toMap_insertAll (labels : LabelSet) (pairs : List (String × String)) :
    (labels.insertAll pairs).toMap = labels.toMap.insertAll pairs := by
  induction pairs generalizing labels with
  | nil => rfl
  | cons pair pairs ih =>
    change ((labels.insert pair.1 pair.2).insertAll pairs).toMap = _
    rw [ih, toMap_insert]
    rfl

/-- Collecting pairs sets one name after the other. -/
@[simp] theorem toMap_ofList (pairs : List (String × String)) :
    (ofList pairs).toMap = LabelMap.insertAll ∅ pairs := by
  change (empty.insertAll pairs).toMap = _
  rw [toMap_insertAll, toMap_empty]

theorem mem_toMap : name ∈ labels.toMap ↔ name ∈ labels.toList.map Prod.fst := by
  rw [← Finmap.lookup_isSome, lookup_toMap, ← not_iff_not, Option.not_isSome_iff_eq_none, find?,
    lookup_eq_none_iff_notMem, toList]

/-- The number of labels is the number of names. -/
theorem card_keys_toMap (labels : LabelSet) : labels.toMap.keys.card = labels.size := by
  have hkeys : labels.toMap.keys = (labels.entries.map Prod.fst).toFinset := by
    ext name
    rw [Finmap.mem_keys, mem_toMap, List.mem_toFinset, toList]
  rw [hkeys, List.toFinset_card_of_nodup labels.nodup_names, List.length_map, size]

theorem isEmpty_iff_toMap : labels.isEmpty = true ↔ labels.toMap = ∅ := by
  rw [isEmpty, List.isEmpty_iff, ← toMap_empty, toMap_injective.eq_iff]
  constructor
  · intro h
    cases labels
    cases h
    rfl
  · rintro rfl
    rfl

end LabelSet

end TenantView
