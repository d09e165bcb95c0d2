import Mathlib.Data.List.Lookmap
import Mathlib.Data.List.Nodup
import Mathlib.Data.List.Perm.Lattice

/-!
# Entries with names

Labels and the members of a mapping are lists of entries with names.  If no name repeats, a name
has something exactly if the list has that entry (`lookup_eq_some_iff_mem`), so that what names have
does not depend on the order of the entries (`lookup_eq_lookup_of_perm`).
-/

namespace TenantView

variable {α : Type} {name : String} {x : α} {entries others : List (String × α)}

theorem lookup_cons_ite (name other : String) (x : α) (entries : List (String × α)) :
    ((other, x) :: entries).lookup name = if name = other then some x else entries.lookup name := by
  by_cases h : name = other
  · rw [h, List.lookup_cons_self, if_pos rfl]
  · rw [List.lookup_cons, beq_false_of_ne h, if_neg h]

theorem lookup_eq_none_iff_notMem : entries.lookup name = none ↔ name ∉ entries.map Prod.fst := by
  simp only [List.lookup_eq_none_iff, bne_iff_ne, List.mem_map, not_exists, not_and]
  exact ⟨fun h e he heq ↦ h e he heq.symm, fun h e he heq ↦ h e he heq.symm⟩

theorem mem_of_lookup_eq_some (h : entries.lookup name = some x) : (name, x) ∈ entries := by
  obtain ⟨before, after, rfl, -⟩ := List.lookup_eq_some_iff.mp h
  exact List.mem_append_right before List.mem_cons_self

/-- If no name repeats, the name of an entry has what stands in it. -/
theorem lookup_eq_some_iff_mem (hnames : (entries.map Prod.fst).Nodup) :
    entries.lookup name = some x ↔ (name, x) ∈ entries := by
  refine ⟨mem_of_lookup_eq_some, fun h ↦ ?_⟩
  induction entries with
  | nil => cases h
  | cons e entries ih =>
    obtain ⟨other, y⟩ := e
    rw [List.map_cons, List.nodup_cons] at hnames
    rw [lookup_cons_ite]
    rcases List.mem_cons.mp h with heq | hmem
    · cases heq
      exact if_pos rfl
    · have hin : name ∈ entries.map Prod.fst := List.mem_map_of_mem hmem
      rw [if_neg (ne_of_mem_of_not_mem hin hnames.1)]
      exact ih hnames.2 hmem

/-- If no name repeats, the order of the entries makes no difference. -/
theorem lookup_eq_lookup_of_perm (hnames : (entries.map Prod.fst).Nodup)
    (hperm : entries.Perm others) : entries.lookup name = others.lookup name := by
  have hothers : (others.map Prod.fst).Nodup := (hperm.map Prod.fst).nodup_iff.mp hnames
  refine Option.ext fun x ↦ ?_
  rw [lookup_eq_some_iff_mem hnames, lookup_eq_some_iff_mem hothers, hperm.mem_iff]

/-- If no name repeats, the name of an entry is not that of another before or behind it. -/
theorem notMem_of_nodup_middle {before after : List (String × α)}
    (hnames : ((before ++ (name, x) :: after).map Prod.fst).Nodup) :
    name ∉ before.map Prod.fst ∧ name ∉ after.map Prod.fst := by
  rw [List.map_append, List.map_cons, List.nodup_middle, List.nodup_cons, List.mem_append,
    not_or] at hnames
  exact hnames.1

end TenantView
