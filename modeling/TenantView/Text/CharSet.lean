import TenantView.Text.CharRanges
import TenantView.Text.Folding

/-!
# Sets of characters

A set of characters is described by tables and ranges and the operations of sets, and by closing
a set under an equivalence of characters such as being the same up to case.  What a description
means is said by its membership test (`contains`).
-/

namespace TenantView.Text

/-- A description of a set of characters. -/
inductive CharSet
  | empty
  | range (first last : Char)
  | table (ranges : Thunk CharRanges)
  | union (a b : CharSet)
  | inter (a b : CharSet)
  | symmDiff (a b : CharSet)
  | compl (a : CharSet)
  /-- The characters that have an equivalent in the set. -/
  | closure (equivalents : Char → List Char) (a : CharSet)

namespace CharSet

instance : Inhabited CharSet :=
  ⟨empty⟩

instance : Union CharSet :=
  ⟨union⟩

instance : Inter CharSet :=
  ⟨inter⟩

instance : SDiff CharSet :=
  ⟨fun a b ↦ inter a (compl b)⟩

/-- The set with a single member. -/
def singleton (c : Char) : CharSet :=
  range c c

/-- The set of the characters listed in a table, which is decoded when it is first needed. -/
def ofLines (lines : List String) : CharSet :=
  table (Thunk.mk fun _ ↦ .ofLines lines)

/-- Whether the set holds the character. -/
def contains : CharSet → Char → Bool
  | empty, _ => false
  | range first last, c => first ≤ c && c ≤ last
  | table ranges, c => ranges.get.contains c
  | union a b, c => a.contains c || b.contains c
  | inter a b, c => a.contains c && b.contains c
  | symmDiff a b, c => a.contains c != b.contains c
  | compl a, c => !a.contains c
  | closure equivalents a, c => (equivalents c).any a.contains

@[simp] theorem contains_empty (c : Char) : empty.contains c = false :=
  rfl

@[simp] theorem contains_union (a b : CharSet) (c : Char) :
    (a ∪ b).contains c = (a.contains c || b.contains c) :=
  rfl

@[simp] theorem contains_inter (a b : CharSet) (c : Char) :
    (a ∩ b).contains c = (a.contains c && b.contains c) :=
  rfl

@[simp] theorem contains_sdiff (a b : CharSet) (c : Char) :
    (a \ b).contains c = (a.contains c && !b.contains c) :=
  rfl

@[simp] theorem contains_compl (a : CharSet) (c : Char) : a.compl.contains c = !a.contains c :=
  rfl

@[simp] theorem contains_singleton {c d : Char} :
    (singleton c).contains d = true ↔ d = c := by
  simp only [singleton, contains, Bool.and_eq_true, decide_eq_true_eq]
  exact ⟨fun h ↦ Char.le_antisymm h.2 h.1, fun h ↦ h ▸ ⟨Char.le_refl _, Char.le_refl _⟩⟩

end CharSet

end TenantView.Text
