import TenantView.Text.Bytes

/-!
# Label sets

A label set maps names to values.  Its entries are kept in strictly increasing order of the
bytes of their names, so that equal sets have equal entries whatever their history, and so that
writing a set needs no sorting.  Seen as a finite map (`find?`), insertion changes one name and
nothing else.
-/

namespace TenantView

/-- A finite map from label names to label values. -/
structure LabelSet where
  entries : List (String × String)
  increasing : entries.Pairwise fun a b ↦ Text.byteLt a.1 b.1
deriving DecidableEq

namespace LabelSet

/-- The set without labels. -/
def empty : LabelSet where
  entries := []
  increasing := .nil

instance : Inhabited LabelSet :=
  ⟨empty⟩

/-- The entries with one name set to a value; greater names come behind it. -/
def insertEntry (name value : String) : List (String × String) → List (String × String)
  | [] => [(name, value)]
  | (other, old) :: rest =>
    if name = other then (name, value) :: rest
    else if Text.byteLt name other then (name, value) :: (other, old) :: rest
    else (other, old) :: insertEntry name value rest

theorem mem_insertEntry {name value : String} {entries : List (String × String)}
    {e : String × String} (h : e ∈ insertEntry name value entries) :
    e = (name, value) ∨ e ∈ entries := by
  induction entries with
  | nil => simpa [insertEntry] using h
  | cons head rest ih =>
    obtain ⟨other, old⟩ := head
    simp only [insertEntry] at h
    split at h
    · simp only [List.mem_cons] at h ⊢
      rcases h with h | h
      · exact .inl h
      · exact .inr (.inr h)
    · split at h
      · simpa only [List.mem_cons] using h
      · simp only [List.mem_cons] at h ⊢
        rcases h with h | h
        · exact .inr (.inl h)
        · rcases ih h with h | h
          · exact .inl h
          · exact .inr (.inr h)

/-- Of two different names one comes before the other. -/
theorem byteLt_of_not_byteLt {s t : String} (hne : s ≠ t) (h : ¬ Text.byteLt s t) :
    Text.byteLt t s := by
  have hbytes : Text.toBytes s ≠ Text.toBytes t := fun heq ↦ hne (Text.toBytes_injective heq)
  unfold Text.byteLt at h ⊢
  rcases Std.lt_trichotomy (Text.toBytes s) (Text.toBytes t) with hlt | heq | hgt
  · exact absurd hlt h
  · exact absurd heq hbytes
  · exact hgt

theorem byteLt_trans {s t u : String} (h : Text.byteLt s t) (h' : Text.byteLt t u) :
    Text.byteLt s u :=
  Std.lt_trans h h'

theorem not_byteLt_self (s : String) : ¬ Text.byteLt s s :=
  Std.lt_irrefl

/-- Insertion keeps the entries in increasing order. -/
theorem increasing_insertEntry {name value : String} {entries : List (String × String)}
    (h : entries.Pairwise fun a b ↦ Text.byteLt a.1 b.1) :
    (insertEntry name value entries).Pairwise fun a b ↦ Text.byteLt a.1 b.1 := by
  induction entries with
  | nil => simp [insertEntry]
  | cons head rest ih =>
    obtain ⟨other, old⟩ := head
    rw [List.pairwise_cons] at h
    simp only [insertEntry]
    split
    · next heq =>
      subst heq
      exact List.pairwise_cons.mpr ⟨h.1, h.2⟩
    · next hne =>
      split
      · next hlt =>
        refine List.pairwise_cons.mpr ⟨?_, List.pairwise_cons.mpr h⟩
        intro e he
        rcases List.mem_cons.mp he with rfl | he
        · exact hlt
        · exact byteLt_trans hlt (h.1 e he)
      · next hge =>
        refine List.pairwise_cons.mpr ⟨?_, ih h.2⟩
        intro e he
        rcases mem_insertEntry he with rfl | he
        · exact byteLt_of_not_byteLt hne hge
        · exact h.1 e he

/-- No name has two entries. -/
theorem nodup_names (labels : LabelSet) : (labels.entries.map Prod.fst).Nodup := by
  refine List.Pairwise.map Prod.fst (fun a b hlt heq ↦ ?_) labels.increasing
  rw [heq] at hlt
  exact not_byteLt_self b.1 hlt

/-- The set with one name set to a value. -/
def insert (labels : LabelSet) (name value : String) : LabelSet where
  entries := insertEntry name value labels.entries
  increasing := increasing_insertEntry labels.increasing

/-- The value of a name, if the set has it. -/
def find? (labels : LabelSet) (name : String) : Option String :=
  labels.entries.lookup name

/-- The value of a name; a missing label counts as empty. -/
def get (labels : LabelSet) (name : String) : String :=
  (labels.find? name).getD ""

/-- The number of labels. -/
def size (labels : LabelSet) : Nat :=
  labels.entries.length

/-- Whether there are no labels. -/
def isEmpty (labels : LabelSet) : Bool :=
  labels.entries.isEmpty

/-- The names and values in increasing order of names. -/
def toList (labels : LabelSet) : List (String × String) :=
  labels.entries

/-- The set built by setting each name in turn, so that the last value of a name stays. -/
def ofList (pairs : List (String × String)) : LabelSet :=
  pairs.foldl (fun labels (name, value) ↦ labels.insert name value) empty

end LabelSet

end TenantView
