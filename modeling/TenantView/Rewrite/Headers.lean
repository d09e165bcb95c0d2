import TenantView.Text.Bytes

/-!
# Header fields

The fields of a message have a name and a value.  Names do not distinguish case and are kept in
lower case; a name may occur several times, and then its values have an order.  The order of
different names says nothing, so that a listing of all fields is sorted by name.
-/

namespace TenantView.Rewrite

/-- The fields of a message, in the order of arrival. -/
structure Headers where
  fields : List (String × Bytes)
deriving DecidableEq

namespace Headers

/-- No fields. -/
def empty : Headers where
  fields := []

/-- The fields with the given names and values. -/
def ofList (fields : List (String × Bytes)) : Headers where
  fields := fields.map fun (name, value) ↦ (name.map Char.toLower, value)

/-- The values of a name in their order. -/
def values (headers : Headers) (name : String) : List Bytes :=
  (headers.fields.filter (·.1 = name)).map (·.2)

/-- The first value of a name. -/
def first? (headers : Headers) (name : String) : Option Bytes :=
  (headers.values name).head?

/-- The fields without those of a name. -/
def erase (headers : Headers) (name : String) : Headers where
  fields := headers.fields.filter (·.1 ≠ name)

/-- The fields with a single field of a name. -/
def set (headers : Headers) (name : String) (value : Bytes) : Headers where
  fields := (headers.erase name).fields ++ [(name, value)]

/-- All fields, sorted by name; the values of one name keep their order. -/
def toList (headers : Headers) : List (String × Bytes) :=
  headers.fields.mergeSort fun a b ↦ !decide (Text.byteLt b.1 a.1)

theorem values_erase_self (headers : Headers) (name : String) :
    (headers.erase name).values name = [] := by
  simp [values, erase, List.filter_filter]

theorem values_erase_of_ne (headers : Headers) {name other : String} (h : other ≠ name) :
    (headers.erase name).values other = headers.values other := by
  unfold values erase
  rw [List.filter_filter]
  congr 1
  refine List.filter_congr fun field _ ↦ ?_
  by_cases heq : field.1 = other
  · simp [heq, h]
  · simp [heq]

theorem values_set_self (headers : Headers) (name : String) (value : Bytes) :
    (headers.set name value).values name = [value] := by
  have h := headers.values_erase_self name
  unfold values at h ⊢
  simp only [set, List.filter_append, List.map_append, h]
  simp

theorem values_set_of_ne (headers : Headers) {name other : String} (value : Bytes)
    (h : other ≠ name) : (headers.set name value).values other = headers.values other := by
  have herase := headers.values_erase_of_ne h
  unfold values at herase ⊢
  simp only [set, List.filter_append, List.map_append, herase]
  simp [Ne.symm h]

theorem erase_erase_self (headers : Headers) (name : String) :
    (headers.erase name).erase name = headers.erase name := by
  simp [erase, List.filter_filter]

theorem erase_set_of_ne (headers : Headers) {name other : String} (value : Bytes)
    (h : name ≠ other) :
    (headers.set name value).erase other = (headers.erase other).set name value := by
  simp [set, erase, List.filter_filter, h, Bool.and_comm]

theorem set_set (headers : Headers) (name : String) (value other : Bytes) :
    (headers.set name value).set name other = headers.set name other := by
  simp [set, erase, List.filter_filter]

end Headers

end TenantView.Rewrite
