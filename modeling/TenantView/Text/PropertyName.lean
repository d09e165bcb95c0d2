import TenantView.Text.Property
import TenantView.Text.Script

/-!
# Properties by name

A set of characters is asked for by the name of a binary property, a general category or a
script, or by the name of one of the latter two properties with a value.  Names are compared
loosely: case, separators and a leading `is` do not count.
-/

namespace TenantView.Text.PropertyName

/-- Whether a character counts in a name. -/
def isSignificant (c : Char) : Bool :=
  c.toNat < 0x80 && !(c = ' ' || c = '_' || c = '-')

/-- What is left of a name for comparison. -/
def significant (cs : List Char) : String :=
  String.ofList ((cs.filter isSignificant).map Char.toLower)

/-- The form of a name that is compared.  The category of other characters has a short name that
is left of `isc` by dropping `is`, and therefore keeps it. -/
def loose (name : List Char) : String :=
  match name with
  | i :: s :: rest =>
    if i.toLower = 'i' ∧ s.toLower = 's' then
      let rest := significant rest
      if rest = "c" then "isc" else rest
    else significant name
  | _ => significant name

/-- The set of the first entry that has the name. -/
def lookup (names : List (List String × CharSet)) (name : String) : Option CharSet :=
  (names.find? fun entry ↦ entry.1.contains name).map (·.2)

/-- The abbreviations that are read as categories although properties have them too. -/
def categoryFirst : List String :=
  ["cf", "sc", "lc"]

/-- The set that a single name stands for: a property, else a category, else a script. -/
def named? (name : List Char) : Option CharSet :=
  let name := loose name
  let property := if categoryFirst.contains name then none else lookup Property.names name
  property.or ((lookup Category.names name).or (lookup Script.names name))

/-- The set of the characters for which a property has a value. -/
def withValue? (property value : List Char) : Option CharSet :=
  match loose property with
  | "gc" | "generalcategory" => lookup Category.names (loose value)
  | "sc" | "script" => lookup Script.names (loose value)
  | _ => none

end TenantView.Text.PropertyName
