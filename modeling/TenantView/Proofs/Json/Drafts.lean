import TenantView.Json.Draft
import TenantView.Proofs.Json.RoundTrip

/-!
# What drafts come to

The names and the parts of a value stand in nobody's way, so that a value that is handed over comes
to itself (`toValue_ofValue`) and to its own text (`bytes_ofValue`).
-/

namespace TenantView.Json.Draft

mutual

/-- A value is spelled as it is. -/
theorem spell_ofValue : (v : Value) → (ofValue v).spell = .ok v
  | .null | .boolean _ | .number _ | .string _ => rfl
  | .array items => by rw [ofValue, spell, spellItems_ofItems items, Except.map]
  | .object members => by rw [ofValue, spell, spellMembers_ofMembers members, Except.map]

theorem spellItems_ofItems : (items : List Value) → spellItems (ofItems items) = .ok items
  | [] => rfl
  | v :: items => by
    rw [ofItems, spellItems, spell_ofValue v, spellItems_ofItems items]
    rfl

theorem spellMembers_ofMembers :
    (members : List (String × Value)) → spellMembers (ofMembers members) = .ok members
  | [] => rfl
  | (_, v) :: members => by
    rw [ofMembers, spellMembers, spell_ofValue v, spellMembers_ofMembers members]
    rfl

end

/-- A value comes to itself, if no name in it occurs twice. -/
theorem toValue_ofValue {v : Value} (h : v.Distinct) : (ofValue v).toValue = .ok v := by
  rw [toValue, spell_ofValue, Except.map, Value.collapse_of_distinct v h]

theorem bytes_ofValue (v : Value) : (ofValue v).bytes = .ok v.bytes := by
  rw [bytes, spell_ofValue, Except.map]

end TenantView.Json.Draft
