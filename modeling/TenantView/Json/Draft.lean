import TenantView.Json.Fault

/-!
# Drafts

What is to be written is handed over part by part.  A draft is what has been handed over: it looks
like a value, but the names in its mappings may be anything, and a part may refuse to be written.
A draft comes to a value, or directly to text, if every name can be spelled and no part refuses.
-/

namespace TenantView.Json

/-- What has been handed over to be written. -/
inductive Draft
  | null
  | boolean (value : Bool)
  | number (value : Number)
  | string (value : String)
  | array (items : List Draft)
  | object (members : List (Draft × Draft))
  | refused (reason : String)

namespace Draft

/-- The name that a part spells in front of another one.  Parts that have parts have none. -/
def name : Draft → Except Cause String
  | boolean value => .ok (toString value)
  | number value => .ok value.text
  | string value => .ok value
  | refused reason => .error (.unwritable reason)
  | null | array _ | object _ => .error .nameNotString

mutual

/-- The draft with its names spelled; the first part that stands in the way is reported. -/
def spell : Draft → Except Cause Value
  | null => .ok .null
  | boolean value => .ok (.boolean value)
  | number value => .ok (.number value)
  | string value => .ok (.string value)
  | array items => (spellItems items).map .array
  | object members => (spellMembers members).map .object
  | refused reason => .error (.unwritable reason)

/-- The items of a sequence with their names spelled. -/
def spellItems : List Draft → Except Cause (List Value)
  | [] => .ok []
  | draft :: rest => do
    let value ← draft.spell
    let values ← spellItems rest
    return value :: values

/-- The members of a mapping with their names spelled. -/
def spellMembers : List (Draft × Draft) → Except Cause (List (String × Value))
  | [] => .ok []
  | (key, draft) :: rest => do
    let name ← key.name
    let value ← draft.spell
    let members ← spellMembers rest
    return (name, value) :: members

end

/-- The value that a draft comes to; it has one member of each name. -/
def toValue (draft : Draft) : Except Cause Value :=
  draft.spell.map Value.collapse

/-- The text of a draft, with all members. -/
def bytes (draft : Draft) : Except Cause Bytes :=
  draft.spell.map Value.bytes

mutual

/-- A value as it is handed over. -/
def ofValue : Value → Draft
  | .null => null
  | .boolean value => boolean value
  | .number value => number value
  | .string value => string value
  | .array items => array (ofItems items)
  | .object members => object (ofMembers members)

/-- The items of a sequence as they are handed over. -/
def ofItems : List Value → List Draft
  | [] => []
  | value :: rest => ofValue value :: ofItems rest

/-- The members of a mapping as they are handed over. -/
def ofMembers : List (String × Value) → List (Draft × Draft)
  | [] => []
  | (name, value) :: rest => (string name, ofValue value) :: ofMembers rest

end

end Draft

end TenantView.Json
