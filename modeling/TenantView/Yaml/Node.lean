import TenantView.Yaml.Token

/-!
# Nodes

A YAML document is a tree of scalars, sequences and mappings.  A mapping may take over the entries
of other mappings under the key `<<`; its own entries come first, and then those that are named
first.  Beyond that no key may occur twice in a mapping.
-/

namespace TenantView.Yaml

/-- The tags that matter for how a scalar is read. -/
inductive Tag
  | untagged
  | text
  | binary
  /-- A tag of the standard for something that is not a text. -/
  | typed
  | foreign (name : String)
deriving DecidableEq, Repr

/-- What the tags of the standard begin with. -/
def standardTags : String := "tag:yaml.org,2002:"

/-- The tag with a full name. -/
def Tag.ofName (name : String) : Tag :=
  if name = standardTags ++ "str" then .text
  else if name = standardTags ++ "binary" then .binary
  else if name.startsWith standardTags then .typed
  else .foreign name

/-- A node. -/
inductive Node
  | scalar (tag : Tag) (style : Style) (text : String)
  | sequence (items : List Node)
  | mapping (entries : List (Node × Node))

namespace Node

mutual

/-- Whether two nodes are the same as keys, whatever the style of their scalars. -/
def isSame : Node → Node → Bool
  | .scalar tag _ text, .scalar tag' _ text' => tag = tag' && text = text'
  | .sequence items, .sequence items' => areSame items items'
  | .mapping entries, .mapping entries' => haveSame entries entries'
  | _, _ => false

/-- Whether the nodes of two lists are the same one by one. -/
def areSame : List Node → List Node → Bool
  | [], [] => true
  | a :: as, b :: bs => isSame a b && areSame as bs
  | _, _ => false

/-- Whether the entries of two lists are the same one by one. -/
def haveSame : List (Node × Node) → List (Node × Node) → Bool
  | [], [] => true
  | (k, v) :: es, (k', v') :: es' => isSame k k' && isSame v v' && haveSame es es'
  | _, _ => false

end

/-- Whether a text is one of the bare words for nothing. -/
def isNullWord (text : String) : Bool :=
  text = "" || text = "~" || text.toLower = "null"

/-- Whether a node is nothing. -/
def isNull : Node → Bool
  | .scalar _ .plain text => isNullWord text
  | _ => false

/-- Whether a key takes over the entries of other mappings. -/
def isMergeKey : Node → Bool
  | .scalar .untagged .plain text => text = "<<"
  | _ => false

/-- The entries that a node adds to the mapping that takes them over. -/
def mergedEntries : Node → Option (List (Node × Node))
  | .mapping entries => some entries
  | .sequence items => do
    let parts ← items.mapM fun
      | .mapping entries => some entries
      | _ => none
    return parts.flatten
  | .scalar tag style text => if isNull (.scalar tag style text) then some [] else none

/-- The entries with another one, unless its key occurs already. -/
def addMissing (entries : List (Node × Node)) (entry : Node × Node) : List (Node × Node) :=
  if entries.any (isSame ·.1 entry.1) then entries else entries ++ [entry]

/-- The entries of a mapping with those that it takes over; none if a key occurs twice. -/
def mergeEntries (entries : List (Node × Node)) : Option (List (Node × Node)) := do
  let own := entries.filter (!isMergeKey ·.1)
  let distinct := own.foldl addMissing []
  if distinct.length ≠ own.length then none
  else
    let merged ← (entries.filter (isMergeKey ·.1)).mapM (mergedEntries ·.2)
    return merged.flatten.foldl addMissing distinct

mutual

/-- The node in which every mapping has its full entries; none if a key occurs twice in one. -/
def resolve : Node → Option Node
  | .scalar tag style text => some (.scalar tag style text)
  | .sequence items => (resolveItems items).map .sequence
  | .mapping entries => (resolveEntries entries).bind fun entries ↦
    (mergeEntries entries).map .mapping

/-- The resolved nodes of a list. -/
def resolveItems : List Node → Option (List Node)
  | [] => some []
  | item :: items => do
    let item ← resolve item
    return item :: (← resolveItems items)

/-- The entries of a list with resolved keys and values. -/
def resolveEntries : List (Node × Node) → Option (List (Node × Node))
  | [] => some []
  | (key, value) :: entries => do
    let key ← resolve key
    let value ← resolve value
    return (key, value) :: (← resolveEntries entries)

end

end Node

end TenantView.Yaml
