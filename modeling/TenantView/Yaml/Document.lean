import TenantView.Yaml.Lexer
import TenantView.Yaml.Node

/-!
# From tokens to a document

The tokens of a document are read as one node.  An entry may be left out on either side of a key;
it is then nothing.  An anchor gives a node a name, and an alias stands for the node that last got
its name.  A text must not hold a second document; but what cannot be read behind the end of the
first one is not looked at.
-/

namespace TenantView.Yaml

/-- The names that nodes have been given.  A node gets its number when its name is met, so that it
is known by number only after it has been read to its end. -/
structure Anchors where
  names : List (String × Nat) := []
  nodes : List (Nat × Node) := []
  count : Nat := 0

namespace Anchors

/-- A name for the next node. -/
def declare (a : Anchors) (name : String) : Anchors :=
  { a with names := (name, a.count) :: a.names, count := a.count + 1 }

/-- The node that a number was given for. -/
def define (a : Anchors) (number : Nat) (node : Node) : Anchors :=
  { a with nodes := (number, node) :: a.nodes }

/-- The node with a name. -/
def find? (a : Anchors) (name : String) : Option Node := do
  a.nodes.lookup (← a.names.lookup name)

end Anchors

/-- What stands in front of a node. -/
structure Properties where
  anchor? : Option Nat := none
  tag : Tag := .untagged
  isEmpty : Bool := true

/-- What is left to read, with the names so far. -/
structure Remaining where
  tokens : List Token
  anchors : Anchors := {}

namespace Remaining

/-- Behind the first token. -/
def tail (r : Remaining) : Remaining :=
  { r with tokens := r.tokens.tail }

/-- What the handle of a tag stands for. -/
def expansion? (handles : List (String × String)) (handle : String) : Option String :=
  match handles.lookup handle with
  | some expansion => some expansion
  | none =>
    if handle = "" then some ""
    else if handle = "!" then some "!"
    else if handle = "!!" then some standardTags
    else none

/-- Reads a tag if there is one. -/
def readTag (handles : List (String × String)) (p : Properties) (r : Remaining) :
    Option (Properties × Remaining) :=
  match r.tokens with
  | .tag handle suffix :: _ => do
    let name := (← expansion? handles handle) ++ suffix
    return ({ p with tag := .ofName name, isEmpty := false }, r.tail)
  | _ => some (p, r)

/-- Reads an anchor if there is one. -/
def readAnchor (p : Properties) (r : Remaining) : Properties × Remaining :=
  match r.tokens with
  | .anchor name :: _ =>
    ({ p with anchor? := some r.anchors.count, isEmpty := false },
      { r.tail with anchors := r.anchors.declare name })
  | _ => (p, r)

/-- Reads what stands in front of a node, in either order. -/
def readProperties (handles : List (String × String)) (r : Remaining) :
    Option (Properties × Remaining) :=
  match r.tokens with
  | .tag .. :: _ => (readTag handles {} r).map fun (p, r) ↦ readAnchor p r
  | _ =>
    let (p, r) := readAnchor {} r
    readTag handles p r

/-- Gives a node the name that stands in front of it. -/
def named (p : Properties) (node : Node) (r : Remaining) : Node × Remaining :=
  match p.anchor? with
  | some number => (node, { r with anchors := r.anchors.define number node })
  | none => (node, r)

end Remaining

/-- What stands for a node that is left out. -/
def Node.absent : Node :=
  .scalar .untagged .plain "~"

/-- The places at which a node is read: block collections may begin everywhere but inside flow
collections, and a sequence need not be indented below a key. -/
structure Place where
  mayBlock : Bool
  mayOutdent : Bool

/-- Whether a token ends an entry of a block mapping that is left out. -/
def endsBlockEntry : Token → Bool
  | .key => true
  | .value => true
  | .blockEnd => true
  | _ => false

/-- Whether a token ends an entry of a sequence of dashes that is left out. -/
def endsDashEntry : Token → Bool
  | .blockEntry => true
  | .blockEnd => true
  | _ => false

/-- Whether a token ends an entry of a flow collection that is left out. -/
def endsFlowEntry : Token → Bool
  | .value => true
  | .flowEntry => true
  | .flowMappingEnd => true
  | .flowSequenceEnd => true
  | _ => false

section Reading

variable (handles : List (String × String))

mutual

/-- The node at a place.  The number of rounds bounds the depth of the reading. -/
def readNode : (rounds : Nat) → Place → Remaining → Option (Node × Remaining)
  | 0, _, _ => none
  | rounds + 1, place, r =>
    match r.tokens with
    | .alias name :: _ => (r.anchors.find? name).map fun node ↦ (node, r.tail)
    | _ => do
      let (p, r) ← Remaining.readProperties handles r
      match r.tokens with
      | .scalar style text :: _ => return Remaining.named p (.scalar p.tag style text) r.tail
      | .flowSequenceStart :: _ =>
        let (items, r) ← readFlowSequence rounds true r.tail
        return Remaining.named p (.sequence items) r
      | .flowMappingStart :: _ =>
        let (entries, r) ← readFlowMapping rounds true r.tail
        return Remaining.named p (.mapping entries) r
      | token :: _ =>
        if token = .blockEntry && place.mayOutdent then
          let (items, r) ← readDashes rounds r
          return Remaining.named p (.sequence items) r
        else if token = .blockSequenceStart && place.mayBlock then
          let (items, r) ← readDashes rounds r.tail
          match r.tokens with
          | .blockEnd :: _ => return Remaining.named p (.sequence items) r.tail
          | _ => none
        else if token = .blockMappingStart && place.mayBlock then
          let (entries, r) ← readBlockMapping rounds r.tail
          return Remaining.named p (.mapping entries) r
        else if p.isEmpty || token = .broken then none
        else return Remaining.named p (.scalar p.tag .plain "") r
      | [] =>
        if p.isEmpty then none else return Remaining.named p (.scalar p.tag .plain "") r

/-- The node at a place, or nothing in front of a token with which the entry ends. -/
def readEntry : (rounds : Nat) → Place → (Token → Bool) → Remaining → Option (Node × Remaining)
  | 0, _, _, _ => none
  | rounds + 1, place, ends, r =>
    match r.tokens with
    | [] => none
    | token :: _ => if ends token then some (.absent, r) else readNode rounds place r

/-- The entries of a sequence up to the last dash. -/
def readDashes : (rounds : Nat) → Remaining → Option (List Node × Remaining)
  | 0, _ => none
  | rounds + 1, r =>
    match r.tokens with
    | .blockEntry :: _ => do
      let ends (t : Token) : Bool := endsDashEntry t || endsBlockEntry t
      let (item, r) ← readEntry rounds ⟨true, false⟩ ends r.tail
      let (items, r) ← readDashes rounds r
      return (item :: items, r)
    | .broken :: _ => none
    | _ => some ([], r)

/-- The entries of a block mapping, and its end. -/
def readBlockMapping : (rounds : Nat) → Remaining → Option (List (Node × Node) × Remaining)
  | 0, _ => none
  | rounds + 1, r =>
    match r.tokens with
    | .blockEnd :: _ => some ([], r.tail)
    | .key :: _ => do
      let (key, r) ← readEntry rounds ⟨true, true⟩ endsBlockEntry r.tail
      let (value, r) ← readBlockValue rounds r
      let (entries, r) ← readBlockMapping rounds r
      return ((key, value) :: entries, r)
    | .value :: _ => do
      let (value, r) ← readBlockValue rounds r
      let (entries, r) ← readBlockMapping rounds r
      return ((.absent, value) :: entries, r)
    | _ => none

/-- The value behind a key of a block mapping; without a colon it is left out. -/
def readBlockValue : (rounds : Nat) → Remaining → Option (Node × Remaining)
  | 0, _ => none
  | rounds + 1, r =>
    match r.tokens with
    | .value :: _ => readEntry rounds ⟨true, true⟩ endsBlockEntry r.tail
    | _ => some (.absent, r)

/-- The entries of a flow sequence, and its end; behind the first a comma stands before each. -/
def readFlowSequence : (rounds : Nat) → (first : Bool) → Remaining →
    Option (List Node × Remaining)
  | 0, _, _ => none
  | rounds + 1, first, r =>
    match r.tokens with
    | .flowSequenceEnd :: _ => some ([], r.tail)
    | token :: tokens =>
      if !first && token ≠ .flowEntry then none
      else
        let r := if first then r else r.tail
        if !first && tokens.head? = some .flowSequenceEnd then some ([], r.tail)
        else do
          let (item, r) ← readFlowItem rounds r
          let (items, r) ← readFlowSequence rounds false r
          return (item :: items, r)
    | [] => none

/-- An entry of a flow sequence; a key with a value is a mapping by itself. -/
def readFlowItem : (rounds : Nat) → Remaining → Option (Node × Remaining)
  | 0, _ => none
  | rounds + 1, r =>
    match r.tokens with
    | .key :: _ => do
      let (key, r) ← readEntry rounds ⟨false, false⟩ endsFlowEntry r.tail
      let (value, r) ← readFlowValue rounds r
      return (.mapping [(key, value)], r)
    | .value :: _ => do
      let (value, r) ← readFlowValue rounds r
      return (.mapping [(.absent, value)], r)
    | _ => readNode rounds ⟨false, false⟩ r

/-- The value behind a key of a flow collection; without a colon it is left out. -/
def readFlowValue : (rounds : Nat) → Remaining → Option (Node × Remaining)
  | 0, _ => none
  | rounds + 1, r =>
    match r.tokens with
    | .value :: _ => readEntry rounds ⟨false, false⟩ endsFlowEntry r.tail
    | _ => some (.absent, r)

/-- The entries of a flow mapping, and its end; behind the first a comma stands before each. -/
def readFlowMapping : (rounds : Nat) → (first : Bool) → Remaining →
    Option (List (Node × Node) × Remaining)
  | 0, _, _ => none
  | rounds + 1, first, r =>
    match r.tokens with
    | .flowMappingEnd :: _ => some ([], r.tail)
    | token :: tokens =>
      if !first && token ≠ .flowEntry then none
      else
        let r := if first then r else r.tail
        if !first && tokens.head? = some .flowMappingEnd then some ([], r.tail)
        else do
          let (entry, r) ← readFlowPair rounds r
          let (entries, r) ← readFlowMapping rounds false r
          return (entry :: entries, r)
    | [] => none

/-- An entry of a flow mapping; a node without a sign in front is a key with nothing. -/
def readFlowPair : (rounds : Nat) → Remaining → Option ((Node × Node) × Remaining)
  | 0, _ => none
  | rounds + 1, r =>
    match r.tokens with
    | .key :: _ => do
      let (key, r) ← readEntry rounds ⟨false, false⟩ endsFlowEntry r.tail
      let (value, r) ← readFlowValue rounds r
      return ((key, value), r)
    | .value :: _ => do
      let (value, r) ← readFlowValue rounds r
      return ((.absent, value), r)
    | _ => do
      let (key, r) ← readNode rounds ⟨false, false⟩ r
      return ((key, .absent), r)

end

end Reading

/-- The directives in front of a document: what the handles stand for, and what follows them. -/
def readDirectives : (versions : Nat) → List (String × String) → List Token →
    Option (List (String × String) × List Token)
  | versions, handles, .versionDirective :: tokens =>
    if 0 < versions then none else readDirectives (versions + 1) handles tokens
  | versions, handles, .tagDirective handle expansion :: tokens =>
    readDirectives versions ((handle, expansion) :: handles) tokens
  | _, handles, tokens => some (handles, tokens)

/-- Whether tokens begin with one that cannot be part of a node. -/
def beginsOutside : List Token → Bool
  | [] => true
  | .documentStart :: _ => true
  | .documentEnd :: _ => true
  | .versionDirective :: _ => true
  | .tagDirective .. :: _ => true
  | _ => false

/-- The document at the front of tokens, and what follows it.  Directives call for the mark that
begins a document; without either, the document begins at once. -/
def readDocument (tokens : List Token) : Option (Node × List Token) := do
  let (handles, rest) ← readDirectives 0 [] tokens
  let node (tokens : List Token) : Option (Node × List Token) :=
    (readNode handles (4 * tokens.length + 4) ⟨true, false⟩ { tokens }).map fun (n, r) ↦
      (n, r.tokens)
  match rest with
  | .documentStart :: rest =>
    if beginsOutside rest then return (.absent, rest) else node rest
  | _ => if rest.length < tokens.length then none else node rest

/-- Whether tokens begin with one that begins a node. -/
def beginsNode : List Token → Bool
  | .scalar .. :: _ => true
  | .flowSequenceStart :: _ => true
  | .flowMappingStart :: _ => true
  | .blockSequenceStart :: _ => true
  | .blockMappingStart :: _ => true
  | .anchor _ :: tokens => tokens.head? ≠ some .broken
  | .tag .. :: tokens => tokens.head? ≠ some .broken
  | _ => false

/-- Whether tokens begin with a document, however it goes on. -/
def beginsDocument (tokens : List Token) : Bool :=
  match readDirectives 0 [] tokens with
  | none => false
  | some (_, .documentStart :: rest) => beginsOutside rest || beginsNode rest
  | some (_, rest) => rest.length = tokens.length && beginsNode rest

/-- Whether nothing that begins another document follows a document.  The token behind a document
must be readable, and be no directive. -/
def isLast : List Token → Bool
  | .documentEnd :: tokens => !beginsDocument (tokens.dropWhile (· = .documentEnd))
  | .documentStart :: tokens => !beginsDocument (.documentStart :: tokens)
  | .versionDirective :: _ => false
  | .tagDirective .. :: _ => false
  | .broken :: _ => false
  | _ => true

/-- The node that a text spells. -/
def Node.ofText? (text : String) : Option Node := do
  let tokens := (Token.ofText text).dropWhile (· = .documentEnd)
  if tokens.isEmpty then none
  else
    let (node, rest) ← readDocument tokens
    if isLast rest then node.resolve else none

end TenantView.Yaml
