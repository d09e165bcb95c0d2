import TenantView.Yaml.Cursor
import TenantView.Yaml.Token

/-!
# Layout

The blocks of a YAML text show only by indentation, and a key only by the colon behind it.  While
the tokens are found one by one, the layout keeps the open blocks with their columns, and for
every open flow collection the place of the last token that may turn out to be a key.  When the
colon is met, the token that announces the key goes in front of that place.
-/

namespace TenantView.Yaml

/-- An open indentation, with the one around it. -/
structure Level where
  outer : Int
  /-- Whether it is that of a block; otherwise it only asks for one more column. -/
  isBlock : Bool

/-- A token that may be a key. -/
structure KeyPlace where
  /-- The number of tokens in front of it. -/
  tokens : Nat
  line : Nat
  column : Nat
  index : Nat
  /-- Whether the block around it makes no sense unless it is a key. -/
  isRequired : Bool

/-- The kinds of flow collections. -/
inductive FlowKind
  | sequence
  | mapping
deriving DecidableEq, Repr

/-- What is known in front of a place. -/
structure Layout where
  cursor : Cursor
  /-- The tokens so far, in reverse. -/
  tokens : List Token := []
  count : Nat := 0
  indent : Int := -1
  levels : List Level := []
  /-- The open flow collections, the innermost first. -/
  flows : List FlowKind := []
  /-- Whether the next token may be a key. -/
  mayBeKey : Bool := true
  /-- The places of keys of the open flow collections and of the block around them. -/
  keys : List (Option KeyPlace) := [none]
  /-- The place at which a colon needs no blank behind it. -/
  adjacent? : Option Nat := none

namespace Layout

/-- Whether the place is inside a flow collection. -/
def inFlow (l : Layout) : Bool :=
  !l.flows.isEmpty

/-- The layout at another place. -/
def goTo (l : Layout) (c : Cursor) : Layout :=
  { l with cursor := c }

/-- The layout with another token. -/
def push (l : Layout) (t : Token) : Layout :=
  { l with tokens := t :: l.tokens, count := l.count + 1 }

/-- The layout with another token behind the first `place` tokens. -/
def insert (l : Layout) (place : Nat) (t : Token) : Layout :=
  let behind := l.count - place
  { l with tokens := l.tokens.take behind ++ t :: l.tokens.drop behind, count := l.count + 1 }

/-- The layout in which the next token may be a key, or may not. -/
def allowKey (l : Layout) (allowed : Bool) : Layout :=
  { l with mayBeKey := allowed }

/-- The token that may be the key of the innermost collection. -/
def key? (l : Layout) : Option KeyPlace :=
  (l.keys.head?).join

/-- The layout with another token that may be the key of the innermost collection. -/
def setKey (l : Layout) (k : Option KeyPlace) : Layout :=
  { l with keys := k :: l.keys.tail }

/-- Remembers the token at the place if it may be a key. -/
def saveKey (l : Layout) : Layout :=
  if !l.mayBeKey then l
  else
    let c := l.cursor
    let isRequired := !l.inFlow && l.indent = c.column && l.levels.head?.any (·.isBlock)
    l.setKey (some
      { tokens := l.count, line := c.line, column := c.column, index := c.index, isRequired })

/-- Forgets the token that might have been a key. -/
def dropKey (l : Layout) : Option Layout :=
  if l.key?.any (·.isRequired) then none else some (l.setKey none)

/-- The number of characters over which a key may extend in a block. -/
def maxKeyLength : Nat := 1024

/-- Forgets a token in a block that is too far away to be a key. -/
def dropStaleKey (l : Layout) : Option Layout :=
  match l.key? with
  | none => some l
  | some k =>
    if !l.inFlow && (k.line < l.cursor.line || k.index + maxKeyLength < l.cursor.index) then
      l.dropKey
    else some l

/-- Drops the indentation that only asks for one more column, if it is the last. -/
def dropExtra (l : Layout) : Layout :=
  match l.levels with
  | ⟨outer, false⟩ :: levels => { l with indent := outer, levels }
  | _ => l

/-- Drops the indentations of a list, the innermost first, up to that of a block. -/
def dropExtrasOf : List Level → Layout → Layout
  | ⟨outer, false⟩ :: levels, l => dropExtrasOf levels { l with indent := outer, levels }
  | _, l => l

/-- Drops all indentations that only ask for one more column, up to that of a block. -/
def dropExtras (l : Layout) : Layout :=
  dropExtrasOf l.levels l

/-- Opens a block at a column unless it is open; the token that begins it goes behind the first
`place` tokens, or to the end. -/
def openBlock (l : Layout) (column : Nat) (place? : Option Nat) (t : Token) : Layout :=
  if l.inFlow then l
  else
    let l := if l.indent ≤ column then l.dropExtra else l
    if l.indent < column then
      let l := { l with indent := column, levels := ⟨l.indent, true⟩ :: l.levels }
      match place? with
      | some place => l.insert place t
      | none => l.push t
    else l

/-- Asks for one more column than the block around. -/
def openExtra (l : Layout) : Layout :=
  if !l.inFlow && l.levels.head?.any (·.isBlock) then
    { l with indent := l.indent + 1, levels := ⟨l.indent, false⟩ :: l.levels }
  else l

/-- Closes the open indentations beyond a column. -/
def closeLevels (column : Int) : List Level → Layout → Layout
  | [], l => l
  | level :: levels, l =>
    if column < l.indent then
      let l := { l with indent := level.outer, levels }
      closeLevels column levels (if level.isBlock then l.push .blockEnd else l)
    else l

/-- Closes the blocks that are indented beyond a column. -/
def closeBlocks (l : Layout) (column : Int) : Layout :=
  if l.inFlow then l else closeLevels column l.levels l

end Layout

end TenantView.Yaml
