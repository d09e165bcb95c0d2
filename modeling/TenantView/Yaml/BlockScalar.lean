import TenantView.Yaml.Cursor

/-!
# Block scalars

A block scalar begins on the line behind its sign, and all its lines are indented by the same
number of columns: by as many as its head says, or by as many as its first line that holds
anything.  A literal scalar keeps its line breaks; a folded one joins lines, except around lines
that are indented further.  The head also says what becomes of the line breaks at the end.
-/

namespace TenantView.Yaml

/-- What becomes of the line breaks at the end: none is kept, one is, or all are. -/
inductive Chomping
  | strip
  | clip
  | keep
deriving DecidableEq, Repr

/-- What stands behind the sign of a block scalar. -/
structure BlockHead where
  chomping : Chomping := .clip
  /-- The indentation that is asked for, on top of that of the block around. -/
  increment? : Option Nat := none
  size : Nat := 0

/-- The way of chomping that a sign asks for. -/
def chomping? : Option Char → Option Chomping
  | some '+' => some .keep
  | some '-' => some .strip
  | _ => none

/-- The indentation that a digit asks for; none may be asked for by a zero. -/
def increment? (next : Option Char) : Option (Option Nat) :=
  match next with
  | some c =>
    if !c.isDigit then some none
    else if c = '0' then none
    else some (some (c.toNat - 0x30))
  | none => some none

/-- The head of a block scalar in front of a text. -/
def readBlockHead (cs : List Char) : Option BlockHead :=
  match chomping? cs.head? with
  | some chomping => do
    match ← increment? cs.tail.head? with
    | some n => return { chomping, increment? := some n, size := 2 }
    | none => return { chomping, size := 1 }
  | none => do
    match ← increment? cs.head? with
    | some n =>
      match chomping? cs.tail.head? with
      | some chomping => return { chomping, increment? := some n, size := 2 }
      | none => return { increment? := some n, size := 1 }
    | none => return {}

/-- The number of empty lines in front of the next line that holds anything, and the place behind
the indentation of that line. -/
def skipIndent (level : Nat) : (rounds : List Char) → (breaks : Nat) → Cursor → Nat × Cursor
  | [], breaks, c => (breaks, c)
  | _ :: rounds, breaks, c =>
    let spaces := (c.rest.takeWhile (· = ' ')).length
    let c := c.pass (min spaces (level - c.column))
    if c.next.any isBreak then skipIndent level rounds (breaks + 1) c.newLine else (breaks, c)

/-- The number of empty lines in front, the place behind the indentation of the first line that
holds anything, and the furthest column up to there. -/
def skipFirstIndent : (rounds : List Char) → (breaks furthest : Nat) → Cursor →
    Nat × Nat × Cursor
  | [], breaks, furthest, c => (breaks, furthest, c)
  | _ :: rounds, breaks, furthest, c =>
    let c := c.skipSpaces
    let furthest := max furthest c.column
    if c.next.any isBreak then skipFirstIndent rounds (breaks + 1) furthest c.newLine
    else (breaks, furthest, c)

/-- The text between two lines, or in front of the first: the break that ends a line and the empty
lines behind it. -/
def lineSpacing (fold ended : Bool) (breaks : Nat) : List Char :=
  if fold && ended then
    if breaks = 0 then [' '] else List.replicate breaks '\n'
  else (if ended then ['\n'] else []) ++ List.replicate breaks '\n'

/-- What has been read of a block scalar. -/
structure BlockText where
  text : List Char
  /-- Whether a line break ends the last line. -/
  ended : Bool
  /-- The number of empty lines behind the last line. -/
  breaks : Nat
  place : Cursor

/-- The lines that are indented by `level`, behind a line that began with a blank or not. -/
def blockLines (folded : Bool) (level : Nat) : (rounds : List Char) →
    (ended afterBlank : Bool) → (breaks : Nat) → Cursor → BlockText
  | [], ended, _, breaks, c => { text := [], ended, breaks, place := c }
  | _ :: rounds, ended, afterBlank, breaks, c =>
    if c.column ≠ level || c.rest.isEmpty || (level = 0 && c.isDocumentMark) then
      { text := [], ended, breaks, place := c }
    else
      let blank := c.next.any isBlank
      let line := c.rest.takeWhile (!isBreak ·)
      let front := lineSpacing (folded && !afterBlank && !blank) ended breaks ++ line
      let c := c.take line.length
      if c.rest.isEmpty then { text := front, ended := false, breaks := 0, place := c }
      else
        let (breaks, c) := skipIndent level c.rest 0 c.newLine
        let back := blockLines folded level rounds true blank breaks c
        { back with text := front ++ back.text }

/-- The text of a block scalar without lines. -/
def emptyBlock (chomping : Chomping) (ended : Bool) (breaks : Nat) : List Char :=
  match chomping with
  | .strip => []
  | .clip => if ended then ['\n'] else []
  | .keep => if !ended then [] else List.replicate (max breaks 1) '\n'

/-- The line breaks that are kept behind the last line. -/
def blockTail (chomping : Chomping) (level : Nat) (b : BlockText) : List Char :=
  let single :=
    (if b.ended then ['\n'] else []) ++
      if b.place.rest.isEmpty && max level 1 ≤ b.place.column then ['\n'] else []
  match chomping with
  | .strip => []
  | .clip => single
  | .keep => single ++ List.replicate b.breaks '\n'

/-- The block scalar at a place, inside a block with the given indentation, and the place behind
it. -/
def readBlock (folded : Bool) (indent : Int) (c : Cursor) : Option (String × Cursor) := do
  let c := c.take 1
  let head ← readBlockHead c.rest
  let (c, _) ← (c.take head.size).skipGap true
  if !endsLine c.next then none
  else
    let ended := c.next.isSome
    let c := if ended then c.newLine else c
    if c.next = some '\t' then none
    else
      let (level, breaks, c) :=
        match head.increment? with
        | some n =>
          let level := (max indent 0).toNat + n
          let (breaks, c) := skipIndent level c.rest 0 c
          (level, breaks, c)
        | none =>
          let (breaks, furthest, c) := skipFirstIndent c.rest 0 0 c
          let level := max furthest (indent + 1).toNat
          (if 0 < indent then max level 1 else level, breaks, c)
      if c.rest.isEmpty then return (String.ofList (emptyBlock head.chomping ended breaks), c)
      else if c.column < level && indent < c.column then none
      else
        let b := blockLines folded level c.rest false false breaks c
        return (String.ofList (b.text ++ blockTail head.chomping level b), b.place)

end TenantView.Yaml
