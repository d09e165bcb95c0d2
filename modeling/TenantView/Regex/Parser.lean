import TenantView.Regex.Bracket
import TenantView.Regex.Size

/-!
# Parsing regular expressions

A pattern is read from left to right.  A state of reading has the parts of the current branch,
the branches before it, the modes, and what was open when each enclosing group began; a step
takes the next sign of the pattern.  A pattern is refused when a group or a set is not closed, a
repetition has nothing to repeat, an escape or a mode is unknown, a name is used twice,
descriptions are nested too deeply, or the expression is too large.
-/

namespace TenantView.Regex

/-- A part of a branch.  A switch of modes is a part that cannot be repeated. -/
structure Part extends Deep Regex where
  isRepeatable : Bool := true

/-- What stands before an open group. -/
structure OpenGroup where
  branches : List (Deep Regex)
  parts : List Part
  modes : Modes

/-- A state of reading, innermost first and in reverse. -/
structure State where
  groups : List OpenGroup := []
  branches : List (Deep Regex) := []
  parts : List Part := []
  modes : Modes := {}
  names : List String := []

/-- The expression of the parts of a branch, the last part first. -/
def concatParts (parts : List Part) : Deep Regex :=
  match parts with
  | [] => ⟨.empty, 0⟩
  | [part] => part.toDeep
  | parts =>
    ⟨parts.foldr (fun part regex ↦ .concat regex part.value) .empty,
      parts.foldr (fun part depth ↦ max depth part.depth) 0 + 1⟩

/-- The expression of one branch after other branches, the last of them first. -/
def joinBranches (branches : List (Deep Regex)) (last : Deep Regex) : Deep Regex :=
  match branches with
  | [] => last
  | branches =>
    ⟨branches.foldl (fun regex branch ↦ .either branch.value regex) last.value,
      branches.foldl (fun depth branch ↦ max depth branch.depth) last.depth + 1⟩

namespace State

/-- The state with another part in its branch. -/
def push (state : State) (part : Part) : State :=
  { state with parts := part :: state.parts }

/-- The state with another part, in which nothing is nested. -/
def pushRegex (state : State) (regex : Regex) : State :=
  state.push { value := regex, depth := 0 }

/-- The expression of the branches read so far. -/
def contents (state : State) : Deep Regex :=
  joinBranches state.branches (concatParts state.parts)

/-- The expression of the whole pattern, if no group is open any more. -/
def finish? (state : State) : Option (Deep Regex) :=
  if state.groups.isEmpty then some state.contents else none

/-- The state behind the sign between two branches. -/
def branch (state : State) : State :=
  { state with branches := concatParts state.parts :: state.branches, parts := [] }

/-- The state at the beginning of a group with the given modes. -/
def openGroup (state : State) (modes : Modes) : State :=
  { state with
    groups := ⟨state.branches, state.parts, state.modes⟩ :: state.groups
    branches := []
    parts := []
    modes }

/-- The state behind the end of the innermost group, with the modes that were on before it. -/
def closeGroup? (state : State) : Option State :=
  match state.groups with
  | [] => none
  | group :: groups =>
    let contents := state.contents
    some
      { state with
        groups
        branches := group.branches
        parts := { value := contents.value, depth := contents.depth + 1 } :: group.parts
        modes := group.modes }

/-- The state in which the last part is repeated. -/
def repeat? (state : State) (least : Nat) (most : Option Nat) : Option State :=
  match state.parts with
  | part :: parts =>
    if part.isRepeatable then
      some
        { state with
          parts :=
            { value := .copies part.value least most, depth := part.depth + 1 } :: parts }
    else none
  | [] => none

end State

/-- Drops the sign that a repetition prefers short stretches. -/
def dropLazy : List Char → List Char
  | '?' :: cs => cs
  | cs => cs

/-- The greatest count of a repetition. -/
def countLimit : Nat := UInt32.size - 1

/-- Reads the digits of a count. -/
def readDigits (modes : Modes) : (rounds : List Char) → (digits : List Char) → List Char →
    List Char × List Char
  | [], digits, cs => (digits.reverse, cs)
  | _ :: rounds, digits, cs =>
    match modes.skip cs with
    | c :: rest =>
      if c.isDigit then readDigits modes rounds (c :: digits) rest else (digits.reverse, cs)
    | [] => (digits.reverse, cs)

/-- The count that digits spell; there has to be one at least. -/
def countOfDigits (digits : List Char) : Option Nat :=
  let count := digits.foldl (fun count c ↦ 10 * count + (c.toNat - 0x30)) 0
  if digits.isEmpty ∨ countLimit < count then none else some count

/-- Reads a count of a repetition with blanks before it. -/
def readCount (modes : Modes) (cs : List Char) : Option (Nat × List Char) := do
  let cs := cs.dropWhile Text.isBlank
  let (digits, rest) := readDigits modes cs [] cs
  return (← countOfDigits digits, rest)

/-- Drops what does not count in front of the sign behind a count. -/
def skipCount (modes : Modes) (cs : List Char) : List Char :=
  modes.skip (cs.dropWhile Text.isBlank)

/-- Reads the closing brace behind the counts of a repetition, and the sign that it prefers short
stretches. -/
def closeCounts (modes : Modes) (least : Nat) (most : Option Nat) (cs : List Char) :
    Option ((Nat × Option Nat) × List Char) :=
  match cs with
  | '\x7d' :: cs =>
    if most.all (least ≤ ·) then some ((least, most), (takeSign modes '?' cs).2) else none
  | _ => none

/-- Reads the greatest count of a repetition behind the comma, if there is one. -/
def readMost (modes : Modes) (least : Nat) (cs : List Char) :
    Option ((Nat × Option Nat) × List Char) :=
  match modes.skip cs with
  | '\x7d' :: rest => closeCounts modes least none ('\x7d' :: rest)
  | cs => do
    let (most, cs) ← readCount modes cs
    closeCounts modes least (some most) (skipCount modes cs)

/-- Reads the rest of the counts of a repetition behind the least one. -/
def readCountsFrom (modes : Modes) (least : Nat) (cs : List Char) :
    Option ((Nat × Option Nat) × List Char) :=
  match skipCount modes cs with
  | ',' :: cs => readMost modes least cs
  | cs => closeCounts modes least (some least) cs

/-- Reads the counts of a repetition behind the opening brace. -/
def readCounts (modes : Modes) (cs : List Char) : Option ((Nat × Option Nat) × List Char) := do
  let (least, cs) ← readCount modes (modes.skip cs)
  readCountsFrom modes least cs

/-- What stands behind the opening sign of a group. -/
inductive Opening
  | switch (modes : Modes)
  | group (modes : Modes) (name : Option String)

/-- Reads the letters of modes up to a colon, which begins a group, or to the end of the group;
`seen` are the letters so far, the last one first.  Behind a minus sign the modes are switched
off. -/
def readModes : (seen : List Char) → Modes → List Char → Option (Opening × List Char)
  | _, _, [] => none
  | seen, modes, c :: cs =>
    if c = ':' ∨ c = ')' then
      if seen.head? = some '-' then none
      else if c = ':' then some (.group modes none, cs)
      else if seen.isEmpty then none
      else some (.switch modes, cs)
    else if seen.contains c then none
    else if c = '-' then readModes (c :: seen) modes cs
    else
      match modes.set? c (!seen.contains '-') with
      | some modes => readModes (c :: seen) modes cs
      | none => none

/-- Whether a character may begin the name of a group. -/
def isNameStart (c : Char) : Bool :=
  c = '_' || Text.Property.alphabetic.contains c

/-- Whether a character may go on in the name of a group. -/
def isNameRest (c : Char) : Bool :=
  isNameStart c || c = '.' || c = '[' || c = ']' || Text.Category.number.contains c

/-- Reads the name of a group behind its opening sign. -/
def readName (modes : Modes) (cs : List Char) : Option (Opening × List Char) :=
  match cs.takeWhile (· ≠ '>'), cs.dropWhile (· ≠ '>') with
  | c :: name, _ :: rest =>
    if isNameStart c && name.all isNameRest then
      some (.group modes (some (String.ofList (c :: name))), rest)
    else none
  | _, _ => none

/-- Reads what stands behind the question mark at the beginning of a group.  Conditions on what
follows or precedes are refused. -/
def readHead (modes : Modes) : List Char → Option (Opening × List Char)
  | '=' :: _ => none
  | '!' :: _ => none
  | '<' :: '=' :: _ => none
  | '<' :: '!' :: _ => none
  | 'P' :: '<' :: cs => readName modes cs
  | '<' :: cs => readName modes cs
  | cs => readModes [] modes cs

/-- Reads what stands behind the parenthesis that opens a group. -/
def readOpening (modes : Modes) (cs : List Char) : Option (Opening × List Char) :=
  match modes.skip cs with
  | '?' :: cs => readHead modes cs
  | _ => some (.group modes none, cs)

/-- The set that a point stands for.  Outside Unicode it would hold bytes that are no
characters. -/
def anyChar (modes : Modes) : Option Text.CharSet :=
  if !modes.unicode then none
  else if modes.dotAll then some (.compl .empty)
  else if modes.crlf then some (.compl (.singleton '\r' ∪ .singleton '\n'))
  else some (.compl (.singleton '\n'))

/-- The condition that the sign for the beginning of a line stands for. -/
def lineStart (modes : Modes) : Look :=
  if !modes.multiLine then .textStart else if modes.crlf then .crlfLineStart else .lineStart

/-- The condition that the sign for the end of a line stands for. -/
def lineEnd (modes : Modes) : Look :=
  if !modes.multiLine then .textEnd else if modes.crlf then .crlfLineEnd else .lineEnd

/-- The expression of a character or an escape. -/
def Primitive.regex (modes : Modes) : Primitive → Regex
  | char c => .set (modes.fold (.singleton c))
  | chars listed => .set listed
  | look condition => .look condition

/-- Takes the parts of an opening group into the state. -/
def openWith (state : State) (opening : Opening) : Option State :=
  match opening with
  | .switch modes =>
    some ({ state with modes }.push { value := .empty, depth := 0, isRepeatable := false })
  | .group modes none => some (state.openGroup modes)
  | .group modes (some name) =>
    if state.names.contains name then none
    else some ({ state with names := name :: state.names }.openGroup modes)

/-- Takes the next sign of the pattern. -/
def step (state : State) (c : Char) (cs : List Char) : Option (State × List Char) :=
  match c with
  | '(' => do
    let (opening, rest) ← readOpening state.modes cs
    return (← openWith state opening, rest)
  | ')' => do return (← state.closeGroup?, cs)
  | '|' => some (state.branch, cs)
  | '[' => do
    let (chars, rest) ← readSet state.modes cs
    return (state.push { value := .set chars.value, depth := chars.depth }, rest)
  | '?' => do return (← state.repeat? 0 (some 1), dropLazy cs)
  | '*' => do return (← state.repeat? 0 none, dropLazy cs)
  | '+' => do return (← state.repeat? 1 none, dropLazy cs)
  | '\x7b' => do
    let ((least, most), rest) ← readCounts state.modes cs
    return (← state.repeat? least most, rest)
  | '\\' => do
    let (primitive, rest) ← readEscape state.modes cs
    return (state.pushRegex (primitive.regex state.modes), rest)
  | '.' => do return (state.pushRegex (.set (← anyChar state.modes)), cs)
  | '^' => some (state.pushRegex (.look (lineStart state.modes)), cs)
  | '$' => some (state.pushRegex (.look (lineEnd state.modes)), cs)
  | c => some (state.pushRegex ((Primitive.char c).regex state.modes), cs)

/-- Takes all signs of a pattern.  Every round takes a character. -/
def run : (rounds : List Char) → State → List Char → Option State
  | [], state, cs => if (state.modes.skip cs).isEmpty then some state else none
  | _ :: rounds, state, cs =>
    match state.modes.skip cs with
    | [] => some state
    | c :: cs =>
      match step state c cs with
      | some (state, rest) => run rounds state rest
      | none => none

/-- How deeply descriptions may be nested. -/
def nestingLimit : Nat := 250

/-- The expression that is described from a state on, however large it is. -/
def readFrom (state : State) (cs : List Char) : Option (Deep Regex) := do
  (← run cs state cs).finish?

/-- The expression that a pattern describes, however large it is. -/
def read? (pattern : String) : Option (Deep Regex) :=
  readFrom {} pattern.toList

/-- Whether an expression is neither nested too deeply nor too large. -/
def isWithinLimits (regex : Deep Regex) : Bool :=
  regex.depth ≤ nestingLimit && regex.value.size ≤ sizeLimit

/-- The expression that a pattern describes. -/
def parse? (pattern : String) : Option Regex := do
  let regex ← read? pattern
  if isWithinLimits regex then return regex.value else none

end TenantView.Regex
