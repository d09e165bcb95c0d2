import TenantView.Yaml.Folding

/-!
# Plain scalars

A plain scalar stands bare.  It ends before a colon at the end of a word, before a comment behind
a blank, before a document mark, inside a flow collection before the signs of the collection, and
outside of one on the first line that is not indented enough.
-/

namespace TenantView.Yaml

/-- Whether a plain scalar may hold a character before another one. -/
def isPlainChar (inFlow : Bool) (c : Char) (following : Option Char) : Bool :=
  if c = ':' then !(endsWord following || (inFlow && following.any isFlowSign))
  else !(inFlow && isFlowSign c)

/-- The characters of a word of a plain scalar. -/
def plainWord (inFlow : Bool) : List Char → List Char
  | [] => []
  | c :: cs =>
    if !(isBlank c || isBreak c) && isPlainChar inFlow c cs.head? then c :: plainWord inFlow cs
    else []

/-- The spacing at a place, and the place behind it. -/
def plainSpacing (indent : Int) : (rounds : List Char) → Spacing → Cursor →
    Option (Spacing × Cursor)
  | [], s, c => some (s, c)
  | _ :: rounds, s, c =>
    match c.next with
    | none => some (s, c)
    | some x =>
      if isBreak x then plainSpacing indent rounds { s with breaks := s.breaks + 1 } c.newLine
      else if !isBlank x then some (s, c)
      else if !c.leading then
        plainSpacing indent rounds { s with blanks := x :: s.blanks } (c.pass 1)
      else if isTabInIndent indent c then do
        let (c, _) ← c.skipGap true
        if endsLine c.next then plainSpacing indent rounds s c else none
      else plainSpacing indent rounds s (c.pass 1)

/-- The words of a plain scalar, with the spacing in front of them, and the place behind them. -/
def plainWords (inFlow : Bool) (indent : Int) : (rounds : List Char) → Spacing → Cursor →
    Option (List Char × Cursor)
  | [], _, c => some ([], c)
  | _ :: rounds, s, c =>
    if (c.leading && c.isDocumentMark) || c.next = some '#' then some ([], c)
    else if inFlow && c.next = some '-' && c.second.any isFlowSign then none
    else
      let word := plainWord inFlow c.rest
      let front := if word.isEmpty then [] else s.text ++ word
      let c := if word.isEmpty then c else c.take word.length
      if !endsWord c.next || c.next.isNone then some (front, c)
      else do
        let (s, c) ← plainSpacing indent c.rest {} c
        if !inFlow && c.column < indent then return (front, c)
        let (back, c) ← plainWords inFlow indent rounds s c
        return (front ++ back, c)

/-- The plain scalar at a place, in a block whose lines are indented by `indent` at least, and the
place behind it. -/
def readPlain (inFlow : Bool) (indent : Int) (c : Cursor) : Option (String × Cursor) :=
  if inFlow && c.column < indent then none
  else do
    let (text, c) ← plainWords inFlow indent c.rest {} c
    if text.isEmpty then none else return (String.ofList text, c)

end TenantView.Yaml
