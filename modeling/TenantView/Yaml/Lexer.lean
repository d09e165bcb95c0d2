import TenantView.Yaml.BlockScalar
import TenantView.Yaml.Layout
import TenantView.Yaml.PlainScalar
import TenantView.Yaml.QuotedScalar
import TenantView.Yaml.TagText

/-!
# From text to tokens

Each step skips what stands between tokens, closes the blocks that the next token is not part of,
and reads that token.  A text that cannot be read on yields the tokens up to there and the token
`Token.broken` behind them.
-/

namespace TenantView.Yaml.Layout

/-- Goes on to the next token; behind a line break in a block it may be a key. -/
def skipToToken (l : Layout) : Option Layout := do
  let c ← l.cursor.skipToToken (!l.levels.isEmpty) l.indent l.cursor.rest
  let hasBreak := l.cursor.line < c.line
  return { l with cursor := c, mayBeKey := l.mayBeKey || (hasBreak && !l.inFlow) }

/-- Goes on behind blanks and a comment. -/
def skipGap (l : Layout) : Option Layout :=
  (l.cursor.skipGap true).map fun (c, _) ↦ l.goTo c

/-- Closes what is open at the end of the text. -/
def finish (l : Layout) : Option Layout :=
  if l.inFlow then none
  else l.dropKey.map fun l ↦ l.closeBlocks (-1)

/-- Closes all blocks in front of a directive or a document mark. -/
def leaveDocument (l : Layout) : Option Layout :=
  (l.closeBlocks (-1)).dropKey.map fun l ↦ l.allowKey false

/-- Reads the directive behind its name. -/
def readNamedDirective (l : Layout) (name : List Char) (c : Cursor) : Option Layout :=
  if name = "YAML".toList then (skipVersion c).map fun c ↦ (l.push .versionDirective).goTo c
  else if name = "TAG".toList then
    (readTagDirective c).map fun (handle, expansion, c) ↦
      (l.push (.tagDirective handle expansion)).goTo c
  else some ((l.push (.tagDirective "" "")).goTo c.skipLine)

/-- Reads the directive at the place, up to the next line. -/
def readDirective (l : Layout) : Option Layout := do
  let l ← l.leaveDocument
  let c := l.cursor.take 1
  let name := c.rest.takeWhile isHandleChar
  let c := c.take name.length
  if name.isEmpty || !endsWord c.next then none
  else
    let l ← (← l.readNamedDirective name c).skipGap
    if endsLine l.cursor.next then return l.goTo l.cursor.newLine else none

/-- Reads the mark that begins a document. -/
def readDocumentStart (l : Layout) : Option Layout := do
  let l ← l.leaveDocument
  return (l.goTo (l.cursor.take 3)).push .documentStart

/-- Reads the mark that ends a document. -/
def readDocumentEnd (l : Layout) : Option Layout := do
  let l ← l.leaveDocument
  let l ← ((l.goTo (l.cursor.take 3)).push .documentEnd).skipGap
  if endsLine l.cursor.next then return l else none

/-- The token that begins a flow collection. -/
def flowStart : FlowKind → Token
  | .sequence => .flowSequenceStart
  | .mapping => .flowMappingStart

/-- The token that ends a flow collection. -/
def flowEnd : FlowKind → Token
  | .sequence => .flowSequenceEnd
  | .mapping => .flowMappingEnd

/-- Reads the bracket that opens a flow collection. -/
def readFlowStart (l : Layout) (kind : FlowKind) : Option Layout :=
  let l := l.saveKey.openExtra
  let l := { l with flows := kind :: l.flows, keys := none :: l.keys, mayBeKey := true }
  ((l.goTo (l.cursor.take 1)).push (flowStart kind)).skipGap

/-- Reads the bracket that closes the innermost flow collection. -/
def readFlowEnd (l : Layout) (kind : FlowKind) : Option Layout :=
  if l.flows.head? ≠ some kind then none
  else do
    let l ← l.dropKey
    let l := { l with flows := l.flows.tail, keys := l.keys.tail, mayBeKey := false }
    let l ← ((l.goTo (l.cursor.take 1)).push (flowEnd kind)).skipGap
    return if l.inFlow then { l with adjacent? := some l.cursor.index } else l

/-- Reads the comma between the entries of a flow collection. -/
def readFlowEntry (l : Layout) : Option Layout := do
  let l ← l.dropKey
  let l := l.allowKey true
  ((l.goTo (l.cursor.take 1)).push .flowEntry).skipGap

/-- Reads the dash in front of an entry of a block sequence. -/
def readBlockEntry (l : Layout) : Option Layout :=
  if l.inFlow || !l.mayBeKey then none
  else do
    let l := l.openBlock l.cursor.column none .blockSequenceStart
    let (c, gap) ← (l.cursor.take 1).skipGap true
    if gap.hasTab && c.next = some '-' && endsWord c.second then none
    else
      let l := l.goTo c
      let l := if c.next.any fun x ↦ isBreak x || isFlowSign x then l.openExtra else l
      let l ← l.dropKey
      return (l.allowKey true).push .blockEntry

/-- The place behind spaces, comments and line breaks. -/
def skipKeySpace : (rounds : List Char) → Cursor → Cursor
  | [], c => c
  | _ :: rounds, c =>
    match c.next with
    | some ' ' => skipKeySpace rounds (c.pass 1)
    | some '\n' => skipKeySpace rounds c.newLine
    | some '\r' => skipKeySpace rounds c.newLine
    | some '#' => skipKeySpace rounds c.skipLine
    | _ => c

/-- Reads the question mark in front of a key. -/
def readKey (l : Layout) : Option Layout :=
  if !l.inFlow && !l.mayBeKey then none
  else do
    let l := l.openBlock l.cursor.column none .blockMappingStart
    let l ← l.dropKey
    let l := l.allowKey !l.inFlow
    let start := l.cursor.take 1
    let c := skipKeySpace start.rest start
    if c.index = start.index || c.next = some '\t' then none
    else return (l.goTo c).push .key

/-- Whether a tab behind a colon stands where the next word might open a block. -/
def isTabBeforeWord (c : Cursor) : Option Bool :=
  if c.next ≠ some '\t' then some false
  else
    (c.skipGap true).map fun (c, gap) ↦
      !gap.hasSpace && (c.next = some '-' || c.next.any isHandleChar)

/-- Puts the tokens that announce a key in front of the token that turned out to be one. -/
def announceKey (l : Layout) (k : KeyPlace) : Layout :=
  let l := l.insert k.tokens .key
  let l := (l.openBlock k.column (some k.tokens) .blockMappingStart).openExtra
  (l.setKey none).allowKey false

/-- Goes on with a value that has no simple key. -/
def announceValue (l : Layout) (column : Nat) : Option Layout :=
  if l.inFlow then some (l.allowKey false)
  else if !l.mayBeKey then none
  else some ((l.openBlock column none .blockMappingStart).openExtra.allowKey true)

/-- Reads the colon behind a key. -/
def readValue (l : Layout) : Option Layout := do
  let start := l.cursor
  if ← isTabBeforeWord (start.take 1) then none
  else
    let c := start.take 1
    let c ← if c.next = some '\t' then (c.skipGap true).map (·.1) else some c
    let moved := l.goTo c
    match l.key? with
    | some k =>
      if l.flows.head? = some .sequence && k.line < start.line then none
      else return (moved.announceKey k).push .value
    | none => return (← moved.announceValue start.column).push .value

/-- Reads the colon behind a key in a flow collection, with no blank behind it.  Unless the key
ends in front of it like a quoted one, no collection may follow. -/
def readFlowValue (l : Layout) : Option Layout :=
  let next := l.cursor.second
  if l.adjacent? ≠ some l.cursor.index && (next = some '[' || next = some '\x7b') then none
  else l.readValue

/-- Reads a token that may be a key and is made by `f` from what `read` finds at the place. -/
def readWith {α : Type} (l : Layout) (read : Cursor → Option (α × Cursor)) (f : α → Token) :
    Option Layout :=
  (read l.cursor).map fun (x, c) ↦ ((l.saveKey.allowKey false).goTo c).push (f x)

/-- Reads a block scalar. -/
def readBlockScalar (l : Layout) (folded : Bool) : Option Layout :=
  let l := (l.saveKey.allowKey true).dropExtras
  (readBlock folded l.indent l.cursor).map fun (text, c) ↦
    (l.goTo c).push (.scalar .marked text)

/-- Reads a quoted scalar. -/
def readQuotedScalar (l : Layout) (quote : Quote) : Option Layout := do
  let l ← (← l.readWith (readQuoted quote l.inFlow l.indent) (.scalar .marked)).skipToToken
  return { l with adjacent? := some l.cursor.index }

/-- Reads a plain scalar; behind a line break the next token may be a key. -/
def readPlainScalar (l : Layout) : Option Layout :=
  let l := (l.saveKey.allowKey false).dropExtras
  (readPlain l.inFlow (l.indent + 1) l.cursor).map fun (text, c) ↦
    ((l.goTo c).allowKey c.leading).push (.scalar .plain text)

/-- Reads the token at the place, which begins with `sign`. -/
def readToken (l : Layout) (sign : Char) : Option Layout :=
  let following := l.cursor.second
  match sign with
  | '[' => l.readFlowStart .sequence
  | '\x7b' => l.readFlowStart .mapping
  | ']' => l.readFlowEnd .sequence
  | '\x7d' => l.readFlowEnd .mapping
  | ',' => l.readFlowEntry
  | '*' => l.readWith readAnchor .alias
  | '&' => l.readWith readAnchor .anchor
  | '!' =>
    l.readWith (fun c ↦ (readTag l.inFlow c).map fun (h, s, c) ↦ ((h, s), c))
      fun (h, s) ↦ .tag h s
  | '\'' => l.readQuotedScalar .single
  | '"' => l.readQuotedScalar .double
  | '-' => if endsWord following then l.readBlockEntry else l.readPlainScalar
  | '?' =>
    if endsWord following then l.readKey else l.readPlainScalar
  | ':' =>
    if endsWord following then l.readValue
    else if l.inFlow && (following.any isFlowSign || l.adjacent? = some l.cursor.index) then
      l.readFlowValue
    else l.readPlainScalar
  | '|' => if l.inFlow then l.readPlainScalar else l.readBlockScalar false
  | '>' => if l.inFlow then l.readPlainScalar else l.readBlockScalar true
  | '%' => none
  | '@' => none
  | '\x60' => none
  | _ => l.readPlainScalar

/-- Reads the next token, or nothing if there is none. -/
def step (l : Layout) : Option (Option Layout) := do
  let l ← l.skipToToken
  let l ← l.dropStaleKey
  let c := l.cursor
  let l := l.closeBlocks c.column
  match c.next with
  | none => return none
  | some sign =>
    if c.column = 0 ∧ sign = '%' then return some (← l.readDirective)
    else if c.column = 0 ∧ c.isMark '-' then return some (← l.readDocumentStart)
    else if c.column = 0 ∧ c.isMark '.' then return some (← l.readDocumentEnd)
    else if c.column < l.indent then none
    else return some (← l.readToken sign)

/-- Reads tokens to the end.  Every round takes a character, so that the text bounds the number of
rounds. -/
def run : (rounds : List Char) → Layout → List Token
  | [], l => ((l.finish.getD (l.push .broken)).tokens).reverse
  | _ :: rounds, l =>
    match l.step with
    | none => (l.push .broken).tokens.reverse
    | some none => ((l.finish.getD (l.push .broken)).tokens).reverse
    | some (some next) => run rounds next

end Layout

/-- The mark of the order of bytes, which may stand in front of a text. -/
def byteOrderMark : Char := Char.ofNat 0xfeff

/-- The tokens of a text.  A null character ends it. -/
def Token.ofText (text : String) : List Token :=
  let cs := match text.toList with
    | [] => []
    | c :: cs => if c = byteOrderMark then cs else c :: cs
  let cs := cs.takeWhile (· ≠ '\x00')
  Layout.run (' ' :: cs) { cursor := { rest := cs } }

end TenantView.Yaml
