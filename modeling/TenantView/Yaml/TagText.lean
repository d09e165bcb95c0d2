import TenantView.Text.Bytes
import TenantView.Text.Digit
import TenantView.Yaml.Cursor

/-!
# The text of tags, anchors and directives

A tag is written as a handle between exclamation marks with a suffix, or whole between angle
brackets.  The suffix is made of the characters of an address, in which a percent sign begins the
code of a byte.  The names of anchors hold anything but blanks and the signs of flow collections.
-/

namespace TenantView.Yaml

/-- The characters of handles and of the names of directives. -/
def isHandleChar (c : Char) : Bool :=
  c.isAlphanum || c = '_' || c = '-'

/-- The characters of an address. -/
def isAddressChar (c : Char) : Bool :=
  isHandleChar c || "#;/?:@&=+$,.!~*'()[]%".contains c

/-- The characters of the suffix of a tag. -/
def isSuffixChar (c : Char) : Bool :=
  isAddressChar c && !isFlowSign c && c ≠ '!'

/-- The characters of the name of an anchor. -/
def isAnchorChar (c : Char) : Bool :=
  !isBlank c && !isBreak c && !isFlowSign c && c.toNat ≠ 0xfeff

/-- The byte that is written as a percent sign and two digits, and what follows it. -/
def percentByte? : List Char → Option (UInt8 × List Char)
  | '%' :: a :: b :: rest =>
    (Text.readDigits? 16 0 [a, b]).map fun code ↦ (code.toUInt8, rest)
  | _ => none

/-- As many bytes as asked for, and what follows them. -/
def percentBytes? : Nat → List Char → Option (Bytes × List Char)
  | 0, cs => some ([], cs)
  | n + 1, cs => do
    let (byte, cs) ← percentByte? cs
    let (bytes, cs) ← percentBytes? n cs
    return (byte :: bytes, cs)

/-- The character that is written as the codes of its bytes, and the number of characters that
this takes. -/
def percentChar? (cs : List Char) : Option (List Char × Nat) :=
  [1, 2, 3, 4].findSome? fun size ↦ do
    let (bytes, _) ← percentBytes? size cs
    let text ← Text.ofBytes? bytes
    return (text.toList, 3 * size)

/-- The longest text of the given characters at a place, and the place behind it. -/
def addressText (may : Char → Bool) : (rounds : List Char) → Cursor → Option (List Char × Cursor)
  | [], c => some ([], c)
  | _ :: rounds, c =>
    match c.next with
    | none => some ([], c)
    | some x =>
      if !may x then some ([], c)
      else do
        let (front, size) ← if x = '%' then percentChar? c.rest else some ([x], 1)
        let (back, c) ← addressText may rounds (c.take size)
        return (front ++ back, c)

/-- The handle at a place, and the place behind it. -/
def readHandle (c : Cursor) : Option (List Char × Cursor) :=
  match c.rest with
  | '!' :: cs =>
    let name := cs.takeWhile isHandleChar
    match cs.drop name.length with
    | '!' :: _ => some ('!' :: (name ++ ['!']), c.take (name.length + 2))
    | _ => some ('!' :: name, c.take (name.length + 1))
  | _ => none

/-- The handle and the suffix of the tag at a place, and the place behind it.  A tag between angle
brackets, and a single exclamation mark, have an empty handle. -/
def readTagText (c : Cursor) : Option (String × String × Cursor) :=
  match c.rest with
  | '!' :: '<' :: _ => do
    let (suffix, c) ← addressText isAddressChar c.rest (c.take 2)
    if c.next = some '>' then return ("", String.ofList suffix, c.take 1) else none
  | _ => do
    let (handle, c) ← readHandle c
    let (suffix, c) ← addressText isSuffixChar c.rest c
    if 2 ≤ handle.length && handle.getLast? = some '!' then
      if suffix.isEmpty then none else return (String.ofList handle, String.ofList suffix, c)
    else
      let suffix := handle.tail ++ suffix
      if suffix.isEmpty then return ("", "!", c) else return ("!", String.ofList suffix, c)

/-- The tag at a place, and the place behind it. -/
def readTag (inFlow : Bool) (c : Cursor) : Option (String × String × Cursor) := do
  let (handle, suffix, c) ← readTagText c
  if endsWord c.next || (inFlow && c.next.any isFlowSign) then return (handle, suffix, c) else none

/-- The name of the anchor or alias behind its sign, and the place behind it. -/
def readAnchor (c : Cursor) : Option (String × Cursor) :=
  let name := c.rest.tail.takeWhile isAnchorChar
  if name.isEmpty then none else some (String.ofList name, c.take (name.length + 1))

/-- The place behind the digits of a version number. -/
def skipVersionNumber (c : Cursor) : Option Cursor :=
  let size := (c.rest.takeWhile Char.isDigit).length
  if size = 0 ∨ 9 < size then none else some (c.take size)

/-- The place behind blanks. -/
def skipBlanks (c : Cursor) : Cursor :=
  c.pass (c.rest.takeWhile isBlank).length

/-- The place behind the version that a directive names. -/
def skipVersion (c : Cursor) : Option Cursor := do
  let c ← skipVersionNumber (skipBlanks c)
  if c.next = some '.' then skipVersionNumber (c.take 1) else none

/-- The handle that a directive names and what it stands for, and the place behind them. -/
def readTagDirective (c : Cursor) : Option (String × String × Cursor) := do
  let (handle, c) ← readHandle (skipBlanks c)
  if handle ≠ ['!'] && handle.getLast? ≠ some '!' then none
  else
    let c := skipBlanks c
    let first := c.next.getD ' '
    if first ≠ '!' && !isSuffixChar first then none
    else
      let (expansion, c) ← addressText isAddressChar c.rest c
      if endsWord c.next then
        return (String.ofList handle, String.ofList expansion, c)
      else none

end TenantView.Yaml
