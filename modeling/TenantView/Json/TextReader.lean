import TenantView.Json.Reader

/-!
# Reading quoted text

Between the quotes a backslash starts an escape: one letter, or four hexadecimal digits for a
UTF-16 unit, where a leading surrogate has to be followed by the escape of a trailing one.  All
other bytes but controls stand for themselves, and the bytes as a whole have to be UTF-8.  A text
that nobody asks for is only skipped; it need not be UTF-8 then, and surrogates may stand alone.
-/

namespace TenantView.Json

/-- The byte that a one-letter escape stands for. -/
def simpleEscape? (letter : UInt8) : Option UInt8 :=
  match letter with
  | Ascii.quote => some Ascii.quote
  | Ascii.backslash => some Ascii.backslash
  | Ascii.slash => some Ascii.slash
  | Ascii.lowerB => some Ascii.backspace
  | Ascii.lowerF => some Ascii.formFeed
  | Ascii.lowerN => some Ascii.newline
  | Ascii.lowerR => some Ascii.carriageReturn
  | Ascii.lowerT => some Ascii.tab
  | _ => none

/-- The number that four hexadecimal digits stand for. -/
def hexUnit? (a b c d : UInt8) : Option Nat := do
  let a ← Ascii.hexValue? a
  let b ← Ascii.hexValue? b
  let c ← Ascii.hexValue? c
  let d ← Ascii.hexValue? d
  return 4096 * a + 256 * b + 16 * c + d

/-- The leading surrogates of UTF-16. -/
def isLeadingSurrogate (unit : Nat) : Bool :=
  0xd800 ≤ unit && unit ≤ 0xdbff

/-- The trailing surrogates of UTF-16. -/
def isTrailingSurrogate (unit : Nat) : Bool :=
  0xdc00 ≤ unit && unit ≤ 0xdfff

/-- The code point of a pair of surrogates. -/
def pairCode (leading trailing : Nat) : Nat :=
  0x10000 + 1024 * (leading - 0xd800) + (trailing - 0xdc00)

/-- Puts the UTF-8 bytes of a code point in front of reversed bytes. -/
def pushCode (code : Nat) (taken : Bytes) : Bytes :=
  (String.utf8EncodeChar (Char.ofNat code)).reverseAux taken

/-- The bytes of a text up to its closing quote, behind those already taken, which are kept in
reverse. -/
def unescape (taken : Bytes) : Reader Bytes
  | [] => failHere .endInString []
  | Ascii.quote :: rest => .done taken.reverse rest
  | Ascii.backslash :: [] => failHere .endInString []
  | Ascii.backslash :: Ascii.lowerU :: a :: b :: c :: d :: rest =>
    match hexUnit? a b c d with
    | none => failHere .invalidEscape rest
    | some unit =>
      if isTrailingSurrogate unit then failHere .loneSurrogate rest
      else if isLeadingSurrogate unit then
        match rest with
        | [] => failHere .endInString []
        | Ascii.backslash :: [] => failHere .endInString []
        | Ascii.backslash :: Ascii.lowerU :: a :: b :: c :: d :: rest =>
          match hexUnit? a b c d with
          | none => failHere .invalidEscape rest
          | some trailing =>
            if isTrailingSurrogate trailing then
              unescape (pushCode (pairCode unit trailing) taken) rest
            else failHere .loneSurrogate rest
        | Ascii.backslash :: Ascii.lowerU :: _ => failHere .endInString []
        | Ascii.backslash :: _ :: rest => failHere .unfinishedSurrogate rest
        | _ :: rest => failHere .unfinishedSurrogate rest
      else unescape (pushCode unit taken) rest
  | Ascii.backslash :: letter :: rest =>
    if letter = Ascii.lowerU then failHere .endInString []
    else
      match simpleEscape? letter with
      | some b => unescape (b :: taken) rest
      | none => failHere .invalidEscape rest
  | b :: rest =>
    if b < Ascii.space then failHere .controlCharacter rest
    else unescape (b :: taken) rest

/-- A text behind its opening quote.  If its bytes are not UTF-8, the fault is placed
at the first byte that cannot go on; escapes are ASCII and do not matter for that. -/
def readText : Reader String := fun bytes ↦
  (unescape [] bytes).andThen fun spelled rest ↦
    match Text.ofBytes? spelled with
    | some s => .done s rest
    | none => failAtNext .invalidUtf8 (Text.dropValid bytes bytes)

/-- Skips a text behind its opening quote. -/
def skipText : Reader Unit
  | [] => failHere .endInString []
  | Ascii.quote :: rest => .done () rest
  | Ascii.backslash :: [] => failHere .endInString []
  | Ascii.backslash :: Ascii.lowerU :: a :: b :: c :: d :: rest =>
    match hexUnit? a b c d with
    | none => failHere .invalidEscape rest
    | some _ => skipText rest
  | Ascii.backslash :: letter :: rest =>
    if letter = Ascii.lowerU then failHere .endInString []
    else
      match simpleEscape? letter with
      | some _ => skipText rest
      | none => failHere .invalidEscape rest
  | b :: rest =>
    if b < Ascii.space then failHere .controlCharacter (b :: rest)
    else skipText rest

end TenantView.Json
