/-!
# Glob patterns

In a glob pattern `?` stands for any one character, `*` for any run of characters, and a set in
brackets for one character inside it, or outside it when the set begins with `!`.  Two stars
must make up a whole component between slashes; they stand for any run of whole components.
Every other character stands for itself.  Parsing refuses a set that is not closed, two stars
beside other characters, and three stars or more.
-/

namespace TenantView.Glob

/-- One entry of a set: the characters from one to another. -/
structure CharRange where
  first : Char
  last : Char
deriving DecidableEq, Repr

/-- Whether the range holds the character. -/
def CharRange.contains (r : CharRange) (c : Char) : Bool :=
  r.first ≤ c && c ≤ r.last

/-- A part of a pattern. -/
inductive Token
  | char (c : Char)
  | anyChar
  | within (set : List CharRange)
  | outside (set : List CharRange)
  | anySequence
  | anyComponents
deriving DecidableEq, Repr

/-- Why a pattern is refused. -/
inductive ErrorKind
  | wildcards
  | recursiveWildcards
  | invalidRange
deriving DecidableEq, Repr

/-- A refusal, with the number of characters before the place that is blamed. -/
structure Error where
  position : Nat
  kind : ErrorKind
deriving DecidableEq, Repr

namespace Error

/-- The wording of the reason. -/
def reason : ErrorKind → String
  | .wildcards => "wildcards are either regular `*` or recursive `**`"
  | .recursiveWildcards => "recursive wildcards must form a single path component"
  | .invalidRange => "invalid range pattern"

/-- The wording of a refusal. -/
def message (e : Error) : String :=
  s!"Pattern syntax error near position {e.position}: " ++ reason e.kind

end Error

/-- The entries of a set: `a-b` is a range, and every other character stands alone. -/
def parseSet : List Char → List CharRange
  | a :: '-' :: b :: rest => ⟨a, b⟩ :: parseSet rest
  | a :: rest => ⟨a, a⟩ :: parseSet rest
  | [] => []

/-- The inside of a set up to its closing bracket, and the rest; the first character belongs to
the set even if it is a closing bracket. -/
def splitSet : List Char → Option (List Char × List Char)
  | [] => none
  | first :: rest =>
    let inside := rest.takeWhile (· ≠ ']')
    match rest.dropWhile (· ≠ ']') with
    | [] => none
    | _ :: after => some (first :: inside, after)

/-- The set behind its opening bracket, and the rest. -/
def parseBracket : List Char → Option (Token × List Char)
  | '!' :: cs => (splitSet cs).map fun (inside, rest) ↦ (.outside (parseSet inside), rest)
  | cs => (splitSet cs).map fun (inside, rest) ↦ (.within (parseSet inside), rest)

/-- The tokens so far, in reverse, with another run of components; behind another token a second
run in a row adds nothing. -/
def pushComponents (tokens : List Token) : List Token :=
  match tokens with
  | .anyComponents :: _ :: _ => tokens
  | _ => .anyComponents :: tokens

/-- Parses a pattern behind `position` characters of which `previous` is the last, with the
tokens before it in reverse.  Every round takes at least one character, so that the characters
themselves bound the number of rounds. -/
def parseTokens : (rounds : List Char) → (previous : Option Char) → (position : Nat) →
    List Token → List Char → Except Error (List Token)
  | _, _, _, tokens, [] => .ok tokens.reverse
  | [], _, position, _, _ :: _ => .error ⟨position, .wildcards⟩
  | _ :: rounds, previous, position, tokens, c :: cs =>
    if c = '?' then parseTokens rounds (some c) (position + 1) (.anyChar :: tokens) cs
    else if c = '[' then
      match parseBracket cs with
      | some (token, rest) =>
        parseTokens rounds (some ']') (position + 1 + (cs.length - rest.length))
          (token :: tokens) rest
      | none => .error ⟨position, .invalidRange⟩
    else if c = '*' then
      match cs with
      | '*' :: '*' :: _ => .error ⟨position + 2, .wildcards⟩
      | '*' :: rest =>
        if previous = none ∨ previous = some '/' then
          match rest with
          | [] => parseTokens rounds (some '*') (position + 2) (pushComponents tokens) []
          | '/' :: rest =>
            parseTokens rounds (some '/') (position + 3) (pushComponents tokens) rest
          | _ => .error ⟨position + 2, .recursiveWildcards⟩
        else .error ⟨position - 1, .recursiveWildcards⟩
      | rest => parseTokens rounds (some c) (position + 1) (.anySequence :: tokens) rest
    else parseTokens rounds (some c) (position + 1) (.char c :: tokens) cs

/-- The tokens of a pattern. -/
def parse (pattern : String) : Except Error (List Token) :=
  parseTokens pattern.toList none 0 [] pattern.toList

end TenantView.Glob
