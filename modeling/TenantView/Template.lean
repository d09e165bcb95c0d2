import TenantView.Environment
import TenantView.Text.Identifier

/-!
# Templates

A template is a text with placeholders.  A placeholder names a variable of the environment
between braces behind a dollar, and may give a default behind `:-` that stands up to the first
closing brace.  Filling in replaces every placeholder by the value of its variable, an empty one
included, or by its default.  What has been filled in is not looked at again, and what only
resembles a placeholder is left as it is.  The whole template is gone through also where a variable
is missing, and the first one is reported in the end.
-/

namespace TenantView.Template

/-- The name of a variable and what stands for a variable that is not there. -/
structure Placeholder where
  name : String
  default? : Option (List Char)
deriving DecidableEq

/-- A part of a template. -/
inductive Piece
  | char (c : Char)
  | placeholder (p : Placeholder)
deriving DecidableEq

/-- The text up to a closing brace, and what follows the brace. -/
def splitBrace? (cs : List Char) : Option (List Char × List Char) :=
  match cs.dropWhile (· ≠ '\x7d') with
  | [] => none
  | _ :: rest => some (cs.takeWhile (· ≠ '\x7d'), rest)

/-- The placeholder behind its name, and what follows it. -/
def closePlaceholder? (name : String) : List Char → Option (Placeholder × List Char)
  | '\x7d' :: rest => some (⟨name, none⟩, rest)
  | ':' :: '-' :: rest =>
    (splitBrace? rest).map fun (default, rest) ↦ (⟨name, some default⟩, rest)
  | _ => none

/-- The placeholder in front of a text, and what follows it. -/
def readPlaceholder? : List Char → Option (Placeholder × List Char)
  | '$' :: '\x7b' :: cs =>
    (Text.splitIdentifier? cs).bind fun (name, rest) ↦
      closePlaceholder? (String.ofList name) rest
  | _ => none

/-- The pieces of a text, from the left.  Every round takes at least one character, so that the
characters themselves bound the number of rounds. -/
def pieces : (rounds : List Char) → List Char → List Piece
  | _, [] => []
  | [], _ :: _ => []
  | _ :: rounds, c :: cs =>
    match readPlaceholder? (c :: cs) with
    | some (p, rest) => .placeholder p :: pieces rounds rest
    | none => .char c :: pieces rounds cs

/-- The pieces of a template. -/
def parse (template : String) : List Piece :=
  pieces template.toList template.toList

/-- What stands for a placeholder, if there is anything. -/
def Placeholder.value? (env : Environment) (p : Placeholder) : Option (List Char) :=
  match env.value? p.name with
  | some value => some value.toList
  | none => p.default?

/-- What stands for a piece; otherwise the variable that is missing. -/
def Piece.fill (env : Environment) : Piece → Except String (List Char)
  | .char c => .ok [c]
  | .placeholder p =>
    match p.value? env with
    | some text => .ok text
    | none => .error p.name

/-- What filling in has come to: the text, and the first variable that was missing. -/
structure Filling where
  text : List Char
  missing : Option String
deriving DecidableEq

namespace Filling

/-- Before the first piece. -/
def start : Filling where
  text := []
  missing := none

/-- Behind one more piece.  Nothing is filled in for a variable that is missing, and its name is
remembered unless there is one already. -/
def step (env : Environment) (filling : Filling) (piece : Piece) : Filling :=
  match piece.fill env with
  | .ok text => { filling with text := filling.text ++ text }
  | .error name => { filling with missing := some (filling.missing.getD name) }

/-- The text, unless a variable was missing. -/
def result (filling : Filling) : Except String (List Char) :=
  match filling.missing with
  | some name => .error name
  | none => .ok filling.text

end Filling

/-- The text of a template in an environment; otherwise the first variable that is missing. -/
def substitute (env : Environment) (template : String) : Except String String :=
  ((parse template).foldl (Filling.step env) .start).result.map String.ofList

end TenantView.Template
