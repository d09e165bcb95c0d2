import TenantView.Regex.Basic

/-!
# Matching regular expressions

Matching follows all stretches at once: from a set of positions an expression leads to the set
of positions behind the stretches that begin at one of them (`Regex.ends`).  Sets of positions
are increasing lists.  Repetition is followed until it reaches no new position, so that every
expression is matched in time polynomial in the length of the text.
-/

namespace TenantView

namespace Regex

/-- The union of two increasing lists, increasing again. -/
def merge : List Nat → List Nat → List Nat
  | [], b => b
  | a, [] => a
  | i :: a, j :: b =>
    if i < j then i :: merge a (j :: b)
    else if j < i then j :: merge (i :: a) b
    else i :: merge a b
termination_by a b => a.length + b.length

/-- What a step reaches from a set when it is taken the given number of times; once a set leads
to itself, taking more steps changes nothing. -/
def iterate (step : List Nat → List Nat) : (count : Nat) → List Nat → List Nat
  | 0, positions => positions
  | count + 1, positions =>
    let next := step positions
    if next = positions then positions else iterate step count next

/-- What a step reaches from a set when it is taken at most the given number of times: `fresh` are
the positions that the last time has added. -/
def spread (step : List Nat → List Nat) : (rounds : Nat) → (reached fresh : List Nat) → List Nat
  | 0, reached, _ => reached
  | rounds + 1, reached, fresh =>
    match (step fresh).filter (!reached.contains ·) with
    | [] => reached
    | i :: next => spread step rounds (merge reached (i :: next)) (i :: next)

/-- The positions behind the stretches that begin at one of the given positions. -/
def ends (text : Array Char) : Regex → List Nat → List Nat
  | empty, positions => positions
  | set chars, positions => (positions.filter (acceptsAt chars text)).map (· + 1)
  | look condition, positions => positions.filter (holdsAt condition text)
  | concat r s, positions => ends text s (ends text r positions)
  | either r s, positions => merge (ends text r positions) (ends text s positions)
  | copies r least most, positions =>
    let start := iterate (fun positions ↦ ends text r positions) least positions
    let rounds :=
      match most with
      | none => text.size + 1
      | some most => most - least
    spread (fun positions ↦ ends text r positions) rounds start start

/-- Whether the expression describes some stretch of the text. -/
def isMatch (r : Regex) (text : String) : Bool :=
  let text := text.toList.toArray
  !(ends text r (List.range (text.size + 1))).isEmpty

end Regex

end TenantView
