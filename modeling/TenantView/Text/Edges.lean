import TenantView.Text.CharSet

/-!
# Edges of sets of characters

A set of characters changes membership at its edges: the code points that are in it while the one
before is not, or the other way round.  The edges in increasing order give the set as the fewest
ranges, however its description goes.  A set closed under an equivalence is given by what is
closed, which tells its extent well enough.
-/

namespace TenantView.Text

/-- The edges of what an operation makes of two sets with the given edges; `inA` and `inB` say
whether the code points before them belong to the sets.  Every round takes an edge. -/
def combineEdges (operation : Bool → Bool → Bool) :
    (rounds : List Nat) → (inA inB : Bool) → (a b : List Nat) → List Nat
  | _ :: rounds, inA, inB, i :: a, j :: b =>
    let (edge, nowA, nowB, a, b) :=
      if i < j then (i, !inA, inB, a, j :: b)
      else if j < i then (j, inA, !inB, i :: a, b)
      else (i, !inA, !inB, a, b)
    let rest := combineEdges operation rounds nowA nowB a b
    if operation inA inB = operation nowA nowB then rest else edge :: rest
  | _ :: rounds, inA, inB, i :: a, [] =>
    let rest := combineEdges operation rounds (!inA) inB a []
    if operation inA inB = operation (!inA) inB then rest else i :: rest
  | _ :: rounds, inA, inB, [], j :: b =>
    let rest := combineEdges operation rounds inA (!inB) [] b
    if operation inA inB = operation inA (!inB) then rest else j :: rest
  | _, _, _, _, _ => []

/-- The edges of the complement of a set with the given edges. -/
def toggleFirst : List Nat → List Nat
  | 0 :: edges => edges
  | edges => 0 :: edges

/-- The edges of a set. -/
def CharSet.edges : CharSet → List Nat
  | empty => []
  | range first last => if first ≤ last then [first.toNat, last.toNat + 1] else []
  | table ranges => ranges.get.ranges.toList.flatMap fun (first, last) ↦ [first, last + 1]
  | union a b => combineEdges (· || ·) (a.edges ++ b.edges) false false a.edges b.edges
  | inter a b => combineEdges (· && ·) (a.edges ++ b.edges) false false a.edges b.edges
  | symmDiff a b => combineEdges (· != ·) (a.edges ++ b.edges) false false a.edges b.edges
  | compl a => toggleFirst a.edges
  | closure _ a => a.edges

/-- The greatest code point. -/
def lastCode : Nat := 0x10ffff

/-- The ranges of a set with the given edges. -/
def rangesOfEdges : List Nat → List (Nat × Nat)
  | [] => []
  | [first] => [(first, lastCode)]
  | first :: next :: edges => (first, next - 1) :: rangesOfEdges edges

/-- The fewest ranges that make up a set. -/
def CharSet.ranges (chars : CharSet) : List (Nat × Nat) :=
  (rangesOfEdges chars.edges).filter fun (first, last) ↦ first ≤ last

end TenantView.Text
