import TenantView.Number.Shortest

/-!
# Document values

The values of a document: null, truth values, numbers, text, sequences and mappings.  A number
is a 64-bit integer of either sign or a finite double, and the two are kept apart.  A mapping
keeps its members in the order in which they were given, and a name may occur more than once
until `collapse` keeps the last value of each name at its first place.
-/

namespace TenantView.Json

/-- A number of a document: an integer that fits 64 bits, signed or not, or a finite double. -/
inductive Number
  | whole (value : Int) (inRange : -(UInt64.size / 2 : Nat) ≤ value ∧ value < UInt64.size)
  | real (value : Double)
deriving DecidableEq, Repr

/-- A value of a document. -/
inductive Value
  | null
  | boolean (value : Bool)
  | number (value : Number)
  | string (value : String)
  | array (items : List Value)
  | object (members : List (String × Value))
deriving BEq, Repr, Inhabited

namespace Number

theorem natCast_inRange {n : Nat} (h : n < UInt64.size) :
    -(UInt64.size / 2 : Nat) ≤ (n : Int) ∧ (n : Int) < UInt64.size := by
  have hsize : UInt64.size = 18446744073709551616 := rfl
  omega

theorem neg_natCast_inRange {n : Nat} (h : n ≤ UInt64.size / 2) :
    -(UInt64.size / 2 : Nat) ≤ -(n : Int) ∧ -(n : Int) < UInt64.size := by
  have hsize : UInt64.size = 18446744073709551616 := rfl
  omega

/-- A natural number below `2 ^ 64`. -/
def ofNat (n : Nat) (h : n < UInt64.size) : Number :=
  .whole n (natCast_inRange h)

/-- The negative of a natural number up to `2 ^ 63`. -/
def ofNegated (n : Nat) (h : n ≤ UInt64.size / 2) : Number :=
  .whole (-(n : Int)) (neg_natCast_inRange h)

/-- The double nearest to an integer; `2 ^ 64` and below are far inside the finite range. -/
def toDouble : Number → Double
  | real d => d
  | whole value _ =>
    (Double.ofDecimal (value < 0) value.natAbs 0).getD Double.zero

end Number

namespace Value

/-- Whether the value is null. -/
def isNull : Value → Bool
  | null => true
  | _ => false

/-- Puts a member into a mapping: a name that is already there keeps its place and takes the
new value. -/
def putMember (members : List (String × Value)) (name : String) (value : Value) :
    List (String × Value) :=
  match members with
  | [] => [(name, value)]
  | (other, old) :: rest =>
    if other = name then (other, value) :: rest
    else (other, old) :: putMember rest name value

mutual

/-- Keeps one member of each name in every mapping: the last value, at the place of the first. -/
def collapse : Value → Value
  | array items => array (collapseItems items)
  | object members => object (collapseMembers [] members)
  | value => value

/-- Collapses every item of a sequence. -/
def collapseItems : List Value → List Value
  | [] => []
  | value :: rest => value.collapse :: collapseItems rest

/-- Puts the collapsed members, in order, behind those already kept. -/
def collapseMembers (kept : List (String × Value)) :
    List (String × Value) → List (String × Value)
  | [] => kept
  | (name, value) :: rest => collapseMembers (putMember kept name value.collapse) rest

end

end Value

end TenantView.Json
