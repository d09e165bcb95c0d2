import TenantView.Environment
import TenantView.Event
import TenantView.Number.Decimal
import TenantView.Text.Digit

/-!
# The limit on the size of answers

An answer is given up if its body is longer than a limit, as received or without its compression.
A variable of the environment may set the limit; a value that is not a number of a machine word
is reported and counts for nothing.
-/

namespace TenantView.Rewrite

/-- The size of an answer that is accepted unless another limit is set. -/
def defaultLimit : Nat := 10 * 1024 * 1024

/-- The variable that sets the limit. -/
def limitVariable : String := "TENANTGATE_MAX_RESPONSE_BYTES"

/-- The digits of a number, with a plus in front or not. -/
def digitsOf : List Char → List Char
  | '+' :: digits => digits
  | digits => digits

/-- The limit that a value spells. -/
def limitOf? (value : String) : Option Nat :=
  let digits := digitsOf value.toList
  if digits.isEmpty then none
  else (Text.readDigits? 10 0 digits).filter (· < UInt64.size)

theorem limitOf?_lt {value : String} {n : Nat} (h : limitOf? value = some n) : n < UInt64.size := by
  simp only [limitOf?] at h
  split at h
  · cases h
  · simpa using (Option.filter_eq_some_iff.mp h).2

/-- The limit in an environment. -/
def limit (env : Environment) : Logged Nat :=
  match env.value? limitVariable with
  | none => { value := defaultLimit, events := [] }
  | some text =>
    match limitOf? text with
    | some n => { value := n, events := [] }
    | none =>
      { value := defaultLimit
        events := [.limitIgnored limitVariable text (Decimal.text defaultLimit)] }

/-- Every limit is a number of a machine word. -/
theorem limit_value_lt (env : Environment) : (limit env).value < UInt64.size := by
  have hdefault : defaultLimit < UInt64.size := by decide
  unfold limit
  split
  · exact hdefault
  · split
    · next h => exact limitOf?_lt h
    · exact hdefault

end TenantView.Rewrite
