import TenantView.Json.Reader

/-!
# Reading numbers

A number is an integer part without leading zeros, perhaps a fraction, perhaps an exponent.  It
is an integer when it has neither fraction nor exponent and fits 64 bits; otherwise, and for
minus zero, it is the nearest double.  A number beyond the finite doubles is refused behind its
last digit, or behind the digit that takes the written exponent past `2 ^ 31 - 1`.  A number
that nobody asks for is only skipped, and its size does not matter then.
-/

namespace TenantView.Json

/-- The leading decimal digits, and the rest. -/
def takeDigits (bytes : Bytes) : Bytes × Bytes :=
  (bytes.takeWhile Ascii.isDigit, bytes.dropWhile Ascii.isDigit)

/-- The number that decimal digits stand for, read behind the number `n`. -/
def extendDigits (n : Nat) (ds : Bytes) : Nat :=
  ds.foldl (fun n b ↦ 10 * n + Ascii.digitValue b) n

/-- The integer part: zero alone, or digits that do not begin with zero. -/
def readIntegerPart : Reader Nat
  | [] => failHere .endInValue []
  | b :: rest =>
    if b = Ascii.zero then
      match rest with
      | d :: _ => if Ascii.isDigit d then failAtNext .invalidNumber rest else .done 0 rest
      | [] => .done 0 rest
    else if Ascii.isDigit b then
      let (ds, rest) := takeDigits rest
      .done (extendDigits (Ascii.digitValue b) ds) rest
    else failHere .invalidNumber rest

/-- The greatest exponent that is written out. -/
def greatestExponent : Nat := 2147483647

/-- The further digits of an exponent, as long as it does not pass the greatest one. -/
def readExponentDigits : Nat → Bytes → Option Nat × Bytes
  | e, [] => (some e, [])
  | e, b :: rest =>
    if Ascii.isDigit b then
      let e := 10 * e + Ascii.digitValue b
      if greatestExponent < e then (none, rest) else readExponentDigits e rest
    else (some e, b :: rest)

/-- The double with the given digits and exponent, at the end of a number. -/
def finishReal (negative : Bool) (digits : Nat) (exponent : Int) : Reader Number := fun rest ↦
  match Double.ofDecimal negative digits exponent with
  | some d => .done (.real d) rest
  | none => failHere .numberOutOfRange rest

/-- The exponent behind its letter, and with it the number. -/
def readExponent (negative : Bool) (digits : Nat) (places : Nat) : Reader Number := fun bytes ↦
  let (down, bytes) : Bool × Bytes :=
    match bytes with
    | Ascii.plus :: rest => (false, rest)
    | Ascii.minus :: rest => (true, rest)
    | rest => (false, rest)
  match bytes with
  | [] => failHere .endInValue []
  | b :: rest =>
    if Ascii.isDigit b then
      match readExponentDigits (Ascii.digitValue b) rest with
      | (some e, rest) =>
        finishReal negative digits ((if down then -(e : Int) else e) - places) rest
      | (none, rest) =>
        if digits ≠ 0 ∧ down = false then failHere .numberOutOfRange rest
        else .done (.real { Double.zero with negative }) (rest.dropWhile Ascii.isDigit)
    else failHere .invalidNumber rest

/-- The fraction behind its point, and with it the number. -/
def readFraction (negative : Bool) (whole : Nat) : Reader Number := fun bytes ↦
  let (ds, rest) := takeDigits bytes
  match ds, rest with
  | [], [] => failAtNext .endInValue []
  | [], rest => failAtNext .invalidNumber rest
  | ds, rest =>
    let digits := extendDigits whole ds
    match rest with
    | Ascii.lowerE :: rest => readExponent negative digits ds.length rest
    | Ascii.upperE :: rest => readExponent negative digits ds.length rest
    | rest => finishReal negative digits (-ds.length) rest

/-- The number with an integer part and nothing else. -/
def ofIntegerPart (negative : Bool) (whole : Nat) : Reader Number := fun rest ↦
  if negative then
    if h : whole ≠ 0 ∧ whole ≤ UInt64.size / 2 then .done (.ofNegated whole h.2) rest
    else finishReal true whole 0 rest
  else if h : whole < UInt64.size then .done (.ofNat whole h) rest
  else finishReal false whole 0 rest

/-- A number behind its sign. -/
def readUnsigned (negative : Bool) : Reader Number := fun bytes ↦
  (readIntegerPart bytes).andThen fun whole rest ↦
    match rest with
    | Ascii.point :: rest => readFraction negative whole rest
    | Ascii.lowerE :: rest => readExponent negative whole 0 rest
    | Ascii.upperE :: rest => readExponent negative whole 0 rest
    | rest => ofIntegerPart negative whole rest

/-- A number whose first byte is a digit or the minus sign. -/
def readNumber : Reader Number
  | Ascii.minus :: rest => readUnsigned true rest
  | bytes => readUnsigned false bytes

/-- Skips an exponent behind its letter. -/
def skipExponent : Reader Unit := fun bytes ↦
  let bytes :=
    match bytes with
    | Ascii.plus :: rest => rest
    | Ascii.minus :: rest => rest
    | rest => rest
  match bytes with
  | [] => failHere .invalidNumber []
  | b :: rest =>
    if Ascii.isDigit b then .done () (rest.dropWhile Ascii.isDigit)
    else failHere .invalidNumber rest

/-- Skips a fraction behind its point. -/
def skipFraction : Reader Unit := fun bytes ↦
  let (ds, rest) := takeDigits bytes
  if ds.isEmpty then failAtNext .invalidNumber rest
  else
    match rest with
    | Ascii.lowerE :: rest => skipExponent rest
    | Ascii.upperE :: rest => skipExponent rest
    | rest => .done () rest

/-- Skips a number behind its sign. -/
def skipUnsigned : Reader Unit := fun bytes ↦
  let integerPart : Outcome Unit :=
    match bytes with
    | [] => failHere .invalidNumber []
    | b :: rest =>
      if b = Ascii.zero then
        match rest with
        | d :: _ => if Ascii.isDigit d then failAtNext .invalidNumber rest else .done () rest
        | [] => .done () rest
      else if Ascii.isDigit b then .done () (rest.dropWhile Ascii.isDigit)
      else failHere .invalidNumber rest
  integerPart.andThen fun () rest ↦
    match rest with
    | Ascii.point :: rest => skipFraction rest
    | Ascii.lowerE :: rest => skipExponent rest
    | Ascii.upperE :: rest => skipExponent rest
    | rest => .done () rest

/-- Skips a number whose first byte is a digit or the minus sign. -/
def skipNumber : Reader Unit
  | Ascii.minus :: rest => skipUnsigned rest
  | bytes => skipUnsigned bytes

end TenantView.Json
