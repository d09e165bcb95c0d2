import TenantView.Json.Fault

/-!
# Reading from the front of a document

A reader takes bytes from the front of what is left of a document and either yields a value or
fails; in both cases it says what is then left, because a failure is placed by what surrounds
it.  A fault that nobody has placed yet is placed by the nearest enclosing reader that knows a
position (`Outcome.placed`), after the enclosing brackets have been closed as far as they can be
(`Outcome.closedBy`).
-/

namespace TenantView.Json

/-- What a reader makes of the bytes before it. -/
inductive Outcome (α : Type) where
  | done (value : α) (rest : Bytes)
  | failed (fault : Fault) (rest : Bytes)
deriving Repr

/-- Reads a value from the front of some bytes. -/
abbrev Reader (α : Type) := Bytes → Outcome α

namespace Outcome

/-- Goes on behind a value. -/
def andThen {α β : Type} : Outcome α → (α → Reader β) → Outcome β
  | done value rest, next => next value rest
  | failed fault rest, _ => failed fault rest

/-- Changes the value. -/
def map {α β : Type} (f : α → β) : Outcome α → Outcome β
  | done value rest => done (f value) rest
  | failed fault rest => failed fault rest

/-- Places a fault that has no place yet where the reader stopped. -/
def placed {α : Type} : Outcome α → Outcome α
  | failed ⟨cause, none⟩ rest => failed ⟨cause, some rest⟩ rest
  | outcome => outcome

/-- Reads a closing part behind a value.  Behind a failure the closing part is taken off as far
as it goes, and the failure stands. -/
def closedBy {α : Type} (close : Reader Unit) : Outcome α → Outcome α
  | done value rest =>
    match close rest with
    | done () rest => done value rest
    | failed fault rest => failed fault rest
  | failed fault rest =>
    match close rest with
    | done () rest => failed fault rest
    | failed _ rest => failed fault rest

@[simp] theorem andThen_done {α β : Type} (x : α) (rest : Bytes) (next : α → Reader β) :
    (done x rest).andThen next = next x rest :=
  rfl

@[simp] theorem andThen_failed {α β : Type} (f : Fault) (rest : Bytes) (next : α → Reader β) :
    (failed f rest : Outcome α).andThen next = failed f rest :=
  rfl

@[simp] theorem map_done {α β : Type} (f : α → β) (x : α) (rest : Bytes) :
    (done x rest).map f = done (f x) rest :=
  rfl

@[simp] theorem placed_done {α : Type} (x : α) (rest : Bytes) :
    (done x rest).placed = done x rest :=
  rfl

end Outcome

/-- Fails with the place right here. -/
def failHere {α : Type} (cause : Cause) (rest : Bytes) : Outcome α :=
  .failed ⟨cause, some rest⟩ rest

/-- Fails with the place behind the next byte, which is looked at and not taken. -/
def failAtNext {α : Type} (cause : Cause) (rest : Bytes) : Outcome α :=
  .failed ⟨cause, some rest.tail⟩ rest

/-- Fails and leaves the place to an enclosing reader. -/
def failUnplaced {α : Type} (cause : Cause) (rest : Bytes) : Outcome α :=
  .failed ⟨cause, none⟩ rest

/-- The blanks between the parts of a document. -/
def isBlankByte (b : UInt8) : Bool :=
  b == Ascii.space || b == Ascii.newline || b == Ascii.tab || b == Ascii.carriageReturn

/-- Drops the blanks in front. -/
def skipBlanks (bytes : Bytes) : Bytes :=
  bytes.dropWhile isBlankByte

/-- The rest of a keyword. -/
def readKeyword : (letters : Bytes) → Reader Unit
  | [], rest => .done () rest
  | _ :: _, [] => failHere .endInValue []
  | letter :: letters, b :: rest =>
    if b = letter then readKeyword letters rest else failHere .expectedKeyword rest

/-- Whether another item of a sequence follows; its separator is taken, the closing bracket is
not. -/
def readItemStart (first : Bool) : Reader Bool := fun bytes ↦
  match skipBlanks bytes with
  | [] => failAtNext .endInArray []
  | Ascii.closeBracket :: rest => .done false (Ascii.closeBracket :: rest)
  | b :: rest =>
    if first then .done true (b :: rest)
    else if b = Ascii.comma then
      match skipBlanks rest with
      | [] => failAtNext .endInValue []
      | Ascii.closeBracket :: rest => failAtNext .trailingComma (Ascii.closeBracket :: rest)
      | rest => .done true rest
    else failAtNext .expectedCommaOrBracket (b :: rest)

/-- Whether another member of a mapping follows; its separator and the opening quote of its name
are taken, the closing brace is not. -/
def readMemberStart (first : Bool) : Reader Bool := fun bytes ↦
  match skipBlanks bytes with
  | [] => failAtNext .endInObject []
  | Ascii.closeBrace :: rest => .done false (Ascii.closeBrace :: rest)
  | b :: rest =>
    if first then
      if b = Ascii.quote then .done true rest else failAtNext .nameNotString (b :: rest)
    else if b = Ascii.comma then
      match skipBlanks rest with
      | [] => failAtNext .endInValue []
      | Ascii.quote :: rest => .done true rest
      | Ascii.closeBrace :: rest => failAtNext .trailingComma (Ascii.closeBrace :: rest)
      | rest => failAtNext .nameNotString rest
    else failAtNext .expectedCommaOrBrace (b :: rest)

/-- The colon between a name and its value. -/
def readColon : Reader Unit := fun bytes ↦
  match skipBlanks bytes with
  | [] => failAtNext .endInObject []
  | Ascii.colon :: rest => .done () rest
  | rest => failAtNext .expectedColon rest

/-- The closing bracket of a sequence.  A comma before something else is taken. -/
def closeSequence : Reader Unit := fun bytes ↦
  match skipBlanks bytes with
  | [] => failAtNext .endInArray []
  | Ascii.closeBracket :: rest => .done () rest
  | Ascii.comma :: rest =>
    match skipBlanks rest with
    | Ascii.closeBracket :: rest => failAtNext .trailingComma (Ascii.closeBracket :: rest)
    | rest => failAtNext .trailingCharacters rest
  | rest => failAtNext .trailingCharacters rest

/-- The closing brace of a mapping. -/
def closeMapping : Reader Unit := fun bytes ↦
  match skipBlanks bytes with
  | [] => failAtNext .endInObject []
  | Ascii.closeBrace :: rest => .done () rest
  | Ascii.comma :: rest => failAtNext .trailingComma (Ascii.comma :: rest)
  | rest => failAtNext .trailingCharacters rest

/-- Reads what an opening bracket at the front encloses, if another level of nesting is left:
`inner` is the reader of the inside, or nothing at the deepest level. -/
def enclosed {α : Type} (inner : Option (Reader α)) (close : Reader Unit) (opened : Bytes) :
    Outcome α :=
  match inner with
  | none => failAtNext .nestedTooDeep opened
  | some inside => ((inside opened.tail).closedBy close).placed

/-- The items of a sequence up to its closing bracket.  Every round takes at least one byte, so
that the bytes themselves bound the number of rounds. -/
def readItems {α : Type} (item : Reader α) : (rounds : Bytes) → Bool → List α → Reader (List α)
  | rounds, first, items, bytes =>
    match readItemStart first bytes with
    | .failed fault rest => .failed fault rest
    | .done false rest => .done items.reverse rest
    | .done true rest =>
      match item rest with
      | .failed fault rest => .failed fault rest
      | .done value rest =>
        match rounds with
        | [] => failHere .endInArray rest
        | _ :: rounds => readItems item rounds false (value :: items) rest

/-- The members of a mapping up to its closing brace.  Each member is handed to `member` with
what has been gathered so far, behind the opening quote of its name. -/
def readMembers {σ : Type} (member : σ → Reader σ) : (rounds : Bytes) → Bool → σ → Reader σ
  | rounds, first, state, bytes =>
    match readMemberStart first bytes with
    | .failed fault rest => .failed fault rest
    | .done false rest => .done state rest
    | .done true rest =>
      match member state rest with
      | .failed fault rest => .failed fault rest
      | .done state rest =>
        match rounds with
        | [] => failHere .endInObject rest
        | _ :: rounds => readMembers member rounds false state rest

/-- Reads a whole document: a value with nothing but blanks behind it. -/
def readDocument {α : Type} (reader : Reader α) (document : Bytes) : Except Refusal α :=
  match reader document with
  | .failed fault _ => .error (.ofFault document fault)
  | .done value rest =>
    match skipBlanks rest with
    | [] => .ok value
    | _ :: after => .error (.ofFault document ⟨.trailingCharacters, some after⟩)

end TenantView.Json
