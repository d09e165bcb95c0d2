/-!
# Identifiers

An identifier is made of the letters and digits of ASCII and underscores, with no digit in front.
The names of labels and of environment variables are identifiers.
-/

namespace TenantView.Text

/-- Whether a character may begin an identifier. -/
def isIdentifierStart (c : Char) : Bool :=
  c.isAlpha || c = '_'

/-- Whether a character may go on in an identifier. -/
def isIdentifierRest (c : Char) : Bool :=
  c.isAlphanum || c = '_'

/-- Whether a text is an identifier. -/
def isIdentifier : List Char → Bool
  | [] => false
  | c :: cs => isIdentifierStart c && cs.all isIdentifierRest

/-- The longest identifier in front of a text, and what follows it. -/
def splitIdentifier? : List Char → Option (List Char × List Char)
  | [] => none
  | c :: cs =>
    if isIdentifierStart c then
      some (c :: cs.takeWhile isIdentifierRest, cs.dropWhile isIdentifierRest)
    else none

theorem append_of_splitIdentifier? {text name rest : List Char}
    (h : splitIdentifier? text = some (name, rest)) : name ++ rest = text := by
  cases text with
  | nil => cases h
  | cons c cs =>
    simp only [splitIdentifier?] at h
    split at h
    · cases h
      simp
    · cases h

theorem isIdentifier_of_splitIdentifier? {text name rest : List Char}
    (h : splitIdentifier? text = some (name, rest)) : isIdentifier name = true := by
  cases text with
  | nil => cases h
  | cons c cs =>
    simp only [splitIdentifier?] at h
    split at h
    case isTrue hc =>
      cases h
      simp [isIdentifier, hc]
    · cases h

/-- An identifier ends before a character that does not go on in it. -/
theorem splitIdentifier?_append {name rest : List Char} (h : isIdentifier name = true)
    (hrest : ∀ c ∈ rest.head?, isIdentifierRest c = false) :
    splitIdentifier? (name ++ rest) = some (name, rest) := by
  cases name with
  | nil => cases h
  | cons c cs =>
    obtain ⟨hstart, hall⟩ := Bool.and_eq_true_iff.mp h
    have hall := List.all_eq_true.mp hall
    have hstop : rest.takeWhile isIdentifierRest = [] ∧ rest.dropWhile isIdentifierRest = rest := by
      cases rest with
      | nil => exact ⟨rfl, rfl⟩
      | cons d rest => simp [hrest d rfl]
    rw [List.cons_append, splitIdentifier?, if_pos hstart, List.takeWhile_append_of_pos hall,
      List.dropWhile_append_of_pos hall, hstop.1, hstop.2, List.append_nil]

end TenantView.Text
