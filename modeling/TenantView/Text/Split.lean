/-!
# Parts of a text

A sign cuts a text into parts: into one more than it occurs, some of which may be empty.
-/

namespace TenantView.Text

/-- The parts between the occurrences of a sign. -/
def splitAt (sign : Char) : List Char → List (List Char)
  | [] => [[]]
  | c :: cs =>
    if c = sign then [] :: splitAt sign cs
    else
      match splitAt sign cs with
      | [] => [[c]]
      | part :: parts => (c :: part) :: parts

end TenantView.Text
