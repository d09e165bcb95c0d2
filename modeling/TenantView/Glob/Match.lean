import TenantView.Glob.Pattern

/-!
# Matching glob patterns

A pattern is matched against the whole of a text.  The tokens are taken from the last to the
first, and for each of them a table says which suffixes of the text the tokens from there on
match (`table`); one pass over the text makes the table of one more token.  So matching takes
time in proportion to the product of the two lengths, whatever the pattern is.
-/

namespace TenantView.Glob

/-- Whether a token that stands for one character accepts it. -/
def Token.accepts (token : Token) (c : Char) : Bool :=
  match token with
  | .char d => d = c
  | .anyChar => true
  | .within set => set.any (·.contains c)
  | .outside set => !set.any (·.contains c)
  | .anySequence => false
  | .anyComponents => false

/-- From the table of the tokens behind it, the table for a token that stands for one
character. -/
def passOne (accepts : Char → Bool) : List Char → List Bool → List Bool
  | c :: cs, _ :: after :: table => (accepts c && after) :: passOne accepts cs (after :: table)
  | _, _ => [false]

/-- From the table of the tokens behind it, the table for a token that stands for any run. -/
def passSequence : List Bool → List Bool
  | [] => []
  | here :: table =>
    let after := passSequence table
    (here || after.headD false) :: after

/-- From the table of the tokens behind them, whether those match behind some whole components
that begin inside the current one, for every suffix of the text; the last component may be
without a slash. -/
def insideComponent : List Char → List Bool → List Bool
  | c :: cs, _ :: table =>
    let after := insideComponent cs table
    (after.headD false || (c = '/' && table.headD false)) :: after
  | _, table => table

/-- From the table of the tokens behind it, the table for a token that stands for any run of
whole components. -/
def passComponents (cs : List Char) (table : List Bool) : List Bool :=
  List.zipWith (· || ·) table (insideComponent cs table)

/-- For every suffix of the text, the longest first, whether the tokens match it. -/
def table : List Token → List Char → List Bool
  | [], cs => List.replicate cs.length false ++ [true]
  | token :: tokens, cs =>
    let after := table tokens cs
    match token with
    | .anySequence => passSequence after
    | .anyComponents => passComponents cs after
    | token => passOne token.accepts cs after

/-- Whether the tokens match the whole text. -/
def isMatch (tokens : List Token) (text : String) : Bool :=
  (table tokens text.toList).headD false

end TenantView.Glob
