import TenantView.Rewrite.Error

/-!
# The values of a request

Before an answer is rewritten, the values that the tenant of the request may see have been stored
with the request.  If that has not happened, nothing may be shown at all.
-/

namespace TenantView.Rewrite

/-- What is stored with a request. -/
structure Context where
  values? : Option (List String) := none
deriving DecidableEq

namespace Context

/-- The context of a request with which nothing is stored. -/
def empty : Context where

/-- The context with new values in place of the old ones. -/
def store (_ : Context) (values : List String) : Context where
  values? := some values

/-- The values that are stored. -/
def values (context : Context) : Except Error (List String) :=
  match context.values? with
  | some values => .ok values
  | none => .error .missingLabelValues

end Context

end TenantView.Rewrite
