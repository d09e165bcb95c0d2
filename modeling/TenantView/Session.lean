import TenantView.Counters
import TenantView.Rewrite.Limit

/-!
# Sessions

A deployment has a hook for each kind of listing, with the same settings and the same limit, and
may have counters attached.  In the course of a session one answer after another is handed to a
hook, and the counters are read by everyone in between.
-/

namespace TenantView

open Rewrite (Hook Reply Request Response)

/-- An answer that is handed to a hook, which may have counters attached. -/
structure Call where
  hook : Hook
  counted : Bool
  request : Request
  response : Response

namespace Call

/-- What the hook makes of the answer. -/
def reply (call : Call) : Reply :=
  call.hook.reply call.request call.response

/-- The endpoint that the answer is for. -/
def endpoint (call : Call) : String :=
  call.hook.endpoint

end Call

/-- The hooks of a deployment. -/
structure Routes where
  settings : Settings
  limit : Nat := Rewrite.defaultLimit
  counted : Bool := false

/-- An answer that is handed to the hook for a kind of listing. -/
def Routes.call (routes : Routes) (kind : ListingKind) (request : Request) (response : Response) :
    Call where
  hook := .ofListings routes.settings routes.limit kind
  counted := routes.counted
  request
  response

namespace Counters

/-- Answers a call and counts what became of it. -/
def serve (counters : Counters) (call : Call) : Reply × Counters :=
  let reply := call.reply
  (reply, if call.counted then counters.record call.endpoint reply else counters)

/-- Answers one call after another. -/
def serveAll (counters : Counters) : List Call → List Reply × Counters
  | [] => ([], counters)
  | call :: calls =>
    let (reply, counters) := counters.serve call
    let (replies, counters) := counters.serveAll calls
    (reply :: replies, counters)

end Counters

end TenantView
