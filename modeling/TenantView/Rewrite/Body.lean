import TenantView.Rewrite.Error
import TenantView.Rewrite.Headers

/-!
# Bodies in frames

A body arrives in frames: blocks of data, trailing fields, or the failure of the connection.  It
is gathered frame by frame, and given up as soon as the data exceeds the limit or a frame is a
failure, whichever comes first.  The source of a body may have a limit of its own; the failure of a
body that exceeds it is of the same kind as the complaint about the limit here, and is reported as
if this limit had been exceeded.
-/

namespace TenantView.Rewrite

/-- The failure of a body: its source has a limit that it exceeds, or anything else. -/
inductive Breakage
  | overrun
  | other (reason : String)
deriving DecidableEq

namespace Breakage

/-- The wording of the failure itself. -/
def text : Breakage → String
  | overrun => "length limit exceeded"
  | other reason => reason

/-- What is reported of the failure under a limit; a limit of the source is taken for it. -/
def report (limit : Nat) : Breakage → BodyError
  | overrun => .tooLong limit
  | other reason => .broken reason

end Breakage

/-- A frame of a body. -/
inductive Frame
  | data (bytes : Bytes)
  | trailers (fields : Headers)
  | failure (breakage : Breakage)
deriving DecidableEq

/-- The data of frames of which `room` bytes more may be gathered. -/
def gather (limit : Nat) : (room : Nat) → List Frame → Except BodyError Bytes
  | _, [] => .ok []
  | room, .data bytes :: frames =>
    if room < bytes.length then .error (.tooLong limit)
    else (gather limit (room - bytes.length) frames).map (bytes ++ ·)
  | room, .trailers _ :: frames => gather limit room frames
  | _, .failure breakage :: _ => .error (breakage.report limit)

/-- The data of a body of at most `limit` bytes. -/
def readBody (limit : Nat) (frames : List Frame) : Except Error Bytes :=
  (gather limit limit frames).mapError .body

end TenantView.Rewrite
