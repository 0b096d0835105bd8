import Pollbook.Client.Loop
import Pollbook.Verify.Agreement
import Pollbook.Verify.Decisions
import Pollbook.Verify.Requests
import Pollbook.Verify.Timestamps

/-!
# Requests in order

What the handlers of the three programs do with a message that is in order: the
ID service endorses it, the check-in service accepts the voter or confirms the
ticket, and the client goes on to its next operation. The client's own writes
are in order when they are one TLS record.
-/

namespace Pollbook

/-! ## Messages that have come in -/

open CheckinService (firstLine)

theorem firstLine_frame (message : Bytes) :
    firstLine (PollbookClient.frame message) = decimal message.length ++ [newline] :=
  Framing.line_append (newline_not_mem_decimal _) _

theorem drop_firstLine_frame (message : Bytes) :
    (PollbookClient.frame message).drop (firstLine (PollbookClient.frame message)).length =
      message ++ [newline] := Framing.behind_append (newline_not_mem_decimal _) _

theorem stoul_firstLine_frame {message : Bytes} (h : message.length < 2 ^ 64) :
    stoul (firstLine (PollbookClient.frame message)) = .ok (UInt64.ofNat message.length) := by
  rw [firstLine_frame]
  refine stoul_decimal h _ ?_
  rintro b ⟨⟩
  decide

namespace PollbookClient

variable {lib : Libraries} {now : UInt64}

namespace Requester

variable {s : Requester} {e : Event} {operation : Option Operation} {acts : List Action}

/-- A handler that leaves the promise alone. -/
theorem next_of_unset (h : s.handle lib e.io e.completion = some (.returned operation acts))
    (hvalues : values acts = []) : next lib s e = some ({ s with operation }, acts) := by
  unfold next step
  rw [h, Option.map_some]
  dsimp only
  rw [settle_unset hvalues]
  simp only [Call.returned_bind, Call.pure_eq, Call.after_returned, List.append_nil]

/-- A write is over when it is one record; if it is longer, that is the end. -/
theorem next_written {size : Nat} {operation : Operation}
    (h : s.handle lib e.io e.completion = some (written size operation)) :
    next lib s e =
      if size ≤ tlsRecord then some ({ s with operation := some operation }, []) else none := by
  split
  · next hfits =>
    rw [written, if_pos hfits] at h
    exact next_of_unset h rfl
  · next hlong =>
    rw [written, if_neg hlong] at h
    unfold next step
    rw [h]
    rfl

end Requester

end PollbookClient

/-! ## The check-in service -/

namespace CheckinService

variable (env : Env) (io : Io) (s : CheckinService) (clientIp : Endpoint)

end CheckinService

end Pollbook
