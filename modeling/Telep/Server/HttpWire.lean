import Telep.Server.HttpStatusServer

/-!
# Replies on the wire (`send_full_buffer`, `http_reply`)

The rounds of the loop of `send_full_buffer` are a list; where it ends, the deadline has passed.
-/

namespace Telep

/-- What a round of the loop meets. -/
inductive SendRound where
  /-- `remaining` is not positive. -/
  | late
  /-- `poll` reports an error or nothing until the deadline. -/
  | notReady
  /-- `poll` or `send` is to be repeated: `EINTR`, `EAGAIN`. -/
  | again
  /-- `send` fails. -/
  | failed
  /-- `send` takes some bytes, up to one more than this number. -/
  | sent (more : Nat)
  deriving DecidableEq

/-- What a call of `send_full_buffer` leaves: the bytes on the wire, whether it returns 0, and the
rounds that it did not need. -/
structure SendCall where
  wire : Bytes
  complete : Bool
  rounds : List SendRound
  deriving DecidableEq

/-- `send_full_buffer` -/
def sendFullBuffer (buffer : Bytes) : List SendRound → SendCall
  | [] => ⟨[], buffer = [], []⟩
  | round :: rounds =>
      if buffer = [] then ⟨[], true, round :: rounds⟩
      else
        match round with
        | .late | .notReady | .failed => ⟨[], false, rounds⟩
        | .again => sendFullBuffer buffer rounds
        | .sent more =>
            let call := sendFullBuffer (buffer.drop (more + 1)) rounds
            { call with wire := buffer.take (more + 1) ++ call.wire }

/-- `http_reply`: the header, and the body if the header went out. -/
def httpReply (reply : HttpReply) (rounds : List SendRound) : SendCall :=
  let header := sendFullBuffer reply.header rounds
  if header.complete then
    let body := sendFullBuffer reply.body header.rounds
    { body with wire := header.wire ++ body.wire }
  else header

end Telep
