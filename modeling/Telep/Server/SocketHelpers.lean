import Telep.Misc.Text
import Telep.Server.Config

/-!
# Lines on a connection (`socket_helpers.c`)

`sendTextLine` is what a call puts on a connection that stays open. `receiveLine` reads one
line from the bytes that arrive before the deadline.
-/

namespace Telep

/-- The lines put on the wire: a text that does not fit in a frame is not sent at all. -/
def sendTextLine (text : Bytes) : List Bytes := if maxLine ≤ text.length then [] else [text]

/-- A line, or the results -2 and -3 of `receive_line_until`. -/
inductive ReceivedLine where
  | line (text : Bytes)
  | overflow
  | invalid
  deriving DecidableEq

/-- The loop of `receive_line_until` over the bytes that arrive: `buffer` holds the bytes
stored so far. The line and the bytes after it; `none` when the line feed does not arrive
before the deadline or the peer closes. -/
def receiveLoop (capacity : Nat) (buffer : Bytes) (invalid overflow : Bool) :
    Bytes → Option (ReceivedLine × Bytes)
  | [] => none
  | c :: rest =>
      if c = lineFeed then
        let text := if buffer.getLast? = some carriageReturn then buffer.dropLast else buffer
        if overflow then some (.overflow, rest)
        else if invalid ∨ carriageReturn ∈ text then some (.invalid, rest)
        else some (.line text, rest)
      else
        let invalid' := invalid || (c != carriageReturn && (c < 32 || 126 < c))
        if buffer.length + 1 < capacity then
          receiveLoop capacity (buffer ++ [c]) invalid' overflow rest
        else receiveLoop capacity buffer invalid' true rest

/-- `receive_text_line` -/
def receiveTextLine (arriving : Bytes) (capacity : Nat) : Option (ReceivedLine × Bytes) :=
  receiveLoop capacity [] false false arriving

end Telep
