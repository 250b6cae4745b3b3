import Mathlib.Data.List.DropRight
import Telep.Misc.Frames
import Telep.Server.AlertSubscribers
import Telep.Server.Proofs.Messages

/-!
# The client module (`telep.py`)

`encodeMessage` builds the line of a command. A `TelepConnection` splits the stream of the
server into lines, keeps the pushed alerts apart and reads the reply of one command. What the
calls of `recv` return is a list of chunks, cut anywhere; the empty chunk is the end of the
stream, and the end of the list is the deadline.
-/

namespace Telep

/-- The separators and terminators that no part of a message may contain. -/
def forbiddenBytes : Bytes := [fieldSeparator, carriageReturn, lineFeed, 0]

/-- The line of a command, or `none` for a `ValueError`. The bytes from 128 on stand for the
characters that `encode("ascii")` refuses. -/
def encodeMessage (command : Bytes) (fields : List Bytes) : Option Bytes :=
  if ∃ part ∈ command :: fields, part = [] ∨ ∃ c ∈ part, c ∈ forbiddenBytes then none
  else if maxLine < (joinFields (command :: fields)).length + 1 then none
  else if ∃ c ∈ joinFields (command :: fields), 128 ≤ c then none
  else some (joinFields (command :: fields) ++ [lineFeed])

/-- `line.rstrip("\r\n").split("|")` -/
def decodeMessage (line : Bytes) : List Bytes :=
  (line.rdropWhile fun c => c = carriageReturn ∨ c = lineFeed).splitOn fieldSeparator

/-- `END_OF_LIST` -/
def endOfList : Bytes := ascii "END"

/-- `ALERT_PREFIX` -/
def alertPrefix : Bytes := ascii "ALERT|"

/-- `line.startswith(ALERT_PREFIX)` -/
def isAlertLine (line : Bytes) : Bool := alertPrefix.isPrefixOf line

/-- The commands whose reply can be a list. -/
def isListCommand (command : Bytes) : Bool :=
  command ∈ [ascii "GET_NODES", ascii "GET_ALERTS", ascii "STATS"]

/-- A `TelepConnection` while its socket is open. -/
structure TelepConnection where
  buffer : Bytes
  pendingAlerts : List (List Bytes)
  /-- The lines that `_extract` returned, which the program does not keep. -/
  extracted : List Bytes
  deriving DecidableEq

/-- What `_extract` returns, with `waiting` for `None`, or the `ConnectionError` it raises. -/
inductive Extracted where
  | waiting
  | line (text : Bytes)
  | oversized
  | badEncoding
  deriving DecidableEq

/-- The failures of a read: the deadline, and the `ConnectionError`s. -/
inductive ReadFailure where
  | timeout
  | closed
  | oversized
  | badEncoding
  | unsolicited
  deriving DecidableEq

namespace TelepConnection

/-- `connect` -/
def fresh : TelepConnection := ⟨[], [], []⟩

variable (c : TelepConnection)

/-- `_extract` -/
def extract : Extracted × TelepConnection :=
  match c.buffer.idxOf? lineFeed with
  | none => if maxLine ≤ c.buffer.length then (.oversized, c) else (.waiting, c)
  | some index =>
      if maxLine ≤ index then (.oversized, c)
      else
        let raw := c.buffer.take index
        let c' := { c with buffer := c.buffer.drop (index + 1) }
        if ∃ byte ∈ raw, 128 ≤ byte then (.badEncoding, c')
        else
          let text := raw.rdropWhile (· = carriageReturn)
          (.line text, { c' with extracted := c.extracted ++ [text] })

/-- `_receive`, for a chunk that is not empty. -/
def receive (chunk : Bytes) : TelepConnection := { c with buffer := c.buffer ++ chunk }

/-- A pushed alert is kept for `take_alerts`. -/
def keepAlert (text : Bytes) : TelepConnection :=
  { c with pendingAlerts := c.pendingAlerts ++ [decodeMessage text] }

/-- The loop of `read_line`: the line or the failure, the connection after it and the chunks not
received. `rounds` bounds the rounds. -/
def readLoop (c : TelepConnection) (chunks : List Bytes) :
    Nat → Except ReadFailure Bytes × TelepConnection × List Bytes
  | 0 => (.error .timeout, c, chunks)
  | rounds + 1 =>
      match c.extract with
      | (.line text, c') =>
          if isAlertLine text then (c'.keepAlert text).readLoop chunks rounds
          else (.ok text, c', chunks)
      | (.oversized, c') => (.error .oversized, c', chunks)
      | (.badEncoding, c') => (.error .badEncoding, c', chunks)
      | (.waiting, c') =>
          match chunks with
          | [] => (.error .timeout, c', [])
          | chunk :: chunks =>
              if chunk = [] then (.error .closed, c', chunks)
              else (c'.receive chunk).readLoop chunks rounds

/-- A bound on the rounds of a loop: each takes a line out of the buffer or receives a chunk. -/
def roundsLeft (chunks : List Bytes) : Nat :=
  c.buffer.length + chunks.flatten.length + chunks.length + 1

/-- `read_line` -/
def readLine (chunks : List Bytes) : Except ReadFailure Bytes × TelepConnection × List Bytes :=
  c.readLoop chunks (c.roundsLeft chunks)

/-- The loop of `request` over the rows of a list, with `rounds` bounding the lines read. -/
def readRows (c : TelepConnection) (chunks : List Bytes) (response : List (List Bytes)) :
    Nat → Except ReadFailure (List (List Bytes)) × TelepConnection × List Bytes
  | 0 => (.error .timeout, c, chunks)
  | rounds + 1 =>
      match c.readLine chunks with
      | (.error failure, c', chunks') => (.error failure, c', chunks')
      | (.ok line, c', chunks') =>
          if line = endOfList then (.ok response, c', chunks')
          else readRows c' chunks' (response ++ [decodeMessage line]) rounds

/-- What `request` does after `sendall`: the decoded reply or the failure, the connection after
it and the chunks not received. -/
def request (command : Bytes) (chunks : List Bytes) :
    Except ReadFailure (List (List Bytes)) × TelepConnection × List Bytes :=
  match c.readLine chunks with
  | (.error failure, c', chunks') => (.error failure, c', chunks')
  | (.ok line, c', chunks') =>
      let response := [decodeMessage line]
      if isListCommand command ∧ (decodeMessage line).head? = some (ascii "OK") then
        c'.readRows chunks' response (c'.roundsLeft chunks')
      else (.ok response, c', chunks')

/-- The loop of `take_alerts`; the chunks are the bytes that `select` finds ready. -/
def takeLoop (c : TelepConnection) (chunks : List Bytes) :
    Nat → Option ReadFailure × TelepConnection × List Bytes
  | 0 => (none, c, chunks)
  | rounds + 1 =>
      match c.extract with
      | (.line text, c') =>
          if isAlertLine text then (c'.keepAlert text).takeLoop chunks rounds
          else (some .unsolicited, c', chunks)
      | (.oversized, c') => (some .oversized, c', chunks)
      | (.badEncoding, c') => (some .badEncoding, c', chunks)
      | (.waiting, c') =>
          match chunks with
          | [] => (none, c', [])
          | chunk :: chunks =>
              if chunk = [] then (some .closed, c', chunks)
              else (c'.receive chunk).takeLoop chunks rounds

/-- `take_alerts`: the alerts or the failure, the connection after it and the chunks not
received. -/
def takeAlerts (chunks : List Bytes) :
    Except ReadFailure (List (List Bytes)) × TelepConnection × List Bytes :=
  match c.takeLoop chunks 256 with
  | (some failure, c', chunks') => (.error failure, c', chunks')
  | (none, c', chunks') => (.ok c'.pendingAlerts, { c' with pendingAlerts := [] }, chunks')

end TelepConnection

end Telep
