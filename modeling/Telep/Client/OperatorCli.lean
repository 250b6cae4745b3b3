import Telep.Client.Measurements

/-!
# The console of an operator (`operator_cli.py`)

The actions of the menu and the loop of `main` after the subscription. What `request` and
`take_alerts` return are parameters, call by call, and so is `time.localtime` with `strftime`. The
user types UTF-8. What a call of `print` writes is one text; the texts for `stderr` are not kept.
-/

namespace Telep

/-- The exceptions that end an action. -/
inductive Raised where
  /-- `OSError` and `ConnectionError` -/
  | connection
  | value
  | index
  | overflow
  | endOfFile
  deriving DecidableEq

/-- The user and the connection, as far as the console gets. -/
structure Console where
  /-- The lines that the user will type. -/
  inputs : List Bytes
  printed : List Bytes
  /-- The number of calls of `request`. -/
  requests : Nat
  /-- The number of calls of `take_alerts`. -/
  takes : Nat

/-- An action of the console. -/
abbrev Cli := ExceptT Raised (StateM Console)

namespace Cli

def print (text : Bytes) : Cli Unit := modify fun c => { c with printed := c.printed ++ [text] }

/-- The first of the lines that the user will type. -/
def nextLine : List Bytes → Cli Bytes
  | [] => throw .endOfFile
  | line :: inputs => do
      modify fun c => { c with inputs := inputs }
      return line

/-- `input`, without its prompt. -/
def input : Cli Bytes := do
  let c ← get
  nextLine c.inputs

/-- `list[index]` -/
def item {α : Type} (list : List α) (index : Nat) : Cli α :=
  match list[index]? with
  | some a => pure a
  | none => throw .index

/-- What a call of the connection returns or raises. -/
def result {α : Type} : Except Raised α → Cli α
  | .ok a => pure a
  | .error raised => throw raised

end Cli

/-! ## Texts -/

/-- The characters of a text, each with its bytes in UTF-8. -/
def characters (text : Bytes) : List Bytes := text.splitBy fun _ c => 128 ≤ c ∧ c < 192

/-- Whether a character is a blank for `str.strip`. -/
def isPySpace : Bytes → Bool
  | [c] => c = 32 ∨ (9 ≤ c ∧ c ≤ 13) ∨ (28 ≤ c ∧ c ≤ 31)
  -- U+0085 and U+00A0
  | [194, c] => c = 133 ∨ c = 160
  -- U+1680, U+2000 to U+200A, U+2028, U+2029, U+202F, U+205F and U+3000
  | [225, 154, 128] => true
  | [226, 128, c] => (128 ≤ c ∧ c ≤ 138) ∨ c = 168 ∨ c = 169 ∨ c = 175
  | [226, 129, 159] => true
  | [227, 128, 128] => true
  | _ => false

/-- `text.strip()` -/
def strip (text : Bytes) : Bytes :=
  (((characters text).dropWhile isPySpace).rdropWhile isPySpace).flatten

/-- A pasted text loses its no-break space and its wide space. -/
example : strip [194, 160, 52, 32, 227, 128, 128] = ascii "4" := by decide

/-- The digits of an `int`, which single underscores may group. -/
def pyDigits (text : Bytes) : Option Nat :=
  let groups := text.splitOn 95
  if ∀ group ∈ groups, group ≠ [] ∧ ∀ c ∈ group, IsDigit c then some (digitsValue groups.flatten)
  else none

/-- A blank for `int` in an ASCII text. -/
def isIntBlank (c : UInt8) : Bool := c = 32 ∨ (9 ≤ c ∧ c ≤ 13)

/-- `int(text)` of an ASCII text, `none` where it raises `ValueError`. -/
def pyInt (text : Bytes) : Option Int :=
  match (text.dropWhile isIntBlank).rdropWhile isIntBlank with
  | 45 :: digits => (pyDigits digits).map fun n => -Int.ofNat n
  | 43 :: digits => (pyDigits digits).map Int.ofNat
  | digits => (pyDigits digits).map Int.ofNat

/-- `f"{text:<width}"` -/
def ljust (width : Nat) (text : Bytes) : Bytes := text ++ List.replicate (width - text.length) 32

/-! ## The actions -/

section Actions

variable (request : Nat → Bytes → List Bytes → Except Raised (List (List Bytes)))
  (takeAlerts : Nat → Except Raised (List (List Bytes)))
  (localTime : Int → Except Raised Bytes)
  (repr : List (List Bytes) → Bytes)

/-- `connection.request` -/
def ask (command : Bytes) (fields : List Bytes) : Cli (List (List Bytes)) := do
  let c ← get
  set { c with requests := c.requests + 1 }
  Cli.result (request c.requests command fields)

/-- `format_timestamp` -/
def formatTimestamp (epochText : Bytes) : Cli Bytes :=
  match pyInt epochText with
  | none => throw .value
  | some epoch => Cli.result (localTime epoch)

/-- `print_reply_error` -/
def printReplyError (reply : List Bytes) : Cli Unit := do
  let code ← Cli.item reply 1
  let text ← Cli.item reply 2
  Cli.print (ascii "  ! error " ++ code ++ ascii ": " ++ text)

/-- `decode_measurements`, with the exception that `dict` raises. -/
def measurementsOf (field : Bytes) : Cli (List (Bytes × Bytes)) :=
  match decodeMeasurements field with
  | none => throw .value
  | some entries => pure entries

/-- `show_nodes` -/
def showNodes : Cli Unit := do
  let reply ← ask request (ascii "GET_NODES") []
  let head ← Cli.item reply 0
  if (← Cli.item head 0) ≠ ascii "OK" then printReplyError head
  else
    let count ← Cli.item head 1
    Cli.print (ascii "  " ++ count ++ ascii " registered nodes")
    (reply.drop 1).forM fun row =>
      match row with
      | [nodeId, state, secondsAgo] =>
          Cli.print (ascii "  " ++ ljust 12 nodeId ++ ascii " " ++ ljust 9 state ++
            ascii " last data " ++ secondsAgo ++ ascii " s ago")
      | _ => throw .value

/-- `show_last_measurement` -/
def showLastMeasurement (nodeId : Bytes) : Cli Unit := do
  let reply ← Cli.item (← ask request (ascii "GET_LAST") [nodeId]) 0
  if (← Cli.item reply 0) ≠ ascii "OK" then printReplyError reply
  else
    match reply with
    | [_, nodeId, timestamp, field] =>
        if field = ascii "NO_DATA" then
          Cli.print (ascii "  " ++ ljust 12 nodeId ++ ascii " no measurements yet")
        else
          let entries ← measurementsOf field
          let measurements := List.intercalate (ascii " ") <|
            entries.map fun e => e.1 ++ ascii "=" ++ e.2
          let time ← formatTimestamp localTime timestamp
          Cli.print (ascii "  " ++ ljust 12 nodeId ++ ascii " " ++ time ++ ascii "  " ++
            measurements)
    | _ => throw .value

/-- `show_all_measurements` -/
def showAllMeasurements : Cli Unit := do
  let reply ← ask request (ascii "GET_NODES") []
  let head ← Cli.item reply 0
  if (← Cli.item head 0) ≠ ascii "OK" then printReplyError head
  else
    (reply.drop 1).forM fun row =>
      match row with
      | [nodeId, _, _] => showLastMeasurement request localTime nodeId
      | _ => throw .value

/-- `show_alerts` -/
def showAlerts : Cli Unit := do
  let reply ← ask request (ascii "GET_ALERTS") []
  let head ← Cli.item reply 0
  if (← Cli.item head 0) ≠ ascii "OK" then printReplyError head
  else
    let count ← Cli.item head 1
    Cli.print (ascii "  " ++ count ++ ascii " alerts")
    (reply.drop 1).forM fun row =>
      match row with
      | [timestamp, nodeId, alertType, value] => do
          let time ← formatTimestamp localTime timestamp
          Cli.print (ascii "  " ++ time ++ ascii "  " ++ ljust 12 nodeId ++ ascii " " ++
            ljust 12 alertType ++ ascii " " ++ value)
      | _ => throw .value

/-- `show_status` -/
def showStatus : Cli Unit := do
  let reply ← Cli.item (← ask request (ascii "GET_STATUS") []) 0
  if (← Cli.item reply 0) ≠ ascii "OK" then printReplyError reply
  else
    let entries ← measurementsOf (← Cli.item reply 1)
    entries.forM fun e => Cli.print (ascii "  " ++ ljust 12 e.1 ++ ascii " " ++ e.2)

/-- `send_raw_command` -/
def sendRawCommand : Cli Unit := do
  let raw := strip (← Cli.input)
  if raw = [] then return
  match raw.splitOn fieldSeparator with
  | [] => throw .value
  | command :: fields =>
      (← ask request command fields).forM fun line =>
        Cli.print (ascii "  < " ++ joinFields line)

/-! ## The menu -/

/-- `MENU` -/
def menu : Bytes := ascii "
=== TELEP/2.0 operator ===
 1) Registered / active nodes       (GET_NODES)
 2) Last measurements of all nodes  (GET_NODES + GET_LAST)
 3) Query one node                  (GET_LAST|<id>)
 4) Alerts                          (GET_ALERTS)
 5) System status                   (GET_STATUS)
 6) Send a raw command
 0) Quit                            (BYE)
"

/-- `actions.get(choice)` -/
def actionOf (choice : Bytes) : Option (Cli Unit) :=
  if choice = ascii "1" then some (showNodes request)
  else if choice = ascii "2" then some (showAllMeasurements request localTime)
  else if choice = ascii "3" then some do
    showLastMeasurement request localTime (strip (← Cli.input))
  else if choice = ascii "4" then some (showAlerts request localTime)
  else if choice = ascii "5" then some (showStatus request)
  else if choice = ascii "6" then some (sendRawCommand request)
  else if choice = ascii "7" then some do Cli.print (repr (← ask request (ascii "STATS") []))
  else none

/-- How the session ends. -/
inductive SessionEnd where
  | quit
  /-- An action lost the connection. -/
  | lost
  /-- One of the exceptions of the outer `except`. -/
  | interrupted
  /-- Any other exception: it leaves `main`. -/
  | uncaught
  deriving DecidableEq

/-- The end of a session by an exception outside the inner `try`. -/
def Raised.ends : Raised → SessionEnd
  | connection => .interrupted
  | value => .interrupted
  | endOfFile => .interrupted
  | index => .uncaught
  | overflow => .uncaught

/-- The alerts that are printed before the menu. -/
def printAlerts : Cli Unit := do
  let c ← get
  set { c with takes := c.takes + 1 }
  (← Cli.result (takeAlerts c.takes)).forM fun alert =>
    match alert with
    | [_, nodeId, alertType, value] =>
        Cli.print (ascii "  !! ALERT received: " ++ nodeId ++ ascii " " ++ alertType ++ ascii " " ++
          value)
    | _ => throw .value

/-- The inner `try`: a lost connection ends the loop. -/
def attempt (action : Cli Unit) : Cli (Option SessionEnd) :=
  tryCatch (do action; return none) fun raised =>
    if raised = .connection then return some .lost else throw raised

/-- One round of the loop; the result says how the loop ends. -/
def round : Cli (Option SessionEnd) := do
  printAlerts takeAlerts
  Cli.print menu
  let choice := strip (← Cli.input)
  if choice = ascii "0" then return some .quit
  match actionOf request localTime repr choice with
  | none =>
      Cli.print (ascii "  invalid option")
      return none
  | some action => attempt action

/-- The loop of `main`; `rounds` bounds its rounds. -/
def interact : Nat → Console → SessionEnd × Console
  | 0, c => (.interrupted, c)
  | rounds + 1, c =>
      match (round request takeAlerts localTime repr).run.run c with
      | (.ok none, c) => interact rounds c
      | (.ok (some ended), c) => (ended, c)
      | (.error raised, c) => (raised.ends, c)

/-- `main` after the subscription. Every round reads a line, so there are no more rounds than
lines and one. -/
def session (c : Console) : SessionEnd × Console :=
  let (ended, c) := interact request takeAlerts localTime repr (c.inputs.length + 1) c
  let blank := if ended = .interrupted then [[]] else []
  (ended, { c with printed := c.printed ++ blank ++ [ascii "disconnected"] })

end Actions

end Telep
