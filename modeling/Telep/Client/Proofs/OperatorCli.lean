import Mathlib.Data.List.SplitBy
import Telep.Misc.Actions
import Telep.Client.OperatorCli
import Telep.Client.OperatorSession
import Telep.Client.Proofs.DecodedReplies
import Telep.Server.Proofs.Activity
import Telep.Server.Proofs.Binding

/-!
# What the console of an operator shows

Over a connection whose commands are answered in states that the server goes through, `request`
gives the whole replies as long as no node is called `ALERT` (`request_eq`), and then every screen
is the data of these states (`screens_show_state`).
-/

namespace Telep

/-! ## What an action prints -/

/-- The console after some texts were printed and some commands were sent. -/
def Console.after (c : Console) (lines : List Bytes) (asked : Nat) : Console :=
  { c with printed := c.printed ++ lines, requests := c.requests + asked }

/-- The action returns `a`, prints the lines and sends this number of commands. -/
def Cli.Shows {α : Type} (x : Cli α) (c : Console) (a : α) (lines : List Bytes) (asked : Nat) :
    Prop := x.run.run c = (.ok a, c.after lines asked)

namespace Cli

open Actions

variable {α β : Type} {x : Cli α} {f : α → Cli β} {c : Console} {a : α} {b : β}
  {lines lines' : List Bytes} {asked asked' : Nat}

theorem shows_pure : Shows (pure a) c a [] 0 := by
  show (Except.ok a, c) = _
  simp [Console.after]

theorem Shows.bind (first : x.Shows c a lines asked)
    (next : (f a).Shows (c.after lines asked) b lines' asked') :
    (x >>= f).Shows c b (lines ++ lines') (asked + asked') := by
  rw [Shows, run_bind, first]
  refine next.trans ?_
  simp [Console.after, Nat.add_assoc]

/-- A first step that neither prints nor sends. -/
theorem Shows.silent (first : x.Shows c a [] 0) (next : (f a).Shows c b lines asked) :
    (x >>= f).Shows c b lines asked := by
  have same : c.after [] 0 = c := by simp [Console.after]
  have both := first.bind (same.symm ▸ next)
  rwa [List.nil_append, Nat.zero_add] at both

/-- A first step that sends one command. -/
theorem Shows.asks (first : x.Shows c a [] 1) (next : (f a).Shows (c.after [] 1) b lines asked) :
    (x >>= f).Shows c b lines (asked + 1) := by
  rw [Nat.add_comm]
  exact first.bind next

theorem shows_print (text : Bytes) : (print text).Shows c () [text] 0 := rfl

/-- A first step that prints a line. -/
theorem Shows.prints {text : Bytes} {f : Unit → Cli β}
    (next : (f ()).Shows (c.after [text] 0) b lines asked) :
    (print text >>= f).Shows c b (text :: lines) asked := by
  have both := (shows_print text).bind next
  rwa [Nat.zero_add] at both

theorem shows_item {list : List α} {index : Nat} (known : list[index]? = some a) :
    (item list index).Shows c a [] 0 := by
  rw [item, known]
  exact shows_pure

/-- A loop that prints one line for each entry. -/
theorem shows_forM {γ : Type} {entries : List γ} {row : γ → α} {line : γ → Bytes}
    {g : α → Cli Unit}
    (each : ∀ e ∈ entries, ∀ c : Console, (g (row e)).Shows c () [line e] 0) (c : Console) :
    ((entries.map row).forM g).Shows c () (entries.map line) 0 := by
  induction entries generalizing c with
  | nil => exact shows_pure
  | cons e entries ih =>
    have rest := ih (fun e' member => each e' (List.mem_cons_of_mem _ member))
      (c.after [line e] 0)
    exact Shows.bind (f := fun _ => (entries.map row).forM g) (each e List.mem_cons_self c) rest

/-- A loop that sends one command for each entry. -/
theorem shows_forM_asking {γ : Type} {entries : List γ} {row : γ → α}
    {f : Nat → γ → List Bytes} {g : α → Cli Unit}
    (each : ∀ e ∈ entries, ∀ c : Console, (g (row e)).Shows c () (f c.requests e) 1)
    (c : Console) :
    ((entries.map row).forM g).Shows c ()
      ((entries.zipIdx c.requests).flatMap fun e => f e.2 e.1) entries.length := by
  induction entries generalizing c with
  | nil => exact shows_pure
  | cons e entries ih =>
    have rest := ih (fun e' member => each e' (List.mem_cons_of_mem _ member))
      (c.after (f c.requests e) 1)
    rw [List.length_cons, Nat.add_comm]
    exact Shows.bind (f := fun _ => (entries.map row).forM g) (each e List.mem_cons_self c) rest

end Cli

/-! ## Texts -/

/-- Without blanks, `int` trims nothing. -/
theorem trimmed_printable {text : Bytes} (printable : Printable text) :
    (text.dropWhile isIntBlank).rdropWhile isIntBlank = text := by
  have solid : ∀ c ∈ text, isIntBlank c = false := by
    intro c member
    obtain ⟨low, -⟩ := printable c member
    simp only [isIntBlank, decide_eq_false_iff_not]
    grind
  rw [List.dropWhile_eq_self_iff.mpr, List.rdropWhile_eq_self_iff.mpr]
  · intro some last
    rw [solid _ (List.getLast_mem some)] at last
    cases last
  · intro some first
    rw [solid _ (List.getElem_mem _)] at first
    cases first

theorem pyDigits_decimal (n : Nat) : pyDigits (decimal n) = some n := by
  have single : (decimal n).splitOn 95 = [decimal n] :=
    List.splitOn_eq_singleton fun member => absurd (decimal_digits n _ member).2 (by decide)
  have number := isNumber_decimal n
  rw [pyDigits, single, if_pos (by
    rw [List.forall_mem_singleton]
    exact ⟨number.nonempty, number.digits⟩), List.flatten_singleton, number.denotes]

/-- `int` reads what `%ld` prints. -/
theorem pyInt_formatInt (z : Int) : pyInt (formatInt z) = some z := by
  rw [pyInt, trimmed_printable (formatInt_printable z)]
  cases z with
  | negSucc n =>
    simp only [formatInt, pyDigits_decimal]
    rfl
  | ofNat n =>
    obtain ⟨digit, digits, first⟩ := List.exists_cons_of_ne_nil (decimal_ne_nil n)
    have low : IsDigit digit := decimal_digits n digit (first ▸ List.mem_cons_self)
    have number := pyDigits_decimal n
    rw [formatInt]
    split
    · next minus =>
      rw [first] at minus
      exact absurd low ((List.cons.inj minus).1 ▸ by decide)
    · next plus =>
      rw [first] at plus
      exact absurd low ((List.cons.inj plus).1 ▸ by decide)
    · rw [number]
      rfl

/-! ## The answers -/

/-- The states in which the server answers the commands of a connection, in order, and the commands
at which it is still up. -/
structure Answering (strtod : Bytes → StrtodResult) (startedAt bootId : Long) where
  fd : ClientFd
  state : Nat → ServerThreads
  readings : Nat → TimeReadings
  isUp : Nat → Bool
  reachable : (threadsMachine strtod startedAt bootId).Reachable (state 0)
  later : ∀ n, ∃ events, state (n + 1) =
    (threadsMachine strtod startedAt bootId).exec (state n) events

/-- A `GET_LAST` of an identifier can be sent. -/
theorem encodeMessage_last {id : Bytes} (valid : isValidNodeId id = true) :
    encodeMessage (ascii "GET_LAST") [id] =
      some (joinFields [ascii "GET_LAST", id] ++ [lineFeed]) := by
  refine encodeMessage_eq ?_ ?_
  · simp only [List.forall_mem_cons, List.not_mem_nil, false_implies, implies_true, and_true]
    exact ⟨by decide, nodeId_isField ⟨id, valid⟩⟩
  · have short := nodeId_length_lt valid
    have limit : maxNodeId = 16 := rfl
    have limit' : maxLine = 1024 := rfl
    have command : (ascii "GET_LAST").length = 8 := rfl
    simp only [joinFields_cons_cons, joinFields_singleton, List.length_append, List.length_cons]
    omega

theorem IsReplyTo.printable {command : Bytes} {lines : List Bytes}
    (kind : IsReplyTo command lines) : ∀ line ∈ lines, Printable line := by
  cases kind with
  | single line fits => exact List.forall_mem_singleton.mpr fits.printable
  | list header rows fits =>
    rw [← List.cons_append]
    refine List.forall_mem_append.mpr ⟨fun line member => (fits line member).printable, ?_⟩
    exact List.forall_mem_singleton.mpr (by decide)

theorem IsReplyTo.ne_nil {command : Bytes} {lines : List Bytes}
    (kind : IsReplyTo command lines) : lines ≠ [] := by
  cases kind <;> exact List.cons_ne_nil _ _

namespace Answering

variable {strtod : Bytes → StrtodResult} {startedAt bootId : Long}
  (A : Answering strtod startedAt bootId) {n : Nat}

/-- The lines that the server writes for a command. -/
def reply (n : Nat) (frame : Bytes) : List Bytes :=
  (serveLine (A.state n).toServerState A.fd (A.readings n).val (lineOf frame)).reply

/-- What the call of `request` with a number returns or raises: a new connection receives the whole
reply, or the connection is lost. -/
def request (n : Nat) (command : Bytes) (fields : List Bytes) : Except Raised (List (List Bytes)) :=
  match encodeMessage command fields with
  | none => .error .value
  | some bytes =>
      if A.isUp n then
        match (TelepConnection.fresh.request command
            [frames lineFeed (A.reply n bytes.dropLast)]).1 with
        | .ok list => .ok list
        | .error _ => .error .connection
      else .error .connection

/-- The registry in which a command is answered. -/
def snapshot (n : Nat) : RegistrySnapshot := (A.state n).registry.toRegistrySnapshot

/-- No command is answered while a node is registered whose rows read as alerts. -/
def Apart : Prop := ∀ n, ∀ node ∈ registeredNodes (A.snapshot n), node.nodeId ≠ ascii "ALERT"

theorem reachable_state (n : Nat) :
    (threadsMachine strtod startedAt bootId).Reachable (A.state n) := by
  induction n with
  | zero => exact A.reachable
  | succ n ih =>
    obtain ⟨events, later⟩ := A.later n
    exact later ▸ ih.exec events

theorem shown (n : Nat) : (A.state n).toServerState.Shown :=
  ServerThreads.shown_reachable (A.reachable_state n)

/-- A command gets the whole reply, unless this lists a node whose row reads as an alert. -/
theorem request_whole (up : A.isUp n = true) {command frame : Bytes} {fields : List Bytes}
    (encoded : encodeMessage command fields = some (frame ++ [lineFeed]))
    (other : ¬ ListsAlertNode (A.state n).toServerState frame) :
    A.request n command fields = .ok (shownLines (A.reply n frame)) := by
  have line := isCommandLine_of_encoded encoded
  have kind := isReplyTo_serveLine (A.shown n) A.fd (A.readings n) line
  have plain := not_alert_serveLine (A.shown n) A.fd (A.readings n) line other
  have shape := replyShape_serveLine (A.shown n) A.fd (A.readings n) (lineOf frame)
  have unread : TelepConnection.fresh.Unread [frames lineFeed (A.reply n frame)] []
      (A.reply n frame) := by
    refine ⟨by simp [TelepConnection.fresh], shape.fits, ?_⟩
    rw [List.mem_singleton]
    intro empty
    have some : (A.reply n frame).length ≤ (frames lineFeed (A.reply n frame)).length :=
      length_le_frames
    rw [← empty] at some
    exact kind.ne_nil (List.length_eq_zero_iff.mp (Nat.le_zero.mp some))
  rw [request, encoded]
  simp only [if_pos up]
  rw [List.dropLast_concat, TelepConnection.request_whole unread kind plain]

section Requests

variable (apart : A.Apart) (up : A.isUp n = true)

include apart up

/-- A command that can be sent gets the whole reply. -/
theorem request_eq {command bytes : Bytes} {fields : List Bytes}
    (encoded : encodeMessage command fields = some bytes) :
    A.request n command fields = .ok (shownLines (A.reply n bytes.dropLast)) := by
  obtain ⟨frame, rfl, -⟩ := encodeMessage_line encoded
  rw [List.dropLast_concat]
  refine A.request_whole up encoded ?_
  rintro ⟨⟨node, member, named⟩, -⟩
  exact apart n node member named

theorem request_nodes : A.request n (ascii "GET_NODES") [] =
    .ok ([ascii "OK", decimal (registeredNodes (A.snapshot n)).length] ::
      (registeredNodes (A.snapshot n)).map
        fun node => shownNode node ((A.readings n).val.clock 0)) := by
  have encoded : encodeMessage (ascii "GET_NODES") [] = some (ascii "GET_NODES\n") := by decide
  rw [A.request_eq apart up encoded]
  exact congrArg Except.ok (shown_nodeList (A.shown n))

theorem request_alerts : A.request n (ascii "GET_ALERTS") [] =
    .ok ([ascii "OK", decimal (shownAlerts (A.snapshot n)).length] ::
      (shownAlerts (A.snapshot n)).map listedAlert) := by
  have encoded : encodeMessage (ascii "GET_ALERTS") [] = some (ascii "GET_ALERTS\n") := by decide
  rw [A.request_eq apart up encoded]
  refine congrArg Except.ok (shown_alertList (A.shown n) fun alert member => ?_)
  rw [ServerThreads.shownAlerts_reachable (A.reachable_state n)] at member
  exact (ServerThreads.ringHolds_reachable (A.reachable_state n)).2 alert
    (List.mem_of_mem_drop member)

theorem request_status : A.request n (ascii "GET_STATUS") [] =
    .ok [[ascii "OK", counterText (systemStats (A.snapshot n) (A.readings n).val)]] := by
  have encoded : encodeMessage (ascii "GET_STATUS") [] = some (ascii "GET_STATUS\n") := by decide
  rw [A.request_eq apart up encoded]
  exact congrArg Except.ok (shown_status (A.shown n))

theorem request_last {id bytes : Bytes}
    (encoded : encodeMessage (ascii "GET_LAST") [id] = some bytes) :
    A.request n (ascii "GET_LAST") [id] = .ok [lastReply (A.snapshot n) id] := by
  rw [A.request_eq apart up encoded]
  obtain ⟨frame, rfl, line⟩ := encodeMessage_line encoded
  rw [List.dropLast_concat]
  exact congrArg Except.ok (shownLines_last (A.shown n) line)

end Requests

end Answering

/-! ## The screens -/

section Screens

variable (timeText : Int → Bytes)

/-- `show_nodes` -/
def nodesScreen (r : RegistrySnapshot) (now : Int) : List Bytes :=
  (ascii "  " ++ decimal (registeredNodes r).length ++ ascii " registered nodes") ::
    (registeredNodes r).map fun node =>
      ascii "  " ++ ljust 12 node.nodeId ++ ascii " " ++
        ljust 9 (if nodeIsActive node now then ascii "ACTIVE" else ascii "INACTIVE") ++
        ascii " last data " ++
        formatInt (if node.lastSeen ≠ 0 then now - node.lastSeen else -1) ++ ascii " s ago"

/-- What a node measured last. -/
def measuredLine (node : TelemetryNode) : Bytes :=
  if node.lastSeen = 0 then ascii "  " ++ ljust 12 node.nodeId ++ ascii " no measurements yet"
  else ascii "  " ++ ljust 12 node.nodeId ++ ascii " " ++ timeText node.lastSeen ++ ascii "  " ++
    List.intercalate (ascii " ") (node.measurements.map fun m => m.name ++ ascii "=" ++ m.printed)

/-- `show_last_measurement` -/
def lastScreen (r : RegistrySnapshot) (id : Bytes) : List Bytes :=
  if isValidNodeId id then
    match snapshotFindNode r id with
    | none => [ascii "  ! error 102: UNKNOWN_NODE"]
    | some node => [measuredLine timeText node]
  else [ascii "  ! error 100: BAD_FORMAT"]

/-- `show_alerts` -/
def alertsScreen (r : RegistrySnapshot) : List Bytes :=
  (ascii "  " ++ decimal (shownAlerts r).length ++ ascii " alerts") ::
    (shownAlerts r).map fun alert =>
      ascii "  " ++ timeText alert.timestamp ++ ascii "  " ++ ljust 12 alert.nodeId ++ ascii " " ++
        ljust 12 alert.alertType ++ ascii " " ++ formatFixed2 alert.value

/-- `show_status` -/
def statusScreen (entries : List (Bytes × Bytes)) : List Bytes :=
  entries.map fun e => ascii "  " ++ ljust 12 e.1 ++ ascii " " ++ e.2

end Screens

section Shown

open Cli Actions

variable {request : Nat → Bytes → List Bytes → Except Raised (List (List Bytes))}
  {localTime : Int → Except Raised Bytes} {timeText : Int → Bytes} {c : Console}

theorem run_ask (command : Bytes) (fields : List Bytes) :
    (ask request command fields).run.run c =
      (request c.requests command fields, { c with requests := c.requests + 1 }) := by
  show (result (request c.requests command fields)).run.run
    { c with requests := c.requests + 1 } = _
  cases request c.requests command fields <;> rfl

theorem shows_ask {command : Bytes} {fields : List Bytes} {reply : List (List Bytes)}
    (answered : request c.requests command fields = .ok reply) :
    (ask request command fields).Shows c reply [] 1 := by
  rw [Shows, run_ask, answered, Console.after, List.append_nil]

/-- The user types a line. -/
theorem run_input {line : Bytes} {inputs : List Bytes} (typed : c.inputs = line :: inputs) :
    input.run.run c = (.ok line, { c with inputs := inputs }) := by
  show (nextLine c.inputs).run.run c = _
  rw [typed]
  rfl

theorem shows_time {z : Int} (known : localTime z = .ok (timeText z)) :
    (formatTimestamp localTime (formatInt z)).Shows c (timeText z) [] 0 := by
  rw [formatTimestamp, pyInt_formatInt]
  dsimp only
  rw [known]
  exact shows_pure

theorem shows_measurements {field : Bytes} {entries : List (Bytes × Bytes)}
    (decoded : decodeMeasurements field = some entries) :
    (measurementsOf field).Shows c entries [] 0 := by
  rw [measurementsOf, decoded]
  exact shows_pure

theorem shows_error (code text : Bytes) :
    (printReplyError [ascii "ERR", code, text]).Shows c ()
      [ascii "  ! error " ++ code ++ ascii ": " ++ text] 0 := by
  unfold printReplyError
  refine Shows.silent (shows_item rfl) ?_
  refine Shows.silent (shows_item rfl) ?_
  exact shows_print _

theorem shows_nodes {r : RegistrySnapshot} {now : Int}
    (answered : request c.requests (ascii "GET_NODES") [] =
      .ok ([ascii "OK", decimal (registeredNodes r).length] ::
        (registeredNodes r).map fun node => shownNode node now)) :
    (showNodes request).Shows c () (nodesScreen r now) 1 := by
  unfold showNodes
  refine Shows.asks (shows_ask answered) ?_
  refine Shows.silent (shows_item rfl) ?_
  refine Shows.silent (shows_item rfl) ?_
  rw [if_neg (not_not.mpr rfl)]
  refine Shows.silent (shows_item rfl) ?_
  refine Shows.prints ?_
  refine shows_forM (fun node _ c => ?_) _
  exact shows_print _

theorem shows_alerts {r : RegistrySnapshot}
    (answered : request c.requests (ascii "GET_ALERTS") [] =
      .ok ([ascii "OK", decimal (shownAlerts r).length] :: (shownAlerts r).map listedAlert))
    (timed : ∀ alert ∈ shownAlerts r, localTime alert.timestamp = .ok (timeText alert.timestamp)) :
    (showAlerts request localTime).Shows c () (alertsScreen timeText r) 1 := by
  unfold showAlerts
  refine Shows.asks (shows_ask answered) ?_
  refine Shows.silent (shows_item rfl) ?_
  refine Shows.silent (shows_item rfl) ?_
  rw [if_neg (not_not.mpr rfl)]
  refine Shows.silent (shows_item rfl) ?_
  refine Shows.prints ?_
  refine shows_forM (fun alert member c => ?_) _
  exact Shows.silent (shows_time (timed alert member)) (shows_print _)

theorem shows_status {entries : List (Bytes × Bytes)} {field : Bytes}
    (answered : request c.requests (ascii "GET_STATUS") [] = .ok [[ascii "OK", field]])
    (decoded : decodeMeasurements field = some entries) :
    (showStatus request).Shows c () (statusScreen entries) 1 := by
  unfold showStatus
  refine Shows.asks (shows_ask answered) ?_
  refine Shows.silent (shows_item rfl) ?_
  refine Shows.silent (shows_item rfl) ?_
  rw [if_neg (not_not.mpr rfl)]
  refine Shows.silent (shows_item rfl) ?_
  refine Shows.silent (shows_measurements decoded) ?_
  have loop : ((entries.map id).forM fun e => Cli.print (ascii "  " ++ ljust 12 e.1 ++ ascii " " ++
      e.2)).Shows (c.after [] 1) () (statusScreen entries) 0 := by
    refine shows_forM (fun e _ c => ?_) _
    exact shows_print _
  rwa [List.map_id] at loop

/-- A node that was found: what it measured, if it stored a valid set. -/
theorem shows_last {r : RegistrySnapshot} {id : Bytes}
    (answered : request c.requests (ascii "GET_LAST") [id] = .ok [lastReply r id])
    (stored : ∀ node, snapshotFindNode r id = some node → node.lastSeen ≠ 0 →
      ValidMeasurements node.measurements ∧ localTime node.lastSeen = .ok (timeText node.lastSeen)) :
    (showLastMeasurement request localTime id).Shows c () (lastScreen timeText r id) 1 := by
  unfold showLastMeasurement
  refine Shows.asks (shows_ask answered) ?_
  refine Shows.silent (shows_item rfl) ?_
  unfold lastReply lastScreen
  split
  · cases found : snapshotFindNode r id with
    | none =>
      refine Shows.silent (shows_item rfl) ?_
      rw [if_pos (by decide)]
      exact shows_error _ _
    | some node =>
      dsimp only
      unfold lastShown measuredLine
      by_cases never : node.lastSeen = 0
      · rw [if_pos never, if_pos never]
        refine Shows.silent (shows_item rfl) ?_
        rw [if_neg (not_not.mpr rfl)]
        dsimp only
        rw [if_pos rfl]
        exact shows_print _
      · obtain ⟨valid, timed⟩ := stored node found never
        have decoded := valid.decode_format
        have data : formatMeasurements node maxLine ≠ ascii "NO_DATA" := by
          intro same
          have nothing : decodeMeasurements (ascii "NO_DATA") = some [] := by decide
          rw [same, nothing] at decoded
          have three := valid.three_le
          rw [List.map_eq_nil_iff.mp (Option.some.inj decoded).symm] at three
          cases three
        rw [if_neg never, if_neg never]
        refine Shows.silent (shows_item rfl) ?_
        rw [if_neg (not_not.mpr rfl)]
        dsimp only
        rw [if_neg data]
        refine Shows.silent (shows_measurements decoded) ?_
        refine Shows.silent (shows_time timed) ?_
        rw [List.map_map]
        exact shows_print _
  · refine Shows.silent (shows_item rfl) ?_
    rw [if_pos (by decide)]
    exact shows_error _ _

theorem shows_all {nodes : List TelemetryNode} {now : Int} {r : Nat → RegistrySnapshot}
    (answered : request c.requests (ascii "GET_NODES") [] =
      .ok ([ascii "OK", decimal nodes.length] :: nodes.map fun node => shownNode node now))
    (each : ∀ node ∈ nodes, ∀ c : Console, (showLastMeasurement request localTime
      node.nodeId).Shows c () (lastScreen timeText (r c.requests) node.nodeId) 1) :
    (showAllMeasurements request localTime).Shows c ()
      ((nodes.zipIdx (c.requests + 1)).flatMap fun e => lastScreen timeText (r e.2) e.1.nodeId)
      (nodes.length + 1) := by
  unfold showAllMeasurements
  refine Shows.asks (shows_ask answered) ?_
  refine Shows.silent (shows_item rfl) ?_
  refine Shows.silent (shows_item rfl) ?_
  rw [if_neg (not_not.mpr rfl)]
  refine shows_forM_asking
    (f := fun n (node : TelemetryNode) => lastScreen timeText (r n) node.nodeId)
    (fun node member c => ?_) _
  exact each node member c

/-- A reply is printed as it was sent. -/
theorem shows_raw {raw command : Bytes} {fields inputs : List Bytes} {lines : List Bytes}
    (typed : c.inputs = raw :: inputs) (some : strip raw ≠ [])
    (split : (strip raw).splitOn fieldSeparator = command :: fields)
    (answered : request c.requests command fields = .ok (lines.map decodeMessage))
    (printable : ∀ line ∈ lines, Printable line) :
    (sendRawCommand request).run.run c = (.ok (),
      { c.after (lines.map fun line => ascii "  < " ++ line) 1 with inputs := inputs }) := by
  unfold sendRawCommand
  rw [run_bind, run_input typed]
  dsimp only
  rw [if_neg some, split]
  have loop : (do
      (← ask request command fields).forM fun line =>
        Cli.print (ascii "  < " ++ joinFields line)).Shows { c with inputs := inputs } ()
      (lines.map fun line => ascii "  < " ++ line) 1 := by
    refine Shows.asks (shows_ask answered) ?_
    refine shows_forM (fun line member c => ?_) _
    have whole : joinFields (decodeMessage line) = line := by
      rw [decodeMessage_printable (printable line member), joinFields, List.intercalate_splitOn]
    rw [whole]
    exact shows_print _
  exact loop

end Shown

/-! ## What `take_alerts` gives -/

section Pushes

variable {strtod : Bytes → StrtodResult} {startedAt bootId : Long}

/-- What `take_alerts` makes of the lines of alerts that the server raised. -/
def takenAlerts (alerts : List (RaisedAlert strtod startedAt bootId)) : List (List Bytes) :=
  alerts.map fun alert => decodeMessage (formatAlert alert.val)

/-- What the calls of `take_alerts` return or raise, where `none` stands for a lost connection. -/
def takesOf (pushed : Nat → Option (List (RaisedAlert strtod startedAt bootId))) (n : Nat) :
    Except Raised (List (List Bytes)) :=
  match pushed n with
  | none => .error .connection
  | some alerts => .ok (takenAlerts alerts)

/-- The lines read as the alerts. -/
theorem takenAlerts_eq (alerts : List (RaisedAlert strtod startedAt bootId)) :
    takenAlerts alerts = (alerts.map Subtype.val).map pushedAlert := by
  rw [takenAlerts, List.map_map]
  refine List.map_congr_left fun alert _ => ?_
  obtain ⟨alert, state, reachable, raised⟩ := alert
  exact decode_formatAlert (ServerThreads.raised_shown reachable alert raised)
    ((ServerThreads.ringHolds_reachable reachable).2 alert raised)

end Pushes

/-! ## The screens of a session -/

namespace ServerThreads

variable {strtod : Bytes → StrtodResult} {startedAt bootId : Long} {s : ServerThreads}

/-- A node stays registered, with its session. -/
theorem boundAt_exec (reachable : (threadsMachine strtod startedAt bootId).Reachable s)
    {i : Fin maxNodes} {id session : Bytes} (bound : BoundAt s.registry i id session)
    (events : List ThreadEvent) :
    BoundAt ((threadsMachine strtod startedAt bootId).exec s events).registry i id session := by
  have kept := Machine.exec_preserves (M := threadsMachine strtod startedAt bootId)
    (P := fun s => (threadsMachine strtod startedAt bootId).Reachable s ∧
      BoundAt s.registry i id session) (fun s event ⟨reachable, bound⟩ =>
        ⟨reachable.exec [event], preserves_next (P := fun s' => BoundAt s'.registry i id session)
          bound fun s' step => ?_⟩) ⟨reachable, bound⟩ events
  · exact kept.2
  · cases registryEffect_step step with
    | same registry raised => exact registry ▸ bound
    | call op registry raised timed =>
      exact registry ▸ boundAt_step (wellFormed_registry reachable) op bound

end ServerThreads

namespace Answering

variable {strtod : Bytes → StrtodResult} {startedAt bootId : Long}
  (A : Answering strtod startedAt bootId) {localTime : Int → Except Raised Bytes}
  {timeText : Int → Bytes} {n : Nat}

/-- `time.localtime` succeeds on the times that are shown. -/
structure Timed (localTime : Int → Except Raised Bytes) (timeText : Int → Bytes) : Prop where
  alerts : ∀ n, ∀ alert ∈ shownAlerts (A.snapshot n),
    localTime alert.timestamp = .ok (timeText alert.timestamp)
  nodes : ∀ n, ∀ node ∈ registeredNodes (A.snapshot n), node.lastSeen ≠ 0 →
    localTime node.lastSeen = .ok (timeText node.lastSeen)

/-- A node that is listed is found in every later answer. -/
theorem found_later {node : TelemetryNode} (member : node ∈ registeredNodes (A.snapshot n))
    {m : Nat} (later : n ≤ m) :
    ∃ node', snapshotFindNode (A.snapshot m) node.nodeId = some node' ∧
      node'.nodeId = node.nodeId ∧ node'.session = node.session := by
  obtain ⟨i, used, rfl⟩ := mem_registeredNodes.mp member
  have bound : BoundAt (A.state m).registry i ((A.snapshot n).nodes i).nodeId
      ((A.snapshot n).nodes i).session := by
    induction m, later using Nat.le_induction with
    | base => exact ⟨used, rfl, rfl⟩
    | succ m later ih =>
      obtain ⟨events, next⟩ := A.later m
      rw [next]
      exact ServerThreads.boundAt_exec (A.reachable_state m) ih events
  have wf := ServerThreads.wellFormed_registry (A.reachable_state m)
  refine ⟨(A.snapshot m).nodes i, ?_, bound.nodeId, bound.session⟩
  exact Option.map_eq_some_iff.mpr ⟨i, bound.found wf, rfl⟩

/-- A node that is found is registered. -/
theorem mem_of_found {r : RegistrySnapshot} {id : Bytes} {node : TelemetryNode}
    (found : snapshotFindNode r id = some node) : node ∈ registeredNodes r := by
  obtain ⟨i, -, used, -, rfl⟩ := snapshotFindNode_eq_some found
  exact mem_registeredNodes.mpr ⟨i, used, rfl⟩

theorem stored_found {id : Bytes} {node : TelemetryNode}
    (found : snapshotFindNode (A.snapshot n) id = some node) (seen : node.lastSeen ≠ 0) :
    ValidMeasurements node.measurements :=
  ServerThreads.measured_reachable (A.reachable_state n) (mem_of_found found) seen

theorem shows_last (apart : A.Apart) (up : A.isUp n = true) (timed : A.Timed localTime timeText)
    {c : Console} (number : c.requests = n) {id bytes : Bytes}
    (encoded : encodeMessage (ascii "GET_LAST") [id] = some bytes) :
    (showLastMeasurement A.request localTime id).Shows c ()
      (lastScreen timeText (A.snapshot n) id) 1 := by
  refine Telep.shows_last (number ▸ A.request_last apart up encoded) fun node found seen => ?_
  exact ⟨A.stored_found found seen, timed.nodes n node (mem_of_found found) seen⟩

/-- The lines of a reply before its end. -/
def replyLines (n : Nat) (frame : Bytes) : List Bytes :=
  (A.reply n frame).takeWhile (· ≠ endOfList)

theorem request_encoded (apart : A.Apart) (up : A.isUp n = true) {command bytes : Bytes}
    {fields : List Bytes} (encoded : encodeMessage command fields = some bytes) :
    A.request n command fields =
        .ok ((A.replyLines n (joinFields (command :: fields))).map decodeMessage) ∧
      ∀ line ∈ A.replyLines n (joinFields (command :: fields)), Printable line := by
  have answered := A.request_eq apart up encoded
  obtain ⟨frame, rfl, line⟩ := encodeMessage_line encoded
  rw [List.dropLast_concat] at answered
  rw [← line.joined]
  have kind := isReplyTo_serveLine (A.shown n) A.fd (A.readings n) line
  exact ⟨answered, fun text member => kind.printable text (List.takeWhile_subset _ member)⟩

/-- Over a connection that stays up, while no node is called `ALERT` and `time.localtime` converts
the times that are shown, every screen of the console is the data of the state in which the server
answers: the registered nodes with their activity and age, the alerts that are kept, the counters,
what any node measured last or the error for the text that was typed, the same for all nodes, each
in the state of its own answer and none of them unknown, and for a raw command the lines that were
sent. -/
theorem screens_show_state (apart : A.Apart) (up : ∀ n, A.isUp n = true)
    (timed : A.Timed localTime timeText) (c : Console) :
    let n := c.requests
    let nodes := registeredNodes (A.snapshot n)
    (showNodes A.request).Shows c ()
        (nodesScreen (A.snapshot n) ((A.readings n).val.clock 0)) 1 ∧
      (showAlerts A.request localTime).Shows c () (alertsScreen timeText (A.snapshot n)) 1 ∧
      (showStatus A.request).Shows c () (statusScreen (systemStats (A.snapshot n)
        (A.readings n).val)) 1 ∧
      (∀ id bytes, encodeMessage (ascii "GET_LAST") [id] = some bytes →
        (showLastMeasurement A.request localTime id).Shows c ()
          (lastScreen timeText (A.snapshot n) id) 1) ∧
      (showAllMeasurements A.request localTime).Shows c ()
        ((nodes.zipIdx (n + 1)).flatMap fun e => lastScreen timeText (A.snapshot e.2) e.1.nodeId)
        (nodes.length + 1) ∧
      (∀ node ∈ nodes, ∀ m ≥ n, ∃ node', lastScreen timeText (A.snapshot m) node.nodeId =
        [measuredLine timeText node'] ∧ node'.nodeId = node.nodeId ∧
          node'.session = node.session) ∧
      ∀ raw inputs command fields bytes, c.inputs = raw :: inputs →
        (strip raw).splitOn fieldSeparator = command :: fields →
        encodeMessage command fields = some bytes → (sendRawCommand A.request).run.run c = (.ok (),
          { c.after ((A.replyLines n (strip raw)).map fun line => ascii "  < " ++ line) 1 with
            inputs := inputs }) := by
  intro n nodes
  have valid : ∀ node ∈ nodes, isValidNodeId node.nodeId = true := by
    intro node member
    obtain ⟨i, used, rfl⟩ := mem_registeredNodes.mp member
    exact (A.shown n).wellFormed.nodeId_valid i used
  refine ⟨shows_nodes (A.request_nodes apart (up n)),
    shows_alerts (A.request_alerts apart (up n)) (timed.alerts n),
    shows_status (A.request_status apart (up n)) (decode_systemStats _ _),
    fun id bytes encoded => A.shows_last apart (up n) timed rfl encoded,
    shows_all (A.request_nodes apart (up n)) fun node member c => ?_, fun node member m later => ?_,
    fun raw inputs command fields bytes typed split encoded => ?_⟩
  · exact A.shows_last apart (up _) timed rfl (encodeMessage_last (valid node member))
  · obtain ⟨node', found, sameId, sameSession⟩ := A.found_later member later
    refine ⟨node', ?_, sameId, sameSession⟩
    rw [lastScreen, if_pos (valid node member), found]
  · have joined : strip raw = joinFields (command :: fields) := by
      rw [← split, joinFields, List.intercalate_splitOn]
    have some : strip raw ≠ [] := by
      intro empty
      rw [empty] at split
      obtain ⟨rfl, rfl⟩ := List.cons.inj split
      cases encoded
    obtain ⟨answered, printable⟩ := A.request_encoded apart (up n) encoded
    rw [← joined] at answered printable
    exact shows_raw typed some split answered printable

/-- The answers in one state. -/
def constant (fd : ClientFd) (s : ServerThreads) (readings : TimeReadings)
    (reachable : (threadsMachine strtod startedAt bootId).Reachable s) :
    Answering strtod startedAt bootId where
  fd := fd
  state _ := s
  readings _ := readings
  isUp _ := true
  reachable := reachable
  later _ := ⟨[], rfl⟩

theorem isLong_seven : IsLong 7 := by decide

theorem isLong_one : IsLong 1 := by decide

open ServerThreads in
/-- The answers after one alert. -/
def alarmed : Answering strtodDigits ⟨7, isLong_seven⟩ ⟨1, isLong_one⟩ :=
  constant alarmedThread.fd _ alarmedReadings ⟨beforeSubscribe, rfl⟩

open ServerThreads in
theorem alarmed_raised : ⟨9, ascii "N", ascii "STATUS_FAIL", 0⟩ ∈
    ((threadsMachine strtodDigits ⟨7, isLong_seven⟩ ⟨1, isLong_one⟩).exec
      (threadsMachine strtodDigits ⟨7, isLong_seven⟩ ⟨1, isLong_one⟩).init
        beforeSubscribe).raised := by
  decide +kernel

open ServerThreads in
/-- The alert. -/
def alarmedAlert : RaisedAlert strtodDigits ⟨7, isLong_seven⟩ ⟨1, isLong_one⟩ :=
  ⟨_, _, ⟨beforeSubscribe, rfl⟩, alarmed_raised⟩

theorem alarmed_apart : alarmed.Apart := by
  intro n
  show ∀ node ∈ registeredNodes (alarmed.snapshot 0), node.nodeId ≠ ascii "ALERT"
  decide +kernel

theorem screens_show_state_sample :
    (showAlerts alarmed.request fun _ => .ok (ascii "00:00:09")).Shows ⟨[], [], 0, 0⟩ ()
      [ascii "  1 alerts", ascii "  00:00:09  N            STATUS_FAIL  0.00"] 1 := by
  have timed : alarmed.Timed (fun _ => .ok (ascii "00:00:09")) fun _ => ascii "00:00:09" :=
    ⟨fun _ _ _ => rfl, fun _ _ _ _ => rfl⟩
  have lines : alertsScreen (fun _ => ascii "00:00:09") (alarmed.snapshot 0) =
      [ascii "  1 alerts", ascii "  00:00:09  N            STATUS_FAIL  0.00"] := by
    decide +kernel
  have screen := (screens_show_state alarmed alarmed_apart (fun _ => rfl) timed ⟨[], [], 0, 0⟩).2.1
  exact lines ▸ screen

end Answering

end Telep
