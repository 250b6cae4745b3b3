import Telep.Server.Proofs.Server

/-!
# What a line of a client does

`Handled` lists the answers of `handle_command`, each with the message that the line contains.
-/

namespace Telep

/-- The answers to a line. -/
inductive Handled (s : ServerState) (fd : ClientFd) (readings : Readings) (line : Bytes) :
    CommandResult → Prop
  | refused (code : ErrorCode) : Handled s fd readings line (s.answers (replyError code))
  | bye (message : parseMessage line = some ⟨ascii "BYE", []⟩) :
      Handled s fd readings line ⟨sendTextLine (ascii "OK|BYE"), true, s⟩
  | status (message : parseMessage line = some ⟨ascii "GET_STATUS", []⟩) :
      Handled s fd readings line (s.answers (replyStatus s.registry readings))
  | nodes (message : parseMessage line = some ⟨ascii "GET_NODES", []⟩) :
      Handled s fd readings line (s.answers (replyNodeList s.registry readings))
  | alerts (message : parseMessage line = some ⟨ascii "GET_ALERTS", []⟩) :
      Handled s fd readings line (s.answers (replyAlertList s.registry))
  | stats (message : parseMessage line = some ⟨ascii "STATS", []⟩) :
      Handled s fd readings line (s.answers (replyStats s.registry none))
  | statsOf (id : NodeId) (message : parseMessage line = some ⟨ascii "STATS", [id.val]⟩) :
      Handled s fd readings line (s.answers (replyStats s.registry (some id.val)))
  | last (id : NodeId) (message : parseMessage line = some ⟨ascii "GET_LAST", [id.val]⟩) :
      Handled s fd readings line (s.answers (replyLastMeasurement s.registry id.val))
  | subscribe (message : parseMessage line = some ⟨ascii "SUBSCRIBE", []⟩) :
      Handled s fd readings line
        ⟨if (subscribersAdd s.subscribers fd.val).1 < 0 then replyError .serverFull
          else sendTextLine (ascii "OK|SUBSCRIBED"), false,
          { s with subscribers := (subscribersAdd s.subscribers fd.val).2 }⟩
  | hello (id : NodeId) (session : Session)
      (message : parseMessage line = some ⟨ascii "HELLO", [id.val, session.val]⟩) :
      Handled s fd readings line
        (s.calls (registryRegisterNode s.registry id.val session.val) (ascii "OK|REGISTERED"))
  | report (id : NodeId) (session : Session) (c : ReportCounters) (final : Bool)
      (values : List Bytes)
      (message : parseMessage line = some ⟨ascii "REPORT", id.val :: session.val :: values⟩) :
      Handled s fd readings line
        (s.calls (registryReport s.registry id.val session.val c.attempts c.sent c.omitted
          c.errors final) (ascii "OK|REPORTED"))

section Lines

variable {s : ServerState} {fd : ClientFd} {readings : Readings} {line : Bytes}

theorem Handled.ite {p : Prop} [Decidable p] {a b : CommandResult}
    (pos : p → Handled s fd readings line a) (neg : ¬ p → Handled s fd readings line b) :
    Handled s fd readings line (if p then a else b) := by
  split
  · next h => exact pos h
  · next h => exact neg h

theorem handled_report {nodeId session : Bytes} {values : List Bytes}
    (message : parseMessage line = some ⟨ascii "REPORT", nodeId :: session :: values⟩) :
    Handled s fd readings line (handleReport s nodeId session values) := by
  unfold handleReport
  split
  · refine .ite (fun ids => ?_) fun _ => .refused _
    split
    · next hA hB hC hD hE =>
      exact .report ⟨nodeId, ids.1⟩ ⟨session, ids.2⟩
        ⟨_, _, _, _, parseUint_le hA, parseUint_le hB, parseUint_le hC, parseUint_le hD⟩ _ _ message
    · exact .refused _
  · exact .refused _

theorem handled_node {command : Bytes} {args : List Bytes}
    (message : parseMessage line = some ⟨command, args⟩)
    (few : expectedArgs command args.length = some args.length) :
    Handled s fd readings line (handleNodeCommand s command args) := by
  unfold handleNodeCommand
  cases args with
  | nil => exact .refused _
  | cons firstArg rest =>
    refine .ite (fun _ => .refused _) fun id => ?_
    rw [not_not] at id
    refine .ite (fun hello => ?_) fun _ => .ite (fun last => ?_) fun _ => .refused _
    · subst hello
      have two : 2 = (firstArg :: rest).length := Option.some.inj few
      match rest, two with
      | [session], _ =>
        exact .ite (fun _ => .refused _) fun valid =>
          .hello ⟨firstArg, id⟩ ⟨session, not_not.mp valid⟩ message
    · subst last
      have one : 1 = (firstArg :: rest).length := Option.some.inj few
      match rest, one with
      | [], _ => exact .last ⟨firstArg, id⟩ message

/-- Every line gets one of the answers. -/
theorem handleCommand_handled (s : ServerState) (fd : ClientFd) (readings : Readings)
    (line : Bytes) : Handled s fd readings line (handleCommand s fd readings line) := by
  unfold handleCommand
  cases message : parseMessage line with
  | none => exact .refused _
  | some parsed =>
    obtain ⟨command, args⟩ := parsed
    dsimp only
    cases expected : expectedArgs command args.length with
    | none => exact .refused _
    | some n =>
      dsimp only
      refine .ite (fun _ => .refused _) fun few => ?_
      rw [ne_eq, not_not] at few
      rw [← few] at expected
      have bare {name : Bytes} (same : command = name)
          (zero : expectedArgs name args.length = some 0) :
          parseMessage line = some ⟨name, []⟩ := by
        subst same
        have none : 0 = args.length := Option.some.inj (zero.symm.trans expected)
        rw [message, List.eq_nil_of_length_eq_zero none.symm]
      refine .ite (fun stats => ?_) fun _ => .ite (fun report => ?_) fun _ =>
        .ite (fun same => .bye (bare same rfl)) fun _ =>
        .ite (fun same => .status (bare same rfl)) fun _ =>
        .ite (fun same => .nodes (bare same rfl)) fun _ =>
        .ite (fun same => .alerts (bare same rfl)) fun _ =>
        .ite (fun same => .subscribe (bare same rfl)) fun _ => handled_node message expected
      · subst stats
        match args, message, expected with
        | [], message, _ => exact .stats message
        | [id], message, _ =>
          exact .ite (fun valid => .statsOf ⟨id, valid⟩ message) fun _ => .refused _
        | _ :: _ :: _, _, expected => cases expected
      · subst report
        match args, message with
        | nodeId :: session :: values, message => exact handled_report message
        | [], _ => exact .refused _
        | [_], _ => exact .refused _

/-- A line leaves the subscriptions alone or adds its connection. -/
theorem Handled.subscribers {result : CommandResult} (handled : Handled s fd readings line result) :
    result.state.subscribers = s.subscribers ∨
      result.state.subscribers = (subscribersAdd s.subscribers fd.val).2 := by
  cases handled with
  | subscribe message => exact .inr rfl
  | _ => exact .inl rfl

/-- A line leaves the registry alone or makes one call of a client. -/
theorem Handled.registry {result : CommandResult} (handled : Handled s fd readings line result) :
    result.state.registry = s.registry ∨
      (∃ id session, result.state.registry = (registryStep s.registry (.hello id session)).2) ∨
      ∃ id session c final,
        result.state.registry = (registryStep s.registry (.report id session c final)).2 := by
  cases handled with
  | hello id session message => exact .inr (.inl ⟨id, session, rfl⟩)
  | report id session c final values message => exact .inr (.inr ⟨id, session, c, final, rfl⟩)
  | _ => exact .inl rfl

/-- Only `BYE` closes the connection. -/
theorem Handled.bye_of_closes {result : CommandResult}
    (handled : Handled s fd readings line result) (closes : result.closes = true) :
    parseMessage line = some ⟨ascii "BYE", []⟩ ∧ result.reply = [ascii "OK|BYE"] := by
  cases handled with
  | bye message => exact ⟨message, rfl⟩
  | _ => cases closes

theorem handleCommand_bye (message : parseMessage line = some ⟨ascii "BYE", []⟩) :
    handleCommand s fd readings line = ⟨sendTextLine (ascii "OK|BYE"), true, s⟩ := by
  unfold handleCommand
  rw [message]
  rfl

theorem handleCommand_subscribe (message : parseMessage line = some ⟨ascii "SUBSCRIBE", []⟩) :
    handleCommand s fd readings line =
      ⟨if (subscribersAdd s.subscribers fd.val).1 < 0 then replyError .serverFull
        else sendTextLine (ascii "OK|SUBSCRIBED"), false,
        { s with subscribers := (subscribersAdd s.subscribers fd.val).2 }⟩ := by
  unfold handleCommand
  rw [message]
  rfl

theorem handleCommand_alerts (message : parseMessage line = some ⟨ascii "GET_ALERTS", []⟩) :
    handleCommand s fd readings line = s.answers (replyAlertList s.registry) := by
  unfold handleCommand
  rw [message]
  rfl

end Lines

end Telep
