import Telep.Server.Proofs.Records
import Telep.Server.UdpTelemetryServer

/-!
# The servers call the registry

Each datagram is one call, with arguments as `RegistryOp` bounds them, and each command is at
most one. So the registry of a reachable server is a reachable registry
(`registry_reachable`), and what holds in every run of the registry holds here.
-/

namespace Telep

theorem parseUint_le {text : Bytes} {max n : Nat} (h : parseUint text max = some n) : n ≤ max := by
  unfold parseUint at h
  split_ifs at h with empty chars range
  obtain rfl := Option.some.inj h
  exact not_lt.mp fun lt => range (.inr lt)

/-- The arguments of a well-formed datagram are as the registry expects them. -/
theorem parseTelemetry_valid {strtod : Bytes → StrtodResult} {text : Bytes}
    {m : TelemetryMessage} (h : parseTelemetry strtod text = some m) :
    isValidNodeId m.nodeId = true ∧ isValidSession m.session = true ∧
      m.sequence < sessionLimit ∧ ValidMeasurements m.values := by
  unfold parseTelemetry at h
  cases hp : parseMessage text with
  | none => simp [hp] at h
  | some message =>
    simp only [hp] at h
    split_ifs at h with command
    split at h
    · split_ifs at h with ids
      rw [not_or, not_not, not_not] at ids
      split at h
      · cases h
      · next sequence hs =>
        obtain ⟨values, hv, rfl⟩ := Option.map_eq_some_iff.mp h
        exact ⟨ids.1, ids.2, Nat.lt_of_le_pred (by decide) (parseUint_le hs),
          parseMeasurements_valid hv⟩
    · cases h

/-- The call a datagram leads to. -/
inductive DatagramEffect (strtod : Bytes → StrtodResult) (r : Registry) (clock : Clock)
    (datagram : Bytes) : List Alert → Registry → Prop
  | malformed (none : wellFormedDatagram strtod datagram = none) :
      DatagramEffect strtod r clock datagram [] (registryStep r .invalidDatagram).2
  | telemetry (m : TelemetryMessage) (some : wellFormedDatagram strtod datagram = some m)
      (id : NodeId) (session : Session) (sequence : Fin sessionLimit) (values : MeasurementSet)
      (same : m = ⟨id.val, session.val, sequence.val, values.val⟩) :
      DatagramEffect strtod r clock datagram
        ((registryRecordTelemetry r clock id.val session.val sequence.val values.val).1.getD [])
        (registryStep r (.telemetry id session sequence values clock)).2

theorem datagram_effect (strtod : Bytes → StrtodResult) (r : Registry) (clock : Clock)
    (datagram : Bytes) :
    DatagramEffect strtod r clock datagram (udpTelemetryServer strtod r clock datagram).1
      (udpTelemetryServer strtod r clock datagram).2 := by
  unfold udpTelemetryServer
  cases ht : datagramText datagram with
  | none => exact .malformed (by simp [wellFormedDatagram, ht])
  | some text =>
    cases hm : parseTelemetry strtod text with
    | none =>
      simp only [hm]
      exact .malformed (by simp [wellFormedDatagram, ht, hm])
    | some m =>
      simp only [hm]
      obtain ⟨id, session, sequence, values⟩ := parseTelemetry_valid hm
      exact .telemetry m (by simp [wellFormedDatagram, ht, hm]) ⟨m.nodeId, id⟩
        ⟨m.session, session⟩ ⟨m.sequence, sequence⟩ ⟨m.values, values⟩ rfl

/-- What a command does: it answers from the state, or subscribes the connection, or is one call
to the registry. -/
inductive CommandEffect (s : ServerState) : CommandResult → Prop
  | answers (reply : List Bytes) (closes : Bool) : CommandEffect s ⟨reply, closes, s⟩
  | subscribes (reply : List Bytes) (subscribers : Subscribers) :
      CommandEffect s ⟨reply, false, { s with subscribers := subscribers }⟩
  | hello (id : NodeId) (session : Session) :
      CommandEffect s (s.calls (registryRegisterNode s.registry id.val session.val)
        (ascii "OK|REGISTERED"))
  | report (id : NodeId) (session : Session) (c : ReportCounters) (final : Bool) :
      CommandEffect s (s.calls (registryReport s.registry id.val session.val c.attempts c.sent
        c.omitted c.errors final) (ascii "OK|REPORTED"))

theorem CommandEffect.ite {s : ServerState} {p : Prop} [Decidable p] {a b : CommandResult}
    (pos : p → CommandEffect s a) (neg : ¬ p → CommandEffect s b) :
    CommandEffect s (if p then a else b) := by
  split
  · next h => exact pos h
  · next h => exact neg h

theorem report_effect_command (s : ServerState) (nodeId session : Bytes) (values : List Bytes) :
    CommandEffect s (handleReport s nodeId session values) := by
  unfold handleReport
  split
  · refine .ite (fun ids => ?_) fun _ => .answers _ _
    split
    · next hA hB hC hD hE =>
      exact .report ⟨nodeId, ids.1⟩ ⟨session, ids.2⟩
        ⟨_, _, _, _, parseUint_le hA, parseUint_le hB, parseUint_le hC, parseUint_le hD⟩ _
    · exact .answers _ _
  · exact .answers _ _

theorem node_effect_command (s : ServerState) (command : Bytes) (args : List Bytes) :
    CommandEffect s (handleNodeCommand s command args) := by
  unfold handleNodeCommand
  cases args with
  | nil => exact .answers _ _
  | cons firstArg rest =>
    refine .ite (fun _ => .answers _ _) fun id => .ite (fun _ => ?_) fun _ => ?_
    · cases rest with
      | nil => exact .answers _ _
      | cons session rest =>
        exact .ite (fun _ => .answers _ _) fun valid =>
          .hello ⟨firstArg, not_not.mp id⟩ ⟨session, not_not.mp valid⟩
    · exact .ite (fun _ => .answers _ _) fun _ => .answers _ _

theorem command_effect (s : ServerState) (fd : ClientFd) (readings : Readings) (line : Bytes) :
    CommandEffect s (handleCommand s fd readings line) := by
  unfold handleCommand
  cases parseMessage line with
  | none => exact .answers _ _
  | some message =>
    dsimp only
    cases expectedArgs message.command message.args.length with
    | none => exact .answers _ _
    | some expected =>
      refine .ite (fun _ => .answers _ _) fun _ => .ite (fun _ => ?_) fun _ => .ite (fun _ => ?_)
        fun _ => .ite (fun _ => .answers _ _) fun _ => .ite (fun _ => .answers _ _) fun _ =>
        .ite (fun _ => .answers _ _) fun _ => .ite (fun _ => .answers _ _) fun _ =>
        .ite (fun _ => .subscribes _ _) fun _ => node_effect_command s _ _
      · cases message.args.head? with
        | none => exact .answers _ _
        | some id => exact .ite (fun _ => .answers _ _) fun _ => .answers _ _
      · match message.args with
        | nodeId :: session :: values => exact report_effect_command s _ _ _
        | [] => exact .answers _ _
        | [_] => exact .answers _ _

/-- A command leaves the registry alone or makes one call of a client. -/
theorem CommandEffect.registry {s : ServerState} {result : CommandResult}
    (effect : CommandEffect s result) :
    result.state.registry = s.registry ∨
      (∃ id session, result.state.registry =
        (registryStep s.registry (.hello id session)).2) ∨
      ∃ id session c final, result.state.registry =
        (registryStep s.registry (.report id session c final)).2 := by
  cases effect with
  | answers reply closes => exact .inl rfl
  | subscribes reply subscribers => exact .inl rfl
  | hello id session => exact .inr (.inl ⟨id, session, rfl⟩)
  | report id session c final => exact .inr (.inr ⟨id, session, c, final, rfl⟩)

/-- Every input makes at most one call. -/
theorem registry_step (strtod : Bytes → StrtodResult) (s : ServerState) (input : ServerInput) :
    (serverStep strtod s input).2.registry = s.registry ∨
      ∃ op, (serverStep strtod s input).2.registry = (registryStep s.registry op).2 := by
  cases input with
  | datagram clock bytes =>
    have effect := datagram_effect strtod s.registry clock bytes
    refine .inr ?_
    change ∃ op, (udpTelemetryServer strtod s.registry clock bytes).2 = _
    revert effect
    generalize (udpTelemetryServer strtod s.registry clock bytes).1 = alerts
    generalize (udpTelemetryServer strtod s.registry clock bytes).2 = r'
    intro effect
    cases effect with
    | malformed none => exact ⟨_, rfl⟩
    | telemetry m some id session sequence values same => exact ⟨_, rfl⟩
  | command fd readings line =>
    rcases (command_effect s fd readings line).registry with same | ⟨id, session, call⟩ |
      ⟨id, session, c, final, call⟩
    · exact .inl same
    · exact .inr ⟨_, call⟩
    · exact .inr ⟨_, call⟩

/-- The registry of a reachable server is a reachable registry. -/
theorem registry_reachable {strtod : Bytes → StrtodResult} {startedAt bootId : Int}
    {s : ServerState} (h : (serverMachine strtod startedAt bootId).Reachable s) :
    (registryMachine startedAt bootId).Reachable s.registry := by
  refine h.invariant (P := fun s => (registryMachine startedAt bootId).Reachable s.registry)
    (Machine.Reachable.init _) fun s input reachable => ?_
  rcases registry_step strtod s input with same | ⟨op, call⟩
  · exact same ▸ reachable
  · exact call ▸ reachable.exec [op]

end Telep
