import Telep.Server.Proofs.AlertLog

/-!
# Nodes do not interfere

A run is compared with the run of only the calls that name one identifier. The slots differ
between the two runs, so the states are related by `SameRecord`, which speaks of the record of
that identifier and of no slot.
-/

namespace Telep

open SlotTable

/-- Whether a call names `id`. -/
def RegistryOp.names (id : Bytes) (op : RegistryOp) : Bool := op.nodeId = some id

/-- The calls of a run that name `id`, each with its answer. -/
def outcomes (startedAt bootId : Int) (id : Bytes) (ops : List RegistryOp) :
    List (RegistryOp × RegistryAnswer) :=
  (registryMachine startedAt bootId).observed (RegistryOp.names id)
    (registryInit startedAt bootId) ops

/-- The alerts of a run that belong to `id`. -/
def alertsOf (startedAt bootId : Int) (id : Bytes) (ops : List RegistryOp) : List Alert :=
  (alertLog startedAt bootId ops).filter fun alert => alert.nodeId = id

/-- Two registries that agree on `id`, the second one knowing no other identifier. -/
structure SameRecord (id : Bytes) (r t : Registry) : Prop where
  same : recordOf r id = recordOf t id
  alone : ∀ id', id' ≠ id → recordOf t id' = none
  wf : r.WellFormed
  wf' : t.WellFormed

/-- Only the first `HELLO` of an identifier looks at the free slots. -/
theorem stepRecord_room {room room' : Bool} {op : RegistryOp} {record : Option Record}
    (h : ∀ id session, op = .hello id session → record = none → room = room') :
    stepRecord room op record = stepRecord room' op record ∧
      answerRecord room op record = answerRecord room' op record := by
  cases op with
  | hello id session =>
    cases record with
    | none =>
      obtain rfl := h id session rfl rfl
      exact ⟨rfl, rfl⟩
    | some x => exact ⟨rfl, rfl⟩
  | _ => cases record <;> exact ⟨rfl, rfl⟩

/-- A call that names `id` and finds room if it needs it. -/
theorem sameRecord_kept {id : Bytes} {r t : Registry} (h : SameRecord id r t) {op : RegistryOp}
    (named : op.nodeId = some id)
    (notFull : (registryStep r op).1 ≠ .result (some .serverFull)) :
    (registryStep r op).1 = (registryStep t op).1 ∧
      SameRecord id (registryStep r op).2 (registryStep t op).2 := by
  have room : ∀ id' session, op = .hello id' session → recordOf r id = none →
      r.hasRoom = t.hasRoom := by
    rintro id' session rfl none
    have empty : ∀ id', recordOf t id' = .none := fun id' => by
      by_cases same : id' = id
      · rw [same, ← h.same, none]
      · exact h.alone id' same
    rw [answer_step h.wf _ named, none] at notFull
    rw [hasRoom_of_empty h.wf' empty]
    by_contra full
    simp [answerRecord, full] at notFull
  obtain ⟨record, answer⟩ := stepRecord_room room
  refine ⟨?_, ?_, ?_, wellFormed_step h.wf op, wellFormed_step h.wf' op⟩
  · rw [answer_step h.wf _ named, answer_step h.wf' _ named, answer, h.same]
  · rw [recordOf_step_named h.wf named, recordOf_step_named h.wf' named, record, h.same]
  · intro id' ne
    rw [recordOf_step_other h.wf' fun same => ne (Option.some.inj (same.symm.trans named))]
    exact h.alone id' ne

/-- Any other call moves the full run only. -/
theorem sameRecord_dropped {id : Bytes} {r t : Registry} (h : SameRecord id r t)
    {op : RegistryOp} (other : op.nodeId ≠ some id) : SameRecord id (registryStep r op).2 t where
  same := (recordOf_step_other h.wf other).trans h.same
  alone := h.alone
  wf := wellFormed_step h.wf op
  wf' := h.wf'

/-- A datagram raises alerts of the node it names. -/
theorem raisedAlerts_nodeId {stored values : List Measurement} {nodeId : Bytes} {clock : Clock}
    {readings : Nat} {alert : Alert}
    (h : alert ∈ raisedAlerts stored nodeId clock readings values) : alert.nodeId = nodeId := by
  induction values generalizing readings with
  | nil => simp [raisedAlerts] at h
  | cons current values ih =>
    rw [raisedAlerts] at h
    split at h
    · rcases List.mem_cons.mp h with rfl | h
      · split <;> rfl
      · exact ih h
    · exact ih h

theorem TelemetryEffect.alerts_nodeId {r r' : Registry} {clock : Clock} {id session : Bytes}
    {sequence : Nat} {values : List Measurement} {newAlerts : Option (List Alert)}
    (effect : TelemetryEffect r clock id session sequence values newAlerts r') {alert : Alert}
    (h : alert ∈ (RegistryAnswer.recorded newAlerts).alerts) : alert.nodeId = id := by
  cases effect with
  | advanced i found same onTime new above => exact raisedAlerts_nodeId h
  | _ => simp [RegistryAnswer.alerts] at h

theorem alerts_nodeId (r : Registry) (op : RegistryOp) {alert : Alert}
    (h : alert ∈ (registryStep r op).1.alerts) : op.nodeId = some alert.nodeId := by
  cases op with
  | telemetry id session sequence values clock =>
    exact congrArg some ((telemetry_effect r _ _ _ _ _).alerts_nodeId h).symm
  | _ => simp [registryStep, RegistryAnswer.alerts] at h

/-- The alerts of `id` are those its own calls raised. -/
theorem alertsOf_eq (startedAt bootId : Int) (id : Bytes) (ops : List RegistryOp) :
    alertsOf startedAt bootId id ops = (outcomes startedAt bootId id ops).flatMap fun e =>
      e.2.alerts.filter fun alert => alert.nodeId = id := by
  rw [alertsOf, alertLog, List.filter_flatMap]
  refine Machine.outputs_flatMap (fun r op other => ?_) _ _
  rw [List.filter_eq_nil_iff]
  intro alert h same
  have named := alerts_nodeId r op h
  simp only [decide_eq_true_iff] at same
  rw [same] at named
  simp [RegistryOp.names, named] at other

/-- In a run in which no `HELLO` of `id` was refused for lack of room, the answers to its calls,
its final record and its alerts are those of the run of its calls alone. -/
theorem node_isolation (startedAt bootId : Int) (id : Bytes) (ops : List RegistryOp)
    (neverFull : ∀ e ∈ outcomes startedAt bootId id ops, e.2 ≠ .result (some .serverFull)) :
    outcomes startedAt bootId id ops =
        outcomes startedAt bootId id (ops.filter (RegistryOp.names id)) ∧
      recordOf ((registryMachine startedAt bootId).exec (registryInit startedAt bootId) ops) id =
        recordOf ((registryMachine startedAt bootId).exec (registryInit startedAt bootId)
          (ops.filter (RegistryOp.names id))) id ∧
      alertsOf startedAt bootId id ops =
        alertsOf startedAt bootId id (ops.filter (RegistryOp.names id)) := by
  have start : SameRecord id (registryInit startedAt bootId) (registryInit startedAt bootId) :=
    ⟨rfl, fun id' _ => recordOf_init startedAt bootId id', wellFormed_init startedAt bootId,
      wellFormed_init startedAt bootId⟩
  obtain ⟨answers, final⟩ := Machine.exec_projection (M := registryMachine startedAt bootId)
    (RegistryOp.names id) (SameRecord id) (fun _ answer => answer ≠ .result (some .serverFull))
    (fun r t op named h ok => sameRecord_kept h (by simpa [RegistryOp.names] using named) ok)
    (fun r t op other h => sameRecord_dropped h (by simpa [RegistryOp.names] using other))
    start ops neverFull
  refine ⟨answers, final.same, ?_⟩
  rw [alertsOf_eq, alertsOf_eq]
  exact congrArg (List.flatMap _) answers

/-- Two nodes register and the second one sends a datagram. -/
def twoNodes : List RegistryOp :=
  [.hello ⟨ascii "M", by decide⟩ sessionS, .hello nodeN sessionS,
    .telemetry nodeN sessionS 0 normalValues fun _ => 5]

theorem node_isolation_sample :
    outcomes 0 1 nodeN.val twoNodes =
        outcomes 0 1 nodeN.val (twoNodes.filter (RegistryOp.names nodeN.val)) ∧
      recordOf ((registryMachine 0 1).exec (registryInit 0 1) twoNodes) nodeN.val =
        recordOf ((registryMachine 0 1).exec (registryInit 0 1)
          (twoNodes.filter (RegistryOp.names nodeN.val))) nodeN.val ∧
      alertsOf 0 1 nodeN.val twoNodes =
        alertsOf 0 1 nodeN.val (twoNodes.filter (RegistryOp.names nodeN.val)) :=
  node_isolation 0 1 nodeN.val twoNodes (by decide +kernel)

end Telep
