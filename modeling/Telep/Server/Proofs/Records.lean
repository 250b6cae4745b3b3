import Telep.Server.Records

/-!
# The slots refine the map of records

`recordOf` reads the registry as a partial map; `recordOf_step` and `answer_step` say that
each call does to that map, and answers, what `stepRecord` and `answerRecord` say. The case
lemmas `register_effect`, `report_effect` and `telemetry_effect` are the only places where the
registry's functions are unfolded.
-/

namespace Telep

open SlotTable

/-- The key of a slot. -/
def nodeKey (n : TelemetryNode) : Option Bytes := if n.inUse then some n.nodeId else none

theorem nodeKey_eq_some {n : TelemetryNode} {id : Bytes} :
    nodeKey n = some id ↔ n.inUse = true ∧ n.nodeId = id := by
  unfold nodeKey
  split <;> simp [*]

theorem nodeKey_eq_none {n : TelemetryNode} : nodeKey n = none ↔ n.inUse = false := by
  unfold nodeKey
  split <;> simp [*]

namespace Registry

/-- The record in slot `i`. -/
def record (r : Registry) (i : Fin maxNodes) : Record := ⟨r.nodes i, r.seen i⟩

/-- The registry with slot `i` holding the record `x`. -/
def put (r : Registry) (i : Fin maxNodes) (x : Record) : Registry :=
  { r with nodes := Function.update r.nodes i x.node, seen := Function.update r.seen i x.row }

/-- Whether some slot is free. -/
def hasRoom (r : Registry) : Bool := (firstFree nodeKey r.nodes).isSome

/-- The invariant that makes the slots a map: no identifier is in two slots, and the bitmap
row of a free slot is clear. -/
structure WellFormed (r : Registry) : Prop where
  distinct : KeysDistinct nodeKey r.nodes
  freeRow : ∀ i, (r.nodes i).inUse = false → r.seen i = .empty
  nodeId_valid : ∀ i, (r.nodes i).inUse = true → isValidNodeId (r.nodes i).nodeId = true
  session_valid : ∀ i, (r.nodes i).inUse = true → isValidSession (r.nodes i).session = true

end Registry

/-- The record of an identifier. -/
def recordOf (r : Registry) (id : Bytes) : Option Record :=
  (findNode r.toRegistrySnapshot id).map r.record

theorem findNode_eq (r : RegistrySnapshot) (id : Bytes) :
    findNode r id = find nodeKey r.nodes id := by
  unfold findNode find
  congr 1
  funext i
  rw [Bool.eq_iff_iff]
  simp [nodeKey_eq_some]

theorem findNode_spec {r : RegistrySnapshot} {id : Bytes} {i : Fin maxNodes}
    (h : findNode r id = some i) : (r.nodes i).inUse = true ∧ (r.nodes i).nodeId = id := by
  rw [findNode_eq] at h
  exact nodeKey_eq_some.mp (find_spec h)

theorem recordOf_eq_some {r : Registry} {id : Bytes} {x : Record} :
    recordOf r id = some x ↔
      ∃ i, findNode r.toRegistrySnapshot id = some i ∧ r.record i = x := by
  simp [recordOf]

theorem recordOf_eq_none {r : Registry} {id : Bytes} :
    recordOf r id = none ↔ findNode r.toRegistrySnapshot id = none := by
  simp [recordOf]

theorem recordOf_of_find {r : Registry} {id : Bytes} {i : Fin maxNodes}
    (h : findNode r.toRegistrySnapshot id = some i) : recordOf r id = some (r.record i) := by
  simp [recordOf, h]

/-- A slot in use holds the record of its identifier. -/
theorem Registry.WellFormed.recordOf_slot {r : Registry} (wf : r.WellFormed) {i : Fin maxNodes}
    (used : (r.nodes i).inUse = true) : recordOf r (r.nodes i).nodeId = some (r.record i) := by
  apply recordOf_of_find
  rw [findNode_eq]
  exact wf.distinct.find_eq (nodeKey_eq_some.mpr ⟨used, rfl⟩)

/-! ## Overwriting one slot -/

section Put

variable {r : Registry} {i : Fin maxNodes} {x : Record} {id id' : Bytes}

theorem put_setNode (node : TelemetryNode) : r.setNode i node = r.put i ⟨node, r.seen i⟩ := by
  simp [Registry.setNode, Registry.put]

theorem put_nodes_self : (r.put i x).nodes i = x.node := by simp [Registry.put]

theorem findNode_put (same : nodeKey x.node = nodeKey (r.nodes i)) :
    findNode (r.put i x).toRegistrySnapshot id = findNode r.toRegistrySnapshot id := by
  rw [findNode_eq, findNode_eq]
  exact find_update_same same

@[simp] theorem put_record : r.put i (r.record i) = r := by
  simp [Registry.put, Registry.record]

/-- Overwriting the slot of `id` without changing its key changes the record of `id` only. -/
theorem recordOf_put (found : findNode r.toRegistrySnapshot id = some i)
    (same : nodeKey x.node = nodeKey (r.nodes i)) :
    recordOf (r.put i x) id' = if id' = id then some x else recordOf r id' := by
  rw [recordOf, findNode_put same]
  by_cases h : id' = id
  · subst h
    rw [found, if_pos rfl]
    simp [Registry.record, Registry.put]
  · rw [if_neg h, recordOf]
    cases hf : findNode r.toRegistrySnapshot id' with
    | none => rfl
    | some j =>
      have hj : j ≠ i := by
        rintro rfl
        exact h ((findNode_spec hf).2.symm.trans (findNode_spec found).2)
      simp [Registry.record, Registry.put, hj]

/-- Filling a free slot with a fresh identifier creates the record of that identifier only. -/
theorem recordOf_put_fresh (wf : r.WellFormed) (free : (r.nodes i).inUse = false)
    (fresh : findNode r.toRegistrySnapshot id = none) (key : nodeKey x.node = some id) :
    recordOf (r.put i x) id' = if id' = id then some x else recordOf r id' := by
  rw [findNode_eq] at fresh
  by_cases h : id' = id
  · subst h
    have found : findNode (r.put i x).toRegistrySnapshot id' = some i := by
      rw [findNode_eq]
      exact find_update_fresh_self wf.distinct key fresh
    rw [recordOf_of_find found, if_pos rfl]
    simp [Registry.record, Registry.put]
  · have same : findNode (r.put i x).toRegistrySnapshot id' =
        findNode r.toRegistrySnapshot id' := by
      rw [findNode_eq, findNode_eq]
      exact find_update_fresh_other (nodeKey_eq_none.mpr free) key h
    rw [if_neg h, recordOf, recordOf, same]
    cases hf : findNode r.toRegistrySnapshot id' with
    | none => rfl
    | some j =>
      have hj : j ≠ i := by
        rintro rfl
        have := (findNode_spec hf).1
        rw [free] at this
        cases this
      simp [Registry.record, Registry.put, hj]

/-- An overwrite keeps the slots well formed when the new record's key is that of the old one
or fresh. -/
theorem Registry.WellFormed.put (wf : r.WellFormed) (used : x.node.inUse = true)
    (key : nodeKey x.node = nodeKey (r.nodes i) ∨ ∀ j, nodeKey (r.nodes j) ≠ nodeKey x.node)
    (nodeId_valid : isValidNodeId x.node.nodeId = true)
    (session_valid : isValidSession x.node.session = true) : (r.put i x).WellFormed where
  distinct := by
    rcases key with same | fresh
    · exact wf.distinct.update_same same
    · exact wf.distinct.update_fresh (nodeKey_eq_some.mpr ⟨used, rfl⟩) fun j hj =>
        fresh j (hj.trans (nodeKey_eq_some.mpr ⟨used, rfl⟩).symm)
  freeRow j hj := by
    by_cases h : j = i
    · subst h
      simp [Registry.put, used] at hj
    · simp only [Registry.put, ne_eq, h, not_false_eq_true, Function.update_of_ne] at hj ⊢
      exact wf.freeRow j hj
  nodeId_valid j hj := by
    by_cases h : j = i
    · subst h
      simpa [Registry.put] using nodeId_valid
    · simp only [Registry.put, ne_eq, h, not_false_eq_true, Function.update_of_ne] at hj ⊢
      exact wf.nodeId_valid j hj
  session_valid j hj := by
    by_cases h : j = i
    · subst h
      simpa [Registry.put] using session_valid
    · simp only [Registry.put, ne_eq, h, not_false_eq_true, Function.update_of_ne] at hj ⊢
      exact wf.session_valid j hj

end Put

/-! ## What each function does, case by case -/

/-- `HELLO` is answered for a bound identifier, refused for one bound elsewhere, refused when
there is no room, or creates the record in the first free slot. -/
inductive RegisterEffect (r : Registry) (id session : Bytes) : Option ErrorCode → Registry → Prop
  | bound (i : Fin maxNodes) (found : findNode r.toRegistrySnapshot id = some i)
      (same : (r.record i).node.session = session) : RegisterEffect r id session none r
  | inUse (i : Fin maxNodes) (found : findNode r.toRegistrySnapshot id = some i)
      (other : (r.record i).node.session ≠ session) :
      RegisterEffect r id session (some .idInUse) r
  | full (fresh : findNode r.toRegistrySnapshot id = none)
      (full : firstFree nodeKey r.nodes = none) : RegisterEffect r id session (some .serverFull) r
  | created (i : Fin maxNodes) (fresh : findNode r.toRegistrySnapshot id = none)
      (free : firstFree nodeKey r.nodes = some i) :
      RegisterEffect r id session none (r.put i (.created id session))

theorem register_effect {r : Registry} (wf : r.WellFormed) (id session : Bytes) :
    RegisterEffect r id session (registryRegisterNode r id session).1
      (registryRegisterNode r id session).2 := by
  unfold registryRegisterNode
  cases found : findNode r.toRegistrySnapshot id with
  | some i =>
    by_cases same : (r.nodes i).session = session
    · simpa [same] using RegisterEffect.bound i found same
    · simpa [same] using RegisterEffect.inUse i found same
  | none =>
    have search : ((List.finRange maxNodes).find? fun i => !(r.nodes i).inUse) =
        firstFree nodeKey r.nodes := by
      unfold firstFree
      congr 1
      funext i
      cases h : (r.nodes i).inUse <;> simp [nodeKey, h]
    simp only [createNode, search]
    cases free : firstFree nodeKey r.nodes with
    | none => exact .full found free
    | some i =>
      have row : r.seen i = .empty := wf.freeRow i (nodeKey_eq_none.mp (firstFree_spec free))
      have state : (r.setNode i { TelemetryNode.zero with
            nodeId := id, inUse := true, lastSequence := -1 }).setNode i
          { (r.setNode i { TelemetryNode.zero with
              nodeId := id, inUse := true, lastSequence := -1 }).nodes i with
            session := session } = r.put i (.created id session) := by
        have same : Function.update r.seen i BitRow.empty = r.seen := by
          rw [← row, Function.update_eq_self]
        simp [Registry.setNode, Registry.put, Record.created, same]
      dsimp only
      rw [state]
      exact .created i found free

/-- A report names an unknown session, or is refused by the record, or is stored in it. -/
inductive ReportEffect (r : Registry) (id session : Bytes)
    (attempts sent omitted errors : Nat) (final : Bool) : Option ErrorCode → Registry → Prop
  | unknown (other : ∀ x, recordOf r id = some x → x.node.session ≠ session) :
      ReportEffect r id session attempts sent omitted errors final (some .unknownNode) r
  | refused (i : Fin maxNodes) (found : findNode r.toRegistrySnapshot id = some i)
      (same : (r.record i).node.session = session)
      (refuses : (r.record i).Refuses attempts sent omitted errors final) :
      ReportEffect r id session attempts sent omitted errors final (some .badFormat) r
  | accepted (i : Fin maxNodes) (found : findNode r.toRegistrySnapshot id = some i)
      (same : (r.record i).node.session = session)
      (accepts : ¬ (r.record i).Refuses attempts sent omitted errors final) :
      ReportEffect r id session attempts sent omitted errors final none
        (r.put i ((r.record i).reported attempts sent omitted errors final))

theorem report_effect (r : Registry) (id session : Bytes) (attempts sent omitted errors : Nat)
    (final : Bool) :
    ReportEffect r id session attempts sent omitted errors final
      (registryReport r id session attempts sent omitted errors final).1
      (registryReport r id session attempts sent omitted errors final).2 := by
  unfold registryReport
  cases found : findNode r.toRegistrySnapshot id with
  | none => exact .unknown fun x hx => by simp [recordOf, found] at hx
  | some i =>
    dsimp only
    split_ifs with other guard count
    · refine .unknown fun x hx => ?_
      obtain rfl : r.record i = x := by simpa [recordOf, found] using hx
      exact other
    · exact .refused i found (not_not.mp other) (.inl guard)
    · exact .refused i found (not_not.mp other) (.inr count)
    · rw [put_setNode]
      exact .accepted i found (not_not.mp other) (not_or.mpr ⟨guard, count⟩)

/-- One alert written to the ring. -/
def pushAlert (r : RegistrySnapshot) (alert : Alert) : RegistrySnapshot :=
  { r with alerts := Function.update r.alerts (Fin.ofNat maxAlerts r.totalAlerts) alert,
           totalAlerts := r.totalAlerts + 1 }

/-- The registry after writing the alerts to the ring in order. -/
def Registry.logged (r : Registry) (alerts : List Alert) : Registry :=
  { r with toRegistrySnapshot := alerts.foldl pushAlert r.toRegistrySnapshot }

/-- The alert loop writes to the ring exactly the alerts it returns. -/
theorem raiseAlerts_eq (node : TelemetryNode) (nodeId : Bytes) (clock : Clock) (readings : Nat)
    (r : RegistrySnapshot) (values : List Measurement) :
    raiseAlerts node nodeId clock readings r values =
      (raisedAlerts node.measurements nodeId clock readings values,
        (raisedAlerts node.measurements nodeId clock readings values).foldl pushAlert r) := by
  have memory (name : Bytes) :
      wasAnomalous node name = storedAnomalous node.measurements name := rfl
  induction values generalizing r readings with
  | nil => rfl
  | cons current values ih =>
    simp only [raiseAlerts, raisedAlerts, memory]
    by_cases raise :
        (isAnomalousValue current && !storedAnomalous node.measurements current.name) = true
    · rw [if_pos raise, if_pos raise]
      by_cases status : current.name = ascii "STATUS"
      · rw [if_pos status, if_pos status, ih]
        rfl
      · rw [if_neg status, if_neg status, ih]
        rfl
    · rw [if_neg raise, if_neg raise, ih]

theorem foldl_pushAlert (alerts : List Alert) (r : RegistrySnapshot) :
    (alerts.foldl pushAlert r).nodes = r.nodes ∧
      (alerts.foldl pushAlert r).datagramsTotal = r.datagramsTotal ∧
      (alerts.foldl pushAlert r).datagramsUnknownNode = r.datagramsUnknownNode ∧
      (alerts.foldl pushAlert r).datagramsInvalid = r.datagramsInvalid ∧
      (alerts.foldl pushAlert r).totalAlerts = r.totalAlerts + alerts.length := by
  induction alerts generalizing r with
  | nil => simp
  | cons alert alerts ih =>
    obtain ⟨h1, h2, h3, h4, h5⟩ := ih (pushAlert r alert)
    refine ⟨h1, h2, h3, h4, h5.trans ?_⟩
    simp only [pushAlert, List.length_cons]
    omega

@[simp] theorem logged_nodes (r : Registry) (alerts : List Alert) :
    (r.logged alerts).nodes = r.nodes := (foldl_pushAlert alerts _).1

@[simp] theorem logged_seen (r : Registry) (alerts : List Alert) :
    (r.logged alerts).seen = r.seen := rfl

/-- A datagram names an unknown session, is past the final report, repeats a sequence, or
brings a new one below or above the highest so far. -/
inductive TelemetryEffect (r : Registry) (clock : Clock) (id session : Bytes) (sequence : Nat)
    (values : List Measurement) : Option (List Alert) → Registry → Prop
  | unknown (other : ∀ x, recordOf r id = some x → x.node.session ≠ session) :
      TelemetryEffect r clock id session sequence values none r.countTotal.countUnknown
  | late (i : Fin maxNodes) (found : findNode r.toRegistrySnapshot id = some i)
      (same : (r.record i).node.session = session) (late : (r.record i).Late sequence) :
      TelemetryEffect r clock id session sequence values none r.countTotal.countInvalid
  | duplicate (i : Fin maxNodes) (found : findNode r.toRegistrySnapshot id = some i)
      (same : (r.record i).node.session = session) (onTime : ¬ (r.record i).Late sequence)
      (seen : (r.record i).row.test sequence = true) :
      TelemetryEffect r clock id session sequence values (some [])
        (r.countTotal.put i (r.record i).duplicated)
  | overtaken (i : Fin maxNodes) (found : findNode r.toRegistrySnapshot id = some i)
      (same : (r.record i).node.session = session) (onTime : ¬ (r.record i).Late sequence)
      (new : (r.record i).row.test sequence = false)
      (below : (sequence : Int) < (r.record i).node.lastSequence) :
      TelemetryEffect r clock id session sequence values (some [])
        (r.countTotal.put i ((r.record i).overtaken (clock 0) sequence))
  | advanced (i : Fin maxNodes) (found : findNode r.toRegistrySnapshot id = some i)
      (same : (r.record i).node.session = session) (onTime : ¬ (r.record i).Late sequence)
      (new : (r.record i).row.test sequence = false)
      (above : ¬ (sequence : Int) < (r.record i).node.lastSequence) :
      TelemetryEffect r clock id session sequence values
        (some (raisedAlerts (r.record i).node.measurements id clock 1 values))
        ((r.countTotal.logged
          (raisedAlerts (r.record i).node.measurements id clock 1 values)).put i
            ((r.record i).advanced (clock 0) sequence values))

theorem telemetry_effect (r : Registry) (clock : Clock) (id session : Bytes) (sequence : Nat)
    (values : List Measurement) :
    TelemetryEffect r clock id session sequence values
      (registryRecordTelemetry r clock id session sequence values).1
      (registryRecordTelemetry r clock id session sequence values).2 := by
  have search : findNode r.countTotal.toRegistrySnapshot id = findNode r.toRegistrySnapshot id :=
    rfl
  unfold registryRecordTelemetry
  cases found : findNode r.toRegistrySnapshot id with
  | none =>
    simp only [search, found]
    refine .unknown fun x hx => ?_
    simp [recordOf, found] at hx
  | some i =>
    simp only [search, found]
    split_ifs with other late seen below
    · refine .unknown fun x hx => ?_
      obtain rfl : r.record i = x := by simpa [recordOf, found] using hx
      exact other
    · exact .late i found (not_not.mp other) late
    · rw [put_setNode]
      exact .duplicate i found (not_not.mp other) late seen
    · exact .overtaken i found (not_not.mp other) late (Bool.eq_false_of_not_eq_true seen) below
    · rw [raiseAlerts_eq]
      exact .advanced i found (not_not.mp other) late (Bool.eq_false_of_not_eq_true seen) below

/-! ## The refinement -/

section Same

variable (x : Record) (attempts sent omitted errors : Nat) (final : Bool) (now : Int)
  (sequence : Nat) (values : List Measurement)

@[simp] theorem telemetry_session :
    (x.telemetry now sequence values).node.session = x.node.session := by
  unfold Record.telemetry
  split_ifs <;> rfl

variable {x sequence}

theorem telemetry_late (late : x.Late sequence) : x.telemetry now sequence values = x := by
  rw [Record.telemetry, if_pos late]

theorem telemetry_duplicate (onTime : ¬ x.Late sequence) (seen : x.row.test sequence = true) :
    x.telemetry now sequence values = x.duplicated := by
  rw [Record.telemetry, if_neg onTime, if_pos seen]

theorem telemetry_overtaken (onTime : ¬ x.Late sequence) (new : x.row.test sequence = false)
    (below : (sequence : Int) < x.node.lastSequence) :
    x.telemetry now sequence values = x.overtaken now sequence := by
  rw [Record.telemetry, if_neg onTime, new, if_neg Bool.false_ne_true, if_pos below]

theorem telemetry_advanced (onTime : ¬ x.Late sequence) (new : x.row.test sequence = false)
    (above : ¬ (sequence : Int) < x.node.lastSequence) :
    x.telemetry now sequence values = x.advanced now sequence values := by
  rw [Record.telemetry, if_neg onTime, new, if_neg Bool.false_ne_true, if_neg above]

end Same

@[simp] theorem recordOf_countTotal (r : Registry) (id : Bytes) :
    recordOf r.countTotal id = recordOf r id := rfl

@[simp] theorem recordOf_countUnknown (r : Registry) (id : Bytes) :
    recordOf r.countUnknown id = recordOf r id := rfl

@[simp] theorem recordOf_countInvalid (r : Registry) (id : Bytes) :
    recordOf r.countInvalid id = recordOf r id := rfl

@[simp] theorem findNode_logged (r : Registry) (alerts : List Alert) (id : Bytes) :
    findNode (r.logged alerts).toRegistrySnapshot id = findNode r.toRegistrySnapshot id := by
  simp [findNode]

@[simp] theorem record_logged (r : Registry) (alerts : List Alert) (i : Fin maxNodes) :
    (r.logged alerts).record i = r.record i := by
  simp [Registry.record]

@[simp] theorem recordOf_logged (r : Registry) (alerts : List Alert) (id : Bytes) :
    recordOf (r.logged alerts) id = recordOf r id := by
  have same : (r.logged alerts).record = r.record := funext (record_logged r alerts)
  rw [recordOf, recordOf, findNode_logged, same]

theorem found_countTotal {r : Registry} {id : Bytes} {i : Fin maxNodes}
    (found : findNode r.toRegistrySnapshot id = some i) :
    findNode r.countTotal.toRegistrySnapshot id = some i := found

theorem found_logged {r : Registry} {id : Bytes} {i : Fin maxNodes}
    (found : findNode r.toRegistrySnapshot id = some i) (alerts : List Alert) :
    findNode (r.countTotal.logged alerts).toRegistrySnapshot id = some i :=
  (findNode_logged _ _ _).trans found

/-- A `HELLO` does to the records what `stepRecord` says. -/
theorem RegisterEffect.recordOf {r r' : Registry} {id session : Bytes} {code : Option ErrorCode}
    (effect : RegisterEffect r id session code r') (wf : r.WellFormed) (id' : Bytes) :
    recordOf r' id' =
      if id' = id ∧ recordOf r id = none ∧ r.hasRoom then some (.created id session)
      else recordOf r id' := by
  cases effect with
  | bound i found same => simp [recordOf_of_find found]
  | inUse i found other => simp [recordOf_of_find found]
  | full fresh full => simp [Registry.hasRoom, full]
  | created i fresh free =>
    have unused := nodeKey_eq_none.mp (firstFree_spec free)
    rw [recordOf_put_fresh wf unused fresh (nodeKey_eq_some.mpr ⟨rfl, rfl⟩)]
    simp [recordOf_eq_none.mpr fresh, Registry.hasRoom, free]

/-- A `REPORT` does to the records what `stepRecord` says. -/
theorem ReportEffect.recordOf {r r' : Registry} {id session : Bytes}
    {attempts sent omitted errors : Nat} {final : Bool} {code : Option ErrorCode}
    (effect : ReportEffect r id session attempts sent omitted errors final code r')
    (id' : Bytes) :
    recordOf r' id' =
      if id' = id then
        (recordOf r id).map fun x =>
          if x.node.session = session ∧ ¬ x.Refuses attempts sent omitted errors final then
            x.reported attempts sent omitted errors final
          else x
      else recordOf r id' := by
  by_cases h : id' = id
  · subst h
    rw [if_pos rfl]
    cases effect with
    | unknown other =>
      cases hx : Telep.recordOf r id' with
      | none => rfl
      | some x => simp [other x hx]
    | refused i found same refuses => simp [recordOf_of_find found, refuses]
    | accepted i found same accepts =>
      rw [recordOf_put found (by rfl), if_pos rfl]
      simp [recordOf_of_find found, same, accepts]
  · rw [if_neg h]
    cases effect with
    | unknown other => rfl
    | refused i found same refuses => rfl
    | accepted i found same accepts => rw [recordOf_put found (by rfl), if_neg h]

/-- A datagram does to the records what `stepRecord` says. -/
theorem TelemetryEffect.recordOf {r r' : Registry} {clock : Clock} {id session : Bytes}
    {sequence : Nat} {values : List Measurement} {newAlerts : Option (List Alert)}
    (effect : TelemetryEffect r clock id session sequence values newAlerts r') (id' : Bytes) :
    recordOf r' id' =
      if id' = id then
        (recordOf r id).map fun x =>
          if x.node.session = session then x.telemetry (clock 0) sequence values else x
      else recordOf r id' := by
  by_cases h : id' = id
  · subst h
    rw [if_pos rfl]
    cases effect with
    | unknown other =>
      cases hx : Telep.recordOf r id' with
      | none => simp [hx]
      | some x => simp [hx, other x hx]
    | late i found same late =>
      simp [recordOf_of_find found, telemetry_late (clock 0) values late]
    | duplicate i found same onTime seen =>
      rw [recordOf_put (found_countTotal found) (by rfl), if_pos rfl]
      simp [recordOf_of_find found, same, telemetry_duplicate (clock 0) values onTime seen]
    | overtaken i found same onTime new below =>
      rw [recordOf_put (found_countTotal found) (by rfl), if_pos rfl]
      simp [recordOf_of_find found, same, telemetry_overtaken (clock 0) values onTime new below]
    | advanced i found same onTime new above =>
      rw [recordOf_put (found_logged found _) (by rw [logged_nodes]; rfl), if_pos rfl]
      simp [recordOf_of_find found, same, telemetry_advanced (clock 0) values onTime new above]
  · rw [if_neg h]
    cases effect with
    | unknown other => rfl
    | late i found same late => rfl
    | duplicate i found same onTime seen =>
      rw [recordOf_put (found_countTotal found) (by rfl), if_neg h, recordOf_countTotal]
    | overtaken i found same onTime new below =>
      rw [recordOf_put (found_countTotal found) (by rfl), if_neg h, recordOf_countTotal]
    | advanced i found same onTime new above =>
      rw [recordOf_put (found_logged found _) (by rw [logged_nodes]; rfl), if_neg h,
        recordOf_logged, recordOf_countTotal]

theorem RegisterEffect.wellFormed {r r' : Registry} {id session : Bytes}
    {code : Option ErrorCode} (effect : RegisterEffect r id session code r') (wf : r.WellFormed)
    (validId : isValidNodeId id = true) (validSession : isValidSession session = true) :
    r'.WellFormed := by
  cases effect with
  | bound i found same => exact wf
  | inUse i found other => exact wf
  | full fresh full => exact wf
  | created i fresh free =>
    refine wf.put rfl (.inr fun j hj => ?_) validId validSession
    rw [findNode_eq] at fresh
    exact find_eq_none.mp fresh j (hj.trans (nodeKey_eq_some.mpr ⟨rfl, rfl⟩))

theorem Registry.WellFormed.put_same {r : Registry} (wf : r.WellFormed) {id : Bytes}
    {i : Fin maxNodes} {x : Record} (found : findNode r.toRegistrySnapshot id = some i)
    (key : nodeKey x.node = nodeKey (r.nodes i)) (session : x.node.session = (r.nodes i).session) :
    (r.put i x).WellFormed := by
  obtain ⟨used, -⟩ := findNode_spec found
  have key' : nodeKey x.node = some (r.nodes i).nodeId :=
    key.trans (nodeKey_eq_some.mpr ⟨used, rfl⟩)
  obtain ⟨used', same⟩ := nodeKey_eq_some.mp key'
  exact wf.put used' (.inl key) (same ▸ wf.nodeId_valid i used) (session ▸ wf.session_valid i used)

theorem ReportEffect.wellFormed {r r' : Registry} {id session : Bytes}
    {attempts sent omitted errors : Nat} {final : Bool} {code : Option ErrorCode}
    (effect : ReportEffect r id session attempts sent omitted errors final code r')
    (wf : r.WellFormed) : r'.WellFormed := by
  cases effect with
  | unknown other => exact wf
  | refused i found same refuses => exact wf
  | accepted i found same accepts => exact wf.put_same found rfl rfl

theorem Registry.WellFormed.countTotal {r : Registry} (wf : r.WellFormed) :
    r.countTotal.WellFormed := ⟨wf.distinct, wf.freeRow, wf.nodeId_valid, wf.session_valid⟩

theorem Registry.WellFormed.logged {r : Registry} (wf : r.WellFormed) (alerts : List Alert) :
    (r.logged alerts).WellFormed where
  distinct := by rw [logged_nodes]; exact wf.distinct
  freeRow := by rw [logged_nodes, logged_seen]; exact wf.freeRow
  nodeId_valid := by rw [logged_nodes]; exact wf.nodeId_valid
  session_valid := by rw [logged_nodes]; exact wf.session_valid

theorem TelemetryEffect.wellFormed {r r' : Registry} {clock : Clock} {id session : Bytes}
    {sequence : Nat} {values : List Measurement} {newAlerts : Option (List Alert)}
    (effect : TelemetryEffect r clock id session sequence values newAlerts r')
    (wf : r.WellFormed) : r'.WellFormed := by
  cases effect with
  | unknown other => exact ⟨wf.distinct, wf.freeRow, wf.nodeId_valid, wf.session_valid⟩
  | late i found same late => exact ⟨wf.distinct, wf.freeRow, wf.nodeId_valid, wf.session_valid⟩
  | duplicate i found same onTime seen => exact wf.countTotal.put_same found rfl rfl
  | overtaken i found same onTime new below => exact wf.countTotal.put_same found rfl rfl
  | advanced i found same onTime new above =>
    refine (wf.countTotal.logged _).put_same (found_logged found _) ?_ ?_
    · rw [logged_nodes]; rfl
    · rw [logged_nodes]; rfl

/-- Every call keeps the slots a map. -/
theorem wellFormed_step {r : Registry} (wf : r.WellFormed) (op : RegistryOp) :
    (registryStep r op).2.WellFormed := by
  cases op with
  | hello id session => exact (register_effect wf _ _).wellFormed wf id.property session.property
  | report id session c final => exact (report_effect r _ _ _ _ _ _ _).wellFormed wf
  | telemetry id session sequence values clock =>
    exact (telemetry_effect r _ _ _ _ _).wellFormed wf
  | invalidDatagram => exact ⟨wf.distinct, wf.freeRow, wf.nodeId_valid, wf.session_valid⟩

theorem wellFormed_init (startedAt bootId : Int) : (registryInit startedAt bootId).WellFormed where
  distinct i j k hi := by simp [registryInit, nodeKey, TelemetryNode.zero] at hi
  freeRow i _ := rfl
  nodeId_valid i hi := by simp [registryInit, TelemetryNode.zero] at hi
  session_valid i hi := by simp [registryInit, TelemetryNode.zero] at hi

theorem recordOf_init (startedAt bootId : Int) (id : Bytes) :
    recordOf (registryInit startedAt bootId) id = none := by
  rw [recordOf_eq_none, findNode, List.find?_eq_none]
  intro i _
  simp [registryInit, TelemetryNode.zero]

theorem wellFormed_reachable {startedAt bootId : Int} {r : Registry}
    (h : (registryMachine startedAt bootId).Reachable r) : r.WellFormed :=
  h.invariant (P := Registry.WellFormed) (wellFormed_init startedAt bootId)
    fun _ op wf => wellFormed_step wf op

/-- A call changes the record of the identifier it names as `stepRecord` says, and no other. -/
theorem recordOf_step {r : Registry} (wf : r.WellFormed) (op : RegistryOp) (id : Bytes) :
    recordOf (registryStep r op).2 id =
      if op.nodeId = some id then stepRecord r.hasRoom op (recordOf r id) else recordOf r id := by
  cases op with
  | hello id' session =>
    refine ((register_effect wf _ _).recordOf wf id).trans ?_
    by_cases h : id = id'.val
    · subst h
      cases hx : recordOf r id'.val <;> simp [RegistryOp.nodeId, stepRecord]
    · have h' : ¬ id'.val = id := fun e => h e.symm
      simp [RegistryOp.nodeId, h, h']
  | report id' session c final =>
    refine ((report_effect r _ _ _ _ _ _ _).recordOf id).trans ?_
    by_cases h : id = id'.val
    · subst h
      cases hx : recordOf r id'.val with
      | none => simp [RegistryOp.nodeId, stepRecord]
      | some x =>
        simp only [RegistryOp.nodeId, stepRecord, if_true, Option.map_some, apply_ite some]
    · have h' : ¬ id'.val = id := fun e => h e.symm
      simp [RegistryOp.nodeId, h, h']
  | telemetry id' session sequence values clock =>
    refine ((telemetry_effect r _ _ _ _ _).recordOf id).trans ?_
    by_cases h : id = id'.val
    · subst h
      cases hx : recordOf r id'.val with
      | none => simp [RegistryOp.nodeId, stepRecord]
      | some x =>
        simp only [RegistryOp.nodeId, stepRecord, if_true, Option.map_some, apply_ite some]
    · have h' : ¬ id'.val = id := fun e => h e.symm
      simp [RegistryOp.nodeId, h, h']
  | invalidDatagram => rfl

theorem recordOf_step_named {r : Registry} (wf : r.WellFormed) {op : RegistryOp} {id : Bytes}
    (named : op.nodeId = some id) :
    recordOf (registryStep r op).2 id = stepRecord r.hasRoom op (recordOf r id) := by
  rw [recordOf_step wf, if_pos named]

theorem recordOf_step_other {r : Registry} (wf : r.WellFormed) {op : RegistryOp} {id : Bytes}
    (other : op.nodeId ≠ some id) : recordOf (registryStep r op).2 id = recordOf r id := by
  rw [recordOf_step wf, if_neg other]

theorem RegisterEffect.answer {r r' : Registry} {id : NodeId} {session : Session}
    {code : Option ErrorCode} (effect : RegisterEffect r id.val session.val code r') :
    .result code = answerRecord r.hasRoom (.hello id session) (Telep.recordOf r id.val) := by
  cases effect with
  | bound i found same => simp [recordOf_of_find found, answerRecord, same]
  | inUse i found other => simp [recordOf_of_find found, answerRecord, other]
  | full fresh full => simp [recordOf_eq_none.mpr fresh, answerRecord, Registry.hasRoom, full]
  | created i fresh free => simp [recordOf_eq_none.mpr fresh, answerRecord, Registry.hasRoom, free]

theorem ReportEffect.answer {r r' : Registry} {id : NodeId} {session : Session}
    {c : ReportCounters} {final : Bool} {code : Option ErrorCode}
    (effect : ReportEffect r id.val session.val c.attempts c.sent c.omitted c.errors final code
      r') :
    .result code =
      answerRecord r.hasRoom (.report id session c final) (Telep.recordOf r id.val) := by
  cases effect with
  | unknown other =>
    cases hx : Telep.recordOf r id.val with
    | none => rfl
    | some x => simp [answerRecord, other x hx]
  | refused i found same refuses => simp [recordOf_of_find found, answerRecord, same, refuses]
  | accepted i found same accepts => simp [recordOf_of_find found, answerRecord, same, accepts]

theorem TelemetryEffect.answer {r r' : Registry} {clock : Clock} {id : NodeId}
    {session : Session} {sequence : Fin sessionLimit} {values : MeasurementSet}
    {newAlerts : Option (List Alert)}
    (effect : TelemetryEffect r clock id.val session.val sequence.val values.val newAlerts r') :
    .recorded newAlerts =
      answerRecord r.hasRoom (.telemetry id session sequence values clock)
        (Telep.recordOf r id.val) := by
  cases effect with
  | unknown other =>
    cases hx : Telep.recordOf r id.val with
    | none => rfl
    | some x => simp [answerRecord, other x hx]
  | late i found same late =>
    simp [recordOf_of_find found, answerRecord, same, Record.recorded, late]
  | duplicate i found same onTime seen =>
    simp [recordOf_of_find found, answerRecord, same, Record.recorded, onTime, seen]
  | overtaken i found same onTime new below =>
    simp [recordOf_of_find found, answerRecord, same, Record.recorded, onTime, below]
  | advanced i found same onTime new above =>
    simp [recordOf_of_find found, answerRecord, same, Record.recorded, onTime, new, above]

/-- A call is answered from the record of the identifier it names. -/
theorem answer_step {r : Registry} (wf : r.WellFormed) (op : RegistryOp) {id : Bytes}
    (named : op.nodeId = some id) :
    (registryStep r op).1 = answerRecord r.hasRoom op (recordOf r id) := by
  cases op with
  | hello id' session =>
    obtain rfl : id'.val = id := Option.some.inj named
    exact (register_effect wf _ _).answer
  | report id' session c final =>
    obtain rfl : id'.val = id := Option.some.inj named
    exact (report_effect r _ _ _ _ _ _ _).answer
  | telemetry id' session sequence values clock =>
    obtain rfl : id'.val = id := Option.some.inj named
    exact (telemetry_effect r _ _ _ _ _).answer
  | invalidDatagram => simp [RegistryOp.nodeId] at named

/-- A registry without records has a free slot. -/
theorem hasRoom_of_empty {r : Registry} (wf : r.WellFormed) (empty : ∀ id, recordOf r id = none) :
    r.hasRoom = true := by
  rw [Registry.hasRoom]
  cases free : firstFree nodeKey r.nodes with
  | some i => rfl
  | none =>
    have taken := firstFree_eq_none.mp free 0
    have used : (r.nodes 0).inUse = true := by
      by_contra unused
      exact taken (nodeKey_eq_none.mpr (Bool.eq_false_of_not_eq_true unused))
    have bound := wf.recordOf_slot used
    rw [empty] at bound
    cases bound

/-! ## The global counters -/

/-- The three global counters of datagrams. -/
structure Counts where
  total : Nat
  unknown : Nat
  invalid : Nat
  deriving DecidableEq

def Registry.counts (r : Registry) : Counts :=
  ⟨r.datagramsTotal, r.datagramsUnknownNode, r.datagramsInvalid⟩

theorem RegisterEffect.counts {r r' : Registry} {id session : Bytes} {code : Option ErrorCode}
    (effect : RegisterEffect r id session code r') : r'.counts = r.counts := by
  cases effect <;> rfl

theorem ReportEffect.counts {r r' : Registry} {id session : Bytes}
    {attempts sent omitted errors : Nat} {final : Bool} {code : Option ErrorCode}
    (effect : ReportEffect r id session attempts sent omitted errors final code r') :
    r'.counts = r.counts := by
  cases effect <;> rfl

theorem counts_logged (r : Registry) (alerts : List Alert) :
    (r.logged alerts).counts = r.counts := by
  obtain ⟨-, total, unknown, invalid, -⟩ := foldl_pushAlert alerts r.toRegistrySnapshot
  simp [Registry.counts, Registry.logged, total, unknown, invalid]

/-- A datagram of a bound session is counted as received, and as invalid when it is late. -/
theorem TelemetryEffect.counts {r r' : Registry} {clock : Clock} {id session : Bytes}
    {sequence : Nat} {values : List Measurement} {newAlerts : Option (List Alert)}
    (effect : TelemetryEffect r clock id session sequence values newAlerts r') {x : Record}
    (hx : Telep.recordOf r id = some x) (same : x.node.session = session) :
    r'.counts = ⟨r.datagramsTotal + 1, r.datagramsUnknownNode,
      r.datagramsInvalid + if x.Late sequence then 1 else 0⟩ := by
  cases effect with
  | unknown other => exact absurd same (other x hx)
  | late i found same' late =>
    obtain rfl := Option.some.inj ((recordOf_of_find found).symm.trans hx)
    rw [if_pos late]
    rfl
  | duplicate i found same' onTime seen =>
    obtain rfl := Option.some.inj ((recordOf_of_find found).symm.trans hx)
    rw [if_neg onTime]
    rfl
  | overtaken i found same' onTime new below =>
    obtain rfl := Option.some.inj ((recordOf_of_find found).symm.trans hx)
    rw [if_neg onTime]
    rfl
  | advanced i found same' onTime new above =>
    obtain rfl := Option.some.inj ((recordOf_of_find found).symm.trans hx)
    rw [if_neg onTime]
    exact counts_logged _ _

/-- A datagram of a session that is not bound is counted as unknown. -/
theorem TelemetryEffect.of_unbound {r r' : Registry} {clock : Clock} {id session : Bytes}
    {sequence : Nat} {values : List Measurement} {newAlerts : Option (List Alert)}
    (effect : TelemetryEffect r clock id session sequence values newAlerts r')
    (unbound : ∀ x, Telep.recordOf r id = some x → x.node.session ≠ session) :
    r' = r.countTotal.countUnknown := by
  cases effect with
  | unknown other => rfl
  | late i found same _ => exact absurd same (unbound _ (recordOf_of_find found))
  | duplicate i found same _ _ => exact absurd same (unbound _ (recordOf_of_find found))
  | overtaken i found same _ _ _ => exact absurd same (unbound _ (recordOf_of_find found))
  | advanced i found same _ _ _ => exact absurd same (unbound _ (recordOf_of_find found))

/-! ## What no call changes -/

/-- What the server reads when it starts. -/
def RegistrySnapshot.boot (r : RegistrySnapshot) : Int × Int := (r.startedAt, r.bootId)

theorem foldl_pushAlert_boot (alerts : List Alert) (r : RegistrySnapshot) :
    (alerts.foldl pushAlert r).boot = r.boot := by
  induction alerts generalizing r with
  | nil => rfl
  | cons alert alerts ih => exact ih (pushAlert r alert)

theorem RegisterEffect.boot {r r' : Registry} {id session : Bytes} {code : Option ErrorCode}
    (effect : RegisterEffect r id session code r') : r'.boot = r.boot := by
  cases effect <;> rfl

theorem ReportEffect.boot {r r' : Registry} {id session : Bytes}
    {attempts sent omitted errors : Nat} {final : Bool} {code : Option ErrorCode}
    (effect : ReportEffect r id session attempts sent omitted errors final code r') :
    r'.boot = r.boot := by
  cases effect <;> rfl

theorem TelemetryEffect.boot {r r' : Registry} {clock : Clock} {id session : Bytes}
    {sequence : Nat} {values : List Measurement} {newAlerts : Option (List Alert)}
    (effect : TelemetryEffect r clock id session sequence values newAlerts r') :
    r'.boot = r.boot := by
  cases effect with
  | advanced i found same onTime new above =>
    exact foldl_pushAlert_boot
      (raisedAlerts (r.record i).node.measurements id clock 1 values)
      r.countTotal.toRegistrySnapshot
  | _ => rfl

/-- No call changes what the server read when it started. -/
theorem boot_step {r : Registry} (wf : r.WellFormed) (op : RegistryOp) :
    (registryStep r op).2.boot = r.boot := by
  cases op with
  | hello id session => exact (register_effect wf _ _).boot
  | report id session c final => exact (report_effect r _ _ _ _ _ _ _).boot
  | telemetry id session sequence values clock => exact (telemetry_effect r _ _ _ _ _).boot
  | invalidDatagram => rfl

/-! A node, a session and a set of measurements for runs on fixed inputs. -/

def nodeN : NodeId := ⟨ascii "N", by decide⟩

def sessionS : Session := ⟨ascii "0123456789abcdef0123456789abcdef", by decide⟩

def normalValues : MeasurementSet :=
  ⟨[⟨ascii "TEMP", 20⟩, ⟨ascii "HUM", 50⟩, ⟨ascii "STATUS", 1⟩], by
    refine ⟨?_, by decide +kernel, by decide⟩
    intro m hm
    simp only [List.mem_cons, List.not_mem_nil, or_false] at hm
    rcases hm with rfl | rfl | rfl
    · exact .inr ⟨_, rfl, by decide +kernel, by decide +kernel⟩
    · exact .inr ⟨_, rfl, by decide +kernel, by decide +kernel⟩
    · exact .inl ⟨rfl, .inr rfl⟩⟩

end Telep
