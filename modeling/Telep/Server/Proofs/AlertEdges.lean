import Telep.Server.Proofs.Bounds
import Telep.Server.Proofs.Isolation

/-!
# One alert for each entry into an anomaly

An alert is raised by a datagram that is accepted in order, reports the variable as anomalous and
does not find it anomalous in the stored measurements, which are those of the datagram accepted
in order before it (`alerts_effect`). A datagram that omits the variable makes the node forget
that it was anomalous; `alertsSeparated_iff` says that nothing else raises an alert again.
-/

namespace Telep

/-! ## What a set of measurements says about a variable -/

/-- Whether the variable is anomalous in `values`; `none` when they omit it. -/
def reading (v : Bytes) (values : List Measurement) : Option Bool :=
  (values.find? fun m => m.name = v).map isAnomalousValue

theorem storedAnomalous_eq (stored : List Measurement) (v : Bytes) :
    storedAnomalous stored v = (reading v stored == some true) := by
  unfold storedAnomalous reading
  cases stored.find? fun m => m.name = v with
  | none => rfl
  | some m => cases h : isAnomalousValue m <;> simp [h]

theorem reading_eq_some {values : List Measurement} (distinct : (values.map Measurement.name).Nodup)
    {v : Bytes} {b : Bool} :
    reading v values = some b ↔ ∃ m ∈ values, m.name = v ∧ isAnomalousValue m = b := by
  unfold reading
  rw [Option.map_eq_some_iff]
  constructor
  · rintro ⟨m, found, rfl⟩
    exact ⟨m, List.mem_of_find?_eq_some found, by simpa using List.find?_some found, rfl⟩
  · rintro ⟨m, member, rfl, rfl⟩
    cases found : values.find? fun n => n.name = m.name with
    | none => simpa using List.find?_eq_none.mp found m member
    | some n =>
      have same : n.name = m.name := by simpa using List.find?_some found
      obtain rfl := List.inj_on_of_nodup_map distinct (List.mem_of_find?_eq_some found) member same
      exact ⟨n, rfl, rfl⟩

/-! ## The alerts of one datagram -/

/-- The type of the alerts of a variable. -/
def alertTypeOf (v : Bytes) : Bytes :=
  snprintf (maxVarName + 8)
    (v ++ ascii "_" ++ if v = ascii "STATUS" then ascii "FAIL" else ascii "HIGH")

theorem alertTypeOf_inj {v w : Bytes} (hv : v ∈ variableNames) (hw : w ∈ variableNames)
    (same : alertTypeOf v = alertTypeOf w) : v = w := by
  have all : ∀ v ∈ variableNames, ∀ w ∈ variableNames, alertTypeOf v = alertTypeOf w → v = w := by
    decide
  exact all v hv w hw same

/-- The alerts for one node and variable. -/
def alertsFor (id v : Bytes) (alerts : List Alert) : List Alert :=
  alerts.filter fun a => a.nodeId = id ∧ a.alertType = alertTypeOf v

/-- Whether a measurement raises an alert over the stored ones. -/
def raises (stored : List Measurement) (m : Measurement) : Bool :=
  isAnomalousValue m && !storedAnomalous stored m.name

theorem raisedAlerts_keys (stored : List Measurement) (id : Bytes) (clock : Clock) (readings : Nat)
    (values : List Measurement) :
    (raisedAlerts stored id clock readings values).map (fun a => (a.nodeId, a.alertType)) =
      (values.filter (raises stored)).map fun m => (id, alertTypeOf m.name) := by
  induction values generalizing readings with
  | nil => rfl
  | cons current values ih =>
    rw [raisedAlerts, List.filter_cons, raises]
    split
    · rw [List.map_cons, List.map_cons, ih]
      refine congrArg (· :: _) ?_
      unfold alertTypeOf
      split
      · next status => rw [status]; rfl
      · rfl
    · exact ih readings

theorem alertsFor_length (id v : Bytes) (stored : List Measurement) (clock : Clock)
    (readings : Nat) (values : List Measurement) :
    (alertsFor id v (raisedAlerts stored id clock readings values)).length =
      values.countP fun m => raises stored m ∧ alertTypeOf m.name = alertTypeOf v := by
  have keys := congrArg (List.countP fun k => k = (id, alertTypeOf v))
    (raisedAlerts_keys stored id clock readings values)
  rw [List.countP_map, List.countP_map, List.countP_filter] at keys
  rw [alertsFor, ← List.countP_eq_length_filter]
  refine Eq.trans (List.countP_congr fun a _ => ?_) (keys.trans (List.countP_congr fun m _ => ?_))
  · simp
  · simp [and_comm]

/-- The measurements of a datagram raise one alert for a variable that they report as anomalous
and that is not so in the stored ones, and no other. -/
theorem alertsFor_raised {v : Bytes} (known : v ∈ variableNames) (id : Bytes)
    (stored : List Measurement) (clock : Clock) (readings : Nat) (values : MeasurementSet) :
    (alertsFor id v (raisedAlerts stored id clock readings values.val)).length =
      if reading v values.val = some true ∧ reading v stored ≠ some true then 1 else 0 := by
  have valid := values.property
  rw [alertsFor_length]
  have only : ∀ m ∈ values.val, (raises stored m ∧ alertTypeOf m.name = alertTypeOf v ↔
      m.name = v ∧ isAnomalousValue m = true ∧ reading v stored ≠ some true) := by
    intro m hm
    rw [raises, storedAnomalous_eq]
    constructor
    · rintro ⟨raised, same⟩
      obtain rfl := alertTypeOf_inj (valid.valid m hm).name_mem known same
      simpa using raised
    · rintro ⟨rfl, raised⟩
      simpa using raised
  rw [List.countP_congr (q := fun m => decide (m.name = v ∧ isAnomalousValue m = true ∧
    reading v stored ≠ some true)) fun m hm => by simpa using only m hm]
  have few : values.val.countP (fun m => decide (m.name = v)) ≤ 1 := by
    have := List.nodup_iff_count_le_one.mp valid.distinct v
    rw [List.count, List.countP_map] at this
    exact (List.countP_congr fun m _ => by simp).trans_le this
  split
  · next raised =>
    obtain ⟨m, hm, name, anomalous⟩ := (reading_eq_some valid.distinct).mp raised.1
    refine Nat.le_antisymm ((List.countP_mono_left fun m _ h => ?_).trans few) ?_
    · simpa using (of_decide_eq_true h).1
    · exact List.countP_pos_iff.mpr ⟨m, hm, by simpa using ⟨name, anomalous, raised.2⟩⟩
  · next quiet =>
    rw [List.countP_eq_zero]
    intro m hm h
    obtain ⟨name, anomalous, stored⟩ := of_decide_eq_true h
    exact quiet ⟨(reading_eq_some valid.distinct).mpr ⟨m, hm, name, anomalous⟩, stored⟩

/-! ## One call -/

/-- The measurements of a datagram of `id` that a call accepts in order: in time, new, and not
below the highest sequence so far. -/
def orderedBy (id : Bytes) (r : Registry) : RegistryOp → List MeasurementSet
  | .telemetry id' session sequence values _ =>
      if id'.val = id ∧ ∃ x ∈ recordOf r id, x.node.session = session.val ∧
          ¬ x.Late sequence.val ∧ x.row.test sequence.val = false ∧
          ¬ (sequence.val : Int) < x.node.lastSequence then [values]
      else []
  | _ => []

theorem orderedBy_length (id : Bytes) (r : Registry) (op : RegistryOp) :
    (orderedBy id r op).length ≤ 1 := by
  cases op with
  | telemetry id' session sequence values clock =>
    rw [orderedBy]
    split <;> simp
  | _ => exact Nat.zero_le _

/-- The stored measurements of a node, none before its `HELLO`. -/
def storedOf (r : Registry) (id : Bytes) : List Measurement :=
  (recordOf r id).elim [] fun x => x.node.measurements

/-- A call of no datagram in order raises nothing for `id` and keeps its measurements; a datagram
in order raises the alerts of its measurements over the stored ones and replaces them. -/
inductive OrderEffect (id : Bytes) (r : Registry) (op : RegistryOp) : Prop
  | quiet (none : orderedBy id r op = [])
      (silent : ∀ v, alertsFor id v (registryStep r op).1.alerts = [])
      (kept : storedOf (registryStep r op).2 id = storedOf r id)
  | ordered (values : MeasurementSet) (clock : Clock) (some : orderedBy id r op = [values])
      (raised : (registryStep r op).1.alerts =
        raisedAlerts (storedOf r id) id clock 1 values.val)
      (replaced : storedOf (registryStep r op).2 id = values.val)

/-- A call that names another node raises nothing for `id`. -/
theorem alertsFor_other {r : Registry} {op : RegistryOp} {id : Bytes}
    (other : op.nodeId ≠ some id) (v : Bytes) :
    alertsFor id v (registryStep r op).1.alerts = [] :=
  List.filter_eq_nil_iff.mpr fun _ ha h =>
    other ((alerts_nodeId r op ha).trans (congrArg some (of_decide_eq_true h).1))

theorem order_effect {r : Registry} (wf : r.WellFormed) (op : RegistryOp) (id : Bytes) :
    OrderEffect id r op := by
  cases op with
  | hello id' session =>
    refine .quiet rfl (fun v => rfl) ?_
    rw [storedOf, storedOf, recordOf_step wf]
    split
    · cases recordOf r id with
      | none => rw [stepRecord]; split <;> rfl
      | some x => rfl
    · rfl
  | report id' session c final =>
    refine .quiet rfl (fun v => rfl) ?_
    rw [storedOf, storedOf, recordOf_step wf]
    split
    · cases recordOf r id with
      | none => rfl
      | some x => rw [stepRecord]; split <;> rfl
    · rfl
  | telemetry id' session sequence values clock =>
    by_cases named : id'.val = id
    · subst named
      have name : (RegistryOp.telemetry id' session sequence values clock).nodeId =
          some id'.val := rfl
      have answer := answer_step wf (.telemetry id' session sequence values clock) name
      have state := recordOf_step_named wf name
      cases hx : recordOf r id'.val with
      | none =>
        rw [hx] at answer state
        exact .quiet (by simp [orderedBy, hx]) (fun v => by rw [answer]; rfl)
          (by rw [storedOf, state, storedOf, hx]; rfl)
      | some x =>
        rw [hx, answerRecord] at answer
        rw [hx, stepRecord] at state
        by_cases bound : x.node.session = session.val
        · rw [if_pos bound] at answer state
          by_cases late : x.Late sequence.val
          · rw [Record.recorded, if_pos late] at answer
            rw [telemetry_late _ _ late] at state
            exact .quiet (by simp [orderedBy, hx, late]) (fun v => by rw [answer]; rfl)
              (by rw [storedOf, state, storedOf, hx])
          · rw [Record.recorded, if_neg late] at answer
            cases seen : x.row.test sequence.val with
            | true =>
              rw [if_pos (.inl seen)] at answer
              rw [telemetry_duplicate _ _ late seen] at state
              exact .quiet (by simp [orderedBy, hx, seen]) (fun v => by rw [answer]; rfl)
                (by rw [storedOf, state, storedOf, hx]; rfl)
            | false =>
              by_cases below : (sequence.val : Int) < x.node.lastSequence
              · rw [if_pos (.inr below)] at answer
                rw [telemetry_overtaken _ _ late seen below] at state
                exact .quiet (by simp [orderedBy, hx, below]) (fun v => by rw [answer]; rfl)
                  (by rw [storedOf, state, storedOf, hx]; rfl)
              · rw [if_neg (by simp [seen, below])] at answer
                rw [telemetry_advanced _ _ late seen below] at state
                refine .ordered values clock ?_ ?_ (by rw [storedOf, state]; rfl)
                · exact if_pos ⟨rfl, x, hx, bound, late, seen, below⟩
                · rw [answer, storedOf, hx]
                  rfl
        · rw [if_neg bound] at answer state
          exact .quiet (by simp [orderedBy, hx, bound]) (fun v => by rw [answer]; rfl)
            (by rw [storedOf, state, storedOf, hx])
    · have other : (RegistryOp.telemetry id' session sequence values clock).nodeId ≠ some id :=
        fun h => named (Option.some.inj h)
      refine .quiet (by simp [orderedBy, named]) (alertsFor_other other) ?_
      rw [storedOf, storedOf, recordOf_step_other wf other]
  | invalidDatagram => exact .quiet rfl (fun v => rfl) rfl

/-! ## Runs -/

section Runs

variable (startedAt bootId : Int) (id v : Bytes)

/-- The registry after the calls `ops`. -/
def registryAfter (ops : List RegistryOp) : Registry :=
  (registryMachine startedAt bootId).exec (registryInit startedAt bootId) ops

/-- The alerts for one node and variable that the calls `mid` raise after the calls `before`. -/
def alertsDuring (before mid : List RegistryOp) : List Alert :=
  (registryMachine startedAt bootId).collect
    (fun r op => alertsFor id v (registryStep r op).1.alerts)
    (registryAfter startedAt bootId before) mid

/-- The measurements of the datagrams of `id` that the calls `mid` accept in order after the calls
`before`. -/
def orderedDuring (before mid : List RegistryOp) : List MeasurementSet :=
  (registryMachine startedAt bootId).collect (orderedBy id) (registryAfter startedAt bootId before)
    mid

/-- What the last datagram that reports the variable says. -/
def lastReading (log : List MeasurementSet) : Option Bool :=
  log.reverse.findSome? fun values => reading v values.val

/-- One alert on entering the anomaly: a datagram accepted in order that reports the variable as
anomalous raises one unless the last report was anomalous too, a call raises one alert at most, and
between two consecutive alerts some datagram accepted in order reports the variable with a value
that is not anomalous. -/
structure AlertsSeparated (ops : List RegistryOp) : Prop where
  entered : ∀ before op after values, ops = before ++ op :: after →
    orderedDuring startedAt bootId id before [op] = [values] → reading v values.val = some true →
    lastReading v (orderedDuring startedAt bootId id [] before) ≠ some true →
    alertsDuring startedAt bootId id v before [op] ≠ []
  single : ∀ before op after, ops = before ++ op :: after →
    (alertsDuring startedAt bootId id v before [op]).length ≤ 1
  separated : ∀ before first mid second after, ops = before ++ first :: (mid ++ second :: after) →
    alertsDuring startedAt bootId id v before [first] ≠ [] →
    alertsDuring startedAt bootId id v (before ++ [first]) mid = [] →
    alertsDuring startedAt bootId id v (before ++ first :: mid) [second] ≠ [] →
    ∃ values ∈ orderedDuring startedAt bootId id (before ++ [first]) mid,
      ∃ m ∈ values.val, m.name = v ∧ isAnomalousValue m = false

/-- Two anomalous reports of the variable with datagrams between them that all omit it. -/
def ForgetsAnomaly (log : List MeasurementSet) : Prop :=
  ∃ before first silent second after, log = before ++ first :: (silent ++ second :: after) ∧
    reading v first.val = some true ∧ silent ≠ [] ∧
    (∀ values ∈ silent, reading v values.val = none) ∧ reading v second.val = some true

end Runs

section

variable {startedAt bootId : Int} {id v : Bytes} {before mid : List RegistryOp}

theorem registryAfter_wellFormed (startedAt bootId : Int) (ops : List RegistryOp) :
    (registryAfter startedAt bootId ops).WellFormed := wellFormed_reachable ⟨ops, rfl⟩

theorem registryAfter_append (ops more : List RegistryOp) :
    (registryMachine startedAt bootId).exec (registryAfter startedAt bootId ops) more =
      registryAfter startedAt bootId (ops ++ more) :=
  ((registryMachine startedAt bootId).exec_append _ ops more).symm

theorem alertsDuring_append (more : List RegistryOp) :
    alertsDuring startedAt bootId id v before (mid ++ more) =
      alertsDuring startedAt bootId id v before mid ++
        alertsDuring startedAt bootId id v (before ++ mid) more := by
  rw [alertsDuring, Machine.collect_append, registryAfter_append]
  rfl

theorem orderedDuring_append (more : List RegistryOp) :
    orderedDuring startedAt bootId id before (mid ++ more) =
      orderedDuring startedAt bootId id before mid ++
        orderedDuring startedAt bootId id (before ++ mid) more := by
  rw [orderedDuring, Machine.collect_append, registryAfter_append]
  rfl

theorem alertsDuring_singleton (op : RegistryOp) :
    alertsDuring startedAt bootId id v before [op] =
      alertsFor id v (registryStep (registryAfter startedAt bootId before) op).1.alerts :=
  List.append_nil _

theorem orderedDuring_singleton (op : RegistryOp) :
    orderedDuring startedAt bootId id before [op] =
      orderedBy id (registryAfter startedAt bootId before) op :=
  List.append_nil _

/-- The stored measurements are those of the last datagram accepted in order. -/
theorem storedOf_after (mid : List RegistryOp) :
    storedOf (registryAfter startedAt bootId (before ++ mid)) id =
      (orderedDuring startedAt bootId id before mid).getLast?.elim
        (storedOf (registryAfter startedAt bootId before) id) Subtype.val := by
  induction mid using List.reverseRecOn with
  | nil => rw [List.append_nil]; rfl
  | append_singleton mid op ih =>
    have effect := order_effect (registryAfter_wellFormed startedAt bootId (before ++ mid)) op id
    rw [orderedDuring_append, orderedDuring_singleton, ← List.append_assoc,
      show registryAfter startedAt bootId (before ++ mid ++ [op]) =
        (registryStep (registryAfter startedAt bootId (before ++ mid)) op).2 from
          (registryMachine startedAt bootId).exec_concat _ _ _]
    cases effect with
    | quiet none silent kept => rw [kept, none, List.append_nil, ih]
    | ordered values clock some raised replaced =>
      rw [some, replaced, List.getLast?_concat]
      rfl

/-- A call raises an alert exactly when it brings, in order, an anomalous value of a variable that
is not stored as anomalous. -/
theorem alertsDuring_ne_nil (known : v ∈ variableNames) {op : RegistryOp} :
    alertsDuring startedAt bootId id v before [op] ≠ [] ↔
      ∃ values, orderedDuring startedAt bootId id before [op] = [values] ∧
        reading v values.val = some true ∧
        reading v (storedOf (registryAfter startedAt bootId before) id) ≠ some true := by
  rw [alertsDuring_singleton, orderedDuring_singleton]
  cases order_effect (registryAfter_wellFormed startedAt bootId before) op id with
  | quiet none silent kept => simp [none, silent v]
  | ordered values clock some raised replaced =>
    rw [some, raised, ← List.length_pos_iff, alertsFor_raised known]
    constructor
    · intro pos
      by_contra quiet
      rw [if_neg fun h => quiet ⟨values, rfl, h⟩] at pos
      exact absurd pos (Nat.lt_irrefl 0)
    · rintro ⟨values', same, h⟩
      obtain rfl := List.singleton_injective same
      rw [if_pos h]
      exact Nat.zero_lt_one

/-- The first anomalous report after another one, or the first of all, raises an alert. -/
theorem alertsDuring_entered (known : v ∈ variableNames) {op : RegistryOp} {values : MeasurementSet}
    (one : orderedDuring startedAt bootId id before [op] = [values])
    (anomalous : reading v values.val = some true)
    (entered : lastReading v (orderedDuring startedAt bootId id [] before) ≠ some true) :
    alertsDuring startedAt bootId id v before [op] ≠ [] := by
  refine (alertsDuring_ne_nil known).mpr ⟨values, one, anomalous, fun stored => entered ?_⟩
  have last : storedOf (registryAfter startedAt bootId ([] ++ before)) id = _ :=
    storedOf_after before
  rw [List.nil_append] at last
  rw [last] at stored
  cases newest : (orderedDuring startedAt bootId id [] before).getLast? with
  | none =>
    rw [newest, Option.elim, storedOf, registryAfter, Machine.exec_nil, recordOf_init] at stored
    cases stored
  | some values' =>
    obtain ⟨log, same⟩ := List.getLast?_eq_some_iff.mp newest
    rw [newest, Option.elim] at stored
    rw [lastReading, same, List.reverse_concat, List.findSome?_cons, stored]

theorem alertsDuring_length (known : v ∈ variableNames) (op : RegistryOp) :
    (alertsDuring startedAt bootId id v before [op]).length ≤ 1 := by
  rw [alertsDuring_singleton]
  cases order_effect (registryAfter_wellFormed startedAt bootId before) op id with
  | quiet none silent kept => simp [silent v]
  | ordered values clock some raised replaced =>
    rw [raised, alertsFor_raised known]
    split <;> simp

/-- Datagrams that do not report the variable as anomalous raise nothing. -/
theorem alertsDuring_eq_nil (known : v ∈ variableNames)
    (normal : ∀ values ∈ orderedDuring startedAt bootId id before mid,
      reading v values.val ≠ some true) : alertsDuring startedAt bootId id v before mid = [] := by
  induction mid using List.reverseRecOn with
  | nil => rfl
  | append_singleton mid op ih =>
    rw [orderedDuring_append] at normal
    rw [alertsDuring_append, ih fun values h => normal values (List.mem_append_left _ h),
      List.nil_append]
    by_contra raised
    obtain ⟨values, some, anomalous, -⟩ := (alertsDuring_ne_nil known).mp raised
    exact normal values (List.mem_append_right _ (by simp [some])) anomalous

/-- While a variable is stored as anomalous, its last alert was followed by anomalous reports
only: induction on the run. -/
theorem last_alert (known : v ∈ variableNames) (ops : List RegistryOp)
    (anomalous : reading v (storedOf (registryAfter startedAt bootId ops) id) = some true) :
    ∃ before first mid, ops = before ++ first :: mid ∧
      alertsDuring startedAt bootId id v before [first] ≠ [] ∧
      alertsDuring startedAt bootId id v (before ++ [first]) mid = [] ∧
      ∀ values ∈ orderedDuring startedAt bootId id (before ++ [first]) mid,
        reading v values.val = some true := by
  induction ops using List.reverseRecOn with
  | nil =>
    rw [storedOf, registryAfter, Machine.exec_nil, recordOf_init] at anomalous
    cases anomalous
  | append_singleton ops op ih =>
    rw [storedOf_after, orderedDuring_singleton] at anomalous
    have extend (now : alertsDuring startedAt bootId id v ops [op] = [])
        (reports : ∀ values ∈ orderedDuring startedAt bootId id ops [op],
          reading v values.val = some true)
        (stored : reading v (storedOf (registryAfter startedAt bootId ops) id) = some true) :
        ∃ before first mid, ops ++ [op] = before ++ first :: mid ∧
          alertsDuring startedAt bootId id v before [first] ≠ [] ∧
          alertsDuring startedAt bootId id v (before ++ [first]) mid = [] ∧
          ∀ values ∈ orderedDuring startedAt bootId id (before ++ [first]) mid,
            reading v values.val = some true := by
      obtain ⟨before, first, mid, rfl, raised, quiet, all⟩ := ih stored
      have same : before ++ [first] ++ mid = before ++ first :: mid := by simp
      refine ⟨before, first, mid ++ [op], by simp, raised, ?_, ?_⟩
      · rw [alertsDuring_append, quiet, same, now]
        rfl
      · rw [orderedDuring_append, same]
        intro values h
        rcases List.mem_append.mp h with h | h
        · exact all values h
        · exact reports values h
    by_cases now : alertsDuring startedAt bootId id v ops [op] = []
    · cases some : orderedBy id (registryAfter startedAt bootId ops) op with
      | nil =>
        rw [some] at anomalous
        exact extend now (by simp [orderedDuring_singleton, some]) anomalous
      | cons values rest =>
        obtain rfl : rest = [] := by
          have := orderedBy_length id (registryAfter startedAt bootId ops) op
          rw [some, List.length_cons] at this
          exact List.eq_nil_of_length_eq_zero (by omega)
        rw [some] at anomalous
        refine extend now (by simpa [orderedDuring_singleton, some] using anomalous) ?_
        by_contra stored
        exact (alertsDuring_ne_nil known).mpr ⟨values, by rw [orderedDuring_singleton, some],
          anomalous, stored⟩ now
    · exact ⟨ops, op, [], rfl, now, rfl, by simp [orderedDuring, Machine.collect]⟩

/-- Reports without a normal value that start anomalous and do not end so have an anomalous one
followed by omissions only. -/
theorem forgotten {first : MeasurementSet} (anomalous : reading v first.val = some true)
    (log : List MeasurementSet) (abnormal : ∀ values ∈ log, reading v values.val ≠ some false)
    (ends : reading v (log.getLast?.getD first).val ≠ some true) :
    ∃ before last silent, first :: log = before ++ last :: silent ∧
      reading v last.val = some true ∧ silent ≠ [] ∧
      ∀ values ∈ silent, reading v values.val = none := by
  induction log using List.reverseRecOn with
  | nil => exact absurd anomalous ends
  | append_singleton log values ih =>
    rw [List.getLast?_concat, Option.getD_some] at ends
    have omits : reading v values.val = none := by
      have := abnormal values (by simp)
      cases h : reading v values.val with
      | none => rfl
      | some b => cases b <;> simp_all
    by_cases still : reading v (log.getLast?.getD first).val = some true
    · cases hl : log.getLast? with
      | none =>
        obtain rfl := List.getLast?_eq_none_iff.mp hl
        exact ⟨[], first, [values], rfl, anomalous, by simp, by simpa using omits⟩
      | some last =>
        obtain ⟨init, rfl⟩ := List.getLast?_eq_some_iff.mp hl
        rw [hl, Option.getD_some] at still
        exact ⟨first :: init, last, [values], by simp, still, by simp, by simpa using omits⟩
    · obtain ⟨before, last, silent, same, h, -, silence⟩ :=
        ih (fun values h => abnormal values (List.mem_append_left _ h)) still
      refine ⟨before, last, silent ++ [values], ?_, h, by simp, fun other member => ?_⟩
      · rw [← List.cons_append, same, List.append_assoc]
        rfl
      · rcases List.mem_append.mp member with old | new
        · exact silence other old
        · rw [List.mem_singleton.mp new, omits]

/-- The datagrams accepted in order up to an alert, the alert's own datagram included. -/
theorem orderedDuring_split {first second : RegistryOp} {values values' : MeasurementSet}
    {mid after : List RegistryOp}
    (one : orderedDuring startedAt bootId id before [first] = [values])
    (two : orderedDuring startedAt bootId id (before ++ first :: mid) [second] = [values']) :
    orderedDuring startedAt bootId id [] (before ++ first :: (mid ++ second :: after)) =
      orderedDuring startedAt bootId id [] before ++ values ::
        (orderedDuring startedAt bootId id (before ++ [first]) mid ++ values' ::
          orderedDuring startedAt bootId id (before ++ first :: (mid ++ [second])) after) := by
  rw [orderedDuring_append, ← List.singleton_append (l := mid ++ _), orderedDuring_append,
    orderedDuring_append, ← List.singleton_append (l := after), orderedDuring_append]
  simp only [List.nil_append, List.append_assoc, List.cons_append] at *
  rw [one, two]
  rfl

/-- What is stored after a datagram in order and some more. -/
theorem storedOf_after_ordered {first : RegistryOp} {values : MeasurementSet}
    (one : orderedDuring startedAt bootId id before [first] = [values]) (mid : List RegistryOp) :
    storedOf (registryAfter startedAt bootId (before ++ first :: mid)) id =
      ((orderedDuring startedAt bootId id (before ++ [first]) mid).getLast?.getD values).val := by
  have now : storedOf (registryAfter startedAt bootId (before ++ [first])) id = _ :=
    storedOf_after [first]
  rw [one] at now
  have later : storedOf (registryAfter startedAt bootId (before ++ [first] ++ mid)) id = _ :=
    storedOf_after mid
  rw [now, List.append_assoc, List.singleton_append] at later
  rw [later]
  cases (orderedDuring startedAt bootId id (before ++ [first]) mid).getLast? <;> rfl

theorem separated_of_remembers (known : v ∈ variableNames) {ops : List RegistryOp}
    (remembers : ¬ ForgetsAnomaly v (orderedDuring startedAt bootId id [] ops)) :
    AlertsSeparated startedAt bootId id v ops where
  entered before op after values _ one anomalous := alertsDuring_entered known one anomalous
  single before op after _ := alertsDuring_length known op
  separated := by
    rintro before first mid second after rfl raised quiet raised'
    obtain ⟨values, one, anomalous, -⟩ := (alertsDuring_ne_nil known).mp raised
    obtain ⟨values', two, anomalous', forgot⟩ := (alertsDuring_ne_nil known).mp raised'
    rw [storedOf_after_ordered one] at forgot
    by_contra none
    obtain ⟨before', last, silent, same, h, nonempty, silence⟩ :=
      forgotten anomalous (orderedDuring startedAt bootId id (before ++ [first]) mid)
        (fun other member normal => none ⟨other, member,
          (reading_eq_some other.property.distinct).mp normal⟩) forgot
    refine remembers ⟨orderedDuring startedAt bootId id [] before ++ before', last, silent, values',
      orderedDuring startedAt bootId id (before ++ first :: (mid ++ [second])) after, ?_, h,
      nonempty, silence, anomalous'⟩
    rw [orderedDuring_split one two, ← List.cons_append, same]
    simp

theorem remembers_of_separated (known : v ∈ variableNames) {ops : List RegistryOp}
    (separated : AlertsSeparated startedAt bootId id v ops) :
    ¬ ForgetsAnomaly v (orderedDuring startedAt bootId id [] ops) := by
  rintro ⟨L₁, first, silent, second, L₂, log, anomalous, nonempty, silence, anomalous'⟩
  have one := orderedBy_length id
  obtain ⟨p, op, rest, rfl, -, opened, log'⟩ := Machine.collect_split _ one log
  obtain ⟨q, op', rest', rfl, during, closed, -⟩ := Machine.collect_split _ one log'
  have opened : orderedDuring startedAt bootId id p [op] = [first] :=
    (orderedDuring_singleton op).trans opened
  rw [registryAfter, Machine.exec_nil] at during closed
  have during : orderedDuring startedAt bootId id (p ++ [op]) q = silent := during
  have closed : orderedDuring startedAt bootId id (p ++ op :: q) [op'] = [second] := by
    rw [orderedDuring_singleton, ← closed, registryAfter, ← Machine.exec_append,
      List.append_assoc, List.singleton_append]
  -- the anomaly that is forgotten has its alert, after which every report was anomalous
  have stored : reading v (storedOf (registryAfter startedAt bootId (p ++ [op])) id) =
      some true := by
    rw [storedOf_after_ordered opened]
    exact anomalous
  obtain ⟨before, first', mid, same, raised, quiet, all⟩ := last_alert known _ stored
  have whole : p ++ op :: (q ++ op' :: rest') = before ++ first' :: (mid ++ q ++ op' :: rest') := by
    have := congrArg (· ++ (q ++ op' :: rest')) same
    simpa using this
  have prefix' : p ++ [op] = before ++ [first'] ++ mid := by simp [same]
  have until' : before ++ first' :: (mid ++ q) = p ++ op :: q := by
    have := congrArg (· ++ q) same
    simpa using this.symm
  obtain ⟨values, member, m, hm, name, normal⟩ := separated.separated before first' (mid ++ q) op'
    rest' whole raised
    (by
      rw [alertsDuring_append, quiet, List.nil_append, ← prefix']
      refine alertsDuring_eq_nil known fun values member => ?_
      rw [during] at member
      rw [silence values member]
      simp)
    (by
      rw [until']
      refine (alertsDuring_ne_nil known).mpr ⟨second, closed, anomalous', ?_⟩
      rw [storedOf_after_ordered opened, during]
      cases hl : silent.getLast? with
      | none => exact absurd (List.getLast?_eq_none_iff.mp hl) nonempty
      | some last =>
        rw [Option.getD_some, silence last (List.mem_of_getLast? hl)]
        simp)
  have normal := (reading_eq_some values.property.distinct).mpr ⟨m, hm, name, normal⟩
  rw [orderedDuring_append, ← prefix', during] at member
  rcases List.mem_append.mp member with h | h
  · rw [all values h] at normal
    cases normal
  · rw [silence values h] at normal
    cases normal

end

/-- In every run, the alerts for a node and a variable are one for each entry into the anomaly,
separated by normal values, exactly when no two anomalous reports of the variable, accepted in
order, have between them datagrams accepted in order that all omit it. -/
theorem alertsSeparated_iff (startedAt bootId : Int) (ops : List RegistryOp) (id v : Bytes)
    (known : v ∈ variableNames) :
    AlertsSeparated startedAt bootId id v ops ↔
      ¬ ForgetsAnomaly v (orderedDuring startedAt bootId id [] ops) :=
  ⟨remembers_of_separated known, separated_of_remembers known⟩

/-- Two values in their ranges and a status. -/
theorem validMeasurements_pair {v w : Bytes} {x y : ℚ} {range range' : ℚ × ℚ}
    (known : valueRange v = some range) (inside : range.1 ≤ x ∧ x ≤ range.2)
    (known' : valueRange w = some range') (inside' : range'.1 ≤ y ∧ y ≤ range'.2)
    (distinct : [v, w, ascii "STATUS"].Nodup) :
    ValidMeasurements [⟨v, x⟩, ⟨w, y⟩, ⟨ascii "STATUS", 1⟩] := by
  refine ⟨?_, distinct, Nat.le_refl 3⟩
  intro m hm
  simp only [List.mem_cons, List.not_mem_nil, or_false] at hm
  rcases hm with rfl | rfl | rfl
  · exact .inr ⟨range, known, inside⟩
  · exact .inr ⟨range', known', inside'⟩
  · exact .inl ⟨rfl, .inr rfl⟩

theorem hotValues_valid :
    ValidMeasurements [⟨ascii "TEMP", 50⟩, ⟨ascii "HUM", 50⟩, ⟨ascii "STATUS", 1⟩] :=
  validMeasurements_pair rfl (by decide +kernel) rfl (by decide +kernel) (by decide +kernel)

theorem otherValues_valid :
    ValidMeasurements [⟨ascii "HUM", 50⟩, ⟨ascii "POWER", 100⟩, ⟨ascii "STATUS", 1⟩] :=
  validMeasurements_pair rfl (by decide +kernel) rfl (by decide +kernel) (by decide +kernel)

/-- `TEMP=50;HUM=50;STATUS=OK` -/
def hotValues : MeasurementSet :=
  ⟨[⟨ascii "TEMP", 50⟩, ⟨ascii "HUM", 50⟩, ⟨ascii "STATUS", 1⟩], hotValues_valid⟩

/-- `HUM=50;POWER=100;STATUS=OK` -/
def otherValues : MeasurementSet :=
  ⟨[⟨ascii "HUM", 50⟩, ⟨ascii "POWER", 100⟩, ⟨ascii "STATUS", 1⟩], otherValues_valid⟩

/-- A datagram without the temperature between two that report 50 degrees. -/
def forgetfulRun : List RegistryOp :=
  [.hello nodeN sessionS, .telemetry nodeN sessionS 0 hotValues fun _ => 5,
    .telemetry nodeN sessionS 1 otherValues fun _ => 6,
    .telemetry nodeN sessionS 2 hotValues fun _ => 7]

theorem alertsSeparated_iff_sample :
    AlertsSeparated 0 1 nodeN.val (ascii "TEMP") forgetfulRun ↔
      ¬ ForgetsAnomaly (ascii "TEMP") (orderedDuring 0 1 nodeN.val [] forgetfulRun) :=
  alertsSeparated_iff 0 1 forgetfulRun nodeN.val (ascii "TEMP") (by decide)

/-- The temperature never leaves the anomaly, and the alert is raised twice. -/
theorem forgotten_anomaly_alerts :
    ¬ AlertsSeparated 0 1 nodeN.val (ascii "TEMP") forgetfulRun := by
  intro h
  obtain ⟨values, member, m, hm, name, -⟩ := h.separated [.hello nodeN sessionS] _
    [.telemetry nodeN sessionS 1 otherValues fun _ => 6] _ [] rfl (by decide +kernel)
    (by decide +kernel) (by decide +kernel)
  have silent : ∀ values ∈ orderedDuring 0 1 nodeN.val ([.hello nodeN sessionS] ++
      [.telemetry nodeN sessionS 0 hotValues fun _ => 5])
      [.telemetry nodeN sessionS 1 otherValues fun _ => 6],
      ∀ m ∈ values.val, m.name ≠ ascii "TEMP" := by
    decide +kernel
  exact silent values member m hm name

end Telep
