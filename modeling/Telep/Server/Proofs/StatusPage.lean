import Telep.Server.Proofs.JsonBodies

/-!
# The status page

In every reachable state the page fits in its buffer, so it is its texts one after another
(`buildHtml_eq`), and its alerts are those of the alert log (`alert_lists`).
-/

namespace Telep

/-- Texts that fit together are not cut. -/
theorem appendAll_eq {bodySize : Nat} {body : Bytes} {texts : List Bytes}
    (fits : body.length + texts.flatten.length < bodySize) :
    appendAll bodySize body texts = body ++ texts.flatten := by
  induction texts generalizing body with
  | nil => simp [appendAll]
  | cons text texts ih =>
    rw [List.flatten_cons, List.length_append] at fits
    have first : append bodySize body text = body ++ text := append_eq (by omega)
    have rest : appendAll bodySize (body ++ text) texts = body ++ text ++ texts.flatten :=
      ih (by rw [List.length_append]; omega)
    change appendAll bodySize (append bodySize body text) texts = _
    rw [first, rest, List.flatten_cons, List.append_assoc]

theorem length_flatten_le {texts : List Bytes} {n : Nat} (each : ∀ text ∈ texts, text.length ≤ n) :
    texts.flatten.length ≤ texts.length * n := by
  rw [List.length_flatten]
  refine (List.sum_le_card_nsmul _ n fun k hk => ?_).trans ?_
  · obtain ⟨text, member, rfl⟩ := List.mem_map.mp hk
    exact each text member
  · rw [List.length_map, smul_eq_mul]

/-! ## The pairs on the page -/

/-- The fields of a text of pairs. -/
theorem splitFields_eq {parts : List Bytes}
    (pairs : ∀ part ∈ parts, equalsSign ∈ part ∧ pairSeparator ∉ part) :
    splitFields (List.intercalate (ascii ";") parts) =
      parts.map fun part => (pairName part, pairValueText part) := by
  have all : tokens pairSeparator (List.intercalate (ascii ";") parts) = parts := by
    refine tokens_intercalate fun part member => ⟨?_, (pairs part member).2⟩
    rintro rfl
    exact absurd (pairs [] member).1 List.not_mem_nil
  rw [splitFields, all]
  clear all
  induction parts with
  | nil => rfl
  | cons part parts ih =>
    obtain ⟨⟨sign, -⟩, rest⟩ := List.forall_mem_cons.mp pairs
    have split : splitField part = some (pairName part, pairValueText part) := if_pos sign
    rw [List.filterMap_cons, split, ih rest]
    rfl

theorem printed_chars (m : Measurement) : ∀ c ∈ m.printed, c ≠ pairSeparator := by
  unfold Measurement.printed
  split
  · split <;> decide
  · intro c member
    rcases (isJsonNumber_formatFixed2 m.value).chars c member with rfl | rfl | digit
    · decide
    · decide
    · rintro rfl
      exact absurd digit.2 (by decide)

/-- The chips show every stored measurement. -/
theorem splitFields_measurements {node : TelemetryNode}
    (valid : ∀ m ∈ node.measurements, ValidMeasurement m) (few : node.measurements.length ≤ 5) :
    splitFields (snprintf maxLine (formatMeasurements node maxLine)) =
      node.measurements.map fun m => (m.name, m.printed) := by
  have short := formatMeasurements_length_le valid few maxLine
  have limit : maxLine = 1024 := rfl
  have names : ∀ name ∈ variableNames, equalsSign ∉ name ∧ pairSeparator ∉ name := by decide
  rw [snprintf_of_length (by omega), formatMeasurements_eq valid few (by decide), splitFields_eq]
  · rw [List.map_map]
    refine List.map_congr_left fun m stored => ?_
    have clean := (names m.name (valid m stored).name_mem).1
    obtain ⟨name, text⟩ : pairName (m.name ++ equalsSign :: m.printed) = m.name ∧
        pairValueText (m.name ++ equalsSign :: m.printed) = m.printed := pair_parts clean
    rw [Function.comp_apply, formatMeasurement_eq, name, text]
  · intro part member
    obtain ⟨m, stored, rfl⟩ := List.mem_map.mp member
    rw [formatMeasurement_eq]
    refine ⟨by simp, fun separator => ?_⟩
    rcases List.mem_append.mp separator with within | within
    · exact (names m.name (valid m stored).name_mem).2 within
    · rcases List.mem_cons.mp within with same | within
      · exact absurd same (by decide)
      · exact printed_chars m _ within rfl

/-! ## Lengths -/

set_option maxRecDepth 4000 in
theorem statusPageCss_length_le : statusPageCss.length ≤ 5000 := by
  apply le_trans
  · unfold statusPageCss
    repeat' with_reducible apply length_append_le
    all_goals exact ascii_length_le ⟨_, rfl, rfl⟩
  · decide +kernel

theorem printed_length_le {m : Measurement} (valid : ValidMeasurement m) :
    m.printed.length ≤ 11 := by
  unfold Measurement.printed
  split
  · split <;> decide
  · exact formatFixed2_short valid.abs_value_le

theorem chip_length_le (strtod : Bytes → StrtodResult) {field : Bytes × Bytes}
    (name : field.1.length ≤ 6) (value : field.2.length ≤ 11) :
    (chip strtod field).length ≤ 60 := by
  have hot : (if measurementIsHot strtod field.1 field.2 then ascii " hot" else []).length ≤ 4 := by
    split <;> decide
  apply le_trans
  · unfold chip
    repeat' with_reducible apply length_append_le
    all_goals first
      | with_reducible assumption
      | exact ascii_length_le ⟨_, rfl, rfl⟩
  · simp

section State

variable {s : ServerState}

theorem nodeRowHtml_length_le (h : s.Shown) (strtod : Bytes → StrtodResult) {now : Int}
    (long : IsLong now) {node : TelemetryNode}
    (member : node ∈ registeredNodes s.registry.toRegistrySnapshot) :
    (nodeRowHtml strtod now node).flatten.length ≤ 500 := by
  obtain ⟨i, used, rfl⟩ := mem_registeredNodes.mp member
  have valid : ∀ m ∈ (s.registry.nodes i).measurements, ValidMeasurement m :=
    (h.record i used).measurements
  have few := h.measurements i
  have id : (s.registry.nodes i).nodeId.length ≤ 15 :=
    Nat.le_of_lt_succ (nodeId_length_lt (h.wellFormed.nodeId_valid i used))
  have ago : (formatInt (now - (s.registry.nodes i).lastSeen)).length ≤ 21 := by
    refine (isNumeral_formatInt ?_).short
    have limit : longMax = 2 ^ 63 - 1 := rfl
    obtain ⟨low, high⟩ := long
    obtain ⟨low', high'⟩ : IsLong (s.registry.nodes i).lastSeen := (h.record i used).lastSeen
    unfold Prints
    omega
  have chips : ((splitFields (snprintf maxLine (formatMeasurements (s.registry.nodes i)
      maxLine))).map (chip strtod)).flatten.length ≤ 5 * 60 := by
    rw [splitFields_measurements valid few]
    refine (length_flatten_le (n := 60) fun text listed => ?_).trans ?_
    · obtain ⟨field, paired, rfl⟩ := List.mem_map.mp listed
      obtain ⟨m, stored, rfl⟩ := List.mem_map.mp paired
      exact chip_length_le strtod (variableName_printable (valid m stored).name_mem).2
        (printed_length_le (valid m stored))
    · rw [List.length_map, List.length_map]
      exact Nat.mul_le_mul_right 60 few
  have warn : (if nodeIsActive (s.registry.nodes i) now then [] else ascii " warn").length ≤ 5 := by
    split <;> decide
  have state : (if nodeIsActive (s.registry.nodes i) now then ascii "active"
      else ascii "inactive").length ≤ 8 := by
    split <;> decide
  have seen : (if (s.registry.nodes i).lastSeen ≠ 0 then
      [ascii "<td class='num'>" ++ formatInt (now - (s.registry.nodes i).lastSeen) ++
          ascii " s ago</td><td>"] ++
        appendChips strtod (formatMeasurements (s.registry.nodes i) maxLine)
      else [ascii "<td class='muted'>-</td><td class='muted'>No data yet"]).flatten.length ≤ 390 := by
    split
    · apply le_trans
      · simp only [appendChips, List.flatten_append, List.flatten_cons, List.flatten_nil,
          List.append_nil]
        repeat' with_reducible apply length_append_le
        all_goals first
          | with_reducible assumption
          | exact ascii_length_le ⟨_, rfl, rfl⟩
      · simp
    · rw [List.flatten_singleton]
      apply le_trans
      · exact ascii_length_le ⟨_, rfl, rfl⟩
      · simp
  apply le_trans
  · simp only [nodeRowHtml, List.flatten_append, List.flatten_cons, List.flatten_nil,
      List.append_nil]
    repeat' with_reducible apply length_append_le
    all_goals first
      | with_reducible assumption
      | exact ascii_length_le ⟨_, rfl, rfl⟩
  · simp

theorem decimal_length_le_of_prints {n : Nat} (range : Prints n) : (decimal n).length ≤ 21 :=
  range.numeral.short

theorem nodesHtml_length_le (h : s.Shown) (strtod : Bytes → StrtodResult) {now : Int}
    (long : IsLong now) :
    (nodesHtml strtod now s.registry.toRegistrySnapshot).flatten.length ≤ 33000 := by
  have few := registeredNodes_length_le s.registry.toRegistrySnapshot
  have registered : (decimal (countRegisteredNodes s.registry.toRegistrySnapshot)).length ≤ 21 :=
    decimal_length_le_of_prints (prints_of_le (few.trans (by decide)))
  have active : (decimal (countActiveNodes s.registry.toRegistrySnapshot now)).length ≤ 21 :=
    decimal_length_le_of_prints (prints_of_le
      ((countActiveNodes_le s.registry.toRegistrySnapshot now).trans (by decide)))
  have rows : ((registeredNodes s.registry.toRegistrySnapshot).flatMap
      (nodeRowHtml strtod now)).flatten.length ≤ 64 * 500 := by
    rw [List.flatMap_def, List.flatten_flatten]
    refine (length_flatten_le (n := 500) fun text listed => ?_).trans ?_
    · obtain ⟨row, paired, rfl⟩ := List.mem_map.mp listed
      obtain ⟨node, member, rfl⟩ := List.mem_map.mp paired
      exact nodeRowHtml_length_le h strtod long member
    · rw [List.length_map, List.length_map]
      exact Nat.mul_le_mul_right 500 few
  have table : (if countRegisteredNodes s.registry.toRegistrySnapshot = 0 then
      [ascii "<div class='empty'>No nodes have reported yet.</div>"]
    else
      [ascii "<div class='scroll'><table class='stack'><thead><tr><th>Node</th><th>State</th>" ++
          ascii "<th>Last seen</th><th>Measurements</th></tr></thead><tbody>"] ++
        (registeredNodes s.registry.toRegistrySnapshot).flatMap (nodeRowHtml strtod now) ++
        [ascii "</tbody></table></div>"]).flatten.length ≤ 32500 := by
    split
    · rw [List.flatten_singleton]
      apply le_trans
      · exact ascii_length_le ⟨_, rfl, rfl⟩
      · simp
    · apply le_trans
      · simp only [List.flatten_append, List.flatten_cons, List.flatten_nil, List.append_nil]
        repeat' with_reducible apply length_append_le
        all_goals first
          | with_reducible assumption
          | exact ascii_length_le ⟨_, rfl, rfl⟩
      · simp
  apply le_trans
  · simp only [nodesHtml, List.flatten_append, List.flatten_cons, List.flatten_nil,
      List.append_nil]
    repeat' with_reducible apply length_append_le
    all_goals first
      | with_reducible assumption
      | exact ascii_length_le ⟨_, rfl, rfl⟩
  · simp

theorem alertRowHtml_length_le {clockText : Int → Bytes} (eight : ∀ t, (clockText t).length = 8)
    {alert : Alert} (shown : alert.Shown) (ranged : alert.Ranged) :
    (alertRowHtml clockText alert).length ≤ 200 := by
  have types : ∀ v ∈ variableNames, (alertTypeOf v).length ≤ 11 := by decide
  obtain ⟨v, known, same⟩ := shown.alertType
  have type : alert.alertType.length ≤ 11 := same ▸ types v known
  have id : alert.nodeId.length ≤ 15 := Nat.le_of_lt_succ (nodeId_length_lt shown.nodeId)
  have value := formatFixed2_short ranged.value
  have clock := (eight alert.timestamp).le
  apply le_trans
  · unfold alertRowHtml
    repeat' with_reducible apply length_append_le
    all_goals first
      | with_reducible assumption
      | exact ascii_length_le ⟨_, rfl, rfl⟩
  · simp

theorem alertsHtml_length_le (h : s.Shown) {clockText : Int → Bytes}
    (eight : ∀ t, (clockText t).length = 8)
    (recent : ∀ alert ∈ recentAlerts s.registry.toRegistrySnapshot, alert.Shown ∧ alert.Ranged) :
    (alertsHtml clockText s.registry.toRegistrySnapshot).flatten.length ≤ 5000 := by
  have total := decimal_length_le_of_prints h.totalAlerts
  have few : (recentAlerts s.registry.toRegistrySnapshot).length ≤ 20 := by
    rw [recentAlerts, List.length_map, List.length_range]
    split <;> omega
  have rows : ((recentAlerts s.registry.toRegistrySnapshot).map
      (alertRowHtml clockText)).flatten.length ≤ 20 * 200 := by
    refine (length_flatten_le (n := 200) fun text listed => ?_).trans ?_
    · obtain ⟨alert, member, rfl⟩ := List.mem_map.mp listed
      exact alertRowHtml_length_le eight (recent alert member).1 (recent alert member).2
    · rw [List.length_map]
      exact Nat.mul_le_mul_right 200 few
  have table : (if recentAlerts s.registry.toRegistrySnapshot = [] then
      [ascii "<div class='empty'>No alerts so far.</div>"]
    else
      [ascii "<div class='scroll'><table><thead><tr><th>Time</th><th>Node</th>" ++
          ascii "<th>Type</th><th>Value</th></tr></thead><tbody>"] ++
        (recentAlerts s.registry.toRegistrySnapshot).map (alertRowHtml clockText) ++
        [ascii "</tbody></table></div>"]).flatten.length ≤ 4500 := by
    split
    · rw [List.flatten_singleton]
      apply le_trans
      · exact ascii_length_le ⟨_, rfl, rfl⟩
      · simp
    · apply le_trans
      · simp only [List.flatten_append, List.flatten_cons, List.flatten_nil, List.append_nil]
        repeat' with_reducible apply length_append_le
        all_goals first
          | with_reducible assumption
          | exact ascii_length_le ⟨_, rfl, rfl⟩
      · simp
  apply le_trans
  · simp only [alertsHtml, List.flatten_append, List.flatten_cons, List.flatten_nil,
      List.append_nil]
    repeat' with_reducible apply length_append_le
    all_goals first
      | with_reducible assumption
      | exact ascii_length_le ⟨_, rfl, rfl⟩
  · simp

theorem headHtml_length_le (h : s.Shown) (page : PageReadings) :
    (headHtml s.registry.toRegistrySnapshot page).flatten.length ≤ 7500 := by
  have css := statusPageCss_length_le
  have registered : (decimal (countRegisteredNodes s.registry.toRegistrySnapshot)).length ≤ 21 :=
    decimal_length_le_of_prints (prints_of_le
      ((registeredNodes_length_le s.registry.toRegistrySnapshot).trans (by decide)))
  have active : (decimal (countActiveNodes s.registry.toRegistrySnapshot page.now)).length ≤ 21 :=
    decimal_length_le_of_prints (prints_of_le
      ((countActiveNodes_le s.registry.toRegistrySnapshot page.now).trans (by decide)))
  have alerts := decimal_length_le_of_prints h.totalAlerts
  have datagrams := decimal_length_le_of_prints h.datagramsTotal
  have lost : (decimal (sumLostDatagrams s.registry.toRegistrySnapshot)).length ≤ 21 :=
    decimal_length_le_of_prints (prints_of_le (sumNodes_le fun node member =>
      (h.counted member).lost))
  have uptime : (formatUptime (page.now - s.registry.startedAt)).length ≤ 31 :=
    Nat.le_of_lt_succ (snprintf_length_lt (by decide))
  have hot (n : Nat) : (if 0 < n then ascii " hot" else []).length ≤ 4 := by split <;> decide
  have badges (ok : Bool) : (badge ok "TCP").length ≤ 70 ∧ (badge ok "UDP").length ≤ 70 := by
    cases ok <;> decide
  have alerts_hot := hot s.registry.totalAlerts
  have lost_hot := hot (sumLostDatagrams s.registry.toRegistrySnapshot)
  have tcp := (badges page.tcpOk).1
  have udp := (badges page.udpOk).2
  have none : ([] : Bytes).length ≤ 0 := le_rfl
  apply le_trans
  · simp only [headHtml, kpi, List.flatten_cons, List.flatten_nil, List.append_nil]
    repeat' with_reducible apply length_append_le
    all_goals first
      | with_reducible assumption
      | exact ascii_length_le ⟨_, rfl, rfl⟩
  · simp

theorem countersHtml_length_le (h : s.Shown) (readings : TimeReadings) (now : Int)
    (tcpOk udpOk : Bool) :
    (countersHtml s.registry.toRegistrySnapshot
      ⟨now, readings.val, tcpOk, udpOk⟩).flatten.length ≤ 3000 := by
  obtain ⟨parts, number, stats, text⟩ := systemStatus_parts h readings
  have length := intercalate_length_le (ascii ";") fun part member => (stats part member).fits.2
  have separator : (ascii ";").length = 1 := rfl
  have limit : maxLine = 1024 := rfl
  rw [number, separator] at length
  have cell {part : Bytes} (stat : IsStat part) :
      (ascii "<div><dt>" ++ pairName part ++ ascii "</dt><dd>" ++ pairValueText part ++
        ascii "</dd></div>").length ≤ 80 := by
    have pair := stat.splits.length
    have short := stat.fits.2
    have lengths : (ascii "<div><dt>").length = 9 ∧ (ascii "</dt><dd>").length = 9 ∧
        (ascii "</dd></div>").length = 11 := by decide
    obtain ⟨l1, l2, l3⟩ := lengths
    simp only [List.length_append, l1, l2, l3]
    omega
  have cells : ((splitFields (formatSystemStatus s.registry.toRegistrySnapshot readings.val
      maxLine)).map fun field => ascii "<div><dt>" ++ field.1 ++
        ascii "</dt><dd>" ++ field.2 ++ ascii "</dd></div>").flatten.length ≤ 21 * 80 := by
    rw [text, snprintf_of_length (by omega), splitFields_eq fun part member =>
      ⟨(stats part member).splits.sign, (stats part member).splits.clean⟩]
    refine (length_flatten_le (n := 80) fun item listed => ?_).trans ?_
    · obtain ⟨field, paired, rfl⟩ := List.mem_map.mp listed
      obtain ⟨part, member, rfl⟩ := List.mem_map.mp paired
      exact cell (stats part member)
    · rw [List.length_map, List.length_map, number]
  apply le_trans
  · simp only [countersHtml, List.flatten_append, List.flatten_cons, List.flatten_nil,
      List.append_nil]
    repeat' with_reducible apply length_append_le
    all_goals first
      | with_reducible assumption
      | exact ascii_length_le ⟨_, rfl, rfl⟩
  · simp

/-- The page is not cut. -/
theorem buildHtml_eq (h : s.Shown) (strtod : Bytes → StrtodResult) {clockText : Int → Bytes}
    (eight : ∀ t, (clockText t).length = 8)
    (recent : ∀ alert ∈ recentAlerts s.registry.toRegistrySnapshot, alert.Shown ∧ alert.Ranged)
    (readings : TimeReadings) {now : Int} (long : IsLong now) (tcpOk udpOk : Bool) {bodySize : Nat}
    (room : httpBodySize ≤ bodySize) :
    buildHtml bodySize strtod clockText s.registry.toRegistrySnapshot
        ⟨now, readings.val, tcpOk, udpOk⟩ =
      (headHtml s.registry.toRegistrySnapshot ⟨now, readings.val, tcpOk, udpOk⟩).flatten ++
        (nodesHtml strtod now s.registry.toRegistrySnapshot).flatten ++
        (alertsHtml clockText s.registry.toRegistrySnapshot).flatten ++
        (countersHtml s.registry.toRegistrySnapshot
          ⟨now, readings.val, tcpOk, udpOk⟩).flatten := by
  have head := headHtml_length_le h ⟨now, readings.val, tcpOk, udpOk⟩
  have nodes := nodesHtml_length_le h strtod long
  have alerts := alertsHtml_length_le h eight recent
  have counters := countersHtml_length_le h readings now tcpOk udpOk
  have limit : httpBodySize = 65536 := rfl
  rw [buildHtml, appendAll_eq]
  · simp only [List.flatten_append, List.nil_append]
  · simp only [List.flatten_append, List.length_append, List.length_nil]
    omega

end State

/-! ## The lists of alerts -/

/-- The section of the alerts with the given rows. -/
def alertSection (total : Nat) (rows : List Bytes) : List Bytes :=
  [ascii "<section><h2>Recent alerts <small>" ++ decimal total ++
      ascii " in total, server time</small></h2><div class='card'>"] ++
    (if rows = [] then [ascii "<div class='empty'>No alerts so far.</div>"]
    else
      [ascii "<div class='scroll'><table><thead><tr><th>Time</th><th>Node</th>" ++
          ascii "<th>Type</th><th>Value</th></tr></thead><tbody>"] ++ rows ++
        [ascii "</tbody></table></div>"]) ++
    [ascii "</div></section>"]

theorem alertsHtml_eq (clockText : Int → Bytes) (r : RegistrySnapshot) :
    alertsHtml clockText r =
      alertSection r.totalAlerts ((recentAlerts r).map (alertRowHtml clockText)) := by
  simp only [alertsHtml, alertSection, List.map_eq_nil_iff]

namespace ServerThreads

/-- The three readers of the ring show the last alerts of the log of the run. -/
theorem alert_lists (strtod : Bytes → StrtodResult) (startedAt bootId : Long)
    (events : List ThreadEvent) {clockText : Int → Bytes} (eight : ∀ t, (clockText t).length = 8)
    (readings : TimeReadings) (now : Long) (tcpOk udpOk : Bool) :
    let s := (threadsMachine strtod startedAt bootId).exec (threadsInit startedAt bootId) events
    let snapshot := s.registry.toRegistrySnapshot
    let page : PageReadings := ⟨now.val, readings.val, tcpOk, udpOk⟩
    ∃ ops, RegistryRun startedAt bootId events s ops ∧
      ∃ log, log = alertLog startedAt bootId ops ∧
        replyAlertList s.registry = (ascii "OK|" ++ decimal (min log.length 128)) ::
          ((log.drop (log.length - min log.length 128)).map alertRow ++ [ascii "END"]) ∧
        buildJson httpBodySize (ascii "/alerts") snapshot page =
          some (arrayText ((log.drop (log.length - min log.length 128)).map alertObject)) ∧
        buildHtml httpBodySize strtod clockText snapshot page =
          (headHtml snapshot page).flatten ++ (nodesHtml strtod now.val snapshot).flatten ++
            (alertSection log.length
              ((log.drop (log.length - min log.length 20)).reverse.map
                (alertRowHtml clockText))).flatten ++
            (countersHtml snapshot page).flatten := by
  intro s snapshot page
  obtain ⟨ops, run⟩ := registry_run strtod startedAt bootId events
  have reachable : (threadsMachine strtod startedAt bootId).Reachable s := ⟨events, rfl⟩
  have shown := shown_reachable reachable
  obtain ⟨holds, ranged⟩ := ringHolds_reachable reachable
  have last128 : s.raised.length - min s.raised.length 128 = s.raised.length - maxAlerts := by
    have ring : maxAlerts = 128 := rfl
    omega
  have last20 : s.raised.length - min s.raised.length 20 = s.raised.length - 20 := by omega
  refine ⟨ops, run, s.raised, run.raised.symm, ?_, ?_, ?_⟩
  · obtain ⟨fits, -, few⟩ := alertRows_fit shown
    have list := replyList_eq fits few
    have number : (shownAlerts snapshot).length = min s.raised.length 128 := by
      rw [shownAlerts_reachable reachable, List.length_drop]
      omega
    rw [List.length_map, number, shownAlerts_reachable reachable] at list
    rw [last128]
    rw [replyAlertList, number, shownAlerts_reachable reachable]
    exact list
  · have body := (json_bodies reachable readings now.val tcpOk udpOk).2.2
    rw [last128, ← shownAlerts_reachable reachable]
    exact body.written _ le_rfl
  · have recent : ∀ alert ∈ recentAlerts snapshot, alert.Shown ∧ alert.Ranged := by
      intro alert member
      rw [recentAlerts_reachable reachable] at member
      have listed := List.mem_of_mem_drop (List.mem_reverse.mp member)
      exact ⟨raised_shown reachable alert listed, ranged alert listed⟩
    have text := buildHtml_eq shown strtod eight recent readings now.property tcpOk udpOk le_rfl
    rw [alertsHtml_eq, recentAlerts_reachable reachable, holds.total] at text
    rw [last20]
    exact text

/-- After one alert. -/
theorem alert_lists_sample :
    let s := (threadsMachine strtodDigits ⟨7, by decide⟩ ⟨1, by decide⟩).exec
      (threadsInit ⟨7, by decide⟩ ⟨1, by decide⟩) beforeSubscribe
    let clockText : Int → Bytes := fun _ => ascii "00:00:00"
    ∃ before after, replyAlertList s.registry =
        [ascii "OK|1", alertRow ⟨9, ascii "N", ascii "STATUS_FAIL", 0⟩, ascii "END"] ∧
      buildHtml httpBodySize strtodDigits clockText s.registry.toRegistrySnapshot
          ⟨9, alarmedReadings.val, true, true⟩ =
        before ++ (alertSection 1
          [alertRowHtml clockText ⟨9, ascii "N", ascii "STATUS_FAIL", 0⟩]).flatten ++ after := by
  intro s clockText
  have raised : s.raised = [⟨9, ascii "N", ascii "STATUS_FAIL", 0⟩] := by decide +kernel
  have eight : ∀ t, (clockText t).length = 8 := fun _ => rfl
  obtain ⟨ops, run, log, same, list, -, page⟩ := alert_lists strtodDigits ⟨7, by decide⟩
    ⟨1, by decide⟩ beforeSubscribe eight alarmedReadings ⟨9, by decide⟩ true true
  rw [run.raised] at same
  rw [same.trans raised] at list page
  exact ⟨_, _, list.trans (by decide +kernel), page⟩

end ServerThreads

end Telep
