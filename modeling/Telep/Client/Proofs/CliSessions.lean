import Telep.Client.Proofs.OperatorCli

/-!
# How a session of the console ends

A round of the loop ends as the typed lines say, or with the connection (`round_ends`), and so does
the whole session (`session_ends`).
-/

namespace Telep

/-- The raw command can be sent. -/
def isSendable (text : Bytes) : Bool :=
  match text.splitOn fieldSeparator with
  | [] => false
  | command :: fields => (encodeMessage command fields).isSome

/-- How the session ends whose user types these lines, as long as the connection is not lost: with
the first choice to quit, or with the first text that no command can carry. -/
def typedEnd : List Bytes → SessionEnd
  | [] => .interrupted
  | line :: inputs =>
      if strip line = ascii "0" then .quit
      else if strip line = ascii "3" then
        match inputs with
        | [] => .interrupted
        | id :: inputs =>
            if (encodeMessage (ascii "GET_LAST") [strip id]).isSome then typedEnd inputs
            else .interrupted
      else if strip line = ascii "6" then
        match inputs with
        | [] => .interrupted
        | raw :: inputs =>
            if strip raw = [] ∨ isSendable (strip raw) then typedEnd inputs else .interrupted
      else typedEnd inputs

section Typed

variable {line : Bytes} {inputs : List Bytes}

theorem typedEnd_quit (quits : strip line = ascii "0") : typedEnd (line :: inputs) = .quit := by
  rw [typedEnd.eq_def]
  exact if_pos quits

/-- The choice of one node reads an identifier. -/
theorem typedEnd_node (node : strip line = ascii "3") :
    typedEnd [line] = .interrupted ∧ ∀ id, typedEnd (line :: id :: inputs) =
      if (encodeMessage (ascii "GET_LAST") [strip id]).isSome then typedEnd inputs
      else .interrupted := by
  have stays : ¬ strip line = ascii "0" := by rw [node]; decide
  refine ⟨?_, fun id => ?_⟩ <;>
  · rw [typedEnd.eq_def]
    dsimp only
    rw [if_neg stays, if_pos node]

/-- The choice of a raw command reads the command. -/
theorem typedEnd_raw (chosen : strip line = ascii "6") :
    typedEnd [line] = .interrupted ∧ ∀ raw, typedEnd (line :: raw :: inputs) =
      if strip raw = [] ∨ isSendable (strip raw) then typedEnd inputs else .interrupted := by
  have stays : ¬ strip line = ascii "0" := by rw [chosen]; decide
  have other : ¬ strip line = ascii "3" := by rw [chosen]; decide
  refine ⟨?_, fun raw => ?_⟩ <;>
  · rw [typedEnd.eq_def]
    dsimp only
    rw [if_neg stays, if_neg other, if_pos chosen]

/-- The other choices read nothing more. -/
theorem typedEnd_other (quits : strip line ≠ ascii "0") (node : strip line ≠ ascii "3")
    (raw : strip line ≠ ascii "6") : typedEnd (line :: inputs) = typedEnd inputs := by
  rw [typedEnd.eq_def]
  dsimp only
  rw [if_neg quits, if_neg node, if_neg raw]

end Typed

theorem typedEnd_or (inputs : List Bytes) :
    typedEnd inputs = .quit ∨ typedEnd inputs = .interrupted := by
  fun_induction typedEnd inputs <;> simp_all

namespace Cli

open Actions

/-! ## Actions that can lose the connection -/

/-- The action returns and reads no line, or it raises the loss of the connection. -/
def Completes {α : Type} (lost : Prop) (x : Cli α) (c : Console) : Prop :=
  Ensures x c (fun _ c' => c'.inputs = c.inputs) fun raised _ => raised = .connection ∧ lost

variable {α β : Type} {lost : Prop} {x : Cli α} {f : α → Cli β} {c : Console} {a : α}
  {lines : List Bytes} {asked : Nat}

theorem Shows.completes (shows : x.Shows c a lines asked) : Completes lost x c :=
  ensures_ok shows rfl

/-- After a step that shows something. -/
theorem Shows.next (first : x.Shows c a lines asked)
    (next : Completes lost (f a) (c.after lines asked)) : Completes lost (x >>= f) c :=
  Ensures.after first next

theorem completes_forM {entries : List α} {g : α → Cli Unit}
    (each : ∀ e ∈ entries, ∀ c, Completes lost (g e) c) (c : Console) :
    Completes lost (entries.forM g) c := by
  refine ensures_forM (fun e member c' same => ?_) c rfl
  exact (each e member c').mono (fun _ c'' same' => same'.trans same) fun _ _ => id

end Cli

/-! ## The actions of the menu -/

namespace Answering

open Cli Actions

variable {strtod : Bytes → StrtodResult} {startedAt bootId : Long}
  (A : Answering strtod startedAt bootId) {localTime : Int → Except Raised Bytes}
  {timeText : Int → Bytes} {repr : List (List Bytes) → Bytes} {c : Console}

/-- The connection was lost at some command. -/
def Lost : Prop := ∃ n, A.isUp n = false

/-- A command is answered, or the connection is lost. -/
theorem completes_ask {α : Type} {command : Bytes} {fields : List Bytes}
    {f : List (List Bytes) → Cli α} (encoded : (encodeMessage command fields).isSome)
    (up : A.isUp c.requests = true → Completes A.Lost (ask A.request command fields >>= f) c) :
    Completes A.Lost (ask A.request command fields >>= f) c := by
  cases alive : A.isUp c.requests with
  | true => exact up alive
  | false =>
    obtain ⟨bytes, encoded⟩ := Option.isSome_iff_exists.mp encoded
    have run : (ask A.request command fields).run.run c =
        (.error .connection, { c with requests := c.requests + 1 }) := by
      rw [run_ask, request, encoded]
      simp only [alive]
      rfl
    exact ensures_error (run_error run) ⟨rfl, c.requests, alive⟩

section

variable (apart : A.Apart) (timed : A.Timed localTime timeText)

include apart

include timed in
theorem completes_last {id : Bytes} (encoded : (encodeMessage (ascii "GET_LAST") [id]).isSome)
    (c : Console) : Completes A.Lost (showLastMeasurement A.request localTime id) c := by
  refine A.completes_ask encoded fun up => ?_
  obtain ⟨bytes, encoded⟩ := Option.isSome_iff_exists.mp encoded
  exact (A.shows_last apart up timed rfl encoded).completes

theorem completes_nodes (c : Console) : Completes A.Lost (showNodes A.request) c := by
  refine A.completes_ask (by decide) fun up => ?_
  exact (shows_nodes (A.request_nodes apart up)).completes

include timed in
theorem completes_alerts (c : Console) : Completes A.Lost (showAlerts A.request localTime) c := by
  refine A.completes_ask (by decide) fun up => ?_
  exact (shows_alerts (A.request_alerts apart up) (timed.alerts _)).completes

theorem completes_status (c : Console) : Completes A.Lost (showStatus A.request) c := by
  refine A.completes_ask (by decide) fun up => ?_
  exact (shows_status (A.request_status apart up) (decode_systemStats _ _)).completes

include timed in
/-- The loop over the nodes can lose the connection at each of them. -/
theorem completes_all (c : Console) :
    Completes A.Lost (showAllMeasurements A.request localTime) c := by
  refine A.completes_ask (by decide) fun up => ?_
  refine Shows.next (shows_ask (A.request_nodes apart up)) ?_
  refine Shows.next (shows_item rfl) ?_
  refine Shows.next (shows_item rfl) ?_
  rw [if_neg (not_not.mpr rfl)]
  refine completes_forM (fun row member c => ?_) _
  obtain ⟨node, listed, rfl⟩ := List.mem_map.mp member
  obtain ⟨i, used, rfl⟩ := mem_registeredNodes.mp listed
  have valid := (A.shown _).wellFormed.nodeId_valid i used
  exact A.completes_last apart timed (Option.isSome_of_eq_some (encodeMessage_last valid)) c

theorem completes_stats (c : Console) :
    Completes A.Lost (do Cli.print (repr (← ask A.request (ascii "STATS") []))) c := by
  refine A.completes_ask (by decide) fun up => ?_
  have encoded : encodeMessage (ascii "STATS") [] = some (ascii "STATS\n") := by decide
  exact Shows.next (shows_ask (A.request_encoded apart up encoded).1) (shows_print _).completes

end

end Answering

/-! ## A round of the loop -/

theorem Cli.run_input_nil {c : Console} (empty : c.inputs = []) :
    Cli.input.run.run c = (.error .endOfFile, c) := by
  show (Cli.nextLine c.inputs).run.run c = _
  rw [empty]
  rfl

section Rounds

open Cli Actions

variable {lost failed : Prop} {strtod : Bytes → StrtodResult} {startedAt bootId : Long}
  {c : Console} {action : Cli Unit}

/-- A round and the rest of the session end as the typed lines say, or the connection is lost in an
action or when the alerts are taken. -/
inductive RoundEnds (lost failed : Prop) (c : Console) :
    Except Raised (Option SessionEnd) × Console → Prop where
  | again (c' : Console) (fewer : c'.inputs.length < c.inputs.length)
      (same : typedEnd c'.inputs = typedEnd c.inputs) : RoundEnds lost failed c (.ok none, c')
  | quits (c' : Console) (typed : typedEnd c.inputs = .quit) :
      RoundEnds lost failed c (.ok (some .quit), c')
  | raises (raised : Raised) (c' : Console) (typed : typedEnd c.inputs = raised.ends) :
      RoundEnds lost failed c (.error raised, c')
  | loses (c' : Console) (down : lost) : RoundEnds lost failed c (.ok (some .lost), c')
  | fails (c' : Console) (down : failed) : RoundEnds lost failed c (.error .connection, c')

/-- The alerts of `take_alerts` are printed, or the connection is lost there. -/
theorem completes_printAlerts (pushed : Nat → Option (List (RaisedAlert strtod startedAt bootId)))
    (c : Console) :
    Completes (∃ n, pushed n = none) (printAlerts (takesOf pushed)) c := by
  have first : (get : Cli Console).run.run c = (.ok c, c) := rfl
  have second : (set { c with takes := c.takes + 1 } : Cli PUnit).run.run c =
      (.ok ⟨⟩, { c with takes := c.takes + 1 }) := rfl
  unfold printAlerts
  refine Ensures.after first (Ensures.after second ?_)
  unfold takesOf
  cases taken : pushed c.takes with
  | none => exact ⟨rfl, c.takes, taken⟩
  | some alerts =>
    dsimp only
    rw [takenAlerts_eq]
    refine completes_forM (fun row member c => ?_) _
    obtain ⟨alert, -, rfl⟩ := List.mem_map.mp member
    exact (shows_print _).completes

theorem run_attempt (action : Cli Unit) (c : Console) :
    (attempt action).run.run c = match action.run.run c with
      | (.ok _, c') => (.ok none, c')
      | (.error raised, c') =>
          if raised = .connection then (.ok (some .lost), c') else (.error raised, c') := by
  unfold attempt
  rw [run_tryCatch, run_bind]
  rcases action.run.run c with ⟨raised | _, c'⟩
  · cases raised <;> rfl
  · rfl

/-- An action whose rest completes leaves the session to the lines that remain. -/
theorem attempt_completes {x : Cli Unit} {c' c'' : Console}
    (reads : action.run.run c' = x.run.run c'') (completes : Completes lost x c'')
    (fewer : c''.inputs.length < c.inputs.length)
    (same : typedEnd c''.inputs = typedEnd c.inputs) :
    RoundEnds lost failed c ((attempt action).run.run c') := by
  rw [run_attempt, reads]
  rcases completes.cases with ⟨_, c₁, run, inputs⟩ | ⟨raised, c₁, run, connection, down⟩
  · rw [run]
    exact .again c₁ (inputs ▸ fewer) (inputs ▸ same)
  · rw [run, connection]
    exact .loses c₁ down

/-- An action that raises another exception ends the session. -/
theorem attempt_raises {c' c'' : Console} {raised : Raised}
    (run : action.run.run c' = (.error raised, c'')) (other : raised ≠ .connection)
    (typed : typedEnd c.inputs = raised.ends) :
    RoundEnds lost failed c ((attempt action).run.run c') := by
  rw [run_attempt, run]
  simp only [if_neg other]
  exact .raises raised c'' typed

end Rounds

namespace Answering

open Cli Actions

variable {strtod : Bytes → StrtodResult} {startedAt bootId : Long}
  (A : Answering strtod startedAt bootId) {localTime : Int → Except Raised Bytes}
  {timeText : Int → Bytes} {repr : List (List Bytes) → Bytes}

/-- A command that cannot be sent raises `ValueError`. -/
theorem raises_ask {α : Type} {command : Bytes} {fields : List Bytes}
    {f : List (List Bytes) → Cli α} (refused : encodeMessage command fields = none) (c : Console) :
    (ask A.request command fields >>= f).run.run c =
      (.error .value, { c with requests := c.requests + 1 }) := by
  refine run_error ?_
  rw [run_ask, request, refused]

/-- The action for a raw command, after its line was read. -/
theorem run_rawCommand (apart : A.Apart) {c : Console} {raw : Bytes} {inputs : List Bytes}
    (typed : c.inputs = raw :: inputs) :
    (strip raw = [] ∧
        (sendRawCommand A.request).run.run c = (.ok (), { c with inputs := inputs })) ∨
      (strip raw ≠ [] ∧ isSendable (strip raw) = true ∧
        ∃ x : Cli Unit, (∀ c, Completes A.Lost x c) ∧
          (sendRawCommand A.request).run.run c = x.run.run { c with inputs := inputs }) ∨
      (strip raw ≠ [] ∧ isSendable (strip raw) = false ∧
        (sendRawCommand A.request).run.run c =
          (.error .value, { c with inputs := inputs, requests := c.requests + 1 })) := by
  have read : (sendRawCommand A.request).run.run c = _ := run_ok (run_input typed)
  rw [read]
  dsimp only
  by_cases empty : strip raw = []
  · refine .inl ⟨empty, ?_⟩
    rw [if_pos empty]
    rfl
  · rw [if_neg empty]
    refine .inr ?_
    unfold isSendable
    cases split : (strip raw).splitOn fieldSeparator with
    | nil => exact absurd split (List.splitOn_ne_nil _ _)
    | cons command fields =>
      dsimp only
      cases encoded : encodeMessage command fields with
      | none => exact .inr ⟨empty, rfl, A.raises_ask encoded _⟩
      | some bytes =>
        refine .inl ⟨empty, rfl, _, fun c => ?_, rfl⟩
        refine A.completes_ask (Option.isSome_of_eq_some encoded) fun up => ?_
        refine Shows.next (shows_ask (A.request_encoded apart up encoded).1) ?_
        exact completes_forM (fun line _ c => (shows_print _).completes) _

/-- The actions that read no line. -/
theorem completes_actionOf (apart : A.Apart) (timed : A.Timed localTime timeText) {choice : Bytes}
    (node : choice ≠ ascii "3") (raw : choice ≠ ascii "6") {action : Cli Unit}
    (chosen : actionOf A.request localTime repr choice = some action) (c : Console) :
    Completes A.Lost action c := by
  unfold actionOf at chosen
  rw [if_neg node, if_neg raw] at chosen
  split at chosen
  · exact Option.some.inj chosen ▸ A.completes_nodes apart c
  split at chosen
  · exact Option.some.inj chosen ▸ A.completes_all apart timed c
  split at chosen
  · exact Option.some.inj chosen ▸ A.completes_alerts apart timed c
  split at chosen
  · exact Option.some.inj chosen ▸ A.completes_status apart c
  split at chosen
  · exact Option.some.inj chosen ▸ A.completes_stats apart c
  · cases chosen

theorem actionOf_node : actionOf A.request localTime repr (ascii "3") =
    some (do showLastMeasurement A.request localTime (strip (← Cli.input))) := by
  unfold actionOf
  rw [if_neg (by decide), if_neg (by decide), if_pos rfl]

theorem actionOf_raw : actionOf A.request localTime repr (ascii "6") =
    some (sendRawCommand A.request) := by
  unfold actionOf
  rw [if_neg (by decide), if_neg (by decide), if_neg (by decide), if_neg (by decide),
    if_neg (by decide), if_pos rfl]

/-- No line is left for an action that reads one. -/
theorem input_ends {failed : Prop} {c c' : Console} {f : Bytes → Cli Unit}
    (typed : typedEnd c.inputs = .interrupted) (rest : c'.inputs = []) :
    RoundEnds A.Lost failed c ((attempt (Cli.input >>= f)).run.run c') := by
  exact attempt_raises (run_error (run_input_nil rest)) (by decide) typed

/-- What a round does with the line that was read. -/
theorem chosen_ends {failed : Prop} (apart : A.Apart) (timed : A.Timed localTime timeText)
    {c c' : Console} {line : Bytes} {inputs : List Bytes} (typed : c.inputs = line :: inputs)
    (rest : c'.inputs = inputs) :
    RoundEnds A.Lost failed c ((if strip line = ascii "0" then pure (some .quit)
      else match actionOf A.request localTime repr (strip line) with
        | none => do
            Cli.print (ascii "  invalid option")
            return none
        | some action => attempt action : Cli (Option SessionEnd)).run.run c') := by
  by_cases quits : strip line = ascii "0"
  · rw [if_pos quits]
    exact .quits c' (typed ▸ typedEnd_quit quits)
  rw [if_neg quits]
  have fewer : c'.inputs.length < c.inputs.length := by
    rw [typed, rest, List.length_cons]
    exact Nat.lt_succ_self _
  by_cases node : strip line = ascii "3"
  · rw [node, A.actionOf_node]
    dsimp only
    cases inputs with
    | nil => exact A.input_ends (typed ▸ (@typedEnd_node _ [] node).1) rest
    | cons id inputs =>
      have ended := (@typedEnd_node _ inputs node).2 id
      rw [← typed] at ended
      have fewer : inputs.length < c.inputs.length := by
        rw [typed]
        exact Nat.lt_add_of_pos_right (by decide : 0 < 2)
      by_cases encoded : (encodeMessage (ascii "GET_LAST") [strip id]).isSome
      · rw [if_pos encoded] at ended
        exact attempt_completes (run_ok (run_input rest))
          (A.completes_last apart timed encoded _) fewer
          ended.symm
      · rw [if_neg encoded] at ended
        exact attempt_raises ((run_ok (run_input rest)).trans <|
          A.raises_ask (Option.not_isSome_iff_eq_none.mp encoded) _) (by decide) ended
  by_cases raw : strip line = ascii "6"
  · rw [raw, A.actionOf_raw]
    dsimp only
    cases inputs with
    | nil => exact A.input_ends (typed ▸ (@typedEnd_raw _ [] raw).1) rest
    | cons text inputs =>
      have ended := (@typedEnd_raw _ inputs raw).2 text
      rw [← typed] at ended
      have fewer : inputs.length < c.inputs.length := by
        rw [typed]
        exact Nat.lt_add_of_pos_right (by decide : 0 < 2)
      rcases A.run_rawCommand apart rest with ⟨empty, run⟩ | ⟨some, sendable, x, completes, run⟩ |
        ⟨some, refused, run⟩
      · rw [if_pos (.inl empty)] at ended
        rw [run_attempt, run]
        exact .again _ fewer ended.symm
      · rw [if_pos (.inr sendable)] at ended
        exact attempt_completes run (completes _) fewer ended.symm
      · rw [if_neg (not_or.mpr ⟨some, Bool.eq_false_iff.mp refused⟩)] at ended
        exact attempt_raises run (by decide) ended
  have same : typedEnd c'.inputs = typedEnd c.inputs := by
    rw [typed, rest, typedEnd_other quits node raw]
  split
  · next none => exact .again (c'.after [ascii "  invalid option"] 0) fewer same
  · next action chosen =>
    exact attempt_completes rfl (A.completes_actionOf apart timed node raw chosen c') fewer same

section Loop

variable {c : Console} (repr : List (List Bytes) → Bytes)
  (pushed : Nat → Option (List (RaisedAlert strtod startedAt bootId))) (apart : A.Apart)
  (timed : A.Timed localTime timeText)

include apart timed

theorem round_ends (c : Console) :
    RoundEnds A.Lost (∃ n, pushed n = none) c
      ((round A.request (takesOf pushed) localTime repr).run.run c) := by
  unfold round
  rcases (completes_printAlerts pushed c).cases with ⟨_, c', run, same⟩ |
    ⟨raised, c', run, connection, down⟩
  · rw [run_ok run, run_ok (shows_print menu)]
    cases typed : c.inputs with
    | nil =>
      have empty : (c'.after [menu] 0).inputs = [] := same.trans typed
      rw [run_error (run_input_nil empty)]
      exact .raises .endOfFile _ (typed ▸ typedEnd.eq_def [])
    | cons line inputs =>
      have next : (c'.after [menu] 0).inputs = line :: inputs := same.trans typed
      rw [run_ok (run_input next)]
      exact A.chosen_ends apart timed typed rfl
  · rw [run_error run, connection]
    exact .fails c' down

/-- How the loop can end. -/
theorem interact_ends {rounds : Nat} (enough : c.inputs.length < rounds) :
    (interact A.request (takesOf pushed) localTime repr rounds c).1 = typedEnd c.inputs ∨
      ((interact A.request (takesOf pushed) localTime repr rounds c).1 = .lost ∧ A.Lost) ∨
      ((interact A.request (takesOf pushed) localTime repr rounds c).1 = .interrupted ∧
        ∃ n, pushed n = none) := by
  induction rounds generalizing c with
  | zero => cases enough
  | succ rounds ih =>
    have ends := A.round_ends repr pushed apart timed c
    unfold interact
    revert ends
    generalize (round A.request (takesOf pushed) localTime repr).run.run c = result
    intro ends
    cases ends with
    | again c' fewer same => exact same ▸ ih (by omega)
    | quits c' typed => exact .inl typed.symm
    | raises raised c' typed => exact .inl typed.symm
    | loses c' down => exact .inr (.inl ⟨rfl, down⟩)
    | fails c' down => exact .inr (.inr ⟨rfl, down⟩)

/-- The bound on the rounds makes no difference. -/
theorem interact_stable {rounds more : Nat} (enough : c.inputs.length < rounds)
    (enough' : c.inputs.length < more) :
    interact A.request (takesOf pushed) localTime repr rounds c =
      interact A.request (takesOf pushed) localTime repr more c := by
  induction rounds generalizing c more with
  | zero => cases enough
  | succ rounds ih =>
    obtain ⟨more, rfl⟩ : ∃ k, more = k + 1 := ⟨more - 1, by omega⟩
    have ends := A.round_ends repr pushed apart timed c
    unfold interact
    revert ends
    generalize (round A.request (takesOf pushed) localTime repr).run.run c = result
    intro ends
    cases ends with
    | again c' fewer same => exact ih (by omega) (by omega)
    | quits => rfl
    | raises => rfl
    | loses => rfl
    | fails => rfl

end Loop

/-- While no node is called `ALERT` and `time.localtime` converts the times that are shown, a
session ends as the typed lines say: the user quits, the input ends, or a text cannot be sent. Only
the connection can end it before, in an action or when the alerts are taken. No reply and no alert
ends it, no exception leaves `main`, and the bound on the rounds is never reached. -/
theorem session_ends (repr : List (List Bytes) → Bytes)
    (pushed : Nat → Option (List (RaisedAlert strtod startedAt bootId))) (apart : A.Apart)
    (timed : A.Timed localTime timeText) {c : Console} {rounds : Nat}
    (enough : c.inputs.length < rounds) :
    let ended := (interact A.request (takesOf pushed) localTime repr rounds c).1
    (ended = typedEnd c.inputs ∨ (ended = .lost ∧ ∃ n, A.isUp n = false) ∨
        (ended = .interrupted ∧ ∃ n, pushed n = none)) ∧
      ended ≠ .uncaught ∧
      interact A.request (takesOf pushed) localTime repr rounds c =
        interact A.request (takesOf pushed) localTime repr (c.inputs.length + 1) c := by
  have ends := A.interact_ends repr pushed apart timed enough
  refine ⟨ends, ?_, A.interact_stable repr pushed apart timed enough (Nat.lt_succ_self _)⟩
  rcases ends with typed | ⟨lost, -⟩ | ⟨interrupted, -⟩
  · rw [typed]
    rcases typedEnd_or c.inputs with ended | ended <;> rw [ended] <;> decide
  · rw [lost]
    decide
  · rw [interrupted]
    decide

theorem session_ends_sample :
    (interact alarmed.request (takesOf fun _ => some [alarmedAlert])
      (fun _ => .ok (ascii "00:00:09")) (fun _ => []) 5
      ⟨[ascii "4", ascii "3", ascii "N", ascii "0"], [], 0, 0⟩).1 = .quit := by
  have timed : alarmed.Timed (fun _ => .ok (ascii "00:00:09")) fun _ => ascii "00:00:09" :=
    ⟨fun _ _ _ => rfl, fun _ _ _ _ => rfl⟩
  have lines : typedEnd [ascii "4", ascii "3", ascii "N", ascii "0"] = .quit := by decide
  have enough : (⟨[ascii "4", ascii "3", ascii "N", ascii "0"], [], 0, 0⟩ : Console).inputs.length <
    5 := by decide
  have ends := session_ends alarmed (fun _ => []) (fun _ => some [alarmedAlert]) alarmed_apart timed
    enough
  rcases ends.1 with typed | ⟨-, n, down⟩ | ⟨-, n, failed⟩
  · exact typed.trans lines
  · cases down
  · cases failed

end Answering

end Telep
