import Telep.Server.Proofs.Replies

/-!
# Frames that change nothing

A frame that is answered with an error leaves the registry and the subscribers as they are, and so
does every other frame but the first `HELLO` of an identifier, an accepted `REPORT` and a
`SUBSCRIBE` of a connection that is not subscribed (`frame_changes_nothing`).
-/

namespace Telep

section Lines

variable {s : ServerState} {fd : ClientFd} {readings : Readings} {line : Bytes}

/-- What a line that changes the state is, and what it is answered. -/
inductive Accepted (s : ServerState) (fd : ClientFd) (line : Bytes) : List Bytes → Prop
  | hello (id session : Bytes) (message : parseMessage line = some ⟨ascii "HELLO", [id, session]⟩)
      (first : findNode s.registry.toRegistrySnapshot id = none) :
      Accepted s fd line [ascii "OK|REGISTERED"]
  | report (args : List Bytes) (message : parseMessage line = some ⟨ascii "REPORT", args⟩) :
      Accepted s fd line [ascii "OK|REPORTED"]
  | subscribe (message : parseMessage line = some ⟨ascii "SUBSCRIBE", []⟩)
      (first : ∀ i, (s.subscribers.slots i).fd ≠ fd.val) :
      Accepted s fd line [ascii "OK|SUBSCRIBED"]

/-- No answer to an accepted line is an error. -/
theorem Accepted.not_error {reply : List Bytes} (accepted : Accepted s fd line reply) :
    ¬ ∃ answer ∈ reply, ascii "ERR|" <+: answer := by
  cases accepted <;> decide

/-- A call of the registry that is refused, and a repeated `HELLO`, change nothing. -/
theorem register_unchanged (r : Registry) (id session : Bytes) :
    (registryRegisterNode r id session).2 = r ∨
      ((registryRegisterNode r id session).1 = none ∧ findNode r.toRegistrySnapshot id = none) := by
  unfold registryRegisterNode
  cases found : findNode r.toRegistrySnapshot id with
  | some i =>
    left
    dsimp only
    split <;> rfl
  | none =>
    cases free : createNode r id with
    | none => exact .inl rfl
    | some created => exact .inr ⟨rfl, rfl⟩

theorem report_unchanged (r : Registry) (id session : Bytes)
    (attempts sent omitted errors : Nat) (final : Bool) :
    (registryReport r id session attempts sent omitted errors final).2 = r ∨
      (registryReport r id session attempts sent omitted errors final).1 = none := by
  have effect := report_effect r id session attempts sent omitted errors final
  revert effect
  generalize registryReport r id session attempts sent omitted errors final = result
  obtain ⟨code, r'⟩ := result
  intro effect
  cases effect with
  | unknown other => exact .inl rfl
  | refused i found same refuses => exact .inl rfl
  | accepted i found same accepts => exact .inr rfl

theorem subscribersAdd_unchanged (subscribers : Subscribers) (fd : Nat) :
    (subscribersAdd subscribers fd).2 = subscribers ∨
      (¬ (subscribersAdd subscribers fd).1 < 0 ∧ ∀ i, (subscribers.slots i).fd ≠ fd) := by
  unfold subscribersAdd
  split
  · exact .inl rfl
  · next absent =>
    split
    · exact .inl rfl
    · exact .inr ⟨Int.lt_irrefl 0, fun i same => absent ⟨i, same⟩⟩

/-- A line is accepted or changes nothing. -/
theorem Handled.unchanged {result : CommandResult} (handled : Handled s fd readings line result) :
    result.state = s ∨ Accepted s fd line result.reply := by
  cases handled with
  | hello id session message =>
    rcases register_unchanged s.registry id.val session.val with same | ⟨code, first⟩
    · exact .inl (by rw [ServerState.calls, same])
    · right
      rw [ServerState.calls, code]
      exact .hello id.val session.val message first
  | report id session c final values message =>
    rcases report_unchanged s.registry id.val session.val c.attempts c.sent c.omitted c.errors
      final with same | code
    · exact .inl (by rw [ServerState.calls, same])
    · right
      rw [ServerState.calls, code]
      exact .report _ message
  | subscribe message =>
    rcases subscribersAdd_unchanged s.subscribers fd.val with same | ⟨added, first⟩
    · left
      dsimp only
      rw [same]
    · right
      dsimp only
      rw [if_neg added]
      exact .subscribe message first
  | _ => exact .inl rfl

end Lines

/-- Whatever the state and the frame: an answer with an error changes neither the registry nor the
subscribers, and a frame that changes one of them is the first `HELLO` of an identifier, a `REPORT`
or a `SUBSCRIBE` of a connection that is not in the table, and is accepted. -/
theorem frame_changes_nothing (s : ServerState) (fd : ClientFd) (readings : Readings)
    (frame : Bytes) :
    let result := serveLine s fd readings (lineOf frame)
    ((∃ answer ∈ result.reply, ascii "ERR|" <+: answer) → result.state = s) ∧
      (result.state = s ∨
        ∃ text, lineOf frame = .line text ∧ Accepted s fd text result.reply) := by
  intro result
  have unchanged : result.state = s ∨
      ∃ text, lineOf frame = .line text ∧ Accepted s fd text result.reply := by
    show (serveLine s fd readings (lineOf frame)).state = s ∨ _
    cases line : lineOf frame with
    | line text =>
      rcases (handleCommand_handled s fd readings text).unchanged with same | accepted
      · exact .inl same
      · refine .inr ⟨text, rfl, ?_⟩
        show Accepted s fd text (serveLine s fd readings (lineOf frame)).reply
        rw [line]
        exact accepted
    | overflow => exact .inl rfl
    | invalid => exact .inl rfl
  refine ⟨fun error => ?_, unchanged⟩
  rcases unchanged with same | ⟨text, -, accepted⟩
  · exact same
  · exact absurd error accepted.not_error

end Telep
