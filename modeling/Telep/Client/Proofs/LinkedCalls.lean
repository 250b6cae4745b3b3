import Telep.Client.Proofs.LinkedReplies
import Telep.Client.Proofs.OperatorCli

/-!
# The calls of an operator in their order

The lists that the calls of `request` return were computed in states that come in the order of the
calls (`calls_serialize`): what an operator gets over a connection is an `Answering`.
-/

namespace Telep

namespace OperatorLink

variable {strtod : Bytes → StrtodResult} {startedAt bootId : Long} {l : OperatorLink} {c : Nat}

/-! ## The numbers of the calls -/

/-- The lists that were returned have the numbers of earlier calls, each once. -/
structure Numbered (l : OperatorLink) : Prop where
  sorted : (l.returned.map Prod.fst).Pairwise (· < ·)
  below : ∀ entry ∈ l.returned, entry.1 < l.asked.length
  asking : l.asking ≠ none → l.asked ≠ [] ∧ ∀ entry ∈ l.returned, entry.1 + 1 < l.asked.length

theorem Numbered.same {l' : OperatorLink} (h : l.Numbered) (returned : l'.returned = l.returned)
    (asked : l'.asked = l.asked) (asking : l'.asking ≠ none → l.asking ≠ none) : l'.Numbered where
  sorted := returned ▸ h.sorted
  below := returned ▸ asked ▸ h.below
  asking calls := returned ▸ asked ▸ h.asking (asking calls)

theorem Numbered.send (h : l.Numbered) (command : Bytes) (fields : List Bytes) :
    (l.send command fields).Numbered := by
  unfold OperatorLink.send
  split
  · have more : ∀ entry ∈ l.returned, entry.1 + 1 < (l.asked ++ [‹Bytes›.dropLast]).length := by
      intro entry member
      rw [List.length_append]
      exact Nat.succ_lt_succ (h.below entry member)
    refine ⟨h.sorted, fun entry member => Nat.lt_of_succ_lt (more entry member), fun _ => ?_⟩
    exact ⟨List.append_ne_nil_of_right_ne_nil _ (List.cons_ne_nil _ _), more⟩
  · exact h

theorem Numbered.read (h : l.Numbered) (chunks : List Bytes) : (l.read c chunks).Numbered := by
  unfold OperatorLink.read
  split
  · exact h
  · next command asking =>
    obtain ⟨some, before⟩ := h.asking (asking ▸ Option.some_ne_none _)
    have length := List.length_pos_of_ne_nil some
    split
    · split
      · refine ⟨?_, fun entry member => ?_, fun none => absurd rfl none⟩
        · show ((l.returned ++ [(l.asked.length - 1, _)]).map Prod.fst).Pairwise (· < ·)
          rw [List.map_append, List.pairwise_append]
          refine ⟨h.sorted, List.pairwise_singleton _ _, fun n earlier m last => ?_⟩
          obtain ⟨entry, member, rfl⟩ := List.mem_map.mp earlier
          obtain rfl := List.mem_singleton.mp last
          exact Nat.lt_sub_of_add_lt (before entry member)
        · rcases List.mem_append.mp member with old | new
          · exact h.below entry old
          · rw [List.mem_singleton.mp new]
            exact Nat.sub_lt length Nat.one_pos
      · exact h.same rfl rfl fun none => absurd rfl none
    · exact h

theorem Numbered.take (h : l.Numbered) (chunks : List Bytes) : (l.take c chunks).Numbered := by
  unfold OperatorLink.take
  split
  · split <;> exact h.same rfl rfl id
  · exact h

theorem Numbered.next (h : l.Numbered) (event : LinkEvent) : (l.next c strtod event).Numbered := by
  cases event with
  | server event =>
    unfold OperatorLink.next
    dsimp only
    split
    · exact h
    · exact h.same rfl rfl id
  | deliver count =>
    show (l.deliver c strtod count).Numbered
    unfold OperatorLink.deliver
    split
    · exact h.same rfl rfl id
    · exact h
  | send command fields => exact h.send command fields
  | read chunks => exact h.read chunks
  | take chunks => exact h.take chunks

theorem numbered_exec (events : List LinkEvent) :
    ((linkMachine strtod startedAt bootId c).exec
      (linkMachine strtod startedAt bootId c).init events).Numbered :=
  Machine.exec_preserves (fun _ event numbered => numbered.next event)
    ⟨List.Pairwise.nil, List.forall_mem_nil _, fun none => absurd rfl none⟩ events

/-- A call returns one list. -/
theorem Numbered.unique (h : l.Numbered) {n : Nat} {list list' : List (List Bytes)}
    (first : (n, list) ∈ l.returned) (second : (n, list') ∈ l.returned) : list = list' := by
  have nodup : (l.returned.map Prod.fst).Nodup := h.sorted.imp Nat.ne_of_lt
  exact congrArg Prod.snd (List.inj_on_of_nodup_map nodup first second rfl)

/-! ## The order of the calls -/

theorem asked_next (l : OperatorLink) (event : LinkEvent) :
    l.asked <+: (l.next c strtod event).asked := by
  cases event with
  | server event =>
    unfold OperatorLink.next
    dsimp only
    split <;> exact List.prefix_rfl
  | deliver count =>
    show l.asked <+: (l.deliver c strtod count).asked
    unfold OperatorLink.deliver
    split <;> exact List.prefix_rfl
  | send command fields =>
    show l.asked <+: (l.send command fields).asked
    unfold OperatorLink.send
    split
    · exact List.prefix_append _ _
    · exact List.prefix_rfl
  | read chunks =>
    show l.asked <+: (l.read c chunks).asked
    unfold OperatorLink.read
    split
    · exact List.prefix_rfl
    · split
      · split <;> exact List.prefix_rfl
      · exact List.prefix_rfl
  | take chunks =>
    show l.asked <+: (l.take c chunks).asked
    unfold OperatorLink.take
    split
    · split <;> exact List.prefix_rfl
    · exact List.prefix_rfl

theorem asked_exec (l : OperatorLink) (events : List LinkEvent) :
    l.asked <+: ((linkMachine strtod startedAt bootId c).exec l events).asked :=
  Machine.exec_preserves (M := linkMachine strtod startedAt bootId c)
    (P := fun l' => l.asked <+: l'.asked)
    (fun l' event begins => begins.trans (asked_next l' event)) List.prefix_rfl events

theorem server_exec (l : OperatorLink) (events : List LinkEvent) :
    ∃ steps, ((linkMachine strtod startedAt bootId c).exec l events).server =
      (threadsMachine strtod startedAt bootId).exec l.server steps := by
  refine Machine.exec_projected (f := OperatorLink.server) (fun l event => ?_) l events
  rcases l.server_next c strtod event with same | ⟨step, same⟩
  · exact ⟨[], same⟩
  · exact ⟨[step], same⟩

/-- After this many events the server computes the list that a call returns. -/
def AnsweredAt (strtod : Bytes → StrtodResult) (startedAt bootId : Long) (c : Nat)
    (events : List LinkEvent) (n k : Nat) (readings : TimeReadings)
    (list : List (List Bytes)) : Prop :=
  let M := linkMachine strtod startedAt bootId c
  k ≤ events.length ∧ ∃ frame lines,
    Answers c (M.exec M.init (events.take k)) readings n frame lines ∧ list = shownLines lines

/-- The states of later calls are later. -/
theorem AnsweredAt.ordered {events : List LinkEvent} {m n j k : Nat}
    {readings readings' : TimeReadings} {list list' : List (List Bytes)}
    (first : AnsweredAt strtod startedAt bootId c events m j readings list)
    (second : AnsweredAt strtod startedAt bootId c events n k readings' list')
    (less : m < n) : j ≤ k := by
  obtain ⟨-, frame, lines, answers, -⟩ := first
  obtain ⟨-, frame', lines', answers', -⟩ := second
  by_contra later
  let M := linkMachine strtod startedAt bootId c
  obtain ⟨steps, same⟩ := M.exec_take_le M.init events (Nat.le_of_not_le later)
  have asked : (M.exec M.init (events.take k)).asked <+: (M.exec M.init (events.take j)).asked :=
    same ▸ asked_exec _ steps
  have length := asked.length_le
  rw [answers.length, answers'.length] at length
  omega

section Runs

variable {events : List LinkEvent} (along : (linkMachine strtod startedAt bootId c).Along
  (fun l event => AnswersApart c l event ∧ l.SendsInStep event)
  (linkMachine strtod startedAt bootId c).init events)

include along

theorem exists_answeredAt :
    let M := linkMachine strtod startedAt bootId c
    ∀ entry ∈ (M.exec M.init events).returned, ∃ k readings,
      AnsweredAt strtod startedAt bootId c events entry.1 k readings entry.2 := by
  intro M entry member
  obtain ⟨o, recorded⟩ := recorded_run along
  obtain ⟨frame, lines, ⟨before, readings, after, split, answers⟩, shown⟩ :=
    recorded.returned entry (recorded.refines.returned ▸ member)
  refine ⟨before.length, readings, ?_, frame, lines, ?_, shown⟩
  · rw [split, List.length_append]
    exact Nat.le_add_right _ _
  · rwa [split, List.take_left]

/-- There is a place for each number, in the order of the numbers. -/
theorem exists_places :
    let M := linkMachine strtod startedAt bootId c
    ∃ (place : Nat → Nat) (readings : Nat → TimeReadings), Monotone place ∧
      ∀ entry ∈ (M.exec M.init events).returned,
        AnsweredAt strtod startedAt bootId c events entry.1 (place entry.1) (readings entry.1)
          entry.2 := by
  intro M
  let point (n k : Nat) : Prop := ∃ list readings, (n, list) ∈ (M.exec M.init events).returned ∧
    AnsweredAt strtod startedAt bootId c events n k readings list
  have ordered {m n j k : Nat} : point m j → point n k → m < n → j ≤ k :=
    fun ⟨_, _, _, first⟩ ⟨_, _, _, second⟩ less => first.ordered second less
  have within {n k : Nat} : point n k → k ≤ events.length := fun ⟨_, _, _, answered⟩ => answered.1
  obtain ⟨place, monotone, placed⟩ := Machine.exists_points ordered within
  have known (n : Nat) : ∃ readings, ∀ list, (n, list) ∈ (M.exec M.init events).returned →
      AnsweredAt strtod startedAt bootId c events n (place n) readings list := by
    by_cases returned : ∃ list, (n, list) ∈ (M.exec M.init events).returned
    · obtain ⟨list, member⟩ := returned
      obtain ⟨k, readings, answered⟩ := exists_answeredAt along _ member
      obtain ⟨list', readings', member', answered'⟩ :=
        placed n ⟨k, list, readings, member, answered⟩
      refine ⟨readings', fun list'' member'' => ?_⟩
      rwa [(numbered_exec events).unique member'' member']
    · exact ⟨ServerThreads.alarmedReadings, fun list member => absurd ⟨list, member⟩ returned⟩
  choose readings known using known
  exact ⟨place, readings, monotone, fun entry member => known entry.1 entry.2 member⟩

end Runs

/-- In every run in which no command lists a node `ALERT` and none is sent after a call failed, what
the calls of `request` return is what an `Answering` gives: the states of the calls are states of
the run in the order of the calls, and each of them occurs while its call is under way. -/
theorem calls_serialize (strtod : Bytes → StrtodResult) (startedAt bootId : Long) (c : Nat)
    {events : List LinkEvent} :
    let M := linkMachine strtod startedAt bootId c
    let l := M.exec M.init events
    M.Along (fun l event => AnswersApart c l event ∧ l.SendsInStep event) M.init events →
    ∃ A : Answering strtod startedAt bootId, ∃ place : Nat → Nat, Monotone place ∧
      (∀ n, A.state n = (M.exec M.init (events.take (place n))).server) ∧
      (∀ n, A.isUp n = true ↔ n ∈ l.returned.map Prod.fst) ∧
      ∀ entry ∈ l.returned, ∃ command fields frame,
        encodeMessage command fields = some (frame ++ [lineFeed]) ∧
        l.asked[entry.1]? = some frame ∧ A.request entry.1 command fields = .ok entry.2 ∧
        let calling := M.exec M.init (events.take (place entry.1))
        calling.asking ≠ none ∧ calling.asked.length = entry.1 + 1 := by
  intro M l along
  obtain ⟨place, readings, monotone, known⟩ := exists_places along
  let calling (n : Nat) : OperatorLink := M.exec M.init (events.take (place n))
  have rest (n : Nat) : M.exec (calling n) (events.drop (place n)) = l := by
    rw [← M.exec_append, List.take_append_drop]
  have reachable (n : Nat) :
      (threadsMachine strtod startedAt bootId).Reachable (calling n).server :=
    reachable_exec (Machine.Reachable.init _) _
  obtain ⟨fd, owned⟩ := exists_owned l c
  have owned (n : Nat) : Owned c fd (calling n) :=
    (along_owned (reachable n) ((rest n).symm ▸ owned)).1
  have later (n : Nat) : ∃ steps, (calling (n + 1)).server =
      (threadsMachine strtod startedAt bootId).exec (calling n).server steps := by
    obtain ⟨steps, same⟩ := M.exec_take_le M.init events (monotone (Nat.le_succ n))
    have next : calling (n + 1) = M.exec (calling n) steps := same
    exact next ▸ server_exec (calling n) steps
  let A : Answering strtod startedAt bootId :=
    ⟨fd, fun n => (calling n).server, readings, fun n => decide (n ∈ l.returned.map Prod.fst),
      reachable 0, later⟩
  refine ⟨A, place, monotone, fun _ => rfl, fun n => decide_eq_true_iff, fun entry member => ?_⟩
  obtain ⟨-, frame, lines, answers, shown⟩ := known entry member
  obtain ⟨command, fields, encoded⟩ := answers.encoded
  obtain ⟨t, thread, computed⟩ := answers.computed
  have whole : A.reply entry.1 frame = lines := by
    rw [computed, owned entry.1 t thread]
    rfl
  refine ⟨command, fields, frame, encoded, ?_, ?_, answers.asking, answers.length⟩
  · have asked : (calling entry.1).asked <+: l.asked := rest entry.1 ▸ asked_exec _ _
    exact OperatorSession.getElem?_of_prefix asked answers.asked
  · have up : A.isUp entry.1 = true := decide_eq_true (List.mem_map_of_mem member)
    rw [A.request_whole up encoded answers.apart, whole, shown]

open ServerThreads in
/-- The call of an operator that asks for the nodes. -/
theorem calls_serialize_sample :
    let M := linkMachine strtodDigits ⟨7, by decide⟩ ⟨1, by decide⟩ 0
    (M.exec M.init linkedEvents).returned = [(0, [[ascii "OK", ascii "0"]])] ∧
      ∃ A : Answering strtodDigits ⟨7, by decide⟩ ⟨1, by decide⟩, A.isUp 0 = true ∧
        ∃ command fields, A.request 0 command fields = .ok [[ascii "OK", ascii "0"]] := by
  intro M
  have returned : (M.exec M.init linkedEvents).returned = [(0, [[ascii "OK", ascii "0"]])] := by
    decide +kernel
  obtain ⟨A, _, _, _, up, calls⟩ :=
    calls_serialize strtodDigits ⟨7, by decide⟩ ⟨1, by decide⟩ 0 linkedEvents_along
  rw [returned] at up calls
  obtain ⟨command, fields, _, _, _, answered, _⟩ := calls (0, _) (List.mem_singleton_self _)
  exact ⟨returned, A, (up 0).mpr (List.mem_singleton_self 0), command, fields, answered⟩

end OperatorLink

end Telep
