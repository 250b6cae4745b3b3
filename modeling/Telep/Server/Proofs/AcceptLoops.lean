import Telep.Misc.Ledger
import Telep.Server.AcceptLoops

/-!
# Every place is given back

Each branch of an accept loop, and each thread, gives back exactly what its connection took: its
place, its descriptor and its memory (`GivesBack`). So in every run the counter is the number of the
places that are taken, and every descriptor is closed exactly once (`places_kept`).
-/

namespace Telep

/-! ## What is owed -/

/-- What calls for a connection give back. -/
def owing (c : Connection) (calls : List Call) : List (Resource × Nat) :=
  calls.filterMap fun call => call.returns.map (·, c.number)

/-- The connection that the loop holds, with the calls that give back what it took. -/
def AcceptPoint.owner : AcceptPoint → List (Connection × List Call)
  | waiting => []
  | accepted c => [(c, [.close])]
  | admitted c => [(c, [.release, .close])]
  | allocated c => [(c, [.free, .release, .close])]
  | leaving c calls => [(c, calls)]

/-- What the connection that the loop holds has not taken yet. -/
def AcceptPoint.untaken : AcceptPoint → List (Resource × Nat)
  | accepted c => [(.place, c.number), (.memory, c.number)]
  | admitted c => [(.memory, c.number)]
  | _ => []

/-- Every branch gives back what was taken before it, and the thread gives back everything. -/
structure AcceptLoop.GivesBack (l : AcceptLoop) : Prop where
  full : ∀ c, (owing c l.full).Perm (owing c [.close])
  noMemory : ∀ c, (owing c l.noMemory).Perm (owing c [.release, .close])
  notCreated : ∀ c, (owing c l.notCreated).Perm (owing c [.free, .release, .close])
  thread : ∀ c, (owing c l.thread).Perm (owing c [.free, .release, .close])

theorem perm_owing {calls calls' : List Call}
    (same : (calls.filterMap Call.returns).Perm (calls'.filterMap Call.returns)) (c : Connection) :
    (owing c calls).Perm (owing c calls') := by
  have owing_eq (calls : List Call) :
      owing c calls = (calls.filterMap Call.returns).map (·, c.number) := by
    rw [owing, List.map_filterMap]
  rw [owing_eq, owing_eq]
  exact same.map _

theorem tcpCommandServer_givesBack : tcpCommandServer.GivesBack where
  full := perm_owing (by decide)
  noMemory := perm_owing (by decide)
  notCreated := perm_owing (by decide)
  thread := perm_owing (by decide)

theorem httpStatusServer_givesBack : httpStatusServer.GivesBack where
  full := perm_owing (by decide)
  noMemory := perm_owing (by decide)
  notCreated := perm_owing (by decide)
  thread := perm_owing (by decide)

theorem close_mem_iff {c : Connection} {calls : List Call} :
    Call.close ∈ calls ↔ (Resource.descriptor, c.number) ∈ owing c calls := by
  rw [owing, List.mem_filterMap]
  constructor
  · intro member
    exact ⟨.close, member, rfl⟩
  · rintro ⟨call, member, gives⟩
    cases call with
    | close => exact member
    | _ => simp [Call.returns] at gives

namespace AcceptState

/-- The connections in hand, each with the calls before its owner. -/
def owners (s : AcceptState) : List (Connection × List Call) := s.point.owner ++ s.threads

def owed (s : AcceptState) : List (Resource × Nat) := s.owners.flatMap fun o => owing o.1 o.2

/-- The places, the descriptors and the memory in the books of a loop. -/
structure Inv (s : AcceptState) (capacity : Nat) : Prop where
  balanced : Balanced s.taken s.returned s.owed
  numbered : ∀ e ∈ s.taken, e.2 < s.accepted
  all : ∀ k < s.accepted, (Resource.descriptor, k) ∈ s.taken
  fresh : ∀ e ∈ s.point.untaken, e ∉ s.taken
  counter : s.counter = (s.owed.countP (·.1 = .place) : Nat)
  room : s.counter ≤ capacity
  opens : ∀ o ∈ s.owners, Call.close ∈ o.2 → s.descriptors o.1.fd = some o.1.number
  misses : s.misses = 0

section Steps

variable {s s' : AcceptState} {capacity : Nat} {c : Connection} {calls calls' : List Call}
  {call : Call} {rest : List (Connection × List Call)}

theorem owed_perm (owners : s.owners.Perm ((c, calls) :: rest)) :
    s.owed.Perm (owing c calls ++ rest.flatMap fun o => owing o.1 o.2) := by
  have same := owners.flatMap_right fun o : Connection × List Call => owing o.1 o.2
  rwa [List.flatMap_cons] at same

/-- What leaves the books alone keeps the invariant. -/
theorem Inv.keep (h : s.Inv capacity) (owed : s.owed.Perm s'.owed)
    (opens : ∀ o ∈ s'.owners, Call.close ∈ o.2 → s.descriptors o.1.fd = some o.1.number)
    (books : s'.taken = s.taken ∧ s'.returned = s.returned ∧ s'.accepted = s.accepted)
    (kept : s'.counter = s.counter ∧ s'.descriptors = s.descriptors ∧ s'.misses = s.misses)
    (fresh : s'.point.untaken ⊆ s.point.untaken) : s'.Inv capacity := by
  obtain ⟨taken, returned, accepted⟩ := books
  obtain ⟨counter, descriptors, misses⟩ := kept
  refine ⟨?_, ?_, ?_, ?_, ?_, ?_, ?_, misses.trans h.misses⟩
  · rw [taken, returned]
    exact h.balanced.perm owed
  · rw [taken, accepted]
    exact h.numbered
  · rw [taken, accepted]
    exact h.all
  · rw [taken]
    exact fun e member => h.fresh e (fresh member)
  · rw [counter, h.counter, owed.countP_eq]
  · rw [counter]
    exact h.room
  · rw [descriptors]
    exact opens

theorem Inv.mine (h : s.Inv capacity) (before : s.owners.Perm ((c, calls) :: rest))
    (closes : Call.close ∈ calls) : s.descriptors c.fd = some c.number :=
  h.opens (c, calls) (before.mem_iff.mpr List.mem_cons_self) closes

theorem Inv.other (h : s.Inv capacity) (before : s.owners.Perm ((c, calls) :: rest))
    {o : Connection × List Call} (member : o ∈ rest) (closes : Call.close ∈ o.2) :
    s.descriptors o.1.fd = some o.1.number :=
  h.opens o (before.mem_iff.mpr (List.mem_cons_of_mem _ member)) closes

/-- Another order of the same debts. -/
theorem Inv.turn (h : s.Inv capacity) (before : s.owners.Perm ((c, calls) :: rest))
    (after : s'.owners.Perm ((c, calls') :: rest)) (same : (owing c calls').Perm (owing c calls))
    (books : s'.taken = s.taken ∧ s'.returned = s.returned ∧ s'.accepted = s.accepted)
    (kept : s'.counter = s.counter ∧ s'.descriptors = s.descriptors ∧ s'.misses = s.misses)
    (fresh : s'.point.untaken ⊆ s.point.untaken) : s'.Inv capacity := by
  have owed : s.owed.Perm s'.owed :=
    (owed_perm before).trans ((same.symm.append_right _).trans (owed_perm after).symm)
  refine h.keep owed (fun o member closes => ?_) books kept fresh
  rcases List.mem_cons.mp (after.mem_iff.mp member) with rfl | other
  · exact h.mine before (close_mem_iff.mpr (same.mem_iff.mp (close_mem_iff.mp closes)))
  · exact h.other before other closes

/-- An owner that gives nothing back any more leaves. -/
theorem Inv.done (h : s.Inv capacity) (before : s.owners = (c, []) :: s'.owners)
    (books : s'.taken = s.taken ∧ s'.returned = s.returned ∧ s'.accepted = s.accepted)
    (kept : s'.counter = s.counter ∧ s'.descriptors = s.descriptors ∧ s'.misses = s.misses)
    (fresh : s'.point.untaken ⊆ s.point.untaken) : s'.Inv capacity := by
  have owed : s.owed = s'.owed := by
    rw [AcceptState.owed, before]
    rfl
  refine h.keep (List.Perm.of_eq owed) (fun o member closes => ?_) books kept fresh
  exact h.opens o (before ▸ List.mem_cons_of_mem _ member) closes

theorem owing_cons {r : Resource} (gives : call.returns = some r) :
    owing c (call :: calls) = (r, c.number) :: owing c calls := by
  rw [owing, List.filterMap_cons, gives]
  rfl

/-- The descriptor of a connection is closed by its owner alone. -/
theorem Inv.alone (h : s.Inv capacity) (before : s.owners.Perm ((c, .close :: calls) :: rest)) :
    Call.close ∉ calls ∧ ∀ o ∈ rest, Call.close ∈ o.2 → o.1.number ≠ c.number := by
  have owed := (h.balanced.perm (owed_perm before)).owed_nodup
  rw [owing_cons (r := .descriptor) rfl, List.cons_append, List.nodup_cons, List.mem_append,
    not_or] at owed
  obtain ⟨⟨mine, others⟩, -⟩ := owed
  refine ⟨fun again => mine (close_mem_iff.mp again), fun o member closes same => ?_⟩
  refine others (List.mem_flatMap.mpr ⟨o, member, ?_⟩)
  rw [← same]
  exact close_mem_iff.mp closes

variable {p : AcceptPoint} {ts : List (Connection × List Call)}

/-- A call gives back what it says, for the connection of its owner. -/
theorem Inv.give (h : s.Inv capacity) (before : s.owners.Perm ((c, call :: calls) :: rest))
    {r : Resource} (gives : call.returns = some r) :
    s.call c call = { s with
      counter := s.counter - if r = .place then 1 else 0
      descriptors :=
        if r = .descriptor then Function.update s.descriptors c.fd none else s.descriptors
      returned := s.returned ++ [(r, c.number)] } := by
  cases call with
  | serve => cases gives
  | subscribersRemove => cases gives
  | close =>
    obtain rfl : Resource.descriptor = r := Option.some.inj gives
    have opened := h.mine before List.mem_cons_self
    simp [AcceptState.call, opened]
  | free =>
    obtain rfl : Resource.memory = r := Option.some.inj gives
    simp [AcceptState.call]
  | release =>
    obtain rfl : Resource.place = r := Option.some.inj gives
    simp [AcceptState.call]

/-- What an owner has still to close is open after a call. -/
theorem Inv.opens_give (h : s.Inv capacity) (before : s.owners.Perm ((c, call :: calls) :: rest))
    {r : Resource} (gives : call.returns = some r) {o : Connection × List Call}
    (member : o ∈ (c, calls) :: rest) (closes : Call.close ∈ o.2) :
    (if r = .descriptor then Function.update s.descriptors c.fd none else s.descriptors) o.1.fd =
      some o.1.number := by
  by_cases descriptor : r = .descriptor
  · have close : call = .close := by
      cases call <;> simp_all [Call.returns]
    subst close
    obtain ⟨mine, others⟩ := h.alone before
    rw [if_pos descriptor]
    rcases List.mem_cons.mp member with rfl | other
    · exact absurd closes mine
    · have opened := h.other before other closes
      rw [Function.update_of_ne, opened]
      intro same
      rw [same, h.mine before List.mem_cons_self] at opened
      exact others o other closes (Option.some.inj opened).symm
  · rw [if_neg descriptor]
    rcases List.mem_cons.mp member with rfl | other
    · exact h.mine before (List.mem_cons_of_mem _ closes)
    · exact h.other before other closes

/-- An owner makes its next call. -/
theorem Inv.called (h : s.Inv capacity) (before : s.owners.Perm ((c, call :: calls) :: rest))
    (after : (p.owner ++ ts).Perm ((c, calls) :: rest)) (fresh : p.untaken ⊆ s.point.untaken) :
    Inv { s.call c call with point := p, threads := ts } capacity := by
  cases gives : call.returns with
  | none =>
    have same : s.call c call = s := by
      cases call with
      | serve => rfl
      | subscribersRemove => rfl
      | _ => simp [Call.returns] at gives
    rw [same]
    refine h.turn before after ?_ ⟨rfl, rfl, rfl⟩ ⟨rfl, rfl, rfl⟩ fresh
    rw [owing, owing, List.filterMap_cons, gives]
    exact List.Perm.refl _
  | some r =>
    have balanced := h.balanced.perm (owed_perm before)
    rw [owing_cons gives, List.cons_append] at balanced
    have owed := owed_perm (s := { s with point := p, threads := ts }) after
    have counted := (owed_perm before).countP_eq (·.1 = .place)
    rw [owing_cons gives, List.cons_append, List.countP_cons, ← owed.countP_eq] at counted
    rw [h.give before gives]
    refine ⟨balanced.give.perm owed.symm, h.numbered, h.all,
      fun e member => h.fresh e (fresh member), ?_, ?_, fun o member closes => ?_, h.misses⟩
    · show s.counter - _ = _
      rw [h.counter, counted]
      by_cases place : r = .place
      · simp only [place, if_true, decide_true]
        push_cast
        exact Int.add_sub_cancel _ _
      · simp only [place, if_false, decide_false, Bool.false_eq_true]
        exact Int.sub_zero _
    · have room := h.room
      show s.counter - _ ≤ _
      split <;> omega
    · exact h.opens_give before gives (after.mem_iff.mp member) closes

/-- An owner with a descriptor to close is an accepted connection. -/
theorem Inv.known (h : s.Inv capacity) (before : s.owners.Perm ((c, calls) :: rest))
    (closes : Call.close ∈ calls) : c.number < s.accepted := by
  have owes : (Resource.descriptor, c.number) ∈ s.owed := by
    refine (owed_perm before).mem_iff.mpr (List.mem_append_left _ ?_)
    exact close_mem_iff.mp closes
  exact h.numbered _ (h.balanced.mem_taken.mpr (.inr owes))

/-- The connection in the loop takes what its owner will give back. -/
theorem Inv.took (h : s.Inv capacity) (giver : Call) {r : Resource} {counter : Int}
    (before : s.owners.Perm ((c, calls) :: rest)) (closes : Call.close ∈ calls)
    (after : (p.owner ++ s.threads).Perm ((c, giver :: calls) :: rest))
    (gives : giver.returns = some r) (untaken : s.point.untaken = (r, c.number) :: p.untaken)
    (later : (r, c.number) ∉ p.untaken)
    (counted : counter = s.counter + if r = .place then 1 else 0)
    (room : counter ≤ capacity) :
    Inv { s.take r c.number with counter := counter, point := p } capacity := by
  have fresh : (r, c.number) ∉ s.taken := h.fresh _ (untaken ▸ List.mem_cons_self)
  have owed : (owing c (giver :: calls) ++ rest.flatMap fun o => owing o.1 o.2).Perm
      ((r, c.number) :: s.owed) := by
    rw [owing_cons gives, List.cons_append]
    exact (owed_perm before).symm.cons _
  have owed' := (owed_perm (s := { s.take r c.number with counter := counter, point := p })
    after).trans owed
  refine ⟨(h.balanced.take fresh).perm owed'.symm, fun e member => ?_, fun k known => ?_,
    fun e member => ?_, ?_, room, fun o member close => ?_, h.misses⟩
  · rcases List.mem_append.mp member with old | new
    · exact h.numbered e old
    · rw [List.mem_singleton.mp new]
      exact h.known before closes
  · exact List.mem_append_left _ (h.all k known)
  · have old : e ∉ s.taken := h.fresh e (untaken ▸ List.mem_cons_of_mem _ member)
    refine fun taken => (List.mem_append.mp taken).elim old fun new => later ?_
    rwa [← List.mem_singleton.mp new]
  · rw [owed'.countP_eq, List.countP_cons, counted, h.counter]
    by_cases place : r = .place
    · simp only [place, if_true, decide_true]
      push_cast
      rfl
    · simp only [place, if_false, decide_false, Bool.false_eq_true]
      exact Int.add_zero _
  · rcases List.mem_cons.mp (after.mem_iff.mp member) with rfl | other
    · exact h.mine before closes
    · exact h.other before other close

/-- A connection is accepted on a descriptor that was closed. -/
theorem Inv.accept (h : s.Inv capacity) {fd : Nat} (waits : s.point = .waiting)
    (closed : s.descriptors fd = none) :
    Inv { s.take .descriptor s.accepted with
      descriptors := Function.update s.descriptors fd (some s.accepted)
      point := .accepted ⟨s.accepted, fd⟩
      accepted := s.accepted + 1 } capacity := by
  have unknown (r : Resource) : (r, s.accepted) ∉ s.taken := fun member =>
    Nat.lt_irrefl _ (h.numbered _ member)
  have owners : s.owners = s.threads := by
    rw [AcceptState.owners, waits]
    rfl
  have owed : s.owed = s.threads.flatMap fun o => owing o.1 o.2 := by
    rw [AcceptState.owed, owners]
  refine ⟨?_, fun e member => ?_, fun k known => ?_, fun e member => ?_, ?_, h.room,
    fun o member close => ?_, h.misses⟩
  · have balanced := h.balanced.take (unknown .descriptor)
    rwa [owed] at balanced
  · rcases List.mem_append.mp member with old | new
    · exact Nat.lt_succ_of_lt (h.numbered e old)
    · rw [List.mem_singleton.mp new]
      exact Nat.lt_succ_self _
  · rcases Nat.lt_succ_iff_lt_or_eq.mp known with old | rfl
    · exact List.mem_append_left _ (h.all k old)
    · exact List.mem_append_right _ List.mem_cons_self
  · have new : e.2 = s.accepted ∧ e.1 ≠ .descriptor := by
      rcases List.mem_cons.mp member with rfl | member
      · simp
      · rw [List.mem_singleton.mp member]
        simp
    refine fun taken => (List.mem_append.mp taken).elim (fun old => ?_) fun same => ?_
    · exact unknown e.1 (new.1 ▸ old)
    · exact new.2 (congrArg Prod.fst (List.mem_singleton.mp same))
  · show s.counter = _
    rw [h.counter, owed]
    rfl
  · show Function.update s.descriptors fd (some s.accepted) o.1.fd = some o.1.number
    rcases List.mem_cons.mp member with rfl | other
    · exact Function.update_self ..
    · have opened := h.opens o (owners ▸ other) close
      rw [Function.update_of_ne, opened]
      intro same
      rw [same, closed] at opened
      cases opened

end Steps

variable {s s' : AcceptState} {l : AcceptLoop}

theorem owners_of_point {p : AcceptPoint} (point : s.point = p) :
    s.owners = p.owner ++ s.threads := by
  rw [owners, point]

/-- A thread of the loop and the others, before and after its next call. -/
theorem thread_perm {i : Nat} {c : Connection} {calls : List Call}
    (found : s.threads[i]? = some (c, calls)) (calls' : List Call) :
    s.threads.Perm ((c, calls) :: s.threads.eraseIdx i) ∧
      (s.threads.set i (c, calls')).Perm ((c, calls') :: s.threads.eraseIdx i) := by
  obtain ⟨lt, this⟩ := List.getElem?_eq_some_iff.mp found
  refine ⟨?_, List.set_perm_cons_eraseIdx lt _⟩
  rw [← this]
  exact (List.getElem_cons_eraseIdx_perm lt).symm

/-- Every call of a loop and of its threads keeps the books. -/
theorem inv_step (gives : l.GivesBack) (event : AcceptEvent) (moved : l.step s event = some s')
    (h : s.Inv l.capacity) : s'.Inv l.capacity := by
  cases event with
  | accept fd =>
    simp only [AcceptLoop.step] at moved
    split at moved
    · next can =>
      cases moved
      exact h.accept can.1 can.2
    · cases moved
  | checkCapacity =>
    cases point : s.point with
    | accepted c =>
      have before := List.Perm.of_eq (owners_of_point point)
      have untaken : s.point.untaken = [(.place, c.number), (.memory, c.number)] := by
        rw [point]
        rfl
      simp only [AcceptLoop.step, point] at moved
      split at moved
      · cases moved
        exact h.turn before (List.Perm.refl _) (gives.full c) ⟨rfl, rfl, rfl⟩ ⟨rfl, rfl, rfl⟩
          (List.nil_subset _)
      · next room =>
        cases moved
        exact h.took .release before List.mem_cons_self (List.Perm.refl _) rfl untaken
          (by simp [AcceptPoint.untaken]) rfl (by omega)
    | _ => simp [AcceptLoop.step, point] at moved
  | malloc succeeds =>
    cases point : s.point with
    | admitted c =>
      have before := List.Perm.of_eq (owners_of_point point)
      have untaken : s.point.untaken = [(.memory, c.number)] := by
        rw [point]
        rfl
      simp only [AcceptLoop.step, point] at moved
      split at moved
      · cases moved
        exact h.took .free before (by decide) (List.Perm.refl _) rfl untaken
          List.not_mem_nil (Int.add_zero _).symm h.room
      · cases moved
        exact h.turn before (List.Perm.refl _) (gives.noMemory c) ⟨rfl, rfl, rfl⟩
          ⟨rfl, rfl, rfl⟩ (List.nil_subset _)
    | _ => simp [AcceptLoop.step, point] at moved
  | create succeeds =>
    cases point : s.point with
    | allocated c =>
      have before := List.Perm.of_eq (owners_of_point point)
      simp only [AcceptLoop.step, point] at moved
      split at moved
      · cases moved
        exact h.turn before (List.perm_append_singleton _ _) (gives.thread c) ⟨rfl, rfl, rfl⟩
          ⟨rfl, rfl, rfl⟩ (List.nil_subset _)
      · cases moved
        exact h.turn before (List.Perm.refl _) (gives.notCreated c) ⟨rfl, rfl, rfl⟩
          ⟨rfl, rfl, rfl⟩ (List.nil_subset _)
    | _ => simp [AcceptLoop.step, point] at moved
  | leave =>
    cases point : s.point with
    | leaving c calls =>
      have before := List.Perm.of_eq (owners_of_point point)
      simp only [AcceptLoop.step, point] at moved
      cases calls with
      | nil =>
        cases moved
        exact h.done (owners_of_point point) ⟨rfl, rfl, rfl⟩ ⟨rfl, rfl, rfl⟩ (List.nil_subset _)
      | cons call calls =>
        cases moved
        refine h.called before (List.Perm.of_eq ?_) (List.nil_subset _)
        rw [call_threads]
        rfl
    | _ => simp [AcceptLoop.step, point] at moved
  | thread i =>
    cases found : s.threads[i]? with
    | none => simp [AcceptLoop.step, found] at moved
    | some o =>
      obtain ⟨c, calls⟩ := o
      cases calls with
      | nil => simp [AcceptLoop.step, found] at moved
      | cons call calls =>
        simp only [AcceptLoop.step, found] at moved
        cases moved
        obtain ⟨before, after⟩ := thread_perm found calls
        have owners : s.owners.Perm
            ((c, call :: calls) :: (s.point.owner ++ s.threads.eraseIdx i)) :=
          (before.append_left _).trans List.perm_middle
        refine h.called (p := (s.call c call).point) owners ?_ ?_
        · rw [call_point]
          exact (after.append_left _).trans List.perm_middle
        · rw [call_point]
          exact List.Subset.refl _

theorem inv_init : l.machine.init.Inv l.capacity where
  balanced := Balanced.nil
  numbered := fun _ member => absurd member List.not_mem_nil
  all := fun _ known => absurd known (Nat.not_lt_zero _)
  fresh := fun _ member => absurd member List.not_mem_nil
  counter := rfl
  room := Int.natCast_nonneg _
  opens := fun _ member => absurd member List.not_mem_nil
  misses := rfl

/-- Every run keeps the books. -/
theorem inv_run (gives : l.GivesBack) (reached : l.machine.Reachable s) : s.Inv l.capacity := by
  obtain ⟨events, rfl⟩ := reached
  refine Machine.exec_preserves (P := fun s : AcceptState => s.Inv l.capacity)
    (fun s event h => ?_) inv_init _
  show ((l.step s event).getD s).Inv l.capacity
  cases moved : l.step s event with
  | none => exact h
  | some s' => exact inv_step gives event moved h

/-! ## The places -/

/-- The connections in hand with a resource: the one being set up and those of the threads that have
the call that gives it back before them. -/
def owes (s : AcceptState) (r : Resource) : List Nat :=
  (s.owed.filter (·.1 = r)).map Prod.snd

/-- The places and the descriptors of a state. -/
structure PlacesKept (s : AcceptState) (capacity : Nat) : Prop where
  /-- The connections that were admitted and have not released their place are counted. -/
  counter : s.counter = ((s.took .place).filter (· ∉ s.gave .place)).length
  within : 0 ≤ s.counter ∧ s.counter ≤ capacity
  /-- What is taken and not given back is in hand. -/
  owes : ∀ r, ((s.took r).filter (· ∉ s.gave r)).Perm (s.owes r)
  once : ∀ r, (s.took r).Nodup ∧ (s.gave r).Nodup ∧ s.gave r ⊆ s.took r
  accepted : ∀ number, number ∈ s.took .descriptor ↔ number < s.accepted
  /-- A descriptor is closed exactly once, by the end of its branch or of its thread. -/
  closed : ∀ number < s.accepted,
    (s.gave .descriptor).count number = if number ∈ s.owes .descriptor then 0 else 1
  misses : s.misses = 0

theorem Inv.placesKept {capacity : Nat} (h : s.Inv capacity) : s.PlacesKept capacity := by
  have books (r : Resource) : Balanced (s.took r) (s.gave r) (s.owes r) := h.balanced.column r
  have counter : s.counter = (s.owes .place).length := by
    rw [h.counter, owes, List.length_map, List.countP_eq_length_filter]
  have accepted (number : Nat) : number ∈ s.took .descriptor ↔ number < s.accepted := by
    constructor
    · intro member
      obtain ⟨e, taken, rfl⟩ := List.mem_map.mp member
      exact h.numbered e (List.mem_filter.mp taken).1
    · intro known
      refine List.mem_map.mpr ⟨(.descriptor, number), ?_, rfl⟩
      exact List.mem_filter.mpr ⟨h.all number known, rfl⟩
  refine ⟨?_, ⟨?_, h.room⟩, fun r => (books r).perm_owed.symm, fun r => ?_, accepted, ?_, h.misses⟩
  · rw [counter, (books .place).perm_owed.length_eq]
  · rw [counter]
    exact Int.natCast_nonneg _
  · refine ⟨(books r).once, ?_, fun number back => (books r).mem_taken.mpr (.inl back)⟩
    refine List.nodup_iff_count_le_one.mpr fun number => ?_
    exact Nat.le_trans (Nat.le_add_right _ _) ((books r).count_le number)
  · exact fun number known => (books .descriptor).count_returned ((accepted number).mpr known)

end AcceptState

/-! ## The end of a run -/

namespace AcceptLoop

variable (l : AcceptLoop)

/-- An event of the connections at hand. -/
def Serves (s : AcceptState) (event : AcceptEvent) : Prop :=
  (∀ fd, event ≠ .accept fd) ∧ (l.step s event).isSome

/-- Only a new connection changes the state. -/
def Quiet (s : AcceptState) : Prop := ∀ event, ¬ l.Serves s event

/-- What `tcp_command_server` and `http_status_server` promise for a capacity. -/
structure KeepsPlaces (capacity : Nat) : Prop where
  kept : ∀ s, l.machine.Reachable s → s.PlacesKept capacity
  /-- A connection is refused only while the other connections hold the capacity. -/
  admits : ∀ s c, l.machine.Reachable s → s.point = .accepted c →
    ((l.machine.step s .checkCapacity).2.point = .admitted c ↔ (s.owes .place).length < capacity)
  /-- Without new connections every run ends, -/
  ends : ∀ s, ∃ bound, ∀ events, l.machine.Along l.Serves s events → events.length ≤ bound
  /-- and then the whole capacity is free and every descriptor is closed. -/
  quiet : ∀ s, l.machine.Reachable s → l.Quiet s →
    s.point = .waiting ∧ s.counter = 0 ∧
      ∀ number < s.accepted, (s.gave .descriptor).count number = 1

/-- The most steps that a point of the loop and the thread that it starts have before them. -/
def pointWork : AcceptPoint → Nat
  | .waiting => 0
  | .leaving _ calls => calls.length + 1
  | .allocated _ => l.thread.length + l.notCreated.length + 2
  | .admitted _ => l.thread.length + l.notCreated.length + l.noMemory.length + 3
  | .accepted _ =>
      l.thread.length + l.notCreated.length + l.noMemory.length + l.full.length + 4

def work (s : AcceptState) : Nat := l.pointWork s.point + (s.threads.flatMap Prod.snd).length

variable {l} {s s' : AcceptState}

/-- Every step for a connection at hand is work done. -/
theorem step_work {event : AcceptEvent} (old : ∀ fd, event ≠ .accept fd)
    (moved : l.step s event = some s') : l.work s' < l.work s := by
  cases event with
  | accept fd => exact absurd rfl (old fd)
  | checkCapacity =>
    cases point : s.point with
    | accepted c =>
      simp only [step, point] at moved
      split at moved <;> cases moved <;>
        simp only [work, point, pointWork, AcceptState.take] <;> omega
    | _ => simp [step, point] at moved
  | malloc succeeds =>
    cases point : s.point with
    | admitted c =>
      simp only [step, point] at moved
      split at moved <;> cases moved <;>
        simp only [work, point, pointWork, AcceptState.take] <;> omega
    | _ => simp [step, point] at moved
  | create succeeds =>
    cases point : s.point with
    | allocated c =>
      simp only [step, point] at moved
      split at moved <;> cases moved
      · simp only [work, point, pointWork, List.flatMap_append, List.flatMap_singleton,
          List.length_append]
        omega
      · simp only [work, point, pointWork]
        omega
    | _ => simp [step, point] at moved
  | leave =>
    cases point : s.point with
    | leaving c calls =>
      simp only [step, point] at moved
      cases calls with
      | nil =>
        cases moved
        simp [work, point, pointWork]
      | cons call calls =>
        cases moved
        simp [work, point, pointWork]
    | _ => simp [step, point] at moved
  | thread i =>
    cases found : s.threads[i]? with
    | none => simp [step, found] at moved
    | some o =>
      obtain ⟨c, calls⟩ := o
      cases calls with
      | nil => simp [step, found] at moved
      | cons call calls =>
        simp only [step, found] at moved
        cases moved
        obtain ⟨before, after⟩ := AcceptState.thread_perm found calls
        have before := (before.flatMap_right Prod.snd).length_eq
        have after := (after.flatMap_right Prod.snd).length_eq
        simp only [List.flatMap_cons, List.length_append, List.length_cons] at before after
        simp only [work, AcceptState.call_point]
        omega

/-- A run without new connections is no longer than the work at its start. -/
theorem run_le_work {events : List AcceptEvent} (along : l.machine.Along l.Serves s events) :
    events.length ≤ l.work s := by
  induction events generalizing s with
  | nil => exact Nat.zero_le _
  | cons event events ih =>
    obtain ⟨⟨old, moves⟩, along⟩ := along
    obtain ⟨s', moved⟩ := Option.isSome_iff_exists.mp moves
    have next : (l.machine.step s event).2 = s' := by
      show (l.step s event).getD s = s'
      rw [moved, Option.getD_some]
    rw [next] at along
    exact Nat.lt_of_le_of_lt (ih along) (step_work old moved)

/-- In a quiet state the loop waits and its threads have returned. -/
theorem Quiet.idle (h : l.Quiet s) : s.point = .waiting ∧ ∀ o ∈ s.threads, o.2 = [] := by
  have stuck (event : AcceptEvent) (old : ∀ fd, event ≠ .accept fd) : l.step s event = none :=
    Option.not_isSome_iff_eq_none.mp fun moves => h event ⟨old, moves⟩
  constructor
  · cases point : s.point with
    | waiting => rfl
    | accepted c =>
      have stuck := stuck .checkCapacity (by simp)
      simp only [step, point] at stuck
      split at stuck <;> cases stuck
    | admitted c => simpa [step, point] using stuck (.malloc false) (by simp)
    | allocated c => simpa [step, point] using stuck (.create false) (by simp)
    | leaving c calls =>
      have stuck := stuck .leave (by simp)
      cases calls with
      | nil => simp [step, point] at stuck
      | cons call calls => simp [step, point] at stuck
  · intro o member
    obtain ⟨i, lt, this⟩ := List.mem_iff_getElem.mp member
    have stuck := stuck (.thread i) (by simp)
    obtain ⟨c, calls⟩ := o
    cases calls with
    | nil => rfl
    | cons call calls =>
      simp [step, List.getElem?_eq_getElem lt, this] at stuck

theorem Quiet.owes (h : l.Quiet s) (r : Resource) : s.owes r = [] := by
  obtain ⟨waits, returned⟩ := h.idle
  have owed : s.owed = [] := by
    rw [AcceptState.owed, AcceptState.owners_of_point waits]
    refine List.flatMap_eq_nil_iff.mpr fun o member => ?_
    rw [returned o member]
    rfl
  rw [AcceptState.owes, owed]
  rfl

theorem GivesBack.keepsPlaces (gives : l.GivesBack) : l.KeepsPlaces l.capacity where
  kept s reached := (AcceptState.inv_run gives reached).placesKept
  admits s c reached point := by
    have kept := (AcceptState.inv_run gives reached).placesKept
    have counter : s.counter = (s.owes .place).length := by
      rw [kept.counter, (kept.owes .place).length_eq]
    show ((l.step s .checkCapacity).getD s).point = .admitted c ↔ _
    simp only [step, point]
    split
    · next full =>
      simp only [Option.getD_some, reduceCtorEq, false_iff]
      omega
    · next room =>
      simp only [Option.getD_some, true_iff]
      omega
  ends s := ⟨l.work s, fun events along => run_le_work along⟩
  quiet s reached quiet := by
    have kept := (AcceptState.inv_run gives reached).placesKept
    refine ⟨quiet.idle.1, ?_, fun number known => ?_⟩
    · rw [kept.counter, (kept.owes .place).length_eq, quiet.owes]
      rfl
    · rw [kept.closed number known, quiet.owes, if_neg List.not_mem_nil]

end AcceptLoop

/-- In every interleaving of an accept loop with its threads, and with every failure of `malloc` and
`pthread_create`, the counter is the number of the places that are taken, and no place is lost. -/
theorem places_kept : tcpCommandServer.KeepsPlaces 64 ∧ httpStatusServer.KeepsPlaces 16 :=
  ⟨tcpCommandServer_givesBack.keepsPlaces, httpStatusServer_givesBack.keepsPlaces⟩

end Telep
