/-!
# Actions on a state that can raise

An action of `ExceptT ε (StateM σ)` returns or raises, and leaves a state in both cases. `Ensures`
says what holds of the value or of the exception, and of the state.
-/

namespace Telep

variable {ε σ α β : Type}

namespace Actions

variable {x : ExceptT ε (StateM σ) α} {f : α → ExceptT ε (StateM σ) β} {s s' : σ} {a : α} {e : ε}

theorem run_bind (x : ExceptT ε (StateM σ) α) (f : α → ExceptT ε (StateM σ) β) (s : σ) :
    (x >>= f).run.run s = match x.run.run s with
      | (.ok a, s') => (f a).run.run s'
      | (.error e, s') => (.error e, s') := by
  rw [ExceptT.run_bind, StateT.run_bind]
  rcases x.run.run s with ⟨_ | a, s'⟩ <;> rfl

theorem run_ok (run : x.run.run s = (.ok a, s')) :
    (x >>= f).run.run s = (f a).run.run s' := by
  rw [run_bind, run]

theorem run_error (run : x.run.run s = (.error e, s')) :
    (x >>= f).run.run s = (.error e, s') := by
  rw [run_bind, run]

theorem run_tryCatch (x : ExceptT ε (StateM σ) α) (h : ε → ExceptT ε (StateM σ) α) (s : σ) :
    (tryCatch x h).run.run s = match x.run.run s with
      | (.ok a, s') => (.ok a, s')
      | (.error e, s') => (h e).run.run s' := by
  rw [ExceptT.run_tryCatch, StateT.run_bind]
  rcases x.run.run s with ⟨_ | a, s'⟩ <;> rfl

/-! ## Postconditions -/

/-- What holds after the action: of its value, or of its exception. -/
def Ensures (x : ExceptT ε (StateM σ) α) (s : σ) (Q : α → σ → Prop) (E : ε → σ → Prop) : Prop :=
  match x.run.run s with
  | (.ok a, s') => Q a s'
  | (.error e, s') => E e s'

variable {Q Q' : α → σ → Prop} {R : β → σ → Prop} {E E' : ε → σ → Prop}

theorem ensures_ok (run : x.run.run s = (.ok a, s')) (holds : Q a s') : Ensures x s Q E := by
  rw [Ensures, run]
  exact holds

theorem ensures_error (run : x.run.run s = (.error e, s')) (holds : E e s') :
    Ensures x s Q E := by
  rw [Ensures, run]
  exact holds

theorem Ensures.cases (ensures : Ensures x s Q E) :
    (∃ a s', x.run.run s = (.ok a, s') ∧ Q a s') ∨
      ∃ e s', x.run.run s = (.error e, s') ∧ E e s' := by
  unfold Ensures at ensures
  cases run : x.run.run s with
  | mk result s' =>
    rw [run] at ensures
    cases result with
    | ok a => exact .inl ⟨a, s', rfl, ensures⟩
    | error e => exact .inr ⟨e, s', rfl, ensures⟩

/-- What holds of the state in both cases. -/
theorem Ensures.state {P : σ → Prop} (ensures : Ensures x s (fun _ => P) fun _ => P) :
    P (x.run.run s).2 := by
  rcases ensures.cases with ⟨a, s', run, holds⟩ | ⟨e, s', run, holds⟩
  · rwa [run]
  · rwa [run]

theorem Ensures.mono (ensures : Ensures x s Q E) (value : ∀ a s, Q a s → Q' a s)
    (raised : ∀ e s, E e s → E' e s) : Ensures x s Q' E' := by
  rcases ensures.cases with ⟨a, s', run, holds⟩ | ⟨e, s', run, holds⟩
  · exact ensures_ok run (value a s' holds)
  · exact ensures_error run (raised e s' holds)

theorem Ensures.bind (first : Ensures x s Q E) (next : ∀ a s, Q a s → Ensures (f a) s R E) :
    Ensures (x >>= f) s R E := by
  rcases first.cases with ⟨a, s', run, holds⟩ | ⟨e, s', run, holds⟩
  · have rest := next a s' holds
    rwa [Ensures, ← run_ok (f := f) run] at rest
  · exact ensures_error (run_error run) holds

/-- A first step whose run is known. -/
theorem Ensures.after (run : x.run.run s = (.ok a, s')) (next : Ensures (f a) s' R E) :
    Ensures (x >>= f) s R E := by
  rwa [Ensures, run_ok run]

/-- A handler that takes over from any exception. -/
theorem Ensures.tryCatch {h : ε → ExceptT ε (StateM σ) α} (first : Ensures x s Q E')
    (handled : ∀ e s, E' e s → Ensures (h e) s Q E) : Ensures (tryCatch x h) s Q E := by
  rcases first.cases with ⟨a, s', run, holds⟩ | ⟨e, s', run, holds⟩
  · exact ensures_ok (by rw [run_tryCatch, run]) holds
  · have rest := handled e s' holds
    unfold Ensures at rest ⊢
    rw [run_tryCatch, run]
    exact rest

/-- An invariant of a loop. -/
theorem ensures_forM {l : List α} {g : α → ExceptT ε (StateM σ) PUnit} {I : σ → Prop}
    (each : ∀ a ∈ l, ∀ s, I s → Ensures (g a) s (fun _ => I) E) (s : σ) (start : I s) :
    Ensures (l.forM g) s (fun _ => I) E := by
  induction l generalizing s with
  | nil => exact start
  | cons a l ih =>
    refine Ensures.bind (f := fun _ => l.forM g) (each a List.mem_cons_self s start) ?_
    exact fun _ s' holds => ih (fun b member => each b (List.mem_cons_of_mem _ member)) s' holds

end Actions

end Telep
