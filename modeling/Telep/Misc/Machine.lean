import Mathlib.Data.List.Induction

/-!
# Deterministic machines

A `Machine` takes one input at a time, answers it with an output and moves to its next
state. The rules below are the inductions that results about whole runs need: an invariant of
the state, an invariant that also speaks of the inputs read so far, and the two-run rule that
compares a run with the run of only the inputs that concern one observer.
-/

namespace Telep

universe u v w y

/-- A deterministic machine with states `σ`, inputs `ι` and outputs `ο`. -/
structure Machine (σ : Type u) (ι : Type v) (ο : Type w) where
  init : σ
  step : σ → ι → ο × σ

namespace Machine

variable {σ : Type u} {ι : Type v} {ο : Type w} {β : Type y}

/-- The state after reading the inputs in order, from `s`. -/
def exec (M : Machine σ ι ο) (s : σ) : List ι → σ
  | [] => s
  | i :: is => M.exec (M.step s i).2 is

/-- What the steps of a run contribute, in order, when step `i` from `s` contributes `f s i`. -/
def collect (M : Machine σ ι ο) (f : σ → ι → List β) (s : σ) : List ι → List β
  | [] => []
  | i :: is => f s i ++ M.collect f (M.step s i).2 is

/-- The outputs produced while reading the inputs in order, from `s`. -/
def outputs (M : Machine σ ι ο) : σ → List ι → List ο := M.collect fun s i => [(M.step s i).1]

/-- The inputs of a run that satisfy `keep`, each with its output. -/
def observed (M : Machine σ ι ο) (keep : ι → Bool) : σ → List ι → List (ι × ο) :=
  M.collect fun s i => if keep i then [(i, (M.step s i).1)] else []

/-- Every step of the run satisfies `P`. -/
def Along (M : Machine σ ι ο) (P : σ → ι → Prop) (s : σ) : List ι → Prop
  | [] => True
  | i :: is => P s i ∧ M.Along P (M.step s i).2 is

/-- A state that some finite run from the initial state ends in. -/
def Reachable (M : Machine σ ι ο) (s : σ) : Prop := ∃ is, M.exec M.init is = s

variable (M : Machine σ ι ο)

@[simp] theorem exec_nil (s : σ) : M.exec s [] = s := rfl

@[simp] theorem exec_cons (s : σ) (i : ι) (is : List ι) :
    M.exec s (i :: is) = M.exec (M.step s i).2 is := rfl

theorem exec_append (s : σ) (is js : List ι) :
    M.exec s (is ++ js) = M.exec (M.exec s is) js := by
  induction is generalizing s with
  | nil => rfl
  | cons i is ih => exact ih _

theorem exec_concat (s : σ) (is : List ι) (i : ι) :
    M.exec s (is ++ [i]) = (M.step (M.exec s is) i).2 := M.exec_append s is [i]

theorem collect_append (f : σ → ι → List β) (s : σ) (is js : List ι) :
    M.collect f s (is ++ js) = M.collect f s is ++ M.collect f (M.exec s is) js := by
  induction is generalizing s with
  | nil => rfl
  | cons i is ih => simp [collect, ih]

theorem collect_concat (f : σ → ι → List β) (s : σ) (is : List ι) (i : ι) :
    M.collect f s (is ++ [i]) = M.collect f s is ++ f (M.exec s is) i := by
  simp [collect_append, collect]

/-- When each step contributes one item at most, an item of the contributions is that of one
step. -/
theorem collect_split {f : σ → ι → List β} (one : ∀ s i, (f s i).length ≤ 1) {s : σ}
    {is : List ι} {a b : List β} {x : β} (h : M.collect f s is = a ++ x :: b) :
    ∃ js i ks, is = js ++ i :: ks ∧ M.collect f s js = a ∧ f (M.exec s js) i = [x] ∧
      M.collect f (M.exec s (js ++ [i])) ks = b := by
  induction is generalizing s a with
  | nil => simp [collect] at h
  | cons i is ih =>
    rw [collect] at h
    have step := one s i
    cases now : f s i with
    | nil =>
      rw [now, List.nil_append] at h
      obtain ⟨js, i', ks, rfl, before, this, after⟩ := ih h
      exact ⟨i :: js, i', ks, rfl, by rw [collect, now, before, List.nil_append], this, after⟩
    | cons y ys =>
      obtain rfl : ys = [] := List.eq_nil_of_length_eq_zero (by simp [now] at step; simpa)
      rw [now] at h
      cases a with
      | nil =>
        obtain ⟨rfl, rest⟩ := List.cons.inj h
        exact ⟨[], i, is, rfl, rfl, now, rest⟩
      | cons z a =>
        obtain ⟨rfl, rest⟩ := List.cons.inj h
        obtain ⟨js, i', ks, rfl, before, this, after⟩ := ih rest
        exact ⟨i :: js, i', ks, rfl, by rw [collect, now, before]; rfl, this, after⟩

theorem Reachable.init : M.Reachable M.init := ⟨[], rfl⟩

variable {M}

theorem Reachable.exec {s : σ} (h : M.Reachable s) (is : List ι) : M.Reachable (M.exec s is) := by
  obtain ⟨js, rfl⟩ := h
  exact ⟨js ++ is, M.exec_append _ _ _⟩

/-- What every step preserves, every run preserves. -/
theorem exec_preserves {P : σ → Prop} (step : ∀ s i, P s → P (M.step s i).2) {s : σ} (h : P s)
    (is : List ι) : P (M.exec s is) := by
  induction is generalizing s with
  | nil => exact h
  | cons i is ih => exact ih (step s i h)

/-- What every step that satisfies `P` preserves, a run of such steps preserves. -/
theorem Along.exec_preserves {P : σ → ι → Prop} {Q : σ → Prop}
    (step : ∀ s i, Q s → P s i → Q (M.step s i).2) {s : σ} (h : Q s) {is : List ι}
    (along : M.Along P s is) : Q (M.exec s is) := by
  induction is generalizing s with
  | nil => exact h
  | cons i is ih => exact ih (step s i h along.1) along.2

/-- The invariant rule. -/
theorem Reachable.invariant {P : σ → Prop} (init : P M.init)
    (step : ∀ s i, P s → P (M.step s i).2) {s : σ} (h : M.Reachable s) : P s := by
  obtain ⟨is, rfl⟩ := h
  exact exec_preserves step init is

/-- The invariant rule for a statement about the inputs read so far and the state they led
to: induction on the run, the last input split off. -/
theorem exec_history {P : List ι → σ → Prop} {s : σ} (init : P [] s)
    (step : ∀ is i, P is (M.exec s is) → P (is ++ [i]) (M.step (M.exec s is) i).2)
    (is : List ι) : P is (M.exec s is) := by
  induction is using List.reverseRecOn with
  | nil => exact init
  | append_singleton is i ih =>
    rw [exec_concat]
    exact step is i ih

/-- The two-run rule. `R` relates a state of the full run to a state of the run that reads
only the kept inputs. A kept input is answered alike on both sides and keeps them related; any
other input keeps the full side related to the other, which does not move. The hypothesis
`ok` on the outputs of kept inputs is whatever the comparison has to rule out. -/
theorem exec_projection (keep : ι → Bool) (R : σ → σ → Prop) (ok : ι → ο → Prop)
    (kept : ∀ s t i, keep i → R s t → ok i (M.step s i).1 →
      (M.step s i).1 = (M.step t i).1 ∧ R (M.step s i).2 (M.step t i).2)
    (dropped : ∀ s t i, keep i = false → R s t → R (M.step s i).2 t)
    {s t : σ} (h : R s t) (is : List ι) (good : ∀ e ∈ M.observed keep s is, ok e.1 e.2) :
    M.observed keep s is = M.observed keep t (is.filter keep) ∧
      R (M.exec s is) (M.exec t (is.filter keep)) := by
  induction is generalizing s t with
  | nil => exact ⟨rfl, h⟩
  | cons i is ih =>
    by_cases hk : keep i = true
    · simp only [observed, collect, hk, if_true, List.singleton_append, List.mem_cons,
        forall_eq_or_imp] at good
      obtain ⟨same, related⟩ := kept s t i hk h good.1
      obtain ⟨rest, final⟩ := ih related good.2
      refine ⟨?_, by simpa only [List.filter_cons, hk, if_true, exec_cons] using final⟩
      simp only [observed] at rest
      simp only [List.filter_cons, observed, collect, hk, if_true, same, rest]
    · have hk' : keep i = false := by simpa using hk
      simp only [observed, collect, hk', Bool.false_eq_true, if_false, List.nil_append] at good
      simp only [List.filter_cons, hk', Bool.false_eq_true, if_false, observed, collect,
        List.nil_append, exec_cons]
      exact ih (dropped s t i hk' h) good

/-- What the outputs of a run contribute, when inputs outside `keep` contribute nothing, is
what its kept inputs contribute. -/
theorem outputs_flatMap {keep : ι → Bool} {f : ο → List β}
    (quiet : ∀ s i, keep i = false → f (M.step s i).1 = []) (s : σ) (is : List ι) :
    (M.outputs s is).flatMap f = (M.observed keep s is).flatMap fun e => f e.2 := by
  induction is generalizing s with
  | nil => rfl
  | cons i is ih =>
    simp only [outputs, observed] at ih
    by_cases hk : keep i = true
    · simp [outputs, observed, collect, hk, ih]
    · have hk' : keep i = false := by simpa using hk
      simp [outputs, observed, collect, hk', quiet s i hk', ih]

end Machine

end Telep
