import Mathlib.Order.Lattice.Nat
import Mathlib.Order.Monotone.Extension
import Telep.Misc.Machine

/-!
# Simulation between machines

A concrete machine is simulated by an abstract one when every concrete step is matched by a run of
abstract steps, which may be empty, between related states. The hypotheses `P` on the concrete
steps have to imply the hypotheses `Q` on the abstract ones, so that what is known of the abstract
runs can be used. Points of a run that come in the order of their numbers lie on one sequence of
states, each reached from the one before.
-/

namespace Telep

universe u v w x y z

namespace Machine

variable {σ : Type u} {ι : Type v} {ο : Type w} {τ : Type x} {κ : Type y} {ο' : Type z}
  {M : Machine σ ι ο} {A : Machine τ κ ο'} {P : σ → ι → Prop} {Q : τ → κ → Prop}

theorem Along.append {s : σ} {is js : List ι} (first : M.Along P s is)
    (second : M.Along P (M.exec s is) js) : M.Along P s (is ++ js) := by
  induction is generalizing s with
  | nil => exact second
  | cons i is ih => exact ⟨first.1, ih first.2 second⟩

theorem Along.left {s : σ} {is js : List ι} (along : M.Along P s (is ++ js)) :
    M.Along P s is := by
  induction is generalizing s with
  | nil => trivial
  | cons i is ih => exact ⟨along.1, ih along.2⟩

theorem Along.right {s : σ} {is js : List ι} (along : M.Along P s (is ++ js)) :
    M.Along P (M.exec s is) js := by
  induction is generalizing s with
  | nil => exact along
  | cons i is ih => exact ih along.2

/-- The rule for a statement about the inputs read so far, along a run. -/
theorem Along.exec_history {R : List ι → σ → Prop} {s : σ} (init : R [] s)
    (step : ∀ is i, R is (M.exec s is) → P (M.exec s is) i →
      R (is ++ [i]) (M.step (M.exec s is) i).2)
    {is : List ι} (along : M.Along P s is) : R is (M.exec s is) := by
  induction is using List.reverseRecOn with
  | nil => exact init
  | append_singleton is i ih =>
    rw [exec_concat]
    exact step is i (ih along.left) along.right.1

/-- The abstract run that matches a concrete one. -/
structure Matched (A : Machine τ κ ο') (Q : τ → κ → Prop) (R : σ → τ → Prop) (a : τ) (s : σ)
    (ks : List κ) : Prop where
  along : A.Along Q a ks
  related : R s (A.exec a ks)

/-- The simulation rule. -/
theorem Along.simulated {R : σ → τ → Prop}
    (step : ∀ s i a, R s a → P s i → ∃ ks, Matched A Q R a (M.step s i).2 ks)
    {s : σ} {a : τ} (h : R s a) {is : List ι} (along : M.Along P s is) :
    ∃ ks, Matched A Q R a (M.exec s is) ks := by
  induction is generalizing s a with
  | nil => exact ⟨[], trivial, h⟩
  | cons i is ih =>
    obtain ⟨ks, first⟩ := step s i a h along.1
    obtain ⟨ls, rest⟩ := ih first.related along.2
    refine ⟨ks ++ ls, first.along.append rest.along, ?_⟩
    rw [A.exec_append]
    exact rest.related

/-- A concrete step that the abstract machine does not see. -/
theorem Matched.stutter {R : σ → τ → Prop} {a : τ} {s : σ} (related : R s a) :
    Matched A Q R a s [] := ⟨trivial, related⟩

/-- A concrete step that is one abstract step. -/
theorem Matched.one {R : σ → τ → Prop} {a : τ} {s : σ} {k : κ} (allowed : Q a k)
    (related : R s (A.step a k).2) : Matched A Q R a s [k] := ⟨⟨allowed, trivial⟩, related⟩

/-- A part of the state that every step leaves or moves as the abstract machine does. -/
theorem exec_projected {f : σ → τ}
    (step : ∀ s i, ∃ ks, f (M.step s i).2 = A.exec (f s) ks) (s : σ) (is : List ι) :
    ∃ ks, f (M.exec s is) = A.exec (f s) ks := by
  induction is generalizing s with
  | nil => exact ⟨[], rfl⟩
  | cons i is ih =>
    obtain ⟨ks, first⟩ := step s i
    obtain ⟨ls, rest⟩ := ih (M.step s i).2
    refine ⟨ks ++ ls, ?_⟩
    rw [exec_cons, rest, first, A.exec_append]

/-! ## Points of a run -/

/-- Points in the order of their numbers extend to a point for each number. -/
theorem exists_points {point : Nat → Nat → Prop} {bound : Nat}
    (ordered : ∀ {m n j k}, point m j → point n k → m < n → j ≤ k)
    (within : ∀ {n k}, point n k → k ≤ bound) :
    ∃ place : Nat → Nat, Monotone place ∧ ∀ n, (∃ k, point n k) → point n (place n) := by
  classical
  let place : Nat → Nat := fun n => if h : ∃ k, point n k then h.choose else 0
  have chosen : ∀ n, (∃ k, point n k) → point n (place n) := by
    intro n found
    have same : place n = found.choose := dif_pos found
    exact same ▸ found.choose_spec
  have mono : MonotoneOn place {n | ∃ k, point n k} := by
    intro m first n second le
    rcases Nat.lt_or_eq_of_le le with less | rfl
    · exact ordered (chosen m first) (chosen n second) less
    · exact Nat.le_refl _
  have above : BddAbove (place '' {n | ∃ k, point n k}) := by
    refine ⟨bound, ?_⟩
    rintro _ ⟨n, found, rfl⟩
    exact within (chosen n found)
  obtain ⟨extended, monotone, agree⟩ := mono.exists_monotone_extension (OrderBot.bddBelow _) above
  exact ⟨extended, monotone, fun n found => agree found ▸ chosen n found⟩

/-- A later point of a run is reached from an earlier one. -/
theorem exec_take_le (M : Machine σ ι ο) (s : σ) (is : List ι) {j k : Nat} (le : j ≤ k) :
    ∃ js, M.exec s (is.take k) = M.exec (M.exec s (is.take j)) js := by
  refine ⟨(is.drop j).take (k - j), ?_⟩
  rw [← M.exec_append, ← List.take_add, Nat.add_sub_cancel' le]

end Machine

end Telep
