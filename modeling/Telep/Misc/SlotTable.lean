import Mathlib.Algebra.BigOperators.Group.Finset.Piecewise
import Mathlib.Data.Finset.Option
import Mathlib.Data.Fintype.Card

/-!
# Tables of keyed slots

A fixed array of `n` slots, searched linearly. `key` reads the key of a slot's contents, or
`none` for a free slot. The searches are the loops C code writes (first slot with the key,
first free slot); under `KeysDistinct` the table is a partial map from keys to contents, and
the lemmas below say what an in-place update, an insertion and a removal do to that map.
-/

namespace Telep.SlotTable

universe u v

variable {n : Nat} {κ : Type u} {β : Type v}

/-- The first slot that holds the key `k`. -/
def find [DecidableEq κ] (key : β → Option κ) (t : Fin n → β) (k : κ) : Option (Fin n) :=
  (List.finRange n).find? fun i => key (t i) = some k

/-- The first free slot. -/
def firstFree (key : β → Option κ) (t : Fin n → β) : Option (Fin n) :=
  (List.finRange n).find? fun i => (key (t i)).isNone

/-- The last free slot. -/
def lastFree (key : β → Option κ) (t : Fin n → β) : Option (Fin n) :=
  (List.finRange n).reverse.find? fun i => (key (t i)).isNone

/-- The contents of the slot that holds `k`: the table read as a partial map. -/
def lookup [DecidableEq κ] (key : β → Option κ) (t : Fin n → β) (k : κ) : Option β :=
  (find key t k).map t

/-- No key is held by two slots. -/
def KeysDistinct (key : β → Option κ) (t : Fin n → β) : Prop :=
  ∀ i j k, key (t i) = some k → key (t j) = some k → i = j

/-- The keys held by the slots. -/
def keys [DecidableEq κ] (key : β → Option κ) (t : Fin n → β) : Finset κ :=
  Finset.univ.biUnion fun i => (key (t i)).toFinset

variable {key : β → Option κ} {t : Fin n → β} {i j : Fin n} {k l : κ} {b : β}

/-- Overwriting a slot with contents of the same key, or with a key no other slot holds, or
with free contents, keeps the keys distinct. -/
theorem KeysDistinct.update (d : KeysDistinct key t)
    (fresh : ∀ k, key b = some k → ∀ j, j ≠ i → key (t j) ≠ some k) :
    KeysDistinct key (Function.update t i b) := by
  intro x y k hx hy
  by_cases hxi : x = i <;> by_cases hyi : y = i
  · rw [hxi, hyi]
  · subst hxi
    rw [Function.update_self] at hx
    rw [Function.update_of_ne hyi] at hy
    exact absurd hy (fresh k hx y hyi)
  · subst hyi
    rw [Function.update_self] at hy
    rw [Function.update_of_ne hxi] at hx
    exact absurd hx (fresh k hy x hxi)
  · rw [Function.update_of_ne hxi] at hx
    rw [Function.update_of_ne hyi] at hy
    exact d x y k hx hy

theorem KeysDistinct.update_same (d : KeysDistinct key t) (same : key b = key (t i)) :
    KeysDistinct key (Function.update t i b) :=
  d.update fun k hk j hj hjk => hj (d j i k hjk (same ▸ hk))

theorem KeysDistinct.update_none (d : KeysDistinct key t) (free : key b = none) :
    KeysDistinct key (Function.update t i b) :=
  d.update fun k hk => by simp [free] at hk

theorem KeysDistinct.update_fresh (d : KeysDistinct key t) (hb : key b = some k)
    (fresh : ∀ j, key (t j) ≠ some k) : KeysDistinct key (Function.update t i b) :=
  d.update fun l hl j _ => by
    obtain rfl : k = l := Option.some.inj (hb.symm.trans hl)
    exact fresh j

/-- Keys that are only kept or given up stay distinct. -/
theorem KeysDistinct.of_kept (d : KeysDistinct key t) {t' : Fin n → β}
    (kept : ∀ i k, key (t' i) = some k → key (t i) = some k) : KeysDistinct key t' :=
  fun i j k hi hj => d i j k (kept i k hi) (kept j k hj)

theorem firstFree_spec (h : firstFree key t = some i) : key (t i) = none := by
  simpa using List.find?_some h

theorem firstFree_eq_none : firstFree key t = none ↔ ∀ i, key (t i) ≠ none := by
  simp [firstFree, List.find?_eq_none]

theorem lastFree_spec (h : lastFree key t = some i) : key (t i) = none := by
  simpa using List.find?_some h

theorem lastFree_eq_none : lastFree key t = none ↔ ∀ i, key (t i) ≠ none := by
  simp [lastFree, List.find?_eq_none]

variable [DecidableEq κ]

theorem find_spec (h : find key t k = some i) : key (t i) = some k := by
  simpa using List.find?_some h

theorem find_eq_none : find key t k = none ↔ ∀ i, key (t i) ≠ some k := by
  simp [find, List.find?_eq_none]

theorem KeysDistinct.find_eq (d : KeysDistinct key t) (h : key (t i) = some k) :
    find key t k = some i := by
  cases hf : find key t k with
  | none => exact absurd h (find_eq_none.mp hf i)
  | some j => rw [d j i k (find_spec hf) h]

theorem lookup_eq_none : lookup key t k = none ↔ find key t k = none := by
  simp [lookup]

theorem lookup_of_find (h : find key t k = some i) : lookup key t k = some (t i) := by
  simp [lookup, h]

/-- A search depends on which slots hold the key only. -/
theorem find_congr {t' : Fin n → β} (same : ∀ i, key (t' i) = some k ↔ key (t i) = some k) :
    find key t' k = find key t k := by
  unfold find
  congr 1
  funext i
  exact decide_eq_decide.mpr (same i)

/-- Searching after an overwrite that keeps the slot's key finds what it found before. -/
theorem find_update_same (same : key b = key (t i)) :
    find key (Function.update t i b) k = find key t k := by
  refine find_congr fun j => ?_
  by_cases h : j = i
  · subst h; rw [Function.update_self, same]
  · rw [Function.update_of_ne h]

/-- After filling a free slot with a fresh key, that key is found there. -/
theorem find_update_fresh_self (d : KeysDistinct key t) (hb : key b = some k)
    (fresh : find key t k = none) : find key (Function.update t i b) k = some i :=
  (d.update_fresh hb (find_eq_none.mp fresh)).find_eq (by rw [Function.update_self, hb])

/-- Filling a free slot does not disturb the search for any other key. -/
theorem find_update_fresh_other (free : key (t i) = none) (hb : key b = some k) (ne : l ≠ k) :
    find key (Function.update t i b) l = find key t l := by
  refine find_congr fun j => ?_
  by_cases h : j = i
  · subst h
    have : ¬ k = l := fun e => ne e.symm
    simp [hb, free, this]
  · rw [Function.update_of_ne h]

theorem mem_keys : k ∈ keys key t ↔ ∃ i, key (t i) = some k := by
  simp [keys]

/-- A table with distinct keys is full exactly when it holds as many keys as it has slots. -/
theorem KeysDistinct.full_iff (d : KeysDistinct key t) :
    firstFree key t = none ↔ (keys key t).card = n := by
  rw [firstFree_eq_none]
  have card : (keys key t).card = (Finset.univ.filter fun i => (key (t i)).isSome).card := by
    rw [keys, Finset.card_biUnion]
    · rw [Finset.card_filter]
      refine Finset.sum_congr rfl fun i _ => ?_
      cases key (t i) <;> simp
    · intro x _ y _ hxy
      rw [Function.onFun, Finset.disjoint_left]
      intro k hx hy
      simp only [Option.mem_toFinset, Option.mem_def] at hx hy
      exact hxy (d x y k hx hy)
  rw [card]
  constructor
  · intro full
    rw [Finset.filter_true_of_mem, Finset.card_univ, Fintype.card_fin]
    intro i _
    exact Option.isSome_iff_ne_none.mpr (full i)
  · intro hc i
    have all : (Finset.univ.filter fun i => (key (t i)).isSome) = Finset.univ :=
      Finset.eq_univ_of_card _ (by rw [hc, Fintype.card_fin])
    have hi : i ∈ Finset.univ.filter fun i => (key (t i)).isSome := by
      rw [all]
      exact Finset.mem_univ i
    exact Option.isSome_iff_ne_none.mp (by simpa using hi)

end Telep.SlotTable
