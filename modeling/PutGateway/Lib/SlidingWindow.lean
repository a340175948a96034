import Mathlib.Algebra.GroupWithZero.Nat
import Mathlib.Data.Fintype.Basic
import Mathlib.Data.List.Rotate
/-!
# Sliding windows

The last `c` items of a history, kept in `c` slots that are written in
turn. A slot is found by the place of an item in the history, so nothing
but the number of items so far is needed to go on, and that only modulo
`c`.

What the filled slots hold is, in some order, the last `c` items, or all
of them while there are fewer (`Holds.perm`).
-/

namespace SlidingWindow

variable {α : Type*} {c : ℕ} {history : List α}

/-- The last `c` items of a history. -/
def last (c : ℕ) (history : List α) : List α := history.drop (history.length - c)

theorem length_last (c : ℕ) (history : List α) : (last c history).length = min history.length c := by
  rw [last, List.length_drop]
  omega

theorem last_subset (c : ℕ) (history : List α) : last c history ⊆ history := List.drop_subset _ _

variable [NeZero c] {slots : Fin c → α}

/-- Each of the last `c` items of a history is in its slot. -/
def Holds (slots : Fin c → α) (history : List α) : Prop :=
  ∀ i (h : i < history.length), history.length ≤ i + c → slots (Fin.ofNat c i) = history[i]

theorem Holds.nil : Holds slots [] := by
  intro i h
  cases h

/-- Two of the last `c` places are in different slots. -/
theorem ofNat_ne {i n : ℕ} (hi : i < n) (hn : n < i + c) : Fin.ofNat c i ≠ Fin.ofNat c n := by
  intro heq
  have hmod : n % c = i % c := (Fin.val_eq_of_eq heq).symm
  have hzero := Nat.sub_mod_eq_zero_of_mod_eq hmod
  rw [Nat.mod_eq_of_lt (by omega)] at hzero
  omega

/-- **The next item goes into the slot of its place**, and takes that of
the item that is now too old. -/
theorem Holds.push (h : Holds slots history) (x : α) :
    Holds (Function.update slots (Fin.ofNat c history.length) x) (history ++ [x]) := by
  intro i hi hc
  rw [List.length_append, List.length_singleton] at hi hc
  rcases Nat.lt_or_ge i history.length with hold | hnew
  · rw [Function.update_of_ne (ofNat_ne hold (by omega)), List.getElem_append_left hold]
    exact h i hold (by omega)
  · obtain rfl : i = history.length := by omega
    rw [Function.update_self]
    simp

/-- **The filled slots hold the last items.** -/
theorem Holds.perm (h : Holds slots history) :
    ((List.ofFn slots).take (min history.length c)).Perm (last c history) := by
  rcases Nat.lt_or_ge history.length c with hfew | hmany
  · -- not yet full: the slots are in the order of the history
    have heq : (List.ofFn slots).take (min history.length c) = last c history := by
      refine List.ext_getElem ?_ fun k hk hk' => ?_
      · rw [length_last, List.length_take, List.length_ofFn]
        omega
      · rw [List.length_take, List.length_ofFn] at hk
        have hslot : (⟨k, by omega⟩ : Fin c) = Fin.ofNat c k :=
          Fin.ext (Nat.mod_eq_of_lt (by omega)).symm
        rw [List.getElem_take, List.getElem_ofFn, hslot, h k (by omega) (by omega)]
        simp only [last, List.getElem_drop]
        congr 1
        omega
    rw [heq]
  · -- full: the slots are the last items, turned round
    have heq : (List.ofFn slots).rotate (history.length - c) = last c history := by
      refine List.ext_getElem ?_ fun k hk hk' => ?_
      · rw [length_last, List.length_rotate, List.length_ofFn]
        omega
      · rw [length_last] at hk'
        have hplace := h (history.length - c + k) (by omega) (by omega)
        rw [List.getElem_rotate, List.getElem_ofFn]
        simp only [last, List.getElem_drop]
        rw [← hplace]
        congr 1
        refine Fin.ext ?_
        show (k + (history.length - c)) % (List.ofFn slots).length = (history.length - c + k) % c
        rw [List.length_ofFn, Nat.add_comm]
    rw [List.take_of_length_le (by rw [List.length_ofFn]; omega), ← heq]
    exact (List.rotate_perm _ _).symm

end SlidingWindow
