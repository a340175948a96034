import Mathlib.Data.BitVec
import Mathlib.Data.UInt
/-!
# Machine words as sets of small numbers

A word with bit `i` set stands for a set that contains `i`. Code tests a
member with `x &&& (1 <<< i)`, adds one with `x ||| (1 <<< i)` and
removes one with `x &&& ~~~(1 <<< i)`. The file says what each of these
does to every other member, for bit vectors of any width.
-/

namespace BitSet

variable {w : ℕ} {x : BitVec w} {i j : ℕ}

/-- The word with one member. -/
def bit (w i : ℕ) : BitVec w := 1#w <<< i

theorem bit_eq_twoPow : bit w i = BitVec.twoPow w i := by
  rw [bit, BitVec.twoPow_eq]

theorem getLsbD_bit : (bit w i).getLsbD j = (decide (j < w) && decide (i = j)) := by
  rw [bit_eq_twoPow, BitVec.getLsbD_twoPow]
  by_cases hj : j < w <;> by_cases hij : i = j <;> simp_all

/-- Testing a member reads its bit. -/
theorem and_bit_eq_zero_iff : x &&& bit w i = 0#w ↔ x.getLsbD i = false := by
  constructor
  · intro h
    by_cases hi : i < w
    · have hbit : (x &&& bit w i).getLsbD i = false := by rw [h, BitVec.getLsbD_zero]
      rw [BitVec.getLsbD_and, getLsbD_bit] at hbit
      simpa only [hi, decide_true, Bool.and_true] using hbit
    · exact BitVec.getLsbD_of_ge x i (by omega)
  · intro h
    apply BitVec.eq_of_getLsbD_eq
    intro k hk
    rw [BitVec.getLsbD_and, getLsbD_bit]
    by_cases hki : i = k
    · subst hki
      simp [h]
    · simp [hki]

/-- Adding a member adds it and no other. -/
theorem getLsbD_or_bit (hj : j < w) :
    (x ||| bit w i).getLsbD j = (x.getLsbD j || decide (i = j)) := by
  rw [BitVec.getLsbD_or, getLsbD_bit]
  simp [hj]

/-- Removing a member removes it and no other. -/
theorem getLsbD_and_not_bit (hj : j < w) :
    (x &&& ~~~bit w i).getLsbD j = (x.getLsbD j && !decide (i = j)) := by
  rw [BitVec.getLsbD_and, BitVec.getLsbD_not, getLsbD_bit]
  simp [hj]

/-! ## Masks -/

section

variable {m m' : BitVec w}

/-- Adding a mask adds all of it. -/
theorem or_and_self : (x ||| m) &&& m = m := by
  apply BitVec.eq_of_getLsbD_eq
  intro k _
  rw [BitVec.getLsbD_and, BitVec.getLsbD_or]
  cases m.getLsbD k
  · rw [Bool.and_false]
  · rw [Bool.or_true, Bool.and_true]

/-- Removing a mask removes all of it. -/
theorem and_not_and_self : (x &&& ~~~m) &&& m = 0#w := by
  apply BitVec.eq_of_getLsbD_eq
  intro k hk
  rw [BitVec.getLsbD_and, BitVec.getLsbD_and, BitVec.getLsbD_not, BitVec.getLsbD_zero]
  simp [hk, Bool.and_assoc]

/-- Two masks without a common member. -/
theorem getLsbD_of_disjoint (h : m &&& m' = 0#w) (k : ℕ) :
    (m.getLsbD k && m'.getLsbD k) = false := by
  rw [← BitVec.getLsbD_and, h, BitVec.getLsbD_zero]

/-- Adding a mask adds nothing of one without a common member. -/
theorem or_and_of_disjoint (h : m &&& m' = 0#w) : (x ||| m) &&& m' = x &&& m' := by
  apply BitVec.eq_of_getLsbD_eq
  intro k _
  have hk := getLsbD_of_disjoint h k
  rw [BitVec.getLsbD_and, BitVec.getLsbD_or, BitVec.getLsbD_and, Bool.and_or_distrib_right, hk,
    Bool.or_false]

/-- Removing a mask removes nothing of one without a common member. -/
theorem and_not_and_of_disjoint (h : m &&& m' = 0#w) : (x &&& ~~~m) &&& m' = x &&& m' := by
  apply BitVec.eq_of_getLsbD_eq
  intro k hk
  have hd := getLsbD_of_disjoint h k
  rw [BitVec.getLsbD_and, BitVec.getLsbD_and, BitVec.getLsbD_not, BitVec.getLsbD_and]
  cases hm : m.getLsbD k
  · simp [hk]
  · rw [hm, Bool.true_and] at hd
    simp [hd]

end

end BitSet
