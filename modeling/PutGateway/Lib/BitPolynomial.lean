import Mathlib.Algebra.Field.ZMod
import Mathlib.Algebra.Polynomial.OfFn
/-!
# Bit vectors as polynomials over the field of two elements

A bit vector is the polynomial whose coefficients are its bits (`ofBits`):
exclusive or is addition, and a shift to the left is a multiplication by a
power of `X` while nothing falls out at the top. A list of words of one
width is the polynomial of the bits written one after the other, the most
significant bit of the first word being the leading coefficient
(`ofWords`).
-/

namespace BitPolynomial

open Polynomial

/-! ## One bit -/

/-- A bit as a coefficient. -/
def ofBit (b : Bool) : ZMod 2 := if b then 1 else 0

theorem ofBit_xor (a b : Bool) : ofBit (a ^^ b) = ofBit a + ofBit b := by
  cases a <;> cases b <;> decide

theorem ofBit_injective : Function.Injective ofBit := by decide

@[simp] theorem ofBit_false : ofBit false = 0 := rfl

/-! ## One word -/

variable {w k i : ℕ}

/-- **A bit vector as a polynomial**: bit `i` is the coefficient of `X ^ i`. -/
noncomputable def ofBits (v : BitVec w) : (ZMod 2)[X] := ofFn w fun i => ofBit (v.getLsbD i)

theorem coeff_ofBits (v : BitVec w) (i : ℕ) : (ofBits v).coeff i = ofBit (v.getLsbD i) := by
  by_cases hi : i < w
  · exact ofFn_coeff_eq_val_of_lt _ hi
  · rw [BitVec.getLsbD_of_ge v i (by omega)]
    exact ofFn_coeff_eq_zero_of_ge _ (by omega)

theorem degree_ofBits_lt (v : BitVec w) : (ofBits v).degree < w := ofFn_degree_lt _

/-- One bit is a power of `X`. -/
theorem ofBits_twoPow (hi : i < w) : ofBits (BitVec.twoPow w i) = X ^ i := by
  ext j
  rw [coeff_X_pow, coeff_ofBits, BitVec.getLsbD_twoPow]
  by_cases hj : i = j
  · subst hj
    simp [hi, ofBit]
  · simp [hj, Ne.symm hj]

/-- Exclusive or is addition. -/
theorem ofBits_xor (v u : BitVec w) : ofBits (v ^^^ u) = ofBits v + ofBits u := by
  ext i
  rw [coeff_add, coeff_ofBits, coeff_ofBits, coeff_ofBits, BitVec.getLsbD_xor, ofBit_xor]

/-- A word placed at the top of a wider register. -/
theorem ofBits_shiftLeft_setWidth (hk : k ≤ w) (d : BitVec k) :
    ofBits (d.setWidth w <<< (w - k)) = X ^ (w - k) * ofBits d := by
  ext i
  rw [coeff_X_pow_mul', coeff_ofBits, coeff_ofBits, BitVec.getLsbD_shiftLeft, BitVec.getLsbD_setWidth]
  by_cases hlow : w - k ≤ i
  · rw [if_pos hlow]
    by_cases hi : i < w
    · have hin : i - (w - k) < w := by omega
      simp [hi, hin, Nat.not_lt.mpr hlow]
    · have hout : d.getLsbD (i - (w - k)) = false := BitVec.getLsbD_of_ge _ _ (by omega)
      simp [hout]
  · rw [if_neg hlow]
    simp [Nat.not_le.mp hlow]

/-! ## Several words -/

/-- **Words one after the other as a polynomial**, the last bit being the
constant coefficient. -/
noncomputable def ofWords (words : List (BitVec k)) : (ZMod 2)[X] :=
  words.foldl (fun p d => X ^ k * p + ofBits d) 0

/-- The bit at a place of a list of words, the most significant bit of
each word first. -/
def bitAt (words : List (BitVec k)) (n : ℕ) : Bool := (words.getD (n / k) 0).getMsbD (n % k)

theorem ofWords_concat (words : List (BitVec k)) (d : BitVec k) :
    ofWords (words ++ [d]) = X ^ k * ofWords words + ofBits d := by
  rw [ofWords, List.foldl_append]
  rfl

theorem bitAt_of_ge {words : List (BitVec k)} {n : ℕ} (h : k * words.length ≤ n) :
    bitAt words n = false := by
  rcases Nat.eq_zero_or_pos k with rfl | hk
  · exact BitVec.getMsbD_of_ge _ _ (Nat.zero_le _)
  · have hout : words.length ≤ n / k := (Nat.le_div_iff_mul_le hk).mpr (by rwa [Nat.mul_comm])
    rw [bitAt, List.getD_eq_default _ _ hout]
    simp

theorem bitAt_append (a b : List (BitVec k)) (n : ℕ) :
    bitAt (a ++ b) n = if n < k * a.length then bitAt a n else bitAt b (n - k * a.length) := by
  by_cases hn : n < k * a.length
  · rw [if_pos hn, bitAt, bitAt, List.getD_append _ _ _ _ (Nat.div_lt_of_lt_mul hn)]
  rw [if_neg hn, bitAt, bitAt]
  rcases Nat.eq_zero_or_pos k with rfl | hk
  · rw [BitVec.getMsbD_zero_length, BitVec.getMsbD_zero_length]
  · have hpast : a.length ≤ n / k := (Nat.le_div_iff_mul_le hk).mpr (by rw [Nat.mul_comm]; omega)
    rw [List.getD_append_right _ _ _ _ hpast, Nat.sub_mul_div, Nat.sub_mul_mod (by omega)]

/-- **The coefficients are the bits**, from the last to the first. -/
theorem coeff_ofWords (words : List (BitVec k)) (i : ℕ) :
    (ofWords words).coeff i =
      if i < k * words.length then ofBit (bitAt words (k * words.length - 1 - i)) else 0 := by
  induction words using List.reverseRecOn generalizing i with
  | nil => simp [ofWords]
  | append_singleton words d ih =>
    rw [ofWords_concat, coeff_add, coeff_X_pow_mul', coeff_ofBits, List.length_append,
      List.length_singleton, Nat.mul_add, Nat.mul_one]
    by_cases hlast : i < k
    · -- a bit of the last word
      have hplace : k * words.length + k - 1 - i - k * words.length = k - 1 - i := by omega
      have hback : k - 1 - (k - 1 - i) = i := by omega
      rw [if_neg (by omega), if_pos (by omega), zero_add, bitAt_append, if_neg (by omega), hplace,
        bitAt, Nat.div_eq_of_lt (by omega), Nat.mod_eq_of_lt (by omega), List.getD_cons_zero,
        BitVec.getMsbD_eq_getLsbD, hback]
      simp [show k - 1 - i < k by omega]
    · rw [if_pos (by omega), ih, BitVec.getLsbD_of_ge d i (by omega), ofBit_false, add_zero]
      by_cases hin : i < k * words.length + k
      · -- a bit of the words before
        have hplace : k * words.length - 1 - (i - k) = k * words.length + k - 1 - i := by omega
        rw [if_pos (by omega), if_pos hin, hplace, bitAt_append, if_pos (by omega)]
      · rw [if_neg (by omega), if_neg hin]

/-- Words with the same bits are the same. -/
theorem eq_of_bitAt {a b : List (BitVec k)} (hlength : a.length = b.length)
    (h : ∀ n, bitAt a n = bitAt b n) : a = b := by
  refine List.ext_getElem hlength fun j hja hjb => ?_
  refine BitVec.eq_of_getMsbD_eq fun i hi => ?_
  have hdiv : (i + k * j) / k = j := by
    rw [Nat.add_mul_div_left _ _ (by omega), Nat.div_eq_of_lt hi, Nat.zero_add]
  have hmod : (i + k * j) % k = i := by
    rw [Nat.add_mul_mod_self_left, Nat.mod_eq_of_lt hi]
  have hbit := h (i + k * j)
  rwa [bitAt, bitAt, hdiv, hmod, List.getD_eq_getElem _ _ hja, List.getD_eq_getElem _ _ hjb] at hbit

/-- Words of one number with the same polynomial are the same. -/
theorem eq_of_ofWords {a b : List (BitVec k)} (hlength : a.length = b.length)
    (h : ofWords a = ofWords b) : a = b := by
  refine eq_of_bitAt hlength fun n => ?_
  by_cases hn : n < k * a.length
  · have hcoeff := congrArg (fun p => coeff p (k * a.length - 1 - n)) h
    have hback : k * a.length - 1 - (k * a.length - 1 - n) = n := by omega
    simp only [coeff_ofWords] at hcoeff
    rw [← hlength, if_pos (by omega), if_pos (by omega), hback] at hcoeff
    exact ofBit_injective hcoeff
  · rw [bitAt_of_ge (by omega), bitAt_of_ge (by rw [← hlength]; omega)]

end BitPolynomial
