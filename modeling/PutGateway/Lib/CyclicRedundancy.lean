import Mathlib.Algebra.Polynomial.Div
import Mathlib.RingTheory.Coprime.Lemmas
import PutGateway.Lib.BitPolynomial
/-!
# Cyclic redundancy checks

A register of `w` bits is shifted to the left and reduced by a polynomial
whenever a bit falls out at the top (`shift`); a word is folded into its
top and shifted through it (`feed`), and a checksum is what a list of words
leaves (`checksum`). Read as polynomials over the field of two elements,
all of these are remainders of a division by one polynomial, the
`generator`.

Two messages of one length have the same checksum exactly if the generator
divides their difference. A difference confined to a window as wide as the
register is a power of `X` times a polynomial of smaller degree than the
generator, so a generator with a constant term divides none but zero: the
checksum tells every burst of errors (`checksum_ne_of_burst`).
-/

namespace CyclicRedundancy

open Polynomial BitPolynomial

/-! ## Polynomials that differ in a window -/

section

variable {R : Type*} [CommRing R] {g e : R[X]} {m : ℕ}

/-- A polynomial with an invertible constant term shares no factor with
`X`. -/
theorem isCoprime_X (h0 : IsUnit (g.coeff 0)) : IsCoprime g X := by
  obtain ⟨u, hu⟩ := h0
  refine ⟨C (↑u⁻¹ : R), -(C (↑u⁻¹ : R) * g.divX), ?_⟩
  have hconstant : C (↑u⁻¹ : R) * C (g.coeff 0) = 1 := by
    rw [← C_mul, ← hu, Units.inv_mul, C_1]
  calc C (↑u⁻¹ : R) * g + -(C (↑u⁻¹ : R) * g.divX) * X
      = C (↑u⁻¹ : R) * (g - g.divX * X) := by ring
    _ = C (↑u⁻¹ : R) * C (g.coeff 0) := by rw [sub_eq_of_eq_add' (divX_mul_X_add g).symm]
    _ = 1 := hconstant

/-- **No burst is a multiple**: a polynomial with all its terms in a window
as wide as the degree of a divisor is zero. -/
theorem eq_zero_of_dvd (hg : g.Monic) (h0 : IsUnit (g.coeff 0)) (hdvd : g ∣ e)
    (hwindow : ∀ i, e.coeff i ≠ 0 → m ≤ i ∧ i < m + g.natDegree) : e = 0 := by
  nontriviality R
  have hlow : X ^ m ∣ e := by
    refine X_pow_dvd_iff.mpr fun i hi => ?_
    by_contra hne
    exact absurd (hwindow i hne).1 (Nat.not_le.mpr hi)
  obtain ⟨b, rfl⟩ := hlow
  have hdvd' : g ∣ b := (isCoprime_X h0).pow_right.dvd_of_dvd_mul_left hdvd
  have hsmall : b.degree < g.degree := by
    rw [degree_eq_natDegree hg.ne_zero]
    refine (degree_lt_iff_coeff_zero _ _).mpr fun i hi => ?_
    by_contra hne
    have hterm := (hwindow (i + m) (by rwa [coeff_X_pow_mul])).2
    omega
  by_contra hne
  refine hg.not_dvd_of_degree_lt (fun hb => hne ?_) hsmall hdvd'
  rw [hb, mul_zero]

end

/-! ## The register -/

variable {w k : ℕ} (P : BitVec w)

/-- The polynomial of a register, with the leading term that it leaves
out. -/
noncomputable def generator : (ZMod 2)[X] := X ^ w + ofBits P

theorem degree_generator : (generator P).degree = w := by
  have hlt : (ofBits P).degree < (X ^ w : (ZMod 2)[X]).degree := by
    rw [degree_X_pow]
    exact degree_ofBits_lt P
  rw [generator, degree_add_eq_left_of_degree_lt hlt, degree_X_pow]

theorem monic_generator : (generator P).Monic := monic_X_pow_add (degree_ofBits_lt P)

theorem natDegree_generator : (generator P).natDegree = w :=
  natDegree_eq_of_degree_eq_some (degree_generator P)

/-- One shift of the register. -/
def shift (r : BitVec w) : BitVec w := if r.msb then (r <<< 1) ^^^ P else r <<< 1

/-- Fold a word into the top of the register and shift it through. -/
def feed (r : BitVec w) (d : BitVec k) : BitVec w := (shift P)^[k] (r ^^^ (d.setWidth w <<< (w - k)))

/-- The register after a list of words. -/
def checksum (init : BitVec w) (words : List (BitVec k)) : BitVec w := words.foldl (feed P) init

/-! ## Division -/

variable {P} {r init : BitVec w} {d : BitVec k} {words a b : List (BitVec k)}

/-- What a register holds is reduced. -/
theorem ofBits_mod (r : BitVec w) : ofBits r %ₘ generator P = ofBits r := by
  refine (modByMonic_eq_self_iff (monic_generator P)).mpr ?_
  rw [degree_generator]
  exact degree_ofBits_lt r

/-- A remainder may be taken before a multiplication and an addition. -/
theorem mul_mod_add_mod {g : (ZMod 2)[X]} (hg : g.Monic) (q p c : (ZMod 2)[X]) :
    (q * (p %ₘ g) + c) %ₘ g = (q * p + c) %ₘ g := by
  refine modByMonic_eq_of_dvd_sub hg ?_
  rw [add_sub_add_right_eq_sub, ← mul_sub]
  exact (dvd_modByMonic_sub p g).mul_left q

/-- The bit that falls out at the top becomes the leading term. -/
theorem X_mul_ofBits (r : BitVec w) :
    X * ofBits r = ofBits (r <<< 1) + C (ofBit r.msb) * X ^ w := by
  ext i
  rw [coeff_add, coeff_C_mul, coeff_X_pow, coeff_ofBits, BitVec.getLsbD_shiftLeft,
    BitVec.msb_eq_getLsbD_last]
  cases i with
  | zero =>
    rw [coeff_X_mul_zero]
    rcases Nat.eq_zero_or_pos w with rfl | hw
    · simp
    · simp [hw.ne]
  | succ i =>
    rw [coeff_X_mul, coeff_ofBits]
    rcases Nat.lt_trichotomy (i + 1) w with hlt | rfl | hgt
    · simp [hlt, hlt.ne]
    · simp
    · have hout : r.getLsbD i = false := BitVec.getLsbD_of_ge r i (by omega)
      simp [hout, hgt.ne', Nat.not_lt.mpr hgt.le]

/-- **A shift multiplies by `X`**, up to the generator. -/
theorem ofBits_shift (r : BitVec w) : ofBits (shift P r) = (X * ofBits r) %ₘ generator P := by
  have hshift : ofBits (shift P r) = ofBits (r <<< 1) + C (ofBit r.msb) * ofBits P := by
    unfold shift
    cases r.msb with
    | false => simp
    | true => simp [ofBits_xor, ofBit]
  rw [← ofBits_mod (P := P) (shift P r)]
  refine modByMonic_eq_of_dvd_sub (monic_generator P) ⟨C (ofBit r.msb), ?_⟩
  rw [hshift, X_mul_ofBits, generator, CharTwo.sub_eq_add]
  calc ofBits (r <<< 1) + C (ofBit r.msb) * ofBits P +
        (ofBits (r <<< 1) + C (ofBit r.msb) * X ^ w)
      = ofBits (r <<< 1) + ofBits (r <<< 1) + C (ofBit r.msb) * (X ^ w + ofBits P) := by ring
    _ = (X ^ w + ofBits P) * C (ofBit r.msb) := by
      rw [CharTwo.add_self_eq_zero, zero_add, mul_comm]

theorem ofBits_shift_iterate (n : ℕ) (r : BitVec w) :
    ofBits ((shift P)^[n] r) = (X ^ n * ofBits r) %ₘ generator P := by
  induction n with
  | zero => rw [Function.iterate_zero, id_eq, pow_zero, one_mul, ofBits_mod]
  | succ n ih =>
    have hmod := mul_mod_add_mod (monic_generator P) X (X ^ n * ofBits r) 0
    rw [add_zero, add_zero] at hmod
    rw [Function.iterate_succ_apply', ofBits_shift, ih, hmod, ← mul_assoc, ← pow_succ']

/-- **A word is appended to what is divided.** -/
theorem ofBits_feed (hk : k ≤ w) (r : BitVec w) (d : BitVec k) :
    ofBits (feed P r d) = (X ^ k * ofBits r + X ^ w * ofBits d) %ₘ generator P := by
  have hw : (X : (ZMod 2)[X]) ^ k * X ^ (w - k) = X ^ w := by rw [← pow_add, Nat.add_sub_cancel' hk]
  rw [feed, ofBits_shift_iterate, ofBits_xor, ofBits_shiftLeft_setWidth hk, mul_add, ← mul_assoc, hw]

/-- **A checksum is a remainder**: of the message with `w` zero bits
behind it, and the initial register added to its front. -/
theorem ofBits_checksum (hk : k ≤ w) (init : BitVec w) (words : List (BitVec k)) :
    ofBits (checksum P init words) =
      (X ^ (k * words.length) * ofBits init + X ^ w * ofWords words) %ₘ generator P := by
  induction words using List.reverseRecOn with
  | nil =>
    have hzero : ofWords ([] : List (BitVec k)) = 0 := rfl
    rw [hzero, mul_zero, add_zero, List.length_nil, Nat.mul_zero, pow_zero, one_mul, ofBits_mod]
    rfl
  | append_singleton words d ih =>
    have hlast : checksum P init (words ++ [d]) = feed P (checksum P init words) d := by
      simp only [checksum, List.foldl_append, List.foldl_cons, List.foldl_nil]
    have hpow : (X : (ZMod 2)[X]) ^ (k * (words ++ [d]).length) = X ^ k * X ^ (k * words.length) := by
      rw [List.length_append, List.length_singleton, Nat.mul_add, Nat.mul_one, Nat.add_comm, pow_add]
    rw [hlast, ofBits_feed hk, ih, mul_mod_add_mod (monic_generator P), ofWords_concat, hpow]
    congr 1
    ring

/-! ## Bursts -/

/-- **A burst of errors**: two messages of one length that differ, and
differ in a window of so many consecutive bits only. -/
structure Burst (width : ℕ) (a b : List (BitVec k)) : Prop where
  length : a.length = b.length
  differ : a ≠ b
  window : ∃ start, ∀ n, bitAt a n ≠ bitAt b n → start ≤ n ∧ n < start + width

/-- Messages of one length with one checksum differ by a multiple of the
generator. -/
theorem dvd_of_checksum_eq (hk : k ≤ w) (h0 : IsUnit ((generator P).coeff 0))
    (hlength : a.length = b.length) (h : checksum P init a = checksum P init b) :
    generator P ∣ ofWords a - ofWords b := by
  have hsame := congrArg ofBits h
  rw [ofBits_checksum hk, ofBits_checksum hk, hlength] at hsame
  have hdvd : generator P ∣ X ^ w * (ofWords a - ofWords b) := by
    rw [← modByMonic_eq_zero_iff_dvd (monic_generator P), mul_sub, sub_modByMonic, sub_eq_zero]
    rw [add_modByMonic, add_modByMonic] at hsame
    exact add_left_cancel hsame
  exact (isCoprime_X h0).pow_right.dvd_of_dvd_mul_left hdvd

/-- The terms of a difference are where the messages differ. -/
theorem coeff_sub_ne_zero (hlength : a.length = b.length) {i : ℕ}
    (hi : (ofWords a - ofWords b).coeff i ≠ 0) :
    i < k * a.length ∧ bitAt a (k * a.length - 1 - i) ≠ bitAt b (k * a.length - 1 - i) := by
  rw [coeff_sub, coeff_ofWords, coeff_ofWords, ← hlength] at hi
  by_cases hin : i < k * a.length
  · rw [if_pos hin, if_pos hin] at hi
    exact ⟨hin, fun hbit => hi (by rw [hbit, sub_self])⟩
  · rw [if_neg hin, if_neg hin, sub_self] at hi
    exact absurd rfl hi

/-- **Every burst as wide as the register is told**, in messages of any
length. -/
theorem checksum_ne_of_burst (hk : k ≤ w) (hP : P.getLsbD 0 = true) (h : Burst w a b) :
    checksum P init a ≠ checksum P init b := by
  intro hsame
  have hw : 0 < w := BitVec.lt_of_getLsbD hP
  have h0 : IsUnit ((generator P).coeff 0) := by
    rw [generator, coeff_add, coeff_X_pow, if_neg hw.ne, zero_add, coeff_ofBits, hP]
    exact isUnit_one
  obtain ⟨start, hwindow⟩ := h.window
  have hzero : ofWords a - ofWords b = 0 := by
    -- bit `n` of the messages is the coefficient of the power that many places before the last
    refine eq_zero_of_dvd (m := k * a.length - start - w) (monic_generator P) h0
      (dvd_of_checksum_eq hk h0 h.length hsame) fun i hi => ?_
    obtain ⟨hin, hbit⟩ := coeff_sub_ne_zero h.length hi
    have hplace := hwindow _ hbit
    rw [natDegree_generator]
    omega
  exact h.differ (eq_of_ofWords h.length (sub_eq_zero.mp hzero))

/-- Words replaced between two others, on no more bits than the width, are
a burst. -/
theorem burst_of_replaced {width : ℕ} (before after : List (BitVec k)) {old new : List (BitVec k)}
    (hlength : old.length = new.length) (hwidth : k * old.length ≤ width) (hne : old ≠ new) :
    Burst width (before ++ old ++ after) (before ++ new ++ after) := by
  refine ⟨by simp [hlength], by simpa using hne, k * before.length, fun n hn => ?_⟩
  rw [bitAt_append, bitAt_append, bitAt_append, bitAt_append, List.length_append, List.length_append,
    ← hlength, Nat.mul_add] at hn
  by_contra hout
  refine hn ?_
  by_cases hbefore : n < k * before.length
  · rw [if_pos hbefore, if_pos hbefore]
  · rw [if_neg (by omega), if_neg (by omega)]

end CyclicRedundancy
