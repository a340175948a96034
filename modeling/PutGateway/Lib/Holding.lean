import Mathlib.Algebra.BigOperators.Fin
import Mathlib.Algebra.Order.BigOperators.Group.Finset
import Mathlib.Data.Finset.Card
/-!
# Tokens and their holders

A finite set of tokens, each held by one party or by none. `held` counts
the tokens of a party and `total` the tokens that are held at all; the
second is the sum of the first. Handing a free token out and taking a
held one back move the counts by one.
-/

namespace PutGateway

namespace Holding

variable {F I : Type*} [Fintype F]

/-- The number of tokens a party holds. -/
def held [DecidableEq I] (h : F → Option I) (i : I) : ℕ :=
    (Finset.univ.filter fun f => h f = some i).card

/-- The number of tokens that are held. -/
def total (h : F → Option I) : ℕ := (Finset.univ.filter fun f => (h f).isSome).card

variable {h : F → Option I} {f : F} {i j : I}

/-- **Every token that is held is held by one party.** -/
theorem total_eq_sum [DecidableEq I] [Fintype I] (h : F → Option I) : total h = ∑ i, held h i := by
  have hmaps : Set.MapsTo h (Finset.univ.filter fun f => (h f).isSome : Finset F)
      (Finset.univ.image some : Finset (Option I)) := by
    intro f hf
    obtain ⟨i, hi⟩ := Option.isSome_iff_exists.mp (Finset.mem_filter.mp hf).2
    exact Finset.mem_coe.mpr (Finset.mem_image.mpr ⟨i, Finset.mem_univ i, hi.symm⟩)
  rw [total, Finset.card_eq_sum_card_fiberwise hmaps,
    Finset.sum_image fun i _ j _ hij => Option.some.inj hij]
  refine Finset.sum_congr rfl fun i _ => ?_
  unfold held
  congr 1
  ext f
  simp only [Finset.mem_filter, Finset.mem_univ, true_and]
  constructor
  · exact fun hf => hf.2
  · exact fun hf => ⟨by rw [hf]; rfl, hf⟩

theorem total_le (h : F → Option I) : total h ≤ Fintype.card F := by
  have hle := Finset.card_filter_le (Finset.univ : Finset F) fun f => (h f).isSome = true
  rwa [Finset.card_univ] at hle

theorem held_le_total [DecidableEq I] : held h i ≤ total h := by
  apply Finset.card_le_card
  intro f hf
  simp only [Finset.mem_filter, Finset.mem_univ, true_and] at hf ⊢
  rw [hf]
  rfl

variable [DecidableEq F]

/-- Handing a free token out. -/
theorem held_claim [DecidableEq I] (hf : h f = none) :
    held (Function.update h f (some i)) j = held h j + if j = i then 1 else 0 := by
  unfold held
  by_cases hj : j = i
  · subst hj
    have hset : (Finset.univ.filter fun g => Function.update h f (some j) g = some j) =
        insert f (Finset.univ.filter fun g => h g = some j) := by
      ext g
      by_cases hg : g = f
      · subst hg
        simp
      · simp [hg]
    rw [hset, Finset.card_insert_of_notMem (by simp [hf]), if_pos rfl]
  · rw [if_neg hj, Nat.add_zero]
    congr 1
    ext g
    by_cases hg : g = f
    · subst hg
      simp [hf, Ne.symm hj]
    · simp [hg]

/-- Taking a held token back. -/
theorem held_return [DecidableEq I] (hf : h f = some i) :
    held (Function.update h f none) j + (if j = i then 1 else 0) = held h j := by
  have hnone : Function.update h f none f = none := Function.update_self ..
  have hclaim : held (Function.update (Function.update h f none) f (some i)) j = _ := held_claim hnone
  rw [Function.update_idem, ← hf, Function.update_eq_self] at hclaim
  exact hclaim.symm

theorem total_claim (hf : h f = none) : total (Function.update h f (some i)) = total h + 1 := by
  unfold total
  have hset : (Finset.univ.filter fun g => (Function.update h f (some i) g).isSome) =
      insert f (Finset.univ.filter fun g => (h g).isSome) := by
    ext g
    by_cases hg : g = f
    · subst hg
      simp
    · simp [hg]
  rw [hset, Finset.card_insert_of_notMem (by simp [hf])]

theorem total_return (hf : h f = some i) : total (Function.update h f none) + 1 = total h := by
  have hnone : Function.update h f none f = none := Function.update_self ..
  have hclaim : total (Function.update (Function.update h f none) f (some i)) = _ := total_claim hnone
  rw [Function.update_idem, ← hf, Function.update_eq_self] at hclaim
  exact hclaim.symm

end Holding

end PutGateway
