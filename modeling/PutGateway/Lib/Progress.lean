import Mathlib.Order.Filter.AtTopBot.Basic
/-!
# Progress along infinite runs

A machine takes one action after the other for ever. Fairness says of an
action that it comes again and again, and progress is shown from it by
three rules: what stays until a recurrent time is there at such a time, a
rank that no step raises is constant from some time on, and a rank that
recurrent steps lower ends at such a step.
-/

namespace PutGateway

namespace Progress

open Filter

variable {S A : Type*} {step : S → A → S}

/-! ## Runs -/

/-- An infinite run: the states, and the action taken in each. -/
structure Run (step : S → A → S) where
  state : ℕ → S
  action : ℕ → A
  next : ∀ n, state (n + 1) = step (state n) (action n)

namespace Run

variable {r : Run step} {I : S → Prop}

/-- What holds at the start and survives every step holds throughout. -/
theorem always (r : Run step) (hstart : I (r.state 0)) (hstep : ∀ s a, I s → I (step s a)) (n : ℕ) :
    I (r.state n) := by
  induction n with
  | zero => exact hstart
  | succ n ih =>
    rw [r.next]
    exact hstep _ _ ih

/-- The states a schedule goes through from a state. -/
def visits (step : S → A → S) (start : S) (schedule : ℕ → S → A) : ℕ → S
  | 0 => start
  | n + 1 => step (visits step start schedule n) (schedule n (visits step start schedule n))

/-- The run of a schedule, which may look at the state. -/
def ofSchedule (start : S) (schedule : ℕ → S → A) : Run step where
  state := visits step start schedule
  action n := schedule n (visits step start schedule n)
  next _ := rfl

end Run

/-! ## Rules of progress -/

/-- **Waiting.** What stays until a recurrent time is there at such a
time. -/
theorem awaits {I p : ℕ → Prop} {N : ℕ} (hp : ∃ᶠ n in atTop, p n) (h : I N)
    (hstay : ∀ n, N ≤ n → I n → ¬ p n → I (n + 1)) : ∃ n, N ≤ n ∧ I n ∧ p n := by
  by_contra hnever
  -- it would stay for ever, past the next recurrent time
  have hall : ∀ k, I (N + k) := by
    intro k
    induction k with
    | zero => exact h
    | succ k ih =>
      exact hstay _ (Nat.le_add_right N k) ih fun hpk => hnever ⟨_, Nat.le_add_right N k, ih, hpk⟩
  obtain ⟨n, hn, hpn⟩ := frequently_atTop.mp hp N
  obtain ⟨k, rfl⟩ := Nat.exists_eq_add_of_le hn
  exact hnever ⟨_, hn, hall k, hpn⟩

/-- **Settling.** A rank that no step raises is constant from some time
on. -/
theorem settles (rank : ℕ → ℕ) {N : ℕ} (h : ∀ n, N ≤ n → rank (n + 1) ≤ rank n) :
    ∃ M, N ≤ M ∧ ∀ n, M ≤ n → rank n = rank M := by
  classical
  have hanti : ∀ {m n}, N ≤ m → m ≤ n → rank n ≤ rank m := by
    intro m n hm hmn
    induction n, hmn using Nat.le_induction with
    | base => exact le_refl _
    | succ n hmn ih => exact (h n (hm.trans hmn)).trans ih
  -- the least rank of all, once reached, is kept
  have hreached : ∃ v, ∃ n, N ≤ n ∧ rank n = v := ⟨rank N, N, le_refl N, rfl⟩
  obtain ⟨M, hM, hleast⟩ := Nat.find_spec hreached
  refine ⟨M, hM, fun n hn => le_antisymm (hanti hM hn) ?_⟩
  rw [hleast]
  exact Nat.find_min' hreached ⟨n, hM.trans hn, rfl⟩

/-- **Descent.** Where steps that come again and again lower a rank, short
of one at which `p` holds, and no other step raises it, such a step comes. -/
theorem descends (rank : ℕ → ℕ) {own p : ℕ → Prop} {N : ℕ} (hown : ∃ᶠ n in atTop, own n)
    (hothers : ∀ n, N ≤ n → ¬ own n → rank (n + 1) ≤ rank n)
    (hless : ∀ n, N ≤ n → own n → ¬ p n → rank (n + 1) < rank n) : ∃ n, N ≤ n ∧ own n ∧ p n := by
  by_contra hnever
  have hfalls : ∀ n, N ≤ n → own n → rank (n + 1) < rank n := fun n hn ho =>
    hless n hn ho fun hp => hnever ⟨n, hn, ho, hp⟩
  obtain ⟨M, hM, hconst⟩ := settles rank (N := N) fun n hn => by
    by_cases ho : own n
    · exact Nat.le_of_lt (hfalls n hn ho)
    · exact hothers n hn ho
  obtain ⟨n, hn, ho⟩ := frequently_atTop.mp hown M
  have hless' := hfalls n (hM.trans hn) ho
  rw [hconst (n + 1) (by omega), hconst n hn] at hless'
  exact absurd hless' (Nat.lt_irrefl _)

end Progress

end PutGateway
