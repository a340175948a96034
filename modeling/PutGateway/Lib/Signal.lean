import PutGateway.Lib.Progress
/-!
# A thread that sleeps until it is asked

A thread works where it has been asked to, and sleeps on a condition
variable in between. Whoever asks sets a flag and signals, in one critical
section; the thread looks at its flags, takes the request and goes to
work, or goes to sleep, in another. It may be woken for no reason. A
second flag ends the thread.

The critical sections are the steps. The thread never sleeps on a request
(`Sound`), and so, where it is scheduled again and again, a request is
served (`Behaves.served`) and a halt ends it (`Behaves.halts`).
-/

namespace PutGateway

namespace Signal

open Filter Progress

variable {W : Type*}

/-! ## States -/

/-- Where a thread is. `W` is the work it has in hand. -/
inductive Place (W : Type*)
  /-- Before the critical section in which it looks at its flags. -/
  | looking
  /-- On the condition variable. -/
  | asleep
  | working (w : W)
  | ended

/-- The flags of a thread, and where it is. -/
structure State (W : Type*) where
  wakeRequested : Bool := false
  stopRequested : Bool := false
  place : Place W := .looking

namespace State

/-- A signal wakes the thread where it sleeps. -/
def signal (s : State W) : State W :=
  match s.place with
  | .asleep => { s with place := .looking }
  | _ => s

/-- Ask the thread to work. -/
def ask (s : State W) : State W := { s with wakeRequested := true }.signal

/-- Ask the thread to end. -/
def halt (s : State W) : State W := { s with stopRequested := true, wakeRequested := true }.signal

/-- The thread looks at its flags: it takes the request, or sleeps. -/
def look (s : State W) (start : W) : State W :=
  if s.wakeRequested || s.stopRequested then
    { s with wakeRequested := false, place := if s.stopRequested then .ended else .working start }
  else { s with place := .asleep }

/-- The thread can go on by itself. -/
def Runnable (s : State W) : Prop :=
  match s.place with
  | .looking | .working _ => True
  | .asleep | .ended => False

end State

/-! ## Steps -/

/-- A step of the thread itself. Its work gets smaller, or is done. -/
inductive Own (start : W) (size : W → ℕ) : State W → State W → Prop
  | look {s : State W} (h : s.place = .looking) : Own start size s (s.look start)
  | work {s : State W} {w w' : W} (h : s.place = .working w) (hless : size w' < size w) :
      Own start size s { s with place := .working w' }
  | finish {s : State W} {w : W} (h : s.place = .working w) : Own start size s { s with place := .looking }
  | idle {s : State W} (h : ¬ s.Runnable) : Own start size s s

/-- A step of anybody else. A signal with no request is a spurious
wake-up. -/
inductive Others : State W → State W → Prop
  | ask {s : State W} : Others s s.ask
  | halt {s : State W} : Others s s.halt
  | startle {s : State W} : Others s s.signal
  | none {s : State W} : Others s s

variable {start : W} {size : W → ℕ} {s s' : State W}

/-- The thread sleeps on no request, and ends where it was halted. -/
structure Sound (s : State W) : Prop where
  asleep : s.place = .asleep → s.wakeRequested = false ∧ s.stopRequested = false
  ended : s.place = .ended → s.stopRequested = true

theorem State.signal_cases (s : State W) :
    (s.place = .asleep ∧ s.signal = { s with place := .looking }) ∨
      (s.place ≠ .asleep ∧ s.signal = s) := by
  unfold signal
  cases h : s.place with
  | asleep => exact .inl ⟨rfl, rfl⟩
  | looking | working | ended => exact .inr ⟨by simp, rfl⟩

/-- A thread that has just been signalled is awake. -/
theorem State.signal_place (s : State W) : s.signal.place ≠ .asleep := by
  rcases s.signal_cases with ⟨-, heq⟩ | ⟨hawake, heq⟩
  · rw [heq]
    simp
  · rw [heq]
    exact hawake

theorem State.signal_flags (s : State W) :
    s.signal.wakeRequested = s.wakeRequested ∧ s.signal.stopRequested = s.stopRequested := by
  rcases s.signal_cases with ⟨-, heq⟩ | ⟨-, heq⟩
  · rw [heq]
    exact ⟨rfl, rfl⟩
  · rw [heq]
    exact ⟨rfl, rfl⟩

/-- A signal moves only a sleeper. -/
theorem State.signal_ended (h : s.signal.place = .ended) : s.place = .ended := by
  rcases s.signal_cases with ⟨-, heq⟩ | ⟨-, heq⟩
  · rw [heq] at h
    cases h
  · rwa [heq] at h

/-- A thread does not halt itself. -/
theorem Own.stopRequested_eq (h : Own start size s s') : s'.stopRequested = s.stopRequested := by
  cases h with
  | look =>
    unfold State.look
    split
    · rfl
    · rfl
  | work | finish | idle => rfl

/-- A thread that has ended stays ended. -/
theorem Own.ended (h : Own start size s s') (hended : s.place = .ended) : s'.place = .ended := by
  cases h with
  | look hlooking => rw [hended] at hlooking; cases hlooking
  | work hworking => rw [hended] at hworking; cases hworking
  | finish hworking => rw [hended] at hworking; cases hworking
  | idle => exact hended

/-- Nobody else moves a thread, but for waking it up. -/
theorem Others.place_cases (h : Others s s') :
    s'.place = s.place ∨ (s.place = .asleep ∧ s'.place = .looking) := by
  have hsignal : ∀ s : State W, s.signal.place = s.place ∨ (s.place = .asleep ∧ s.signal.place = .looking) := by
    intro s
    rcases s.signal_cases with ⟨hasleep, heq⟩ | ⟨-, heq⟩
    · rw [heq]
      exact .inr ⟨hasleep, rfl⟩
    · rw [heq]
      exact .inl rfl
  cases h with
  | ask => exact hsignal { s with wakeRequested := true }
  | halt => exact hsignal { s with stopRequested := true, wakeRequested := true }
  | startle => exact hsignal s
  | none => exact .inl rfl

/-- Nobody else brings it back. -/
theorem Others.ended (h : Others s s') (hended : s.place = .ended) : s'.place = .ended := by
  rcases h.place_cases with hsame | ⟨hasleep, -⟩
  · exact hsame.trans hended
  · rw [hended] at hasleep
    cases hasleep

/-- Nobody else gives it work, or takes it away. -/
theorem Others.working (h : Others s s') {w : W} : s'.place = .working w ↔ s.place = .working w := by
  rcases h.place_cases with hsame | ⟨hasleep, hlooking⟩
  · rw [hsame]
  · rw [hasleep, hlooking]
    exact ⟨fun h => (by cases h), fun h => (by cases h)⟩

/-- A thread that has just been created. -/
theorem Sound.new : Sound ({} : State W) := by
  refine ⟨fun hasleep => ?_, fun hended => ?_⟩
  · cases hasleep
  · cases hended

theorem Sound.own (h : Sound s) (hstep : Own start size s s') : Sound s' := by
  cases hstep with
  | look hlooking =>
    unfold State.look
    split
    · refine ⟨fun hasleep => ?_, fun hended => ?_⟩
      · simp only at hasleep
        split at hasleep
        · cases hasleep
        · cases hasleep
      · simp only at hended
        split at hended
        · assumption
        · cases hended
    · next hnone =>
      rw [Bool.or_eq_true, not_or, Bool.not_eq_true, Bool.not_eq_true] at hnone
      exact ⟨fun _ => hnone, fun hended => by cases hended⟩
  | work | finish =>
    refine ⟨fun hasleep => ?_, fun hended => ?_⟩
    · cases hasleep
    · cases hended
  | idle => exact h

theorem Sound.others (h : Sound s) (hstep : Others s s') : Sound s' := by
  cases hstep with
  | ask =>
    refine ⟨fun hasleep => absurd hasleep (State.signal_place _), fun hended => ?_⟩
    have hbefore : s.place = .ended := State.signal_ended (s := { s with wakeRequested := true }) hended
    exact (State.signal_flags _).2.trans (h.ended hbefore)
  | halt =>
    exact ⟨fun hasleep => absurd hasleep (State.signal_place _), fun _ => (State.signal_flags _).2⟩
  | startle =>
    refine ⟨fun hasleep => absurd hasleep (State.signal_place _), fun hended => ?_⟩
    exact (State.signal_flags _).2.trans (h.ended (State.signal_ended hended))
  | none => exact h

/-! ## Progress -/

/-- A thread along a run, and when it takes a step of its own. It takes
one again and again, as long as it can go on by itself. -/
structure Behaves (start : W) (size : W → ℕ) (σ : ℕ → State W) (own : ℕ → Prop) : Prop where
  sound : Sound (σ 0)
  steps : ∀ n, own n → Own start size (σ n) (σ (n + 1))
  others : ∀ n, ¬ own n → Others (σ n) (σ (n + 1))
  fair : ∃ᶠ n in atTop, own n ∨ ¬ (σ n).Runnable

/-- How far the thread is from looking at its flags. -/
def State.distance (size : W → ℕ) (s : State W) : ℕ :=
  match s.place with
  | .working w => size w + 1
  | _ => 0

/-- A step of others does not raise the distance. -/
theorem Others.distance_le (h : Others s s') : s'.distance size ≤ s.distance size := by
  have hsignal : ∀ s : State W, s.signal.distance size ≤ s.distance size := by
    intro s
    rcases s.signal_cases with ⟨-, heq⟩ | ⟨-, heq⟩
    · rw [heq]
      exact Nat.zero_le _
    · rw [heq]
  cases h with
  | ask => exact hsignal _
  | halt => exact hsignal _
  | startle => exact hsignal _
  | none => exact le_refl _

namespace Behaves

variable {σ : ℕ → State W} {own : ℕ → Prop} {N : ℕ}

theorem always_sound (h : Behaves start size σ own) (n : ℕ) : Sound (σ n) := by
  induction n with
  | zero => exact h.sound
  | succ n ih =>
    by_cases hown : own n
    · exact ih.own (h.steps n hown)
    · exact ih.others (h.others n hown)

/-- **A thread that stays awake looks at its flags** again and again. -/
theorem looks (h : Behaves start size σ own) (hawake : ∀ n, N ≤ n → (σ n).Runnable) :
    ∃ n, N ≤ n ∧ own n ∧ (σ n).place = .looking := by
  have hown : ∃ᶠ n in atTop, own n := by
    rw [frequently_atTop]
    intro M
    obtain ⟨n, hn, howned⟩ := frequently_atTop.mp h.fair (max M N)
    refine ⟨n, (le_max_left M N).trans hn, howned.resolve_right ?_⟩
    exact not_not.mpr (hawake n ((le_max_right M N).trans hn))
  refine descends (fun n => (σ n).distance size) hown (fun n _ hother => (h.others n hother).distance_le)
    fun n hn ho hbusy => ?_
  have hstep := h.steps n ho
  generalize σ (n + 1) = s' at hstep ⊢
  cases hstep with
  | look hlooking => exact absurd hlooking hbusy
  | work hworking hless =>
    unfold State.distance
    simp only [hworking]
    omega
  | finish hworking =>
    unfold State.distance
    simp only [hworking]
    omega
  | idle hasleep => exact absurd (hawake n hn) hasleep

/-- **A request is served.** A thread that is asked to work, and is not
halted, begins to. -/
theorem served (h : Behaves start size σ own) (hasked : (σ N).wakeRequested = true)
    (hgoing : ∀ n, N ≤ n → (σ n).stopRequested = false) :
    ∃ n, N ≤ n ∧ own n ∧ (σ (n + 1)).place = .working start := by
  by_contra hnever
  have hnext : ∀ n, N ≤ n → (σ n).wakeRequested = true → own n → (σ n).place ≠ .looking := by
    intro n hn hwake ho hlooking
    refine hnever ⟨n, hn, ho, ?_⟩
    have hstep := h.steps n ho
    generalize σ (n + 1) = s' at hstep ⊢
    cases hstep with
    | look => simp [State.look, hwake, hgoing n hn]
    | work hworking => rw [hlooking] at hworking; cases hworking
    | finish hworking => rw [hlooking] at hworking; cases hworking
    | idle hasleep => exact absurd (by rw [State.Runnable, hlooking]; trivial) hasleep
  -- short of that the request would stay, and keep the thread awake
  have hstays : ∀ n, N ≤ n → (σ n).wakeRequested = true := by
    intro n hn
    induction n, hn using Nat.le_induction with
    | base => exact hasked
    | succ n hn ih =>
      by_cases ho : own n
      · have hlooking := hnext n hn ih ho
        have hstep := h.steps n ho
        generalize σ (n + 1) = s' at hstep ⊢
        cases hstep with
        | look hlook => exact absurd hlook hlooking
        | work | finish | idle => exact ih
      · have hstep := h.others n ho
        generalize σ (n + 1) = s' at hstep ⊢
        cases hstep with
        | ask => exact (State.signal_flags _).1
        | halt => exact (State.signal_flags _).1
        | startle => exact (State.signal_flags _).1.trans ih
        | none => exact ih
  obtain ⟨n, hn, ho, hlooking⟩ := h.looks (N := N) fun n hn => by
    have hsound := h.always_sound n
    cases hplace : (σ n).place with
    | looking | working => simp only [State.Runnable, hplace]
    | asleep =>
      have hasleep := (hsound.asleep hplace).1
      rw [hstays n hn] at hasleep
      cases hasleep
    | ended =>
      have hended := hsound.ended hplace
      rw [hgoing n hn] at hended
      cases hended
  exact hnext n hn (hstays n hn) ho hlooking

/-- A halt is not taken back. -/
theorem stopRequested_mono (h : Behaves start size σ own) (hhalted : (σ N).stopRequested = true)
    {n : ℕ} (hn : N ≤ n) : (σ n).stopRequested = true := by
  induction n, hn using Nat.le_induction with
  | base => exact hhalted
  | succ n hn ih =>
    by_cases ho : own n
    · exact (h.steps n ho).stopRequested_eq.trans ih
    · have hstep := h.others n ho
      generalize σ (n + 1) = s' at hstep ⊢
      cases hstep with
      | ask => exact (State.signal_flags _).2.trans ih
      | halt => exact (State.signal_flags _).2
      | startle => exact (State.signal_flags _).2.trans ih
      | none => exact ih

/-- An end is for good. -/
theorem ended_mono (h : Behaves start size σ own) (hended : (σ N).place = .ended) {n : ℕ}
    (hn : N ≤ n) : (σ n).place = .ended := by
  induction n, hn using Nat.le_induction with
  | base => exact hended
  | succ n hn ih =>
    by_cases ho : own n
    · exact (h.steps n ho).ended ih
    · exact (h.others n ho).ended ih

/-- **A halt ends the thread**: it finishes the work it has in hand. -/
theorem halts (h : Behaves start size σ own) (hhalted : (σ N).stopRequested = true) :
    ∃ M, N ≤ M ∧ ∀ n, M ≤ n → (σ n).place = .ended := by
  have hstopped : ∀ n, N ≤ n → (σ n).stopRequested = true := fun n hn =>
    h.stopRequested_mono hhalted hn
  obtain ⟨M, hM, hended⟩ : ∃ M, N ≤ M ∧ (σ M).place = .ended := by
    by_contra hnever
    push Not at hnever
    obtain ⟨n, hn, ho, hlooking⟩ := h.looks (N := N) fun n hn => by
      cases hplace : (σ n).place with
      | looking | working => simp only [State.Runnable, hplace]
      | asleep =>
        have hasleep := ((h.always_sound n).asleep hplace).2
        rw [hstopped n hn] at hasleep
        cases hasleep
      | ended => exact absurd hplace (hnever n hn)
    refine hnever (n + 1) (by omega) ?_
    have hstep := h.steps n ho
    generalize σ (n + 1) = s' at hstep ⊢
    cases hstep with
    | look => simp [State.look, hstopped n hn]
    | work hworking => rw [hlooking] at hworking; cases hworking
    | finish hworking => rw [hlooking] at hworking; cases hworking
    | idle hasleep => exact absurd (by rw [State.Runnable, hlooking]; trivial) hasleep
  exact ⟨M, hM, fun n hn => h.ended_mono hended hn⟩

end Behaves

end Signal

end PutGateway
