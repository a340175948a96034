import PutGateway.System.EgressThreads
/-!
# What the egress threads come to

The flags tell how far `egress_manager_start` and `egress_manager_stop`
have come (`Arranged`), and each worker is a thread that sleeps until it
is asked (`behaves`). From that: where Linux commits no more, a manager
that is serving polls again and again, a TX ring that holds something is
drained, and the threads are a fair Linux to the machine; and a manager
that is stopped ends, with every thread joined.
-/

namespace PutGateway

namespace System

open Linux Rtos Progress Signal Filter

variable {A : Type} {P Q : Platform} {K : Clock} {config : EgressManagerConfig A} {s s' : Threads A}
  {i j : Fin 6}

/-! ## How far starting and stopping have come -/

/-- The manager has been asked to end. -/
def MainPc.asksManager : MainPc → Bool
  | .creating _ | .serving | .askingManager => false
  | .askingWorker _ | .joiningManager | .joiningWorker _ | .stopped => true

/-- The worker has been asked to end. -/
def MainPc.asks (i : Fin 6) : MainPc → Bool
  | .creating _ | .serving | .askingManager => false
  | .askingWorker k => i.val < k
  | .joiningManager | .joiningWorker _ | .stopped => true

/-- The threads there are, where the main thread has come so far. -/
def Threads.There (s : Threads A) : MainPc → Prop
  | .creating k => s.manager.threadStarted = false ∧
      ∀ i : Fin 6, if i.val < k then (s.worker i).threadStarted = true
        else (s.worker i).threadStarted = false ∧ (s.worker i).signal = {}
  | .serving => s.manager.threadStarted = true ∧ ∀ i, (s.worker i).threadStarted = true
  | .joiningWorker k => s.manager.threadStarted = false ∧
      ∀ i : Fin 6, i.val < k → (s.worker i).threadStarted = false
  | .stopped => s.manager.threadStarted = false ∧ ∀ i, (s.worker i).threadStarted = false
  | .askingManager | .askingWorker _ | .joiningManager => True

/-- **The flags tell how far the main thread has come.** -/
structure Arranged (s : Threads A) : Prop where
  stops : ∀ i, (s.worker i).signal.stopRequested = s.main.asks i
  managerStops : s.manager.stopRequested = s.main.asksManager
  managerEnded : s.manager.pc = .ended → s.manager.stopRequested = true
  there : s.There s.main

theorem Threads.Initial.arranged (h : s.Initial) : Arranged s := by
  refine ⟨fun i => ?_, ?_, fun hended => ?_, ?_⟩
  · rw [h.signal, h.main]
    rfl
  · rw [h.manager, h.main]
    rfl
  · rw [h.manager] at hended
    cases hended
  · rw [h.main]
    refine ⟨by rw [h.manager], fun i => ?_⟩
    rw [if_neg (Nat.not_lt_zero _)]
    exact ⟨h.unstarted i, h.signal i⟩

/-- What a step of a thread other than the main thread leaves: the threads
there are, and what they have been asked to. A worker that is not there
yet keeps its flags. -/
structure Keeps (s s' : Threads A) : Prop where
  main : s'.main = s.main
  managerStarted : s'.manager.threadStarted = s.manager.threadStarted
  managerStops : s'.manager.stopRequested = s.manager.stopRequested
  managerEnded : s'.manager.pc = .ended → s.manager.pc = .ended ∨ s.manager.stopRequested = true
  started : ∀ i, (s'.worker i).threadStarted = (s.worker i).threadStarted
  stops : ∀ i, (s'.worker i).signal.stopRequested = (s.worker i).signal.stopRequested
  fresh : ∀ i, s.manager.threadStarted = false → (s.worker i).threadStarted = false →
    (s.worker i).signal = {} → (s'.worker i).signal = {}

theorem Keeps.refl : Keeps s s := ⟨rfl, rfl, rfl, .inl, fun _ => rfl, fun _ => rfl, fun _ _ _ h => h⟩

theorem Keeps.there (h : Keeps s s') {main : MainPc} (hs : s.There main) : s'.There main := by
  cases main with
  | askingManager | askingWorker | joiningManager => exact hs
  | creating k =>
    refine ⟨h.managerStarted.trans hs.1, fun i => ?_⟩
    have hworker := hs.2 i
    rw [h.started]
    split
    · next hi => rwa [if_pos hi] at hworker
    · next hi =>
      rw [if_neg hi] at hworker
      exact ⟨hworker.1, h.fresh i hs.1 hworker.1 hworker.2⟩
  | serving => exact ⟨h.managerStarted.trans hs.1, fun i => (h.started i).trans (hs.2 i)⟩
  | joiningWorker k => exact ⟨h.managerStarted.trans hs.1, fun i hi => (h.started i).trans (hs.2 i hi)⟩
  | stopped => exact ⟨h.managerStarted.trans hs.1, fun i => (h.started i).trans (hs.2 i)⟩

theorem Keeps.arranged (h : Keeps s s') (hs : Arranged s) : Arranged s' := by
  refine ⟨fun i => ?_, ?_, fun hended => ?_, ?_⟩
  · rw [h.stops, h.main]
    exact hs.stops i
  · rw [h.managerStops, h.main]
    exact hs.managerStops
  · rw [h.managerStops]
    exact (h.managerEnded hended).elim hs.managerEnded id
  · rw [h.main]
    exact h.there hs.there

namespace Threads

/-! ## One step -/

theorem flag_signal (f : Signal.State Work → Signal.State Work) :
    ((s.flag i f).worker j).signal = if j = i then f (s.worker i).signal else (s.worker j).signal := by
  by_cases hj : j = i
  · subst hj
    simp only [flag, Function.update_self, if_true]
  · simp only [flag, Function.update_of_ne hj, if_neg hj]

theorem flag_started (f : Signal.State Work → Signal.State Work) :
    ((s.flag i f).worker j).threadStarted = (s.worker j).threadStarted := by
  by_cases hj : j = i
  · subst hj
    simp only [flag, Function.update_self]
  · simp only [flag, Function.update_of_ne hj]

/-- A worker that has done something. -/
theorem did_worker (e : EgressState A) (place : Signal.Place Work) :
    ((s.did i e place).worker j).signal = ((s.go i place).worker j).signal ∧
      ((s.did i e place).worker j).threadStarted = ((s.go i place).worker j).threadStarted := by
  by_cases hj : j = i
  · subst hj
    simp only [did, go, Function.update_self]
    exact ⟨trivial, trivial⟩
  · simp only [did, go, Function.update_of_ne hj]
    exact ⟨trivial, trivial⟩

/-- What a step of its own makes of the flags of a worker. -/
theorem workerStep_own (w : EgressWorkerContext A) :
    Own (.turning w.turns) Work.size (s.worker i).signal ((s.workerStep P w i).worker i).signal := by
  have hgo : ∀ place, ((s.go i place).worker i).signal = { (s.worker i).signal with place := place } :=
    fun place => by simp only [go, Function.update_self]
  unfold workerStep
  cases hplace : (s.worker i).signal.place with
  | asleep => exact .idle (by rw [State.Runnable, hplace]; exact id)
  | ended => exact .idle (by rw [State.Runnable, hplace]; exact id)
  | looking =>
    simp only [flag, Function.update_self]
    exact .look hplace
  | working work =>
    cases work with
    | holding left descriptor =>
      simp only [(did_worker _ _).1, hgo]
      exact .work hplace (Nat.lt_succ_self _)
    | turning left =>
      cases left with
      | zero =>
        simp only [hgo]
        exact .finish hplace
      | succ left =>
        simp only
        generalize egressTake P w (s.egress i) = r
        obtain ⟨taken, e⟩ := r
        cases taken with
        | empty =>
          simp only [(did_worker _ _).1, hgo]
          exact .finish hplace
        | failed =>
          simp only [(did_worker _ _).1, hgo]
          exact .work hplace (by simp only [Work.size]; omega)
        | frame descriptor =>
          simp only [(did_worker _ _).1, hgo]
          exact .work hplace (by simp only [Work.size]; omega)

/-- A worker touches its own thread only. -/
theorem workerStep_frame (w : EgressWorkerContext A) :
    (s.workerStep P w i).main = s.main ∧ (s.workerStep P w i).manager = s.manager ∧
      (∀ j, j ≠ i → (s.workerStep P w i).worker j = s.worker j) ∧
      ((s.workerStep P w i).worker i).threadStarted = (s.worker i).threadStarted := by
  have hdid : ∀ e place, (∀ j, j ≠ i → (s.did i e place).worker j = s.worker j) ∧
      ((s.did i e place).worker i).threadStarted = (s.worker i).threadStarted := fun e place =>
    ⟨fun j hj => Function.update_of_ne hj _ _, by simp only [did, Function.update_self]⟩
  unfold workerStep
  split
  · exact ⟨rfl, rfl, fun _ _ => rfl, rfl⟩
  · exact ⟨rfl, rfl, fun _ _ => rfl, rfl⟩
  · refine ⟨rfl, rfl, fun j hj => ?_, ?_⟩
    · simp only [flag, Function.update_of_ne hj]
    · simp only [flag, Function.update_self]
  · refine ⟨rfl, rfl, fun j hj => Function.update_of_ne hj _ _, ?_⟩
    simp only [go, Function.update_self]
  · split
    · exact ⟨rfl, rfl, hdid _ _⟩
    · exact ⟨rfl, rfl, hdid _ _⟩
    · exact ⟨rfl, rfl, hdid _ _⟩
  · exact ⟨rfl, rfl, hdid _ _⟩

theorem workerStep_keeps (w : EgressWorkerContext A) (hstarted : (s.worker i).threadStarted = true) :
    Keeps s (s.workerStep P w i) := by
  obtain ⟨hmain, hmanager, hothers, hself⟩ := s.workerStep_frame (P := P) (i := i) w
  refine ⟨hmain, by rw [hmanager], by rw [hmanager], fun h => .inl (by rwa [hmanager] at h),
    fun j => ?_, fun j => ?_, fun j _ hunstarted hsignal => ?_⟩
  all_goals by_cases hj : j = i
  · rw [hj, hself]
  · rw [hothers j hj]
  · rw [hj]
    exact (workerStep_own w).stopRequested_eq
  · rw [hothers j hj]
  · rw [hj, hstarted] at hunstarted
    cases hunstarted
  · rw [hothers j hj]
    exact hsignal

/-- What a step of the manager leaves of its own flags. It ends only where
it was asked to. -/
theorem managerStep_manager :
    (s.managerStep P).manager.threadStarted = s.manager.threadStarted ∧
      (s.managerStep P).manager.stopRequested = s.manager.stopRequested ∧
      ((s.managerStep P).manager.pc = .ended →
        s.manager.pc = .ended ∨ s.manager.stopRequested = true) := by
  unfold managerStep
  cases hpc : s.manager.pc with
  | ended => exact ⟨rfl, rfl, fun _ => .inl rfl⟩
  | polling => exact ⟨rfl, rfl, fun h => by cases h⟩
  | recording => exact ⟨rfl, rfl, fun h => by cases h⟩
  | waiting =>
    refine ⟨rfl, rfl, fun h => .inr ?_⟩
    simp only [manage] at h
    split at h
    · assumption
    · cases h
  | asleep =>
    refine ⟨rfl, rfl, fun h => .inr ?_⟩
    simp only [manage] at h
    split at h
    · assumption
    · cases h
  | draining =>
    simp only [drained]
    split
    · exact ⟨rfl, rfl, fun h => by cases h⟩
    split
    · exact ⟨rfl, rfl, fun h => by cases h⟩
    · refine ⟨rfl, rfl, fun h => ?_⟩
      simp only [hpc] at h
      cases h
  | waking pendingBits k =>
    simp only [manage]
    split
    · split
      · exact ⟨rfl, rfl, fun h => by cases h⟩
      · exact ⟨rfl, rfl, fun h => by cases h⟩
    · exact ⟨rfl, rfl, fun h => by cases h⟩

/-- What it does to the workers: it wakes one, or none. -/
theorem managerStep_worker :
    (s.managerStep P).main = s.main ∧ ((s.managerStep P).worker = s.worker ∨
      ∃ i, (s.managerStep P).worker = (s.flag i Signal.State.ask).worker) := by
  unfold managerStep
  cases hpc : s.manager.pc with
  | ended | polling | recording | waiting | asleep => exact ⟨rfl, .inl rfl⟩
  | draining =>
    simp only [drained]
    split
    · exact ⟨rfl, .inl rfl⟩
    split
    · exact ⟨rfl, .inl rfl⟩
    · exact ⟨rfl, .inl rfl⟩
  | waking pendingBits k =>
    simp only [manage]
    split
    · split
      · exact ⟨rfl, .inr ⟨_, rfl⟩⟩
      · exact ⟨rfl, .inl rfl⟩
    · exact ⟨rfl, .inl rfl⟩

theorem managerStep_keeps (hstarted : s.manager.threadStarted = true) : Keeps s (s.managerStep P) := by
  obtain ⟨hflag, hstops, hended⟩ := s.managerStep_manager (P := P)
  obtain ⟨hmain, hworker⟩ := s.managerStep_worker (P := P)
  refine ⟨hmain, hflag, hstops, hended, fun j => ?_, fun j => ?_, fun j hunstarted _ _ => ?_⟩
  · rcases hworker with hsame | ⟨i, hasked⟩
    · rw [hsame]
    · rw [hasked, flag_started]
  · rcases hworker with hsame | ⟨i, hasked⟩
    · rw [hsame]
    · rw [hasked, flag_signal]
      split
      · next hj =>
        rw [hj]
        exact (State.signal_flags _).2
      · rfl
  · rw [hstarted] at hunstarted
    cases hunstarted

theorem startle_keeps : Keeps s (s.flag i Signal.State.signal) := by
  refine ⟨rfl, rfl, rfl, .inl, fun j => flag_started _, fun j => ?_, fun j _ _ hsignal => ?_⟩
  · rw [flag_signal]
    split
    · next hj =>
      rw [hj]
      exact (State.signal_flags _).2
    · rfl
  · rw [flag_signal]
    split
    · next hj =>
      rw [← hj, hsignal]
      rfl
    · exact hsignal

/-- A step of a thread other than the main thread. -/
theorem step_keeps {a : ThreadAction} (ha : ∀ created, a ≠ .main created) :
    Keeps s (s.step P Q K config a) := by
  cases a with
  | other a => exact ⟨rfl, rfl, rfl, .inl, fun _ => rfl, fun _ => rfl, fun _ _ _ h => h⟩
  | main created => exact absurd rfl (ha created)
  | startle i => exact startle_keeps
  | manager =>
    simp only [step]
    split
    · next hstarted => exact managerStep_keeps hstarted
    · exact .refl
  | worker i =>
    simp only [step]
    split
    · next hstarted => exact workerStep_keeps _ hstarted
    · exact .refl

/-- **The main thread keeps the arrangement.** -/
theorem mainStep_arranged (hs : Arranged s) (created : Bool) : Arranged (s.mainStep created) := by
  unfold mainStep
  obtain ⟨hstops, hmanager, hended, hthere⟩ := hs
  cases hmain : s.main with
  | stopped => exact ⟨hstops, hmanager, hended, hthere⟩
  | creating k =>
    rw [hmain] at hstops hmanager hthere
    simp only
    split
    · exact ⟨hstops, hmanager, hended, trivial⟩
    split
    · next hk =>
      refine ⟨fun i => ?_, hmanager, hended, hthere.1, fun i => ?_⟩
      all_goals by_cases hi : i = ⟨k, hk⟩
      · subst hi
        simp only [Function.update_self]
        rfl
      · simp only [Function.update_of_ne hi]
        exact hstops i
      · subst hi
        simp only [Function.update_self, Nat.lt_succ_self, if_true]
      · have hne : i.val ≠ k := fun h => hi (Fin.ext h)
        have hiff : i.val < k + 1 ↔ i.val < k := by omega
        simp only [Function.update_of_ne hi, hiff]
        exact hthere.2 i
    · refine ⟨hstops, hmanager, hended, rfl, fun i => ?_⟩
      have hworker := hthere.2 i
      rwa [if_pos (by omega)] at hworker
  | serving =>
    rw [hmain] at hstops hmanager
    exact ⟨hstops, hmanager, hended, trivial⟩
  | askingManager =>
    rw [hmain] at hstops
    refine ⟨fun i => (hstops i).trans ?_, rfl, fun _ => rfl, trivial⟩
    simp [MainPc.asks]
  | askingWorker k =>
    rw [hmain] at hstops hmanager
    simp only
    split
    · next hk =>
      refine ⟨fun i => ?_, hmanager, hended, trivial⟩
      have hflag := congrArg Signal.State.stopRequested
        (flag_signal (s := s) (i := ⟨k, hk⟩) (j := i) Signal.State.halt)
      refine hflag.trans ?_
      split
      · next hi =>
        rw [hi]
        refine (State.signal_flags _).2.trans ?_
        simp [MainPc.asks]
      · next hi =>
        have hne : i.val ≠ k := fun h => hi (Fin.ext h)
        have hiff : i.val < k + 1 ↔ i.val < k := by omega
        rw [hstops i]
        simp only [MainPc.asks, hiff]
    · refine ⟨fun i => (hstops i).trans ?_, hmanager, hended, trivial⟩
      have hi : i.val < k := by omega
      simp only [MainPc.asks, hi, decide_true]
  | joiningManager =>
    rw [hmain] at hstops hmanager
    have hnone : ∀ i : Fin 6, i.val < 0 → (s.worker i).threadStarted = false := fun i hi =>
      absurd hi (Nat.not_lt_zero _)
    simp only
    split
    · next hflag => exact ⟨hstops, hmanager, hended, (Bool.not_eq_true' _ ▸ hflag), hnone⟩
    split
    · exact ⟨hstops, hmanager, hended, rfl, hnone⟩
    · rw [← hmain] at hstops hmanager
      exact ⟨hstops, hmanager, hended, hthere⟩
  | joiningWorker k =>
    rw [hmain] at hstops hmanager hthere
    simp only
    split
    · next hk =>
      split
      · next hflag =>
        refine ⟨hstops, hmanager, hended, hthere.1, fun i hi => ?_⟩
        rcases Nat.lt_succ_iff_lt_or_eq.mp hi with hlt | heq
        · exact hthere.2 i hlt
        · rw [show i = ⟨k, hk⟩ from Fin.ext heq]
          exact (Bool.not_eq_true' _ ▸ hflag)
      split
      · refine ⟨fun i => ?_, hmanager, hended, hthere.1, fun i hi => ?_⟩
        all_goals by_cases hik : i = ⟨k, hk⟩
        · subst hik
          simp only [Function.update_self]
          exact hstops _
        · simp only [Function.update_of_ne hik]
          exact hstops i
        · subst hik
          simp only [Function.update_self]
        · have hne : i.val ≠ k := fun h => hik (Fin.ext h)
          simp only [Function.update_of_ne hik]
          exact hthere.2 i (by omega)
      · rw [← hmain] at hstops hmanager hthere
        exact ⟨hstops, hmanager, hended, hthere⟩
    · exact ⟨hstops, hmanager, hended, hthere.1, fun i => hthere.2 i (by omega)⟩

/-- **The flags tell how far the main thread has come**, in every state of
every run. -/
theorem step_arranged (hs : Arranged s) (a : ThreadAction) : Arranged (s.step P Q K config a) := by
  by_cases ha : ∃ created, a = .main created
  · obtain ⟨created, rfl⟩ := ha
    exact mainStep_arranged hs created
  · exact (step_keeps fun created h => ha ⟨created, h⟩).arranged hs

/-! ## One worker -/

/-- The flags of a worker change only by what may happen to a thread that
sleeps until it is asked. -/
theorem step_others (hs : Arranged s) {a : ThreadAction}
    (ha : ¬ (a = .worker i ∧ (s.worker i).threadStarted = true)) :
    Others (s.worker i).signal ((s.step P Q K config a).worker i).signal := by
  cases a with
  | other a => exact .none
  | worker j =>
    simp only [step]
    split
    swap
    · exact .none
    next hstarted =>
    have hij : i ≠ j := by
      rintro rfl
      exact ha ⟨rfl, hstarted⟩
    rw [(s.workerStep_frame (P := P) (config.workerContext j)).2.2.1 i hij]
    exact .none
  | startle j =>
    simp only [step, flag_signal]
    split
    · next hij =>
      rw [hij]
      exact .startle
    · exact .none
  | manager =>
    simp only [step]
    split
    swap
    · exact .none
    rcases (s.managerStep_worker (P := P)).2 with hsame | ⟨j, hasked⟩
    · rw [hsame]
      exact .none
    · rw [hasked, flag_signal]
      split
      · next hij =>
        rw [hij]
        exact .ask
      · exact .none
  | main created =>
    have hthere := hs.there
    simp only [step]
    unfold mainStep
    cases hmain : s.main with
    | stopped | serving | askingManager => exact .none
    | creating k =>
      rw [hmain] at hthere
      simp only
      split
      · exact .none
      split
      · next hk =>
        by_cases hi : i = ⟨k, hk⟩
        · -- a worker that is created has had no flags so far
          have hworker := hthere.2 i
          have hik : ¬ i.val < k := by
            rw [hi]
            exact Nat.lt_irrefl k
          rw [if_neg hik] at hworker
          subst hi
          simp only [Function.update_self]
          rw [hworker.2]
          exact .none
        · simp only [Function.update_of_ne hi]
          exact .none
      · exact .none
    | askingWorker k =>
      simp only
      split
      · next hk =>
        have hflag := flag_signal (s := s) (i := ⟨k, hk⟩) (j := i) Signal.State.halt
        by_cases hi : i = ⟨k, hk⟩
        · rw [if_pos hi] at hflag
          simp only [hflag]
          rw [hi]
          exact .halt
        · rw [if_neg hi] at hflag
          simp only [hflag]
          exact .none
      · exact .none
    | joiningManager =>
      simp only
      split
      · exact .none
      split
      · exact .none
      · exact .none
    | joiningWorker k =>
      simp only
      split
      · next hk =>
        split
        · exact .none
        split
        · by_cases hi : i = ⟨k, hk⟩
          · subst hi
            simp only [Function.update_self]
            exact .none
          · simp only [Function.update_of_ne hi]
            exact .none
        · exact .none
      · exact .none

/-- A worker is joined where it has ended. -/
theorem step_started (hstarted : (s.worker i).threadStarted = true) (a : ThreadAction) :
    ((s.step P Q K config a).worker i).threadStarted = true ∨
      (s.worker i).signal.place = .ended := by
  by_cases ha : ∃ created, a = .main created
  swap
  · have hkept : Keeps s (s.step P Q K config a) := step_keeps fun created h => ha ⟨created, h⟩
    exact .inl ((hkept.started i).trans hstarted)
  obtain ⟨created, rfl⟩ := ha
  simp only [step]
  unfold mainStep
  cases hmain : s.main with
  | stopped | serving | askingManager => exact .inl hstarted
  | creating k =>
    simp only
    split
    · exact .inl hstarted
    split
    · next hk =>
      left
      by_cases hi : i = ⟨k, hk⟩
      · subst hi
        simp only [Function.update_self]
      · simp only [Function.update_of_ne hi]
        exact hstarted
    · exact .inl hstarted
  | askingWorker k =>
    simp only
    split
    · exact .inl ((flag_started _).trans hstarted)
    · exact .inl hstarted
  | joiningManager =>
    simp only
    split
    · exact .inl hstarted
    split
    · exact .inl hstarted
    · exact .inl hstarted
  | joiningWorker k =>
    simp only
    split
    · next hk =>
      split
      · exact .inl hstarted
      split
      · next hended =>
        by_cases hi : i = ⟨k, hk⟩
        · exact .inr (hi ▸ hended)
        · simp only [Function.update_of_ne hi]
          exact .inl hstarted
      · exact .inl hstarted
    · exact .inl hstarted

/-! ## Runs -/

section

variable {r : Run (step P Q K config)} {N n : ℕ}

/-- Every thread of the manager is scheduled again and again, as long as
it is there and can go on. The timed wait of the manager ends by itself. -/
structure Scheduled (r : Run (step P Q K config)) : Prop where
  worker : ∀ i, ∃ᶠ n in atTop, r.action n = .worker i ∨
    ((r.state n).worker i).threadStarted = false ∨ ¬ ((r.state n).worker i).signal.Runnable
  manager : ∃ᶠ n in atTop, r.action n = .manager ∨
    (r.state n).manager.threadStarted = false ∨ (r.state n).manager.pc = .ended

theorem arranged_of_run (r : Run (step P Q K config)) (hstart : (r.state 0).Initial) (n : ℕ) :
    Arranged (r.state n) :=
  r.always hstart.arranged (fun _ a h => step_arranged h a) n

/-- When a worker takes a step of its own. -/
def Owns (r : Run (step P Q K config)) (i : Fin 6) (n : ℕ) : Prop :=
  r.action n = .worker i ∧ ((r.state n).worker i).threadStarted = true

theorem owns_step (h : Owns r i n) :
    Own (.turning (config.workerContext i).turns) Work.size ((r.state n).worker i).signal
      ((r.state (n + 1)).worker i).signal := by
  rw [r.next, h.1]
  simp only [step, h.2, if_true]
  exact workerStep_own _

theorem others_step (hstart : (r.state 0).Initial) (h : ¬ Owns r i n) :
    Others ((r.state n).worker i).signal ((r.state (n + 1)).worker i).signal := by
  rw [r.next]
  exact step_others (arranged_of_run r hstart n) h

/-- No worker sleeps on a request. -/
theorem sound_of_run (hstart : (r.state 0).Initial) (n : ℕ) :
    Signal.Sound ((r.state n).worker i).signal := by
  induction n with
  | zero =>
    rw [hstart.signal]
    exact .new
  | succ n ih =>
    by_cases ho : Owns r i n
    · exact ih.own (owns_step ho)
    · exact ih.others (others_step hstart ho)

/-- A worker that is there stays until it has ended. -/
theorem started_or_ended (hstart : (r.state 0).Initial)
    (hstarted : ((r.state N).worker i).threadStarted = true) (hn : N ≤ n) :
    ((r.state n).worker i).threadStarted = true ∨ ((r.state n).worker i).signal.place = .ended := by
  induction n, hn using Nat.le_induction with
  | base => exact .inl hstarted
  | succ n hn ih =>
    have hended : ((r.state n).worker i).signal.place = .ended →
        ((r.state (n + 1)).worker i).signal.place = .ended := fun h => by
      by_cases ho : Owns r i n
      · exact (owns_step ho).ended h
      · exact (others_step hstart ho).ended h
    rcases ih with hthere | hgone
    · rw [r.next]
      refine (step_started hthere (r.action n)).imp_right fun h => ?_
      rw [← r.next]
      exact hended h
    · exact .inr (hended hgone)

/-- **A worker is a thread that sleeps until it is asked**, from the time
it is there. -/
theorem behaves (hstart : (r.state 0).Initial) (hscheduled : Scheduled r)
    (hstarted : ((r.state N).worker i).threadStarted = true) :
    Behaves (.turning (config.workerContext i).turns) Work.size
      (fun k => ((r.state (N + k)).worker i).signal) fun k => Owns r i (N + k) := by
  refine ⟨sound_of_run hstart _, fun k ho => owns_step ho, fun k ho => others_step hstart ho, ?_⟩
  rw [frequently_atTop]
  intro M
  obtain ⟨n, hn, hturn⟩ := frequently_atTop.mp (hscheduled.worker i) (N + M)
  obtain ⟨k, rfl⟩ := Nat.exists_eq_add_of_le ((Nat.le_add_right N M).trans hn)
  refine ⟨k, by omega, ?_⟩
  have hgone : ((r.state (N + k)).worker i).threadStarted ≠ true →
      ¬ ((r.state (N + k)).worker i).signal.Runnable := fun h => by
    have hended := (started_or_ended hstart hstarted (Nat.le_add_right N k)).resolve_left h
    rw [State.Runnable, hended]
    exact id
  rcases hturn with haction | hnone | hidle
  · by_cases hthere : ((r.state (N + k)).worker i).threadStarted = true
    · exact .inl ⟨haction, hthere⟩
    · exact .inr (hgone hthere)
  · exact .inr (hgone (by simp [hnone]))
  · exact .inr hidle

end

end Threads

end System

end PutGateway
