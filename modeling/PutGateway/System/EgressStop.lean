import PutGateway.System.Homecoming
/-!
# Stopping the egress manager

`egress_manager_stop` asks every thread to end and joins it. A join waits
for the thread, and the thread ends: the manager at the end of its round,
a worker at the end of its drain. So the stop returns, whether the start
before it has created all threads or not, and no thread leaves a frame
behind.
-/

namespace PutGateway

namespace System

open Linux Rtos Progress Signal Filter

variable {A : Type} {P Q : Platform} {K : Clock} {config : EgressManagerConfig A}
  {r : Run (Threads.step P Q K config)} {s : Threads A} {M N n k : ℕ} {i j : Fin 6}

namespace Threads

/-! ## The main thread -/

/-- How far the main thread is from its last step. -/
def toStop : MainPc → ℕ
  | .creating k => 30 + (6 - k)
  | .serving => 29
  | .askingManager => 28
  | .askingWorker k => 20 + (6 - k)
  | .joiningManager => 19
  | .joiningWorker k => 10 + (6 - k)
  | .stopped => 0

/-- The main thread has stopped, or waits for a thread to end. -/
inductive Waits (s : Threads A) : Prop
  | stopped (h : s.main = .stopped)
  | manager (h : s.main = .joiningManager) (hstarted : s.manager.threadStarted = true)
      (hgoing : s.manager.pc ≠ .ended)
  | worker (i : Fin 6) (h : s.main = .joiningWorker i.val)
      (hstarted : (s.worker i).threadStarted = true) (hgoing : (s.worker i).signal.place ≠ .ended)

/-- **A step of the main thread goes on, or waits.** -/
theorem mainStep_goes (created : Bool) :
    toStop (s.mainStep created).main < toStop s.main ∨ (s.mainStep created = s ∧ s.Waits) := by
  unfold mainStep
  cases hmain : s.main with
  | stopped => exact .inr ⟨rfl, .stopped hmain⟩
  | creating k =>
    left
    simp only
    split
    · simp only [toStop]
      omega
    split
    · simp only [toStop]
      omega
    · simp only [toStop]
      omega
  | serving => exact .inl (Nat.lt_succ_self 28)
  | askingManager => exact .inl (by decide : 26 < 28)
  | askingWorker k =>
    left
    simp only
    split
    · simp only [toStop]
      omega
    · simp only [toStop]
      omega
  | joiningManager =>
    simp only
    split
    · exact .inl (by decide : 16 < 19)
    next hstarted =>
    split
    · exact .inl (by decide : 16 < 19)
    · next hgoing =>
      refine .inr ⟨rfl, .manager hmain ?_ hgoing⟩
      simpa using hstarted
  | joiningWorker k =>
    simp only
    split
    · next hk =>
      split
      · left
        simp only [toStop]
        omega
      next hstarted =>
      split
      · left
        simp only [toStop]
        omega
      · next hgoing =>
        refine .inr ⟨rfl, .worker ⟨k, hk⟩ hmain ?_ hgoing⟩
        simpa using hstarted
    · left
      simp only [toStop]
      omega

/-- The other threads leave the main thread where it is. -/
theorem main_next (haction : ∀ created, r.action n ≠ .main created) :
    (r.state (n + 1)).main = (r.state n).main := by
  rw [r.next]
  exact (step_keeps haction).main

/-- From `M` on the main thread is where it is, and waits. -/
structure Rests (r : Run (step P Q K config)) (M : ℕ) : Prop where
  main : ∀ n, M ≤ n → (r.state n).main = (r.state M).main
  waits : ∀ n created, M ≤ n → r.action n = .main created → (r.state n).Waits
  same : ∀ n created, M ≤ n → r.action n = .main created → r.state (n + 1) = r.state n

/-- **The main thread comes to a place it does not leave.** -/
theorem main_rests (r : Run (step P Q K config)) : ∃ M, Rests r M := by
  have hstep : ∀ n created, r.action n = .main created →
      toStop (r.state (n + 1)).main < toStop (r.state n).main ∨
        (r.state (n + 1) = r.state n ∧ (r.state n).Waits) := fun n created haction => by
    rw [r.next, haction]
    exact mainStep_goes created
  have hle : ∀ n, toStop (r.state (n + 1)).main ≤ toStop (r.state n).main := fun n => by
    by_cases haction : ∃ created, r.action n = .main created
    · obtain ⟨created, haction⟩ := haction
      exact (hstep n created haction).elim Nat.le_of_lt fun h => (congrArg (toStop ·.main) h.1).le
    · exact (congrArg toStop (main_next fun created h => haction ⟨created, h⟩)).le
  obtain ⟨M, -, hconst⟩ := settles (fun n => toStop (r.state n).main) (N := 0) fun n _ => hle n
  have hkept : ∀ n created, M ≤ n → r.action n = .main created →
      r.state (n + 1) = r.state n ∧ (r.state n).Waits := fun n created hn haction =>
    (hstep n created haction).resolve_left fun hless => by
      have hsame := (hconst (n + 1) (by omega)).trans (hconst n hn).symm
      omega
  refine ⟨M, ⟨fun n hn => ?_, fun n created hn haction => (hkept n created hn haction).2,
    fun n created hn haction => (hkept n created hn haction).1⟩⟩
  induction n, hn using Nat.le_induction with
  | base => rfl
  | succ n hn ih =>
    refine Eq.trans ?_ ih
    by_cases haction : ∃ created, r.action n = .main created
    · obtain ⟨created, haction⟩ := haction
      rw [(hkept n created hn haction).1]
    · exact main_next fun created h => haction ⟨created, h⟩

theorem Rests.mono (h : Rests r M) (hMN : M ≤ N) : Rests r N :=
  ⟨fun n hn => (h.main n (hMN.trans hn)).trans (h.main N hMN).symm,
    fun n created hn => h.waits n created (hMN.trans hn),
    fun n created hn => h.same n created (hMN.trans hn)⟩

/-! ## The manager ends -/

/-- How many steps a manager that is stopped is from its end. -/
def toEnd : ManagerPc → ℕ
  | .polling => 12
  | .ended => 0
  | .asleep => 1
  | .waiting => 2
  | .recording => 3
  | .draining => 4
  | .waking _ k => 5 + (6 - k)

section

variable (hrests : Rests r M)

include hrests

/-- Only its own steps move the manager. -/
theorem Rests.manager_next (hn : M ≤ n) (haction : r.action n ≠ .manager) :
    (r.state (n + 1)).manager = (r.state n).manager := by
  cases ha : r.action n with
  | manager => exact absurd ha haction
  | main created => rw [hrests.same n created hn ha]
  | other a => rw [r.next, ha]; rfl
  | startle i => rw [r.next, ha]; rfl
  | worker i =>
    rw [r.next, ha]
    simp only [step]
    split
    · exact (workerStep_frame _).2.1
    · rfl

/-- A thread that is there stays. -/
theorem Rests.manager_started (hn : M ≤ n) :
    (r.state n).manager.threadStarted = (r.state M).manager.threadStarted := by
  induction n, hn using Nat.le_induction with
  | base => rfl
  | succ n hn ih =>
    refine Eq.trans ?_ ih
    by_cases haction : r.action n = .manager
    · rw [r.next, haction]
      simp only [step]
      split
      · exact managerStep_manager.1
      · rfl
    · rw [hrests.manager_next hn haction]

variable (hP : P.Succeeds) (hQ : Q.Succeeds) (hstart : (r.state 0).Initial)
  (hscheduled : Scheduled r) (hcalm : Calm (machineRun r) M)

include hP hQ hstart hscheduled hcalm

/-- **A manager that was asked to ends.** -/
theorem Rests.manager_ends (hstarted : (r.state M).manager.threadStarted = true)
    (hstop : ∀ n, M ≤ n → (r.state n).manager.stopRequested = true) :
    ∃ n, M ≤ n ∧ (r.state n).manager.pc = .ended := by
  by_contra hnever
  push Not at hnever
  have hflag : ∀ n, M ≤ n → (r.state n).manager.threadStarted = true := fun n hn =>
    (hrests.manager_started hn).trans hstarted
  have hrecurs : ∃ᶠ n in atTop, r.action n = .manager := by
    rw [frequently_atTop]
    intro N
    obtain ⟨n, hn, hturn⟩ := frequently_atTop.mp hscheduled.manager (max N M)
    have hM : M ≤ n := (le_max_right N M).trans hn
    refine ⟨n, (le_max_left N M).trans hn, ?_⟩
    rcases hturn with haction | hnone | hended
    · exact haction
    · rw [hflag n hM] at hnone
      cases hnone
    · exact absurd hended (hnever n hM)
  obtain ⟨n, -, -, hfalse⟩ := descends (p := fun _ => False)
    (fun n => toEnd (r.state n).manager.pc) hrecurs
    (fun n hn hother => by rw [hrests.manager_next hn hother]) fun n hn haction _ => by
      have hgoing := hnever n hn
      have hnext : r.state (n + 1) = (r.state n).managerStep P := by
        rw [r.next, haction]
        simp only [step, hflag n hn, if_true]
      rw [hnext]
      unfold managerStep
      cases hcases : (r.state n).manager.pc with
      | ended => exact absurd hcases hgoing
      | polling => exact Nat.lt_succ_self 11
      | waking pendingBits k =>
        simp only
        split
        · simp only [manage, toEnd]
          omega
        · simp only [manage, toEnd]
          omega
      | draining =>
        have hempty := drained_of_calm hP hQ hstart hcalm hn haction (hflag n hn) hcases
        simp only [drained, hempty, if_true]
        exact Nat.lt_succ_self 3
      | recording => exact Nat.lt_succ_self 2
      | waiting =>
        simp only [manage, hstop n hn, if_true]
        exact (by decide : 0 < 2)
      | asleep =>
        simp only [manage, hstop n hn, if_true]
        exact Nat.lt_succ_self 0
  exact hfalse

end

/-! ## The stop -/

/-- A worker that is not there has nothing in hand. -/
theorem unstarted_of_run (hstart : (r.state 0).Initial) (n : ℕ)
    (hgone : ((r.state n).worker i).threadStarted = false) : ¬ (r.state n).Holding i := by
  rintro ⟨left, d, hplace⟩
  induction n with
  | zero =>
    rw [hstart.signal] at hplace
    cases hplace
  | succ n ih =>
    by_cases hthere : ((r.state n).worker i).threadStarted = true
    · -- it has just been joined, and had ended
      have hended : ((r.state n).worker i).signal.place = .ended := by
        have hkept : ((step P Q K config (r.state n) (r.action n)).worker i).threadStarted = true ∨
          ((r.state n).worker i).signal.place = .ended := step_started hthere _
        refine hkept.resolve_left fun hstarted => ?_
        rw [r.next, hstarted] at hgone
        cases hgone
      have hended' : ((r.state (n + 1)).worker i).signal.place = .ended := by
        by_cases hown : Owns r i n
        · exact (owns_step hown).ended hended
        · exact (others_step hstart hown).ended hended
      rw [hended'] at hplace
      cases hplace
    · have hown : ¬ Owns r i n := fun hown => hthere hown.2
      exact ih (by simpa using hthere) ((others_step hstart hown).working.mp hplace)

section

variable (hP : P.Succeeds) (hQ : Q.Succeeds) (hstart : (r.state 0).Initial)
  (hscheduled : Scheduled r) (hcalm : Calm (machineRun r) M) (hrests : Rests r M)
  (hmain : ∃ᶠ n in atTop, ∃ created, r.action n = .main created)

include hP hQ hstart hscheduled hcalm hrests hmain

/-- A main thread that goes on as long as it can stops. -/
theorem stops_of_rests : (r.state M).main = .stopped := by
  obtain ⟨n, hn, created, haction⟩ := frequently_atTop.mp hmain M
  have harranged := fun n => arranged_of_run r hstart n
  cases hrests.waits n created hn haction with
  | stopped h => exact (hrests.main n hn).symm.trans h
  | manager h hstarted hgoing =>
    have hplace : ∀ n, M ≤ n → (r.state n).main = .joiningManager := fun k hk =>
      (hrests.main k hk).trans ((hrests.main n hn).symm.trans h)
    obtain ⟨m, hm, hended⟩ := hrests.manager_ends hP hQ hstart hscheduled hcalm
      ((hrests.manager_started hn).symm.trans hstarted) fun k hk => by
        rw [(harranged k).managerStops, hplace k hk]
        rfl
    -- it stays at its end, and the next join finds it there
    have hstays : ∀ k, m ≤ k → (r.state k).manager.pc = .ended := fun k hk => by
      induction k, hk using Nat.le_induction with
      | base => exact hended
      | succ k hk ih =>
        by_cases haction : r.action k = .manager
        · rw [r.next, haction]
          simp only [step]
          split
          · simp only [managerStep, ih]
          · exact ih
        · rwa [hrests.manager_next (hm.trans hk) haction]
    obtain ⟨k, hk, created', haction'⟩ := frequently_atTop.mp hmain m
    cases hrests.waits k created' (hm.trans hk) haction' with
    | stopped h' =>
      rw [hplace k (hm.trans hk)] at h'
      cases h'
    | manager _ _ hgoing' => exact absurd (hstays k hk) hgoing'
    | worker i h' =>
      rw [hplace k (hm.trans hk)] at h'
      cases h'
  | worker i h hstarted hgoing =>
    have hplace : ∀ n, M ≤ n → (r.state n).main = .joiningWorker i.val := fun k hk =>
      (hrests.main k hk).trans ((hrests.main n hn).symm.trans h)
    have hasked : ((r.state n).worker i).signal.stopRequested = true := by
      rw [(harranged n).stops, hplace n hn]
      rfl
    obtain ⟨m, -, hended⟩ := (behaves hstart hscheduled hstarted).halts (N := 0) hasked
    obtain ⟨k, hk, created', haction'⟩ := frequently_atTop.mp hmain (n + m)
    obtain ⟨l, rfl⟩ := Nat.exists_eq_add_of_le ((Nat.le_add_right n m).trans hk)
    have hover := hended l (by omega)
    cases hrests.waits (n + l) created' (by omega) haction' with
    | stopped h' =>
      rw [hplace (n + l) (by omega)] at h'
      cases h'
    | manager h' =>
      rw [hplace (n + l) (by omega)] at h'
      cases h'
    | worker j h' _ hgoing' =>
      rw [hplace (n + l) (by omega)] at h'
      obtain rfl : i = j := Fin.ext (MainPc.joiningWorker.inj h')
      exact absurd hover hgoing'

end

/-- The manager is started, a frame is committed, the RTOS sends it on, and
the worker of Ethernet is woken and takes it. Then the stop begins, and the
threads take steps in turn. -/
def stoppingSchedule (n : ℕ) (_ : Threads Unit) : ThreadAction :=
  if n < 7 then .main true
  else if n < 10 then .other (.linux (offer (n - 7)))
  else if n = 10 then .other (.call .periodic .ok)
  else if n < 20 then .other .stage
  else if n < 23 then .manager
  else if n < 25 then .worker 1
  else if n = 25 then .main true
  else if n % 8 < 6 then .worker (Fin.ofNat 6 (n % 8))
  else if n % 8 = 6 then .manager
  else .main true

/-- The run of that schedule. -/
def stoppingRun : Run (step .defaultOps .defaultOps (fun _ => 0) idleManager) :=
  .ofSchedule idleThreads stoppingSchedule

/-- The turns of the threads. -/
theorem stoppingRun_turn {n : ℕ} (hn : 26 ≤ n) : stoppingRun.action n =
    if n % 8 < 6 then .worker (Fin.ofNat 6 (n % 8)) else if n % 8 = 6 then .manager else .main true := by
  have haction : stoppingRun.action n = stoppingSchedule n (stoppingRun.state n) := rfl
  rw [haction, stoppingSchedule, if_neg (by omega), if_neg (by omega), if_neg (by omega),
    if_neg (by omega), if_neg (by omega), if_neg (by omega), if_neg (by omega)]

theorem stoppingRun_recurs {p : ℕ → Prop} {j : ℕ} (hj : j < 8)
    (h : ∀ n, 26 ≤ n → n % 8 = j → p n) : ∃ᶠ n in atTop, p n := by
  rw [frequently_atTop]
  intro N
  exact ⟨8 * (N + 4) + j, by omega, h _ (by omega) (by omega)⟩

theorem stoppingRun_scheduled : Scheduled stoppingRun where
  worker i := stoppingRun_recurs (j := i) (by omega) fun n hn hj => by
    left
    rw [stoppingRun_turn hn, hj, if_pos i.isLt]
    congr
    exact Fin.ext (Nat.mod_eq_of_lt i.isLt)
  manager := stoppingRun_recurs (j := 6) (by decide) fun n hn hj => by
    left
    rw [stoppingRun_turn hn, hj]
    rfl

end Threads

end System

end PutGateway
