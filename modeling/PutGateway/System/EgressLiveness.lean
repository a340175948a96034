import PutGateway.System.EgressProgress
/-!
# The egress threads drain

Where the manager serves and Linux commits no more, the manager polls
again and again, wakes the workers of the rings that hold something, and
takes the reclaim ring empty. To the machine the threads are then the fair
Linux that liveness asks for: the RTOS comes back to the normal state, and
every frame comes home to the pool of Linux.
-/

namespace PutGateway

namespace System

open Linux Rtos Progress Signal Filter

variable {A : Type} {P Q : Platform} {K : Clock} {config : EgressManagerConfig A}
  {r : Run (Threads.step P Q K config)} {M N n k : ℕ} {i j : Fin 6}

/-! ## What the other threads do -/

/-- Another thread commits a frame. -/
def ThreadAction.Commits : ThreadAction → Prop
  | .other a => a.Commits
  | _ => False

/-- Another thread takes from a TX ring. -/
def ThreadAction.TakesTx : ThreadAction → Prop
  | .other (.linux (.dequeueTxDescriptor _)) => True
  | _ => False

namespace Threads

/-- The threads of the manager commit nothing. -/
theorem act_quiet {s : Threads A} {a : ThreadAction} (ha : ¬ a.Commits) : ¬ (s.act a).Commits := by
  have hpause : ¬ s.machine.pause.Commits := by
    unfold Machine.pause
    split
    · exact id
    · exact id
  cases a with
  | other a => exact ha
  | startle i => exact hpause
  | main created => exact hpause
  | manager =>
    simp only [act]
    split
    swap
    · exact hpause
    split
    · exact id
    · exact hpause
  | worker i =>
    simp only [act]
    split
    swap
    · exact hpause
    split
    · exact id
    · exact id
    · exact hpause

/-! ## Serving -/

/-- From `N` on the manager has been started and not been stopped. -/
def Serving (r : Run (step P Q K config)) (N : ℕ) : Prop := ∀ n, N ≤ n → (r.state n).main = .serving

section

variable (hstart : (r.state 0).Initial) (hserving : Serving r N)

include hstart hserving

/-- Nobody has been asked to end, and all threads are there. -/
theorem serving_flags (hn : N ≤ n) :
    (r.state n).manager.threadStarted = true ∧ (r.state n).manager.stopRequested = false ∧
      ∀ i, ((r.state n).worker i).threadStarted = true ∧
        ((r.state n).worker i).signal.stopRequested = false := by
  have harranged := arranged_of_run r hstart n
  have hthere := harranged.there
  have hmanager := harranged.managerStops
  have hworkers := harranged.stops
  rw [hserving n hn] at hthere hmanager hworkers
  exact ⟨hthere.1, hmanager, fun i => ⟨hthere.2 i, hworkers i⟩⟩

theorem manager_going (hn : N ≤ n) : (r.state n).manager.pc ≠ .ended := by
  intro hended
  have hstop := (arranged_of_run r hstart n).managerEnded hended
  rw [(serving_flags hstart hserving hn).2.1] at hstop
  cases hstop

/-- A step of the manager. -/
theorem manager_step (hn : N ≤ n) (haction : r.action n = .manager) :
    r.state (n + 1) = (r.state n).managerStep P := by
  rw [r.next, haction]
  simp only [step, (serving_flags hstart hserving hn).1, if_true]

omit hstart in
/-- The manager is moved by its own steps only. -/
theorem manager_next (hn : N ≤ n) (haction : r.action n ≠ .manager) :
    (r.state (n + 1)).manager = (r.state n).manager := by
  rw [r.next]
  cases ha : r.action n with
  | manager => exact absurd ha haction
  | other a => rfl
  | startle i => rfl
  | worker i =>
    simp only [step]
    split
    · exact (workerStep_frame _).2.1
    · rfl
  | main created =>
    simp only [step, mainStep, hserving n hn]

/-- The manager takes steps again and again. -/
theorem manager_recurs (hscheduled : Scheduled r) : ∃ᶠ n in atTop, r.action n = .manager := by
  rw [frequently_atTop]
  intro M
  obtain ⟨n, hn, hturn⟩ := frequently_atTop.mp hscheduled.manager (max M N)
  have hN : N ≤ n := (le_max_right M N).trans hn
  refine ⟨n, (le_max_left M N).trans hn, ?_⟩
  rcases hturn with haction | hnone | hended
  · exact haction
  · rw [(serving_flags hstart hserving hN).1] at hnone
    cases hnone
  · exact absurd hended (manager_going hstart hserving hN)

end

/-! ## The round of the manager -/

/-- How many steps the manager is from its poll, once its ring is empty. -/
def toPoll : ManagerPc → ℕ
  | .polling | .ended => 0
  | .asleep => 1
  | .waiting => 2
  | .recording => 3
  | .draining => 4
  | .waking _ k => 5 + (6 - k)

/-- And from its drain. -/
def toDrain (pc : ManagerPc) : ℕ := if 4 ≤ toPoll pc then toPoll pc - 4 else toPoll pc + 9

theorem toDrain_waking (pendingBits : UInt32) : toDrain (.waking pendingBits k) = 1 + (6 - k) := by
  have htoPoll : toPoll (.waking pendingBits k) = 5 + (6 - k) := rfl
  rw [toDrain, htoPoll, if_pos (by omega)]
  omega

section

variable (hP : P.Succeeds) (hQ : Q.Succeeds) (hstart : (r.state 0).Initial)
  (hscheduled : Scheduled r) (hserving : Serving r M) (hcalm : Calm (machineRun r) M)

include hP hQ hstart hserving hcalm

omit hserving in
/-- A calm machine has no reclaims for a manager that drains. -/
theorem drained_of_calm (hn : M ≤ n) (haction : r.action n = .manager)
    (hflag : (r.state n).manager.threadStarted = true) (hpc : (r.state n).manager.pc = .draining) :
    (linuxShmDequeueReclaimDescriptor P (r.state n).machine.gateway.shm).1 = .ipcQueueEmpty := by
  have hsane : Sane Q K (r.state n).machine := sane_of_run hQ (machineRun r) hstart.machine n
  have hact : (r.state n).act (r.action n) = .linux .dequeueReclaimDescriptor := by
    rw [haction]
    simp only [act, hflag, hpc, if_true]
  have hstill := hcalm n hn
  rw [(machineRun r).next] at hstill
  simp only [machineRun, hact] at hstill
  have hempty := hsane.dequeueReclaim_still hP hstill
  have hinit : (r.state n).machine.gateway.shm.ipc.initialized = true :=
    hsane.exclusive.owned.initialized
  rcases linuxShmDequeueReclaimDescriptor_cases P hsane.sound.valid hinit with
    ⟨-, -, -, -, hnone⟩ | ⟨d, rest, hring, -⟩
  · exact (hnone hP).2
  · have hnil : (r.state n).machine.gateway.shm.region.view.reclaim = [] := hempty
    rw [hring] at hnil
    cases hnil

/-- **A step of the manager brings it nearer to its poll.** -/
theorem toPoll_lt (hn : M ≤ n) (haction : r.action n = .manager)
    (hpc : (r.state n).manager.pc ≠ .polling) :
    toPoll (r.state (n + 1)).manager.pc < toPoll (r.state n).manager.pc := by
  obtain ⟨hflag, hstop, -⟩ := serving_flags hstart hserving hn
  have hgoing := manager_going hstart hserving hn
  rw [manager_step hstart hserving hn haction]
  unfold managerStep
  cases hcases : (r.state n).manager.pc with
  | polling => exact absurd hcases hpc
  | ended => exact absurd hcases hgoing
  | waking pendingBits k =>
    simp only
    split
    · simp only [manage, toPoll]
      omega
    · simp only [manage, toPoll]
      omega
  | draining =>
    have hempty := drained_of_calm hP hQ hstart hcalm hn haction hflag hcases
    simp only [drained, hempty, if_true]
    exact Nat.lt_succ_self 3
  | recording => exact Nat.lt_succ_self 2
  | waiting =>
    simp only [manage, hstop]
    exact Nat.lt_succ_self 1
  | asleep =>
    simp only [manage, hstop]
    exact Nat.lt_succ_self 0

omit hP hQ hcalm in
/-- Short of a drain it comes nearer to that. -/
theorem toDrain_lt (hn : M ≤ n) (haction : r.action n = .manager)
    (hpc : (r.state n).manager.pc ≠ .draining) :
    toDrain (r.state (n + 1)).manager.pc < toDrain (r.state n).manager.pc := by
  obtain ⟨hflag, hstop, -⟩ := serving_flags hstart hserving hn
  have hgoing := manager_going hstart hserving hn
  rw [manager_step hstart hserving hn haction]
  unfold managerStep
  cases hcases : (r.state n).manager.pc with
  | draining => exact absurd hcases hpc
  | ended => exact absurd hcases hgoing
  | polling => exact (by decide : 7 < 9)
  | waking pendingBits k =>
    simp only
    split
    · simp only [manage, toDrain_waking]
      omega
    · simp only [manage, toDrain_waking]
      exact Nat.lt_add_right _ (by decide : 0 < 1)
  | recording => exact Nat.lt_succ_self 11
  | waiting =>
    simp only [manage, hstop]
    exact Nat.lt_succ_self 10
  | asleep =>
    simp only [manage, hstop]
    exact Nat.lt_succ_self 9

include hscheduled

/-- **The manager polls** again and again. -/
theorem polls (hn : M ≤ n) : ∃ k, n ≤ k ∧ r.action k = .manager ∧
    (r.state k).manager.pc = .polling :=
  descends (fun n => toPoll (r.state n).manager.pc) (manager_recurs hstart hserving hscheduled)
    (fun k hk hother => by rw [manager_next hserving (hn.trans hk) hother])
    fun k hk haction hpc => toPoll_lt hP hQ hstart hserving hcalm (hn.trans hk) haction hpc

omit hP hQ hcalm in
/-- **It drains** again and again. -/
theorem drains (hn : M ≤ n) : ∃ k, n ≤ k ∧ r.action k = .manager ∧
    (r.state k).manager.pc = .draining :=
  descends (fun n => toDrain (r.state n).manager.pc) (manager_recurs hstart hserving hscheduled)
    (fun k hk hother => by rw [manager_next hserving (hn.trans hk) hother])
    fun k hk haction hpc => toDrain_lt hstart hserving (hn.trans hk) haction hpc

omit hP hQ hcalm in
/-- A poll gets to every interface. -/
theorem wakes (hn : M ≤ n) {pendingBits : UInt32} (hpc : (r.state n).manager.pc = .waking pendingBits 0)
    {j : ℕ} (hj : j < 6) : ∃ k, n ≤ k ∧ r.action k = .manager ∧
      (r.state k).manager.pc = .waking pendingBits j := by
  have hrecurs := manager_recurs hstart hserving hscheduled
  have hwaits : ∀ {n j}, M ≤ n → (r.state n).manager.pc = .waking pendingBits j →
      ∃ k, n ≤ k ∧ (r.state k).manager.pc = .waking pendingBits j ∧ r.action k = .manager :=
    fun hn hpc => awaits hrecurs hpc fun k hk hpc' hother => by
      rwa [manager_next hserving (hn.trans hk) hother]
  induction j with
  | zero =>
    obtain ⟨k, hk, hpc', haction⟩ := hwaits hn hpc
    exact ⟨k, hk, haction, hpc'⟩
  | succ j ih =>
    obtain ⟨m, hm, haction, hpcm⟩ := ih (by omega)
    have hnext : (r.state (m + 1)).manager.pc = .waking pendingBits (j + 1) := by
      have hj' : j < 6 := by omega
      rw [manager_step hstart hserving (hn.trans hm) haction]
      simp only [managerStep, hpcm, hj', dif_pos, manage]
    obtain ⟨k, hk, hpc', haction'⟩ := hwaits (by omega) hnext
    exact ⟨k, by omega, haction', hpc'⟩

end

/-- The budget of a drain is positive. -/
theorem turns_ne_zero (w : EgressWorkerContext A) : w.turns ≠ 0 := by
  unfold EgressWorkerContext.turns
  split
  · decide
  · next hbudget => exact fun h => hbudget (UInt32.toNat_inj.mp h)

/-- What the manager looks at tells whether the ring holds something. -/
theorem stats_txPendingBits {s : Threads A} (h : Signalled s.machine.tasks.ipc.region) (i : Fin 6) :
    s.stats.txPendingBits &&& (1 <<< UInt32.ofNat i.val) ≠ 0 ↔
      s.machine.tasks.ipc.region.view.tx i ≠ [] := by
  have htells := h.tells (.tx i)
  have hbit : ∀ i : Fin 6, (RingId.tx i).bit = 1 <<< UInt32.ofNat i.val := by decide
  simp only [SharedRing.Tells, PendingLine.isSet, hbit, bne_iff_ne] at htells
  exact htells

section

variable (hP : P.Succeeds) (hQ : Q.Succeeds) (hstart : (r.state 0).Initial)
  (hscheduled : Scheduled r) (hserving : Serving r M) (hcalm : Calm (machineRun r) M)

include hP hQ hstart hscheduled hserving hcalm

/-- **The worker of a ring that holds something is asked to drain it.** -/
theorem asked (hn : M ≤ n)
    (hfull : ∀ k, n ≤ k → (r.state k).machine.tasks.ipc.region.view.tx i ≠ []) :
    ∃ k, n ≤ k ∧ ((r.state k).worker i).signal.wakeRequested = true := by
  obtain ⟨m, hm, haction, hpc⟩ := polls hP hQ hstart hscheduled hserving hcalm hn
  have hsignalled := signalled_of_run hP hQ (machineRun r) hstart.machine m
  have hbit := (stats_txPendingBits (s := r.state m) hsignalled i).mpr (hfull m hm)
  have hnext : (r.state (m + 1)).manager.pc = .waking (r.state m).stats.txPendingBits 0 := by
    rw [manager_step hstart hserving (hn.trans hm) haction]
    simp only [managerStep, hpc, manage]
  obtain ⟨k, hk, haction', hpc'⟩ := wakes hstart hscheduled hserving (by omega) hnext i.isLt
  refine ⟨k + 1, by omega, ?_⟩
  rw [manager_step hstart hserving (by omega) haction']
  simp only [managerStep, hpc', i.isLt, dif_pos, hbit, ne_eq, not_false_eq_true, if_true, manage,
    flag_signal]
  exact (State.signal_flags _).1

omit hP hQ hcalm in
/-- What a worker has in hand it goes on with. -/
theorem works (hn : M ≤ n) {work : Work}
    (hplace : ((r.state n).worker i).signal.place = .working work) :
    ∃ k, n ≤ k ∧ r.action k = .worker i ∧
      ((r.state k).worker i).signal.place = .working work := by
  obtain ⟨k, hk, hplace', hturn⟩ := awaits
    (I := fun k => ((r.state k).worker i).signal.place = .working work) (hscheduled.worker i) hplace
    fun k hk hplace' hother => by
      refine (others_step hstart fun ho => hother (.inl ho.1)).working.mpr hplace'
  refine ⟨k, hk, ?_, hplace'⟩
  rcases hturn with haction | hnone | hidle
  · exact haction
  · have hthere := ((serving_flags hstart hserving (hn.trans hk)).2.2 i).1
    rw [hnone] at hthere
    cases hthere
  · rw [State.Runnable, hplace'] at hidle
    exact absurd trivial hidle

/-- **And drains it**: to the machine, the worker takes from its ring. -/
theorem takes (i : Fin 6) (hn : M ≤ n) : ∃ k, n ≤ k ∧
    ((r.state k).act (r.action k) = .linux (.dequeueTxDescriptor (interfaceOfIndex i)) ∨
      (r.state k).machine.tasks.ipc.region.view.tx i = []) := by
  by_contra hnever
  push Not at hnever
  obtain ⟨m, hm, hwake⟩ := asked hP hQ hstart hscheduled hserving hcalm (i := i) hn fun k hk =>
    (hnever k hk).2
  have hflags := fun k (hk : M ≤ k) => (serving_flags hstart hserving hk).2.2 i
  have hbehaves := behaves hstart hscheduled (hflags m (by omega)).1
  obtain ⟨l, -, -, hbegun⟩ := hbehaves.served (N := 0) hwake fun k _ => (hflags (m + k) (by omega)).2
  obtain ⟨k, hk, haction, hplace⟩ := works hstart hscheduled hserving (n := m + (l + 1)) (by omega)
    hbegun
  obtain ⟨t, ht⟩ := Nat.exists_eq_succ_of_ne_zero (turns_ne_zero (config.workerContext i))
  rw [ht] at hplace
  refine (hnever k (by omega)).1 ?_
  rw [haction]
  simp only [act, (hflags k (by omega)).1, hplace, if_true]

end

/-! ## A fair Linux -/

/-- Both cores keep doing their part: the threads of the manager are
scheduled, and the RTOS keeps being called and goes through its calls. -/
structure RunsFairly (r : Run (step P Q K config)) : Prop where
  scheduled : Scheduled r
  calls : ∃ᶠ n in atTop, (r.state n).machine.rtos.left = [] ∧
    ∃ ackResult, r.action n = .other (.call .periodic ackResult)
  stages : ∃ᶠ n in atTop, r.action n = .other .stage

section

variable (hP : P.Succeeds) (hQ : Q.Succeeds) (hstart : (r.state 0).Initial) (hfair : RunsFairly r)

include hP hQ hstart hfair

/-- **To a calm machine the threads are a fair Linux.** -/
theorem fair_of_calm (hserving : Serving r M) (hcalm : Calm (machineRun r) M) :
    Fair (machineRun r) where
  tx i := by
    rw [frequently_atTop]
    intro n
    obtain ⟨k, hk, htakes⟩ := takes hP hQ hstart hfair.scheduled hserving hcalm i (le_max_right n M)
    exact ⟨k, (le_max_left n M).trans hk, htakes⟩
  reclaim := by
    rw [frequently_atTop]
    intro n
    obtain ⟨k, hk, haction, hpc⟩ := drains hstart hfair.scheduled hserving (le_max_right n M)
    refine ⟨k, (le_max_left n M).trans hk, ?_⟩
    have hflag := (serving_flags hstart hserving ((le_max_right n M).trans hk)).1
    simp only [machineRun, haction, act, hflag, hpc, if_true]
  calls := hfair.calls.mono fun n ⟨hleft, ackResult, haction⟩ => by
    refine ⟨hleft, ackResult, ?_⟩
    simp only [machineRun, haction, act]
  stages := hfair.stages.mono fun n haction => by simp only [machineRun, haction, act]

omit hstart hfair hP hQ in
/-- Calm lasts. -/
theorem calm_mono (hcalm : Calm (machineRun r) M) (hMN : M ≤ N) : Calm (machineRun r) N :=
  fun n hn => hcalm n (hMN.trans hn)

end

/-! ## A run that serves -/

/-- A manager with no adapters. -/
def idleManager : EgressManagerConfig Unit := ⟨fun _ => none, fun _ => false, 0, 0⟩

/-- Before the start of that manager. -/
def idleThreads : Threads Unit :=
  ⟨idleMachine, {}, fun _ => { adapterCtx := (), collector := none }, .creating 0⟩

theorem idleThreads_initial : idleThreads.Initial :=
  ⟨idleMachine_poweredUp, rfl, fun _ => rfl, fun _ => rfl, rfl⟩

/-- How an adapter sends a CAN frame: it takes block 0, fills it and
commits it. -/
def offer : ℕ → Linux.Operation
  | 0 => .frameAlloc putShmInterfaceCan
  | 1 => .fillFrame 0 sampleBlock
  | _ => .frameCommitRx (sampleCommit 1)

theorem offer_takesNoTx (k : ℕ) : ¬ (ThreadAction.other (.linux (offer k))).TakesTx := by
  unfold offer
  split
  all_goals exact id

/-- The manager is started, and a frame is committed. After that, in
rounds, each worker and the manager take a step, a new heartbeat comes, and
a periodic call goes through its nine stages. -/
def servingSchedule (n : ℕ) (s : Threads Unit) : ThreadAction :=
  if n < 7 then .main true
  else if n < 10 then .other (.linux (offer (n - 7)))
  else if n < 18 then .startle 0
  else if n % 18 < 6 then .worker (Fin.ofNat 6 (n % 18))
  else if n % 18 = 6 then .manager
  else if n % 18 = 7 then
    .other (.observe (s.machine.tasks.monitor.linuxHeartbeat.lastSequence + 1))
  else if n % 18 = 8 then .other (.call .periodic .ok)
  else .other .stage

/-- The run of that schedule, on a clock that stands still. -/
def servingRun : Run (step .defaultOps .defaultOps (fun _ => 0) idleManager) :=
  .ofSchedule idleThreads servingSchedule

theorem servingRun_action (n : ℕ) : servingRun.action n = servingSchedule n (servingRun.state n) := rfl

/-- A time of each kind comes in every round. -/
theorem servingRun_recurs {p : ℕ → Prop} {j : ℕ} (hj : j < 18)
    (h : ∀ n, 18 ≤ n → n % 18 = j → p n) : ∃ᶠ n in atTop, p n := by
  rw [frequently_atTop]
  intro N
  exact ⟨18 * (N + 1) + j, by omega, h _ (by omega) (by omega)⟩

theorem servingRun_serving : ∀ᶠ n in atTop, (servingRun.state n).main = .serving := by
  rw [eventually_atTop]
  refine ⟨7, fun n hn => ?_⟩
  induction n, hn using Nat.le_induction with
  | base => rfl
  | succ n hn ih =>
    refine Eq.trans ?_ ih
    rw [servingRun.next, servingRun_action]
    refine (step_keeps fun created => ?_).main
    unfold servingSchedule
    rw [if_neg (by omega)]
    split_ifs
    all_goals simp

/-- The steps of the threads of Linux leave the stages of a call. -/
theorem left_act {s : Threads A} {a : ThreadAction} (ha : ∀ b, a = .other b → ∃ op, b = .linux op) :
    ((s.act a).left s.machine.rtos.left) = s.machine.rtos.left := by
  have hpause : s.machine.pause.left s.machine.rtos.left = s.machine.rtos.left := by
    unfold Machine.pause
    split
    · next hleft =>
      rw [hleft]
      rfl
    · rfl
  cases a with
  | other b =>
    obtain ⟨op, rfl⟩ := ha b rfl
    rfl
  | startle i => exact hpause
  | main created => exact hpause
  | manager =>
    simp only [act]
    split
    swap
    · exact hpause
    split
    · rfl
    · exact hpause
  | worker i =>
    simp only [act]
    split
    swap
    · exact hpause
    split
    · rfl
    · rfl
    · exact hpause

/-- Where the calls of the run are. -/
theorem servingRun_left (n : ℕ) :
    (servingRun.state n).machine.rtos.left =
      if n < 18 ∨ n % 18 < 9 then [] else (stages .periodic).drop (n % 18 - 9) := by
  induction n with
  | zero => rfl
  | succ n ih =>
    have hnext : (servingRun.state (n + 1)).machine.rtos.left =
        ((servingRun.state n).act (servingRun.action n)).left
          (servingRun.state n).machine.rtos.left := left_next (r := machineRun servingRun) n
    rw [hnext, servingRun_action]
    obtain ⟨j, hj, hlt⟩ : ∃ j, n % 18 = j ∧ j < 18 := ⟨_, rfl, Nat.mod_lt _ (by decide)⟩
    -- before a call, at its beginning, in its course and at its last stage
    obtain hidle | ⟨hn, rfl⟩ | ⟨hn, rfl⟩ | ⟨hn, hstage, hmore⟩ | ⟨hn, rfl⟩ :
        (n < 18 ∨ j < 7) ∨ (18 ≤ n ∧ j = 7) ∨ (18 ≤ n ∧ j = 8) ∨ (18 ≤ n ∧ 9 ≤ j ∧ j < 17) ∨
          (18 ≤ n ∧ j = 17) := by
      omega
    · have hother : ∀ b, servingSchedule n (servingRun.state n) = .other b → ∃ op, b = .linux op := by
        intro b hb
        unfold servingSchedule at hb
        split_ifs at hb
        all_goals first
          | omega
          | cases hb
        exact ⟨_, rfl⟩
      rw [if_pos (by omega)] at ih
      rw [left_act hother, if_pos (by omega)]
      exact ih
    · have haction : servingSchedule n (servingRun.state n) = .other (.observe
          ((servingRun.state n).machine.tasks.monitor.linuxHeartbeat.lastSequence + 1)) := by
        rw [servingSchedule, hj, if_neg (by omega), if_neg (by omega), if_neg (by omega)]
        rfl
      rw [if_pos (by omega)] at ih
      rw [haction, if_pos (by omega)]
      exact ih
    · have hafter : (n + 1) % 18 = 9 := by omega
      have haction : servingSchedule n (servingRun.state n) = .other (.call .periodic .ok) := by
        rw [servingSchedule, hj]
        rw [if_neg (by omega), if_neg (by omega), if_neg (by omega)]
        rfl
      rw [if_pos (by omega)] at ih
      rw [haction, if_neg (by omega), hafter, ih]
      rfl
    · have hafter : (n + 1) % 18 = j + 1 := by omega
      have haction : servingSchedule n (servingRun.state n) = .other .stage := by
        rw [servingSchedule, hj, if_neg (by omega), if_neg (by omega), if_neg (by omega),
          if_neg (by omega), if_neg (by omega), if_neg (by omega), if_neg (by omega)]
      rw [if_neg (by omega)] at ih
      rw [haction, if_neg (by omega), hafter, ih, hj]
      simp only [act, Action.left, List.tail_drop]
      congr 1
      omega
    · have hafter : (n + 1) % 18 = 0 := by omega
      have haction : servingSchedule n (servingRun.state n) = .other .stage := by
        rw [servingSchedule, hj, if_neg (by omega), if_neg (by omega), if_neg (by omega)]
        rfl
      rw [if_neg (by omega)] at ih
      rw [haction, if_pos (by omega), ih, hj]
      rfl

theorem servingRun_fair : RunsFairly servingRun where
  scheduled :=
    { worker := fun i => servingRun_recurs (j := i) (by omega) fun n hn hj => by
        left
        rw [servingRun_action, servingSchedule, hj, if_neg (by omega), if_neg (by omega),
          if_neg (by omega), if_pos i.isLt]
        congr
        exact Fin.ext (Nat.mod_eq_of_lt i.isLt)
      manager := servingRun_recurs (j := 6) (by decide) fun n hn hj => by
        left
        rw [servingRun_action, servingSchedule, hj, if_neg (by omega), if_neg (by omega),
          if_neg (by omega)]
        rfl }
  calls := servingRun_recurs (j := 8) (by decide) fun n hn hj => by
    have hleft := servingRun_left n
    rw [if_pos (by omega)] at hleft
    refine ⟨hleft, .ok, ?_⟩
    rw [servingRun_action, servingSchedule, hj, if_neg (by omega), if_neg (by omega),
          if_neg (by omega)]
    rfl
  stages := servingRun_recurs (j := 9) (by decide) fun n hn hj => by
    rw [servingRun_action, servingSchedule, hj, if_neg (by omega), if_neg (by omega),
          if_neg (by omega)]
    rfl

theorem servingRun_beating : Beating (machineRun servingRun) where
  fresh := servingRun_recurs (j := 7) (by decide) fun n hn hj => by
    have hleft : ((machineRun servingRun).state n).rtos.left = [] := by
      have hleft' := servingRun_left n
      rwa [if_pos (by omega)] at hleft'
    have haction : (machineRun servingRun).action n = .observe
        ((servingRun.state n).machine.tasks.monitor.linuxHeartbeat.lastSequence + 1) := by
      simp only [machineRun]
      rw [servingRun_action, servingSchedule, hj, if_neg (by omega), if_neg (by omega),
          if_neg (by omega)]
      rfl
    refine ⟨hleft, _, haction, ?_⟩
    simp [machineRun]
  ages n _ _ := by
    obtain ⟨hage, hlast⟩ := ageless_of_run (r := machineRun servingRun)
      Platform.defaultOps_succeeds idleMachine_poweredUp ⟨rfl, rfl⟩ n
    rw [Tasks.Ages, hage, hlast]
    decide

set_option maxRecDepth 1000000 in
/-- The frame goes through the RTOS to the worker of Ethernet, which gives
it back. -/
theorem servingRun_traffic :
    [7, 8, 10, 31, 32, 308, 326].map (fun n => places (servingRun.state n).machine.gateway 0) =
      [[.free], [.allocated], [.rxRing 0], [.reference], [.txRing 1], [.txReady], [.free]] := by
  decide +kernel

end Threads

end System

end PutGateway
