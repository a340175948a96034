import PutGateway.Rtos.Frozen
import PutGateway.Rtos.Recovery
/-!
# Resuming a recovery

A recovery under way is resumed by whatever brings the state variable
back to recovery before one of the two places of a periodic call that
run the recovery task: a new epoch, a request, or a retry that writes the
last frozen reclaim. A recovery whose attaching failed has none of the
three, once the region is repaired under the epoch it had.
-/

namespace PutGateway

namespace Rtos

variable {P : Platform} {K : Clock} {t₀ t t' : Tasks} {c : TasksContext} {n room : ℕ}
  {state : TasksState}

/-! ## Attaching -/

private theorem valid_of_validateRings {R : Region} (l : List (Fin 6)) (h : validateRings R l = .ok)
    {i : Fin 6} (hi : i ∈ l) :
    ((R.rxRings i).Abi .rx .linuxToRtos ∧ (R.rxRings i).header.interfaceId = UInt8.ofNat i) ∧
      (R.txRings i).Abi .tx .rtosToLinux ∧ (R.txRings i).header.interfaceId = UInt8.ofNat i := by
  induction l with
  | nil => exact absurd hi List.not_mem_nil
  | cons j rest ih =>
    unfold validateRings at h
    simp only at h
    split at h
    · next hbad => exact absurd h hbad
    next hrx =>
    split at h
    · next hbad => exact absurd h hbad
    next htx =>
    rcases List.mem_cons.mp hi with rfl | hi
    · exact ⟨(validateDescriptorRing_eq_ok_iff (.inl rfl)).mp (not_not.mp hrx),
        (validateDescriptorRing_eq_ok_iff (.inr rfl)).mp (not_not.mp htx)⟩
    · exact ih h hi

/-- **Attaching accepts intact regions only.** -/
theorem intact_of_attach {shm : RtosShm} (h : (rtosShmIpcAttach shm).1 = .ok) :
    Intact shm.region := by
  unfold rtosShmIpcAttach at h
  simp only at h
  split at h
  · next hbad => exact absurd h hbad
  next hheader =>
  split at h
  · next hbad => exact absurd h hbad
  next hrings =>
  split at h
  · next hbad => exact absurd h hbad
  next hreclaim =>
  have hring := fun i => valid_of_validateRings _ (not_not.mp hrings) (List.mem_finRange i)
  refine ⟨⟨fun i => (hring i).1.1, fun i => (hring i).1.2, fun i => (hring i).2.1,
    fun i => (hring i).2.2, validateReclaimRing_eq_ok_iff.mp (not_not.mp hreclaim)⟩, ?_⟩
  exact not_not.mp hheader

/-! ## A periodic call and its recovery task -/

/-- A periodic call runs the recovery task: before the drain or in the
supervision at its end, the state variable asks for it. -/
def recoveryRuns (P : Platform) (K : Clock) (runtime : Runtime) : Bool :=
  let preflight := preflightBeforeRxDrain P K runtime.tasks
  let retried := retryFirst P K runtime.recoveryBudget preflight.2.2
  let recovered := recoverFirst P K runtime.recoveryBudget retried.2
  let drained := drainAllowed P K preflight.2.1 .periodic recovered.2
  let scheduled := rtosRouterSchedulerTaskRunOnce P K drained.2 runtime.schedulerBudget
  let heartbeat := rtosHeartbeatTaskRunOnce K scheduled.2
  let monitor := rtosErrorMonitorTaskRunOnce K heartbeat.2
  stateNeedsRecoveryFirst retried.2.host.state || stateNeedsRecoveryFirst monitor.2.host.state

/-- What a periodic call resumes a recovery from: a new epoch, the state
or the request itself, or frozen reclaims that the call can write. -/
def Resumes (runtime : Runtime) : Prop :=
  let t := runtime.tasks.host
  t.ipc.region.header.linuxEpoch ≠ t.lastLinuxEpoch ∨ t.state = .recovery ∨
    t.monitor.recovery.recoveryPending = true ∨
    (t.pendingReclaims.length ≤ reclaimRoom t.ipc.region ∧
      (t.state = .reclaimBlocked →
        t.pendingReclaims.length ≤ runtime.recoveryBudget.toNat + runtime.schedulerBudget.toNat) ∧
      ¬ (t.state = .degraded ∧ t.pendingReclaims = []))

/-! ## Stalled tasks -/

/-- Tasks between two stages of the call: flags and epochs as in `t₀`,
`n` reclaims frozen, `room` entries of the reclaim ring free. -/
structure Stalled (t₀ t : Tasks) (n room : ℕ) (state : TasksState) : Prop where
  steady : t₀.Steady t
  frozen : t.WellFrozen
  intact : Intact t.ipc.region
  count : t.pendingReclaims.length = n
  room : reclaimRoom t.ipc.region = room
  state : t.state = state

theorem Stalled.counted (h : Stalled t₀ t n room state) (ht : t.Counted t') :
    Stalled t₀ t' n room state := by
  refine ⟨h.steady.trans ht.steady, h.frozen.sameFrames ht.toSameFrames, ?_, ?_, ?_, ?_⟩
  · rw [ht.ipc]
    exact h.intact
  · rw [ht.pending]
    exact h.count
  · rw [ht.ipc]
    exact h.room
  · rw [ht.state]
    exact h.state

/-- How many of `n` frozen reclaims a retry writes. -/
def written (budget n room : ℕ) : ℕ := min (min budget n) room

/-- The state a retry of a recovery leaves. -/
def retriedState (budget n room : ℕ) (state : TasksState) : TasksState :=
  if written budget n room = n then .recovery
  else if written budget n room < budget then retryBlockedState state
  else state

/-- **A retry of stalled tasks.** -/
theorem Stalled.retry (hP : P.Succeeds) (h : Stalled t₀ t n room state) (hr : t₀.Recovering)
    (budget : UInt32) :
    Stalled t₀ (rtosTasksRetryPendingReclaims P K t budget).2 (n - written budget.toNat n room)
      (room - written budget.toNat n room) (retriedState budget.toNat n room state) := by
  obtain ⟨hdrop, hvalid, hroom, hstate⟩ :=
    rtosTasksRetryPendingReclaims_exact (K := K) hP h.frozen h.intact.valid budget
  obtain ⟨hretried, -⟩ := rtosTasksRetryPendingReclaims_cases (P := P) (K := K) t budget
  have hcount : retriedCount t budget.toNat = written budget.toNat n room := by
    unfold retriedCount written
    rw [h.count, h.room]
  have hrecovering : t.Recovering := (Tasks.Recovering.iff_of_eq h.steady.recovery).mpr hr
  rw [hcount] at hdrop hroom hstate
  refine ⟨h.steady.trans hretried.toSteady, h.frozen.retry budget, ⟨hvalid, ?_⟩, ?_, ?_, ?_⟩
  · rw [hretried.header]
    exact h.intact.header
  · rw [hdrop, List.length_drop, h.count]
  · rw [hroom, h.room]
  · rw [hstate, h.count, h.state, if_pos hrecovering]
    rfl

theorem retriedState_eq_recovery {budget : ℕ} (hstate : state ≠ .recovery) :
    retriedState budget n room state = .recovery ↔ n ≤ budget ∧ n ≤ room := by
  have hblocked : retryBlockedState state ≠ .recovery := by
    cases state <;> simp [retryBlockedState]
  have hall : written budget n room = n ↔ n ≤ budget ∧ n ≤ room := by
    unfold written
    omega
  unfold retriedState
  rw [← hall]
  split
  · next h => exact iff_of_true rfl h
  next h =>
  split
  · exact iff_of_false hblocked h
  · exact iff_of_false hstate h

theorem retriedState_ne_normal {budget : ℕ} (hstate : state ≠ .normal) :
    retriedState budget n room state ≠ .normal := by
  have hblocked : retryBlockedState state ≠ .normal := by
    cases state <;> simp [retryBlockedState]
  unfold retriedState
  split
  · simp
  split
  · exact hblocked
  · exact hstate

/-- A blocked recovery stays blocked until everything is written. -/
theorem retriedState_reclaimBlocked {budget : ℕ} (h : ¬ (n ≤ budget ∧ n ≤ room)) :
    retriedState budget n room .reclaimBlocked = .reclaimBlocked := by
  have hsome : written budget n room ≠ n := by
    unfold written
    omega
  unfold retriedState
  rw [if_neg hsome]
  split <;> rfl

/-- Tasks that are no blocked recovery do not become one by a retry. -/
theorem retriedState_ne_reclaimBlocked {budget : ℕ} (hblocked : state ≠ .reclaimBlocked)
    (hrecovery : state ≠ .recovery) : retriedState budget n room state ≠ .reclaimBlocked := by
  have hblocked' : retryBlockedState state ≠ .reclaimBlocked := by
    cases state <;> simp_all [retryBlockedState]
  unfold retriedState
  split
  · simp
  split
  · exact hblocked'
  · exact hblocked

/-! ## The stages of the call -/

theorem Stalled.called (h : Stalled t₀ c.host n room state) :
    Stalled t₀ (Config.called c).host n room state :=
  ⟨h.steady.trans ⟨rfl, rfl, rfl, rfl, rfl⟩, h.frozen.congr rfl rfl, h.intact, h.count, h.room,
    h.state⟩

theorem Stalled.ne_nil (h : Stalled t₀ t n room state) : t.pendingReclaims ≠ [] ↔ n ≠ 0 := by
  rw [← h.count]
  exact List.length_eq_zero_iff.not.symm

/-- The event task of stalled tasks retries what is frozen, if anything. -/
theorem Stalled.event (hP : P.Succeeds) (h : Stalled t₀ c.host n room state) (hr : t₀.Recovering)
    (hstate : state ≠ .normal) (trigger : IpcEventTrigger) :
    Stalled t₀ (rtosIpcEventTaskRunOnce P K c trigger).2.host (n - written 64 n room)
      (room - written 64 n room) (if n = 0 then state else retriedState 64 n room state) := by
  rcases rtosIpcEventTaskRunOnce_cases P K c trigger with
    ⟨hnormal, -⟩ | ⟨-, t, ht, ⟨hnil, heq⟩ | ⟨hne, heq⟩⟩
  · exact absurd (h.state.symm.trans hnormal) hstate
  · have hzero : n = 0 := by
      by_contra hn
      exact h.ne_nil.mpr hn hnil
    subst hzero
    rw [heq, if_pos rfl]
    have hcounted := h.counted ht
    simpa [written] using hcounted
  · rw [heq, if_neg (h.ne_nil.mp hne)]
    exact (h.counted ht).retry hP hr 64

/-- The scheduler task of stalled tasks retries what is frozen, if
anything. -/
theorem Stalled.scheduler (hP : P.Succeeds) (h : Stalled t₀ c.host n room state)
    (hr : t₀.Recovering) (hstate : state ≠ .normal) (budget : UInt32) :
    Stalled t₀ (rtosRouterSchedulerTaskRunOnce P K c budget).2.host
      (n - written budget.toNat n room) (room - written budget.toNat n room)
      (if n = 0 then state else retriedState budget.toNat n room state) := by
  rcases rtosRouterSchedulerTaskRunOnce_cases P K c budget with
    ⟨hne, heq⟩ | ⟨hnil, -, heq⟩ | ⟨-, hnormal, -⟩
  · rw [heq, if_neg (h.ne_nil.mp hne)]
    exact h.retry hP hr budget
  · have hzero : n = 0 := by
      by_contra hn
      exact h.ne_nil.mpr hn hnil
    subst hzero
    rw [heq, if_pos rfl]
    simpa [written] using h
  · exact absurd (h.state.symm.trans hnormal) hstate

/-- The drain and the scheduler of stalled tasks come to recovery where
they write what is frozen. -/
theorem Stalled.drained (hP : P.Succeeds) (h : Stalled t₀ c.host n room state) (hr : t₀.Recovering)
    (hnormal : state ≠ .normal) (hrecovery : state ≠ .recovery) (trigger : RuntimeTrigger)
    (budget : UInt32) :
    ∃ n' room' state', Stalled t₀ (rtosRouterSchedulerTaskRunOnce P K
        (drainAllowed P K true trigger c).2 budget).2.host n' room' state' ∧
      state' ≠ .normal ∧
      (state' = .recovery ↔
        n ≠ 0 ∧ n ≤ room ∧ (state = .reclaimBlocked → n ≤ budget.toNat)) := by
  have hlength : n ≤ 64 := by
    rw [← h.count]
    exact h.frozen.length
  unfold drainAllowed
  by_cases hblocked : state = .reclaimBlocked
  · -- the event task is left out
    subst hblocked
    rw [if_neg (by simp [h.state])]
    refine ⟨_, _, _, h.scheduler hP hr hnormal budget, ?_, ?_⟩
    · split
      · exact hnormal
      · exact retriedState_ne_normal hnormal
    · by_cases hzero : n = 0
      · simp [hzero]
      · rw [if_neg hzero, retriedState_eq_recovery hrecovery]
        constructor
        · exact fun ⟨hbudget, hroom⟩ => ⟨hzero, hroom, fun _ => hbudget⟩
        · exact fun ⟨_, hroom, hbudget⟩ => ⟨hbudget rfl, hroom⟩
  · have hevent := h.event (K := K) hP hr hnormal (mapIpcTrigger trigger)
    rw [if_pos (by simp [h.state, hblocked])]
    by_cases hzero : n = 0
    · subst hzero
      rw [if_pos rfl] at hevent
      refine ⟨_, _, _, hevent.scheduler hP hr hnormal budget, ?_, ?_⟩
      · rw [if_pos (by omega)]
        exact hnormal
      · rw [if_pos (by omega)]
        exact iff_of_false hrecovery fun h => h.1 rfl
    rw [if_neg hzero] at hevent
    have hnormal' : retriedState 64 n room state ≠ .normal := retriedState_ne_normal hnormal
    refine ⟨_, _, _, hevent.scheduler hP hr hnormal' budget, ?_, ?_⟩
    · split
      · exact hnormal'
      · exact retriedState_ne_normal hnormal'
    by_cases hroom : n ≤ room
    · -- everything is written
      have hrecovers : retriedState 64 n room state = .recovery :=
        (retriedState_eq_recovery hrecovery).mpr ⟨hlength, hroom⟩
      rw [if_pos (by unfold written; omega), hrecovers]
      exact iff_of_true rfl ⟨hzero, hroom, fun hb => absurd hb hblocked⟩
    · -- the ring is full before everything is written
      have hstays : retriedState 64 n room state ≠ .recovery := fun heq =>
        hroom ((retriedState_eq_recovery hrecovery).mp heq).2
      have hleft : n - written 64 n room ≠ 0 ∧ room - written 64 n room = 0 := by
        unfold written
        omega
      rw [if_neg hleft.1, retriedState_eq_recovery hstays]
      constructor
      · rintro ⟨-, hle⟩
        omega
      · exact fun h => absurd h.2.1 hroom

/-- The supervision of stalled tasks asks for recovery where a request is
pending. -/
theorem Stalled.supervised (h : Stalled t₀ c.host n room state) (hnormal : state ≠ .normal)
    (hepoch : t₀.ipc.region.header.linuxEpoch = t₀.lastLinuxEpoch) :
    (rtosErrorMonitorTaskRunOnce K (rtosHeartbeatTaskRunOnce K c).2).2.host.state =
      if t₀.monitor.recovery.recoveryPending = true then .recovery else state := by
  obtain ⟨hframes, -⟩ := rtosHeartbeatTaskRunOnce_snd K c
  obtain ⟨-, -, hlast, hends⟩ := rtosHeartbeatTaskRunOnce_control K c
  have hheartbeat : (rtosHeartbeatTaskRunOnce K c).2.host.state =
      if t₀.monitor.recovery.recoveryPending = true then .recovery else state := by
    rw [← h.steady.recovery]
    rcases hends with ⟨hask, heq⟩ | ⟨hask, heq | ⟨hstate, -⟩⟩
    · rw [if_pos hask, heq]
    · rw [if_neg (by simp [hask]), heq, h.state]
    · exact absurd (h.state.symm.trans hstate) hnormal
  obtain ⟨-, -, ⟨hbad, -⟩ | ⟨-, hnew, -⟩ | ⟨-, -, hsame⟩⟩ :=
    rtosErrorMonitorTaskRunOnce_control K (rtosHeartbeatTaskRunOnce K c).2
  · rw [hframes.ipc, h.intact.monitorAccepts] at hbad
    cases hbad
  · refine absurd ?_ hnew
    rw [hframes.ipc, hlast, h.steady.header, h.steady.lastLinuxEpoch]
    exact hepoch
  · rw [hsame.state, hheartbeat]

/-! ## When a periodic call resumes a recovery -/

variable {runtime : Runtime}

/-- The preflight of a call under the epoch last seen allows the drain and
touches nothing. -/
theorem preflight_of_epoch (hP : P.Succeeds) (hintact : Intact c.host.ipc.region)
    (hepoch : c.host.ipc.region.header.linuxEpoch = c.host.lastLinuxEpoch) :
    preflightBeforeRxDrain P K c = (0, true, Config.called c) := by
  have hheader : shmRegionHeaderIsValid c.host.ipc.region = true := by
    have haccepts := hintact.monitorAccepts
    rw [monitorAccepts, Bool.and_eq_true] at haccepts
    exact haccepts.1
  rcases Config.preflightBeforeRxDrain_cases P K c with
    ⟨hfail, -⟩ | ⟨-, -, -, heq⟩ | ⟨-, hneeds, -⟩
  · exact absurd (hP _) hfail
  · exact heq
  · rcases hneeds with hbad | hnew
    · rw [hheader] at hbad
      cases hbad
    · exact absurd hepoch hnew

/-- The preflight of a call under a new epoch asks for recovery. -/
theorem preflight_of_new_epoch (hP : P.Succeeds) (hintact : Intact c.host.ipc.region)
    (hepoch : c.host.ipc.region.header.linuxEpoch ≠ c.host.lastLinuxEpoch) :
    (preflightBeforeRxDrain P K c).2.2.host.state = .recovery := by
  rcases Config.preflightBeforeRxDrain_cases P K c with
    ⟨hfail, -⟩ | ⟨-, -, hsame, -⟩ | ⟨-, -, heq⟩
  · exact absurd (hP _) hfail
  · exact absurd hsame hepoch
  · rw [heq]
    obtain ⟨-, -, ⟨hbad, -⟩ | ⟨-, -, hstate, -⟩ | ⟨-, hsame, -⟩⟩ :=
      rtosErrorMonitorTaskRunOnce_control K (Config.called c)
    · rw [show (Config.called c).host.ipc.region = c.host.ipc.region from rfl,
        hintact.monitorAccepts] at hbad
      cases hbad
    · exact hstate
    · exact absurd hsame hepoch

/-- What follows the retry of a call. -/
theorem recoveryRuns_of_retried (hP : P.Succeeds) {c' : TasksContext}
    (hepoch : t₀.ipc.region.header.linuxEpoch = t₀.lastLinuxEpoch) (hr : t₀.Recovering)
    (hpreflight : preflightBeforeRxDrain P K runtime.tasks = (0, true, c'))
    (h : Stalled t₀ (retryFirst P K runtime.recoveryBudget c').2.host n room state)
    (hnormal : state ≠ .normal) :
    recoveryRuns P K runtime = true ↔ state = .recovery ∨
      t₀.monitor.recovery.recoveryPending = true ∨
      (n ≠ 0 ∧ n ≤ room ∧ (state = .reclaimBlocked → n ≤ runtime.schedulerBudget.toNat)) := by
  unfold recoveryRuns
  simp only [hpreflight, Bool.or_eq_true]
  generalize (retryFirst P K runtime.recoveryBudget c').2 = retried at h ⊢
  by_cases hrecovery : state = .recovery
  · refine iff_of_true (.inl ?_) (.inl hrecovery)
    rw [stateNeedsRecoveryFirst, h.state, hrecovery]
    rfl
  have hskip : stateNeedsRecoveryFirst retried.host.state = false := by
    rw [stateNeedsRecoveryFirst, h.state]
    simp [hrecovery]
  have hrecovered : (recoverFirst P K runtime.recoveryBudget retried).2 = retried := by
    unfold recoverFirst
    rw [hskip]
    rfl
  obtain ⟨n', room', state', hdrained, hnormal', hiff⟩ :=
    h.drained (K := K) hP hr hnormal hrecovery .periodic runtime.schedulerBudget
  have hfinal := hdrained.supervised (K := K) hnormal' hepoch
  rw [hrecovered, hskip]
  simp only [hfinal, Bool.false_eq_true, false_or, hrecovery, ← hiff]
  cases t₀.monitor.recovery.recoveryPending with
  | true => simp [stateNeedsRecoveryFirst]
  | false => simp [stateNeedsRecoveryFirst]

/-- **When a periodic call resumes a recovery** that is under way, on an
intact region and with platform calls that succeed. -/
theorem recoveryRuns_iff (hP : P.Succeeds) (hintact : Intact runtime.tasks.host.ipc.region)
    (hfrozen : runtime.tasks.host.WellFrozen)
    (hactive : runtime.tasks.host.monitor.recovery.recoveryActive = true)
    (hnormal : runtime.tasks.host.state ≠ .normal) :
    recoveryRuns P K runtime = true ↔ Resumes runtime := by
  have hr : runtime.tasks.host.Recovering := .inr hactive
  unfold Resumes
  simp only
  by_cases hepoch : runtime.tasks.host.ipc.region.header.linuxEpoch = runtime.tasks.host.lastLinuxEpoch
  swap
  · -- a new epoch
    refine iff_of_true ?_ (.inl hepoch)
    have hstate := preflight_of_new_epoch (K := K) hP hintact hepoch
    unfold recoveryRuns retryFirst
    simp only [hstate]
    simp [stateNeedsReclaimRetryFirst, stateNeedsRecoveryFirst, hstate]
  have hpreflight := preflight_of_epoch (K := K) hP hintact hepoch
  have hstart : Stalled runtime.tasks.host (Config.called runtime.tasks).host
      runtime.tasks.host.pendingReclaims.length (reclaimRoom runtime.tasks.host.ipc.region)
      runtime.tasks.host.state :=
    Stalled.called ⟨.refl _, hfrozen, hintact, rfl, rfl, rfl⟩
  have hzero : runtime.tasks.host.pendingReclaims = [] ↔
      runtime.tasks.host.pendingReclaims.length = 0 := List.length_eq_zero_iff.symm
  rw [hzero]
  generalize runtime.tasks.host.pendingReclaims.length = n at hstart ⊢
  generalize reclaimRoom runtime.tasks.host.ipc.region = room at hstart ⊢
  have hretry : stateNeedsReclaimRetryFirst runtime.tasks.host.state = true →
      Stalled runtime.tasks.host
        (retryFirst P K runtime.recoveryBudget (Config.called runtime.tasks)).2.host
        (n - written runtime.recoveryBudget.toNat n room)
        (room - written runtime.recoveryBudget.toNat n room)
        (retriedState runtime.recoveryBudget.toNat n room runtime.tasks.host.state) := by
    intro hneeds
    have hneeds' : stateNeedsReclaimRetryFirst (Config.called runtime.tasks).host.state = true :=
      hneeds
    unfold retryFirst
    rw [if_pos hneeds']
    exact hstart.retry hP hr _
  have hkeep : stateNeedsReclaimRetryFirst runtime.tasks.host.state = false →
      Stalled runtime.tasks.host
        (retryFirst P K runtime.recoveryBudget (Config.called runtime.tasks)).2.host n room
        runtime.tasks.host.state := by
    intro hneeds
    have hneeds' : ¬ stateNeedsReclaimRetryFirst (Config.called runtime.tasks).host.state = true :=
      Bool.eq_false_iff.mp hneeds
    unfold retryFirst
    rw [if_neg hneeds']
    exact hstart
  have hwritten : ∀ budget : ℕ, written budget n room ≤ n ∧ written budget n room ≤ room ∧
      (¬ (n ≤ budget ∧ n ≤ room) → n ≤ room → written budget n room = budget) := by
    intro budget
    unfold written
    omega
  cases hstate : runtime.tasks.host.state with
  | normal => exact absurd hstate hnormal
  | recovery =>
    rw [hstate] at hkeep
    rw [recoveryRuns_of_retried hP hepoch hr hpreflight (hkeep rfl) (by simp)]
    exact iff_of_true (.inl rfl) (.inr (.inl rfl))
  | degraded =>
    rw [hstate] at hkeep
    rw [recoveryRuns_of_retried hP hepoch hr hpreflight (hkeep rfl) (by simp)]
    simp only [reduceCtorEq, false_or, false_implies, and_true, true_and, hepoch, ne_eq,
      not_true_eq_false]
    rw [and_comm (a := n ≤ room)]
  | degradedReclaimFull =>
    rw [hstate] at hretry
    rw [recoveryRuns_of_retried hP hepoch hr hpreflight (hretry rfl)
      (retriedState_ne_normal (by simp)), retriedState_eq_recovery (by simp)]
    have hnot : retriedState runtime.recoveryBudget.toNat n room .degradedReclaimFull ≠
        .reclaimBlocked := retriedState_ne_reclaimBlocked (by simp) (by simp)
    obtain ⟨h1, h2, h3⟩ := hwritten runtime.recoveryBudget.toNat
    simp only [reduceCtorEq, false_or, false_implies, false_and, not_false_eq_true, and_true,
      hepoch, ne_eq, not_true_eq_false, hnot]
    cases runtime.tasks.host.monitor.recovery.recoveryPending with
    | true => simp
    | false =>
      simp only [Bool.false_eq_true, false_or]
      omega
  | reclaimBlocked =>
    rw [hstate] at hretry
    rw [recoveryRuns_of_retried hP hepoch hr hpreflight (hretry rfl)
      (retriedState_ne_normal (by simp)), retriedState_eq_recovery (by simp)]
    obtain ⟨h1, h2, h3⟩ := hwritten runtime.recoveryBudget.toNat
    by_cases hall : n ≤ runtime.recoveryBudget.toNat ∧ n ≤ room
    · refine iff_of_true (.inl hall) (.inr (.inr (.inr ⟨hall.2, fun _ => ?_, by simp⟩)))
      omega
    · rw [retriedState_reclaimBlocked hall]
      simp only [reduceCtorEq, false_or, false_and, not_false_eq_true, and_true,
        hepoch, ne_eq, not_true_eq_false, hall, true_implies]
      cases runtime.tasks.host.monitor.recovery.recoveryPending with
      | true => simp
      | false =>
        simp only [Bool.false_eq_true, false_or]
        omega

/-! ## Every run -/

variable {P' : Platform} {Allowed : Region → Prop} {cfg : Config}

/-- **Exactly when a recovery is resumed.** In every run, whatever lay in
the region and whatever the platform answered: where a recovery is under
way, the region passes the checks of attaching and the platform calls of
the next, periodic call succeed, that call runs the recovery task if and
only if the epoch is new, the state is recovery, a
recovery is asked for, or there is something to retry that the call can
write to the end. -/
theorem recovery_resumes_iff (h : RuntimeReaches P K Allowed cfg)
    (hactive : cfg.tasks.host.monitor.recovery.recoveryActive = true)
    (hattach : (rtosShmIpcAttach cfg.tasks.host.ipc).1 = .ok) (hP' : P'.Succeeds) :
    recoveryRuns P' K cfg.runtime = true ↔ Resumes cfg.runtime :=
  recoveryRuns_iff hP' (intact_of_attach hattach) h.wellFrozen hactive (h.governed.active hactive)

/-- Linux formats the region anew, with an offset that attaching rejects
and the error monitor does not look at; a periodic call; and Linux repairs
the offset. -/
def stuckConfig : Config :=
  let damaged : Region :=
    { Linux.formatRegion 2 1 with
      header := { (Linux.formatRegion 2 1).header with framePoolOffset := 0 } }
  let begun := (idleConfig.withRegion damaged).begin .periodic .ok
  (begun.finish .defaultOps (fun _ => 0) (stages .periodic)).withRegion (Linux.formatRegion 2 1)

theorem stuckConfig_reaches : RuntimeReaches .defaultOps (fun _ => 0) (fun _ => True) stuckConfig := by
  have hidle : RuntimeReaches .defaultOps (fun _ => 0) (fun _ => True) idleConfig :=
    idleConfig_reaches
  have hdamaged := hidle.environment (R := { Linux.formatRegion 2 1 with
    header := { (Linux.formatRegion 2 1).header with framePoolOffset := 0 } }) trivial
    fun hleft => absurd rfl hleft
  have hcalled := hdamaged.call rfl .periodic .ok
  exact (hcalled.finish rfl).environment trivial fun hleft => absurd rfl hleft

/-- **A recovery is not always resumed.** -/
theorem not_recovery_resumes :
    ¬ ∀ (P P' : Platform) (K : Clock) (cfg : Config), RuntimeReaches P K (fun _ => True) cfg →
      cfg.left = [] → cfg.tasks.host.monitor.recovery.recoveryActive = true →
      (rtosShmIpcAttach cfg.tasks.host.ipc).1 = .ok → P'.Succeeds →
      recoveryRuns P' K cfg.runtime = true := by
  intro hresumes
  have hruns := hresumes .defaultOps .defaultOps (fun _ => 0) stuckConfig stuckConfig_reaches rfl
    (by decide +kernel) (by decide +kernel) Platform.defaultOps_succeeds
  have hnot : recoveryRuns .defaultOps (fun _ => 0) stuckConfig.runtime = false := by decide +kernel
  rw [hnot] at hruns
  cases hruns

/-- The recovery of `stuckConfig` is not resumed. -/
theorem recovery_resumes_iff_stuck :
    recoveryRuns .defaultOps (fun _ => 0) stuckConfig.runtime = true ↔ Resumes stuckConfig.runtime :=
  recovery_resumes_iff stuckConfig_reaches (by decide +kernel) (by decide +kernel)
    Platform.defaultOps_succeeds

/-! ## Stuck for good -/

/-- A recovery under way that nothing asks for again: the tasks are
degraded, nothing is frozen, and the epoch is the one last seen. -/
structure Stuck (c : TasksContext) : Prop where
  state : c.host.state = .degraded
  active : c.host.monitor.recovery.recoveryActive = true
  unasked : c.host.monitor.recovery.recoveryPending = false
  pending : c.host.pendingReclaims = []
  epoch : c.host.ipc.region.header.linuxEpoch = c.host.lastLinuxEpoch
  frozen : c.host.WellFrozen
  intact : Intact c.host.ipc.region

theorem Stuck.congr {c' : TasksContext} (h : Stuck c) (hframes : c.host.SameFrames c'.host)
    (hcontrol : c.host.SameControl c'.host) : Stuck c' := by
  refine ⟨hcontrol.state.trans h.state, ?_, ?_, hframes.pending.trans h.pending, ?_,
    h.frozen.sameFrames hframes, ?_⟩
  · rw [hcontrol.recovery]
    exact h.active
  · rw [hcontrol.recovery]
    exact h.unasked
  · rw [hframes.ipc, hcontrol.lastLinuxEpoch]
    exact h.epoch
  · rw [hframes.ipc]
    exact h.intact

/-- **A stage leaves stuck tasks stuck.** -/
theorem Stuck.stage (hP : P.Succeeds) (h : Stuck cfg.tasks) (s : Stage) :
    Stuck (cfg.stage P K s).2.2 := by
  have hnormal : cfg.tasks.host.state ≠ .normal := by
    rw [h.state]
    simp
  -- `degraded` is no state in which recovery or a retry runs
  have hrecover : Stuck (recoverFirst P K cfg.runtime.recoveryBudget cfg.tasks).2 := by
    unfold recoverFirst
    rw [stateNeedsRecoveryFirst, h.state]
    exact h
  cases s with
  | preflight =>
    simp only [Config.stage, preflight_of_epoch hP h.intact h.epoch]
    exact ⟨h.state, h.active, h.unasked, h.pending, h.epoch, h.frozen.congr rfl rfl, h.intact⟩
  | retry =>
    simp only [Config.stage]
    unfold retryFirst
    rw [stateNeedsReclaimRetryFirst, h.state]
    exact h
  | recovery => exact hrecover
  | supervision => exact hrecover
  | event =>
    simp only [Config.stage]
    unfold drainAllowed
    split
    swap
    · exact h
    rcases rtosIpcEventTaskRunOnce_cases P K cfg.tasks (mapIpcTrigger cfg.trigger) with
      ⟨hstate, -⟩ | ⟨-, t, ht, ⟨-, heq⟩ | ⟨hne, -⟩⟩
    · exact absurd hstate hnormal
    · rw [heq]
      exact h.congr ht.toSameFrames ht.toSameControl
    · exact absurd h.pending hne
  | scheduler =>
    simp only [Config.stage]
    rcases rtosRouterSchedulerTaskRunOnce_cases P K cfg.tasks cfg.runtime.schedulerBudget with
      ⟨hne, -⟩ | ⟨-, -, heq⟩ | ⟨-, hstate, -⟩
    · exact absurd h.pending hne
    · rw [heq]
      exact h
    · exact absurd hstate hnormal
  | heartbeat =>
    obtain ⟨-, hrecovery, hlast, hends⟩ := rtosHeartbeatTaskRunOnce_control K cfg.tasks
    have hstate : (rtosHeartbeatTaskRunOnce K cfg.tasks).2.host.state = cfg.tasks.host.state := by
      rcases hends with ⟨hask, -⟩ | ⟨-, hsame | ⟨hstate, -⟩⟩
      · rw [h.unasked] at hask
        cases hask
      · exact hsame
      · exact absurd hstate hnormal
    exact h.congr (rtosHeartbeatTaskRunOnce_snd K cfg.tasks).1 ⟨hstate, hrecovery, hlast⟩
  | monitor =>
    obtain ⟨-, -, ⟨hbad, -⟩ | ⟨-, hnew, -⟩ | ⟨-, -, hsame⟩⟩ :=
      rtosErrorMonitorTaskRunOnce_control K cfg.tasks
    · rw [h.intact.monitorAccepts] at hbad
      cases hbad
    · exact absurd h.epoch hnew
    · exact h.congr (rtosErrorMonitorTaskRunOnce_snd K cfg.tasks).1 hsame
  | statistics => exact h.congr ⟨rfl, rfl, rfl, rfl⟩ ⟨rfl, rfl, rfl⟩

/-- **Stuck tasks stay stuck for good**, call after call, as long as the
region stays and no heartbeat of Linux asks for recovery. -/
theorem Stuck.calls (hP : P.Succeeds) {runtime : Runtime} (h : Stuck runtime.tasks)
    (calls : List (RuntimeTrigger × UnifiedError)) :
    Stuck (calls.foldl (fun runtime call => (rtosRuntimeRunOnce P K runtime call.1 call.2).2)
      runtime).tasks := by
  induction calls generalizing runtime with
  | nil => exact h
  | cons call rest ih =>
    -- a call is its stages, one after the other
    have hstages : ∀ (l : List Stage) (cfg : Config), Stuck cfg.tasks →
        Stuck (cfg.finish P K l).tasks := by
      intro l
      induction l with
      | nil => exact fun cfg hcfg => hcfg
      | cons s l ihl => exact fun cfg hcfg => ihl _ (hcfg.stage hP s)
    have hcall : Stuck (rtosRuntimeRunOnce P K runtime call.1 call.2).2.tasks := by
      cases hinit : runtime.initialized with
      | false =>
        unfold rtosRuntimeRunOnce
        rw [hinit]
        exact h
      | true =>
        have hends := congrArg Runtime.tasks
          (Config.finish_begin (P := P) (K := K) ⟨runtime, .doorbell, false, 0, []⟩ call.1 call.2
            hinit)
        rw [← hends]
        refine hstages _ _ ?_
        rw [Config.begin_tasks]
        exact h
    exact ih hcall

/-- A run does get there. -/
theorem stuckConfig_stuck : Stuck stuckConfig.tasks := by
  have hactive : stuckConfig.tasks.host.monitor.recovery.recoveryActive = true := by decide +kernel
  have hattach : (rtosShmIpcAttach stuckConfig.tasks.host.ipc).1 = .ok := by decide +kernel
  exact ⟨by decide +kernel, hactive, by decide +kernel, by decide +kernel, by decide +kernel,
    stuckConfig_reaches.wellFrozen, intact_of_attach hattach⟩

end Rtos

end PutGateway
