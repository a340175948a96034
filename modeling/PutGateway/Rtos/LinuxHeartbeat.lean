import PutGateway.Rtos.Resumption
/-!
# Missing the heartbeat of Linux

The record the monitor keeps of the heartbeat of Linux, and the state of
the tasks beside it. Where the age of the last heartbeat does not fall
between two polls, tasks that are degraded are degraded for a reason that
stands: a heartbeat is missing, or a recovery has been asked for. The
next new heartbeat then asks for one.
-/

namespace PutGateway

namespace Rtos

variable {P : Platform} {K : Clock} {t : Tasks} {c : TasksContext} {monitor : MonitorContext}
  {nowMs : UInt32}

/-! ## Polling and observing -/

/-- A poll, as far as the heartbeat goes. -/
theorem rtosMonitorPollLinuxHeartbeat_cases (monitor : MonitorContext) (nowMs : UInt32) :
    let lh := (rtosMonitorPollLinuxHeartbeat monitor nowMs).2.linuxHeartbeat
    (monitor.linuxHeartbeat.initialized = false ∧ lh.initialized = false ∧
        lh.state = monitor.linuxHeartbeat.state ∧
        (rtosMonitorPollLinuxHeartbeat monitor nowMs).1 = .normal) ∨
      (monitor.linuxHeartbeat.initialized = true ∧ lh.initialized = true ∧
        lh.unchangedTimeMs = nowMs - monitor.linuxHeartbeat.lastUpdateTimeMs ∧
        lh.state = heartbeatStateFromAge lh.unchangedTimeMs ∧
        (rtosMonitorPollLinuxHeartbeat monitor nowMs).1 = lh.state) := by
  unfold rtosMonitorPollLinuxHeartbeat
  by_cases hinit : monitor.linuxHeartbeat.initialized = true
  swap
  · rw [Bool.not_eq_true] at hinit
    rw [if_pos (by simp [hinit])]
    exact .inl ⟨hinit, hinit, rfl, rfl⟩
  rw [if_neg (by simp [hinit])]
  simp only
  right
  -- recording and clearing an error leave the heartbeat alone
  by_cases hnormal : heartbeatStateFromAge (nowMs - monitor.linuxHeartbeat.lastUpdateTimeMs) = .normal
  · simp only [if_pos hnormal]
    split
    · exact ⟨hinit, hinit, rfl, rfl, rfl⟩
    · exact ⟨hinit, hinit, rfl, rfl, rfl⟩
  · simp only [if_neg hnormal]
    split
    · exact ⟨hinit, hinit, rfl, rfl, rfl⟩
    · exact ⟨hinit, hinit, rfl, rfl, rfl⟩

/-- A heartbeat is normal up to an age of 300 ms. -/
theorem heartbeatStateFromAge_eq_normal_iff {unchangedMs : UInt32} :
    heartbeatStateFromAge unchangedMs = .normal ↔ unchangedMs < 300 := by
  unfold heartbeatStateFromAge
  simp only [ge_iff_le, UInt32.lt_iff_toNat_lt, UInt32.le_iff_toNat_le]
  have h300 : (300 : UInt32).toNat = 300 := rfl
  have h500 : (500 : UInt32).toNat = 500 := rfl
  have h1000 : (1000 : UInt32).toNat = 1000 := rfl
  rw [h300, h500, h1000]
  split
  · simp only [reduceCtorEq, false_iff]
    omega
  split
  · simp only [reduceCtorEq, false_iff]
    omega
  split
  · simp only [reduceCtorEq, false_iff]
    omega
  · simp only [true_iff]
    omega

/-- A heartbeat observed: it is new, or one already known. -/
theorem rtosMonitorObserveLinuxHeartbeat_cases (monitor : MonitorContext) (sequence nowMs : UInt32) :
    let monitor' := rtosMonitorObserveLinuxHeartbeat monitor sequence nowMs
    (monitor.linuxHeartbeat.initialized = true ∧ sequence = monitor.linuxHeartbeat.lastSequence ∧
        monitor' = monitor) ∨
      (monitor'.linuxHeartbeat.initialized = true ∧ monitor'.linuxHeartbeat.state = .normal ∧
        monitor'.linuxHeartbeat.unchangedTimeMs = 0 ∧
        monitor'.linuxHeartbeat.lastUpdateTimeMs = nowMs ∧
        ((monitor.linuxHeartbeat.initialized = true ∧ monitor.linuxHeartbeat.state ≠ .normal ∧
            monitor'.recovery.recoveryPending = true) ∨
          ((monitor.linuxHeartbeat.initialized = false ∨ monitor.linuxHeartbeat.state = .normal) ∧
            monitor'.recovery = monitor.recovery))) := by
  unfold rtosMonitorObserveLinuxHeartbeat
  by_cases hinit : monitor.linuxHeartbeat.initialized = true
  swap
  · rw [Bool.not_eq_true] at hinit
    rw [if_pos (by simp [hinit])]
    exact .inr ⟨rfl, rfl, rfl, rfl, .inr ⟨.inl hinit, rfl⟩⟩
  rw [if_neg (by simp [hinit])]
  by_cases hsame : sequence = monitor.linuxHeartbeat.lastSequence
  · rw [if_pos hsame]
    exact .inl ⟨hinit, hsame, rfl⟩
  rw [if_neg hsame]
  by_cases hnormal : monitor.linuxHeartbeat.state = .normal
  · rw [if_pos hnormal]
    exact .inr ⟨rfl, rfl, rfl, rfl, .inr ⟨.inr hnormal, rfl⟩⟩
  · rw [if_neg hnormal]
    exact .inr ⟨rfl, rfl, rfl, rfl, .inl ⟨hinit, hnormal, rfl⟩⟩

/-! ## Degraded for a reason -/

/-- The record of the heartbeat agrees with its age, and tasks that are
degraded miss a heartbeat, or a recovery has been asked for. -/
structure Tasks.Missing (t : Tasks) : Prop where
  silent : t.monitor.linuxHeartbeat.initialized = false → t.monitor.linuxHeartbeat.state = .normal
  aged : t.monitor.linuxHeartbeat.initialized = true →
    t.monitor.linuxHeartbeat.state = heartbeatStateFromAge t.monitor.linuxHeartbeat.unchangedTimeMs
  degraded : t.state = .degraded → t.monitor.recovery.recoveryPending = true ∨
    t.monitor.linuxHeartbeat.state ≠ .normal

/-- The age a poll would find is no less than the one found last. -/
def Tasks.Ages (K : Clock) (t : Tasks) : Prop :=
  t.monitor.linuxHeartbeat.unchangedTimeMs ≤ K t.ticks - t.monitor.linuxHeartbeat.lastUpdateTimeMs

theorem Tasks.Missing.contextInit (ipc : RtosShm) (ticks : ℕ) :
    (rtosTasksContextInit ipc ticks).host.Missing :=
  ⟨fun _ => rfl, fun h => absurd h Bool.false_ne_true, fun h => by cases h⟩

/-- Where the heartbeat stays and the tasks are not degraded anew. -/
theorem Tasks.Missing.congr {t' : Tasks} (h : t.Missing)
    (hheartbeat : t'.monitor.linuxHeartbeat = t.monitor.linuxHeartbeat)
    (hdegraded : t'.state = .degraded → t.state = .degraded ∧
      t'.monitor.recovery.recoveryPending = t.monitor.recovery.recoveryPending) : t'.Missing := by
  refine ⟨?_, ?_, fun hstate => ?_⟩
  · rw [hheartbeat]
    exact h.silent
  · rw [hheartbeat]
    exact h.aged
  · obtain ⟨hbefore, hask⟩ := hdegraded hstate
    rw [hheartbeat, hask]
    exact h.degraded hbefore

/-- **A heartbeat observed** asks for a recovery where the tasks are
degraded, unless it is one already known. -/
theorem Tasks.Missing.observe (h : t.Missing) (sequence : UInt32) :
    (rtosTasksObserveLinuxHeartbeat K t sequence).Missing ∧
      (t.state = .degraded → sequence ≠ t.monitor.linuxHeartbeat.lastSequence →
        (rtosTasksObserveLinuxHeartbeat K t sequence).monitor.recovery.recoveryPending = true) := by
  have hstate : (rtosTasksObserveLinuxHeartbeat K t sequence).state = t.state := rfl
  have hmonitor : (rtosTasksObserveLinuxHeartbeat K t sequence).monitor =
      rtosMonitorObserveLinuxHeartbeat t.monitor sequence (K t.ticks) := rfl
  rcases rtosMonitorObserveLinuxHeartbeat_cases t.monitor sequence (K t.ticks) with
    ⟨-, hsame, heq⟩ | ⟨hinit, hnormal, hage, -, hends⟩
  · refine ⟨h.congr (by rw [hmonitor, heq]) fun hdegraded => ⟨hdegraded, by rw [hmonitor, heq]⟩, ?_⟩
    exact fun _ hnew => absurd hsame hnew
  rw [← hmonitor] at hinit hnormal hage hends
  have hask : t.state = .degraded →
      (rtosTasksObserveLinuxHeartbeat K t sequence).monitor.recovery.recoveryPending = true := by
    intro hdegraded
    rcases hends with ⟨-, -, hask⟩ | ⟨hidle, hrecovery⟩
    · exact hask
    · rw [hrecovery]
      refine (h.degraded hdegraded).resolve_right fun hne => hne ?_
      exact hidle.elim h.silent id
  refine ⟨⟨fun hnot => ?_, fun _ => ?_, fun hdegraded => .inl (hask hdegraded)⟩,
    fun hdegraded _ => hask hdegraded⟩
  · rw [hinit] at hnot
    cases hnot
  · rw [hnormal, hage]
    rfl

/-- **A poll of tasks that age** leaves them degraded for a reason only. -/
theorem Tasks.Missing.heartbeat (h : c.host.Missing) (hages : c.host.Ages K) :
    (rtosHeartbeatTaskRunOnce K c).2.host.Missing := by
  have hpoll := rtosMonitorPollLinuxHeartbeat_cases
    (rtosMonitorTickRtosHeartbeat (tasksNow K c.host).2.monitor) (tasksNow K c.host).1
  have hrecovery := rtosMonitorPollLinuxHeartbeat_recovery
    (rtosMonitorTickRtosHeartbeat (tasksNow K c.host).2.monitor) (tasksNow K c.host).1
  have hnow : (tasksNow K c.host).1 = K c.host.ticks := rfl
  have hticked : (rtosMonitorTickRtosHeartbeat (tasksNow K c.host).2.monitor).linuxHeartbeat =
      c.host.monitor.linuxHeartbeat := rfl
  have hasked : (rtosMonitorTickRtosHeartbeat (tasksNow K c.host).2.monitor).recovery =
      c.host.monitor.recovery := rfl
  have hstate : (tasksNow K c.host).2.state = c.host.state := rfl
  unfold rtosHeartbeatTaskRunOnce
  simp only
  generalize rtosMonitorPollLinuxHeartbeat _ _ = polled at hpoll hrecovery ⊢
  generalize rtosEndpointHeartbeatScanTimeouts _ _ = scanned
  rw [hticked, hnow] at hpoll
  rw [hasked] at hrecovery
  -- recording the error of an endpoint changes neither record
  obtain ⟨monitor, hmonitor, hlh, hrec⟩ : ∃ monitor : MonitorContext,
      (if scanned.1 > 0 then rtosMonitorRecordError polled.2 .endpointHeartbeat
        (tasksNow K c.host).1 else polled.2) = monitor ∧
      monitor.linuxHeartbeat = polled.2.linuxHeartbeat ∧
      monitor.recovery = c.host.monitor.recovery := by
    refine ⟨_, rfl, ?_, ?_⟩
    · split
      · rfl
      · rfl
    · split
      · exact hrecovery
      · exact hrecovery
  rw [hmonitor]
  have hreason : ∀ t : Tasks, t.monitor = monitor →
      (t.state = .degraded → t.monitor.recovery.recoveryPending = true ∨
        (c.host.state = .degraded ∨ polled.1 = .globalDegraded)) → t.Missing := by
    intro t ht hdegraded
    have hlh' : t.monitor.linuxHeartbeat = polled.2.linuxHeartbeat := by rw [ht, hlh]
    rcases hpoll with ⟨hinit, hinit', hsame, hresult⟩ | ⟨hinit, hinit', hage, haged, hresult⟩
    · refine ⟨fun _ => ?_, fun hyes => ?_, fun hstate' => (hdegraded hstate').elim .inl ?_⟩
      · rw [hlh', hsame]
        exact h.silent hinit
      · rw [hlh', hinit'] at hyes
        cases hyes
      · rintro (hbefore | hglobal)
        · rw [ht, hrec, hlh, hsame]
          exact h.degraded hbefore
        · rw [hresult] at hglobal
          cases hglobal
    · refine ⟨fun hno => ?_, fun _ => ?_, fun hstate' => (hdegraded hstate').elim .inl ?_⟩
      · rw [hlh', hinit'] at hno
        cases hno
      · rw [hlh']
        exact haged
      · rintro (hbefore | hglobal)
        · rcases h.degraded hbefore with hask | hmissed
          · rw [ht, hrec]
            exact .inl hask
          · -- what was missed is missed still: its age has not fallen
            right
            rw [h.aged hinit, ne_eq, heartbeatStateFromAge_eq_normal_iff, UInt32.not_lt] at hmissed
            rw [hlh', haged, hage, ne_eq, heartbeatStateFromAge_eq_normal_iff, UInt32.not_lt]
            exact UInt32.le_trans hmissed hages
        · right
          rw [hlh', ← hresult, hglobal]
          simp
  -- the tasks before a recovery that was asked for takes over
  generalize hbase : (if (polled.1 = .globalDegraded && (tasksNow K c.host).2.state = .normal) = true
    then ({ (tasksNow K c.host).2 with monitor := monitor, state := .degraded } : Tasks)
    else { (tasksNow K c.host).2 with monitor := monitor }) = base
  have hbaseMonitor : base.monitor = monitor := by
    rw [← hbase]
    split
    · rfl
    · rfl
  have hbaseState : base.state = .degraded →
      c.host.state = .degraded ∨ polled.1 = .globalDegraded := by
    rw [← hbase]
    split
    · next hdegrade =>
      rw [Bool.and_eq_true, decide_eq_true_eq] at hdegrade
      exact fun _ => .inr hdegrade.1
    · exact fun hstate' => .inl hstate'
  by_cases hask : base.monitor.recovery.recoveryPending = true
  · rw [if_pos hask]
    exact hreason _ hbaseMonitor fun hstate' => by cases hstate'
  · rw [if_neg hask]
    exact hreason _ hbaseMonitor fun hstate' => .inr (hbaseState hstate')

/-! ## Stages -/

variable {cfg : Config}

/-- The tasks come out of a retry degraded only if they were. -/
theorem retry_degraded {budget : UInt32}
    (h : (rtosTasksRetryPendingReclaims P K t budget).2.state = .degraded) : t.state = .degraded := by
  obtain ⟨-, ⟨-, hstate⟩ | ⟨-, hstate | hstate⟩⟩ :=
    rtosTasksRetryPendingReclaims_cases (P := P) (K := K) t budget
  · rw [hstate] at h
    split at h
    · cases h
    · cases h
  · exact hstate.symm.trans h
  · rw [hstate] at h
    rcases retryBlockedState_cases t.state with ⟨-, hb⟩ | ⟨-, hb⟩
    · rw [hb] at h
      cases h
    · rw [hb] at h
      cases h

theorem Tasks.Missing.retry (h : t.Missing) (budget : UInt32) :
    (rtosTasksRetryPendingReclaims P K t budget).2.Missing := by
  obtain ⟨hretried, -⟩ := rtosTasksRetryPendingReclaims_cases (P := P) (K := K) t budget
  refine h.congr hretried.linuxHeartbeat fun hdegraded => ⟨retry_degraded hdegraded, ?_⟩
  rw [hretried.recovery]

theorem Tasks.Missing.served {t' : Tasks} (h : t.Missing) (hserved : t.Served t') : t'.Missing := by
  refine h.congr hserved.linuxHeartbeat fun hdegraded => ⟨?_, by rw [hserved.recovery]⟩
  rcases hserved.state with ⟨hstate, -⟩ | ⟨-, hblocked⟩
  · exact hstate.symm.trans hdegraded
  · rw [hdegraded] at hblocked
    rcases hblocked with hb | hb <;> cases hb

theorem Tasks.Missing.counted {t' : Tasks} (h : t.Missing) (ht : t.Counted t') : t'.Missing :=
  h.congr ht.linuxHeartbeat fun hdegraded => ⟨ht.state.symm.trans hdegraded, by rw [ht.recovery]⟩

theorem Tasks.Missing.recoveryTask (h : c.host.Missing) (hintact : Intact c.host.ipc.region)
    (hsound : Sound c) (budget : UInt32) :
    (rtosRecoveryTaskRunOnce P K c budget).2.host.Missing := by
  have hintact' : Intact (rtosRecoveryTaskRunOnce P K c budget).2.host.ipc.region := by
    obtain ⟨hsound', hheader, -⟩ := hsound.run (P := P) (K := K) (.recoveryTask budget)
    refine ⟨hsound'.valid, ?_⟩
    rw [show (rtosRecoveryTaskRunOnce P K c budget).2.host.ipc.region.header =
      c.host.ipc.region.header from hheader]
    exact hintact.header
  refine h.congr (rtosRecoveryTaskRunOnce_linuxHeartbeat P K c budget) fun hdegraded => ?_
  -- a recovery that runs does not end degraded
  rcases rtosRecoveryTaskRunOnce_cases P K c budget with
    ⟨-, -, heq⟩ | ⟨-, ⟨-, heq⟩ | ⟨-, -, heq⟩ | ⟨-, -, -, heq⟩⟩
  · rw [heq] at hdegraded ⊢
    exact ⟨hdegraded, rfl⟩
  · rw [heq] at hdegraded
    cases hdegraded
  · rw [heq] at hdegraded
    cases hdegraded
  · rw [heq] at hdegraded hintact'
    rcases finishRecovery_cases K (recoveredFrames P K c budget) with ⟨hfail, -⟩ | ⟨-, hnormal, -⟩
    · rw [(finishRecovery_frames K (recoveredFrames P K c budget)).2.2.2] at hintact'
      exact absurd hintact'.attach hfail
    · rw [hnormal] at hdegraded
      cases hdegraded

/-- **Every stage keeps the reason**, on an intact region whose epoch is
known. -/
theorem Config.stage_missing (hP : P.Succeeds) (h : cfg.tasks.host.Missing) (hsound : Sound cfg.tasks)
    (hintact : Intact cfg.tasks.host.ipc.region)
    (hepoch : cfg.tasks.host.ipc.region.header.linuxEpoch = cfg.tasks.host.lastLinuxEpoch) (s : Stage)
    (hages : s = .heartbeat → cfg.tasks.host.Ages K) : (cfg.stage P K s).2.2.host.Missing := by
  have hrecover : (recoverFirst P K cfg.runtime.recoveryBudget cfg.tasks).2.host.Missing := by
    unfold recoverFirst
    split
    · exact h.recoveryTask hintact hsound _
    · exact h
  cases s with
  | preflight =>
    simp only [Config.stage, preflight_of_epoch hP hintact hepoch]
    exact h.congr rfl fun hdegraded => ⟨hdegraded, rfl⟩
  | retry =>
    simp only [Config.stage]
    unfold retryFirst
    split
    · exact h.retry _
    · exact h
  | recovery => exact hrecover
  | supervision => exact hrecover
  | event =>
    simp only [Config.stage]
    unfold drainAllowed
    split
    swap
    · exact h
    rcases rtosIpcEventTaskRunOnce_cases P K cfg.tasks (mapIpcTrigger cfg.trigger) with
      ⟨-, hserves⟩ | ⟨-, t, ht, ⟨-, heq⟩ | ⟨-, heq⟩⟩
    · exact h.served hserves.host
    · rw [heq]
      exact h.counted ht
    · rw [heq]
      exact (h.counted ht).retry 64
  | scheduler =>
    simp only [Config.stage]
    rcases rtosRouterSchedulerTaskRunOnce_cases P K cfg.tasks cfg.runtime.schedulerBudget with
      ⟨-, heq⟩ | ⟨-, -, heq⟩ | ⟨-, -, heq⟩
    · rw [heq]
      exact h.retry _
    · rw [heq]
      exact h
    · rw [heq]
      exact h.served (drain_serves cfg.tasks cfg.runtime.schedulerBudget).host
  | heartbeat => exact h.heartbeat (hages rfl)
  | monitor =>
    obtain ⟨-, -, ⟨hbad, -⟩ | ⟨-, hnew, -⟩ | ⟨-, -, hsame⟩⟩ :=
      rtosErrorMonitorTaskRunOnce_control K cfg.tasks
    · rw [hintact.monitorAccepts] at hbad
      cases hbad
    · exact absurd hepoch hnew
    · refine h.congr (rtosErrorMonitorTaskRunOnce_linuxHeartbeat K cfg.tasks) fun hdegraded => ?_
      exact ⟨hsame.state.symm.trans hdegraded, by simp only [Config.stage, hsame.recovery]⟩
  | statistics => exact h.congr rfl fun hdegraded => ⟨hdegraded, rfl⟩

/-! ## The record of the heartbeat -/

/-- The heartbeat task leaves the record that its poll finds. -/
theorem rtosHeartbeatTaskRunOnce_polled (K : Clock) (c : TasksContext) :
    (rtosHeartbeatTaskRunOnce K c).2.host.monitor.linuxHeartbeat =
      (rtosMonitorPollLinuxHeartbeat (rtosMonitorTickRtosHeartbeat c.host.monitor)
        (K c.host.ticks)).2.linuxHeartbeat := by
  have hticked : rtosMonitorPollLinuxHeartbeat (rtosMonitorTickRtosHeartbeat c.host.monitor)
      (K c.host.ticks) = rtosMonitorPollLinuxHeartbeat (rtosMonitorTickRtosHeartbeat
        (tasksNow K c.host).2.monitor) (tasksNow K c.host).1 := rfl
  rw [hticked]
  unfold rtosHeartbeatTaskRunOnce
  simp only
  generalize rtosMonitorPollLinuxHeartbeat _ _ = polled
  generalize rtosEndpointHeartbeatScanTimeouts _ _ = scanned
  obtain ⟨monitor, hmonitor, hlh⟩ : ∃ monitor : MonitorContext,
      (if scanned.1 > 0 then rtosMonitorRecordError polled.2 .endpointHeartbeat
        (tasksNow K c.host).1 else polled.2) = monitor ∧
      monitor.linuxHeartbeat = polled.2.linuxHeartbeat := by
    refine ⟨_, rfl, ?_⟩
    split
    · rfl
    · rfl
  rw [hmonitor]
  generalize hbase : (if (polled.1 = .globalDegraded && (tasksNow K c.host).2.state = .normal) = true
    then ({ (tasksNow K c.host).2 with monitor := monitor, state := .degraded } : Tasks)
    else { (tasksNow K c.host).2 with monitor := monitor }) = base
  have hbaseMonitor : base.monitor = monitor := by
    rw [← hbase]
    split
    · rfl
    · rfl
  by_cases hask : base.monitor.recovery.recoveryPending = true
  · rw [if_pos hask]
    exact (congrArg MonitorContext.linuxHeartbeat hbaseMonitor).trans hlh
  · rw [if_neg hask]
    exact (congrArg MonitorContext.linuxHeartbeat hbaseMonitor).trans hlh

/-- It writes the age that the clock gives. -/
theorem rtosHeartbeatTaskRunOnce_age (K : Clock) (c : TasksContext) :
    let lh := (rtosHeartbeatTaskRunOnce K c).2.host.monitor.linuxHeartbeat
    lh.lastUpdateTimeMs = c.host.monitor.linuxHeartbeat.lastUpdateTimeMs ∧
      (lh.unchangedTimeMs = c.host.monitor.linuxHeartbeat.unchangedTimeMs ∨
        lh.unchangedTimeMs = K c.host.ticks - c.host.monitor.linuxHeartbeat.lastUpdateTimeMs) := by
  have hticked : (rtosMonitorTickRtosHeartbeat c.host.monitor).linuxHeartbeat =
      c.host.monitor.linuxHeartbeat := rfl
  simp only [rtosHeartbeatTaskRunOnce_polled, ← hticked]
  unfold rtosMonitorPollLinuxHeartbeat
  simp only
  split
  · exact ⟨rfl, .inl rfl⟩
  split
  · split
    · exact ⟨rfl, .inr rfl⟩
    · exact ⟨rfl, .inr rfl⟩
  · split
    · exact ⟨rfl, .inr rfl⟩
    · exact ⟨rfl, .inr rfl⟩

/-- No other stage touches the record, on an intact region whose epoch is
known. -/
theorem Config.stage_linuxHeartbeat (hP : P.Succeeds) (hintact : Intact cfg.tasks.host.ipc.region)
    (hepoch : cfg.tasks.host.ipc.region.header.linuxEpoch = cfg.tasks.host.lastLinuxEpoch) {s : Stage}
    (hs : s ≠ .heartbeat) :
    (cfg.stage P K s).2.2.host.monitor.linuxHeartbeat = cfg.tasks.host.monitor.linuxHeartbeat := by
  have hrecover : (recoverFirst P K cfg.runtime.recoveryBudget
      cfg.tasks).2.host.monitor.linuxHeartbeat = cfg.tasks.host.monitor.linuxHeartbeat := by
    unfold recoverFirst
    split
    · exact rtosRecoveryTaskRunOnce_linuxHeartbeat P K cfg.tasks _
    · rfl
  cases s with
  | heartbeat => exact absurd rfl hs
  | preflight =>
    simp only [Config.stage, preflight_of_epoch hP hintact hepoch]
    rfl
  | retry =>
    simp only [Config.stage]
    unfold retryFirst
    split
    · exact (retry_givesBack cfg.tasks cfg.runtime.recoveryBudget).steady.linuxHeartbeat
    · rfl
  | recovery | supervision => exact hrecover
  | event =>
    simp only [Config.stage]
    unfold drainAllowed
    split
    swap
    · rfl
    rcases rtosIpcEventTaskRunOnce_cases P K cfg.tasks (mapIpcTrigger cfg.trigger) with
      ⟨-, hserves⟩ | ⟨-, t, ht, ⟨-, heq⟩ | ⟨-, heq⟩⟩
    · exact hserves.host.linuxHeartbeat
    · rw [heq]
      exact ht.linuxHeartbeat
    · rw [heq]
      exact (retry_givesBack { cfg.tasks with host := t } 64).steady.linuxHeartbeat.trans
        ht.linuxHeartbeat
  | scheduler =>
    simp only [Config.stage]
    rcases rtosRouterSchedulerTaskRunOnce_cases P K cfg.tasks cfg.runtime.schedulerBudget with
      ⟨-, heq⟩ | ⟨-, -, heq⟩ | ⟨-, -, heq⟩
    · rw [heq]
      exact (retry_givesBack cfg.tasks cfg.runtime.schedulerBudget).steady.linuxHeartbeat
    · rw [heq]
    · rw [heq]
      exact (drain_serves cfg.tasks cfg.runtime.schedulerBudget).host.linuxHeartbeat
  | monitor => exact rtosErrorMonitorTaskRunOnce_linuxHeartbeat K cfg.tasks
  | statistics => rfl

end Rtos

end PutGateway
