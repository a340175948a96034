import PutGateway.Rtos.Serving
/-!
# What each task does to the control state

Supervision, recovery, and the event and scheduler tasks: the ends each
of them has, in terms of the state variable, the recovery flags and the
epochs.
-/

namespace PutGateway

namespace Rtos

variable {P : Platform} {K : Clock} {t t' t'' : Tasks} {c c' c'' : TasksContext}

/-! ## Supervision -/

theorem rtosMonitorPollLinuxHeartbeat_recovery (monitor : MonitorContext) (nowMs : UInt32) :
    (rtosMonitorPollLinuxHeartbeat monitor nowMs).2.recovery = monitor.recovery := by
  unfold rtosMonitorPollLinuxHeartbeat
  simp only
  split
  · rfl
  split
  · split
    · rfl
    · rfl
  · split
    · rfl
    · rfl

/-- **The heartbeat task** follows a recovery that was asked for; short of
that it takes the tasks from the normal state at most. -/
theorem rtosHeartbeatTaskRunOnce_control (K : Clock) (c : TasksContext) :
    let c' := (rtosHeartbeatTaskRunOnce K c).2
    c.router.SameRules c'.router ∧ c'.host.monitor.recovery = c.host.monitor.recovery ∧
      c'.host.lastLinuxEpoch = c.host.lastLinuxEpoch ∧
      ((c.host.monitor.recovery.recoveryPending = true ∧ c'.host.state = .recovery) ∨
        (c.host.monitor.recovery.recoveryPending = false ∧
          (c'.host.state = c.host.state ∨
            (c.host.state = .normal ∧ c'.host.state = .degraded)))) := by
  have hpolled : (rtosMonitorPollLinuxHeartbeat (rtosMonitorTickRtosHeartbeat
      (tasksNow K c.host).2.monitor) (tasksNow K c.host).1).2.recovery =
      c.host.monitor.recovery := rtosMonitorPollLinuxHeartbeat_recovery _ _
  have hstate : (tasksNow K c.host).2.state = c.host.state := rfl
  unfold rtosHeartbeatTaskRunOnce
  simp only
  generalize rtosMonitorPollLinuxHeartbeat _ _ = polled at hpolled ⊢
  generalize rtosEndpointHeartbeatScanTimeouts _ _ = scanned
  have hmonitor : (if scanned.1 > 0 then
      rtosMonitorRecordError polled.2 .endpointHeartbeat (tasksNow K c.host).1
      else polled.2).recovery = c.host.monitor.recovery := by
    split
    · exact hpolled
    · exact hpolled
  generalize (if scanned.1 > 0 then _ else polled.2) = monitor at hmonitor ⊢
  cases hpending : c.host.monitor.recovery.recoveryPending with
  | true =>
    have hask : monitor.recovery.recoveryPending = true := by rw [hmonitor, hpending]
    by_cases hdegrade : (polled.1 = .globalDegraded && (tasksNow K c.host).2.state = .normal) = true
    · rw [if_pos hdegrade, if_pos hask]
      exact ⟨⟨rfl, rfl⟩, hmonitor, rfl, .inl ⟨rfl, rfl⟩⟩
    · rw [if_neg hdegrade, if_pos hask]
      exact ⟨⟨rfl, rfl⟩, hmonitor, rfl, .inl ⟨rfl, rfl⟩⟩
  | false =>
    have hask : ¬ monitor.recovery.recoveryPending = true := by
      rw [hmonitor, hpending]
      decide
    by_cases hdegrade : (polled.1 = .globalDegraded && (tasksNow K c.host).2.state = .normal) = true
    · rw [if_pos hdegrade, if_neg hask]
      rw [Bool.and_eq_true, decide_eq_true_eq, decide_eq_true_eq, hstate] at hdegrade
      exact ⟨⟨rfl, rfl⟩, hmonitor, rfl, .inr ⟨rfl, .inr ⟨hdegrade.2, rfl⟩⟩⟩
    · rw [if_neg hdegrade, if_neg hask]
      exact ⟨⟨rfl, rfl⟩, hmonitor, rfl, .inr ⟨rfl, .inl rfl⟩⟩

/-- The state, the flags and the epoch last seen stay. -/
structure Tasks.SameControl (t t' : Tasks) : Prop where
  state : t'.state = t.state
  recovery : t'.monitor.recovery = t.monitor.recovery
  lastLinuxEpoch : t'.lastLinuxEpoch = t.lastLinuxEpoch

theorem Tasks.SameControl.trans (h : t.SameControl t') (h' : t'.SameControl t'') :
    t.SameControl t'' :=
  ⟨h'.state.trans h.state, h'.recovery.trans h.recovery, h'.lastLinuxEpoch.trans h.lastLinuxEpoch⟩

/-- The error state and the statistics of the monitor change at most, apart
from timestamps. -/
structure Tasks.Watched (t t' : Tasks) : Prop where
  state : t'.state = t.state
  lastLinuxEpoch : t'.lastLinuxEpoch = t.lastLinuxEpoch
  monitor : ∃ errorState statistics,
    t'.monitor = { t.monitor with errorState := errorState, statistics := statistics }

theorem Tasks.Watched.trans (h : t.Watched t') (h' : t'.Watched t'') : t.Watched t'' := by
  obtain ⟨e, s, hmonitor⟩ := h.monitor
  obtain ⟨e', s', hmonitor'⟩ := h'.monitor
  refine ⟨h'.state.trans h.state, h'.lastLinuxEpoch.trans h.lastLinuxEpoch, e', s', ?_⟩
  rw [hmonitor', hmonitor]

theorem Tasks.Watched.control (h : t.Watched t') : t.SameControl t' := by
  obtain ⟨e, s, hmonitor⟩ := h.monitor
  exact ⟨h.state, by rw [hmonitor], h.lastLinuxEpoch⟩

theorem Tasks.Watched.linuxHeartbeat (h : t.Watched t') :
    t'.monitor.linuxHeartbeat = t.monitor.linuxHeartbeat := by
  obtain ⟨e, s, hmonitor⟩ := h.monitor
  rw [hmonitor]

theorem updateStuckMonitor_monitor (monitor : MonitorContext) (active : Bool) (sinceMs : UInt32)
    (reason : MonitorError) (nowMs : UInt32) :
    ∃ errorState, (updateStuckMonitor monitor active sinceMs reason nowMs).2.2 =
      { monitor with errorState := errorState } := by
  unfold updateStuckMonitor
  split
  · exact ⟨monitor.errorState, rfl⟩
  simp only
  generalize (if sinceMs = 0 then nowMs else sinceMs) = since
  split
  · exact ⟨_, rfl⟩
  · exact ⟨monitor.errorState, rfl⟩

theorem watchRings_watched (nowMs : UInt32) (l : List (Fin 6)) (stuck : Bool × Bool) (t : Tasks) :
    t.Watched (watchRings nowMs l stuck t).2 := by
  induction l generalizing stuck t with
  | nil => exact ⟨rfl, rfl, t.monitor.errorState, t.monitor.statistics, rfl⟩
  | cons i rest ih =>
    rw [watchRings]
    refine Tasks.Watched.trans ?_ (ih _ _)
    obtain ⟨e, hrx⟩ := updateStuckMonitor_monitor t.monitor ((t.ipc.region.rxRings i).used > 0)
      (t.rxBacklogSinceMs i) .rxBacklog nowMs
    generalize updateStuckMonitor t.monitor ((t.ipc.region.rxRings i).used > 0)
      (t.rxBacklogSinceMs i) .rxBacklog nowMs = rx at hrx ⊢
    obtain ⟨e', htx⟩ := updateStuckMonitor_monitor rx.2.2 ((t.ipc.region.txRings i).used ≥ 8)
      (t.txFullSinceMs i) .txRingFull nowMs
    refine ⟨rfl, rfl, e', t.monitor.statistics, ?_⟩
    simp only
    rw [htx, hrx]

theorem watchPending_watched (nowMs : UInt32) (t : Tasks) :
    t.Watched (watchPending nowMs t).2 := by
  -- each of the three checks changes the error state at most
  have hcheck : ∀ (t : Tasks) (active : Bool) (since : UInt32),
      t.Watched { t with
        monitor := (updateStuckMonitor t.monitor active since .pendingStuck nowMs).2.2 } := by
    intro t active since
    obtain ⟨e, he⟩ := updateStuckMonitor_monitor t.monitor active since .pendingStuck nowMs
    exact ⟨rfl, rfl, e, t.monitor.statistics, he⟩
  have hrx := hcheck t (t.ipc.region.rxPendingBitmap.bits != 0) t.rxPendingSinceMs
  unfold watchPending
  simp only
  generalize updateStuckMonitor t.monitor (t.ipc.region.rxPendingBitmap.bits != 0)
    t.rxPendingSinceMs .pendingStuck nowMs = rx at hrx ⊢
  have htx := hrx.trans (hcheck { t with monitor := rx.2.2 }
    (t.ipc.region.txPendingBitmap.bits != 0) t.txPendingSinceMs)
  simp only at htx
  split
  · exact ⟨hrx.state, hrx.lastLinuxEpoch, hrx.monitor⟩
  generalize updateStuckMonitor rx.2.2 (t.ipc.region.txPendingBitmap.bits != 0)
    t.txPendingSinceMs .pendingStuck nowMs = tx at htx ⊢
  have hreclaim := htx.trans (hcheck { t with monitor := tx.2.2 }
    (t.ipc.region.reclaimPending.bits != 0) t.reclaimPendingSinceMs)
  simp only at hreclaim
  split
  · exact ⟨htx.state, htx.lastLinuxEpoch, htx.monitor⟩
  · exact ⟨hreclaim.state, hreclaim.lastLinuxEpoch, hreclaim.monitor⟩

theorem watchStuck_watched (nowMs : UInt32) (t : Tasks) : t.Watched (watchStuck nowMs t) := by
  have hrings := watchRings_watched nowMs (List.finRange 6) (false, false) t
  unfold watchStuck
  simp only
  generalize watchRings nowMs (List.finRange 6) (false, false) t = rings at hrings ⊢
  have hpending := hrings.trans (watchPending_watched nowMs rings.2)
  generalize watchPending nowMs rings.2 = pending at hpending ⊢
  obtain ⟨e, hreclaim⟩ := updateStuckMonitor_monitor pending.2.monitor
    (pending.2.pendingReclaims != [] || pending.2.ipc.region.reclaimRing.used ≥ 8)
    pending.2.reclaimBlockedSinceMs .reclaimBlocked nowMs
  generalize updateStuckMonitor pending.2.monitor _ _ _ _ = reclaim at hreclaim ⊢
  obtain ⟨e₀, s₀, hmonitor⟩ := hpending.monitor
  rw [hmonitor] at hreclaim
  -- clearing errors changes the error state only
  have hclear : ∀ (b : Prop) [Decidable b] (monitor : MonitorContext) (reason : MonitorError),
      (∃ e, monitor = { t.monitor with errorState := e, statistics := s₀ }) →
      ∃ e, (if b then monitor else rtosMonitorClearError monitor reason) =
        { t.monitor with errorState := e, statistics := s₀ } := by
    rintro b _ monitor reason ⟨e, rfl⟩
    split
    · exact ⟨e, rfl⟩
    · exact ⟨_, rfl⟩
  have hcleared := hclear (pending.1 = true) _ .pendingStuck (hclear (rings.1.2 = true) _ .txRingFull
    (hclear (rings.1.1 = true) _ .rxBacklog ⟨e, hreclaim⟩))
  refine ⟨hpending.state, hpending.lastLinuxEpoch, ?_⟩
  obtain ⟨e₁, hcleared⟩ := hcleared
  simp only
  rw [hcleared]
  split
  · exact ⟨_, s₀, rfl⟩
  · exact ⟨e₁, s₀, rfl⟩

/-- The checks that follow the header and the epoch change the error state
and the statistics at most. -/
theorem watchAll_watched (nowMs : UInt32) (c : TasksContext) (t : Tasks) :
    t.Watched (rtosStatisticsTaskRunOnce (watchCounters nowMs
      { c with host := watchStuck nowMs t })).2.host := by
  refine (watchStuck_watched nowMs t).trans ?_
  have hcounters : (watchStuck nowMs t).Watched
      (watchCounters nowMs { c with host := watchStuck nowMs t }).host := by
    refine ⟨rfl, rfl, ?_⟩
    unfold watchCounters
    simp only
    generalize (watchStuck nowMs t).monitor = monitor
    split_ifs
    all_goals exact ⟨_, monitor.statistics, rfl⟩
  refine hcounters.trans ⟨rfl, rfl, ?_⟩
  exact ⟨_, _, rfl⟩

/-- What the error monitor makes of the region header and the rings. -/
def monitorAccepts (region : Region) : Bool :=
  shmRegionHeaderIsValid region && shmRingHeadersAreValid region

/-- **The error monitor** degrades on a damaged region and asks for
recovery on a new epoch; else it leaves the control state. -/
theorem rtosErrorMonitorTaskRunOnce_control (K : Clock) (c : TasksContext) :
    let c' := (rtosErrorMonitorTaskRunOnce K c).2
    c'.router = c.router ∧
      c'.host.monitor.recovery.recoveryActive = c.host.monitor.recovery.recoveryActive ∧
      ((monitorAccepts c.host.ipc.region = false ∧ c'.host.state = .degraded ∧
          c'.host.monitor.recovery.recoveryPending = true ∧
          c'.host.lastLinuxEpoch = c.host.lastLinuxEpoch) ∨
        (monitorAccepts c.host.ipc.region = true ∧
          c.host.ipc.region.header.linuxEpoch ≠ c.host.lastLinuxEpoch ∧
          c'.host.state = .recovery ∧ c'.host.monitor.recovery.recoveryPending = true ∧
          c'.host.lastLinuxEpoch = c.host.ipc.region.header.linuxEpoch) ∨
        (monitorAccepts c.host.ipc.region = true ∧
          c.host.ipc.region.header.linuxEpoch = c.host.lastLinuxEpoch ∧
          c.host.SameControl c'.host)) := by
  have hipc : (tasksNow K c.host).2.ipc = c.host.ipc := rfl
  have hlast : (tasksNow K c.host).2.lastLinuxEpoch = c.host.lastLinuxEpoch := rfl
  unfold rtosErrorMonitorTaskRunOnce
  simp only
  split
  · next hheader =>
    refine ⟨rfl, rfl, .inl ⟨?_, rfl, rfl, rfl⟩⟩
    simp only [hipc, Bool.not_eq_true'] at hheader
    simp [monitorAccepts, hheader]
  next hheader =>
  split
  · next hrings =>
    refine ⟨rfl, rfl, .inl ⟨?_, rfl, rfl, rfl⟩⟩
    simp only [hipc, Bool.not_eq_true'] at hrings
    simp [monitorAccepts, hrings]
  next hrings =>
  have haccepts : monitorAccepts c.host.ipc.region = true := by
    simp only [hipc, Bool.not_eq_true', Bool.not_eq_false] at hheader hrings
    simp [monitorAccepts, hheader, hrings]
  -- the checks that follow leave the control state
  have hwatch : ∀ t : Tasks, t.SameControl
      (rtosStatisticsTaskRunOnce (watchCounters (tasksNow K c.host).1
        { c with host := watchStuck (tasksNow K c.host).1 t })).2.host :=
    fun t => (watchAll_watched (tasksNow K c.host).1 c t).control
  by_cases hepoch : c.host.ipc.region.header.linuxEpoch = c.host.lastLinuxEpoch
  · -- the epoch last seen
    have hnotice : (tasksNow K c.host).2.SameControl (noticeEpoch (tasksNow K c.host).2).2 := by
      unfold noticeEpoch
      simp only
      rw [if_neg (by rw [hipc, hlast]; exact not_not.mpr hepoch)]
      exact ⟨rfl, rfl, rfl⟩
    have hcontrol := hnotice.trans (hwatch _)
    refine ⟨rfl, congrArg Recovery.recoveryActive hcontrol.recovery, .inr (.inr ⟨haccepts, hepoch, ?_⟩)⟩
    exact ⟨hcontrol.state, hcontrol.recovery, hcontrol.lastLinuxEpoch⟩
  · -- a new epoch
    have hnotice : noticeEpoch (tasksNow K c.host).2 = (true,
        { (tasksNow K c.host).2 with
          lastLinuxEpoch := c.host.ipc.region.header.linuxEpoch
          monitor := rtosMonitorMarkRecoveryPending
            (rtosMonitorClearError (tasksNow K c.host).2.monitor .shmFormat) .linuxEpoch
          state := .recovery }) := by
      unfold noticeEpoch
      simp only
      rw [if_pos (by rw [hipc, hlast]; exact hepoch)]
      rfl
    have hcontrol := hwatch (noticeEpoch (tasksNow K c.host).2).2
    rw [hnotice] at hcontrol ⊢
    have hactive := congrArg Recovery.recoveryActive hcontrol.recovery
    have hpending := congrArg Recovery.recoveryPending hcontrol.recovery
    exact ⟨rfl, hactive,
      .inr (.inl ⟨haccepts, hepoch, hcontrol.state, hpending, hcontrol.lastLinuxEpoch⟩)⟩

/-- The error monitor leaves the heartbeat of Linux. -/
theorem rtosErrorMonitorTaskRunOnce_linuxHeartbeat (K : Clock) (c : TasksContext) :
    (rtosErrorMonitorTaskRunOnce K c).2.host.monitor.linuxHeartbeat =
      c.host.monitor.linuxHeartbeat := by
  have hnotice : (noticeEpoch (tasksNow K c.host).2).2.monitor.linuxHeartbeat =
      c.host.monitor.linuxHeartbeat := by
    unfold noticeEpoch
    simp only
    split
    · rfl
    · rfl
  unfold rtosErrorMonitorTaskRunOnce
  simp only
  split
  · rfl
  split
  · rfl
  · exact (watchAll_watched _ c _).linuxHeartbeat.trans hnotice

/-! ## Recovery -/

/-- A context gives frames back: it takes and sends nothing, and leaves
flags, epochs and the region header. -/
structure GivesBack (c c' : TasksContext) : Prop where
  steady : c.host.Steady c'.host
  quiet : c.host.Quiet c'.host
  rules : c.router.SameRules c'.router
  fenced : c.router.Fenced → c'.router.Fenced

theorem GivesBack.refl (c : TasksContext) : GivesBack c c := ⟨.refl _, .refl _, .refl _, id⟩

theorem GivesBack.trans (h : GivesBack c c') (h' : GivesBack c' c'') : GivesBack c c'' :=
  ⟨h.steady.trans h'.steady, h.quiet.trans h'.quiet, h.rules.trans h'.rules,
    fun hf => h'.fenced (h.fenced hf)⟩

theorem retry_givesBack (c : TasksContext) (budget : UInt32) :
    GivesBack c { c with host := (rtosTasksRetryPendingReclaims P K c.host budget).2 } := by
  obtain ⟨hretried, -⟩ := rtosTasksRetryPendingReclaims_cases (P := P) (K := K) c.host budget
  exact ⟨hretried.toSteady, hretried.toQuiet, .refl _, id⟩

theorem Serves.givesBack (h : Serves c c') (hquiet : c.host.Quiet c'.host) : GivesBack c c' :=
  ⟨h.host.toSteady, hquiet, h.rules, h.fenced⟩

theorem recoverFrames_givesBack (c : TasksContext) (budget : UInt32) :
    GivesBack c (recoverFrames P K c budget).2 := by
  refine recoverFrames_keeps (I := GivesBack c) ?_ ?_ ?_ (.refl c) budget
  · intro c' budget h
    exact h.trans (retry_givesBack c' budget)
  · intro c' budget h
    obtain ⟨hserves, hquiet⟩ := reclaimQueued_serves (P := P) (K := K) c' .queueFull budget
    exact h.trans (hserves.givesBack hquiet)
  · intro c' budget h _
    obtain ⟨hserved, hquiet⟩ :=
      orphanLoop_serves (P := P) (K := K) c'.host budget (List.finRange 64) 0
    exact h.trans ((Serves.ofHost hserved).givesBack hquiet)

/-- The context a recovery starts from. -/
def startRecovery (c : TasksContext) : TasksContext :=
  { c with
    host :=
      if c.host.monitor.recovery.recoveryActive then { c.host with state := .recovery }
      else
        { c.host with
          state := .recovery
          monitor := rtosMonitorMarkRecoveryStarted c.host.monitor } }

theorem startRecovery_recoveryActive (c : TasksContext) :
    (startRecovery c).host.monitor.recovery.recoveryActive = true := by
  unfold startRecovery
  by_cases hactive : c.host.monitor.recovery.recoveryActive = true
  · simp only [if_pos hactive]
    exact hactive
  · simp only [if_neg hactive]
    rfl

theorem startRecovery_frames (c : TasksContext) :
    (startRecovery c).host.ipc = c.host.ipc ∧
      (startRecovery c).host.frameReferences = c.host.frameReferences ∧
      (startRecovery c).host.pendingReclaims = c.host.pendingReclaims ∧
      (startRecovery c).host.lastLinuxEpoch = c.host.lastLinuxEpoch ∧
      (startRecovery c).host.state = .recovery := by
  unfold startRecovery
  simp only
  split
  · exact ⟨rfl, rfl, rfl, rfl, rfl⟩
  · exact ⟨rfl, rfl, rfl, rfl, rfl⟩

/-- The context once a recovery has given back what its budget allows. -/
def recoveredFrames (P : Platform) (K : Clock) (c : TasksContext) (budget : UInt32) : TasksContext :=
  (recoverFrames P K (startRecovery c) budget).2

/-- **The ends of the recovery task.** Nothing asked for it; or it is
blocked by the reclaim ring; or it has frames left; or it is done with
them and attaches again. -/
theorem rtosRecoveryTaskRunOnce_cases (P : Platform) (K : Clock) (c : TasksContext)
    (budget : UInt32) :
    let c' := (rtosRecoveryTaskRunOnce P K c budget).2
    let m := recoveredFrames P K c budget
    (c.host.state ≠ .recovery ∧ ¬ c.host.Recovering ∧ c' = c) ∨
      ((c.host.state = .recovery ∨ c.host.Recovering) ∧
        (((m.host.pendingReclaims ≠ [] ∨ m.host.state = .reclaimBlocked) ∧
            c' = { m with host := { m.host with state := .reclaimBlocked } }) ∨
          (m.host.pendingReclaims = [] ∧
            (m.router.queue.items ≠ [] ∨ unclaimedFrameReferenceExists m.host = true) ∧
            c' = { m with host := { m.host with state := .recovery } }) ∨
          (m.host.pendingReclaims = [] ∧ m.router.queue.items = [] ∧
            unclaimedFrameReferenceExists m.host = false ∧ c' = finishRecovery K m))) := by
  have hguard : (c.host.state ≠ .recovery && !c.host.monitor.recovery.recoveryPending &&
      !c.host.monitor.recovery.recoveryActive) = true ↔
      c.host.state ≠ .recovery ∧ ¬ c.host.Recovering := by
    simp only [Bool.and_eq_true, decide_eq_true_eq, Bool.not_eq_true', Tasks.Recovering, not_or,
      Bool.not_eq_true, and_assoc]
  unfold rtosRecoveryTaskRunOnce
  by_cases hidle : c.host.state ≠ .recovery ∧ ¬ c.host.Recovering
  · rw [if_pos (hguard.mpr hidle)]
    exact .inl ⟨hidle.1, hidle.2, rfl⟩
  rw [if_neg fun h => hidle (hguard.mp h)]
  refine .inr ⟨?_, ?_⟩
  · by_contra hnone
    rw [not_or] at hnone
    exact hidle hnone
  have hstart : ({ c with
      host :=
        if ({ c.host with state := .recovery } : Tasks).monitor.recovery.recoveryActive = true then
          { c.host with state := .recovery }
        else
          { c.host with
            state := .recovery
            monitor := rtosMonitorMarkRecoveryStarted c.host.monitor } } : TasksContext) =
      startRecovery c := rfl
  simp only [hstart]
  unfold recoveredFrames
  -- the two tests after the drain read only the context that it leaves
  generalize recoverFrames P K (startRecovery c) budget = r
  split
  · next hblocked =>
    refine .inl ⟨?_, rfl⟩
    simpa using hblocked
  next hclear =>
  simp only [ne_eq, decide_not, Bool.or_eq_true, Bool.not_eq_true', decide_eq_false_iff_not,
    decide_eq_true_eq, not_or, not_not] at hclear
  split
  · next hleft =>
    refine .inr (.inl ⟨hclear.1, ?_, rfl⟩)
    rw [Bool.or_eq_true, decide_eq_true_eq] at hleft
    refine hleft.imp (fun hcount hnil => ?_) id
    rw [rtosRouterGetQueuedCount_eq_zero_iff.mpr hnil] at hcount
    exact absurd hcount (by decide)
  · next hdone =>
    rw [Bool.or_eq_true, decide_eq_true_eq, not_or] at hdone
    refine .inr (.inr ⟨hclear.1, ?_, by simpa using hdone.2, rfl⟩)
    refine rtosRouterGetQueuedCount_eq_zero_iff.mp ?_
    by_contra hne
    exact hdone.1 (UInt32.pos_iff_ne_zero.mpr hne)

/-- Attaching changes no ring and no frame. -/
theorem rtosShmIpcAttach_region (shm : RtosShm) : (rtosShmIpcAttach shm).2.region = shm.region := by
  unfold rtosShmIpcAttach
  simp only
  split_ifs <;> rfl

/-- Attaching that succeeds initialises. -/
theorem rtosShmIpcAttach_initialized (shm : RtosShm) (h : (rtosShmIpcAttach shm).1 = .ok) :
    (rtosShmIpcAttach shm).2.initialized = true := by
  unfold rtosShmIpcAttach at h ⊢
  simp only at h ⊢
  split_ifs at h ⊢ with h1 h2 h3
  · exact absurd h h1
  · exact absurd h h2
  · exact absurd h h3
  · rfl

/-- The end of a recovery stays initialised, attached again or not. -/
theorem finishRecovery_initialized (hinit : c.host.ipc.initialized = true) :
    (finishRecovery K c).host.ipc.initialized = true := by
  have hattach : (rtosShmIpcAttach c.host.ipc).2.initialized = true := by
    unfold rtosShmIpcAttach
    simp only
    split_ifs <;> first | exact hinit | rfl
  unfold finishRecovery
  simp only
  split
  · exact hattach
  · exact hattach

/-- The end of a recovery moves no frame. -/
theorem finishRecovery_frames (K : Clock) (c : TasksContext) :
    (finishRecovery K c).router.queue = c.router.queue ∧
      (finishRecovery K c).host.pendingReclaims = c.host.pendingReclaims ∧
      (finishRecovery K c).host.frameReferences = c.host.frameReferences ∧
      (finishRecovery K c).host.ipc.region = c.host.ipc.region := by
  have hregion := rtosShmIpcAttach_region c.host.ipc
  unfold finishRecovery
  generalize rtosShmIpcAttach c.host.ipc = attached at hregion ⊢
  simp only
  split
  · exact ⟨rfl, rfl, rfl, hregion⟩
  · refine ⟨?_, rfl, rfl, hregion⟩
    simp only [rtosStatisticsTaskRunOnce]
    split
    · rfl
    · exact rtosRouterSetRouteTable_queue

/-- **The end of a recovery.** Attaching fails, and the tasks degrade with
the recovery still under way; or it succeeds, and the tasks are normal,
with the epoch of the region throughout. -/
theorem finishRecovery_cases (K : Clock) (c : TasksContext) :
    let c' := finishRecovery K c
    ((rtosShmIpcAttach c.host.ipc).1 ≠ .ok ∧ c'.router = c.router ∧
        c'.host.monitor.recovery = c.host.monitor.recovery ∧
        c'.host.lastLinuxEpoch = c.host.lastLinuxEpoch ∧ c'.host.state = .degraded) ∨
      ((rtosShmIpcAttach c.host.ipc).1 = .ok ∧ c'.host.state = .normal ∧ ¬ c'.host.Recovering ∧
        c'.host.lastLinuxEpoch = c.host.ipc.region.header.linuxEpoch ∧
        c'.router.currentLinuxEpoch = c.host.ipc.region.header.linuxEpoch ∧
        c'.router.routeTable.valid = true ∧
        (∀ i, c'.router.endpointHeartbeat.entries i = {})) := by
  have hregion := rtosShmIpcAttach_region c.host.ipc
  unfold finishRecovery
  generalize rtosShmIpcAttach c.host.ipc = attached at hregion ⊢
  by_cases hattached : attached.1 = .ok
  swap
  · rw [if_pos hattached]
    exact .inl ⟨hattached, rfl, rfl, rfl, rfl⟩
  rw [if_neg (not_not.mpr hattached)]
  refine .inr ⟨hattached, rfl, by simp [Tasks.Recovering, rtosStatisticsTaskRunOnce,
    rtosMonitorMarkRecoveryDone], congrArg (fun R => R.header.linuxEpoch) hregion, ?_, ?_,
    fun _ => rfl⟩
  · rw [← hregion]
    simp only [rtosStatisticsTaskRunOnce]
    split
    · rfl
    · unfold rtosRouterSetRouteTable
      split_ifs <;> rfl
  · simp only [rtosStatisticsTaskRunOnce]
    split
    · next hvalid => exact hvalid
    · rfl

/-- **Recovery takes and sends nothing.** -/
theorem rtosRecoveryTaskRunOnce_quiet (P : Platform) (K : Clock) (c : TasksContext)
    (budget : UInt32) : c.host.Quiet (rtosRecoveryTaskRunOnce P K c budget).2.host := by
  have hstart : c.host.Quiet (startRecovery c).host :=
    (Tasks.Quiet.refl _).congr (startRecovery_frames c).1
  have hgives : c.host.Quiet (recoveredFrames P K c budget).host :=
    hstart.trans (recoverFrames_givesBack (startRecovery c) budget).quiet
  rcases rtosRecoveryTaskRunOnce_cases P K c budget with
    ⟨-, -, heq⟩ | ⟨-, ⟨-, heq⟩ | ⟨-, -, heq⟩ | ⟨-, -, -, heq⟩⟩
  · rw [heq]
    exact .refl _
  · rw [heq]
    exact hgives.congr rfl
  · rw [heq]
    exact hgives.congr rfl
  · rw [heq]
    obtain ⟨-, -, -, hregion⟩ := finishRecovery_frames K (recoveredFrames P K c budget)
    exact ⟨(congrArg Region.rxRings hregion).trans hgives.rxRings,
      (congrArg Region.txRings hregion).trans hgives.txRings⟩

/-- Recovery leaves the region header, and the epoch last seen but for
taking over the header's. -/
theorem rtosRecoveryTaskRunOnce_epoch (P : Platform) (K : Clock) (c : TasksContext)
    (budget : UInt32) :
    let c' := (rtosRecoveryTaskRunOnce P K c budget).2
    c'.host.ipc.region.header = c.host.ipc.region.header ∧
      (c'.host.lastLinuxEpoch = c.host.lastLinuxEpoch ∨
        c'.host.lastLinuxEpoch = c.host.ipc.region.header.linuxEpoch) := by
  obtain ⟨hipc, -, -, hlast, -⟩ := startRecovery_frames c
  have hgives := recoverFrames_givesBack (P := P) (K := K) (startRecovery c) budget
  have hheader : (recoveredFrames P K c budget).host.ipc.region.header =
      c.host.ipc.region.header := by
    rw [← hipc]
    exact hgives.steady.header
  have hlast' : (recoveredFrames P K c budget).host.lastLinuxEpoch = c.host.lastLinuxEpoch :=
    hgives.steady.lastLinuxEpoch.trans hlast
  rcases rtosRecoveryTaskRunOnce_cases P K c budget with
    ⟨-, -, heq⟩ | ⟨-, ⟨-, heq⟩ | ⟨-, -, heq⟩ | ⟨-, -, -, heq⟩⟩
  · rw [heq]
    exact ⟨rfl, .inl rfl⟩
  · rw [heq]
    exact ⟨hheader, .inl hlast'⟩
  · rw [heq]
    exact ⟨hheader, .inl hlast'⟩
  · rw [heq]
    obtain ⟨-, -, -, hregion⟩ := finishRecovery_frames K (recoveredFrames P K c budget)
    refine ⟨(congrArg Region.header hregion).trans hheader, ?_⟩
    rcases finishRecovery_cases K (recoveredFrames P K c budget) with
      ⟨-, -, -, hkept, -⟩ | ⟨-, -, -, htaken, -⟩
    · exact .inl (hkept.trans hlast')
    · exact .inr (htaken.trans (congrArg RegionHeader.linuxEpoch hheader))

/-- Recovery leaves the heartbeat of Linux. -/
theorem rtosRecoveryTaskRunOnce_linuxHeartbeat (P : Platform) (K : Clock) (c : TasksContext)
    (budget : UInt32) :
    (rtosRecoveryTaskRunOnce P K c budget).2.host.monitor.linuxHeartbeat =
      c.host.monitor.linuxHeartbeat := by
  have hstart : (startRecovery c).host.monitor.linuxHeartbeat = c.host.monitor.linuxHeartbeat := by
    unfold startRecovery
    simp only
    split
    · rfl
    · rfl
  have hgives : (recoveredFrames P K c budget).host.monitor.linuxHeartbeat =
      c.host.monitor.linuxHeartbeat :=
    (recoverFrames_givesBack (startRecovery c) budget).steady.linuxHeartbeat.trans hstart
  have hfinish : ∀ c : TasksContext,
      (finishRecovery K c).host.monitor.linuxHeartbeat = c.host.monitor.linuxHeartbeat := by
    intro c
    unfold finishRecovery
    simp only
    split
    · rfl
    · rfl
  rcases rtosRecoveryTaskRunOnce_cases P K c budget with
    ⟨-, -, heq⟩ | ⟨-, ⟨-, heq⟩ | ⟨-, -, heq⟩ | ⟨-, -, -, heq⟩⟩
  · rw [heq]
  · rw [heq]
    exact hgives
  · rw [heq]
    exact hgives
  · rw [heq]
    exact (hfinish _).trans hgives

/-! ## The event and scheduler tasks -/

/-- Counters and errors only. -/
structure Tasks.Counted (t t' : Tasks) : Prop extends Tasks.SameFrames t t',
    Tasks.SameControl t t' where
  linuxHeartbeat : t'.monitor.linuxHeartbeat = t.monitor.linuxHeartbeat

theorem Tasks.Counted.steady (h : t.Counted t') : t.Steady t' :=
  ⟨h.recovery, h.linuxHeartbeat, h.lastLinuxEpoch, by rw [h.ipc], by rw [h.ipc]⟩

theorem Tasks.Counted.quiet (h : t.Counted t') : t.Quiet t' := (Tasks.Quiet.refl t).congr h.ipc

/-- **The event task** drains in the normal state; in any other it at most
retries what is frozen. -/
theorem rtosIpcEventTaskRunOnce_cases (P : Platform) (K : Clock) (c : TasksContext)
    (trigger : IpcEventTrigger) :
    let c' := (rtosIpcEventTaskRunOnce P K c trigger).2
    (c.host.state = .normal ∧ Serves c c') ∨
      (c.host.state ≠ .normal ∧ ∃ t, c.host.Counted t ∧
        ((c.host.pendingReclaims = [] ∧ c' = { c with host := t }) ∨
          (c.host.pendingReclaims ≠ [] ∧
            c' = { c with host := (rtosTasksRetryPendingReclaims P K t 64).2 }))) := by
  by_cases hnormal : c.host.state = .normal
  · exact .inl ⟨hnormal, (receives_serves c).eventTask (.refl c) hnormal trigger⟩
  refine .inr ⟨hnormal, ?_⟩
  have hcounted : ∃ t, c.host.Counted t ∧
      (if trigger = .doorbell then { c with host := c.host.countDoorbell } else c) =
        { c with host := t } := by
    split
    · exact ⟨c.host.countDoorbell, ⟨⟨rfl, rfl, rfl, rfl⟩, ⟨rfl, rfl, rfl⟩, rfl⟩, rfl⟩
    · exact ⟨c.host, ⟨⟨rfl, rfl, rfl, rfl⟩, ⟨rfl, rfl, rfl⟩, rfl⟩, rfl⟩
  obtain ⟨t, ht, heq⟩ := hcounted
  unfold rtosIpcEventTaskRunOnce
  rw [heq]
  simp only
  rw [if_pos fun h => hnormal (ht.state.symm.trans h)]
  have hblocked : c.host.Counted t.countBlockedDrain :=
    ⟨⟨ht.ipc, ht.references, ht.pending, ht.history⟩, ⟨ht.state, ht.recovery, ht.lastLinuxEpoch⟩,
      ht.linuxHeartbeat⟩
  refine ⟨t.countBlockedDrain, hblocked, ?_⟩
  split
  · next hpending => exact .inr ⟨fun h => hpending (hblocked.pending.trans h), rfl⟩
  · next hpending => exact .inl ⟨hblocked.pending.symm.trans (not_not.mp hpending), rfl⟩

/-- **The scheduler task** retries what is frozen; short of that it drains
in the normal state only. -/
theorem rtosRouterSchedulerTaskRunOnce_cases (P : Platform) (K : Clock) (c : TasksContext)
    (budget : UInt32) :
    let c' := (rtosRouterSchedulerTaskRunOnce P K c budget).2
    (c.host.pendingReclaims ≠ [] ∧
        c' = { c with host := (rtosTasksRetryPendingReclaims P K c.host budget).2 }) ∨
      (c.host.pendingReclaims = [] ∧ c.host.state ≠ .normal ∧ c' = c) ∨
      (c.host.pendingReclaims = [] ∧ c.host.state = .normal ∧
        c' = (rtosRouterDrain (tasksSinks P K) c budget).2) := by
  unfold rtosRouterSchedulerTaskRunOnce
  by_cases hpending : c.host.pendingReclaims ≠ []
  · rw [if_pos hpending]
    exact .inl ⟨hpending, rfl⟩
  rw [if_neg hpending]
  by_cases hstate : c.host.state ≠ .normal
  · rw [if_pos hstate]
    exact .inr (.inl ⟨not_not.mp hpending, hstate, rfl⟩)
  · rw [if_neg hstate]
    exact .inr (.inr ⟨not_not.mp hpending, not_not.mp hstate, rfl⟩)

end Rtos

end PutGateway
