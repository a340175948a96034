import PutGateway.Rtos.TaskControl
import PutGateway.Rtos.Runs
/-!
# The tasks under their control state

The invariant the control state keeps in every run: the tasks are in the
normal state only with nothing frozen and with the epoch they last saw,
and a recovery that was asked for stays asked for until it is done.
-/

namespace PutGateway

namespace Rtos

variable {P : Platform} {K : Clock} {t t' : Tasks} {c c' : TasksContext}

/-! ## The invariant -/

/-- **The control invariant.** The normal state is left with nothing
frozen, every queued item bears the router's epoch, that epoch is the one
last seen unless a recovery is on, and a recovery that is on stays on
until the tasks are normal again. -/
structure Governed (c : TasksContext) : Prop where
  idle : c.host.state = .normal → c.host.pendingReclaims = []
  fenced : c.router.Fenced
  synced : c.host.state = .normal ∨ ¬ c.host.Recovering →
    c.router.currentLinuxEpoch = c.host.lastLinuxEpoch
  recovering : c.host.state.IsRecovering → c.host.Recovering
  active : c.host.monitor.recovery.recoveryActive = true → c.host.state ≠ .normal

theorem Tasks.Recovering.iff_of_eq (h : t'.monitor.recovery = t.monitor.recovery) :
    t'.Recovering ↔ t.Recovering := by
  unfold Tasks.Recovering
  rw [h]

theorem Governed.serves (h : Governed c) (hs : Serves c c') : Governed c' := by
  have hflags := Tasks.Recovering.iff_of_eq hs.host.recovery
  have hnormal : c'.host.state = .normal →
      c.host.state = .normal ∧ c'.host.pendingReclaims = c.host.pendingReclaims := by
    intro hstate
    rcases hs.host.state with ⟨hsame, hpending⟩ | ⟨-, hblocked⟩
    · exact ⟨hsame.symm.trans hstate, hpending⟩
    · rw [hstate] at hblocked
      rcases hblocked with hb | hb <;> cases hb
  refine ⟨fun hstate => ?_, hs.fenced h.fenced, fun hsync => ?_, fun hr => ?_, fun hactive hstate => ?_⟩
  · obtain ⟨hstate', hpending⟩ := hnormal hstate
    rw [hpending]
    exact h.idle hstate'
  · rw [hs.rules.epoch, hs.host.lastLinuxEpoch]
    exact h.synced (hsync.imp (fun hstate => (hnormal hstate).1) fun hn hr => hn (hflags.mpr hr))
  · exact hflags.mpr (h.recovering (hs.host.recovering hr))
  · rw [hs.host.recovery] at hactive
    exact h.active hactive (hnormal hstate).1

/-- The states a blocked retry leaves. -/
theorem retryBlockedState_cases (state : TasksState) :
    (state.IsRecovering ∧ retryBlockedState state = .reclaimBlocked) ∨
      (¬ state.IsRecovering ∧ retryBlockedState state = .degradedReclaimFull) := by
  cases state <;> simp [TasksState.IsRecovering, retryBlockedState]

theorem Governed.retry (h : Governed c) (budget : UInt32) :
    Governed { c with host := (rtosTasksRetryPendingReclaims P K c.host budget).2 } := by
  obtain ⟨hretried, hends⟩ := rtosTasksRetryPendingReclaims_cases (P := P) (K := K) c.host budget
  generalize (rtosTasksRetryPendingReclaims P K c.host budget).2 = t at hretried hends ⊢
  have hflags := Tasks.Recovering.iff_of_eq hretried.recovery
  have hsynced : ¬ c.host.Recovering → c.router.currentLinuxEpoch = t.lastLinuxEpoch := fun hn =>
    (h.synced (.inr hn)).trans hretried.lastLinuxEpoch.symm
  rcases hends with ⟨hnil, hstate⟩ | ⟨hne, hstate⟩
  · -- everything is written
    refine ⟨fun _ => hnil, h.fenced, fun hsync => ?_, fun hr => ?_, fun hactive hnormal => ?_⟩
    · refine hsynced fun hr => ?_
      rw [if_pos hr] at hstate
      rcases hsync with hnormal | hn
      · rw [hstate] at hnormal
        cases hnormal
      · exact hn (hflags.mpr hr)
    · by_contra hn
      rw [if_neg fun hr => hn (hflags.mpr hr)] at hstate
      rw [show ({ c with host := t } : TasksContext).host.state = .normal from hstate] at hr
      rcases hr with hr | hr <;> cases hr
    · rw [if_pos (hflags.mp (.inr hactive))] at hstate
      rw [show t.state = .normal from hnormal] at hstate
      cases hstate
  · -- something is left
    have hnot : t.state ≠ .normal := by
      intro hnormal
      rcases hstate with hstate | hstate
      · have hpending := h.idle (hstate.symm.trans hnormal)
        have hsuffix := hretried.frozen
        rw [hpending, List.suffix_nil] at hsuffix
        exact hne hsuffix
      · rcases retryBlockedState_cases c.host.state with ⟨-, hb⟩ | ⟨-, hb⟩
        · rw [hnormal, hb] at hstate
          cases hstate
        · rw [hnormal, hb] at hstate
          cases hstate
    refine ⟨fun hnormal => absurd hnormal hnot, h.fenced, fun hsync => ?_, fun hr => ?_,
      fun _ => hnot⟩
    · exact hsynced fun hr => hsync.elim hnot fun hn => hn (hflags.mpr hr)
    · refine hflags.mpr (h.recovering ?_)
      rcases hstate with hstate | hstate
      · rwa [← hstate]
      · rcases retryBlockedState_cases c.host.state with ⟨hrec, -⟩ | ⟨-, hb⟩
        · exact hrec
        · rw [show ({ c with host := t } : TasksContext).host.state = .degradedReclaimFull from
            hstate.trans hb] at hr
          rcases hr with hr | hr <;> cases hr

/-- Where the state, the flags and the epochs stay. -/
theorem Governed.sameControl (h : Governed c) (hcontrol : c.host.SameControl c'.host)
    (hpending : c'.host.pendingReclaims = c.host.pendingReclaims)
    (hrules : c.router.SameRules c'.router) (hqueue : c'.router.queue = c.router.queue) :
    Governed c' := by
  have hflags := Tasks.Recovering.iff_of_eq hcontrol.recovery
  refine ⟨fun hstate => ?_, ?_, fun hsync => ?_, fun hr => ?_, fun hactive => ?_⟩
  · rw [hpending]
    exact h.idle (hcontrol.state.symm.trans hstate)
  · unfold RouterContext.Fenced
    rw [hqueue, hrules.epoch]
    exact h.fenced
  · rw [hrules.epoch, hcontrol.lastLinuxEpoch]
    exact h.synced (hsync.imp (fun hs => hcontrol.state.symm.trans hs) fun hn hr => hn (hflags.mpr hr))
  · rw [hcontrol.state] at hr
    exact hflags.mpr (h.recovering hr)
  · rw [hcontrol.recovery] at hactive
    rw [hcontrol.state]
    exact h.active hactive

theorem Governed.counted (h : Governed c) (ht : c.host.Counted t) : Governed { c with host := t } := by
  have hcontrol : c.host.SameControl ({ c with host := t } : TasksContext).host := ht.toSameControl
  exact h.sameControl hcontrol ht.pending (.refl _) rfl

theorem Governed.eventTask (h : Governed c) (trigger : IpcEventTrigger) :
    Governed (rtosIpcEventTaskRunOnce P K c trigger).2 := by
  rcases rtosIpcEventTaskRunOnce_cases P K c trigger with
    ⟨-, hserves⟩ | ⟨-, t, ht, ⟨-, heq⟩ | ⟨-, heq⟩⟩
  · exact h.serves hserves
  · rw [heq]
    exact h.counted ht
  · rw [heq]
    exact (h.counted ht).retry 64

theorem Governed.schedulerTask (h : Governed c) (budget : UInt32) :
    Governed (rtosRouterSchedulerTaskRunOnce P K c budget).2 := by
  rcases rtosRouterSchedulerTaskRunOnce_cases P K c budget with ⟨-, heq⟩ | ⟨-, -, heq⟩ | ⟨-, -, heq⟩
  · rw [heq]
    exact h.retry budget
  · rw [heq]
    exact h
  · rw [heq]
    exact h.serves (drain_serves c budget)

theorem Governed.heartbeatTask (h : Governed c) : Governed (rtosHeartbeatTaskRunOnce K c).2 := by
  obtain ⟨hhost, hqueue⟩ := rtosHeartbeatTaskRunOnce_snd K c
  obtain ⟨hrules, hrecovery, hlast, hends⟩ := rtosHeartbeatTaskRunOnce_control K c
  rcases hends with ⟨hask, hstate⟩ | ⟨hask, hstate | ⟨hnormal, hstate⟩⟩
  · -- a recovery is asked for
    have hflags := Tasks.Recovering.iff_of_eq hrecovery
    have hon : (rtosHeartbeatTaskRunOnce K c).2.host.Recovering := hflags.mpr (.inl hask)
    refine ⟨fun hn => ?_, ?_, fun hsync => ?_, fun _ => hon, fun _ => ?_⟩
    · rw [hstate] at hn
      cases hn
    · unfold RouterContext.Fenced
      rw [hqueue, hrules.epoch]
      exact h.fenced
    · rcases hsync with hn | hn
      · rw [hstate] at hn
        cases hn
      · exact absurd hon hn
    · rw [hstate]
      simp
  · exact h.sameControl ⟨hstate, hrecovery, hlast⟩ hhost.pending hrules hqueue
  · -- the heartbeat of Linux has stopped
    have hflags := Tasks.Recovering.iff_of_eq hrecovery
    refine ⟨fun hn => ?_, ?_, fun _ => ?_, fun hr => ?_, fun _ => ?_⟩
    · rw [hstate] at hn
      cases hn
    · unfold RouterContext.Fenced
      rw [hqueue, hrules.epoch]
      exact h.fenced
    · rw [hrules.epoch, hlast]
      exact h.synced (.inl hnormal)
    · rw [hstate] at hr
      rcases hr with hr | hr <;> cases hr
    · rw [hstate]
      simp

theorem Governed.errorMonitorTask (h : Governed c) : Governed (rtosErrorMonitorTaskRunOnce K c).2 := by
  obtain ⟨hhost, hqueue⟩ := rtosErrorMonitorTaskRunOnce_snd K c
  obtain ⟨hrouter, hactive, hends⟩ := rtosErrorMonitorTaskRunOnce_control K c
  have hrules : c.router.SameRules (rtosErrorMonitorTaskRunOnce K c).2.router := by
    rw [hrouter]
    exact .refl _
  have hfenced : (rtosErrorMonitorTaskRunOnce K c).2.router.Fenced := by
    rw [hrouter]
    exact h.fenced
  -- both reports ask for recovery in a state that is not the normal one
  have hasked : (rtosErrorMonitorTaskRunOnce K c).2.host.monitor.recovery.recoveryPending = true →
      (rtosErrorMonitorTaskRunOnce K c).2.host.state ≠ .normal →
        Governed (rtosErrorMonitorTaskRunOnce K c).2 := by
    intro hask hstate
    refine ⟨fun hn => absurd hn hstate, hfenced, fun hsync => ?_, fun _ => .inl hask, fun _ => hstate⟩
    rcases hsync with hn | hn
    · exact absurd hn hstate
    · exact absurd (.inl hask) hn
  rcases hends with ⟨-, hstate, hask, -⟩ | ⟨-, -, hstate, hask, -⟩ | ⟨-, -, hcontrol⟩
  · exact hasked hask (by rw [hstate]; simp)
  · exact hasked hask (by rw [hstate]; simp)
  · exact h.sameControl hcontrol hhost.pending hrules hqueue

theorem Governed.statisticsTask (h : Governed c) : Governed (rtosStatisticsTaskRunOnce c).2 := by
  have hcontrol : c.host.SameControl (rtosStatisticsTaskRunOnce c).2.host := ⟨rfl, rfl, rfl⟩
  exact h.sameControl hcontrol rfl (.refl _) rfl

/-- A heartbeat that is observed asks for recovery at most. -/
theorem rtosMonitorObserveLinuxHeartbeat_recovery (monitor : MonitorContext) (sequence nowMs : UInt32) :
    let monitor' := rtosMonitorObserveLinuxHeartbeat monitor sequence nowMs
    monitor'.recovery.recoveryActive = monitor.recovery.recoveryActive ∧
      (monitor.recovery.recoveryPending = true → monitor'.recovery.recoveryPending = true) := by
  unfold rtosMonitorObserveLinuxHeartbeat
  simp only
  split
  · exact ⟨rfl, id⟩
  split
  · exact ⟨rfl, id⟩
  split
  · exact ⟨rfl, id⟩
  · exact ⟨rfl, fun _ => rfl⟩

theorem Governed.observeLinuxHeartbeat (h : Governed c) (sequence : UInt32) :
    Governed { c with host := rtosTasksObserveLinuxHeartbeat K c.host sequence } := by
  obtain ⟨hactive, hpending⟩ := rtosMonitorObserveLinuxHeartbeat_recovery
    (tasksNow K c.host).2.monitor sequence (tasksNow K c.host).1
  have hflags : c.host.Recovering →
      (rtosTasksObserveLinuxHeartbeat K c.host sequence).Recovering := by
    intro hr
    exact hr.imp (fun hp => hpending hp) fun ha => hactive.trans ha
  refine ⟨h.idle, h.fenced, fun hsync => ?_, fun hr => hflags (h.recovering hr), fun ha => ?_⟩
  · exact h.synced (hsync.imp id fun hn hr => hn (hflags hr))
  · exact h.active (hactive.symm.trans ha)

theorem Governed.recoveryTask (h : Governed c) (budget : UInt32) :
    Governed (rtosRecoveryTaskRunOnce P K c budget).2 := by
  have hfenced : (startRecovery c).router.Fenced := h.fenced
  have hgives := recoverFrames_givesBack (P := P) (K := K) (startRecovery c) budget
  have hactive : (recoveredFrames P K c budget).host.monitor.recovery.recoveryActive = true := by
    unfold recoveredFrames
    rw [hgives.steady.recovery]
    exact startRecovery_recoveryActive c
  have hfenced' : (recoveredFrames P K c budget).router.Fenced := hgives.fenced hfenced
  -- a recovery that goes on
  have hgoes : ∀ state : TasksState, state ≠ .normal →
      Governed { recoveredFrames P K c budget with
        host := { (recoveredFrames P K c budget).host with state := state } } := by
    intro state hstate
    refine ⟨fun hn => absurd hn hstate, hfenced', fun hsync => ?_, fun _ => .inr hactive,
      fun _ => hstate⟩
    exact hsync.elim (fun hn => absurd hn hstate) fun hn => absurd (.inr hactive) hn
  rcases rtosRecoveryTaskRunOnce_cases P K c budget with
    ⟨-, -, heq⟩ | ⟨-, ⟨-, heq⟩ | ⟨-, -, heq⟩ | ⟨hnil, hempty, -, heq⟩⟩
  · rw [heq]
    exact h
  · rw [heq]
    exact hgoes _ (by simp)
  · rw [heq]
    exact hgoes _ (by simp)
  rw [heq]
  obtain ⟨hqueue, hpending, -, -⟩ := finishRecovery_frames K (recoveredFrames P K c budget)
  rcases finishRecovery_cases K (recoveredFrames P K c budget) with
    ⟨-, hrouter, hrecovery, hlast, hstate⟩ | ⟨-, hstate, hdone, hlast, hepoch, -, -⟩
  · -- attaching fails
    have hon : (finishRecovery K (recoveredFrames P K c budget)).host.Recovering := by
      refine .inr ?_
      rw [hrecovery]
      exact hactive
    refine ⟨fun hn => ?_, ?_, fun hsync => ?_, fun _ => hon, fun _ => ?_⟩
    · rw [hstate] at hn
      cases hn
    · rw [hrouter]
      exact hfenced'
    · rcases hsync with hn | hn
      · rw [hstate] at hn
        cases hn
      · exact absurd hon hn
    · rw [hstate]
      simp
  · -- the tasks are normal again
    refine ⟨fun _ => hpending.trans hnil, ?_, fun _ => hepoch.trans hlast.symm, fun hr => ?_,
      fun ha => absurd (.inr ha) hdone⟩
    · unfold RouterContext.Fenced
      rw [hqueue, hempty]
      exact fun x hx => absurd hx List.not_mem_nil
    · rw [hstate] at hr
      rcases hr with hr | hr <;> cases hr

/-- The region is no part of the invariant. -/
theorem Governed.withIpc (h : Governed c) (ipc : RtosShm) :
    Governed { c with host := { c.host with ipc := ipc } } :=
  ⟨h.idle, h.fenced, h.synced, h.recovering, h.active⟩

/-- **Every operation keeps the control invariant.** -/
theorem Governed.run (h : Governed c) (op : Operation) : Governed (op.run P K c) := by
  cases op with
  | eventTask trigger => exact h.eventTask trigger
  | schedulerTask budget => exact h.schedulerTask budget
  | retryPendingReclaims budget => exact h.retry budget
  | heartbeatTask => exact h.heartbeatTask
  | errorMonitorTask => exact h.errorMonitorTask
  | recoveryTask budget => exact h.recoveryTask budget
  | statisticsTask => exact h.statisticsTask
  | observeLinuxHeartbeat sequence => exact h.observeLinuxHeartbeat sequence

theorem Governed.contextInit (ipc : RtosShm) (ticks : ℕ) :
    Governed (rtosTasksContextInit ipc ticks) := by
  refine ⟨fun _ => rfl, fun _ hx => absurd hx List.not_mem_nil, fun _ => rfl, fun hr => ?_,
    fun ha => ?_⟩
  · rcases hr with hr | hr
    · cases hr
    · cases hr
  · cases ha

end Rtos

end PutGateway
