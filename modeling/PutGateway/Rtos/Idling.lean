import PutGateway.Rtos.Gating
import PutGateway.Rtos.LinuxHeartbeat
import PutGateway.Rtos.Workload
/-!
# Idling

The state variable while no frame moves. Tasks that have no reclaim
frozen, and freeze none, come out of every stage in a state that is read
off the stage, the state before and the recovery flags.
-/

namespace PutGateway

namespace Rtos

variable {P : Platform} {K : Clock} {t t' : Tasks} {c : TasksContext} {cfg : Config} {s : Stage}

/-- What a stage makes of the state of idle tasks. -/
def Tasks.IdlesTo (t t' : Tasks) : Stage → Prop
  | .retry =>
    t'.state = if stateNeedsReclaimRetryFirst t.state then
      (if t.Recovering then .recovery else .normal) else t.state
  | .recovery | .supervision => t'.state = if t.state = .recovery then .normal else t.state
  | .heartbeat =>
    (t.monitor.recovery.recoveryPending = true ∧ t'.state = .recovery) ∨
      (t.monitor.recovery.recoveryPending = false ∧
        (t'.state = t.state ∨ (t.state = .normal ∧ t'.state = .degraded)))
  | _ => t'.state = t.state

/-- The recovery stages of idle tasks end every recovery. -/
theorem recoverFirst_idles (hP : P.Succeeds) (hsound : Sound c) (hb : (ledger c).Balanced)
    (hintact : Intact c.host.ipc.region) {budget : UInt32} (hbudget : budget ≠ 0)
    (hpending : c.host.pendingReclaims = [])
    (hstill : (ledger c).Still (ledger (recoverFirst P K budget c).2)) :
    (recoverFirst P K budget c).2.host.state =
      if c.host.state = .recovery then .normal else c.host.state := by
  unfold recoverFirst stateNeedsRecoveryFirst at hstill ⊢
  by_cases hstate : c.host.state = .recovery
  swap
  · simp only [hstate, decide_false, Bool.false_eq_true, if_false]
  simp only [hstate, decide_true, if_true] at hstill ⊢
  refine (recoveryTask_lessens hP hsound hb hintact hstate hpending hbudget).resolve_left fun hless => ?_
  have hrx := (rtosRecoveryTaskRunOnce_quiet P K c budget).view_rx
  exact absurd (hstill.weight hrx) (Nat.ne_of_lt hless)

/-- **What every stage makes of the state of idle tasks**, on an intact
region whose epoch is known. -/
theorem Config.stage_idles (hP : P.Succeeds) (hsound : Sound cfg.tasks)
    (hb : (ledger cfg.tasks).Balanced) (hintact : Intact cfg.tasks.host.ipc.region)
    (hepoch : cfg.tasks.host.ipc.region.header.linuxEpoch = cfg.tasks.host.lastLinuxEpoch)
    (hbudget : cfg.runtime.recoveryBudget ≠ 0) (hpending : cfg.tasks.host.pendingReclaims = [])
    (hstill : (ledger cfg.tasks).Still (ledger (cfg.stage P K s).2.2)) :
    cfg.tasks.host.IdlesTo (cfg.stage P K s).2.2.host s := by
  have hpending' : (cfg.stage P K s).2.2.host.pendingReclaims = [] := hstill.pending.trans hpending
  cases s with
  | preflight =>
    simp only [Config.stage, preflight_of_epoch hP hintact hepoch]
    rfl
  | retry =>
    simp only [Config.stage, Tasks.IdlesTo] at hpending' ⊢
    unfold retryFirst at hpending' ⊢
    split
    · next hneeds =>
      rw [if_pos hneeds] at hpending'
      obtain ⟨-, ⟨-, hstate⟩ | ⟨hne, -⟩⟩ := rtosTasksRetryPendingReclaims_cases (P := P) (K := K)
        cfg.tasks.host cfg.runtime.recoveryBudget
      · exact hstate
      · exact absurd hpending' hne
    · rfl
  | recovery => exact recoverFirst_idles hP hsound hb hintact hbudget hpending hstill
  | supervision => exact recoverFirst_idles hP hsound hb hintact hbudget hpending hstill
  | event =>
    simp only [Config.stage, Tasks.IdlesTo] at hpending' ⊢
    unfold drainAllowed at hpending' ⊢
    split
    swap
    · rfl
    next hallowed =>
    rw [if_pos hallowed] at hpending'
    rcases rtosIpcEventTaskRunOnce_cases P K cfg.tasks (mapIpcTrigger cfg.trigger) with
      ⟨-, hserves⟩ | ⟨-, t, ht, ⟨-, heq⟩ | ⟨hne, -⟩⟩
    · rcases hserves.host.state with ⟨hstate, -⟩ | ⟨hne, -⟩
      · exact hstate
      · exact absurd hpending' hne
    · rw [heq]
      exact ht.state
    · exact absurd hpending hne
  | scheduler =>
    simp only [Config.stage, Tasks.IdlesTo] at hpending' ⊢
    rcases rtosRouterSchedulerTaskRunOnce_cases P K cfg.tasks cfg.runtime.schedulerBudget with
      ⟨hne, -⟩ | ⟨-, -, heq⟩ | ⟨-, -, heq⟩
    · exact absurd hpending hne
    · rw [heq]
    · rw [heq] at hpending' ⊢
      rcases (drain_serves cfg.tasks cfg.runtime.schedulerBudget).host.state with
        ⟨hstate, -⟩ | ⟨hne, -⟩
      · exact hstate
      · exact absurd hpending' hne
  | heartbeat =>
    obtain ⟨-, -, -, hends⟩ := rtosHeartbeatTaskRunOnce_control K cfg.tasks
    exact hends
  | monitor =>
    obtain ⟨-, -, ⟨hbad, -⟩ | ⟨-, hnew, -⟩ | ⟨-, -, hsame⟩⟩ :=
      rtosErrorMonitorTaskRunOnce_control K cfg.tasks
    · rw [hintact.monitorAccepts] at hbad
      cases hbad
    · exact absurd hepoch hnew
    · exact hsame.state
  | statistics => rfl

/-- Idle tasks that are not normal stay as they are, recover, or become
normal. -/
theorem Tasks.IdlesTo.of_ne_normal (h : t.IdlesTo t' s) (hnot : t.state ≠ .normal) :
    t'.state = t.state ∨ t'.state = .recovery ∨ t'.state = .normal := by
  cases s with
  | retry =>
    simp only [Tasks.IdlesTo] at h
    rw [h]
    split
    · split
      · exact .inr (.inl rfl)
      · exact .inr (.inr rfl)
    · exact .inl rfl
  | recovery | supervision =>
    simp only [Tasks.IdlesTo] at h
    rw [h]
    split
    · exact .inr (.inr rfl)
    · exact .inl rfl
  | heartbeat =>
    rcases h with ⟨-, hstate⟩ | ⟨-, hstate | ⟨hnormal, -⟩⟩
    · exact .inr (.inl hstate)
    · exact .inl hstate
    · exact absurd hnormal hnot
  | preflight | event | scheduler | monitor | statistics => exact .inl h

/-- Idle tasks become normal before the drain or at the end of the
supervision only. -/
theorem Tasks.IdlesTo.becomes_normal (h : t.IdlesTo t' s) (hnot : t.state ≠ .normal)
    (hnormal : t'.state = .normal) : s = .retry ∨ s = .recovery ∨ s = .supervision := by
  cases s with
  | retry => exact .inl rfl
  | recovery => exact .inr (.inl rfl)
  | supervision => exact .inr (.inr rfl)
  | heartbeat =>
    rcases h with ⟨-, hstate⟩ | ⟨-, hstate | ⟨hbefore, -⟩⟩
    · rw [hstate] at hnormal
      cases hnormal
    · exact absurd (hstate.symm.trans hnormal) hnot
    · exact absurd hbefore hnot
  | preflight | event | scheduler | monitor | statistics => exact absurd (h.symm.trans hnormal) hnot

/-- Idle tasks that are normal stay so, but for the heartbeat task. -/
theorem Tasks.IdlesTo.stays_normal (h : t.IdlesTo t' s) (hnormal : t.state = .normal)
    (hs : s ≠ .heartbeat) : t'.state = .normal := by
  cases s with
  | heartbeat => exact absurd rfl hs
  | retry =>
    simp only [Tasks.IdlesTo, hnormal] at h
    exact h
  | recovery | supervision =>
    simp only [Tasks.IdlesTo, hnormal] at h
    exact h
  | preflight | event | scheduler | monitor | statistics => exact h.trans hnormal

/-- No stage touches the recovery flags of tasks that are not recovering. -/
theorem Config.stage_recovery (hP : P.Succeeds) (hintact : Intact cfg.tasks.host.ipc.region)
    (hepoch : cfg.tasks.host.ipc.region.header.linuxEpoch = cfg.tasks.host.lastLinuxEpoch)
    (hstate : cfg.tasks.host.state ≠ .recovery) (s : Stage) :
    (cfg.stage P K s).2.2.host.monitor.recovery = cfg.tasks.host.monitor.recovery := by
  have hrecover : (recoverFirst P K cfg.runtime.recoveryBudget cfg.tasks).2 = cfg.tasks := by
    unfold recoverFirst stateNeedsRecoveryFirst
    simp only [hstate, decide_false, Bool.false_eq_true, if_false]
  cases s with
  | preflight =>
    simp only [Config.stage, preflight_of_epoch hP hintact hepoch]
    rfl
  | retry =>
    simp only [Config.stage]
    unfold retryFirst
    split
    · exact (retry_givesBack cfg.tasks cfg.runtime.recoveryBudget).steady.recovery
    · rfl
  | recovery | supervision => simp only [Config.stage, hrecover]
  | event =>
    simp only [Config.stage]
    unfold drainAllowed
    split
    swap
    · rfl
    rcases rtosIpcEventTaskRunOnce_cases P K cfg.tasks (mapIpcTrigger cfg.trigger) with
      ⟨-, hserves⟩ | ⟨-, t, ht, ⟨-, heq⟩ | ⟨-, heq⟩⟩
    · exact hserves.host.recovery
    · rw [heq]
      exact ht.recovery
    · rw [heq]
      exact (retry_givesBack { cfg.tasks with host := t } 64).steady.recovery.trans ht.recovery
  | scheduler =>
    simp only [Config.stage]
    rcases rtosRouterSchedulerTaskRunOnce_cases P K cfg.tasks cfg.runtime.schedulerBudget with
      ⟨-, heq⟩ | ⟨-, -, heq⟩ | ⟨-, -, heq⟩
    · rw [heq]
      exact (retry_givesBack cfg.tasks cfg.runtime.schedulerBudget).steady.recovery
    · rw [heq]
    · rw [heq]
      exact (drain_serves cfg.tasks cfg.runtime.schedulerBudget).host.recovery
  | heartbeat => exact (rtosHeartbeatTaskRunOnce_control K cfg.tasks).2.1
  | monitor =>
    obtain ⟨-, -, ⟨hbad, -⟩ | ⟨-, hnew, -⟩ | ⟨-, -, hsame⟩⟩ :=
      rtosErrorMonitorTaskRunOnce_control K cfg.tasks
    · rw [hintact.monitorAccepts] at hbad
      cases hbad
    · exact absurd hepoch hnew
    · exact hsame.recovery
  | statistics => rfl

end Rtos

end PutGateway
