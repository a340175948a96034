import PutGateway.Rtos.Supervision
/-!
# The runtime of the RTOS

`rtos_firmware/tasks/rtos_runtime.c`: one call of `rtos_runtime_run_once`
looks at the region header, retries frozen reclaims, recovers, drains and
schedules, and on a periodic call supervises. The blocks of its body are
named here in their order, each with the condition it stands under.
-/

namespace PutGateway

namespace Rtos

/-- `rtos_runtime_trigger_t`. -/
inductive RuntimeTrigger
  | doorbell
  | periodic
  deriving DecidableEq, Repr

/-- `rtos_runtime_context_t`; its `ipc` is the one the tasks work on. -/
structure Runtime where
  tasks : TasksContext
  initialized : Bool
  schedulerBudget : UInt32
  recoveryBudget : UInt32
  runCount : UInt32 := 0
  doorbellRunCount : UInt32 := 0
  periodicRunCount : UInt32 := 0
  mailboxAckFailCount : UInt32 := 0
  lastProcessedCount : UInt32 := 0

/-- `map_ipc_trigger`. -/
def mapIpcTrigger : RuntimeTrigger → IpcEventTrigger
  | .doorbell => .doorbell
  | .periodic => .periodic

/-- `state_needs_reclaim_retry_first`. -/
def stateNeedsReclaimRetryFirst (state : TasksState) : Bool :=
  state = .reclaimBlocked || state = .degradedReclaimFull

/-- `state_needs_recovery_first`. -/
def stateNeedsRecoveryFirst (state : TasksState) : Bool := state = .recovery

/-- `resolve_budget`. -/
def resolveBudget (configuredBudget defaultBudget : UInt32) : UInt32 :=
  if configuredBudget = 0 then defaultBudget else configuredBudget

/-- `rtos_runtime_init`, on the region of an IPC context that was zeroed,
with the budgets of the configuration. -/
def rtosRuntimeInit (region : Region) (ticks : ℕ) (schedulerBudget recoveryBudget : UInt32) :
    Except UnifiedError Runtime :=
  let attached := rtosShmIpcAttach ⟨false, region, 0⟩
  if attached.1 ≠ .ok then .error attached.1
  else
    .ok
      { tasks := rtosTasksContextInit attached.2 ticks
        initialized := true
        schedulerBudget := resolveBudget schedulerBudget 16
        recoveryBudget := resolveBudget recoveryBudget 16 }

/-! ## The preflight -/

/-- `region_needs_preflight`: the result of the synchronisation, whether
the header asks for a preflight, and the context. -/
def regionNeedsPreflight (P : Platform) (c : TasksContext) : UnifiedError × Bool × TasksContext :=
  let synced := c.host.ipc.cacheOp P
  let c := { c with host := { c.host with ipc := synced.2 } }
  if synced.1 ≠ .ok then (synced.1, true, c)
  else
    let header := c.host.ipc.region.header
    if header.magic ≠ putShmRegionMagic || header.version ≠ putShmIpcVersion ||
        header.headerSize ≠ putShmHeaderSize || header.regionSize ≠ putShmRegionSize then
      (.ok, true, c)
    else if header.linuxEpoch ≠ c.host.lastLinuxEpoch then (.ok, true, c)
    else (.ok, false, c)

/-- `preflight_before_rx_drain`: the actions, whether RX may be drained,
and the context. -/
def preflightBeforeRxDrain (P : Platform) (K : Clock) (c : TasksContext) :
    UInt32 × Bool × TasksContext :=
  let needs := regionNeedsPreflight P c
  if needs.1 ≠ .ok then (0, false, needs.2.2)
  else if !needs.2.1 then (0, true, needs.2.2)
  else
    let r := rtosErrorMonitorTaskRunOnce K needs.2.2
    (r.1, true, r.2)

/-! ## The blocks of a call -/

variable (P : Platform) (K : Clock)

/-- Retry frozen reclaims first, in a state that asks for it. -/
def retryFirst (budget : UInt32) (c : TasksContext) : UInt32 × TasksContext :=
  if stateNeedsReclaimRetryFirst c.host.state then
    let r := rtosTasksRetryPendingReclaims P K c.host budget
    (r.1, { c with host := r.2 })
  else (0, c)

/-- Recover, in the state that asks for it. -/
def recoverFirst (budget : UInt32) (c : TasksContext) : UInt32 × TasksContext :=
  if stateNeedsRecoveryFirst c.host.state then rtosRecoveryTaskRunOnce P K c budget else (0, c)

/-- The event task, where the preflight allows it. -/
def drainAllowed (rxDrainAllowed : Bool) (trigger : RuntimeTrigger) (c : TasksContext) :
    UInt32 × TasksContext :=
  if rxDrainAllowed && c.host.state ≠ .reclaimBlocked then
    rtosIpcEventTaskRunOnce P K c (mapIpcTrigger trigger)
  else (0, c)

/-- The supervision at the end of a periodic call. -/
def supervise (budget : UInt32) (trigger : RuntimeTrigger) (c : TasksContext) :
    UInt32 × TasksContext :=
  if trigger = .periodic then
    let heartbeat := rtosHeartbeatTaskRunOnce K c
    let monitor := rtosErrorMonitorTaskRunOnce K heartbeat.2
    let recovery := recoverFirst P K budget monitor.2
    (heartbeat.1 + monitor.1 + recovery.1, recovery.2)
  else (0, c)

/-- Count a call, with what `rtos_mailbox_isr_acknowledge` returned. -/
def Runtime.countRun (runtime : Runtime) (trigger : RuntimeTrigger) (ackResult : UnifiedError) :
    Runtime :=
  if trigger = .doorbell then
    { runtime with
      runCount := runtime.runCount + 1
      doorbellRunCount := runtime.doorbellRunCount + 1
      mailboxAckFailCount :=
        if ackResult ≠ .ok then runtime.mailboxAckFailCount + 1 else runtime.mailboxAckFailCount }
  else
    { runtime with
      runCount := runtime.runCount + 1
      periodicRunCount := runtime.periodicRunCount + 1 }

/-- `rtos_runtime_run_once`. -/
def rtosRuntimeRunOnce (runtime : Runtime) (trigger : RuntimeTrigger) (ackResult : UnifiedError) :
    UInt32 × Runtime :=
  if !runtime.initialized then (0, runtime)
  else
    let runtime := runtime.countRun trigger ackResult
    let preflight := preflightBeforeRxDrain P K runtime.tasks
    let retried := retryFirst P K runtime.recoveryBudget preflight.2.2
    let recovered := recoverFirst P K runtime.recoveryBudget retried.2
    let drained := drainAllowed P K preflight.2.1 trigger recovered.2
    let scheduled := rtosRouterSchedulerTaskRunOnce P K drained.2 runtime.schedulerBudget
    let supervised := supervise P K runtime.recoveryBudget trigger scheduled.2
    let processed :=
      preflight.1 + retried.1 + recovered.1 + drained.1 + scheduled.1 + supervised.1
    (processed,
      { runtime with
        tasks := (rtosStatisticsTaskRunOnce supervised.2).2
        lastProcessedCount := processed })

end Rtos

end PutGateway
