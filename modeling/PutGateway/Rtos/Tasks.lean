import PutGateway.Rtos.RouterAdapter
import PutGateway.Rtos.Monitor
/-!
# The tasks of the RTOS

`rtos_firmware/tasks/rtos_tasks.c`, first half: the context the tasks
share, the sinks the router calls back into it, the drain of the RX
rings, the scheduler and the retry of frozen reclaims.

For each frame the RTOS has taken off an RX ring and not given back, the
context holds a reference with the descriptor it came with. A reclaim
that meets a full reclaim ring is frozen in `pendingReclaims` and retried
before anything else is drained or scheduled.
-/

namespace PutGateway

namespace Rtos

/-! ## The context -/

/-- `rtos_tasks_state_t`, less the states of the boot sequence, which
these functions neither set nor read. -/
inductive TasksState
  | normal
  | degraded
  | degradedReclaimFull
  | reclaimBlocked
  | recovery
  deriving DecidableEq, Repr

/-- `rtos_ipc_event_trigger_t`. -/
inductive IpcEventTrigger
  | doorbell
  | periodic
  deriving DecidableEq, Repr

/-- `rtos_tasks_frame_reference_t`. -/
structure FrameReference where
  inUse : Bool := false
  descriptor : Descriptor := {}

/-- `rtos_tasks_statistics_t`. -/
structure TasksStatistics where
  rxPendingSnapshotCount : UInt32 := 0
  rxDrainCount : UInt32 := 0
  rxDescriptorCount : UInt32 := 0
  rxDequeueErrorCount : UInt32 := 0
  invalidDescriptorNoReclaimCount : UInt32 := 0
  adapterErrorCount : UInt32 := 0
  routeSubmitCount : UInt32 := 0
  txEnqueueCount : UInt32 := 0
  reclaimEnqueueCount : UInt32 := 0
  reclaimFullCount : UInt32 := 0
  pendingReclaimRetryCount : UInt32 := 0
  blockedRxDrainCount : UInt32 := 0
  pendingReclaimCount : UInt32 := 0
  reclaimBlockedCount : UInt32 := 0
  recoveryCount : UInt32 := 0
  monitorStatistics : MonitorStatistics := {}

/-- History variables, which the source does not have and no function
reads. -/
structure TasksHistory where
  /-- How often `store_pending_reclaim` has returned `RECLAIM_FULL`. -/
  reclaimFulls : ℕ := 0
  /-- How often `reclaim_orphan_frame_references` has found an orphan. -/
  orphans : ℕ := 0

/-- `rtos_tasks_context_t` without its router: what the sinks work on.
`ticks` is the number of times the time source has been read, and the
array `pending_reclaims[0 .. count)` is a list. -/
structure Tasks where
  ipc : RtosShm
  state : TasksState := .normal
  statistics : TasksStatistics := {}
  frameReferences : Fin 64 → FrameReference := fun _ => {}
  pendingReclaims : List RouteOutput := []
  ticks : ℕ := 0
  monitor : MonitorContext := {}
  lastLinuxEpoch : UInt32 := 0
  rxBacklogSinceMs : Fin 6 → UInt32 := fun _ => 0
  txFullSinceMs : Fin 6 → UInt32 := fun _ => 0
  rxPendingSinceMs : UInt32 := 0
  txPendingSinceMs : UInt32 := 0
  reclaimPendingSinceMs : UInt32 := 0
  reclaimBlockedSinceMs : UInt32 := 0
  history : TasksHistory := {}

/-- `rtos_tasks_context_t`: the router, hosted by the rest. -/
abbrev TasksContext := Hosted Tasks

/-- `RTOS_FIRMWARE_PENDING_RECLAIM_CAPACITY`. -/
def pendingReclaimCapacity : ℕ := 64

/-- `tasks_now`. -/
def tasksNow (K : Clock) (t : Tasks) : UInt32 × Tasks := (K t.ticks, { t with ticks := t.ticks + 1 })

/-! ## References and frozen reclaims -/

/-- `register_frame_reference`. -/
def registerFrameReference (t : Tasks) (descriptor : Descriptor) : UnifiedError × Tasks :=
  match frameIndex? descriptor.frameId with
  | none => (.invalidArg, t)
  | some f =>
    if (t.frameReferences f).inUse then (.invalidArg, t)
    else
      (.ok,
        { t with
          frameReferences := Function.update t.frameReferences f
            { inUse := true, descriptor := descriptor } })

/-- `clear_frame_reference`. -/
def clearFrameReference (t : Tasks) (frameId : UInt32) : Tasks :=
  match frameIndex? frameId with
  | none => t
  | some f => { t with frameReferences := Function.update t.frameReferences f {} }

/-- `pending_reclaim_exists`. -/
def pendingReclaimExists (t : Tasks) (frameId : UInt32) : Bool :=
  t.pendingReclaims.any fun o => o.frameId == frameId

def TasksHistory.countReclaimFull (h : TasksHistory) : TasksHistory :=
  { h with reclaimFulls := h.reclaimFulls + 1 }

def TasksHistory.countOrphan (h : TasksHistory) : TasksHistory := { h with orphans := h.orphans + 1 }

/-- The state a reclaim that cannot be written leads to. -/
def blockedState (state : TasksState) : TasksState :=
  if state = .recovery then .reclaimBlocked else .degradedReclaimFull

/-- Count a blocked reclaim and record the error. -/
def recordReclaimBlocked (K : Clock) (t : Tasks) : Tasks :=
  let now := tasksNow K t
  { now.2 with
    statistics := { now.2.statistics with
      reclaimBlockedCount := now.2.statistics.reclaimBlockedCount + 1 }
    monitor := rtosMonitorRecordError now.2.monitor .reclaimBlocked now.1 }

/-- `store_pending_reclaim`. -/
def storePendingReclaim (K : Clock) (t : Tasks) (output : RouteOutput) : UnifiedError × Tasks :=
  if pendingReclaimExists t output.frameId then (.ok, { t with state := blockedState t.state })
  else if t.pendingReclaims.length ≥ pendingReclaimCapacity then
    (.ipcReclaimFull,
      recordReclaimBlocked K
        { t with state := blockedState t.state, history := t.history.countReclaimFull })
  else
    let stored := t.pendingReclaims ++ [output]
    (.ok,
      recordReclaimBlocked K
        { t with
          state := blockedState t.state
          pendingReclaims := stored
          statistics := { t.statistics with pendingReclaimCount := UInt32.ofNat stored.length } })

/-- `remove_pending_reclaim` of the first entry. -/
def removePendingReclaim (t : Tasks) : Tasks :=
  { t with
    pendingReclaims := t.pendingReclaims.tail
    statistics := { t.statistics with
      pendingReclaimCount := UInt32.ofNat t.pendingReclaims.tail.length } }

/-! ## The sinks -/

/-- `fill_tx_descriptor`. -/
def fillTxDescriptor (source : Descriptor) (output : RouteOutput) : Descriptor :=
  { frameId := output.frameId
    frameOffset := source.frameOffset
    frameLength := source.frameLength
    sourceInterface := output.sourceInterface.toUInt8
    targetInterface := output.targetInterface.toUInt8
    sourceCid := output.sourceCid
    destinationCid := output.destinationCid
    type := output.type
    priority := output.priority
    ttl := source.ttl
    epoch := output.epoch
    flags := output.flags }

/-- `rtos_tasks_tx_sink`. -/
def rtosTasksTxSink (P : Platform) (output : RouteOutput) (t : Tasks) : UnifiedError × Tasks :=
  if output.kind ≠ .tx then (.invalidArg, t)
  else match frameIndex? output.frameId with
    | none => (.invalidArg, t)
    | some f =>
      if !(t.frameReferences f).inUse then (.invalidArg, t)
      else
        let r := rtosShmIpcEnqueueTxDescriptor P t.ipc output.targetInterface
          (fillTxDescriptor (t.frameReferences f).descriptor output)
        let t := { t with ipc := r.2 }
        if r.1 = .ok then
          (.ok, clearFrameReference
            { t with
              statistics := { t.statistics with txEnqueueCount := t.statistics.txEnqueueCount + 1 }
              monitor := rtosMonitorRecordLatency t.monitor output.priority output.latencyMs }
            output.frameId)
        else (r.1, t)

/-- A reclaim output with the metadata of the RX descriptor. -/
def withRxMetadata (output : RouteOutput) (descriptor : Descriptor) : RouteOutput :=
  { output with
    sourceInterface := descriptor.sourceInterface.toUInt32
    targetInterface := descriptor.targetInterface.toUInt32
    epoch := descriptor.epoch
    flags := descriptor.flags }

/-- Write a reclaim output to the reclaim ring. -/
def reclaimFrame (P : Platform) (t : Tasks) (output : RouteOutput) : UnifiedError × Tasks :=
  let r := rtosShmIpcReclaimFrame P t.ipc output.frameId output.reclaimReason
    output.sourceInterface output.targetInterface output.epoch output.flags
  (r.1, { t with ipc := r.2 })

/-- `rtos_tasks_reclaim_sink`. -/
def rtosTasksReclaimSink (P : Platform) (K : Clock) (output : RouteOutput) (t : Tasks) :
    UnifiedError × Tasks :=
  if output.kind ≠ .reclaim then (.invalidArg, t)
  else match frameIndex? output.frameId with
    | none => (.invalidArg, t)
    | some f =>
      if !(t.frameReferences f).inUse then (.invalidArg, t)
      else
        let reclaimOutput := withRxMetadata output (t.frameReferences f).descriptor
        let r := reclaimFrame P t reclaimOutput
        let t := r.2
        if r.1 = .ok then
          (.ok, clearFrameReference
            { t with
              statistics := { t.statistics with
                reclaimEnqueueCount := t.statistics.reclaimEnqueueCount + 1 } }
            output.frameId)
        else if r.1 = .ipcQueueFull then
          storePendingReclaim K
            { t with
              statistics := { t.statistics with
                reclaimFullCount := t.statistics.reclaimFullCount + 1 } }
            reclaimOutput
        else (r.1, t)

/-- The callbacks `rtos_tasks_context_init` gives to the router. -/
def tasksSinks (P : Platform) (K : Clock) : RouterSinks Tasks where
  txSink := some (rtosTasksTxSink P)
  reclaimSink := some (rtosTasksReclaimSink P K)
  now := tasksNow K

/-- `rtos_tasks_context_init`. -/
def rtosTasksContextInit (ipc : RtosShm) (ticks : ℕ) : TasksContext :=
  let linuxEpoch := if ipc.initialized then ipc.region.header.linuxEpoch else 1
  { router := rtosRouterSetLinuxEpoch rtosRouterInit linuxEpoch
    host :=
      { ipc := ipc
        ticks := ticks
        lastLinuxEpoch := linuxEpoch
        monitor := { recovery := { recoveryEpoch := linuxEpoch } } } }

/-! ## Draining the RX rings -/

def Tasks.countDequeueError (t : Tasks) : Tasks :=
  { t with
    statistics := { t.statistics with
      rxDequeueErrorCount := t.statistics.rxDequeueErrorCount + 1
      invalidDescriptorNoReclaimCount := t.statistics.invalidDescriptorNoReclaimCount + 1 } }

def Tasks.countRxDescriptor (t : Tasks) : Tasks :=
  { t with
    statistics := { t.statistics with rxDescriptorCount := t.statistics.rxDescriptorCount + 1 } }

def Tasks.countInvalidDescriptor (t : Tasks) : Tasks :=
  { t with
    statistics := { t.statistics with
      invalidDescriptorNoReclaimCount := t.statistics.invalidDescriptorNoReclaimCount + 1 } }

def Tasks.countAdapterError (t : Tasks) : Tasks :=
  { t with
    statistics := { t.statistics with adapterErrorCount := t.statistics.adapterErrorCount + 1 } }

def Tasks.countRouteSubmit (t : Tasks) : Tasks :=
  { t with
    statistics := { t.statistics with routeSubmitCount := t.statistics.routeSubmitCount + 1 } }

/-- One descriptor of `drain_rx_interface`, once it has been dequeued.
Whether the loop goes on, and the context. -/
def receiveDescriptor (P : Platform) (K : Clock) (c : TasksContext) (descriptor : Descriptor) :
    Bool × TasksContext :=
  let r := registerFrameReference c.host.countRxDescriptor descriptor
  if r.1 ≠ .ok then (true, { c with host := r.2.countInvalidDescriptor })
  else
    let now := tasksNow K r.2
    let a := rtosRouterAdapterDescriptorToInput P now.2.ipc descriptor now.1
    let t := { now.2 with ipc := a.2.2 }
    match a.2.1 with
    | none =>
      -- the reference is cleared and nothing is written to the reclaim ring
      (true, { c with host := clearFrameReference t.countAdapterError descriptor.frameId })
    | some input =>
      let r := rtosRouterSubmit (tasksSinks P K) { c with host := t } input
      if r.1 ≠ .ok then (false, r.2)
      else (true, { r.2 with host := r.2.host.countRouteSubmit })

/-- The loop of `drain_rx_interface`, with the budget left. -/
def drainRxLoop (P : Platform) (K : Clock) (interfaceId : PutShmInterface) :
    ℕ → UInt32 → TasksContext → UInt32 × TasksContext
  | 0, processed, c => (processed, c)
  | budget + 1, processed, c =>
    if c.host.state ≠ .normal then (processed, c)
    else
      let r := rtosShmIpcDequeueRxDescriptor P c.host.ipc interfaceId
      let c := { c with host := { c.host with ipc := r.2.2 } }
      if r.1 = .ipcQueueEmpty then (processed, c)
      else if r.1 ≠ .ok then
        drainRxLoop P K interfaceId budget (processed + 1) { c with host := c.host.countDequeueError }
      else match r.2.1 with
        | none => (processed, c)
        | some descriptor =>
          let r := receiveDescriptor P K c descriptor
          if r.1 then drainRxLoop P K interfaceId budget (processed + 1) r.2
          else (processed + 1, r.2)

/-- `drain_rx_interface`. -/
def drainRxInterface (P : Platform) (K : Clock) (c : TasksContext) (interfaceId : PutShmInterface)
    (budget : UInt32) : UInt32 × TasksContext :=
  let r := drainRxLoop P K interfaceId budget.toNat 0 c
  (r.1,
    { r.2 with
      host := { r.2.host with
        statistics := { r.2.host.statistics with
          rxDrainCount := r.2.host.statistics.rxDrainCount + r.1 } } })

/-! ## Retrying frozen reclaims -/

/-- The state in which a retry that meets a full ring leaves the tasks. -/
def retryBlockedState (state : TasksState) : TasksState :=
  if state = .recovery || state = .reclaimBlocked then .reclaimBlocked else .degradedReclaimFull

/-- The loop of `rtos_tasks_retry_pending_reclaims`, with the budget
left. -/
def retryLoop (P : Platform) (K : Clock) : ℕ → UInt32 → Tasks → UInt32 × Tasks
  | 0, written, t => (written, t)
  | budget + 1, written, t =>
    match t.pendingReclaims with
    | [] => (written, t)
    | output :: _ =>
      let r := reclaimFrame P t output
      let t := r.2
      if r.1 = .ipcQueueFull then
        (written, recordReclaimBlocked K { t with state := retryBlockedState t.state })
      else if r.1 ≠ .ok then (written, t)
      else
        let t := removePendingReclaim (clearFrameReference t output.frameId)
        retryLoop P K budget (written + 1)
          { t with
            statistics := { t.statistics with
              reclaimEnqueueCount := t.statistics.reclaimEnqueueCount + 1
              pendingReclaimRetryCount := t.statistics.pendingReclaimRetryCount + 1 } }

/-- `rtos_tasks_retry_pending_reclaims`. -/
def rtosTasksRetryPendingReclaims (P : Platform) (K : Clock) (t : Tasks) (budget : UInt32) :
    UInt32 × Tasks :=
  let r := retryLoop P K budget.toNat 0 t
  let t := r.2
  if t.pendingReclaims = [] then
    (r.1,
      { t with
        monitor := rtosMonitorClearError t.monitor .reclaimBlocked
        state :=
          if t.monitor.recovery.recoveryPending || t.monitor.recovery.recoveryActive then .recovery
          else .normal })
  else r

/-! ## The event and scheduler tasks -/

/-- The interface loop of `rtos_ipc_event_task_run_once`. -/
def eventLoop (P : Platform) (K : Clock) (trigger : IpcEventTrigger) (pendingBits : UInt32) :
    List (Fin 6) → UInt32 → TasksContext → UInt32 × TasksContext
  | [], processed, c => (processed, c)
  | i :: rest, processed, c =>
    let remaining := 64 - processed
    if remaining = 0 then (processed, c)
    else if trigger = .doorbell && pendingBits &&& (1 <<< UInt32.ofNat i) = 0 then
      eventLoop P K trigger pendingBits rest processed c
    else
      let r := drainRxInterface P K c (interfaceOfIndex i) (if 8 > remaining then remaining else 8)
      if r.2.host.state ≠ .normal then (processed + r.1, r.2)
      else eventLoop P K trigger pendingBits rest (processed + r.1) r.2

def Tasks.countDoorbell (t : Tasks) : Tasks :=
  { t with
    monitor := { t.monitor with
      statistics := { t.monitor.statistics with
        doorbellRxCount := t.monitor.statistics.doorbellRxCount + 1 } } }

def Tasks.countBlockedDrain (t : Tasks) : Tasks :=
  { t with
    statistics := { t.statistics with blockedRxDrainCount := t.statistics.blockedRxDrainCount + 1 } }

def Tasks.countPendingSnapshot (t : Tasks) : Tasks :=
  { t with
    statistics := { t.statistics with
      rxPendingSnapshotCount := t.statistics.rxPendingSnapshotCount + 1 } }

/-- `rtos_ipc_event_task_run_once`. -/
def rtosIpcEventTaskRunOnce (P : Platform) (K : Clock) (c : TasksContext)
    (trigger : IpcEventTrigger) : UInt32 × TasksContext :=
  let c := if trigger = .doorbell then { c with host := c.host.countDoorbell } else c
  if c.host.state ≠ .normal then
    let t := c.host.countBlockedDrain
    if t.pendingReclaims ≠ [] then
      let r := rtosTasksRetryPendingReclaims P K t 64
      (r.1, { c with host := r.2 })
    else (0, { c with host := t })
  else if trigger = .doorbell then
    match rtosShmIpcGetRxPendingSnapshot P c.host.ipc with
    | (_, none, ipc) => (0, { c with host := { c.host with ipc := ipc } })
    | (_, some bits, ipc) =>
      eventLoop P K trigger bits (List.finRange 6) 0
        { c with host := { c.host with ipc := ipc }.countPendingSnapshot }
  else eventLoop P K trigger 0 (List.finRange 6) 0 c

/-- `rtos_router_scheduler_task_run_once`. -/
def rtosRouterSchedulerTaskRunOnce (P : Platform) (K : Clock) (c : TasksContext) (budget : UInt32) :
    UInt32 × TasksContext :=
  if c.host.pendingReclaims ≠ [] then
    let r := rtosTasksRetryPendingReclaims P K c.host budget
    (r.1, { c with host := r.2 })
  else if c.host.state ≠ .normal then (0, c)
  else rtosRouterDrain (tasksSinks P K) c budget

end Rtos

end PutGateway
