import PutGateway.Rtos.Tasks
/-!
# Supervision and recovery

`rtos_firmware/tasks/rtos_tasks.c`, second half: the heartbeat, error
monitor, recovery and statistics tasks. The error monitor notices a
damaged region or a new Linux epoch and asks for recovery; recovery gives
every frame the RTOS holds back through the reclaim ring, attaches again
and takes the epoch over.
-/

namespace PutGateway

namespace Rtos

/-! ## Statistics -/

/-- The sum of a counter over the TX rings, starting from the reclaim
ring's. -/
def sumTxRings (region : Region) (count : RingProducer → UInt32) (start : UInt32) : UInt32 :=
  (List.finRange 6).foldl (fun acc i => acc + count (region.txRings i).producer) start

/-- `rtos_statistics_task_run_once`. -/
def rtosStatisticsTaskRunOnce (c : TasksContext) : UInt32 × TasksContext :=
  let t := c.host
  let router := c.router.statistics
  let endpoint := c.router.endpointHeartbeat.statistics
  let region := t.ipc.region
  let statistics : MonitorStatistics :=
    { t.monitor.statistics with
      snapshotSequence := t.monitor.statistics.snapshotSequence + 1
      rxRingDrainCount := t.statistics.rxDrainCount
      txRingWriteCount := t.statistics.txEnqueueCount
      routeSuccessCount := router.routedCount
      routeMissCount := router.dropReasonCount .noRoute
      ttlDropCount := router.dropReasonCount .ttlExpired
      epochDropCount := router.dropReasonCount .epochMismatch
      reclaimRingFullCount := t.statistics.reclaimFullCount
      reclaimBlockedCount := t.statistics.reclaimBlockedCount
      pendingReclaimRetryCount := t.statistics.pendingReclaimRetryCount
      authFailedDropCount := router.authFailedCount
      integrityFailedDropCount := router.integrityFailedCount
      replayDropCount := router.replayDroppedCount
      invalidDescriptorCount := t.statistics.rxDequeueErrorCount
      invalidDescriptorNoReclaimCount := t.statistics.invalidDescriptorNoReclaimCount
      invalidAnymsgCount := router.invalidHeaderCount + router.invalidTypeCount
      endpointHbRxCount := endpoint.rxCount
      endpointHbInvalidCount := endpoint.invalidCount
      endpointHbTimeoutCount := endpoint.timeoutCount
      endpointHbRecoverCount := endpoint.recoverCount
      endpointHbTableFullCount := endpoint.tableFullCount
      dropReasonCount := router.dropReasonCount
      routedByInterface := router.routedByInterface
      routedByPriority := router.routedByPriority
      doorbellTxCount :=
        sumTxRings region RingProducer.notifyCount region.reclaimRing.producer.notifyCount
      mailboxFailCount :=
        sumTxRings region RingProducer.notifyFailCount region.reclaimRing.producer.notifyFailCount
      txRingFullCount := sumTxRings region RingProducer.dropCount 0 }
  (statistics.snapshotSequence,
    { c with
      host := { t with
        monitor := { t.monitor with statistics := statistics }
        statistics := { t.statistics with monitorStatistics := statistics } } })

/-! ## Heartbeats -/

/-- `rtos_tasks_observe_linux_heartbeat`. -/
def rtosTasksObserveLinuxHeartbeat (K : Clock) (t : Tasks) (linuxHeartbeatSeq : UInt32) : Tasks :=
  let now := tasksNow K t
  { now.2 with
    monitor := rtosMonitorObserveLinuxHeartbeat now.2.monitor linuxHeartbeatSeq now.1 }

/-- `rtos_heartbeat_task_run_once`. -/
def rtosHeartbeatTaskRunOnce (K : Clock) (c : TasksContext) : UInt32 × TasksContext :=
  let now := tasksNow K c.host
  let nowMs := now.1
  let polled := rtosMonitorPollLinuxHeartbeat (rtosMonitorTickRtosHeartbeat now.2.monitor) nowMs
  let scanned := rtosEndpointHeartbeatScanTimeouts c.router.endpointHeartbeat nowMs
  let monitor :=
    if scanned.1 > 0 then rtosMonitorRecordError polled.2 .endpointHeartbeat nowMs else polled.2
  let t := { now.2 with monitor := monitor }
  let degrade := polled.1 = .globalDegraded && t.state = .normal
  let t := if degrade then { t with state := .degraded } else t
  let actions := if degrade then scanned.1 + 1 else scanned.1
  let c : TasksContext := { router := { c.router with endpointHeartbeat := scanned.2 }, host := t }
  if t.monitor.recovery.recoveryPending then
    (actions + 1, { c with host := { t with state := .recovery } })
  else (actions, c)

/-! ## The error monitor -/

/-- `shm_region_header_is_valid`. -/
def shmRegionHeaderIsValid (region : Region) : Bool :=
  region.header.magic == putShmRegionMagic && region.header.version == putShmIpcVersion &&
    region.header.headerSize == putShmHeaderSize && region.header.regionSize == putShmRegionSize

/-- `descriptor_ring_header_is_valid`. -/
def descriptorRingHeaderIsValid (ring : DescriptorRing) (kind : RingKind) (interfaceId : UInt8)
    (direction : Direction) : Bool :=
  ring.header.magic == putShmRingMagic && ring.header.version == putShmIpcVersion &&
    ring.header.depth == putShmDescriptorRingDepth &&
    ring.header.descriptorSize == putShmDescriptorSize &&
    ring.header.interfaceId == interfaceId && ring.header.ringKind == kind.code &&
    ring.header.direction == direction.code

/-- `reclaim_ring_header_is_valid`. -/
def reclaimRingHeaderIsValid (ring : ReclaimRing) : Bool :=
  ring.header.magic == putShmRingMagic && ring.header.version == putShmIpcVersion &&
    ring.header.depth == putShmDescriptorRingDepth &&
    ring.header.descriptorSize == putShmDescriptorSize &&
    ring.header.ringKind == RingKind.reclaim.code

/-- `shm_ring_headers_are_valid`. -/
def shmRingHeadersAreValid (region : Region) : Bool :=
  ((List.finRange 6).all fun i =>
    descriptorRingHeaderIsValid (region.rxRings i) .rx (UInt8.ofNat i) .linuxToRtos &&
      descriptorRingHeaderIsValid (region.txRings i) .tx (UInt8.ofNat i) .rtosToLinux) &&
    reclaimRingHeaderIsValid region.reclaimRing

/-- `update_stuck_monitor`: whether the condition has lasted, its new
timestamp and the monitor. -/
def updateStuckMonitor (monitor : MonitorContext) (active : Bool) (sinceMs : UInt32)
    (reason : MonitorError) (nowMs : UInt32) : Bool × UInt32 × MonitorContext :=
  if !active then (false, 0, monitor)
  else
    let since := if sinceMs = 0 then nowMs else sinceMs
    if nowMs - since ≥ 300 then (true, since, rtosMonitorRecordError monitor reason nowMs)
    else (false, since, monitor)

/-- The interface loop of `rtos_error_monitor_task_run_once`: whether an
RX backlog or a full TX ring has lasted. -/
def watchRings (nowMs : UInt32) : List (Fin 6) → Bool × Bool → Tasks → (Bool × Bool) × Tasks
  | [], stuck, t => (stuck, t)
  | i :: rest, stuck, t =>
    let rx := updateStuckMonitor t.monitor ((t.ipc.region.rxRings i).used > 0)
      (t.rxBacklogSinceMs i) .rxBacklog nowMs
    let tx := updateStuckMonitor rx.2.2 ((t.ipc.region.txRings i).used ≥ 8)
      (t.txFullSinceMs i) .txRingFull nowMs
    watchRings nowMs rest (stuck.1 || rx.1, stuck.2 || tx.1)
      { t with
        monitor := tx.2.2
        rxBacklogSinceMs := Function.update t.rxBacklogSinceMs i rx.2.1
        txFullSinceMs := Function.update t.txFullSinceMs i tx.2.1 }

/-- The three pending words, looked at in turn until one has lasted: the
`||` of the source stops there. -/
def watchPending (nowMs : UInt32) (t : Tasks) : Bool × Tasks :=
  let rx := updateStuckMonitor t.monitor (t.ipc.region.rxPendingBitmap.bits != 0)
    t.rxPendingSinceMs .pendingStuck nowMs
  let t := { t with monitor := rx.2.2, rxPendingSinceMs := rx.2.1 }
  if rx.1 then (true, t)
  else
    let tx := updateStuckMonitor t.monitor (t.ipc.region.txPendingBitmap.bits != 0)
      t.txPendingSinceMs .pendingStuck nowMs
    let t := { t with monitor := tx.2.2, txPendingSinceMs := tx.2.1 }
    if tx.1 then (true, t)
    else
      let reclaim := updateStuckMonitor t.monitor (t.ipc.region.reclaimPending.bits != 0)
        t.reclaimPendingSinceMs .pendingStuck nowMs
      (reclaim.1, { t with monitor := reclaim.2.2, reclaimPendingSinceMs := reclaim.2.1 })

/-- A damaged region: record it, ask for recovery, degrade. -/
def reportShmFormat (t : Tasks) (trigger : RecoveryTrigger) (nowMs : UInt32) : Tasks :=
  { t with
    monitor := rtosMonitorMarkRecoveryPending (rtosMonitorRecordError t.monitor .shmFormat nowMs)
      trigger
    state := .degraded }

/-- The epoch check: a new Linux epoch asks for recovery. -/
def noticeEpoch (t : Tasks) : Bool × Tasks :=
  let t := { t with monitor := rtosMonitorClearError t.monitor .shmFormat }
  if t.ipc.region.header.linuxEpoch ≠ t.lastLinuxEpoch then
    (true,
      { t with
        lastLinuxEpoch := t.ipc.region.header.linuxEpoch
        monitor := rtosMonitorMarkRecoveryPending t.monitor .linuxEpoch
        state := .recovery })
  else (false, t)

/-- The stuck checks of the error monitor, and the errors they clear. -/
def watchStuck (nowMs : UInt32) (t : Tasks) : Tasks :=
  let rings := watchRings nowMs (List.finRange 6) (false, false) t
  let pending := watchPending nowMs rings.2
  let t := pending.2
  let reclaim := updateStuckMonitor t.monitor
    (t.pendingReclaims != [] || t.ipc.region.reclaimRing.used ≥ 8) t.reclaimBlockedSinceMs
    .reclaimBlocked nowMs
  let t := { t with monitor := reclaim.2.2, reclaimBlockedSinceMs := reclaim.2.1 }
  let monitor := if rings.1.1 then t.monitor else rtosMonitorClearError t.monitor .rxBacklog
  let monitor := if rings.1.2 then monitor else rtosMonitorClearError monitor .txRingFull
  let monitor := if pending.1 then monitor else rtosMonitorClearError monitor .pendingStuck
  let monitor :=
    if !reclaim.1 && t.pendingReclaims == [] then rtosMonitorClearError monitor .reclaimBlocked
    else monitor
  { t with monitor := monitor }

/-- The counters the error monitor turns into errors. -/
def watchCounters (nowMs : UInt32) (c : TasksContext) : TasksContext :=
  let region := c.host.ipc.region
  let notifyFails :=
    sumTxRings region RingProducer.notifyFailCount region.reclaimRing.producer.notifyFailCount
  let monitor :=
    if notifyFails > 0 then rtosMonitorRecordError c.host.monitor .mailboxNotify nowMs
    else c.host.monitor
  let drops := c.router.statistics.dropReasonCount
  let monitor :=
    if drops .ttlExpired > 0 || drops .epochMismatch > 0 || drops .noRoute > 0 then
      rtosMonitorRecordError monitor .routeDrops nowMs
    else monitor
  { c with host := { c.host with monitor := monitor } }

/-- `rtos_error_monitor_task_run_once`. -/
def rtosErrorMonitorTaskRunOnce (K : Clock) (c : TasksContext) : UInt32 × TasksContext :=
  let now := tasksNow K c.host
  let nowMs := now.1
  let t := now.2
  if !shmRegionHeaderIsValid t.ipc.region then
    (1, { c with host := reportShmFormat t .shmRebuilt nowMs })
  else if !shmRingHeadersAreValid t.ipc.region then
    (1, { c with host := reportShmFormat t .ringDescriptor nowMs })
  else
    let epoch := noticeEpoch t
    let errors : UInt32 := if epoch.1 then 1 else 0
    let c := watchCounters nowMs { c with host := watchStuck nowMs epoch.2 }
    let c := (rtosStatisticsTaskRunOnce c).2
    (errors + if c.host.monitor.errorState.errorBits != 0 then 1 else 0, c)

/-! ## Recovery -/

/-- `unclaimed_frame_reference_exists`. -/
def unclaimedFrameReferenceExists (t : Tasks) : Bool :=
  (List.finRange 64).any fun f =>
    (t.frameReferences f).inUse && !pendingReclaimExists t (frameIdOfIndex f)

/-- The output `reclaim_orphan_frame_references` builds. -/
def orphanOutput (f : Fin 64) (descriptor : Descriptor) : RouteOutput :=
  { kind := .reclaim
    frameId := frameIdOfIndex f
    sourceInterface := descriptor.sourceInterface.toUInt32
    targetInterface := descriptor.targetInterface.toUInt32
    sourceCid := descriptor.sourceCid
    destinationCid := descriptor.destinationCid
    type := descriptor.type
    priority := descriptor.priority
    epoch := descriptor.epoch
    flags := descriptor.flags
    reclaimReason := .queueFull }

/-- The loop of `reclaim_orphan_frame_references`, over the frames left. -/
def orphanLoop (P : Platform) (K : Clock) (budget : UInt32) :
    List (Fin 64) → UInt32 → Tasks → UInt32 × Tasks
  | [], reclaimed, t => (reclaimed, t)
  | f :: rest, reclaimed, t =>
    if reclaimed ≥ budget then (reclaimed, t)
    else if !(t.frameReferences f).inUse || pendingReclaimExists t (frameIdOfIndex f) then
      orphanLoop P K budget rest reclaimed t
    else
      let t := { t with history := t.history.countOrphan }
      let r := rtosTasksReclaimSink P K (orphanOutput f (t.frameReferences f).descriptor) t
      if r.1 ≠ .ok then (reclaimed, r.2) else orphanLoop P K budget rest (reclaimed + 1) r.2

/-- `reclaim_orphan_frame_references`. -/
def reclaimOrphanFrameReferences (P : Platform) (K : Clock) (t : Tasks) (budget : UInt32) :
    UInt32 × Tasks :=
  orphanLoop P K budget (List.finRange 64) 0 t

/-- The budget left after a stage of the recovery. -/
def budgetLeft (processed budget : UInt32) :
    UInt32 := if processed ≥ budget then 0 else budget - processed

/-- The three stages of `rtos_recovery_task_run_once` that give frames
back: frozen reclaims, queued items, orphans. -/
def recoverFrames (P : Platform) (K : Clock) (c : TasksContext) (budget : UInt32) :
    UInt32 × TasksContext :=
  let retried : UInt32 × TasksContext :=
    if budget > 0 && c.host.pendingReclaims != [] then
      let r := rtosTasksRetryPendingReclaims P K c.host budget
      (r.1, { c with host := r.2 })
    else (0, c)
  let remaining :=
    if budget > 0 && c.host.pendingReclaims != [] then budgetLeft retried.1 budget else budget
  let c := retried.2
  let queued : UInt32 × TasksContext :=
    if remaining > 0 && c.host.pendingReclaims == [] then
      let r := rtosRouterReclaimQueued (tasksSinks P K) c .queueFull remaining
      (retried.1 + r.1, r.2)
    else (retried.1, c)
  let remaining :=
    if remaining > 0 && c.host.pendingReclaims == [] then budgetLeft queued.1 budget else remaining
  let c := queued.2
  if remaining > 0 && rtosRouterGetQueuedCount c.router = 0 && c.host.pendingReclaims == [] then
    let r := reclaimOrphanFrameReferences P K c.host remaining
    (queued.1 + r.1, { c with host := r.2 })
  else (queued.1, c)

/-- The end of a recovery that has given every frame back: attach again
and take over the epoch of the region. -/
def finishRecovery (K : Clock) (c : TasksContext) : TasksContext :=
  let attached := rtosShmIpcAttach c.host.ipc
  if attached.1 ≠ .ok then
    let now := tasksNow K { c.host with ipc := attached.2 }
    { c with
      host := { now.2 with
        monitor := rtosMonitorRecordError now.2.monitor .shmFormat now.1
        state := .degraded } }
  else
    let epoch := attached.2.region.header.linuxEpoch
    let t := { c.host with ipc := attached.2, lastLinuxEpoch := epoch }
    let monitor := { t.monitor with recovery := { t.monitor.recovery with recoveryEpoch := epoch } }
    let router := rtosRouterSetLinuxEpoch c.router epoch
    let router :=
      if router.routeTable.valid then router
      else (rtosRouterSetRouteTable router rtosRouterRouteTableDefault).2
    let router :=
      { router with endpointHeartbeat := rtosEndpointHeartbeatClearEntries router.endpointHeartbeat }
    let monitor := rtosMonitorClearError (rtosMonitorClearError monitor .shmFormat) .reclaimBlocked
    let monitor := rtosMonitorMarkRecoveryDone monitor
    (rtosStatisticsTaskRunOnce
      { router := router
        host := { t with
          monitor := monitor
          statistics := { t.statistics with recoveryCount := monitor.statistics.recoveryCount }
          state := .normal } }).2

/-- `rtos_recovery_task_run_once`. -/
def rtosRecoveryTaskRunOnce (P : Platform) (K : Clock) (c : TasksContext) (budget : UInt32) :
    UInt32 × TasksContext :=
  if c.host.state ≠ .recovery && !c.host.monitor.recovery.recoveryPending &&
      !c.host.monitor.recovery.recoveryActive then (0, c)
  else
    let t := { c.host with state := .recovery }
    let t :=
      if t.monitor.recovery.recoveryActive then t
      else { t with monitor := rtosMonitorMarkRecoveryStarted t.monitor }
    let r := recoverFrames P K { c with host := t } budget
    let c := r.2
    if c.host.pendingReclaims ≠ [] || c.host.state = .reclaimBlocked then
      (r.1, { c with host := { c.host with state := .reclaimBlocked } })
    else if rtosRouterGetQueuedCount c.router > 0 || unclaimedFrameReferenceExists c.host then
      (r.1, { c with host := { c.host with state := .recovery } })
    else (r.1, finishRecovery K c)

end Rtos

end PutGateway
