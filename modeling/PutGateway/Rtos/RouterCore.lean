import PutGateway.Rtos.PriorityQueue
import PutGateway.Rtos.RouteTable
import PutGateway.Rtos.EndpointHeartbeat
/-!
# The router

`rtos_firmware/router/rtos_router_core.c`. A submitted frame is refused,
consumed as a heartbeat, or queued for the interface its destination
routes to; a scheduled item is sent to the TX sink, with retries, or
given back through the reclaim sink.

The sinks and the time source are callbacks into the context that owns
the router, which the router passes along and never looks into. The
model takes the state behind them as a parameter, `H`.
-/

namespace PutGateway

namespace Rtos

/-! ## Data -/

/-- `rtos_route_input_t`. -/
structure RouteInput where
  frameId : UInt32
  sourceInterface : PutShmInterface
  sourceCid : Cid
  destinationCid : Cid
  type : UInt8
  priority : UInt8
  ttl : UInt8
  trust : RouteTrust
  epoch : UInt32
  flags : UInt32
  receiveTimeMs : UInt32
  frameLocalTime : UInt32
  anymsgHeaderValid : Bool

/-- `rtos_route_output_kind_t`. -/
inductive RouteOutputKind
  | none
  | tx
  | reclaim
  deriving DecidableEq, Repr

/-- `rtos_route_output_t`. -/
structure RouteOutput where
  kind : RouteOutputKind
  frameId : UInt32
  sourceInterface : PutShmInterface
  targetInterface : PutShmInterface
  sourceCid : Cid
  destinationCid : Cid
  type : UInt8
  priority : UInt8
  retryCount : UInt8 := 0
  epoch : UInt32
  flags : UInt32
  latencyMs : UInt32 := 0
  reclaimReason : ReclaimReason := .none
  deriving DecidableEq

/-- `rtos_router_statistics_t`. -/
structure RouterStatistics where
  submittedCount : UInt32 := 0
  enqueuedCount : UInt32 := 0
  routedCount : UInt32 := 0
  reclaimedCount : UInt32 := 0
  heartbeatConsumedCount : UInt32 := 0
  queueEvictedCount : UInt32 := 0
  txRetryCount : UInt32 := 0
  dropReasonCount : ReclaimReason → UInt32 := fun _ => 0
  routedByInterface : Fin 6 → UInt32 := fun _ => 0
  routedByPriority : Fin 4 → UInt32 := fun _ => 0
  authFailedCount : UInt32 := 0
  integrityFailedCount : UInt32 := 0
  replayDroppedCount : UInt32 := 0
  invalidPriorityCount : UInt32 := 0
  invalidTypeCount : UInt32 := 0
  invalidHeaderCount : UInt32 := 0
  routeTableCrcErrorCount : UInt32 := 0

/-- `rtos_router_context_t`, less the callbacks. -/
structure RouterContext where
  queue : PriorityQueue
  endpointHeartbeat : EndpointHeartbeatTable
  routeTable : RouteTable
  statistics : RouterStatistics
  currentLinuxEpoch : UInt32

/-- `rtos_router_sinks_t` and the time source, over the state `H` of the
context that owns the router. -/
structure RouterSinks (H : Type) where
  txSink : Option (RouteOutput → H → UnifiedError × H)
  reclaimSink : Option (RouteOutput → H → UnifiedError × H)
  now : H → UInt32 × H

/-- A router with the state behind its callbacks. -/
structure Hosted (H : Type) where
  router : RouterContext
  host : H

/-- `rtos_router_init`, less the callbacks. -/
def rtosRouterInit : RouterContext where
  queue := rtosPriorityQueueInit
  endpointHeartbeat := {}
  routeTable := rtosRouterRouteTableDefault
  statistics := {}
  currentLinuxEpoch := 1

/-- `rtos_router_set_linux_epoch`. -/
def rtosRouterSetLinuxEpoch (router : RouterContext) (linuxEpoch : UInt32) : RouterContext :=
  { router with currentLinuxEpoch := linuxEpoch }

/-- `rtos_router_get_queued_count`. -/
def rtosRouterGetQueuedCount (router : RouterContext) : UInt32 :=
  UInt32.ofNat router.queue.items.length

/-- `rtos_router_set_route_table`. -/
def rtosRouterSetRouteTable (router : RouterContext) (table : RouteTable) :
    UnifiedError × RouterContext :=
  if !table.valid then (.invalidArg, router)
  else if !rtosRouterRouteTableCrcIsValid table then
    (.crc,
      { router with
        statistics := { router.statistics with
          routeTableCrcErrorCount := router.statistics.routeTableCrcErrorCount + 1 } })
  else (.ok, { router with routeTable := table })

variable {H : Type}

/-- `router_now`. -/
def RouterSinks.routerNow (S : RouterSinks H) (s : Hosted H) : UInt32 × Hosted H :=
  let r := S.now s.host
  (r.1, { s with host := r.2 })

/-! ## Reclaiming -/

/-- `record_reclaim_stat`. -/
def RouterContext.recordReclaimStat (router : RouterContext) (reason : ReclaimReason) :
    RouterContext :=
  { router with
    statistics :=
      { router.statistics with
        reclaimedCount := router.statistics.reclaimedCount + 1
        dropReasonCount := Function.update router.statistics.dropReasonCount reason
          (router.statistics.dropReasonCount reason + 1) } }

/-- `emit_reclaim`. -/
def emitReclaim (S : RouterSinks H) (s : Hosted H) (output : RouteOutput) :
    UnifiedError × Hosted H :=
  let router := s.router.recordReclaimStat output.reclaimReason
  match S.reclaimSink with
  | none => (.ok, ⟨router, s.host⟩)
  | some sink =>
    let r := sink output s.host
    (r.1, ⟨router, r.2⟩)

/-- The output of `reclaim_input`. -/
def reclaimInputOutput (input : RouteInput) (nowMs : UInt32) (reason : ReclaimReason) :
    RouteOutput :=
  { kind := .reclaim
    frameId := input.frameId
    sourceInterface := input.sourceInterface
    targetInterface := input.sourceInterface
    sourceCid := input.sourceCid
    destinationCid := input.destinationCid
    type := input.type
    priority := input.priority
    epoch := input.epoch
    flags := input.flags
    latencyMs := nowMs - input.receiveTimeMs
    reclaimReason := reason }

/-- `reclaim_input`. -/
def reclaimInput (S : RouterSinks H) (s : Hosted H) (input : RouteInput) (reason : ReclaimReason) :
    UnifiedError × Hosted H :=
  let now := S.routerNow s
  emitReclaim S now.2 (reclaimInputOutput input now.1 reason)

/-- The output of `reclaim_item`. -/
def reclaimItemOutput (item : QueueItem) (nowMs : UInt32) (reason : ReclaimReason) : RouteOutput :=
  { kind := .reclaim
    frameId := item.frameId
    sourceInterface := item.sourceInterface
    targetInterface := item.targetInterface
    sourceCid := item.sourceCid
    destinationCid := item.destinationCid
    type := item.type
    priority := item.priority
    retryCount := item.retryCount
    epoch := item.epoch
    flags := item.flags
    latencyMs := nowMs - item.receiveTimeMs
    reclaimReason := reason }

/-- `reclaim_item`. -/
def reclaimItem (S : RouterSinks H) (s : Hosted H) (item : QueueItem) (reason : ReclaimReason) :
    UnifiedError × RouteOutput × Hosted H :=
  let now := S.routerNow s
  let output := reclaimItemOutput item now.1 reason
  let r := emitReclaim S now.2 output
  (r.1, output, r.2)

/-! ## Submitting -/

/-- `fill_queue_item`. -/
def fillQueueItem (router : RouterContext) (input : RouteInput) (targetInterface : PutShmInterface)
    (nowMs : UInt32) : QueueItem :=
  { frameId := input.frameId
    sourceInterface := input.sourceInterface
    targetInterface := targetInterface
    sourceCid := input.sourceCid
    destinationCid := input.destinationCid
    type := input.type
    priority := input.priority
    ttl := input.ttl
    retryCount := 0
    epoch := input.epoch
    flags := input.flags
    receiveTimeMs := input.receiveTimeMs
    enqueueTimeMs := nowMs
    routeEpochSeen := router.routeTable.activeRouteEpoch
    frameLocalTime := input.frameLocalTime }

/-- `record_invalid_input`. -/
def RouterContext.recordInvalidInput (router : RouterContext) (input : RouteInput) :
    RouterContext :=
  let st := router.statistics
  { router with
    statistics :=
      { st with
        invalidHeaderCount :=
          if !input.anymsgHeaderValid then st.invalidHeaderCount + 1 else st.invalidHeaderCount
        invalidTypeCount :=
          if !rtosRouterTypeIsValid input.type then st.invalidTypeCount + 1
          else st.invalidTypeCount
        invalidPriorityCount :=
          if !rtosPriorityQueuePriorityIsValid input.priority &&
              input.type ≠ anymsgTypeEndpointToGatewayHeartbeat then st.invalidPriorityCount + 1
          else st.invalidPriorityCount
        authFailedCount :=
          if input.trust = .authFailed then st.authFailedCount + 1 else st.authFailedCount
        integrityFailedCount :=
          if input.trust = .integrityFailed then st.integrityFailedCount + 1
          else st.integrityFailedCount
        replayDroppedCount :=
          if input.trust = .replayDropped then st.replayDroppedCount + 1
          else st.replayDroppedCount } }

/-- `input_is_invalid`. -/
def inputIsInvalid (input : RouteInput) : Bool :=
  !input.anymsgHeaderValid || !rtosRouterTypeIsValid input.type ||
    !rtosRouterTrustIsRoutable input.trust ||
    (input.type ≠ anymsgTypeEndpointToGatewayHeartbeat &&
      !rtosPriorityQueuePriorityIsValid input.priority)

def RouterContext.countSubmitted (router : RouterContext) : RouterContext :=
  { router with
    statistics := { router.statistics with
      submittedCount := router.statistics.submittedCount + 1 } }

/-- Consume a heartbeat: its result is dropped. -/
def RouterContext.consumeHeartbeat (router : RouterContext) (input : RouteInput) (nowMs : UInt32) :
    RouterContext :=
  { router with
    endpointHeartbeat := (rtosEndpointHeartbeatConsume router.endpointHeartbeat input.sourceCid
      input.destinationCid input.sourceInterface nowMs input.frameLocalTime).2
    statistics := { router.statistics with
      heartbeatConsumedCount := router.statistics.heartbeatConsumedCount + 1 } }

/-- The end of `rtos_router_submit`: queue the frame, and reclaim an item
that had to make room for it. -/
def enqueueInput (S : RouterSinks H) (s : Hosted H) (input : RouteInput)
    (targetInterface : PutShmInterface) : UnifiedError × Hosted H :=
  let now := S.routerNow s
  let s := now.2
  let r := rtosPriorityQueueEnqueue s.router.queue
    (fillQueueItem s.router input targetInterface now.1)
  if r.result ≠ .ok then reclaimInput S s input .queueFull
  else
    let queued : Hosted H := { s with router := { s.router with queue := r.queue } }
    let settled := match r.evicted with
      | none => queued
      | some item =>
        let counted : Hosted H :=
          { queued with
            router := { queued.router with
              statistics := { queued.router.statistics with
                queueEvictedCount := queued.router.statistics.queueEvictedCount + 1 } } }
        (reclaimItem S counted item .queueFull).2.2
    (.ok,
      { settled with
        router := { settled.router with
          statistics := { settled.router.statistics with
            enqueuedCount := settled.router.statistics.enqueuedCount + 1 } } })

/-- `rtos_router_submit`. -/
def rtosRouterSubmit (S : RouterSinks H) (s : Hosted H) (input : RouteInput) :
    UnifiedError × Hosted H :=
  let now := S.routerNow { s with router := s.router.countSubmitted }
  let nowMs := now.1
  let s := now.2
  if inputIsInvalid input then
    reclaimInput S { s with router := s.router.recordInvalidInput input } input .invalidFrame
  else if input.epoch ≠ s.router.currentLinuxEpoch then reclaimInput S s input .epochMismatch
  else if rtosRouterTtlIsExpired nowMs input.receiveTimeMs input.ttl then
    reclaimInput S s input .ttlExpired
  else if input.type = anymsgTypeEndpointToGatewayHeartbeat then
    reclaimInput S { s with router := s.router.consumeHeartbeat input nowMs } input
      .heartbeatConsumed
  else match rtosRouterRouteTableLookup s.router.routeTable input.destinationCid.b0 with
    | .error _ => reclaimInput S s input .noRoute
    | .ok targetInterface => enqueueInput S s input targetInterface

/-! ## Scheduling -/

/-- `k_retry_limit`. -/
def retryLimit (priority : UInt8) : ℕ :=
  if priority = 0 then 3 else if priority = 1 then 2 else if priority = 2 then 1 else 0

/-- The TX output of an item. -/
def txOutput (item : QueueItem) (nowMs : UInt32) : RouteOutput :=
  { kind := .tx
    frameId := item.frameId
    sourceInterface := item.sourceInterface
    targetInterface := item.targetInterface
    sourceCid := item.sourceCid
    destinationCid := item.destinationCid
    type := item.type
    priority := item.priority
    retryCount := item.retryCount
    epoch := item.epoch
    flags := item.flags
    latencyMs := nowMs - item.receiveTimeMs }

def RouterContext.countRouted (router : RouterContext) (item : QueueItem) : RouterContext :=
  let st := router.statistics
  { router with
    statistics :=
      { st with
        routedCount := st.routedCount + 1
        routedByInterface := match interfaceIndex? item.targetInterface with
          | none => st.routedByInterface
          | some i => Function.update st.routedByInterface i (st.routedByInterface i + 1)
        routedByPriority :=
          if h : item.priority.toNat < 4 then
            Function.update st.routedByPriority ⟨item.priority.toNat, h⟩
              (st.routedByPriority ⟨item.priority.toNat, h⟩ + 1)
          else st.routedByPriority } }

/-- Hand an output to the TX sink. -/
def emitTx (S : RouterSinks H) (s : Hosted H) (output : RouteOutput) : UnifiedError × Hosted H :=
  match S.txSink with
  | none => (.ok, s)
  | some sink =>
    let r := sink output s.host
    (r.1, { s with host := r.2 })

/-- The retry loop of `rtos_router_schedule_once`, with the number of
retries left, which is how far `retry_count` is below the limit. -/
def transmit (S : RouterSinks H) (nowMs : UInt32) :
    ℕ → QueueItem → Hosted H → UnifiedError × RouteOutput × Hosted H
  | 0, item, s =>
    let r := emitTx S s (txOutput item nowMs)
    if r.1 = .ok then
      (.ok, txOutput item nowMs, { r.2 with router := r.2.router.countRouted item })
    else reclaimItem S r.2 item .queueFull
  | retries + 1, item, s =>
    let r := emitTx S s (txOutput item nowMs)
    if r.1 = .ok then
      (.ok, txOutput item nowMs, { r.2 with router := r.2.router.countRouted item })
    else
      transmit S nowMs retries { item with retryCount := item.retryCount + 1 }
        { r.2 with
          router := { r.2.router with
            statistics := { r.2.router.statistics with
              txRetryCount := r.2.router.statistics.txRetryCount + 1 } } }

/-- The part of `rtos_router_schedule_once` after the dequeue. -/
def scheduleItem (S : RouterSinks H) (s : Hosted H) (item : QueueItem) :
    UnifiedError × RouteOutput × Hosted H :=
  let now := S.routerNow s
  let nowMs := now.1
  let s := now.2
  if rtosRouterTtlIsExpired nowMs item.receiveTimeMs item.ttl then
    reclaimItem S s item .ttlExpired
  else if item.routeEpochSeen ≠ s.router.routeTable.activeRouteEpoch then
    match rtosRouterRouteTableLookup s.router.routeTable item.destinationCid.b0 with
    | .error _ => reclaimItem S s item .noRoute
    | .ok targetInterface =>
      let item :=
        { item with
          targetInterface := targetInterface
          routeEpochSeen := s.router.routeTable.activeRouteEpoch }
      transmit S nowMs (retryLimit item.priority - item.retryCount.toNat) item s
  else transmit S nowMs (retryLimit item.priority - item.retryCount.toNat) item s

/-- `rtos_router_schedule_once`. -/
def rtosRouterScheduleOnce (S : RouterSinks H) (s : Hosted H) :
    UnifiedError × Option RouteOutput × Hosted H :=
  match rtosPriorityQueueDequeue s.router.queue with
  | (result, none, queue) => (result, none, { s with router := { s.router with queue := queue } })
  | (_, some item, queue) =>
    let r := scheduleItem S { s with router := { s.router with queue := queue } } item
    (r.1, some r.2.1, r.2.2)

/-- The loop of `rtos_router_drain`, with the budget left. -/
def drainLoop (S : RouterSinks H) : ℕ → UInt32 → Hosted H → UInt32 × Hosted H
  | 0, processed, s => (processed, s)
  | budget + 1, processed, s =>
    let r := rtosRouterScheduleOnce S s
    if r.1 ≠ .ok then (processed, r.2.2) else drainLoop S budget (processed + 1) r.2.2

/-- `rtos_router_drain`. -/
def rtosRouterDrain (S : RouterSinks H) (s : Hosted H) (budget : UInt32) : UInt32 × Hosted H :=
  drainLoop S budget.toNat 0 s

/-- The loop of `rtos_router_reclaim_queued`, with the budget left. -/
def reclaimQueuedLoop (S : RouterSinks H) (reason : ReclaimReason) :
    ℕ → UInt32 → Hosted H → UInt32 × Hosted H
  | 0, processed, s => (processed, s)
  | budget + 1, processed, s =>
    match rtosPriorityQueueDequeue s.router.queue with
    | (_, none, queue) => (processed, { s with router := { s.router with queue := queue } })
    | (_, some item, queue) =>
      let r := reclaimItem S { s with router := { s.router with queue := queue } } item reason
      if r.1 ≠ .ok then (processed, r.2.2)
      else reclaimQueuedLoop S reason budget (processed + 1) r.2.2

/-- `rtos_router_reclaim_queued`. -/
def rtosRouterReclaimQueued (S : RouterSinks H) (s : Hosted H) (reason : ReclaimReason)
    (budget : UInt32) : UInt32 × Hosted H :=
  reclaimQueuedLoop S reason budget.toNat 0 s

end Rtos

end PutGateway
