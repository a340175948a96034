import PutGateway.Linux.ShmRings
/-!
# The egress worker

`linux_app/egress/egress_worker.c`: the frames the RTOS has routed to an
interface are taken off its TX ring, checked once more against their
descriptors, given to the adapter of the interface, and released. An
adapter is known by its callbacks, any of which may be missing or fail.
-/

namespace PutGateway

namespace Linux

/-- `EGRESS_WORKER_DEFAULT_BUDGET`. -/
def egressWorkerDefaultBudget : UInt32 := 16

/-! ## The check before egress -/

/-- `interface_from_cid_segment`. `PUT_SHM_INTERFACE_COUNT` stands for no
interface. -/
def interfaceFromCidSegment : AnymsgCidSegment → PutShmInterface
  | .can => putShmInterfaceCan
  | .ethernet => putShmInterfaceEthernet
  | .wifi => putShmInterfaceWifi
  | .bluetooth => putShmInterfaceBluetooth
  | .fourG => putShmInterface4G
  | .rs485 => putShmInterfaceRs485
  | .reservedLow | .reservedHigh => 6

/-- `descriptor_reserved_fields_are_zero`. -/
def descriptorReservedFieldsAreZero (descriptor : Descriptor) : Bool :=
  descriptor.reserved0 == 0 && (List.finRange 30).all fun i => descriptor.reserved1 i == 0

/-- `validate_anymsg_for_egress`, of a worker for `interfaceId`. -/
def validateAnymsgForEgress (interfaceId : PutShmInterface) (descriptor : Descriptor)
    (frame : FrameBlock) (frameLength : UInt16) : UnifiedError :=
  if descriptor.targetInterface ≠ interfaceId.toUInt8 || descriptor.frameLength ≠ frameLength ||
      !descriptorReservedFieldsAreZero descriptor then .invalidArg
  else if frameLength < anymsgHeaderSize || frameLength > 512 then .length
  else
    let header := frame.header
    let lengths := anymsgValidateNormalizedLengths (readLe16 header.msgLength0 header.msgLength1)
      (readLe16 header.payloadLength0 header.payloadLength1) frameLength.toNat
    if lengths ≠ .ok then lengths
    else if anymsgValidateHeaderStaticFields header ≠ .ok then anymsgValidateHeaderStaticFields header
    else if descriptor.sourceCid ≠ header.sourceCid ||
        descriptor.destinationCid ≠ header.destinationCid || descriptor.type ≠ header.type then
      .invalidArg
    else
      let sourceSegment := anymsgCidSegmentFromFirstByte header.sourceCid.b0
      let destinationSegment := anymsgCidSegmentFromFirstByte header.destinationCid.b0
      if sourceSegment = .reservedLow || sourceSegment = .reservedHigh ||
          destinationSegment = .reservedLow || destinationSegment = .reservedHigh then .invalidArg
      else if interfaceFromCidSegment destinationSegment ≠ interfaceId then .invalidArg
      else .ok

/-! ## The adapter -/

/-- `anymsg_buffer_t`: a frame in its block. -/
structure AnymsgBuffer where
  data : FrameBlock
  len : UInt16

/-- `adapter_tx_packet_t`: the bytes of a packet. -/
abbrev AdapterTxPacket := List UInt8

/-- The callbacks of `physical_interface_adapter_t` that egress uses. `A`
is what `adapter_ctx` points to. A callback that is not set is `none`;
where one gives a result, `none` is its failure. -/
structure PhysicalInterfaceAdapter (A : Type) where
  getMtu : Option (A → ℕ × A)
  encapsulate : Option (A → AnymsgBuffer → Option AdapterTxPacket × A)
  fragmentTx : Option (A → AnymsgBuffer → Option (List AdapterTxPacket) × A)
  send : Option (A → AdapterTxPacket → Bool × A)
  getTxError : Option (A → Option (String × UnifiedError) × A)

/-- What `status_collector_t` is told. -/
inductive StatusEvent
  | txOk (bytes : UInt16)
  | error (stage : String) (err : UnifiedError)

/-- What a worker is set up with: `egress_worker_context_t`. -/
structure EgressWorkerContext (A : Type) where
  interfaceId : PutShmInterface
  adapter : Option (PhysicalInterfaceAdapter A)
  enabled : Bool
  budget : UInt32

/-- `egress_worker_drain_result_t`. -/
structure EgressWorkerDrainResult where
  dequeued : UInt32 := 0
  txOk : UInt32 := 0
  txFailed : UInt32 := 0
  validationFailed : UInt32 := 0
  ipcErrors : UInt32 := 0
  releaseErrors : UInt32 := 0

/-- What a drain reads and writes: Linux, the adapter's context, the
collector where there is one, and the counts of this drain. -/
structure EgressState (A : Type) where
  shm : LinuxShm
  adapterCtx : A
  collector : Option (List StatusEvent)
  result : EgressWorkerDrainResult

variable {A : Type}

/-- A record in the collector, where there is one. -/
def EgressState.record (s : EgressState A) (e : StatusEvent) : EgressState A :=
  { s with collector := s.collector.map (· ++ [e]) }

/-- `record_error`. -/
def EgressState.recordError (s : EgressState A) (stage : String) (err : UnifiedError) :
    EgressState A :=
  s.record (.error stage err)

/-! ## Sending -/

/-- The loop of `send_packet_list`: the first packet that fails ends it. -/
def sendPackets (send : A → AdapterTxPacket → Bool × A) (ctx : A) : List AdapterTxPacket → Bool × A
  | [] => (true, ctx)
  | packet :: rest =>
    let r := send ctx packet
    if r.1 then sendPackets send r.2 rest else (false, r.2)

/-- `send_packet_list`. -/
def sendPacketList (adapter : PhysicalInterfaceAdapter A) (ctx : A) (packets : List AdapterTxPacket) :
    Bool × A :=
  match adapter.send with
  | none => (false, ctx)
  | some send => if packets = [] then (false, ctx) else sendPackets send ctx packets

/-- The part of `send_by_adapter` that splits a frame. -/
def sendFragmented (adapter : PhysicalInterfaceAdapter A) (ctx : A) (msg : AnymsgBuffer) : Bool × A :=
  match adapter.fragmentTx with
  | none => (false, ctx)
  | some fragmentTx =>
    match fragmentTx ctx msg with
    | (none, ctx) => (false, ctx)
    | (some packets, ctx) => sendPacketList adapter ctx packets

/-- `send_by_adapter`, on an adapter that is there. -/
def sendByAdapter (enabled : Bool) (adapter : PhysicalInterfaceAdapter A) (ctx : A)
    (msg : AnymsgBuffer) : Bool × A :=
  if !enabled || adapter.send.isNone then (false, ctx)
  else
    let mtu : ℕ × A := match adapter.getMtu with
      | none => (0, ctx)
      | some getMtu => getMtu ctx
    match adapter.encapsulate with
    | none => sendFragmented adapter mtu.2 msg
    | some encapsulate =>
      if mtu.1 < msg.len.toNat then sendFragmented adapter mtu.2 msg
      else
        match encapsulate mtu.2 msg with
        | (some packet, ctx) => sendPacketList adapter ctx [packet]
        | (none, ctx) => sendFragmented adapter ctx msg

/-- `record_send_failure`, on an adapter that is there. -/
def EgressState.recordSendFailure (s : EgressState A) (adapter : PhysicalInterfaceAdapter A) :
    EgressState A :=
  match adapter.getTxError with
  | none => s.recordError "send" .ipcOffline
  | some getTxError =>
    match getTxError s.adapterCtx with
    | (some (stage, err), ctx) =>
      if stage = "" then { s with adapterCtx := ctx }.recordError "send" .ipcOffline
      else { s with adapterCtx := ctx }.recordError stage err
    | (none, ctx) => { s with adapterCtx := ctx }.recordError "send" .ipcOffline

/-! ## Draining -/

/-- `release_frame`. -/
def EgressState.releaseFrame (s : EgressState A) (descriptor : Descriptor) : EgressState A :=
  let r := linuxShmFrameRelease s.shm.ipc descriptor.frameId ReclaimReason.none.code
  let released := { s with shm := { s.shm with ipc := r.2 } }
  if r.1 ≠ .ok then
    { released with
      result := { s.result with
        releaseErrors := s.result.releaseErrors + 1 } }.recordError "egress_ipc_release" r.1
  else released

def EgressState.countTxFailed (s : EgressState A) : EgressState A :=
  { s with result := { s.result with txFailed := s.result.txFailed + 1 } }

/-- What the loop body does with a frame it has taken. -/
def egressFrame (w : EgressWorkerContext A) (s : EgressState A) (descriptor : Descriptor)
    (frame : FrameBlock) : EgressState A :=
  let valid := validateAnymsgForEgress w.interfaceId descriptor frame descriptor.frameLength
  if valid ≠ .ok then
    ({ s with
      result := { s.result with
        validationFailed := s.result.validationFailed + 1 } }.recordError
          "egress_validate" valid).releaseFrame descriptor
  else if !w.enabled then
    (s.countTxFailed.recordError "interface_disabled" .ipcOffline).releaseFrame descriptor
  else match w.adapter with
    | none => (s.countTxFailed.recordError "adapter_missing" .ipcOffline).releaseFrame descriptor
    | some adapter =>
      let sent := sendByAdapter w.enabled adapter s.adapterCtx ⟨frame, descriptor.frameLength⟩
      let s := { s with adapterCtx := sent.2 }
      if sent.1 then
        ({ s with result := { s.result with txOk := s.result.txOk + 1 } }.record
          (.txOk descriptor.frameLength)).releaseFrame descriptor
      else (s.countTxFailed.recordSendFailure adapter).releaseFrame descriptor

/-- The block a descriptor names. -/
def LinuxShm.frameOf (shm : LinuxShm) (descriptor : Descriptor) : FrameBlock :=
  match frameIndex? descriptor.frameId with
  | none => fun _ => 0
  | some f => shm.region.framePool f

/-- The loop body of `egress_worker_drain_once`, and whether the loop goes
on. -/
def egressTurn (P : Platform) (w : EgressWorkerContext A) (s : EgressState A) :
    Bool × EgressState A :=
  let r := linuxShmDequeueTxDescriptor P s.shm w.interfaceId
  let s := { s with shm := r.2.2 }
  if r.1 = .ipcQueueEmpty then (false, s)
  else if r.1 ≠ .ok then
    (true, { s with
      result := { s.result with
        ipcErrors := s.result.ipcErrors + 1 } }.recordError "egress_ipc_dequeue" r.1)
  else
    let descriptor := r.2.1.getD {}
    (true, egressFrame w
      { s with result := { s.result with dequeued := s.result.dequeued + 1 } } descriptor
      (s.shm.frameOf descriptor))

/-- The loop of `egress_worker_drain_once`. -/
def egressTurns (P : Platform) (w : EgressWorkerContext A) : ℕ → EgressState A → EgressState A
  | 0, s => s
  | n + 1, s =>
    let r := egressTurn P w s
    if r.1 then egressTurns P w n r.2 else r.2

/-- The budget of a drain. -/
def EgressWorkerContext.turns (w : EgressWorkerContext A) : ℕ :=
  (if w.budget = 0 then egressWorkerDefaultBudget else w.budget).toNat

/-- `egress_worker_drain_once`. -/
def egressWorkerDrainOnce (P : Platform) (w : EgressWorkerContext A) (s : EgressState A) :
    UnifiedError × EgressState A :=
  if w.interfaceId ≥ 6 then (.invalidArg, s)
  else (.ok, egressTurns P w w.turns { s with result := {} })

end Linux

end PutGateway
