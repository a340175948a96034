import PutGateway.Linux.ShmIpc
/-!
# The rings as Linux works them

The second half of `linux_app/ipc/linux_shm_ipc.c`: publishing on an RX
ring, taking from a TX ring and from the reclaim ring. Each is the
skeleton of `RingProtocol` with Linux's checks and counters. Linux takes
the `write_seq` store as the point of no return: what fails after it is
counted, and the enqueue succeeds.
-/

namespace PutGateway

namespace Linux

/-! ## Ring views of the region -/

/-- An RX ring with its pending line. -/
def LinuxShm.rxIo (shm : LinuxShm) (i : Fin 6) : RingIo Descriptor LinuxShmIpc :=
  ⟨shm.region.rxRings i, shm.region.rxPendingBitmap, shm.calls, shm.ipc⟩

def LinuxShm.setRxIo (shm : LinuxShm) (i : Fin 6) (io : RingIo Descriptor LinuxShmIpc) : LinuxShm where
  ipc := io.core
  region :=
    { shm.region with
      rxRings := Function.update shm.region.rxRings i io.ring
      rxPendingBitmap := io.pending }
  calls := io.calls

/-- A TX ring with its pending line. -/
def LinuxShm.txIo (shm : LinuxShm) (i : Fin 6) : RingIo Descriptor LinuxShmIpc :=
  ⟨shm.region.txRings i, shm.region.txPendingBitmap, shm.calls, shm.ipc⟩

def LinuxShm.setTxIo (shm : LinuxShm) (i : Fin 6) (io : RingIo Descriptor LinuxShmIpc) : LinuxShm where
  ipc := io.core
  region :=
    { shm.region with
      txRings := Function.update shm.region.txRings i io.ring
      txPendingBitmap := io.pending }
  calls := io.calls

/-- The reclaim ring with its pending line. -/
def LinuxShm.reclaimIo (shm : LinuxShm) : RingIo ReclaimDescriptor LinuxShmIpc :=
  ⟨shm.region.reclaimRing, shm.region.reclaimPending, shm.calls, shm.ipc⟩

def LinuxShm.setReclaimIo (shm : LinuxShm) (io : RingIo ReclaimDescriptor LinuxShmIpc) : LinuxShm where
  ipc := io.core
  region := { shm.region with reclaimRing := io.ring, reclaimPending := io.pending }
  calls := io.calls

/-- A cache operation on a frame block. -/
def LinuxShm.cacheOp (P : Platform) (shm : LinuxShm) : UnifiedError × LinuxShm :=
  let made := { shm with calls := shm.calls + 1 }
  (P.outcome shm.calls,
    if P.outcome shm.calls = .ok then made else { made with ipc := made.ipc.recordCacheSyncError })

/-! ## Publishing on an RX ring -/

def LinuxShmIpc.recordNotifyFail (ipc : LinuxShmIpc) : LinuxShmIpc :=
  { ipc with
    stats := { ipc.stats with
      mailbox :=
        { ipc.stats.mailbox with notifyFailCount := ipc.stats.mailbox.notifyFailCount + 1 } } }

def LinuxShmIpc.recordDoorbell (ipc : LinuxShmIpc) : LinuxShmIpc :=
  { ipc with
    stats := { ipc.stats with
      mailbox :=
        { ipc.stats.mailbox with rxDoorbellCount := ipc.stats.mailbox.rxDoorbellCount + 1 } } }

def LinuxShmIpc.recordRxFull (i : Fin 6) (ipc : LinuxShmIpc) : LinuxShmIpc :=
  { ipc with stats := ipc.stats.modifyRxRing i fun r => { r with fullCount := r.fullCount + 1 } }

/-- The updates that go with the `write_seq` store: the high watermark,
and the block handed to the RX ring. -/
def LinuxShmIpc.handToRx (i : Fin 6) (f : Fin 64) (targetInterface : UInt8) (used : UInt32)
    (ipc : LinuxShmIpc) : LinuxShmIpc :=
  ({ ipc with
      stats := ipc.stats.modifyRxRing i fun r =>
        { r with highWatermark := max used.toUInt64 r.highWatermark } }).modifyFrame f fun m =>
    { m with state := .rxQueued, targetInterface := targetInterface }

/-- What Linux does once an RX descriptor is published: no failure of it
is reported. -/
def announceRx (P : Platform) (bit : UInt32) (wasEmpty : Bool) (io : RingIo Descriptor LinuxShmIpc) :
    UnifiedError × RingIo Descriptor LinuxShmIpc :=
  let flushed := io.cacheOp P LinuxShmIpc.recordCacheSyncError
  if flushed.1 ≠ .ok then (.ok, flushed.2)
  else
    let marked := flushed.2.setPendingBit P bit
    if marked.1 ≠ .ok then
      (.ok, marked.2.recordNotifyFail P LinuxShmIpc.recordCacheSyncError LinuxShmIpc.recordNotifyFail)
    else marked.2.ringDoorbell P LinuxShmIpc.recordCacheSyncError LinuxShmIpc.recordNotifyFail
      LinuxShmIpc.recordDoorbell wasEmpty

/-- `linux_shm_enqueue_rx_descriptor`. -/
def linuxShmEnqueueRxDescriptor (P : Platform) (shm : LinuxShm) (interfaceId : PutShmInterface)
    (descriptor : Descriptor) : UnifiedError × LinuxShm :=
  if !shm.ipc.initialized then (.ipcNotReady, shm)
  else match interfaceIndex? interfaceId with
    | none => (.invalidArg, shm)
    | some i =>
      let ring := validateDescriptorRing (shm.region.rxRings i) .rx interfaceId.toUInt8 .linuxToRtos
      if ring ≠ .ok then (ring, shm)
      else if validateDescriptorBounds descriptor ≠ .ok then
        (validateDescriptorBounds descriptor, shm)
      else if descriptor.sourceInterface ≠ interfaceId.toUInt8 then (.invalidArg, shm)
      else match frameIndex? descriptor.frameId with
        | none => (.length, shm)
        | some f =>
          if !shm.ipc.isAllocated f || (shm.ipc.frames f).state ≠ .allocated ||
              (shm.ipc.frames f).sourceInterface ≠ interfaceId.toUInt8 then (.invalidArg, shm)
          else
            let r := (shm.rxIo i).enqueue P LinuxShmIpc.recordCacheSyncError
              (LinuxShmIpc.recordRxFull i) (LinuxShmIpc.handToRx i f descriptor.targetInterface)
              (announceRx P (interfacePendingBit interfaceId.toUInt8)) descriptor.sealed
            (r.1, shm.setRxIo i r.2)

/-- The descriptor `linux_shm_frame_commit_rx` builds. -/
def rxDescriptor (frameId : UInt32) (frameLength : UInt16)
    (sourceInterface targetInterface : PutShmInterface) (sourceCid destinationCid : Cid)
    (type priority ttl : UInt8) (epoch flags : UInt32) : Descriptor :=
  { frameId := frameId
    frameOffset := frameId * putShmFramePoolBlockSize
    frameLength := frameLength
    sourceInterface := sourceInterface.toUInt8
    targetInterface := targetInterface.toUInt8
    sourceCid := sourceCid
    destinationCid := destinationCid
    type := type
    priority := priority
    ttl := ttl
    epoch := epoch
    flags := flags }

/-- `linux_shm_frame_commit_rx`. -/
def linuxShmFrameCommitRx (P : Platform) (shm : LinuxShm) (frameId : UInt32) (frameLength : UInt16)
    (sourceInterface targetInterface : PutShmInterface) (sourceCid destinationCid : Cid)
    (type priority ttl : UInt8) (epoch flags : UInt32) : UnifiedError × LinuxShm :=
  if !shm.ipc.initialized then (.ipcNotReady, shm)
  else match frameIndex? frameId with
    | none => (.invalidArg, shm)
    | some f =>
      if !isInterfaceValid sourceInterface.toUInt8 || !isInterfaceValid targetInterface.toUInt8 then
        (.invalidArg, shm)
      else if !shm.ipc.isAllocated f || (shm.ipc.frames f).state ≠ .allocated ||
          (shm.ipc.frames f).sourceInterface ≠ sourceInterface.toUInt8 then (.invalidArg, shm)
      else if frameLength < anymsgHeaderSize || frameLength > 512 then (.length, shm)
      else andThen (shm.cacheOp P) fun shm =>
        let r := linuxShmEnqueueRxDescriptor P shm sourceInterface
          (rxDescriptor frameId frameLength sourceInterface targetInterface sourceCid destinationCid
            type priority ttl epoch flags)
        if r.1 = .ok then
          (r.1, { r.2 with
            ipc := r.2.ipc.modifyFrame f fun m =>
              { m with state := .rxQueued, targetInterface := targetInterface.toUInt8 } })
        else r

/-- What a call of `linux_shm_frame_commit_rx` names. -/
structure Commit where
  frameId : UInt32
  frameLength : UInt16
  source : PutShmInterface
  target : PutShmInterface
  sourceCid : Cid
  destinationCid : Cid
  type : UInt8
  priority : UInt8
  ttl : UInt8
  epoch : UInt32
  flags : UInt32

/-- The call. -/
def Commit.run (P : Platform) (shm : LinuxShm) (c : Commit) : UnifiedError × LinuxShm :=
  linuxShmFrameCommitRx P shm c.frameId c.frameLength c.source c.target c.sourceCid c.destinationCid
    c.type c.priority c.ttl c.epoch c.flags

/-- The descriptor it publishes, before its CRC is filled in. -/
def Commit.descriptor (c : Commit) : Descriptor :=
  rxDescriptor c.frameId c.frameLength c.source c.target c.sourceCid c.destinationCid c.type c.priority
    c.ttl c.epoch c.flags

/-! ## Taking from the RTOS -/

def LinuxShmIpc.recordCrcError (ipc : LinuxShmIpc) : LinuxShmIpc :=
  { ipc with
    stats := { ipc.stats with
      descriptorCrcErrorCount := ipc.stats.descriptorCrcErrorCount + 1 } }

def LinuxShmIpc.recordFormatError (ipc : LinuxShmIpc) : LinuxShmIpc :=
  { ipc with
    stats := { ipc.stats with
      descriptorFormatErrorCount := ipc.stats.descriptorFormatErrorCount + 1 } }

/-- The checks of `linux_shm_dequeue_tx_descriptor` on a descriptor with
a right CRC: its bounds, its interface, and that Linux has handed the
block it names to the RTOS. -/
def checkTxDescriptor (interfaceId : PutShmInterface) (ipc : LinuxShmIpc) (d : Descriptor) :
    UnifiedError :=
  if validateDescriptorBounds d ≠ .ok then validateDescriptorBounds d
  else if d.targetInterface ≠ interfaceId.toUInt8 then .invalidArg
  else match frameIndex? d.frameId with
    | none => .length
    | some f =>
      if !ipc.isAllocated f then .invalidArg
      else if (ipc.frames f).state ≠ .rxQueued ||
          (ipc.frames f).sourceInterface ≠ d.sourceInterface then .invalidArg
      else .ok

/-- The block of a taken TX descriptor waits for egress. -/
def LinuxShmIpc.markTxReady (ipc : LinuxShmIpc) (d : Descriptor) : LinuxShmIpc :=
  match frameIndex? d.frameId with
  | none => ipc
  | some f => ipc.modifyFrame f fun m => { m with state := .txReady }

/-- Linux as the consumer of a TX ring. -/
def txConsumer (interfaceId : PutShmInterface) : RingIo.Consumer Descriptor LinuxShmIpc where
  pendingBit header := .ok (interfacePendingBit header.interfaceId)
  check := checkTxDescriptor interfaceId
  crcOk d := descriptorCrc d == d.descriptorCrc16
  syncFrame := true
  onError := LinuxShmIpc.recordCacheSyncError
  onCrcError := LinuxShmIpc.recordCrcError
  onFormatError := LinuxShmIpc.recordFormatError
  onAccept := LinuxShmIpc.markTxReady

/-- `linux_shm_dequeue_tx_descriptor`. The output frame is the block the
descriptor names. -/
def linuxShmDequeueTxDescriptor (P : Platform) (shm : LinuxShm) (interfaceId : PutShmInterface) :
    UnifiedError × Option Descriptor × LinuxShm :=
  if !shm.ipc.initialized then (.ipcNotReady, none, shm)
  else match interfaceIndex? interfaceId with
    | none => (.invalidArg, none, shm)
    | some i =>
      let ring := validateDescriptorRing (shm.region.txRings i) .tx interfaceId.toUInt8 .rtosToLinux
      if ring ≠ .ok then (ring, none, shm)
      else
        let r := (shm.txIo i).dequeue P (txConsumer interfaceId)
        (r.1, r.2.1, shm.setTxIo i r.2.2)

/-- The checks of `linux_shm_dequeue_reclaim_descriptor` on a descriptor
with a right CRC. -/
def checkReclaimDescriptor (ipc : LinuxShmIpc) (d : ReclaimDescriptor) : UnifiedError :=
  match frameIndex? d.frameId with
  | none => .invalidArg
  | some f =>
    if d.reason > ReclaimReason.queueFull.code then .invalidArg
    else if !ipc.isAllocated f || (ipc.frames f).state ≠ .rxQueued ||
        (ipc.frames f).sourceInterface ≠ d.sourceInterface ||
        (ipc.frames f).targetInterface ≠ d.targetInterface then .invalidArg
    else .ok

/-- Taking a reclaim descriptor: the block is marked, then released. -/
def LinuxShmIpc.takeReclaim (ipc : LinuxShmIpc) (d : ReclaimDescriptor) : LinuxShmIpc :=
  match frameIndex? d.frameId with
  | none => ipc
  | some f =>
    let marked := ipc.modifyFrame f fun m => { m with pendingReclaim := true, state := .pendingReclaim }
    let counted : LinuxShmIpc :=
      { marked with
        stats := { marked.stats with
          framePool := { marked.stats.framePool with
            pendingReclaim := marked.stats.framePool.pendingReclaim + 1 } } }
    let released := (linuxShmFrameRelease counted d.frameId d.reason).2
    { released with
      stats := { released.stats with reclaimAckCount := released.stats.reclaimAckCount + 1 } }

/-- Linux as the consumer of the reclaim ring. -/
def reclaimConsumer : RingIo.Consumer ReclaimDescriptor LinuxShmIpc where
  pendingBit _ := .ok 1
  check := checkReclaimDescriptor
  crcOk d := reclaimCrc d == d.descriptorCrc16
  syncFrame := false
  onError := LinuxShmIpc.recordCacheSyncError
  onCrcError := LinuxShmIpc.recordCrcError
  onFormatError := LinuxShmIpc.recordFormatError
  onAccept := LinuxShmIpc.takeReclaim

/-- `linux_shm_dequeue_reclaim_descriptor`. -/
def linuxShmDequeueReclaimDescriptor (P : Platform) (shm : LinuxShm) :
    UnifiedError × Option ReclaimDescriptor × LinuxShm :=
  if !shm.ipc.initialized then (.ipcNotReady, none, shm)
  else
    let ring := validateReclaimRing shm.region.reclaimRing
    if ring ≠ .ok then (ring, none, shm)
    else
      let r := shm.reclaimIo.dequeue P reclaimConsumer
      (r.1, r.2.1, shm.setReclaimIo r.2.2)

end Linux

end PutGateway
