import PutGateway.Common.RingProtocol
/-!
# The IPC of the RTOS core

`rtos_firmware/ipc/rtos_shm_ipc.c`. The RTOS takes descriptors from the
RX rings, publishes them on the TX rings, and gives blocks back through
the reclaim ring. Unlike Linux it reports a failed producer flush or a
failed pending bit to its caller, although the `write_seq` store has
already published the entry.
-/

namespace PutGateway

namespace Rtos

/-- What an RTOS operation reads and writes: `rtos_shm_ipc_t`, the region
it is bound to and the number of platform calls made. -/
structure RtosShm where
  initialized : Bool
  region : Region
  calls : ℕ

/-! ## Validation -/

/-- `validate_descriptor_ring`, on the byte codes it compares. -/
def validateDescriptorRing (ring : DescriptorRing) (expectedKind expectedInterface
    expectedDirection : UInt8) : UnifiedError :=
  if expectedKind ≠ RingKind.rx.code && expectedKind ≠ RingKind.tx.code then .invalidArg
  else if ring.header.magic ≠ putShmRingMagic || ring.header.version ≠ putShmIpcVersion ||
      ring.header.headerSize ≠ putShmHeaderSize then .protocolHeader
  else if ring.header.depth ≠ putShmDescriptorRingDepth ||
      ring.header.descriptorSize ≠ putShmDescriptorSize ||
      ring.producer.depth ≠ putShmDescriptorRingDepth.toUInt32 ||
      ring.producer.descriptorSize ≠ putShmDescriptorSize.toUInt32 then .length
  else if ring.header.ringKind ≠ expectedKind || ring.header.interfaceId ≠ expectedInterface ||
      ring.header.direction ≠ expectedDirection then .invalidArg
  else .ok

/-- `validate_reclaim_ring`. -/
def validateReclaimRing (ring : ReclaimRing) : UnifiedError :=
  if ring.header.magic ≠ putShmRingMagic || ring.header.version ≠ putShmIpcVersion ||
      ring.header.headerSize ≠ putShmHeaderSize then .protocolHeader
  else if ring.header.depth ≠ putShmDescriptorRingDepth ||
      ring.header.descriptorSize ≠ putShmDescriptorSize ||
      ring.producer.depth ≠ putShmDescriptorRingDepth.toUInt32 ||
      ring.producer.descriptorSize ≠ putShmDescriptorSize.toUInt32 then .length
  else if ring.header.ringKind ≠ RingKind.reclaim.code ||
      ring.header.direction ≠ Direction.rtosToLinux.code then .invalidArg
  else .ok

/-- A ring checked against its own header, as the ring helpers do. -/
def validateOwnHeader (ring : DescriptorRing) : UnifiedError :=
  validateDescriptorRing ring ring.header.ringKind ring.header.interfaceId ring.header.direction

/-- `validate_descriptor_ring_interface`. -/
def validateDescriptorRingInterface (header : RingHeader) (d : Descriptor) : UnifiedError :=
  if header.ringKind = RingKind.rx.code then
    if d.sourceInterface ≠ header.interfaceId then .invalidArg else .ok
  else if header.ringKind = RingKind.tx.code then
    if d.targetInterface ≠ header.interfaceId then .invalidArg else .ok
  else .invalidArg

/-- `pending_bit_from_ring`. -/
def pendingBitFromRing (header : RingHeader) : Except UnifiedError UInt32 :=
  if header.ringKind = RingKind.reclaim.code then .ok 1
  else if !isInterfaceValid header.interfaceId then .error .invalidArg
  else .ok (1 <<< header.interfaceId.toUInt32)

/-- The header checks of `rtos_shm_ipc_attach`. -/
def validateRegionHeader (header : RegionHeader) : UnifiedError :=
  if header.magic ≠ putShmRegionMagic || header.version ≠ putShmIpcVersion ||
      header.headerSize ≠ putShmHeaderSize || header.regionSize ≠ putShmRegionSize then
    .protocolHeader
  else if header.framePoolOffset ≠ framePoolOffset || header.rxRingsOffset ≠ rxRingsOffset ||
      header.txRingsOffset ≠ txRingsOffset || header.rxPendingOffset ≠ rxPendingOffset ||
      header.txPendingOffset ≠ txPendingOffset ||
      header.reclaimPendingOffset ≠ reclaimPendingOffset ||
      header.reclaimRingOffset ≠ reclaimRingOffset then .length
  else if header.framePoolBlockCount ≠ 64 ||
      header.framePoolBlockSize ≠ putShmFramePoolBlockSize then .length
  else .ok

/-- The loop of `rtos_shm_ipc_attach` over the interfaces. -/
def validateRings (region : Region) : List (Fin 6) → UnifiedError
  | [] => .ok
  | i :: rest =>
    let rx := validateDescriptorRing (region.rxRings i) RingKind.rx.code (UInt8.ofNat i)
      Direction.linuxToRtos.code
    if rx ≠ .ok then rx
    else
      let tx := validateDescriptorRing (region.txRings i) RingKind.tx.code (UInt8.ofNat i)
        Direction.rtosToLinux.code
      if tx ≠ .ok then tx else validateRings region rest

/-- `rtos_shm_ipc_attach`. -/
def rtosShmIpcAttach (shm : RtosShm) : UnifiedError × RtosShm :=
  let header := validateRegionHeader shm.region.header
  if header ≠ .ok then (header, shm)
  else
    let rings := validateRings shm.region (List.finRange 6)
    if rings ≠ .ok then (rings, shm)
    else
      let reclaim := validateReclaimRing shm.region.reclaimRing
      if reclaim ≠ .ok then (reclaim, shm) else (.ok, { shm with initialized := true })

/-! ## The ring helpers -/

/-- What the RTOS does once an entry is published. A failed flush or a
failed pending bit is reported; a failed doorbell is counted. -/
def announce {D : Type} (P : Platform) (bit : UInt32) (wasEmpty : Bool) (io : RingIo D Unit) :
    UnifiedError × RingIo D Unit :=
  andThen (io.cacheOp P id) fun io =>
    andThen (io.setPendingBit P bit) fun io => io.ringDoorbell P id id id wasEmpty

/-- The operation both producers of the RTOS run once their checks have
passed. -/
def publishOn {D : Type} (P : Platform) (bit : UInt32) (d : D) (io : RingIo D Unit) :
    UnifiedError × RingIo D Unit :=
  io.enqueue P id id (fun _ => id) (announce P bit) d

/-- `rtos_shm_descriptor_ring_enqueue`. -/
def rtosShmDescriptorRingEnqueue (P : Platform) (io : RingIo Descriptor Unit)
    (descriptor : Descriptor) (notifyDirection : Direction) :
    UnifiedError × RingIo Descriptor Unit :=
  if validateOwnHeader io.ring ≠ .ok then (.protocolHeader, io)
  else if notifyDirection.code ≠ io.ring.header.direction then (.invalidArg, io)
  else if validateDescriptorBounds descriptor ≠ .ok then (validateDescriptorBounds descriptor, io)
  else if validateDescriptorRingInterface io.ring.header descriptor ≠ .ok then
    (validateDescriptorRingInterface io.ring.header descriptor, io)
  else match pendingBitFromRing io.ring.header with
    | .error e => (e, io)
    | .ok bit => publishOn P bit descriptor.sealed io

/-- The checks of `rtos_shm_descriptor_ring_dequeue` on a descriptor with
a right CRC. -/
def checkRingDescriptor (header : RingHeader) (d : Descriptor) : UnifiedError :=
  if validateDescriptorBounds d ≠ .ok then validateDescriptorBounds d
  else validateDescriptorRingInterface header d

/-- The RTOS as the consumer of a descriptor ring. -/
def ringConsumer (header : RingHeader) : RingIo.Consumer Descriptor Unit where
  pendingBit := pendingBitFromRing
  check _ := checkRingDescriptor header
  crcOk d := descriptorCrc d == d.descriptorCrc16
  syncFrame := false
  onError := id
  onCrcError := id
  onFormatError := id
  onAccept c _ := c

/-- `rtos_shm_descriptor_ring_dequeue`. -/
def rtosShmDescriptorRingDequeue (P : Platform) (io : RingIo Descriptor Unit) :
    UnifiedError × Option Descriptor × RingIo Descriptor Unit :=
  if validateOwnHeader io.ring ≠ .ok then (.protocolHeader, none, io)
  else io.dequeue P (ringConsumer io.ring.header)

/-! ## Operations on the region -/

/-- An RX ring with its pending line. -/
def RtosShm.rxIo (shm : RtosShm) (i : Fin 6) : RingIo Descriptor Unit :=
  ⟨shm.region.rxRings i, shm.region.rxPendingBitmap, shm.calls, ()⟩

def RtosShm.setRxIo (shm : RtosShm) (i : Fin 6) (io : RingIo Descriptor Unit) : RtosShm :=
  { shm with
    region :=
      { shm.region with
        rxRings := Function.update shm.region.rxRings i io.ring
        rxPendingBitmap := io.pending }
    calls := io.calls }

/-- A TX ring with its pending line. -/
def RtosShm.txIo (shm : RtosShm) (i : Fin 6) : RingIo Descriptor Unit :=
  ⟨shm.region.txRings i, shm.region.txPendingBitmap, shm.calls, ()⟩

def RtosShm.setTxIo (shm : RtosShm) (i : Fin 6) (io : RingIo Descriptor Unit) : RtosShm :=
  { shm with
    region :=
      { shm.region with
        txRings := Function.update shm.region.txRings i io.ring
        txPendingBitmap := io.pending }
    calls := io.calls }

/-- The reclaim ring with its pending line. -/
def RtosShm.reclaimIo (shm : RtosShm) : RingIo ReclaimDescriptor Unit :=
  ⟨shm.region.reclaimRing, shm.region.reclaimPending, shm.calls, ()⟩

def RtosShm.setReclaimIo (shm : RtosShm) (io : RingIo ReclaimDescriptor Unit) : RtosShm :=
  { shm with
    region := { shm.region with reclaimRing := io.ring, reclaimPending := io.pending }
    calls := io.calls }

/-- A cache operation that touches no ring. -/
def RtosShm.cacheOp (P : Platform) (shm : RtosShm) : UnifiedError × RtosShm :=
  (P.outcome shm.calls, { shm with calls := shm.calls + 1 })

/-- `rtos_shm_ipc_dequeue_rx_descriptor`. -/
def rtosShmIpcDequeueRxDescriptor (P : Platform) (shm : RtosShm) (interfaceId : PutShmInterface) :
    UnifiedError × Option Descriptor × RtosShm :=
  if !shm.initialized then (.ipcNotReady, none, shm)
  else match interfaceIndex? interfaceId with
    | none => (.invalidArg, none, shm)
    | some i =>
      let r := rtosShmDescriptorRingDequeue P (shm.rxIo i)
      (r.1, r.2.1, shm.setRxIo i r.2.2)

/-- `rtos_shm_ipc_get_rx_pending_snapshot`. -/
def rtosShmIpcGetRxPendingSnapshot (P : Platform) (shm : RtosShm) :
    UnifiedError × Option UInt32 × RtosShm :=
  if !shm.initialized then (.ipcNotReady, none, shm)
  else
    let synced := shm.cacheOp P
    if synced.1 ≠ .ok then (synced.1, none, synced.2)
    else (.ok, some synced.2.region.rxPendingBitmap.bits, synced.2)

/-- `rtos_shm_ipc_enqueue_tx_descriptor`. -/
def rtosShmIpcEnqueueTxDescriptor (P : Platform) (shm : RtosShm) (interfaceId : PutShmInterface)
    (descriptor : Descriptor) : UnifiedError × RtosShm :=
  if !shm.initialized then (.ipcNotReady, shm)
  else match interfaceIndex? interfaceId with
    | none => (.invalidArg, shm)
    | some i =>
      if descriptor.targetInterface ≠ interfaceId.toUInt8 then (.invalidArg, shm)
      else if validateDescriptorBounds descriptor ≠ .ok then
        (validateDescriptorBounds descriptor, shm)
      else
        let r := rtosShmDescriptorRingEnqueue P (shm.txIo i) descriptor .rtosToLinux
        (r.1, shm.setTxIo i r.2)

/-- The descriptor `rtos_shm_ipc_reclaim_frame` builds. -/
def reclaimDescriptor (frameId : UInt32) (reason : ReclaimReason)
    (sourceInterface targetInterface : PutShmInterface) (epoch flags : UInt32) :
    ReclaimDescriptor :=
  { frameId := frameId
    reason := reason.code
    sourceInterface := sourceInterface.toUInt8
    targetInterface := targetInterface.toUInt8
    epoch := epoch
    flags := flags }

/-- `rtos_shm_ipc_reclaim_frame`. -/
def rtosShmIpcReclaimFrame (P : Platform) (shm : RtosShm) (frameId : UInt32) (reason : ReclaimReason)
    (sourceInterface targetInterface : PutShmInterface) (epoch flags : UInt32) :
    UnifiedError × RtosShm :=
  if !shm.initialized then (.ipcNotReady, shm)
  else if frameId ≥ 64 || !isInterfaceValid sourceInterface.toUInt8 ||
      !isInterfaceValid targetInterface.toUInt8 then (.invalidArg, shm)
  else if validateReclaimRing shm.region.reclaimRing ≠ .ok then (.protocolHeader, shm)
  else
    let r := publishOn P 1
      (reclaimDescriptor frameId reason sourceInterface targetInterface epoch flags).sealed
      shm.reclaimIo
    (r.1, shm.setReclaimIo r.2)

/-- `rtos_shm_ipc_get_frame_const`: the block a descriptor names. -/
def rtosShmIpcGetFrameConst (P : Platform) (shm : RtosShm) (descriptor : Descriptor) :
    UnifiedError × Option FrameBlock × RtosShm :=
  if !shm.initialized then (.ipcNotReady, none, shm)
  else if validateDescriptorBounds descriptor ≠ .ok then
    (validateDescriptorBounds descriptor, none, shm)
  else match frameIndex? descriptor.frameId with
    | none => (.length, none, shm)
    | some f =>
      let synced := shm.cacheOp P
      if synced.1 ≠ .ok then (synced.1, none, synced.2)
      else (.ok, some (synced.2.region.framePool f), synced.2)

end Rtos

end PutGateway
