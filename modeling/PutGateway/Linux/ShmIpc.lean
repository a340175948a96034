import PutGateway.Common.RingProtocol
import PutGateway.Lib.BitSet
/-!
# The IPC of the Linux core

`linux_app/ipc/linux_shm_ipc.c`. Linux owns the frame pool: a bitmap of
allocated blocks and, for each block, a private record of where the
block is. It allocates a block, fills it and commits it to the RX ring
of its source interface; it takes the block back from a TX ring, to send
and release it, or from the reclaim ring, to release it at once.

The lifecycle of the mapping (`linux_shm_ipc_map`, `unmap`, the checks
that every callback is present) is left out: the callbacks are those of
a platform, and the region is there.
-/

namespace PutGateway

namespace Linux

/-! ## The private context -/

/-- `linux_shm_frame_state_t`. -/
inductive FrameState
  | free
  | allocated
  | rxQueued
  | pendingReclaim
  | txReady
  deriving DecidableEq, Repr

/-- `linux_shm_frame_meta_t`. -/
structure FrameMeta where
  state : FrameState := .free
  sourceInterface : UInt8 := 0
  targetInterface : UInt8 := 0
  pendingReclaim : Bool := false
  allocationSequence : UInt64 := 0
  deriving DecidableEq, Repr

/-- `linux_shm_frame_pool_stats_t`. -/
structure FramePoolStats where
  capacity : UInt64 := 0
  used : UInt64 := 0
  highWatermark : UInt64 := 0
  fullCount : UInt64 := 0
  allocated : UInt64 := 0
  released : UInt64 := 0
  pendingReclaim : UInt64 := 0
  deriving DecidableEq, Repr

/-- `linux_shm_interface_quota_stats_t`. -/
structure InterfaceQuotaStats where
  quota : UInt64 := 0
  used : UInt64 := 0
  fullCount : UInt64 := 0
  deriving DecidableEq, Repr

/-- The fields of `linux_shm_ring_stats_t` Linux counts as a producer;
the rest are filled in when a snapshot is taken. -/
structure RxRingStats where
  fullCount : UInt64 := 0
  highWatermark : UInt64 := 0
  deriving DecidableEq, Repr

/-- The fields of `linux_shm_mailbox_stats_t` the producer counts. -/
structure MailboxStats where
  rxDoorbellCount : UInt64 := 0
  notifyFailCount : UInt64 := 0
  deriving DecidableEq, Repr

/-- `linux_shm_ipc_stats_t`, less the fields of a snapshot. -/
structure LinuxShmIpcStats where
  framePool : FramePoolStats := {}
  interfaceQuota : Fin 6 → InterfaceQuotaStats := fun _ => {}
  rxRings : Fin 6 → RxRingStats := fun _ => {}
  mailbox : MailboxStats := {}
  descriptorCrcErrorCount : UInt64 := 0
  descriptorFormatErrorCount : UInt64 := 0
  cacheSyncErrorCount : UInt64 := 0
  reclaimReasonCount : Fin 7 → UInt64 := fun _ => 0
  reclaimAckCount : UInt64 := 0

/-- `linux_shm_ipc_t`, less the region and the mapping. -/
structure LinuxShmIpc where
  initialized : Bool := false
  allocationBitmap : UInt64 := 0
  frames : Fin 64 → FrameMeta := fun _ => {}
  stats : LinuxShmIpcStats := {}
  allocationSequence : UInt64 := 0

/-- What a Linux operation reads and writes: its context, the region it
is bound to and the number of platform calls made. -/
structure LinuxShm where
  ipc : LinuxShmIpc
  region : Region
  calls : ℕ

/-- The bit of a frame in the allocation bitmap. -/
def frameBit (f : Fin 64) : UInt64 := 1 <<< UInt64.ofNat f

/-- The bit of a frame is set. -/
def LinuxShmIpc.isAllocated (ipc : LinuxShmIpc) (f : Fin 64) : Bool :=
  ipc.allocationBitmap &&& frameBit f != 0

def LinuxShmIpc.modifyFrame (ipc : LinuxShmIpc) (f : Fin 64) (g : FrameMeta → FrameMeta) :
    LinuxShmIpc :=
  { ipc with frames := Function.update ipc.frames f (g (ipc.frames f)) }

def LinuxShmIpcStats.modifyQuota (stats : LinuxShmIpcStats) (i : Fin 6)
    (g : InterfaceQuotaStats → InterfaceQuotaStats) : LinuxShmIpcStats :=
  { stats with interfaceQuota := Function.update stats.interfaceQuota i (g (stats.interfaceQuota i)) }

def LinuxShmIpcStats.modifyRxRing (stats : LinuxShmIpcStats) (i : Fin 6)
    (g : RxRingStats → RxRingStats) : LinuxShmIpcStats :=
  { stats with rxRings := Function.update stats.rxRings i (g (stats.rxRings i)) }

/-- A failed cache operation enters the statistics. -/
def LinuxShmIpc.recordCacheSyncError (ipc : LinuxShmIpc) : LinuxShmIpc :=
  { ipc with
    stats := { ipc.stats with cacheSyncErrorCount := ipc.stats.cacheSyncErrorCount + 1 } }

/-- `interface_pending_bit`. -/
def interfacePendingBit (interfaceId : UInt8) : UInt32 := 1 <<< interfaceId.toUInt32

/-! ## Formatting -/

/-- `format_descriptor_ring`. -/
def formatDescriptorRing (interfaceId : UInt8) (kind : RingKind) (direction : Direction) :
    DescriptorRing where
  header :=
    { magic := putShmRingMagic
      version := putShmIpcVersion
      headerSize := putShmHeaderSize
      depth := putShmDescriptorRingDepth
      descriptorSize := putShmDescriptorSize
      direction := direction.code
      interfaceId := interfaceId
      ringKind := kind.code }
  producer :=
    { depth := putShmDescriptorRingDepth.toUInt32
      descriptorSize := putShmDescriptorSize.toUInt32 }
  descriptors _ := {}

/-- `format_reclaim_ring`. -/
def formatReclaimRing : ReclaimRing where
  header :=
    { magic := putShmRingMagic
      version := putShmIpcVersion
      headerSize := putShmHeaderSize
      depth := putShmDescriptorRingDepth
      descriptorSize := putShmDescriptorSize
      direction := Direction.rtosToLinux.code
      interfaceId := 0
      ringKind := RingKind.reclaim.code }
  producer :=
    { depth := putShmDescriptorRingDepth.toUInt32
      descriptorSize := putShmDescriptorSize.toUInt32 }
  descriptors _ := {}

/-- The header `linux_shm_ipc_format_region` writes. -/
def formatRegionHeader (linuxEpoch rtosEpoch : UInt32) : RegionHeader where
  magic := putShmRegionMagic
  version := putShmIpcVersion
  headerSize := putShmHeaderSize
  regionSize := putShmRegionSize
  framePoolOffset := framePoolOffset
  framePoolBlockCount := 64
  framePoolBlockSize := putShmFramePoolBlockSize
  rxRingsOffset := rxRingsOffset
  txRingsOffset := txRingsOffset
  rxPendingOffset := rxPendingOffset
  txPendingOffset := txPendingOffset
  reclaimPendingOffset := reclaimPendingOffset
  reclaimRingOffset := reclaimRingOffset
  linuxEpoch := linuxEpoch
  rtosEpoch := rtosEpoch

/-- The region `linux_shm_ipc_format_region` leaves. -/
def formatRegion (linuxEpoch rtosEpoch : UInt32) : Region where
  header := formatRegionHeader linuxEpoch rtosEpoch
  framePool _ _ := 0
  rxRings i := formatDescriptorRing (UInt8.ofNat i) .rx .linuxToRtos
  txRings i := formatDescriptorRing (UInt8.ofNat i) .tx .rtosToLinux
  rxPendingBitmap := {}
  txPendingBitmap := {}
  reclaimPending := {}
  reclaimRing := formatReclaimRing

/-- `reset_local_state`, on a context `linux_shm_ipc_init` has cleared
and the caller has marked initialised. -/
def resetLocalState (ipc : LinuxShmIpc) : LinuxShmIpc :=
  { ipc with
    allocationBitmap := 0
    allocationSequence := 0
    frames := fun _ => {}
    stats :=
      { framePool := { capacity := 64 }
        interfaceQuota := fun _ => { quota := 64 } } }

/-- `linux_shm_ipc_format_region`. -/
def linuxShmIpcFormatRegion (shm : LinuxShm) (linuxEpoch rtosEpoch : UInt32) :
    UnifiedError × LinuxShm :=
  (.ok,
    { shm with
      ipc := resetLocalState { initialized := true }
      region := formatRegion linuxEpoch rtosEpoch })

/-! ## Validation -/

/-- `validate_descriptor_ring`. -/
def validateDescriptorRing (ring : DescriptorRing) (expectedKind : RingKind)
    (expectedInterface : UInt8) (expectedDirection : Direction) : UnifiedError :=
  if ring.header.magic ≠ putShmRingMagic || ring.header.version ≠ putShmIpcVersion ||
      ring.header.headerSize ≠ putShmHeaderSize then .protocolHeader
  else if ring.header.depth ≠ putShmDescriptorRingDepth ||
      ring.header.descriptorSize ≠ putShmDescriptorSize ||
      ring.producer.depth ≠ putShmDescriptorRingDepth.toUInt32 ||
      ring.producer.descriptorSize ≠ putShmDescriptorSize.toUInt32 then .length
  else if ring.header.ringKind ≠ expectedKind.code ||
      ring.header.interfaceId ≠ expectedInterface ||
      ring.header.direction ≠ expectedDirection.code then .invalidArg
  else .ok

/-- `validate_reclaim_ring`. -/
def validateReclaimRing (ring : ReclaimRing) : UnifiedError :=
  if ring.header.magic ≠ putShmRingMagic || ring.header.version ≠ putShmIpcVersion ||
      ring.header.headerSize ≠ putShmHeaderSize then .protocolHeader
  else if ring.header.depth ≠ putShmDescriptorRingDepth ||
      ring.header.descriptorSize ≠ putShmDescriptorSize ||
      ring.producer.depth ≠ putShmDescriptorRingDepth.toUInt32 ||
      ring.producer.descriptorSize ≠ putShmDescriptorSize.toUInt32 then .length
  else if ring.header.ringKind ≠ RingKind.reclaim.code ||
      ring.header.direction ≠ Direction.rtosToLinux.code then .invalidArg
  else .ok

/-- `validate_region_header`. -/
def validateRegionHeader (header : RegionHeader) : UnifiedError :=
  if header.magic ≠ putShmRegionMagic || header.version ≠ putShmIpcVersion ||
      header.headerSize ≠ putShmHeaderSize || header.regionSize ≠ putShmRegionSize then
    .protocolHeader
  else if header.framePoolOffset ≠ framePoolOffset || header.rxRingsOffset ≠ rxRingsOffset ||
      header.txRingsOffset ≠ txRingsOffset || header.rxPendingOffset ≠ rxPendingOffset ||
      header.txPendingOffset ≠ txPendingOffset ||
      header.reclaimPendingOffset ≠ reclaimPendingOffset ||
      header.reclaimRingOffset ≠ reclaimRingOffset then .length
  else if header.framePoolBlockCount ≠ 64 ||
      header.framePoolBlockSize ≠ putShmFramePoolBlockSize then .length
  else .ok

/-- The loop of `validate_region` over the interfaces. -/
def validateRings (region : Region) : List (Fin 6) → UnifiedError
  | [] => .ok
  | i :: rest =>
    let rx := validateDescriptorRing (region.rxRings i) .rx (UInt8.ofNat i) .linuxToRtos
    if rx ≠ .ok then rx
    else
      let tx := validateDescriptorRing (region.txRings i) .tx (UInt8.ofNat i) .rtosToLinux
      if tx ≠ .ok then tx else validateRings region rest

/-- `validate_region`. -/
def validateRegion (region : Region) : UnifiedError :=
  let header := validateRegionHeader region.header
  if header ≠ .ok then header
  else
    let rings := validateRings region (List.finRange 6)
    if rings ≠ .ok then rings else validateReclaimRing region.reclaimRing

/-- `linux_shm_ipc_attach`. -/
def linuxShmIpcAttach (shm : LinuxShm) : UnifiedError × LinuxShm :=
  let result := validateRegion shm.region
  if result ≠ .ok then (result, shm)
  else (.ok, { shm with ipc := resetLocalState { initialized := true } })

/-! ## The frame pool -/

/-- `linux_shm_ipc_set_interface_quota`. -/
def linuxShmIpcSetInterfaceQuota (ipc : LinuxShmIpc) (interfaceId : PutShmInterface)
    (quota : UInt64) : UnifiedError × LinuxShmIpc :=
  match interfaceIndex? interfaceId with
  | none => (.invalidArg, ipc)
  | some i =>
    if quota > 64 then (.invalidArg, ipc)
    else (.ok, { ipc with stats := ipc.stats.modifyQuota i fun q => { q with quota := quota } })

/-- The first frame whose bit is clear. -/
def LinuxShmIpc.firstFree (ipc : LinuxShmIpc) : Option (Fin 64) :=
  (List.finRange 64).find? fun f => !ipc.isAllocated f

/-- The updates of a successful allocation. -/
def LinuxShmIpc.claim (ipc : LinuxShmIpc) (i : Fin 6) (sourceInterface : PutShmInterface)
    (f : Fin 64) : LinuxShmIpc :=
  let used := ipc.stats.framePool.used + 1
  { ipc with
    allocationBitmap := ipc.allocationBitmap ||| frameBit f
    frames := Function.update ipc.frames f
      { state := .allocated
        sourceInterface := sourceInterface.toUInt8
        targetInterface := 0
        pendingReclaim := false
        allocationSequence := ipc.allocationSequence + 1 }
    allocationSequence := ipc.allocationSequence + 1
    stats :=
      { ipc.stats.modifyQuota i fun q => { q with used := q.used + 1 } with
        framePool :=
          { ipc.stats.framePool with
            used := used
            allocated := ipc.stats.framePool.allocated + 1
            highWatermark := max used ipc.stats.framePool.highWatermark } } }

def LinuxShmIpc.countPoolFull (ipc : LinuxShmIpc) : LinuxShmIpc :=
  { ipc with
    stats := { ipc.stats with
      framePool := { ipc.stats.framePool with fullCount := ipc.stats.framePool.fullCount + 1 } } }

/-- `linux_shm_frame_alloc`. The output is the array index of the block. -/
def linuxShmFrameAlloc (ipc : LinuxShmIpc) (sourceInterface : PutShmInterface) :
    UnifiedError × Option (Fin 64) × LinuxShmIpc :=
  if !ipc.initialized then (.ipcNotReady, none, ipc)
  else match interfaceIndex? sourceInterface with
    | none => (.invalidArg, none, ipc)
    | some i =>
      if (ipc.stats.interfaceQuota i).used ≥ (ipc.stats.interfaceQuota i).quota then
        (.ipcFramePoolFull, none,
          { ipc with
            stats := ipc.stats.modifyQuota i fun q =>
              { q with fullCount := q.fullCount + 1 } }.countPoolFull)
      else if ipc.allocationBitmap = 0xFFFFFFFFFFFFFFFF then
        (.ipcFramePoolFull, none, ipc.countPoolFull)
      else match ipc.firstFree with
        | some f => (.ok, some f, ipc.claim i sourceInterface f)
        | none => (.ipcFramePoolFull, none, ipc.countPoolFull)

/-- The updates of a successful release. -/
def LinuxShmIpc.discharge (ipc : LinuxShmIpc) (f : Fin 64) (reason : UInt32) : LinuxShmIpc :=
  let pool := ipc.stats.framePool
  let stats := match interfaceIndex? (ipc.frames f).sourceInterface.toUInt32 with
    | none => ipc.stats
    | some i => ipc.stats.modifyQuota i fun q =>
      { q with used := if q.used > 0 then q.used - 1 else q.used }
  { ipc with
    allocationBitmap := ipc.allocationBitmap &&& ~~~frameBit f
    frames := Function.update ipc.frames f {}
    stats :=
      { stats with
        framePool :=
          { pool with
            pendingReclaim :=
              if (ipc.frames f).pendingReclaim && pool.pendingReclaim > 0 then pool.pendingReclaim - 1
              else pool.pendingReclaim
            used := if pool.used > 0 then pool.used - 1 else pool.used
            released := pool.released + 1 }
        reclaimReasonCount :=
          if h : reason.toNat < 7 then
            Function.update stats.reclaimReasonCount ⟨reason.toNat, h⟩
              (stats.reclaimReasonCount ⟨reason.toNat, h⟩ + 1)
          else stats.reclaimReasonCount } }

/-- `linux_shm_frame_release`. -/
def linuxShmFrameRelease (ipc : LinuxShmIpc) (frameId : UInt32) (reason : UInt32) :
    UnifiedError × LinuxShmIpc :=
  if !ipc.initialized then (.ipcNotReady, ipc)
  else match frameIndex? frameId with
    | none => (.invalidArg, ipc)
    | some f =>
      if !ipc.isAllocated f then (.invalidArg, ipc)
      else if (ipc.frames f).state = .rxQueued && !(ipc.frames f).pendingReclaim then
        (.invalidArg, ipc)
      else if (ipc.frames f).state ≠ .allocated && (ipc.frames f).state ≠ .txReady &&
          (ipc.frames f).state ≠ .pendingReclaim && !(ipc.frames f).pendingReclaim then
        (.invalidArg, ipc)
      else (.ok, ipc.discharge f reason)

end Linux

end PutGateway
