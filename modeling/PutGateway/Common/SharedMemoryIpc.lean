import PutGateway.Common.AnymsgFrame
import PutGateway.Common.Crc16
import PutGateway.Lib.SeqRing
import Mathlib.Data.Fintype.Pi
/-!
# The shared memory region

`common/include/shared_memory_ipc.h`: the 64 KiB region the two cores
share. Linux owns a pool of 64 frame blocks and passes descriptors of
them through one RX ring per interface; the RTOS answers through one TX
ring per interface and one reclaim ring. Each ring has a producer line
and a consumer line, and a word of pending bits tells the consumer which
rings may hold something.

Fields no function reads (reserved tails, padding to a cache line) are
left out, save the reserved bytes of a descriptor, which its CRC covers.
-/

namespace PutGateway

/-! ## Constants -/

/-- `PUT_SHM_IPC_VERSION`. -/
def putShmIpcVersion : UInt16 := 2
/-- `PUT_SHM_REGION_MAGIC`. -/
def putShmRegionMagic : UInt32 := 0x50555432
/-- `PUT_SHM_RING_MAGIC`. -/
def putShmRingMagic : UInt32 := 0x4452494E
/-- `PUT_SHM_CACHE_LINE_SIZE`. -/
def putShmCacheLineSize : UInt32 := 64
/-- `PUT_SHM_REGION_SIZE`. -/
def putShmRegionSize : UInt32 := 64 * 1024
/-- `PUT_SHM_FRAME_POOL_BLOCK_SIZE`. -/
def putShmFramePoolBlockSize : UInt32 := 512
/-- `PUT_SHM_DESCRIPTOR_SIZE` and `PUT_SHM_RECLAIM_DESCRIPTOR_SIZE`. -/
def putShmDescriptorSize : UInt16 := 64
/-- `PUT_SHM_DESCRIPTOR_RING_DEPTH` and `PUT_SHM_RECLAIM_RING_DEPTH`. -/
def putShmDescriptorRingDepth : UInt16 := 8
/-- `sizeof(put_shm_region_header_t)` and `sizeof(put_shm_ring_header_t)`. -/
def putShmHeaderSize : UInt16 := 64

/-- `offsetof(put_shm_region_t, frame_pool)`. -/
def framePoolOffset : UInt32 := putShmCacheLineSize
/-- `offsetof(put_shm_region_t, rx_rings)`. -/
def rxRingsOffset : UInt32 := framePoolOffset + 64 * putShmFramePoolBlockSize
/-- `PUT_SHM_DESCRIPTOR_RING_SIZE`. -/
def putShmDescriptorRingSize : UInt32 := 3 * putShmCacheLineSize + 8 * putShmCacheLineSize
/-- `offsetof(put_shm_region_t, tx_rings)`. -/
def txRingsOffset : UInt32 := rxRingsOffset + 6 * putShmDescriptorRingSize
/-- `offsetof(put_shm_region_t, rx_pending_bitmap)`. -/
def rxPendingOffset : UInt32 := txRingsOffset + 6 * putShmDescriptorRingSize
/-- `offsetof(put_shm_region_t, tx_pending_bitmap)`. -/
def txPendingOffset : UInt32 := rxPendingOffset + putShmCacheLineSize
/-- `offsetof(put_shm_region_t, reclaim_pending)`. -/
def reclaimPendingOffset : UInt32 := txPendingOffset + putShmCacheLineSize
/-- `offsetof(put_shm_region_t, reclaim_ring)`. -/
def reclaimRingOffset : UInt32 := reclaimPendingOffset + putShmCacheLineSize

/-- `put_shm_direction_t`. -/
inductive Direction
  | none
  | linuxToRtos
  | rtosToLinux
  deriving DecidableEq, Repr

def Direction.code : Direction → UInt8
  | .none => 0
  | .linuxToRtos => 1
  | .rtosToLinux => 2

/-- `put_shm_ring_kind_t`. -/
inductive RingKind
  | none
  | rx
  | tx
  | reclaim
  deriving DecidableEq, Repr

def RingKind.code : RingKind → UInt8
  | .none => 0
  | .rx => 1
  | .tx => 2
  | .reclaim => 3

/-- `put_shm_reclaim_reason_t`. -/
inductive ReclaimReason
  | none
  | heartbeatConsumed
  | noRoute
  | ttlExpired
  | epochMismatch
  | invalidFrame
  | queueFull
  deriving DecidableEq, Repr

def ReclaimReason.code : ReclaimReason → UInt32
  | .none => 0
  | .heartbeatConsumed => 1
  | .noRoute => 2
  | .ttlExpired => 3
  | .epochMismatch => 4
  | .invalidFrame => 5
  | .queueFull => 6

/-- A `put_shm_interface_t`, which the code casts to and from `uint8_t`
and uses as an array index. -/
abbrev PutShmInterface := UInt32

def putShmInterfaceCan : PutShmInterface := 0
def putShmInterfaceEthernet : PutShmInterface := 1
def putShmInterfaceWifi : PutShmInterface := 2
def putShmInterfaceBluetooth : PutShmInterface := 3
def putShmInterface4G : PutShmInterface := 4
def putShmInterfaceRs485 : PutShmInterface := 5

def descriptorFlagAuthOk : UInt32 := (1 : UInt32) <<< 0
def descriptorFlagIntegrityOk : UInt32 := (1 : UInt32) <<< 1
def descriptorFlagReplayOk : UInt32 := (1 : UInt32) <<< 2
def descriptorFlagInternalTrusted : UInt32 := (1 : UInt32) <<< 3
def descriptorFlagControlAllowed : UInt32 := (1 : UInt32) <<< 4

/-- `PUT_SHM_DESCRIPTOR_TRUST_FLAG_MASK`. -/
def descriptorTrustFlagMask : UInt32 :=
  descriptorFlagAuthOk ||| descriptorFlagIntegrityOk ||| descriptorFlagReplayOk |||
    descriptorFlagInternalTrusted ||| descriptorFlagControlAllowed

/-! ## Array indices -/

/-- `is_interface_valid` of a `uint8_t`. -/
def isInterfaceValid (interfaceId : UInt8) : Bool := interfaceId < 6

/-- The array index of an interface; a value of 6 and more has none. The
code checks the value cut to `uint8_t` and indexes with the whole value.
Where the two differ (`pastArray`) the code leaves the array, and what it
does has no meaning; a match on the index refuses the value there. -/
def interfaceIndex? (interfaceId : PutShmInterface) : Option (Fin 6) :=
  if h : interfaceId.toNat < 6 then some ⟨interfaceId.toNat, h⟩ else none

/-- A value past the array whose low byte passes the check. -/
def pastArray (interfaceId : PutShmInterface) : Bool :=
  isInterfaceValid interfaceId.toUInt8 && !(interfaceId < 6)

/-- The array index of a frame id. -/
def frameIndex? (frameId : UInt32) : Option (Fin 64) :=
  if h : frameId.toNat < 64 then some ⟨frameId.toNat, h⟩ else none

/-- The interface with an array index. -/
def interfaceOfIndex (i : Fin 6) : PutShmInterface := UInt32.ofNat i

/-- The frame id of an array index. -/
def frameIdOfIndex (f : Fin 64) : UInt32 := UInt32.ofNat f

theorem isInterfaceValid_ofNat : ∀ i : Fin 6, isInterfaceValid (UInt8.ofNat i) = true := by decide

theorem interfaceIndex?_eq_some {id : PutShmInterface} {i : Fin 6} :
    interfaceIndex? id = some i ↔ id = interfaceOfIndex i := by
  have hval : ∀ i : Fin 6, (interfaceOfIndex i).toNat = i := by decide
  unfold interfaceIndex?
  constructor
  · intro h
    split at h
    · obtain rfl := Option.some.inj h
      exact UInt32.toNat_inj.mp (by rw [hval])
    · cases h
  · rintro rfl
    rw [dif_pos (by rw [hval]; exact i.isLt)]
    exact congrArg some (Fin.ext (hval i))

@[simp] theorem interfaceIndex?_interfaceOfIndex (i : Fin 6) :
    interfaceIndex? (interfaceOfIndex i) = some i := interfaceIndex?_eq_some.mpr rfl

/-- Where the check of the low byte fails the value has no index. -/
theorem interfaceIndex?_eq_none_of_invalid {id : PutShmInterface}
    (h : isInterfaceValid id.toUInt8 = false) : interfaceIndex? id = none := by
  by_contra hsome
  obtain ⟨i, hi⟩ := Option.ne_none_iff_exists'.mp hsome
  obtain rfl := interfaceIndex?_eq_some.mp hi
  revert i
  decide

/-- Where it passes, the value has an index or is past the array. -/
theorem interfaceIndex?_isNone_of_valid {id : PutShmInterface}
    (h : isInterfaceValid id.toUInt8 = true) : (interfaceIndex? id).isNone = pastArray id := by
  unfold interfaceIndex? pastArray
  rw [h, Bool.true_and]
  by_cases hlt : id.toNat < 6
  · have hid : id < 6 := hlt
    simp [hlt, hid]
  · have hid : ¬ id < 6 := hlt
    simp [hlt, hid]

theorem frameIndex?_eq_some {id : UInt32} {f : Fin 64} :
    frameIndex? id = some f ↔ id = frameIdOfIndex f := by
  have hval : ∀ f : Fin 64, (frameIdOfIndex f).toNat = f := by decide
  unfold frameIndex?
  constructor
  · intro h
    split at h
    · obtain rfl := Option.some.inj h
      exact UInt32.toNat_inj.mp (by rw [hval])
    · cases h
  · rintro rfl
    rw [dif_pos (by rw [hval]; exact f.isLt)]
    exact congrArg some (Fin.ext (hval f))

theorem frameIndex?_lt {id : UInt32} {f : Fin 64} (h : frameIndex? id = some f) : id < 64 := by
  have hall : ∀ f : Fin 64, frameIdOfIndex f < 64 := by decide
  rw [frameIndex?_eq_some.mp h]
  exact hall f

@[simp] theorem frameIndex?_frameIdOfIndex (f : Fin 64) :
    frameIndex? (frameIdOfIndex f) = some f := frameIndex?_eq_some.mpr rfl

theorem frameIdOfIndex_inj {f g : Fin 64} : frameIdOfIndex f = frameIdOfIndex g ↔ f = g := by
  constructor
  · intro h
    have hf := frameIndex?_frameIdOfIndex f
    rw [h, frameIndex?_frameIdOfIndex] at hf
    exact (Option.some.inj hf).symm
  · rintro rfl
    rfl

theorem toUInt8_interfaceOfIndex (i : Fin 6) : (interfaceOfIndex i).toUInt8 = UInt8.ofNat i := by
  revert i
  decide

/-! ## Descriptors -/

/-- `put_shm_descriptor_t`. The defaults are those of `memset(.., 0, ..)`. -/
structure Descriptor where
  frameId : UInt32 := 0
  frameOffset : UInt32 := 0
  frameLength : UInt16 := 0
  sourceInterface : UInt8 := 0
  targetInterface : UInt8 := 0
  sourceCid : Cid := {}
  destinationCid : Cid := {}
  type : UInt8 := 0
  priority : UInt8 := 0
  ttl : UInt8 := 0
  reserved0 : UInt8 := 0
  epoch : UInt32 := 0
  flags : UInt32 := 0
  reserved1 : Fin 30 → UInt8 := fun _ => 0
  descriptorCrc16 : UInt16 := 0
  deriving DecidableEq

/-- `put_shm_reclaim_descriptor_t`. -/
structure ReclaimDescriptor where
  frameId : UInt32 := 0
  reason : UInt32 := 0
  sourceInterface : UInt8 := 0
  targetInterface : UInt8 := 0
  reserved0 : UInt16 := 0
  epoch : UInt32 := 0
  flags : UInt32 := 0
  reserved1 : Fin 42 → UInt8 := fun _ => 0
  descriptorCrc16 : UInt16 := 0
  deriving DecidableEq

/-- The bytes of a descriptor before its CRC. Both cores are
little-endian. -/
def Descriptor.bytes (d : Descriptor) : List UInt8 :=
  le32 d.frameId ++ le32 d.frameOffset ++ le16 d.frameLength ++
    [d.sourceInterface, d.targetInterface] ++ d.sourceCid.toList ++ d.destinationCid.toList ++
    [d.type, d.priority, d.ttl, d.reserved0] ++ le32 d.epoch ++ le32 d.flags ++
    List.ofFn d.reserved1

/-- The bytes of a reclaim descriptor before its CRC. -/
def ReclaimDescriptor.bytes (d : ReclaimDescriptor) : List UInt8 :=
  le32 d.frameId ++ le32 d.reason ++ [d.sourceInterface, d.targetInterface] ++ le16 d.reserved0 ++
    le32 d.epoch ++ le32 d.flags ++ List.ofFn d.reserved1

/-- `descriptor_crc` on Linux, `calculate_descriptor_crc` on the RTOS. -/
def descriptorCrc (d : Descriptor) : UInt16 := unifiedCrc16CcittFalse d.bytes

/-- `reclaim_crc` on Linux, `calculate_reclaim_crc` on the RTOS. -/
def reclaimCrc (d : ReclaimDescriptor) : UInt16 := unifiedCrc16CcittFalse d.bytes

def Descriptor.withCrc (d : Descriptor) (crc : UInt16) : Descriptor :=
  { d with descriptorCrc16 := crc }

def ReclaimDescriptor.withCrc (d : ReclaimDescriptor) (crc : UInt16) : ReclaimDescriptor :=
  { d with descriptorCrc16 := crc }

/-- A descriptor with its CRC filled in. -/
def Descriptor.sealed (d : Descriptor) : Descriptor := d.withCrc (descriptorCrc d)

/-- A reclaim descriptor with its CRC filled in. -/
def ReclaimDescriptor.sealed (d : ReclaimDescriptor) : ReclaimDescriptor := d.withCrc (reclaimCrc d)

/-- The CRC field is not among the bytes the CRC covers. -/
@[simp] theorem Descriptor.bytes_withCrc (d : Descriptor) (crc : UInt16) :
    (d.withCrc crc).bytes = d.bytes := rfl

@[simp] theorem ReclaimDescriptor.bytes_withCrc (d : ReclaimDescriptor) (crc : UInt16) :
    (d.withCrc crc).bytes = d.bytes := rfl

@[simp] theorem Descriptor.descriptorCrc16_withCrc (d : Descriptor) (crc : UInt16) :
    (d.withCrc crc).descriptorCrc16 = crc := rfl

@[simp] theorem ReclaimDescriptor.descriptorCrc16_withCrc (d : ReclaimDescriptor) (crc : UInt16) :
    (d.withCrc crc).descriptorCrc16 = crc := rfl

/-- A sealed descriptor passes the CRC check. -/
theorem descriptorCrc_sealed (d : Descriptor) :
    descriptorCrc d.sealed = d.sealed.descriptorCrc16 := by
  unfold Descriptor.sealed
  rw [Descriptor.descriptorCrc16_withCrc]
  unfold descriptorCrc
  rw [Descriptor.bytes_withCrc]

theorem reclaimCrc_sealed (d : ReclaimDescriptor) :
    reclaimCrc d.sealed = d.sealed.descriptorCrc16 := by
  unfold ReclaimDescriptor.sealed
  rw [ReclaimDescriptor.descriptorCrc16_withCrc]
  unfold reclaimCrc
  rw [ReclaimDescriptor.bytes_withCrc]

/-! Sealing changes the CRC field only. -/

section Sealed

variable (d : Descriptor) (r : ReclaimDescriptor) (crc : UInt16)

@[simp] theorem Descriptor.frameId_withCrc : (d.withCrc crc).frameId = d.frameId := rfl

@[simp] theorem Descriptor.sourceInterface_withCrc :
    (d.withCrc crc).sourceInterface = d.sourceInterface := rfl

@[simp] theorem Descriptor.targetInterface_withCrc :
    (d.withCrc crc).targetInterface = d.targetInterface := rfl

@[simp] theorem Descriptor.frameLength_withCrc : (d.withCrc crc).frameLength = d.frameLength := rfl

@[simp] theorem Descriptor.sourceCid_withCrc : (d.withCrc crc).sourceCid = d.sourceCid := rfl

@[simp] theorem Descriptor.destinationCid_withCrc :
    (d.withCrc crc).destinationCid = d.destinationCid := rfl

@[simp] theorem Descriptor.type_withCrc : (d.withCrc crc).type = d.type := rfl

@[simp] theorem Descriptor.priority_withCrc : (d.withCrc crc).priority = d.priority := rfl

@[simp] theorem Descriptor.epoch_withCrc : (d.withCrc crc).epoch = d.epoch := rfl

@[simp] theorem Descriptor.flags_withCrc : (d.withCrc crc).flags = d.flags := rfl

@[simp] theorem Descriptor.frameId_sealed : d.sealed.frameId = d.frameId := frameId_withCrc d _

@[simp] theorem Descriptor.sourceInterface_sealed : d.sealed.sourceInterface = d.sourceInterface :=
  sourceInterface_withCrc d _

@[simp] theorem Descriptor.targetInterface_sealed : d.sealed.targetInterface = d.targetInterface :=
  targetInterface_withCrc d _

@[simp] theorem Descriptor.frameLength_sealed : d.sealed.frameLength = d.frameLength :=
  frameLength_withCrc d _

@[simp] theorem Descriptor.sourceCid_sealed : d.sealed.sourceCid = d.sourceCid := sourceCid_withCrc d _

@[simp] theorem Descriptor.destinationCid_sealed : d.sealed.destinationCid = d.destinationCid :=
  destinationCid_withCrc d _

@[simp] theorem Descriptor.type_sealed : d.sealed.type = d.type := type_withCrc d _

@[simp] theorem Descriptor.priority_sealed : d.sealed.priority = d.priority := priority_withCrc d _

@[simp] theorem Descriptor.epoch_sealed : d.sealed.epoch = d.epoch := epoch_withCrc d _

@[simp] theorem Descriptor.flags_sealed : d.sealed.flags = d.flags := flags_withCrc d _

@[simp] theorem ReclaimDescriptor.frameId_withCrc : (r.withCrc crc).frameId = r.frameId := rfl

@[simp] theorem ReclaimDescriptor.reason_withCrc : (r.withCrc crc).reason = r.reason := rfl

@[simp] theorem ReclaimDescriptor.sourceInterface_withCrc :
    (r.withCrc crc).sourceInterface = r.sourceInterface := rfl

@[simp] theorem ReclaimDescriptor.targetInterface_withCrc :
    (r.withCrc crc).targetInterface = r.targetInterface := rfl

@[simp] theorem ReclaimDescriptor.epoch_withCrc : (r.withCrc crc).epoch = r.epoch := rfl

@[simp] theorem ReclaimDescriptor.flags_withCrc : (r.withCrc crc).flags = r.flags := rfl

@[simp] theorem ReclaimDescriptor.frameId_sealed : r.sealed.frameId = r.frameId :=
  frameId_withCrc r _

@[simp] theorem ReclaimDescriptor.reason_sealed : r.sealed.reason = r.reason := reason_withCrc r _

@[simp] theorem ReclaimDescriptor.sourceInterface_sealed :
    r.sealed.sourceInterface = r.sourceInterface :=
  sourceInterface_withCrc r _

@[simp] theorem ReclaimDescriptor.targetInterface_sealed :
    r.sealed.targetInterface = r.targetInterface :=
  targetInterface_withCrc r _

@[simp] theorem ReclaimDescriptor.epoch_sealed : r.sealed.epoch = r.epoch := epoch_withCrc r _

@[simp] theorem ReclaimDescriptor.flags_sealed : r.sealed.flags = r.flags := flags_withCrc r _

end Sealed

/-- `validate_descriptor_bounds`, the same on both cores. -/
def validateDescriptorBounds (d : Descriptor) : UnifiedError :=
  if !isInterfaceValid d.sourceInterface || !isInterfaceValid d.targetInterface then .invalidArg
  else if d.frameId ≥ 64 then .length
  else if d.frameOffset ≠ d.frameId * putShmFramePoolBlockSize then .length
  else if d.frameLength < anymsgHeaderSize || d.frameLength > 512 then .length
  else .ok

@[simp] theorem validateDescriptorBounds_withCrc (d : Descriptor) (crc : UInt16) :
    validateDescriptorBounds (d.withCrc crc) = validateDescriptorBounds d := rfl

@[simp] theorem validateDescriptorBounds_sealed (d : Descriptor) :
    validateDescriptorBounds d.sealed = validateDescriptorBounds d :=
      validateDescriptorBounds_withCrc d _

/-- The bounds checks report no full ring. -/
theorem validateDescriptorBounds_ne_full {d : Descriptor} :
    validateDescriptorBounds d ≠ .ipcQueueFull := by
  unfold validateDescriptorBounds
  split_ifs <;> simp

/-- A descriptor within bounds names a frame. -/
theorem frameIndex?_of_bounds {d : Descriptor} (h : validateDescriptorBounds d = .ok) :
    ∃ f, frameIndex? d.frameId = some f := by
  unfold validateDescriptorBounds at h
  split_ifs at h with h1 h2
  have hlt : d.frameId.toNat < 64 := UInt32.lt_iff_toNat_lt.mp (UInt32.not_le.mp h2)
  exact ⟨⟨d.frameId.toNat, hlt⟩, dif_pos hlt⟩

/-! ## Rings -/

/-- `put_shm_ring_header_t`. -/
structure RingHeader where
  magic : UInt32 := 0
  version : UInt16 := 0
  headerSize : UInt16 := 0
  depth : UInt16 := 0
  descriptorSize : UInt16 := 0
  direction : UInt8 := 0
  interfaceId : UInt8 := 0
  ringKind : UInt8 := 0
  deriving DecidableEq, Repr

/-- `put_shm_ring_producer_t`. -/
structure RingProducer where
  writeSeq : UInt32 := 0
  depth : UInt32 := 0
  descriptorSize : UInt32 := 0
  enqueueCount : UInt32 := 0
  dropCount : UInt32 := 0
  notifyCount : UInt32 := 0
  notifyFailCount : UInt32 := 0
  deriving DecidableEq, Repr

/-- `put_shm_ring_consumer_t`. -/
structure RingConsumer where
  readSeq : UInt32 := 0
  dequeueCount : UInt32 := 0
  crcErrorCount : UInt32 := 0
  formatErrorCount : UInt32 := 0
  deriving DecidableEq, Repr

/-- `put_shm_descriptor_ring_t` and `put_shm_reclaim_ring_t`, which
differ in their descriptors only. -/
structure Ring (D : Type) where
  header : RingHeader := {}
  producer : RingProducer := {}
  consumer : RingConsumer := {}
  descriptors : Fin 8 → D

abbrev DescriptorRing := Ring Descriptor
abbrev ReclaimRing := Ring ReclaimDescriptor

/-- `put_shm_pending_line_t`. -/
structure PendingLine where
  bits : UInt32 := 0
  setCount : UInt32 := 0
  clearCount : UInt32 := 0
  deriving DecidableEq, Repr

/-- `put_shm_region_header_t`. -/
structure RegionHeader where
  magic : UInt32 := 0
  version : UInt16 := 0
  headerSize : UInt16 := 0
  regionSize : UInt32 := 0
  framePoolOffset : UInt32 := 0
  framePoolBlockCount : UInt32 := 0
  framePoolBlockSize : UInt32 := 0
  rxRingsOffset : UInt32 := 0
  txRingsOffset : UInt32 := 0
  rxPendingOffset : UInt32 := 0
  txPendingOffset : UInt32 := 0
  reclaimPendingOffset : UInt32 := 0
  reclaimRingOffset : UInt32 := 0
  linuxEpoch : UInt32 := 0
  rtosEpoch : UInt32 := 0
  deriving DecidableEq, Repr

/-- `put_shm_region_t`. -/
structure Region where
  header : RegionHeader
  framePool : Fin 64 → FrameBlock
  rxRings : Fin 6 → DescriptorRing
  txRings : Fin 6 → DescriptorRing
  rxPendingBitmap : PendingLine
  txPendingBitmap : PendingLine
  reclaimPending : PendingLine
  reclaimRing : ReclaimRing

end PutGateway
