import PutGateway.Linux.ShmRings
/-!
# The statistics of the IPC

`linux_shm_ipc_get_stats` of `linux_app/ipc/linux_shm_ipc.c`: the counters
of the private context, completed with what the shared region says of its
rings. The egress manager and the status files read this snapshot.
-/

namespace PutGateway

namespace Linux

/-- `linux_shm_ring_stats_t`. -/
structure RingStats where
  used : UInt64 := 0
  capacity : UInt64 := 0
  highWatermark : UInt64 := 0
  enqueueCount : UInt64 := 0
  dequeueCount : UInt64 := 0
  fullCount : UInt64 := 0
  crcErrorCount : UInt64 := 0
  formatErrorCount : UInt64 := 0
  deriving DecidableEq, Repr

/-- `linux_shm_ipc_stats_t`, as it is given out. `leakedSuspect` is a
field of the frame pool that nothing counts. -/
structure LinuxShmIpcSnapshot where
  framePool : FramePoolStats := {}
  leakedSuspect : UInt64 := 0
  interfaceQuota : Fin 6 → InterfaceQuotaStats := fun _ => {}
  rxRings : Fin 6 → RingStats := fun _ => {}
  txRings : Fin 6 → RingStats := fun _ => {}
  rxPendingBits : UInt32 := 0
  txPendingBits : UInt32 := 0
  reclaimPendingBits : UInt32 := 0
  rxDoorbellCount : UInt64 := 0
  txDoorbellCount : UInt64 := 0
  notifyFailCount : UInt64 := 0
  periodicDrainCount : UInt64 := 0
  descriptorCrcErrorCount : UInt64 := 0
  descriptorFormatErrorCount : UInt64 := 0
  cacheSyncErrorCount : UInt64 := 0
  reclaimReasonCount : Fin 7 → UInt64 := fun _ => 0
  reclaimAckCount : UInt64 := 0
  reclaimRingUsed : UInt64 := 0

/-- What the region says of a ring. -/
def ringSnapshot {D : Type} (ring : Ring D) (highWatermark fullCount : UInt64) : RingStats where
  used := ring.used.toUInt64
  capacity := putShmDescriptorRingDepth.toUInt64
  highWatermark := highWatermark
  enqueueCount := ring.producer.enqueueCount.toUInt64
  dequeueCount := ring.consumer.dequeueCount.toUInt64
  fullCount := fullCount
  crcErrorCount := ring.consumer.crcErrorCount.toUInt64
  formatErrorCount := ring.consumer.formatErrorCount.toUInt64

/-- `linux_shm_ipc_get_stats`, on a context that has been initialised and
bound to a region. The count of the periodic drains lies in the context
and is nobody else's. -/
def linuxShmIpcGetStats (ipc : LinuxShmIpc) (region : Region) (periodicDrainCount : UInt64) :
    LinuxShmIpcSnapshot where
  framePool := ipc.stats.framePool
  interfaceQuota := ipc.stats.interfaceQuota
  rxRings i := ringSnapshot (region.rxRings i) (ipc.stats.rxRings i).highWatermark
    (ipc.stats.rxRings i).fullCount
  txRings i := ringSnapshot (region.txRings i) 0 (region.txRings i).producer.dropCount.toUInt64
  rxPendingBits := region.rxPendingBitmap.bits
  txPendingBits := region.txPendingBitmap.bits
  reclaimPendingBits := region.reclaimPending.bits
  rxDoorbellCount := ipc.stats.mailbox.rxDoorbellCount
  txDoorbellCount := (List.finRange 6).foldl
    (fun n i => n + (region.txRings i).producer.notifyCount.toUInt64) 0
  notifyFailCount := (List.finRange 6).foldl
    (fun n i => n + (region.txRings i).producer.notifyFailCount.toUInt64)
    ipc.stats.mailbox.notifyFailCount
  periodicDrainCount := periodicDrainCount
  descriptorCrcErrorCount := ipc.stats.descriptorCrcErrorCount
  descriptorFormatErrorCount := ipc.stats.descriptorFormatErrorCount
  cacheSyncErrorCount := ipc.stats.cacheSyncErrorCount
  reclaimReasonCount := ipc.stats.reclaimReasonCount
  reclaimAckCount := ipc.stats.reclaimAckCount
  reclaimRingUsed := region.reclaimRing.used.toUInt64

/-- `linux_shm_ipc_record_periodic_drain`: the count it leaves. -/
def linuxShmIpcRecordPeriodicDrain (ipc : LinuxShmIpc) (periodicDrainCount : UInt64) : UInt64 :=
  if ipc.initialized then periodicDrainCount + 1 else periodicDrainCount

end Linux

end PutGateway
