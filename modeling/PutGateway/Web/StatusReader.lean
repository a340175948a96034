import PutGateway.Web.StatusSnapshot
/-!
# A reader of the status files

Functions on values of JSON that read the structs of `StatusSnapshot` and
follow their encodings, so that `readText` of them is a reader of texts.
What is said of the status files holds for every such reader; with these it
is tried on examples.
-/

namespace PutGateway

namespace Web

open Json

def ModuleStatus.read : Value → Option ModuleStatus :=
  readStruct fun members => do
    return {
      name := ← readField readString "unknown" (members.get "name")
      status := ← readField readString "unknown" (members.get "status")
      rxBytes := ← readField readU64 0 (members.get "rx_bytes")
      txBytes := ← readField readU64 0 (members.get "tx_bytes")
      rxFrames := ← readField readU64 0 (members.get "rx_frames")
      txFrames := ← readField readU64 0 (members.get "tx_frames")
      decodeErrorCount := ← readField readU64 0 (members.get "decode_error_count")
      fragmentDropCount := ← readField readU64 0 (members.get "fragment_drop_count")
      reassembleTimeoutCount := ← readField readU64 0 (members.get "reassemble_timeout_count")
      crcErrorCount := ← readField readU64 0 (members.get "crc_error_count")
      sendFailCount := ← readField readU64 0 (members.get "send_fail_count")
      interfaceOfflineCount := ← readField readU64 0 (members.get "interface_offline_count")
      lastRxMs := ← readField readU64 0 (members.get "last_rx_ms")
      lastTxMs := ← readField readU64 0 (members.get "last_tx_ms")
      lastError := ← readField readString "none" (members.get "last_error")
      message := ← readField readString "" (members.get "message") }

theorem ModuleStatus.follows : Follows ModuleStatus.read ModuleStatus.Encodes := by
  refine follows_readStruct fun members x h => ?_
  simp only [follows_readField follows_readString h.name,
    follows_readField follows_readString h.status, follows_readField follows_readU64 h.rxBytes,
    follows_readField follows_readU64 h.txBytes, follows_readField follows_readU64 h.rxFrames,
    follows_readField follows_readU64 h.txFrames,
    follows_readField follows_readU64 h.decodeErrorCount,
    follows_readField follows_readU64 h.fragmentDropCount,
    follows_readField follows_readU64 h.reassembleTimeoutCount,
    follows_readField follows_readU64 h.crcErrorCount,
    follows_readField follows_readU64 h.sendFailCount,
    follows_readField follows_readU64 h.interfaceOfflineCount,
    follows_readField follows_readU64 h.lastRxMs, follows_readField follows_readU64 h.lastTxMs,
    follows_readField follows_readString h.lastError,
    follows_readField follows_readString h.message]
  rfl

def ModulesFile.read : Value → Option ModulesFile :=
  readStruct fun members => do
    return {
      updatedAtMs := ← readField readU64 0 (members.get "updated_at_ms")
      state := ← readField (readOption readString) none (members.get "state")
      modules := ← readField (readVec ModuleStatus.read) [] (members.get "modules") }

theorem ModulesFile.follows : Follows ModulesFile.read ModulesFile.Encodes := by
  refine follows_readStruct fun members x h => ?_
  simp only [follows_readField follows_readU64 h.updatedAtMs,
    follows_readField follows_readOptionString h.state,
    follows_readField (follows_readVec ModuleStatus.follows) h.modules]
  rfl

def FramePoolStatus.read : Value → Option FramePoolStatus :=
  readStruct fun members => do
    return {
      capacity := ← readField readU64 0 (members.get "capacity")
      used := ← readField readU64 0 (members.get "used")
      highWatermark := ← readField readU64 0 (members.get "high_watermark")
      fullCount := ← readField readU64 0 (members.get "full_count")
      allocated := ← readField readU64 0 (members.get "allocated")
      released := ← readField readU64 0 (members.get "released")
      pendingReclaim := ← readField readU64 0 (members.get "pending_reclaim")
      leakedSuspect := ← readField readU64 0 (members.get "leaked_suspect") }

theorem FramePoolStatus.follows : Follows FramePoolStatus.read FramePoolStatus.Encodes := by
  refine follows_readStruct fun members x h => ?_
  simp only [follows_readField follows_readU64 h.capacity,
    follows_readField follows_readU64 h.used, follows_readField follows_readU64 h.highWatermark,
    follows_readField follows_readU64 h.fullCount, follows_readField follows_readU64 h.allocated,
    follows_readField follows_readU64 h.released,
    follows_readField follows_readU64 h.pendingReclaim,
    follows_readField follows_readU64 h.leakedSuspect]
  rfl

def RingStatus.read : Value → Option RingStatus :=
  readStruct fun members => do
    return {
      interface := ← readField readString "unknown" (members.get "interface")
      capacity := ← readField readU64 0 (members.get "capacity")
      used := ← readField readU64 0 (members.get "used")
      highWatermark := ← readField readU64 0 (members.get "high_watermark")
      fullCount := ← readField readU64 0 (members.get "full_count") }

theorem RingStatus.follows : Follows RingStatus.read RingStatus.Encodes := by
  refine follows_readStruct fun members x h => ?_
  simp only [follows_readField follows_readString h.interface,
    follows_readField follows_readU64 h.capacity, follows_readField follows_readU64 h.used,
    follows_readField follows_readU64 h.highWatermark,
    follows_readField follows_readU64 h.fullCount]
  rfl

def PendingBitmapStatus.read : Value → Option PendingBitmapStatus :=
  readStruct fun members => do
    return {
      rx := ← readField readString "0x00" (members.get "rx")
      tx := ← readField readString "0x00" (members.get "tx") }

theorem PendingBitmapStatus.follows : Follows PendingBitmapStatus.read PendingBitmapStatus.Encodes := by
  refine follows_readStruct fun members x h => ?_
  simp only [follows_readField follows_readString h.rx,
    follows_readField follows_readString h.tx]
  rfl

def MailboxStatus.read : Value → Option MailboxStatus :=
  readStruct fun members => do
    return {
      rxDoorbellCount := ← readField readU64 0 (members.get "rx_doorbell_count")
      txDoorbellCount := ← readField readU64 0 (members.get "tx_doorbell_count")
      notifyFailCount := ← readField readU64 0 (members.get "notify_fail_count")
      periodicDrainCount := ← readField readU64 0 (members.get "periodic_drain_count") }

theorem MailboxStatus.follows : Follows MailboxStatus.read MailboxStatus.Encodes := by
  refine follows_readStruct fun members x h => ?_
  simp only [follows_readField follows_readU64 h.rxDoorbellCount,
    follows_readField follows_readU64 h.txDoorbellCount,
    follows_readField follows_readU64 h.notifyFailCount,
    follows_readField follows_readU64 h.periodicDrainCount]
  rfl

def IntegrityStatus.read : Value → Option IntegrityStatus :=
  readStruct fun members => do
    return {
      descriptorCrcErrorCount := ← readField readU64 0 (members.get "descriptor_crc_error_count")
      epochMismatchCount := ← readField readU64 0 (members.get "epoch_mismatch_count")
      cacheSyncErrorCount := ← readField readU64 0 (members.get "cache_sync_error_count") }

theorem IntegrityStatus.follows : Follows IntegrityStatus.read IntegrityStatus.Encodes := by
  refine follows_readStruct fun members x h => ?_
  simp only [follows_readField follows_readU64 h.descriptorCrcErrorCount,
    follows_readField follows_readU64 h.epochMismatchCount,
    follows_readField follows_readU64 h.cacheSyncErrorCount]
  rfl

def ReclaimStatus.read : Value → Option ReclaimStatus :=
  readStruct fun members => do
    return {
      heartbeatConsumed := ← readField readU64 0 (members.get "heartbeat_consumed")
      invalidFrameReclaimed := ← readField readU64 0 (members.get "invalid_frame_reclaimed")
      noRouteReclaimed := ← readField readU64 0 (members.get "no_route_reclaimed")
      ttlExpiredReclaimed := ← readField readU64 0 (members.get "ttl_expired_reclaimed")
      epochMismatchReclaimed := ← readField readU64 0 (members.get "epoch_mismatch_reclaimed")
      reclaimRingUsed := ← readField readU64 0 (members.get "reclaim_ring_used")
      reclaimAckCount := ← readField readU64 0 (members.get "reclaim_ack_count") }

theorem ReclaimStatus.follows : Follows ReclaimStatus.read ReclaimStatus.Encodes := by
  refine follows_readStruct fun members x h => ?_
  simp only [follows_readField follows_readU64 h.heartbeatConsumed,
    follows_readField follows_readU64 h.invalidFrameReclaimed,
    follows_readField follows_readU64 h.noRouteReclaimed,
    follows_readField follows_readU64 h.ttlExpiredReclaimed,
    follows_readField follows_readU64 h.epochMismatchReclaimed,
    follows_readField follows_readU64 h.reclaimRingUsed,
    follows_readField follows_readU64 h.reclaimAckCount]
  rfl

def IpcStatusResponse.read : Value → Option IpcStatusResponse :=
  readStruct fun members => do
    return {
      updatedAtMs := ← readField readU64 0 (members.get "updated_at_ms")
      state := ← readField readString "" (members.get "state")
      rtosOnline := ← readField readBool false (members.get "rtos_online")
      heartbeatMs := ← readField readU64 0 (members.get "heartbeat_ms")
      framePool := ← readField FramePoolStatus.read {} (members.get "frame_pool")
      rxRings := ← readField (readVec RingStatus.read) [] (members.get "rx_rings")
      txRings := ← readField (readVec RingStatus.read) [] (members.get "tx_rings")
      pendingBitmap := ← readField PendingBitmapStatus.read {} (members.get "pending_bitmap")
      mailbox := ← readField MailboxStatus.read {} (members.get "mailbox")
      integrity := ← readField IntegrityStatus.read {} (members.get "integrity")
      reclaim := ← readField ReclaimStatus.read {} (members.get "reclaim") }

theorem IpcStatusResponse.follows : Follows IpcStatusResponse.read IpcStatusResponse.Encodes := by
  refine follows_readStruct fun members x h => ?_
  simp only [follows_readField follows_readU64 h.updatedAtMs,
    follows_readField follows_readString h.state, follows_readField follows_readBool h.rtosOnline,
    follows_readField follows_readU64 h.heartbeatMs,
    follows_readField FramePoolStatus.follows h.framePool,
    follows_readField (follows_readVec RingStatus.follows) h.rxRings,
    follows_readField (follows_readVec RingStatus.follows) h.txRings,
    follows_readField PendingBitmapStatus.follows h.pendingBitmap,
    follows_readField MailboxStatus.follows h.mailbox,
    follows_readField IntegrityStatus.follows h.integrity,
    follows_readField ReclaimStatus.follows h.reclaim]
  rfl

def EventRecord.read : Value → Option EventRecord :=
  readStruct fun members => do
    return {
      timestampMs := ← readField readU64 0 (members.get "timestamp_ms")
      level := ← readField readString "unknown" (members.get "level")
      source := ← readField readString "unknown" (members.get "source")
      message := ← readField readString "" (members.get "message")
      detail := ← readField readString "" (members.get "detail") }

theorem EventRecord.follows : Follows EventRecord.read EventRecord.Encodes := by
  refine follows_readStruct fun members x h => ?_
  simp only [follows_readField follows_readU64 h.timestampMs,
    follows_readField follows_readString h.level, follows_readField follows_readString h.source,
    follows_readField follows_readString h.message,
    follows_readField follows_readString h.detail]
  rfl

end Web

end PutGateway
