import PutGateway.Lib.JsonStructs
import PutGateway.Web.LogReader
/-!
# Reading the status files

`web/backend/src/status_snapshot.rs`: the web backend reads the files the
status collector of `linux_app` writes. A file that is missing or broken is
reported as unknown, a file that is too old as stale.

The files are read by `serde_json::from_str`, at structs that derive
`Deserialize`. Neither is part of the repository: the function is a
parameter here, and each struct comes with the values of JSON that encode
it. A field with `#[serde(default)]` has the default of its type where it is
missing, one with `#[serde(default = "unknown")]` what that function gives.
-/

namespace PutGateway

namespace Web

open Json

/-! ## The structs

Of each struct `Fields` says which member gives a field, and what the field
is without it; `Encodes` are the objects with members for its fields. -/

/-- `ModuleStatus`. -/
structure ModuleStatus where
  name : String := "unknown"
  status : String := "unknown"
  rxBytes : UInt64 := 0
  txBytes : UInt64 := 0
  rxFrames : UInt64 := 0
  txFrames : UInt64 := 0
  decodeErrorCount : UInt64 := 0
  fragmentDropCount : UInt64 := 0
  reassembleTimeoutCount : UInt64 := 0
  crcErrorCount : UInt64 := 0
  sendFailCount : UInt64 := 0
  interfaceOfflineCount : UInt64 := 0
  lastRxMs : UInt64 := 0
  lastTxMs : UInt64 := 0
  lastError : String := "none"
  message : String := ""
  deriving DecidableEq

structure ModuleStatus.Fields (members : Members) (x : ModuleStatus) : Prop where
  name : EncodesField EncodesString "unknown" (members.get "name") x.name
  status : EncodesField EncodesString "unknown" (members.get "status") x.status
  rxBytes : EncodesField EncodesU64 0 (members.get "rx_bytes") x.rxBytes
  txBytes : EncodesField EncodesU64 0 (members.get "tx_bytes") x.txBytes
  rxFrames : EncodesField EncodesU64 0 (members.get "rx_frames") x.rxFrames
  txFrames : EncodesField EncodesU64 0 (members.get "tx_frames") x.txFrames
  decodeErrorCount : EncodesField EncodesU64 0 (members.get "decode_error_count") x.decodeErrorCount
  fragmentDropCount :
    EncodesField EncodesU64 0 (members.get "fragment_drop_count") x.fragmentDropCount
  reassembleTimeoutCount :
    EncodesField EncodesU64 0 (members.get "reassemble_timeout_count") x.reassembleTimeoutCount
  crcErrorCount : EncodesField EncodesU64 0 (members.get "crc_error_count") x.crcErrorCount
  sendFailCount : EncodesField EncodesU64 0 (members.get "send_fail_count") x.sendFailCount
  interfaceOfflineCount :
    EncodesField EncodesU64 0 (members.get "interface_offline_count") x.interfaceOfflineCount
  lastRxMs : EncodesField EncodesU64 0 (members.get "last_rx_ms") x.lastRxMs
  lastTxMs : EncodesField EncodesU64 0 (members.get "last_tx_ms") x.lastTxMs
  lastError : EncodesField EncodesString "none" (members.get "last_error") x.lastError
  message : EncodesField EncodesString "" (members.get "message") x.message

def ModuleStatus.Encodes : Value → ModuleStatus → Prop :=
  EncodesStruct ["name", "status", "rx_bytes", "tx_bytes", "rx_frames", "tx_frames",
    "decode_error_count", "fragment_drop_count", "reassemble_timeout_count", "crc_error_count",
    "send_fail_count", "interface_offline_count", "last_rx_ms", "last_tx_ms", "last_error",
    "message"] ModuleStatus.Fields

/-- `ModulesFile`. -/
structure ModulesFile where
  updatedAtMs : UInt64
  state : Option String
  modules : List ModuleStatus

structure ModulesFile.Fields (members : Members) (x : ModulesFile) : Prop where
  updatedAtMs : EncodesField EncodesU64 0 (members.get "updated_at_ms") x.updatedAtMs
  state : EncodesField (EncodesOption EncodesString) none (members.get "state") x.state
  modules : EncodesField (EncodesVec ModuleStatus.Encodes) [] (members.get "modules") x.modules

def ModulesFile.Encodes : Value → ModulesFile → Prop :=
  EncodesStruct ["updated_at_ms", "state", "modules"] ModulesFile.Fields

/-- `ModulesResponse`. -/
structure ModulesResponse where
  updatedAtMs : UInt64
  state : String
  modules : List ModuleStatus
  deriving DecidableEq

/-- `FramePoolStatus`. -/
structure FramePoolStatus where
  capacity : UInt64 := 0
  used : UInt64 := 0
  highWatermark : UInt64 := 0
  fullCount : UInt64 := 0
  allocated : UInt64 := 0
  released : UInt64 := 0
  pendingReclaim : UInt64 := 0
  leakedSuspect : UInt64 := 0
  deriving DecidableEq

structure FramePoolStatus.Fields (members : Members) (x : FramePoolStatus) : Prop where
  capacity : EncodesField EncodesU64 0 (members.get "capacity") x.capacity
  used : EncodesField EncodesU64 0 (members.get "used") x.used
  highWatermark : EncodesField EncodesU64 0 (members.get "high_watermark") x.highWatermark
  fullCount : EncodesField EncodesU64 0 (members.get "full_count") x.fullCount
  allocated : EncodesField EncodesU64 0 (members.get "allocated") x.allocated
  released : EncodesField EncodesU64 0 (members.get "released") x.released
  pendingReclaim : EncodesField EncodesU64 0 (members.get "pending_reclaim") x.pendingReclaim
  leakedSuspect : EncodesField EncodesU64 0 (members.get "leaked_suspect") x.leakedSuspect

def FramePoolStatus.Encodes : Value → FramePoolStatus → Prop :=
  EncodesStruct ["capacity", "used", "high_watermark", "full_count", "allocated", "released",
    "pending_reclaim", "leaked_suspect"] FramePoolStatus.Fields

/-- `RingStatus`. -/
structure RingStatus where
  interface : String := "unknown"
  capacity : UInt64 := 0
  used : UInt64 := 0
  highWatermark : UInt64 := 0
  fullCount : UInt64 := 0
  deriving DecidableEq

structure RingStatus.Fields (members : Members) (x : RingStatus) : Prop where
  interface : EncodesField EncodesString "unknown" (members.get "interface") x.interface
  capacity : EncodesField EncodesU64 0 (members.get "capacity") x.capacity
  used : EncodesField EncodesU64 0 (members.get "used") x.used
  highWatermark : EncodesField EncodesU64 0 (members.get "high_watermark") x.highWatermark
  fullCount : EncodesField EncodesU64 0 (members.get "full_count") x.fullCount

def RingStatus.Encodes : Value → RingStatus → Prop :=
  EncodesStruct ["interface", "capacity", "used", "high_watermark", "full_count"]
    RingStatus.Fields

/-- `PendingBitmapStatus`. -/
structure PendingBitmapStatus where
  rx : String := "0x00"
  tx : String := "0x00"
  deriving DecidableEq

structure PendingBitmapStatus.Fields (members : Members) (x : PendingBitmapStatus) : Prop where
  rx : EncodesField EncodesString "0x00" (members.get "rx") x.rx
  tx : EncodesField EncodesString "0x00" (members.get "tx") x.tx

def PendingBitmapStatus.Encodes : Value → PendingBitmapStatus → Prop :=
  EncodesStruct ["rx", "tx"] PendingBitmapStatus.Fields

/-- `MailboxStatus`. -/
structure MailboxStatus where
  rxDoorbellCount : UInt64 := 0
  txDoorbellCount : UInt64 := 0
  notifyFailCount : UInt64 := 0
  periodicDrainCount : UInt64 := 0
  deriving DecidableEq

structure MailboxStatus.Fields (members : Members) (x : MailboxStatus) : Prop where
  rxDoorbellCount : EncodesField EncodesU64 0 (members.get "rx_doorbell_count") x.rxDoorbellCount
  txDoorbellCount : EncodesField EncodesU64 0 (members.get "tx_doorbell_count") x.txDoorbellCount
  notifyFailCount : EncodesField EncodesU64 0 (members.get "notify_fail_count") x.notifyFailCount
  periodicDrainCount :
    EncodesField EncodesU64 0 (members.get "periodic_drain_count") x.periodicDrainCount

def MailboxStatus.Encodes : Value → MailboxStatus → Prop :=
  EncodesStruct ["rx_doorbell_count", "tx_doorbell_count", "notify_fail_count",
    "periodic_drain_count"] MailboxStatus.Fields

/-- `IntegrityStatus`. -/
structure IntegrityStatus where
  descriptorCrcErrorCount : UInt64 := 0
  epochMismatchCount : UInt64 := 0
  cacheSyncErrorCount : UInt64 := 0
  deriving DecidableEq

structure IntegrityStatus.Fields (members : Members) (x : IntegrityStatus) : Prop where
  descriptorCrcErrorCount :
    EncodesField EncodesU64 0 (members.get "descriptor_crc_error_count") x.descriptorCrcErrorCount
  epochMismatchCount :
    EncodesField EncodesU64 0 (members.get "epoch_mismatch_count") x.epochMismatchCount
  cacheSyncErrorCount :
    EncodesField EncodesU64 0 (members.get "cache_sync_error_count") x.cacheSyncErrorCount

def IntegrityStatus.Encodes : Value → IntegrityStatus → Prop :=
  EncodesStruct ["descriptor_crc_error_count", "epoch_mismatch_count", "cache_sync_error_count"]
    IntegrityStatus.Fields

/-- `ReclaimStatus`. -/
structure ReclaimStatus where
  heartbeatConsumed : UInt64 := 0
  invalidFrameReclaimed : UInt64 := 0
  noRouteReclaimed : UInt64 := 0
  ttlExpiredReclaimed : UInt64 := 0
  epochMismatchReclaimed : UInt64 := 0
  reclaimRingUsed : UInt64 := 0
  reclaimAckCount : UInt64 := 0
  deriving DecidableEq

structure ReclaimStatus.Fields (members : Members) (x : ReclaimStatus) : Prop where
  heartbeatConsumed :
    EncodesField EncodesU64 0 (members.get "heartbeat_consumed") x.heartbeatConsumed
  invalidFrameReclaimed :
    EncodesField EncodesU64 0 (members.get "invalid_frame_reclaimed") x.invalidFrameReclaimed
  noRouteReclaimed : EncodesField EncodesU64 0 (members.get "no_route_reclaimed") x.noRouteReclaimed
  ttlExpiredReclaimed :
    EncodesField EncodesU64 0 (members.get "ttl_expired_reclaimed") x.ttlExpiredReclaimed
  epochMismatchReclaimed :
    EncodesField EncodesU64 0 (members.get "epoch_mismatch_reclaimed") x.epochMismatchReclaimed
  reclaimRingUsed : EncodesField EncodesU64 0 (members.get "reclaim_ring_used") x.reclaimRingUsed
  reclaimAckCount : EncodesField EncodesU64 0 (members.get "reclaim_ack_count") x.reclaimAckCount

def ReclaimStatus.Encodes : Value → ReclaimStatus → Prop :=
  EncodesStruct ["heartbeat_consumed", "invalid_frame_reclaimed", "no_route_reclaimed",
    "ttl_expired_reclaimed", "epoch_mismatch_reclaimed", "reclaim_ring_used", "reclaim_ack_count"]
    ReclaimStatus.Fields

/-- `IpcStatusResponse`. -/
structure IpcStatusResponse where
  updatedAtMs : UInt64 := 0
  state : String := ""
  rtosOnline : Bool := false
  heartbeatMs : UInt64 := 0
  framePool : FramePoolStatus := {}
  rxRings : List RingStatus := []
  txRings : List RingStatus := []
  pendingBitmap : PendingBitmapStatus := {}
  mailbox : MailboxStatus := {}
  integrity : IntegrityStatus := {}
  reclaim : ReclaimStatus := {}
  deriving DecidableEq

structure IpcStatusResponse.Fields (members : Members) (x : IpcStatusResponse) : Prop where
  updatedAtMs : EncodesField EncodesU64 0 (members.get "updated_at_ms") x.updatedAtMs
  state : EncodesField EncodesString "" (members.get "state") x.state
  rtosOnline : EncodesField EncodesBool false (members.get "rtos_online") x.rtosOnline
  heartbeatMs : EncodesField EncodesU64 0 (members.get "heartbeat_ms") x.heartbeatMs
  framePool : EncodesField FramePoolStatus.Encodes {} (members.get "frame_pool") x.framePool
  rxRings : EncodesField (EncodesVec RingStatus.Encodes) [] (members.get "rx_rings") x.rxRings
  txRings : EncodesField (EncodesVec RingStatus.Encodes) [] (members.get "tx_rings") x.txRings
  pendingBitmap :
    EncodesField PendingBitmapStatus.Encodes {} (members.get "pending_bitmap") x.pendingBitmap
  mailbox : EncodesField MailboxStatus.Encodes {} (members.get "mailbox") x.mailbox
  integrity : EncodesField IntegrityStatus.Encodes {} (members.get "integrity") x.integrity
  reclaim : EncodesField ReclaimStatus.Encodes {} (members.get "reclaim") x.reclaim

def IpcStatusResponse.Encodes : Value → IpcStatusResponse → Prop :=
  EncodesStruct ["updated_at_ms", "state", "rtos_online", "heartbeat_ms", "frame_pool",
    "rx_rings", "tx_rings", "pending_bitmap", "mailbox", "integrity", "reclaim"]
    IpcStatusResponse.Fields

/-- `EventRecord`. -/
structure EventRecord where
  timestampMs : UInt64 := 0
  level : String := "unknown"
  source : String := "unknown"
  message : String := ""
  detail : String := ""
  deriving DecidableEq

structure EventRecord.Fields (members : Members) (x : EventRecord) : Prop where
  timestampMs : EncodesField EncodesU64 0 (members.get "timestamp_ms") x.timestampMs
  level : EncodesField EncodesString "unknown" (members.get "level") x.level
  source : EncodesField EncodesString "unknown" (members.get "source") x.source
  message : EncodesField EncodesString "" (members.get "message") x.message
  detail : EncodesField EncodesString "" (members.get "detail") x.detail

def EventRecord.Encodes : Value → EventRecord → Prop :=
  EncodesStruct ["timestamp_ms", "level", "source", "message", "detail"] EventRecord.Fields

/-- `EventsResponse`. -/
structure EventsResponse where
  events : List EventRecord
  parseErrorCount : ℕ
  deriving DecidableEq

/-! ## How old a snapshot is -/

/-- The clocks of the system, where they can be read. -/
structure Clocks where
  wallClockMs : Option UInt64
  uptimeMs : Option UInt64

/-- `EPOCH_MS_THRESHOLD`: a time from here on is of the wall clock. -/
def epochMsThreshold : UInt64 := 1000000000000

/-- `u64::saturating_sub`. -/
def saturatingSub (a b : UInt64) : UInt64 := if b ≤ a then a - b else 0

/-- What `classify_snapshot` answers. -/
inductive Freshness
  | unknown
  | stale
  | ok
  deriving DecidableEq

/-- `classify_snapshot`. -/
def classifySnapshot (clocks : Clocks) (updatedAtMs staleMs : UInt64) : Freshness :=
  if updatedAtMs = 0 then .unknown
  else
    match if updatedAtMs ≥ epochMsThreshold then clocks.wallClockMs else clocks.uptimeMs with
    | some now =>
      if saturatingSub now updatedAtMs > staleMs ∧ now ≥ updatedAtMs then .stale else .ok
    | none => .unknown

/-- `state_with_freshness`. -/
def stateWithFreshness (state : Option String) : Freshness → String
  | .ok => (state.filter fun value => trim value ≠ "").getD "ok"
  | .stale => "stale"
  | .unknown => "unknown"

/-! ## Reading the files -/

/-- `fs::read_to_string`: a file that is not UTF-8 is not read. -/
def readToString (file : Option (List UInt8)) : Option (List Char) :=
  file.bind fun bytes => (String.fromUTF8? bytes.toByteArray).map String.toList

/-- `read_json`. -/
def readJson {α : Type} (fromStr : List Char → Option α) (file : Option (List UInt8)) : Option α :=
  (readToString file).bind fromStr

/-- `read_modules`. -/
def readModules (fromStr : List Char → Option ModulesFile) (clocks : Clocks) (staleMs : UInt64)
    (file : Option (List UInt8)) : ModulesResponse :=
  match readJson fromStr file with
  | none => { updatedAtMs := 0, state := "unknown", modules := [] }
  | some f =>
    { updatedAtMs := f.updatedAtMs
      state := stateWithFreshness f.state (classifySnapshot clocks f.updatedAtMs staleMs)
      modules := f.modules }

/-- `read_ipc_status`. -/
def readIpcStatus (fromStr : List Char → Option IpcStatusResponse) (clocks : Clocks)
    (staleMs : UInt64) (file : Option (List UInt8)) : IpcStatusResponse :=
  match readJson fromStr file with
  | none => { state := "unknown" }
  | some status =>
    { status with
      state := stateWithFreshness (some status.state)
        (classifySnapshot clocks status.updatedAtMs staleMs) }

/-- `str::split_inclusive('\n')`. -/
def splitInclusive : List Char → List (List Char)
  | [] => []
  | c :: text =>
    if c = '\n' then [c] :: splitInclusive text
    else
      match splitInclusive text with
      | [] => [[c]]
      | line :: rest => (c :: line) :: rest

/-- A line without its end. -/
def stripLineEnd (line : List Char) : List Char :=
  if line.getLast? = some '\n' then
    if line.dropLast.getLast? = some '\r' then line.dropLast.dropLast else line.dropLast
  else line

/-- `str::lines`. -/
def lines (text : List Char) : List (List Char) := (splitInclusive text).map stripLineEnd

/-- The loop of `read_events`, over the lines from the last. -/
def readEventsFrom (fromStr : List Char → Option EventRecord) (limit : ℕ) :
    List (List Char) → List EventRecord → ℕ → List EventRecord × ℕ
  | [], events, parseErrorCount => (events, parseErrorCount)
  | line :: rest, events, parseErrorCount =>
    if events.length ≥ limit then (events, parseErrorCount)
    else if trim (String.ofList line) = "" then readEventsFrom fromStr limit rest events parseErrorCount
    else
      match fromStr line with
      | some event => readEventsFrom fromStr limit rest (events ++ [event]) parseErrorCount
      | none => readEventsFrom fromStr limit rest events (parseErrorCount + 1)

/-- `read_events`. -/
def readEvents (fromStr : List Char → Option EventRecord) (file : Option (List UInt8)) (limit : ℕ) :
    EventsResponse :=
  match readToString file with
  | none => { events := [], parseErrorCount := 0 }
  | some text =>
    let read := readEventsFrom fromStr (max 1 (min limit 500)) (lines text).reverse [] 0
    { events := read.1.reverse, parseErrorCount := read.2 }

end Web

end PutGateway
