import PutGateway.Lib.Json
import PutGateway.Linux.AppConfig
import PutGateway.Linux.EgressManager
import PutGateway.Linux.IpcStats
import PutGateway.Linux.StatusCollector
/-!
# The status collector and its files

`linux_app/core/status_collector.c`: what the adapters, the egress workers
and the egress manager tell the collector, and the files it writes of it.
`modules.json`, `ipc_status.json` and `route_status.json` are each written
beside the old file and renamed over it; `events.jsonl` gets a line for
every error.

Every operation holds the mutex of the collector from its first write to
its last, so a run is a sequence of operations (`CollectorCall`), in any
order and with any times.
-/

namespace PutGateway

namespace Linux

/-! ## The C library -/

/-- `%d`. -/
def formatD (n : ℤ) : List UInt8 :=
  if n < 0 then 0x2D :: Json.decimal n.natAbs else Json.decimal n.natAbs

/-- `%02X`. -/
def format02X (n : UInt32) : List UInt8 :=
  let digits := (Nat.toDigits 16 n.toNat).map fun c => c.toUpper.toNat.toUInt8
  if digits.length < 2 then 0x30 :: digits else digits

/-- `snprintf`: the string it leaves in a buffer. -/
def snprintf (size : ℕ) (text : List UInt8) : List UInt8 := text.take (size - 1)

/-- `strstr(haystack, needle) != 0`. -/
def strstr (haystack : List UInt8) (needle : String) : Bool := decide (ascii needle <:+: haystack)

/-- What a call of `fprintf`, `fputs` or `fprint_json_string` puts into a
file. -/
inductive Piece
  /-- A part of the format. -/
  | text (format : String)
  /-- `%" PRIu64 "`. -/
  | u64 (n : UInt64)
  /-- `%s` of `true` or `false`. -/
  | bool (b : Bool)
  /-- `\"%s\"`, with the quotation marks of the format. -/
  | quoted (word : List UInt8)
  /-- `fprint_json_string`. -/
  | json (string : List UInt8)

/-- The bytes of a piece. -/
def Piece.bytes : Piece → List UInt8
  | .text format => ascii format
  | .u64 n => Json.decimal n.toNat
  | .bool b => ascii (if b then "true" else "false")
  | .quoted word => 0x22 :: (word ++ [0x22])
  | .json string => fprintJsonString (some string)

/-- The bytes of calls one after another. -/
def fprintf (pieces : List Piece) : List UInt8 := pieces.flatMap Piece.bytes

/-! ## What the collector holds -/

/-- The values of `unified_error_t`. -/
def unifiedErrorCode : UnifiedError → ℤ
  | .ok => 0
  | .null => -1
  | .invalidArg => -2
  | .length => -3
  | .protocolHeader => -10
  | .payloadLength => -11
  | .unknownType => -12
  | .crc => -13
  | .canDlc => -20
  | .ipcQueueEmpty => -30
  | .ipcQueueFull => -31
  | .ipcNotReady => -32
  | .ipcNotifyFailed => -33
  | .ipcOffline => -34
  | .ipcFramePoolFull => -35
  | .ipcReclaimFull => -36

/-- The modules, in the order of `status_module_id_t`. -/
def StatusModuleId.all : List StatusModuleId := [.can, .ethernet, .wifi, .bluetooth, .fourG, .rs485]

/-- `status_module_name`. -/
def statusModuleName : StatusModuleId → String
  | .can => "can"
  | .ethernet => "ethernet"
  | .wifi => "wifi"
  | .bluetooth => "bluetooth"
  | .fourG => "4g"
  | .rs485 => "rs485"

/-- `status_module_display_protocol`. -/
def statusModuleDisplayProtocol : StatusModuleId → String
  | .can => "CAN"
  | .ethernet => "Ethernet UDP/TCP raw"
  | .wifi => "Wi-Fi UDP/TCP raw"
  | .bluetooth => "Bluetooth"
  | .fourG => "4G"
  | .rs485 => "RS485"

/-- `STATUS_COLLECTOR_TEXT_MAX`. -/
def statusCollectorTextMax : ℕ := 128

/-- `status_module_snapshot_t`. -/
structure StatusModuleSnapshot where
  implemented : Bool := false
  enabled : Bool := false
  running : Bool := false
  stopped : Bool := false
  name : List UInt8 := []
  protocol : List UInt8 := []
  detail : List UInt8 := []
  rxFrames : UInt64 := 0
  txFrames : UInt64 := 0
  rxBytes : UInt64 := 0
  txBytes : UInt64 := 0
  errorCount : UInt64 := 0
  decodeErrorCount : UInt64 := 0
  fragmentDropCount : UInt64 := 0
  reassembleTimeoutCount : UInt64 := 0
  crcErrorCount : UInt64 := 0
  sendFailCount : UInt64 := 0
  interfaceOfflineCount : UInt64 := 0
  ipcErrorCount : UInt64 := 0
  lastRxMs : UInt64 := 0
  lastTxMs : UInt64 := 0
  lastErrorMs : UInt64 := 0
  lastIpcErrorMs : UInt64 := 0
  lastErrorCode : UnifiedError := .ok
  lastIpcErrorCode : UnifiedError := .ok
  lastErrorStage : List UInt8 := []
  lastErrorMessage : List UInt8 := []
  lastIpcErrorMessage : List UInt8 := []

/-- `status_collector_t`, less its mutex and the path of its directory. -/
structure StatusCollector where
  enabled : Bool := false
  updatedAtMs : UInt64 := 0
  modules : StatusModuleId → StatusModuleSnapshot := fun _ => {}
  ipcStatsValid : Bool := false
  rtosOnline : Bool := false
  heartbeatMs : UInt64 := 0
  ipcStats : LinuxShmIpcSnapshot := {}

variable (now : UInt64) (c : StatusCollector) (id : StatusModuleId)

/-- Change the snapshot of a module. -/
def StatusCollector.withModule (f : StatusModuleSnapshot → StatusModuleSnapshot) :
    StatusCollector :=
  { c with modules := Function.update c.modules id (f (c.modules id)) }

/-! ## What the collector is told -/

/-- `copy_text`: the string it leaves. A null pointer is the empty text. -/
def copyText (dstSize : ℕ) (src : Option (List UInt8)) : List UInt8 :=
  snprintf dstSize (cString (src.getD []))

/-- `status_collector_init`. -/
def statusCollectorInit (enabled : Bool) : StatusCollector where
  enabled := enabled
  updatedAtMs := now
  modules id :=
    { name := copyText 32 (ascii (statusModuleName id))
      protocol := copyText 32 (ascii (statusModuleDisplayProtocol id)) }

/-- `status_collector_configure_module`. -/
def statusCollectorConfigureModule (implemented enabled : Bool) (protocol detail : Option (List UInt8)) :
    StatusCollector :=
  c.withModule id fun m =>
    { m with
      implemented := implemented
      enabled := enabled
      protocol := copyText 32 (protocol.getD (ascii (statusModuleDisplayProtocol id)))
      detail := copyText statusCollectorTextMax detail }

/-- `status_collector_mark_running`. -/
def statusCollectorMarkRunning : StatusCollector :=
  { c.withModule id fun m => { m with running := true, stopped := false } with updatedAtMs := now }

/-- `status_collector_mark_stopped`. -/
def statusCollectorMarkStopped (reason : Option (List UInt8)) : StatusCollector :=
  { c.withModule id fun m =>
      { m with
        running := false
        stopped := true
        lastErrorMessage := copyText statusCollectorTextMax reason } with updatedAtMs := now }

/-- `status_collector_record_rx`. -/
def statusCollectorRecordRx (bytes : UInt64) : StatusCollector :=
  { c.withModule id fun m =>
      { m with
        rxFrames := m.rxFrames + 1
        rxBytes := m.rxBytes + bytes
        lastRxMs := now
        lastErrorMessage := [] } with updatedAtMs := now }

/-- `status_collector_record_tx_ok`. -/
def statusCollectorRecordTxOk (bytes : UInt64) : StatusCollector :=
  { c.withModule id fun m =>
      { m with
        txFrames := m.txFrames + 1
        txBytes := m.txBytes + bytes
        lastTxMs := now
        lastIpcErrorMessage := [] } with updatedAtMs := now }

/-- The counters of `status_collector_record_error`, by what the stage has
in its name. -/
def countStage (stage : List UInt8) (m : StatusModuleSnapshot) : StatusModuleSnapshot :=
  if strstr stage "decode" || strstr stage "parse" then
    { m with decodeErrorCount := m.decodeErrorCount + 1 }
  else if strstr stage "fragment" then { m with fragmentDropCount := m.fragmentDropCount + 1 }
  else if strstr stage "reassemble" then
    { m with reassembleTimeoutCount := m.reassembleTimeoutCount + 1 }
  else if strstr stage "crc" then { m with crcErrorCount := m.crcErrorCount + 1 }
  else if strstr stage "send" then { m with sendFailCount := m.sendFailCount + 1 }
  else if strstr stage "bind" || strstr stage "socket" || strstr stage "offline" ||
      strstr stage "disabled" || strstr stage "adapter_missing" || strstr stage "unavailable" then
    { m with interfaceOfflineCount := m.interfaceOfflineCount + 1 }
  else m

/-- The message `status_collector_record_error` leaves. -/
def errorMessage (stage : Option (List UInt8)) (err : UnifiedError) : List UInt8 :=
  snprintf statusCollectorTextMax
    ((if (stage.getD []) = [] then ascii "unknown_stage" else stage.getD []) ++
      ascii " failed with error=" ++ formatD (unifiedErrorCode err))

/-- What `status_collector_record_error` does to a module. -/
def recordModuleError (stage : Option (List UInt8)) (err : UnifiedError)
    (m : StatusModuleSnapshot) : StatusModuleSnapshot :=
  let m := { m with
    errorCount := m.errorCount + 1
    lastErrorMs := now
    lastErrorCode := err
    lastErrorStage := copyText statusCollectorTextMax stage
    lastErrorMessage := errorMessage stage err }
  -- no test of the stage holds of a null pointer, nor of the empty text
  let m := countStage (stage.getD []) m
  if strstr (stage.getD []) "ipc" then
    { m with
      ipcErrorCount := m.ipcErrorCount + 1
      lastIpcErrorMs := now
      lastIpcErrorCode := err
      lastIpcErrorMessage := copyText statusCollectorTextMax (some m.lastErrorMessage) }
  else m

/-- The line `append_event_jsonl_locked` writes. -/
def eventPieces (stage : Option (List UInt8)) (err : UnifiedError) : List Piece :=
  [.text "\x7b\"timestamp_ms\":", .u64 now,
   .text ",\"level\":\"warn\",\"source\":\"adapter\",\"message\":",
   .json (ascii "pipeline error"), .text ",\"detail\":",
   .json (snprintf (statusCollectorTextMax * 2)
     (ascii "module=" ++ (c.modules id).name ++ ascii " stage=" ++
       stage.getD (ascii "unknown") ++ ascii " error=" ++ formatD (unifiedErrorCode err))),
   .text "\x7d\n"]

/-- `append_event_jsonl_locked`: what it adds to `events.jsonl`, where the
file opens. -/
def appendEventJsonlLocked (stage : Option (List UInt8)) (err : UnifiedError) : List UInt8 :=
  fprintf (eventPieces now c id stage err)

/-- `status_collector_record_error`, less the line it adds to the events. -/
def statusCollectorRecordError (stage : Option (List UInt8)) (err : UnifiedError) :
    StatusCollector :=
  { c.withModule id (recordModuleError now stage err) with updatedAtMs := now }

/-- `status_collector_update_ipc_stats`. -/
def statusCollectorUpdateIpcStats (stats : LinuxShmIpcSnapshot) (rtosOnline : Bool)
    (heartbeatMs : UInt64) : StatusCollector :=
  { c with
    ipcStats := stats
    ipcStatsValid := true
    rtosOnline := rtosOnline
    heartbeatMs := heartbeatMs
    updatedAtMs := now }

/-! ## What the files say -/

/-- `STATUS_STALE_MS`. -/
def statusStaleMs : UInt64 := 10000

/-- What `module_state` answers. -/
inductive ModuleState
  | unknown
  | disabled
  | error
  | offline
  | stale
  | online
  deriving DecidableEq

/-- The string `module_state` answers with. -/
def ModuleState.name : ModuleState → String
  | .unknown => "unknown"
  | .disabled => "disabled"
  | .error => "error"
  | .offline => "offline"
  | .stale => "stale"
  | .online => "online"

/-- `module_state`. -/
def moduleState (m : StatusModuleSnapshot) : ModuleState :=
  if !m.implemented then .unknown
  else if !m.enabled then .disabled
  else if m.stopped then
    if m.lastErrorMs ≠ 0 ∧ m.lastErrorMs > m.lastTxMs then .error else .offline
  else if m.lastErrorMs ≠ 0 ∧ m.lastErrorMs > m.lastRxMs ∧ m.lastErrorMs > m.lastTxMs then .error
  else if !m.running then .unknown
  else if m.lastRxMs ≠ 0 ∧ now > m.lastRxMs ∧ now - m.lastRxMs > statusStaleMs then .stale
  else .online

/-- `module_message`. -/
def moduleMessage (m : StatusModuleSnapshot) : List UInt8 :=
  let lastError (fallback : String) :=
    if m.lastErrorMessage = [] then ascii fallback else m.lastErrorMessage
  match moduleState now m with
  | .disabled => ascii "module disabled by config"
  | .unknown =>
    if !m.implemented then ascii "module is not implemented in linux_app yet"
    else lastError "module not ready"
  | .error => lastError "last pipeline step failed"
  | .offline => lastError "module stopped"
  | .stale => ascii "no packet received for more than 10 seconds"
  | .online =>
    if m.rxFrames = 0 then ascii "module running; no packet received yet"
    else ascii "interface active"

/-- The loop of `write_modules_json` over the states of the modules. -/
def topStateFrom : List ModuleState → String → String
  | [], topState => topState
  | state :: rest, topState =>
    if state = .error then "error"
    else topStateFrom rest (if state = .stale ∨ state = .offline then "warn" else topState)

/-- The state of the modules together. -/
def topState : String :=
  topStateFrom (StatusModuleId.all.map fun id => moduleState now (c.modules id)) "ok"

/-- The object of a module. -/
def modulePieces (m : StatusModuleSnapshot) : List Piece :=
  [.text "    \x7b\"name\":", .json m.name,
   .text ",\"status\":", .quoted (ascii (moduleState now m).name),
   .text ",\"rx_bytes\":", .u64 m.rxBytes,
   .text ",\"tx_bytes\":", .u64 m.txBytes,
   .text ",\"rx_frames\":", .u64 m.rxFrames,
   .text ",\"tx_frames\":", .u64 m.txFrames,
   .text ",\"decode_error_count\":", .u64 m.decodeErrorCount,
   .text ",\"fragment_drop_count\":", .u64 m.fragmentDropCount,
   .text ",\"reassemble_timeout_count\":", .u64 m.reassembleTimeoutCount,
   .text ",\"crc_error_count\":", .u64 m.crcErrorCount,
   .text ",\"send_fail_count\":", .u64 m.sendFailCount,
   .text ",\"interface_offline_count\":", .u64 m.interfaceOfflineCount,
   .text ",\"last_rx_ms\":", .u64 m.lastRxMs,
   .text ",\"last_tx_ms\":", .u64 m.lastTxMs,
   .text ",\"last_error\":",
   .json (if m.lastErrorMessage = [] then ascii "none" else m.lastErrorMessage),
   .text ",\"message\":", .json (moduleMessage now m), .text "\x7d"]

/-- The loops that write an array: the objects that are left, a comma
behind each but the last. -/
def arrayPieces {α : Type} (object : α → List Piece) : List α → List Piece
  | [] => []
  | a :: rest =>
    object a ++ (if rest.isEmpty then [] else [.text ","]) ++ .text "\n" :: arrayPieces object rest

/-- `write_modules_json`. -/
def writeModulesJson : List UInt8 :=
  fprintf <|
    [.text "\x7b\n  \"updated_at_ms\":", .u64 now,
     .text ",\n  \"state\":", .quoted (ascii (topState now c)),
     .text ",\n  \"modules\":[\n"] ++
    arrayPieces (fun id => modulePieces now (c.modules id)) StatusModuleId.all ++
    [.text "  ]\n\x7d\n"]

/-- `interface_name_from_id`. -/
def interfaceNameFromId (interfaceId : PutShmInterface) : String :=
  if interfaceId = putShmInterfaceCan then "can"
  else if interfaceId = putShmInterfaceEthernet then "ethernet"
  else if interfaceId = putShmInterfaceWifi then "wifi"
  else if interfaceId = putShmInterfaceBluetooth then "bluetooth"
  else if interfaceId = putShmInterface4G then "4g"
  else if interfaceId = putShmInterfaceRs485 then "rs485"
  else "unknown"

/-- The object of a ring. -/
def ringPieces (i : Fin 6) (ring : RingStats) : List Piece :=
  [.text "    \x7b\"interface\":", .quoted (ascii (interfaceNameFromId (interfaceOfIndex i))),
   .text ",\"capacity\":", .u64 ring.capacity,
   .text ",\"used\":", .u64 ring.used,
   .text ",\"high_watermark\":", .u64 ring.highWatermark,
   .text ",\"full_count\":", .u64 ring.fullCount, .text "\x7d"]

/-- `write_ring_array`. -/
def writeRingArray (name : String) (rings : Fin 6 → RingStats) : List Piece :=
  [.text "  ", .quoted (ascii name), .text ":[\n"] ++
    arrayPieces (fun i => ringPieces i (rings i)) (List.finRange 6) ++ [.text "  ]"]

theorem reclaimReason_lt (reason : ReclaimReason) : reason.code.toNat < 7 := by
  cases reason <;> decide

/-- `reclaim_reason_count[reason]`. -/
def LinuxShmIpcSnapshot.reasonCount (stats : LinuxShmIpcSnapshot) (reason : ReclaimReason) :
    UInt64 :=
  stats.reclaimReasonCount ⟨reason.code.toNat, reclaimReason_lt reason⟩

/-- The first `fprintf` of `write_ipc_status_json`. -/
def ipcHeadPieces : List Piece :=
  [.text "\x7b\n  \"updated_at_ms\":", .u64 now,
   .text ",\n  \"state\":\"ok\",\n  \"rtos_online\":", .bool c.rtosOnline,
   .text ",\n  \"heartbeat_ms\":", .u64 c.heartbeatMs,
   .text ",\n  \"frame_pool\":\x7b\"capacity\":", .u64 c.ipcStats.framePool.capacity,
   .text ",\"used\":", .u64 c.ipcStats.framePool.used,
   .text ",\"high_watermark\":", .u64 c.ipcStats.framePool.highWatermark,
   .text ",\"full_count\":", .u64 c.ipcStats.framePool.fullCount,
   .text ",\"allocated\":", .u64 c.ipcStats.framePool.allocated,
   .text ",\"released\":", .u64 c.ipcStats.framePool.released,
   .text ",\"pending_reclaim\":", .u64 c.ipcStats.framePool.pendingReclaim,
   .text ",\"leaked_suspect\":", .u64 c.ipcStats.leakedSuspect, .text "\x7d,\n"]

/-- The last `fprintf` of `write_ipc_status_json`. -/
def ipcTailPieces (stats : LinuxShmIpcSnapshot) : List Piece :=
  [.text "  \"pending_bitmap\":\x7b\"rx\":", .quoted (ascii "0x" ++ format02X stats.rxPendingBits),
   .text ",\"tx\":", .quoted (ascii "0x" ++ format02X stats.txPendingBits), .text "\x7d,\n",
   .text "  \"mailbox\":\x7b\"rx_doorbell_count\":", .u64 stats.rxDoorbellCount,
   .text ",\"tx_doorbell_count\":", .u64 stats.txDoorbellCount,
   .text ",\"notify_fail_count\":", .u64 stats.notifyFailCount,
   .text ",\"periodic_drain_count\":", .u64 stats.periodicDrainCount, .text "\x7d,\n",
   .text "  \"integrity\":\x7b\"descriptor_crc_error_count\":", .u64 stats.descriptorCrcErrorCount,
   .text ",\"epoch_mismatch_count\":0,", .text "\"cache_sync_error_count\":",
   .u64 stats.cacheSyncErrorCount, .text "\x7d,\n",
   .text "  \"reclaim\":\x7b\"heartbeat_consumed\":", .u64 (stats.reasonCount .heartbeatConsumed),
   .text ",\"invalid_frame_reclaimed\":", .u64 (stats.reasonCount .invalidFrame),
   .text ",\"no_route_reclaimed\":", .u64 (stats.reasonCount .noRoute),
   .text ",\"ttl_expired_reclaimed\":", .u64 (stats.reasonCount .ttlExpired),
   .text ",\"epoch_mismatch_reclaimed\":", .u64 (stats.reasonCount .epochMismatch),
   .text ",\"reclaim_ring_used\":", .u64 stats.reclaimRingUsed,
   .text ",\"reclaim_ack_count\":", .u64 stats.reclaimAckCount, .text "\x7d\n\x7d\n"]

/-- `write_ipc_status_json`. -/
def writeIpcStatusJson : List UInt8 :=
  if !c.ipcStatsValid then
    fprintf
      [.text "\x7b\n  \"updated_at_ms\":", .u64 now,
       .text ",\n  \"state\":\"unknown\",\n",
       .text "  \"rtos_online\":false,\n",
       .text "  \"frame_pool\":\x7b\"capacity\":0,\"used\":0,",
       .text "\"pending_reclaim\":0,\"leaked_suspect\":0\x7d,\n",
       .text "  \"rx_rings\":[],\n  \"tx_rings\":[]\n\x7d\n"]
  else
    fprintf <|
      ipcHeadPieces now c ++
      writeRingArray "rx_rings" c.ipcStats.rxRings ++ [.text ",\n"] ++
      writeRingArray "tx_rings" c.ipcStats.txRings ++ [.text ",\n"] ++
      ipcTailPieces c.ipcStats

/-- `write_route_status_json`: nothing of it is counted. -/
def writeRouteStatusJson : List UInt8 :=
  fprintf
    [.text "\x7b\n  \"updated_at_ms\":", .u64 now, .text ",\n  \"state\":\"unknown\",\n",
     .text "  \"route_table\":\x7b\"version\":0,\"epoch\":0,",
     .text "\"source\":\"unknown\",\"active_entries\":0\x7d,\n",
     .text "  \"priority_queues\":[],\n",
     .text "  \"cid_stats\":\x7b\"routed_frames\":0,\"heartbeat_consumed\":0,",
     .text "\"no_route\":0,\"invalid_cid\":0,\"reserved_cid\":0,\"broadcast_frames\":0\x7d,\n",
     .text "  \"drop_reasons\":\x7b\"invalid_length\":0,\"invalid_type\":0,",
     .text "\"ttl_expired\":0,\"frame_pool_full\":0,\"rx_ring_full\":0,",
     .text "\"tx_ring_full\":0,\"target_interface_offline\":0,\"auth_failed\":0,",
     .text "\"integrity_failed\":0,\"replay_dropped\":0\x7d,\n",
     .text "  \"latency\":\x7b\"rx_ring_to_tx_ring_max_ms\":0,",
     .text "\"rx_ring_to_tx_ring_avg_ms\":0,\"linux_egress_max_ms\":0,",
     .text "\"end_to_end_max_ms\":0\x7d\n\x7d\n"]

/-! ## Runs -/

/-- What the directory of the collector holds: the bytes of its files,
where they are there. -/
structure StatusDir where
  modulesJson : Option (List UInt8) := none
  ipcStatusJson : Option (List UInt8) := none
  routeStatusJson : Option (List UInt8) := none
  eventsJsonl : Option (List UInt8) := none

/-- A call of the collector. -/
inductive CollectorCall
  /-- The program starts, with the files of the run before. -/
  | init (enabled : Bool)
  | configureModule (id : StatusModuleId) (implemented enabled : Bool)
      (protocol detail : Option (List UInt8))
  | markRunning (id : StatusModuleId)
  | markStopped (id : StatusModuleId) (reason : Option (List UInt8))
  | recordRx (id : StatusModuleId) (bytes : UInt64)
  | recordTxOk (id : StatusModuleId) (bytes : UInt64)
  /-- The events open, or do not. -/
  | recordError (id : StatusModuleId) (stage : Option (List UInt8)) (err : UnifiedError)
      (opened : Bool)
  | updateIpcStats (stats : LinuxShmIpcSnapshot) (rtosOnline : Bool) (heartbeatMs : UInt64)
  /-- Each of the three files is renamed into its place, or is not. -/
  | writeAll (modules ipcStatus routeStatus : Bool)

/-- What a call leaves of the collector. -/
def callCollector (c : StatusCollector) : CollectorCall → StatusCollector
  | .init enabled => statusCollectorInit now enabled
  | .configureModule id implemented enabled protocol detail =>
    statusCollectorConfigureModule c id implemented enabled protocol detail
  | .markRunning id => statusCollectorMarkRunning now c id
  | .markStopped id reason => statusCollectorMarkStopped now c id reason
  | .recordRx id bytes => statusCollectorRecordRx now c id bytes
  | .recordTxOk id bytes => statusCollectorRecordTxOk now c id bytes
  | .recordError id stage err _ => statusCollectorRecordError now c id stage err
  | .updateIpcStats stats rtosOnline heartbeatMs =>
    statusCollectorUpdateIpcStats now c stats rtosOnline heartbeatMs
  | .writeAll _ _ _ => if c.enabled then { c with updatedAtMs := now } else c

/-- `write_atomic_json`: the file, after it. -/
def writeAtomicJson (file : Option (List UInt8)) (renamed : Bool) (content : List UInt8) :
    Option (List UInt8) :=
  if renamed then some content else file

/-- What a call leaves of the directory. -/
def callDir (c : StatusCollector) (dir : StatusDir) : CollectorCall → StatusDir
  | .recordError id stage err opened =>
    if c.enabled ∧ opened then
      { dir with
        eventsJsonl := some (dir.eventsJsonl.getD [] ++ appendEventJsonlLocked now c id stage err) }
    else dir
  | .writeAll modules ipcStatus routeStatus =>
    if c.enabled then
      { dir with
        modulesJson := writeAtomicJson dir.modulesJson modules (writeModulesJson now c)
        ipcStatusJson := writeAtomicJson dir.ipcStatusJson ipcStatus (writeIpcStatusJson now c)
        routeStatusJson := writeAtomicJson dir.routeStatusJson routeStatus (writeRouteStatusJson now) }
    else dir
  | _ => dir

/-- The collector and its directory. -/
structure StatusState where
  collector : StatusCollector := {}
  dir : StatusDir := {}

/-- One call, at a time of its own. -/
def StatusState.call (s : StatusState) (call : UInt64 × CollectorCall) : StatusState where
  collector := callCollector call.1 s.collector call.2
  dir := callDir call.1 s.collector s.dir call.2

/-- A run. -/
def StatusState.run (s : StatusState) (calls : List (UInt64 × CollectorCall)) : StatusState :=
  calls.foldl StatusState.call s

end Linux

end PutGateway
