import PutGateway.Common.SharedMemoryIpc
/-!
# The endpoint heartbeat table

`rtos_firmware/monitor/rtos_endpoint_heartbeat.c`: the router consumes
heartbeats the endpoints send to the gateway and keeps, for each source
CID, when the last one came. A scan ages the entries.
-/

namespace PutGateway

namespace Rtos

/-- `rtos_endpoint_heartbeat_state_t`. -/
inductive EndpointHeartbeatState
  | empty
  | online
  | warn
  | offline
  deriving DecidableEq, Repr

/-- `rtos_endpoint_heartbeat_statistics_t`. -/
structure EndpointHeartbeatStatistics where
  rxCount : UInt32 := 0
  invalidCount : UInt32 := 0
  timeoutCount : UInt32 := 0
  recoverCount : UInt32 := 0
  tableFullCount : UInt32 := 0
  deriving DecidableEq, Repr

/-- `rtos_endpoint_heartbeat_entry_t`. -/
structure EndpointHeartbeatEntry where
  inUse : Bool := false
  sourceCid : Cid := {}
  lastRxInterface : PutShmInterface := 0
  lastRtosTimeMs : UInt32 := 0
  lastFrameLocalTime : UInt32 := 0
  rxCount : UInt32 := 0
  timeoutCount : UInt32 := 0
  state : EndpointHeartbeatState := .empty
  deriving DecidableEq, Repr

/-- `rtos_endpoint_heartbeat_table_t`. The defaults are those of
`rtos_endpoint_heartbeat_init`. -/
structure EndpointHeartbeatTable where
  gatewayConfigured : Bool := false
  gatewayCid : Cid := {}
  statistics : EndpointHeartbeatStatistics := {}
  entries : Fin 64 → EndpointHeartbeatEntry := fun _ => {}

/-- `rtos_endpoint_heartbeat_set_gateway`. -/
def rtosEndpointHeartbeatSetGateway (table : EndpointHeartbeatTable) (gatewayCid : Cid) :
    EndpointHeartbeatTable :=
  { table with gatewayCid := gatewayCid, gatewayConfigured := true }

/-- `rtos_endpoint_heartbeat_clear_gateway`. -/
def rtosEndpointHeartbeatClearGateway (table : EndpointHeartbeatTable) : EndpointHeartbeatTable :=
  { table with gatewayConfigured := false, gatewayCid := {} }

/-- `source_cid_is_valid`. -/
def sourceCidIsValid (sourceCid : Cid) : Bool := 0x20 ≤ sourceCid.b0 && sourceCid.b0 ≤ 0xDF

/-- `find_entry`. -/
def EndpointHeartbeatTable.findEntry (table : EndpointHeartbeatTable) (sourceCid : Cid) :
    Option (Fin 64) :=
  (List.finRange 64).find? fun i =>
    (table.entries i).inUse && (table.entries i).sourceCid == sourceCid

/-- The entry `allocate_entry` takes. -/
def EndpointHeartbeatTable.freeEntry (table : EndpointHeartbeatTable) : Option (Fin 64) :=
  (List.finRange 64).find? fun i => !(table.entries i).inUse

def EndpointHeartbeatTable.countInvalid (table : EndpointHeartbeatTable) : EndpointHeartbeatTable :=
  { table with
    statistics := { table.statistics with invalidCount := table.statistics.invalidCount + 1 } }

/-- Record a heartbeat in an entry. -/
def EndpointHeartbeatTable.record (table : EndpointHeartbeatTable) (i : Fin 64) (sourceCid : Cid)
    (sourceInterface : PutShmInterface) (nowMs frameLocalTime : UInt32) : EndpointHeartbeatTable :=
  let entry := { table.entries i with inUse := true, sourceCid := sourceCid }
  let recovered := entry.state = .warn || entry.state = .offline
  { table with
    entries := Function.update table.entries i
      { entry with
        lastRxInterface := sourceInterface
        lastRtosTimeMs := nowMs
        lastFrameLocalTime := frameLocalTime
        rxCount := entry.rxCount + 1
        state := .online }
    statistics :=
      { table.statistics with
        rxCount := table.statistics.rxCount + 1
        recoverCount :=
          if recovered then table.statistics.recoverCount + 1 else table.statistics.recoverCount } }

/-- `rtos_endpoint_heartbeat_consume`. -/
def rtosEndpointHeartbeatConsume (table : EndpointHeartbeatTable) (sourceCid destinationCid : Cid)
    (sourceInterface : PutShmInterface) (nowMs frameLocalTime : UInt32) :
    UnifiedError × EndpointHeartbeatTable :=
  if !table.gatewayConfigured then (.ipcNotReady, table.countInvalid)
  else if !sourceCidIsValid sourceCid then (.invalidArg, table.countInvalid)
  else if table.gatewayCid ≠ destinationCid then (.invalidArg, table.countInvalid)
  else
    match (table.findEntry sourceCid).or table.freeEntry with
    | some i => (.ok, table.record i sourceCid sourceInterface nowMs frameLocalTime)
    | none =>
      (.ipcQueueFull,
        { table with
          statistics :=
            { table.statistics with tableFullCount := table.statistics.tableFullCount + 1 } })

/-- What a scan does to one entry, and whether it changes its state. -/
def EndpointHeartbeatEntry.age (entry : EndpointHeartbeatEntry) (nowMs : UInt32) :
    EndpointHeartbeatEntry × Bool :=
  if !entry.inUse || entry.state = .empty then (entry, false)
  else
    let ageMs := nowMs - entry.lastRtosTimeMs
    if ageMs ≥ 5000 && entry.state ≠ .offline then
      ({ entry with state := .offline, timeoutCount := entry.timeoutCount + 1 }, true)
    else if ageMs ≥ 3000 && entry.state = .online then
      ({ entry with state := .warn, timeoutCount := entry.timeoutCount + 1 }, true)
    else (entry, false)

/-- `rtos_endpoint_heartbeat_scan_timeouts`: the number of transitions and
the table. No entry looks at another, so the loop is one map. -/
def rtosEndpointHeartbeatScanTimeouts (table : EndpointHeartbeatTable) (nowMs : UInt32) :
    UInt32 × EndpointHeartbeatTable :=
  let transitions :=
    UInt32.ofNat ((List.finRange 64).countP fun i => ((table.entries i).age nowMs).2)
  (transitions,
    { table with
      entries := fun i => ((table.entries i).age nowMs).1
      statistics :=
        { table.statistics with
          timeoutCount := table.statistics.timeoutCount + transitions } })

/-- `rtos_endpoint_heartbeat_clear_entries`. -/
def rtosEndpointHeartbeatClearEntries (table : EndpointHeartbeatTable) : EndpointHeartbeatTable :=
  { table with entries := fun _ => {} }

end Rtos

end PutGateway
