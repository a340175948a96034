import PutGateway.Common.SharedMemoryIpc
import Mathlib.Data.List.Sort
/-!
# The runtime monitor

`rtos_firmware/monitor/rtos_monitor.c`: the Linux heartbeat, the error
bits, the recovery request, the statistics snapshot and the latency
windows.
-/

namespace PutGateway

namespace Rtos

/-- `rtos_linux_heartbeat_state_t`. -/
inductive LinuxHeartbeatState
  | normal
  | warning
  | suspectedAbnormal
  | globalDegraded
  deriving DecidableEq, Repr

/-- `rtos_monitor_error_reason_t`. -/
inductive MonitorError
  | linuxHeartbeat
  | endpointHeartbeat
  | rxBacklog
  | txRingFull
  | pendingStuck
  | framePool
  | routeDrops
  | mailboxNotify
  | shmFormat
  | reclaimBlocked
  deriving DecidableEq, Repr

def MonitorError.bit : MonitorError → UInt32
  | .linuxHeartbeat => 1
  | .endpointHeartbeat => 2
  | .rxBacklog => 4
  | .txRingFull => 8
  | .pendingStuck => 16
  | .framePool => 32
  | .routeDrops => 64
  | .mailboxNotify => 128
  | .shmFormat => 256
  | .reclaimBlocked => 512

/-- `rtos_recovery_trigger_t`. -/
inductive RecoveryTrigger
  | linuxHeartbeat
  | linuxEpoch
  | shmRebuilt
  | ringDescriptor
  deriving DecidableEq, Repr

def RecoveryTrigger.bit : RecoveryTrigger → UInt32
  | .linuxHeartbeat => 1
  | .linuxEpoch => 2
  | .shmRebuilt => 4
  | .ringDescriptor => 8

/-- `rtos_linux_heartbeat_snapshot_t`. -/
structure LinuxHeartbeat where
  initialized : Bool := false
  lastSequence : UInt32 := 0
  lastUpdateTimeMs : UInt32 := 0
  currentTimeMs : UInt32 := 0
  unchangedTimeMs : UInt32 := 0
  timeoutCount : UInt32 := 0
  recoverCount : UInt32 := 0
  state : LinuxHeartbeatState := .normal
  deriving DecidableEq, Repr

/-- `rtos_error_state_snapshot_t`. -/
structure ErrorState where
  degraded : Bool := false
  reasonCode : UInt32 := 0
  errorBits : UInt32 := 0
  lastErrorTimeMs : UInt32 := 0
  deriving DecidableEq, Repr

/-- `rtos_recovery_snapshot_t`. -/
structure Recovery where
  recoveryPending : Bool := false
  recoveryActive : Bool := false
  recoveryEpoch : UInt32 := 0
  recoveryCount : UInt32 := 0
  triggerBits : UInt32 := 0
  deriving DecidableEq, Repr

/-- `rtos_latency_statistics_t`. -/
structure LatencyStatistics where
  count : UInt32 := 0
  maxMs : UInt32 := 0
  p95Ms : UInt32 := 0
  p99Ms : UInt32 := 0
  deriving DecidableEq, Repr

/-- `rtos_monitor_statistics_snapshot_t`. -/
structure MonitorStatistics where
  snapshotSequence : UInt32 := 0
  rtosHeartbeatSeq : UInt32 := 0
  doorbellRxCount : UInt32 := 0
  doorbellTxCount : UInt32 := 0
  rxRingDrainCount : UInt32 := 0
  txRingWriteCount : UInt32 := 0
  routeSuccessCount : UInt32 := 0
  routeMissCount : UInt32 := 0
  dropReasonCount : ReclaimReason → UInt32 := fun _ => 0
  routedByInterface : Fin 6 → UInt32 := fun _ => 0
  routedByPriority : Fin 4 → UInt32 := fun _ => 0
  ttlDropCount : UInt32 := 0
  epochDropCount : UInt32 := 0
  txRingFullCount : UInt32 := 0
  reclaimRingFullCount : UInt32 := 0
  reclaimBlockedCount : UInt32 := 0
  pendingReclaimRetryCount : UInt32 := 0
  authFailedDropCount : UInt32 := 0
  integrityFailedDropCount : UInt32 := 0
  replayDropCount : UInt32 := 0
  invalidDescriptorCount : UInt32 := 0
  invalidDescriptorNoReclaimCount : UInt32 := 0
  invalidAnymsgCount : UInt32 := 0
  mailboxFailCount : UInt32 := 0
  linuxHeartbeatTimeoutCount : UInt32 := 0
  linuxHeartbeatRecoverCount : UInt32 := 0
  endpointHbRxCount : UInt32 := 0
  endpointHbInvalidCount : UInt32 := 0
  endpointHbTimeoutCount : UInt32 := 0
  endpointHbRecoverCount : UInt32 := 0
  endpointHbTableFullCount : UInt32 := 0
  recoveryCount : UInt32 := 0
  latencyTotal : LatencyStatistics := {}
  latencyByPriority : Fin 4 → LatencyStatistics := fun _ => {}

/-- One window of latency samples: the array, how much of it is filled
and the running index of the next sample. -/
structure LatencyWindow where
  samples : Fin 32 → UInt32 := fun _ => 0
  count : UInt32 := 0
  index : UInt32 := 0

/-- `rtos_monitor_context_t`. The defaults are those of
`rtos_monitor_context_init`. -/
structure MonitorContext where
  rtosHeartbeatSeq : UInt32 := 0
  linuxHeartbeat : LinuxHeartbeat := {}
  errorState : ErrorState := {}
  recovery : Recovery := {}
  statistics : MonitorStatistics := {}
  latencyTotal : LatencyWindow := {}
  latencyByPriority : Fin 4 → LatencyWindow := fun _ => {}

/-! ## Errors and recovery -/

/-- `rtos_monitor_record_error`. -/
def rtosMonitorRecordError (monitor : MonitorContext) (reason : MonitorError) (nowMs : UInt32) :
    MonitorContext :=
  let bits := monitor.errorState.errorBits ||| reason.bit
  { monitor with
    errorState :=
      { errorBits := bits
        reasonCode := reason.bit
        lastErrorTimeMs := nowMs
        degraded := bits != 0 } }

/-- `rtos_monitor_clear_error`. -/
def rtosMonitorClearError (monitor : MonitorContext) (reason : MonitorError) : MonitorContext :=
  let bits := monitor.errorState.errorBits &&& ~~~reason.bit
  { monitor with
    errorState :=
      { monitor.errorState with
        errorBits := bits
        degraded := bits != 0
        reasonCode := if bits = 0 then 0 else monitor.errorState.reasonCode } }

/-- `rtos_monitor_mark_recovery_pending`. -/
def rtosMonitorMarkRecoveryPending (monitor : MonitorContext) (trigger : RecoveryTrigger) :
    MonitorContext :=
  let fresh := !monitor.recovery.recoveryPending && !monitor.recovery.recoveryActive
  { monitor with
    recovery :=
      { monitor.recovery with
        recoveryCount :=
          if fresh then monitor.recovery.recoveryCount + 1 else monitor.recovery.recoveryCount
        recoveryPending := true
        triggerBits := monitor.recovery.triggerBits ||| trigger.bit }
    statistics :=
      { monitor.statistics with
        recoveryCount :=
          if fresh then monitor.statistics.recoveryCount + 1
          else monitor.statistics.recoveryCount } }

/-- `rtos_monitor_mark_recovery_started`. -/
def rtosMonitorMarkRecoveryStarted (monitor : MonitorContext) : MonitorContext :=
  { monitor with
    recovery := { monitor.recovery with recoveryPending := false, recoveryActive := true } }

/-- `rtos_monitor_mark_recovery_done`. -/
def rtosMonitorMarkRecoveryDone (monitor : MonitorContext) : MonitorContext :=
  { monitor with
    recovery :=
      { monitor.recovery with recoveryPending := false, recoveryActive := false, triggerBits := 0 } }

/-! ## Heartbeats -/

/-- `rtos_monitor_tick_rtos_heartbeat`. -/
def rtosMonitorTickRtosHeartbeat (monitor : MonitorContext) : MonitorContext :=
  { monitor with
    rtosHeartbeatSeq := monitor.rtosHeartbeatSeq + 1
    statistics := { monitor.statistics with rtosHeartbeatSeq := monitor.rtosHeartbeatSeq + 1 } }

/-- `heartbeat_state_from_age`. -/
def heartbeatStateFromAge (unchangedMs : UInt32) : LinuxHeartbeatState :=
  if unchangedMs ≥ 1000 then .globalDegraded
  else if unchangedMs ≥ 500 then .suspectedAbnormal
  else if unchangedMs ≥ 300 then .warning
  else .normal

/-- `rtos_monitor_observe_linux_heartbeat`. -/
def rtosMonitorObserveLinuxHeartbeat (monitor : MonitorContext) (linuxHeartbeatSeq nowMs : UInt32) :
    MonitorContext :=
  let observed : LinuxHeartbeat :=
    { monitor.linuxHeartbeat with
      initialized := true
      lastSequence := linuxHeartbeatSeq
      lastUpdateTimeMs := nowMs
      currentTimeMs := nowMs
      unchangedTimeMs := 0
      state := .normal }
  if !monitor.linuxHeartbeat.initialized then
    rtosMonitorClearError { monitor with linuxHeartbeat := observed } .linuxHeartbeat
  else if linuxHeartbeatSeq = monitor.linuxHeartbeat.lastSequence then monitor
  else if monitor.linuxHeartbeat.state = .normal then
    rtosMonitorClearError { monitor with linuxHeartbeat := observed } .linuxHeartbeat
  else
    let cleared := rtosMonitorClearError { monitor with linuxHeartbeat := observed } .linuxHeartbeat
    rtosMonitorMarkRecoveryPending
      { cleared with
        linuxHeartbeat := { observed with recoverCount := observed.recoverCount + 1 }
        statistics :=
          { cleared.statistics with
            linuxHeartbeatRecoverCount := cleared.statistics.linuxHeartbeatRecoverCount + 1 } }
      .linuxHeartbeat

/-- `rtos_monitor_poll_linux_heartbeat`. -/
def rtosMonitorPollLinuxHeartbeat (monitor : MonitorContext) (nowMs : UInt32) :
    LinuxHeartbeatState × MonitorContext :=
  if !monitor.linuxHeartbeat.initialized then
    (.normal, { monitor with linuxHeartbeat := { monitor.linuxHeartbeat with currentTimeMs := nowMs } })
  else
    let unchanged := nowMs - monitor.linuxHeartbeat.lastUpdateTimeMs
    let next := heartbeatStateFromAge unchanged
    let polled : MonitorContext :=
      { monitor with
        linuxHeartbeat := { monitor.linuxHeartbeat with
          currentTimeMs := nowMs, unchangedTimeMs := unchanged, state := next } }
    let recorded :=
      if next = .normal then rtosMonitorClearError polled .linuxHeartbeat
      else rtosMonitorRecordError polled .linuxHeartbeat nowMs
    if monitor.linuxHeartbeat.state ≠ .globalDegraded && next = .globalDegraded then
      (next,
        { recorded with
          linuxHeartbeat := { recorded.linuxHeartbeat with
            timeoutCount := recorded.linuxHeartbeat.timeoutCount + 1 }
          statistics :=
            { recorded.statistics with
              linuxHeartbeatTimeoutCount := recorded.statistics.linuxHeartbeatTimeoutCount + 1 } })
    else (next, recorded)

/-! ## Latency -/

/-- `refresh_latency_percentiles`, over the filled part of a window. -/
def refreshLatencyPercentiles (samples : Fin 32 → UInt32) (sampleCount : UInt32)
    (latency : LatencyStatistics) : LatencyStatistics :=
  if sampleCount = 0 then latency
  else
    let n := min sampleCount.toNat 32
    let sorted := ((List.ofFn samples).take n).insertionSort (· ≤ ·)
    let index := fun percent : ℕ => min ((n * percent + 99) / 100 - 1) (n - 1)
    { latency with p95Ms := sorted.getD (index 95) 0, p99Ms := sorted.getD (index 99) 0 }

/-- Add a sample to a window. -/
def LatencyWindow.add (w : LatencyWindow) (latencyMs : UInt32) : LatencyWindow where
  samples := Function.update w.samples (Fin.ofNat 32 (w.index % 32).toNat) latencyMs
  index := w.index + 1
  count := if w.count < 32 then w.count + 1 else w.count

/-- Count a sample and refresh the percentiles of its window. -/
def LatencyStatistics.add (latency : LatencyStatistics) (w : LatencyWindow) (latencyMs : UInt32) :
    LatencyStatistics :=
  refreshLatencyPercentiles w.samples w.count
    { latency with count := latency.count + 1, maxMs := max latencyMs latency.maxMs }

/-- `rtos_monitor_record_latency`. -/
def rtosMonitorRecordLatency (monitor : MonitorContext) (priority : UInt8) (latencyMs : UInt32) :
    MonitorContext :=
  let total := monitor.latencyTotal.add latencyMs
  let recorded : MonitorContext :=
    { monitor with
      latencyTotal := total
      statistics := { monitor.statistics with
        latencyTotal := monitor.statistics.latencyTotal.add total latencyMs } }
  if h : priority.toNat < 4 then
    let p : Fin 4 := ⟨priority.toNat, h⟩
    let window := (monitor.latencyByPriority p).add latencyMs
    { recorded with
      latencyByPriority := Function.update recorded.latencyByPriority p window
      statistics := { recorded.statistics with
        latencyByPriority := Function.update recorded.statistics.latencyByPriority p
          ((recorded.statistics.latencyByPriority p).add window latencyMs) } }
  else recorded

end Rtos

end PutGateway
