import PutGateway.Linux.StatusRuns
import PutGateway.Web.StatusReader
/-!
# What the web reports of the collector

`linux_app` writes the status files and the web backend reads them. Here
the two are put together: whatever the collector is told, in whatever
order, the web reads back what the collector held when the file was
written, and of the events those that came last. Of `serde_json::from_str`
this takes that it reads texts (`ReadsTexts`), and nothing else.
-/

namespace PutGateway

namespace System

open Json Linux Web

/-! ## Reading a text -/

theorem readToString_utf8 (text : List Char) :
    readToString (some (JsonString.utf8 text)) = some text := by
  have hvalid : (JsonString.utf8 text).toByteArray.IsValidUTF8 := ⟨text, rfl⟩
  have hstring : String.fromUTF8? (JsonString.utf8 text).toByteArray = some (String.ofList text) :=
    dif_pos hvalid
  rw [readToString, Option.bind_some, hstring, Option.map_some, String.toList_ofList]

/-- **A file that is a text of JSON is read as what its value encodes.** -/
theorem readJson_of_text {α : Type} {fromStr : List Char → Option α} {encodes : Value → α → Prop}
    (hserde : ReadsTexts fromStr encodes) {bytes : List UInt8} {v : Value} {a : α}
    (h : Text bytes v) (hencodes : encodes v a) : readJson fromStr (some bytes) = some a := by
  obtain ⟨text, rfl⟩ := Lexes.utf8 h
  rw [readJson, readToString_utf8, Option.bind_some, hserde text v a h hencodes]

/-! ## What the fields encode -/

/-- The string a text in ASCII is read as. -/
def textOf (text : List UInt8) : String := String.ofList (chars text)

/-- A text of the program's own is read as itself. -/
theorem textOf_ascii {format : String} (h : format.toList.all fun ch => ch.toNat < 128) :
    textOf (ascii format) = format := by
  have hchars : chars (ascii format) = format.toList := by
    rw [chars, ascii, List.map_map]
    refine (List.map_congr_left fun ch hch => ?_).trans (List.map_id' _)
    have hlt := of_decide_eq_true (List.all_eq_true.mp h ch hch)
    rw [Function.comp_apply, Nat.toUInt8, UInt8.toNat_ofNat', Nat.mod_eq_of_lt (by omega),
      Char.ofNat_toNat]
  rw [textOf, hchars, String.ofList_toList]

theorem encodes_u64Value (n : UInt64) : EncodesU64 (u64Value n) n :=
  ⟨_, rfl, natural_decimal n.toNat⟩

theorem encodes_stringValue (text : List UInt8) : EncodesString (stringValue text) (textOf text) := by
  rw [EncodesString, textOf, String.toList_ofList, stringValue]

/-! ## What the structs encode -/

variable (now : UInt64) (c : StatusCollector)

/-- What the web reports of a module. -/
def reportedModule (m : StatusModuleSnapshot) : ModuleStatus where
  name := textOf m.name
  status := textOf (ascii (moduleState now m).name)
  rxBytes := m.rxBytes
  txBytes := m.txBytes
  rxFrames := m.rxFrames
  txFrames := m.txFrames
  decodeErrorCount := m.decodeErrorCount
  fragmentDropCount := m.fragmentDropCount
  reassembleTimeoutCount := m.reassembleTimeoutCount
  crcErrorCount := m.crcErrorCount
  sendFailCount := m.sendFailCount
  interfaceOfflineCount := m.interfaceOfflineCount
  lastRxMs := m.lastRxMs
  lastTxMs := m.lastTxMs
  lastError := textOf (if m.lastErrorMessage = [] then ascii "none" else m.lastErrorMessage)
  message := textOf (moduleMessage now m)

theorem encodes_moduleValue (m : StatusModuleSnapshot) :
    ModuleStatus.Encodes (moduleValue now m) (reportedModule now m) :=
  ⟨_, rfl, .of_sublist (List.Sublist.refl _) (by decide),
    { name := encodes_stringValue _
      status := encodes_stringValue _
      rxBytes := encodes_u64Value _
      txBytes := encodes_u64Value _
      rxFrames := encodes_u64Value _
      txFrames := encodes_u64Value _
      decodeErrorCount := encodes_u64Value _
      fragmentDropCount := encodes_u64Value _
      reassembleTimeoutCount := encodes_u64Value _
      crcErrorCount := encodes_u64Value _
      sendFailCount := encodes_u64Value _
      interfaceOfflineCount := encodes_u64Value _
      lastRxMs := encodes_u64Value _
      lastTxMs := encodes_u64Value _
      lastError := encodes_stringValue _
      message := encodes_stringValue _ }⟩

/-- What the web reads of the modules. -/
def reportedModules : ModulesFile where
  updatedAtMs := now
  state := some (textOf (ascii (topState now c)))
  modules := StatusModuleId.all.map fun id => reportedModule now (c.modules id)

theorem encodes_modulesValue :
    ModulesFile.Encodes (modulesValue now c) (reportedModules now c) :=
  ⟨_, rfl, .of_sublist (List.Sublist.refl _) (by decide),
    { updatedAtMs := encodes_u64Value _
      state := encodes_stringValue _
      modules := EncodesVec.map (fun id => encodes_moduleValue now (c.modules id)) _ }⟩

/-- What the web reports of a ring. -/
def reportedRing (rings : Fin 6 → RingStats) (i : Fin 6) : RingStatus where
  interface := textOf (ascii (interfaceNameFromId (interfaceOfIndex i)))
  capacity := (rings i).capacity
  used := (rings i).used
  highWatermark := (rings i).highWatermark
  fullCount := (rings i).fullCount

theorem encodes_ringValue (rings : Fin 6 → RingStats) (i : Fin 6) :
    RingStatus.Encodes (ringValue rings i) (reportedRing rings i) :=
  ⟨_, rfl, .of_sublist (List.Sublist.refl _) (by decide),
    { interface := encodes_stringValue _
      capacity := encodes_u64Value _
      used := encodes_u64Value _
      highWatermark := encodes_u64Value _
      fullCount := encodes_u64Value _ }⟩

/-- What the web reports of the IPC. -/
def reportedIpc (stats : LinuxShmIpcSnapshot) (rtosOnline : Bool) (heartbeatMs : UInt64) :
    IpcStatusResponse where
  updatedAtMs := now
  state := "ok"
  rtosOnline := rtosOnline
  heartbeatMs := heartbeatMs
  framePool :=
    { capacity := stats.framePool.capacity
      used := stats.framePool.used
      highWatermark := stats.framePool.highWatermark
      fullCount := stats.framePool.fullCount
      allocated := stats.framePool.allocated
      released := stats.framePool.released
      pendingReclaim := stats.framePool.pendingReclaim
      leakedSuspect := stats.leakedSuspect }
  rxRings := (List.finRange 6).map (reportedRing stats.rxRings)
  txRings := (List.finRange 6).map (reportedRing stats.txRings)
  pendingBitmap :=
    { rx := textOf (ascii "0x" ++ format02X stats.rxPendingBits)
      tx := textOf (ascii "0x" ++ format02X stats.txPendingBits) }
  mailbox :=
    { rxDoorbellCount := stats.rxDoorbellCount
      txDoorbellCount := stats.txDoorbellCount
      notifyFailCount := stats.notifyFailCount
      periodicDrainCount := stats.periodicDrainCount }
  integrity :=
    { descriptorCrcErrorCount := stats.descriptorCrcErrorCount
      epochMismatchCount := 0
      cacheSyncErrorCount := stats.cacheSyncErrorCount }
  reclaim :=
    { heartbeatConsumed := stats.reasonCount .heartbeatConsumed
      invalidFrameReclaimed := stats.reasonCount .invalidFrame
      noRouteReclaimed := stats.reasonCount .noRoute
      ttlExpiredReclaimed := stats.reasonCount .ttlExpired
      epochMismatchReclaimed := stats.reasonCount .epochMismatch
      reclaimRingUsed := stats.reclaimRingUsed
      reclaimAckCount := stats.reclaimAckCount }

theorem encodes_framePoolValue (stats : LinuxShmIpcSnapshot) :
    FramePoolStatus.Encodes (framePoolValue stats) (reportedIpc now stats false 0).framePool :=
  ⟨_, rfl, .of_sublist (List.Sublist.refl _) (by decide),
    { capacity := encodes_u64Value _
      used := encodes_u64Value _
      highWatermark := encodes_u64Value _
      fullCount := encodes_u64Value _
      allocated := encodes_u64Value _
      released := encodes_u64Value _
      pendingReclaim := encodes_u64Value _
      leakedSuspect := encodes_u64Value _ }⟩

theorem encodes_pendingBitmapValue (stats : LinuxShmIpcSnapshot) :
    PendingBitmapStatus.Encodes (pendingBitmapValue stats)
      (reportedIpc now stats false 0).pendingBitmap :=
  ⟨_, rfl, .of_sublist (List.Sublist.refl _) (by decide),
    { rx := encodes_stringValue _
      tx := encodes_stringValue _ }⟩

theorem encodes_mailboxValue (stats : LinuxShmIpcSnapshot) :
    MailboxStatus.Encodes (mailboxValue stats) (reportedIpc now stats false 0).mailbox :=
  ⟨_, rfl, .of_sublist (List.Sublist.refl _) (by decide),
    { rxDoorbellCount := encodes_u64Value _
      txDoorbellCount := encodes_u64Value _
      notifyFailCount := encodes_u64Value _
      periodicDrainCount := encodes_u64Value _ }⟩

theorem encodes_integrityValue (stats : LinuxShmIpcSnapshot) :
    IntegrityStatus.Encodes (integrityValue stats) (reportedIpc now stats false 0).integrity :=
  ⟨_, rfl, .of_sublist (List.Sublist.refl _) (by decide),
    { descriptorCrcErrorCount := encodes_u64Value _
      epochMismatchCount := encodes_u64Value _
      cacheSyncErrorCount := encodes_u64Value _ }⟩

theorem encodes_reclaimValue (stats : LinuxShmIpcSnapshot) :
    ReclaimStatus.Encodes (reclaimValue stats) (reportedIpc now stats false 0).reclaim :=
  ⟨_, rfl, .of_sublist (List.Sublist.refl _) (by decide),
    { heartbeatConsumed := encodes_u64Value _
      invalidFrameReclaimed := encodes_u64Value _
      noRouteReclaimed := encodes_u64Value _
      ttlExpiredReclaimed := encodes_u64Value _
      epochMismatchReclaimed := encodes_u64Value _
      reclaimRingUsed := encodes_u64Value _
      reclaimAckCount := encodes_u64Value _ }⟩

theorem encodes_ipcStatusValue (h : c.ipcStatsValid) :
    IpcStatusResponse.Encodes (ipcStatusValue now c)
      (reportedIpc now c.ipcStats c.rtosOnline c.heartbeatMs) := by
  have hrings (rings : Fin 6 → RingStats) :=
    EncodesVec.map (encodes_ringValue rings) (List.finRange 6)
  rw [ipcStatusValue, h]
  exact ⟨_, rfl, .of_sublist (List.Sublist.refl _) (by decide),
    { updatedAtMs := encodes_u64Value _
      state := encodes_stringValue _
      rtosOnline := rfl
      heartbeatMs := encodes_u64Value _
      framePool := encodes_framePoolValue now _
      rxRings := hrings _
      txRings := hrings _
      pendingBitmap := encodes_pendingBitmapValue now _
      mailbox := encodes_mailboxValue now _
      integrity := encodes_integrityValue now _
      reclaim := encodes_reclaimValue now _ }⟩

/-- Before there are statistics the state is unknown, and all else has its
default. -/
theorem encodes_ipcUnknownValue (h : ¬ c.ipcStatsValid) :
    IpcStatusResponse.Encodes (ipcStatusValue now c) { updatedAtMs := now, state := "unknown" } := by
  have hpool : FramePoolStatus.Encodes (.object
      [member "capacity" (u64Value 0), member "used" (u64Value 0),
       member "pending_reclaim" (u64Value 0), member "leaked_suspect" (u64Value 0)]) {} :=
    ⟨_, rfl, .of_sublist (by decide) (by decide),
      { capacity := encodes_u64Value _
        used := encodes_u64Value _
        highWatermark := rfl
        fullCount := rfl
        allocated := rfl
        released := rfl
        pendingReclaim := encodes_u64Value _
        leakedSuspect := encodes_u64Value _ }⟩
  have hnames : (["updated_at_ms", "state", "rtos_online", "frame_pool", "rx_rings",
      "tx_rings"].map String.toList).Sublist (["updated_at_ms", "state", "rtos_online",
        "heartbeat_ms", "frame_pool", "rx_rings", "tx_rings", "pending_bitmap", "mailbox",
        "integrity", "reclaim"].map String.toList) := by
    decide
  rw [Bool.not_eq_true] at h
  rw [ipcStatusValue, h]
  exact ⟨_, rfl, .of_sublist hnames (by decide),
    { updatedAtMs := encodes_u64Value _
      state := encodes_stringValue _
      rtosOnline := rfl
      heartbeatMs := rfl
      framePool := hpool
      rxRings := ⟨_, rfl, .nil⟩
      txRings := ⟨_, rfl, .nil⟩
      pendingBitmap := rfl
      mailbox := rfl
      integrity := rfl
      reclaim := rfl }⟩

/-! ## What is reported of a run -/

theorem textOf_state (state : ModuleState) : textOf (ascii state.name) = state.name := by
  refine textOf_ascii ?_
  cases state <;> decide

theorem textOf_topState : textOf (ascii (topState now c)) = topState now c := by
  have hall : ∀ state ∈ ["ok", "warn", "error"],
      state.toList.all fun ch => ch.toNat < 128 := by
    decide
  exact textOf_ascii (hall _ (topStateFrom_mem _ _ (by decide)))

theorem textOf_name (id : StatusModuleId) :
    textOf (ascii (statusModuleName id)) = statusModuleName id := by
  refine textOf_ascii ?_
  cases id <;> decide

/-- The collector after the calls since a start. -/
def collectorAfter (start : UInt64) (calls : List (UInt64 × CollectorCall)) : StatusCollector :=
  runCollector (statusCollectorInit start true) calls

/-- What there is to report of a module after the calls since a start: its
counters are the numbers of the calls they count. -/
def moduleAfter (start : UInt64) (calls : List (UInt64 × CollectorCall)) (id : StatusModuleId) :
    ModuleStatus :=
  let m := (collectorAfter start calls).modules id
  { name := statusModuleName id
    status := (moduleState now m).name
    rxBytes := total (rxBytes id) calls
    txBytes := total (txBytes id) calls
    rxFrames := total (rxFrame id) calls
    txFrames := total (txFrame id) calls
    decodeErrorCount := total (errorOf .decode id) calls
    fragmentDropCount := total (errorOf .fragment id) calls
    reassembleTimeoutCount := total (errorOf .reassemble id) calls
    crcErrorCount := total (errorOf .crc id) calls
    sendFailCount := total (errorOf .send id) calls
    interfaceOfflineCount := total (errorOf .offline id) calls
    lastRxMs := lastTime (isRx id) calls
    lastTxMs := lastTime (isTx id) calls
    lastError := textOf (if m.lastErrorMessage = [] then ascii "none" else m.lastErrorMessage)
    message := textOf (moduleMessage now m) }

variable {start : UInt64} {calls later : List (UInt64 × CollectorCall)}

theorem named_collectorAfter (start : UInt64) (h : ∀ call ∈ calls, call.2.Ascii) :
    Named (collectorAfter start calls) :=
  named_runCollector (named_init true) h

theorem reportedModule_collectorAfter (hstart : OneStart calls)
    (hascii : ∀ call ∈ calls, call.2.Ascii) (id : StatusModuleId) :
    reportedModule now ((collectorAfter start calls).modules id) =
      moduleAfter now start calls id := by
  have hname := (named_collectorAfter start hascii id).1
  have hclass (k : StageClass) := counter_of_start (counts_errorOf k) hstart start true id
  have hrxFrames := counter_of_start counts_rxFrames hstart start true id
  have hrxBytes := counter_of_start counts_rxBytes hstart start true id
  have htxFrames := counter_of_start counts_txFrames hstart start true id
  have htxBytes := counter_of_start counts_txBytes hstart start true id
  have hlastRx := time_of_start times_lastRxMs hstart start true id
  have hlastTx := time_of_start times_lastTxMs hstart start true id
  rw [reportedModule, hname, textOf_name, textOf_state, moduleAfter, ← hrxFrames, ← hrxBytes,
    ← htxFrames, ← htxBytes, ← hlastRx, ← hlastTx, ← hclass, ← hclass, ← hclass, ← hclass,
    ← hclass, ← hclass]
  rfl

theorem run_writeAll (s : StatusState) (start now : UInt64) (calls : List (UInt64 × CollectorCall))
    (modules ipcStatus routeStatus : Bool) (later : List (UInt64 × CollectorCall)) :
    s.run ((start, .init true) :: calls ++ (now, .writeAll modules ipcStatus routeStatus) :: later) =
      ((s.run ((start, .init true) :: calls)).call
        (now, .writeAll modules ipcStatus routeStatus)).run later :=
  StatusState.run_append s _ _

theorem collector_run_init (s : StatusState) (start : UInt64)
    (calls : List (UInt64 × CollectorCall)) :
    (s.run ((start, .init true) :: calls)).collector = collectorAfter start calls :=
  StatusState.run_collector s _

theorem enabled_collectorAfter (hstart : OneStart calls) :
    (collectorAfter start calls).enabled = true :=
  enabled_runCollector hstart _

/-- **The web reports the modules as the collector was told of them.** A
program starts, whatever ran before it, and its collector is told things in
ASCII. Then, from a write of `modules.json` to the next, the web reads the
file without an error: every frame, every byte and every error since the
start is counted once, in the module and under the kind it is of, and the
states are those at the time of the write, unless the snapshot is old. -/
theorem modules_reported {fromStr : List Char → Option ModulesFile}
    (hserde : ReadsTexts fromStr ModulesFile.Encodes) (clocks : Clocks) (staleMs : UInt64)
    (s : StatusState) (ipcStatus routeStatus : Bool) (hstart : OneStart calls)
    (hascii : ∀ call ∈ calls, call.2.Ascii)
    (hlater : ∀ call ∈ later, ∀ ipcStatus routeStatus,
      call.2 ≠ .writeAll true ipcStatus routeStatus) :
    readModules fromStr clocks staleMs
        (s.run ((start, .init true) :: calls ++
          (now, .writeAll true ipcStatus routeStatus) :: later)).dir.modulesJson =
      { updatedAtMs := now
        state := stateWithFreshness (some (topState now (collectorAfter start calls)))
          (classifySnapshot clocks now staleMs)
        modules := StatusModuleId.all.map (moduleAfter now start calls) } := by
  have hfile : (s.run ((start, .init true) :: calls ++
      (now, .writeAll true ipcStatus routeStatus) :: later)).dir.modulesJson =
        some (writeModulesJson now (collectorAfter start calls)) := by
    rw [run_writeAll, modulesJson_run hlater]
    simp only [StatusState.call, callDir, collector_run_init, enabled_collectorAfter hstart,
      writeAtomicJson, if_true]
  have hmodules : (StatusModuleId.all.map fun id =>
      reportedModule now ((collectorAfter start calls).modules id)) =
        StatusModuleId.all.map (moduleAfter now start calls) :=
    List.map_congr_left fun id _ => reportedModule_collectorAfter now hstart hascii id
  rw [hfile, readModules,
    readJson_of_text hserde (text_writeModulesJson now (named_collectorAfter start hascii).ascii)
      (encodes_modulesValue now _),
    reportedModules, textOf_topState, hmodules]

/-- The calls of a witness: a frame comes in over CAN, and one that cannot
be decoded. -/
def canCalls : List (UInt64 × CollectorCall) :=
  [(200, .configureModule .can true true none none), (300, .markRunning .can),
   (400, .recordRx .can 64), (500, .recordError .can (some (ascii "can_decode")) .crc true)]

theorem modules_reported_can :
    (readModules (readText ModulesFile.read) ⟨none, some 1500⟩ 5000
      (({} : StatusState).run ((100, .init true) :: canCalls ++
        (1000, .writeAll true true true) :: [])).dir.modulesJson).modules.head? =
      some
        { name := "can", status := "error", rxBytes := 64, rxFrames := 1, decodeErrorCount := 1,
          lastRxMs := 400, lastError := "can_decode failed with error=-13",
          message := "can_decode failed with error=-13" } := by
  have hstart : OneStart canCalls := by
    intro call hcall enabled heq
    simp only [canCalls, List.mem_cons, List.not_mem_nil, or_false] at hcall
    rcases hcall with rfl | rfl | rfl | rfl <;> cases heq
  have hascii : ∀ call ∈ canCalls, call.2.Ascii := by
    simp only [canCalls, List.forall_mem_cons, CollectorCall.Ascii, true_and]
    exact ⟨by decide, fun call hcall => by cases hcall⟩
  rw [modules_reported 1000 (readsTexts_readText ModulesFile.follows) ⟨none, some 1500⟩ 5000 {} true
    true hstart hascii
    (fun call hcall => by cases hcall)]
  decide

/-- **The web reports the statistics of the IPC that the collector was
given last.** From a write of `ipc_status.json` to the next it reads the
file without an error, whatever the statistics are; before there are any,
the state is unknown. -/
theorem ipcStatus_reported {fromStr : List Char → Option IpcStatusResponse}
    (hserde : ReadsTexts fromStr IpcStatusResponse.Encodes) (clocks : Clocks) (staleMs : UInt64)
    (s : StatusState) (modules routeStatus : Bool) (hstart : OneStart calls)
    (hlater : ∀ call ∈ later, ∀ modules routeStatus,
      call.2 ≠ .writeAll modules true routeStatus) :
    readIpcStatus fromStr clocks staleMs
        (s.run ((start, .init true) :: calls ++
          (now, .writeAll modules true routeStatus) :: later)).dir.ipcStatusJson =
      match lastIpcStats calls with
      | none =>
        { updatedAtMs := now
          state := stateWithFreshness (some "unknown") (classifySnapshot clocks now staleMs) }
      | some (stats, rtosOnline, heartbeatMs) =>
        { reportedIpc now stats rtosOnline heartbeatMs with
          state := stateWithFreshness (some "ok") (classifySnapshot clocks now staleMs) } := by
  have hfile : (s.run ((start, .init true) :: calls ++
      (now, .writeAll modules true routeStatus) :: later)).dir.ipcStatusJson =
        some (writeIpcStatusJson now (collectorAfter start calls)) := by
    rw [run_writeAll, ipcStatusJson_run hlater]
    simp only [StatusState.call, callDir, collector_run_init, enabled_collectorAfter hstart,
      writeAtomicJson, if_true]
  have htext := text_writeIpcStatusJson now (collectorAfter start calls)
  rw [hfile, readIpcStatus, ← ipcStats_of_start hstart start true (collectorAfter start calls) rfl]
  by_cases hvalid : (collectorAfter start calls).ipcStatsValid
  · rw [readJson_of_text hserde htext (encodes_ipcStatusValue now _ hvalid), if_pos hvalid]
    rfl
  · rw [readJson_of_text hserde htext (encodes_ipcUnknownValue now _ hvalid), if_neg hvalid]

theorem ipcStatus_reported_busy :
    (readIpcStatus (readText IpcStatusResponse.read) ⟨none, some 1500⟩ 5000
      (({} : StatusState).run ((100, .init true) ::
        [(200, .updateIpcStats { rxPendingBits := 0x2A } false 0)] ++
          (1000, .writeAll true true true) :: [])).dir.ipcStatusJson).pendingBitmap.rx = "0x2A" := by
  have hstart : OneStart [(200, .updateIpcStats { rxPendingBits := 0x2A } false 0)] := by
    intro call hcall enabled heq
    rw [List.mem_singleton] at hcall
    subst hcall
    cases heq
  rw [ipcStatus_reported 1000 (readsTexts_readText IpcStatusResponse.follows) ⟨none, some 1500⟩ 5000
    {} true true hstart
    (fun call hcall => by cases hcall)]
  decide

end System

end PutGateway
