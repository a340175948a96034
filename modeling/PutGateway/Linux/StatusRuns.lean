import PutGateway.Linux.StatusValues
import Mathlib.Algebra.BigOperators.Group.List.Basic
import Mathlib.Tactic.SplitIfs
/-!
# Runs of the status collector

What the collector holds after any sequence of calls, by the calls: its
counters are the numbers of calls they count (`counters_run`), the last
times are those of the last calls, and its texts stay ASCII when it is told
nothing else (`Named`).
-/

namespace PutGateway

namespace Linux

variable {now : UInt64} {c : StatusCollector}

/-! ## Texts in ASCII -/

/-- The texts of a call that reach a file are ASCII. -/
def CollectorCall.Ascii : CollectorCall → Prop
  | .markStopped _ reason => IsAscii (reason.getD [])
  | .recordError _ stage _ _ => IsAscii (stage.getD [])
  | _ => True

/-- The snapshots have their names, and messages in ASCII. -/
def Named (c : StatusCollector) : Prop :=
  ∀ id, (c.modules id).name = ascii (statusModuleName id) ∧ IsAscii (c.modules id).lastErrorMessage

theorem Named.ascii (h : Named c) : c.Ascii := by
  intro id
  refine ⟨?_, (h id).2⟩
  rw [(h id).1]
  cases id <;> decide

theorem IsAscii.append {a b : List UInt8} (ha : IsAscii a) (hb : IsAscii b) : IsAscii (a ++ b) := by
  rw [IsAscii, List.all_append, Bool.and_eq_true]
  exact ⟨ha, hb⟩

theorem IsAscii.of_subset {a b : List UInt8} (h : IsAscii b) (hsub : a ⊆ b) : IsAscii a :=
  isAscii_iff.mpr fun x hx => isAscii_iff.mp h x (hsub hx)

theorem IsAscii.snprintf {a : List UInt8} (h : IsAscii a) (size : ℕ) :
    IsAscii (snprintf size a) :=
  h.of_subset (List.take_subset _ _)

theorem IsAscii.copyText {src : Option (List UInt8)} (h : IsAscii (src.getD [])) (size : ℕ) :
    IsAscii (copyText size src) :=
  IsAscii.snprintf (h.of_subset (List.takeWhile_sublist _).subset) size

theorem isAscii_formatD (err : UnifiedError) : IsAscii (formatD (unifiedErrorCode err)) := by
  cases err <;> decide

theorem isAscii_errorMessage {stage : Option (List UInt8)} (h : IsAscii (stage.getD []))
    (err : UnifiedError) : IsAscii (errorMessage stage err) := by
  refine IsAscii.snprintf (.append (.append ?_ (by decide)) (isAscii_formatD err)) _
  split
  · decide
  · exact h

theorem withModule_modules (c : StatusCollector) (id : StatusModuleId)
    (f : StatusModuleSnapshot → StatusModuleSnapshot) (id' : StatusModuleId) :
    (c.withModule id f).modules id' = if id' = id then f (c.modules id') else c.modules id' := by
  by_cases h : id' = id
  · rw [if_pos h, h]
    exact Function.update_self ..
  · rw [if_neg h]
    exact Function.update_of_ne h ..

/-! ## The classes of errors -/

/-- What the stage of an error makes of it. -/
inductive StageClass
  | decode
  | fragment
  | reassemble
  | crc
  | send
  | offline
  deriving DecidableEq

/-- The words that put a stage into a class. -/
def stageWords : List (StageClass × List String) :=
  [(.decode, ["decode", "parse"]), (.fragment, ["fragment"]), (.reassemble, ["reassemble"]),
   (.crc, ["crc"]), (.send, ["send"]),
   (.offline, ["bind", "socket", "offline", "disabled", "adapter_missing", "unavailable"])]

/-- The class of a stage: the first that one of its words puts it into. -/
def stageClass (stage : List UInt8) : Option StageClass :=
  (stageWords.find? fun entry => entry.2.any (strstr stage)).map (·.1)

/-- The counter of a class. -/
def StageClass.count : StageClass → StatusModuleSnapshot → UInt64
  | .decode, m => m.decodeErrorCount
  | .fragment, m => m.fragmentDropCount
  | .reassemble, m => m.reassembleTimeoutCount
  | .crc, m => m.crcErrorCount
  | .send, m => m.sendFailCount
  | .offline, m => m.interfaceOfflineCount

theorem stageClass_eq (stage : List UInt8) :
    stageClass stage =
      if strstr stage "decode" || strstr stage "parse" then some .decode
      else if strstr stage "fragment" then some .fragment
      else if strstr stage "reassemble" then some .reassemble
      else if strstr stage "crc" then some .crc
      else if strstr stage "send" then some .send
      else if strstr stage "bind" || strstr stage "socket" || strstr stage "offline" ||
          strstr stage "disabled" || strstr stage "adapter_missing" || strstr stage "unavailable" then
        some .offline
      else none := by
  simp only [stageClass, stageWords, List.find?_cons, List.any_cons, List.any_nil, Bool.or_false,
    List.find?_nil, Bool.or_assoc]
  repeat' split
  all_goals simp_all

/-- A stage counts for its class, and for no other. -/
theorem count_countStage (stage : List UInt8) (m : StatusModuleSnapshot) (k : StageClass) :
    k.count (countStage stage m) = k.count m + if stageClass stage = some k then 1 else 0 := by
  rw [stageClass_eq]
  unfold countStage
  repeat' split
  all_goals
    cases k <;> simp_all [StageClass.count]

/-- What an error does to a module besides. -/
theorem recordModuleError_frame (now : UInt64) (stage : Option (List UInt8)) (err : UnifiedError)
    (m : StatusModuleSnapshot) :
    (recordModuleError now stage err m).name = m.name ∧
      (recordModuleError now stage err m).lastErrorMessage = errorMessage stage err ∧
      (recordModuleError now stage err m).lastRxMs = m.lastRxMs ∧
      (recordModuleError now stage err m).lastTxMs = m.lastTxMs ∧
      (recordModuleError now stage err m).rxFrames = m.rxFrames ∧
      (recordModuleError now stage err m).txFrames = m.txFrames ∧
      (recordModuleError now stage err m).rxBytes = m.rxBytes ∧
      (recordModuleError now stage err m).txBytes = m.txBytes := by
  unfold recordModuleError countStage
  dsimp only
  split <;> (repeat' split) <;> exact ⟨rfl, rfl, rfl, rfl, rfl, rfl, rfl, rfl⟩

theorem count_recordModuleError (stage : Option (List UInt8)) (err : UnifiedError)
    (m : StatusModuleSnapshot) (k : StageClass) :
    k.count (recordModuleError now stage err m) =
      k.count m + if stageClass (stage.getD []) = some k then 1 else 0 := by
  have hcount := count_countStage (stage.getD []) { m with
    errorCount := m.errorCount + 1
    lastErrorMs := now
    lastErrorCode := err
    lastErrorStage := copyText statusCollectorTextMax stage
    lastErrorMessage := errorMessage stage err } k
  have hsame : k.count { m with
      errorCount := m.errorCount + 1
      lastErrorMs := now
      lastErrorCode := err
      lastErrorStage := copyText statusCollectorTextMax stage
      lastErrorMessage := errorMessage stage err } = k.count m := by
    cases k <;> rfl
  rw [hsame] at hcount
  rw [← hcount, recordModuleError]
  split
  · cases k <;> rfl
  · rfl

/-! ## What a call does to a module -/

/-- What a call at a time makes of the snapshot of a module. -/
def callModule (now : UInt64) (id : StatusModuleId) (m : StatusModuleSnapshot) :
    CollectorCall → StatusModuleSnapshot
  | .init enabled => (statusCollectorInit now enabled).modules id
  | .configureModule id' implemented enabled protocol detail =>
    if id = id' then
      { m with
        implemented := implemented
        enabled := enabled
        protocol := copyText 32 (protocol.getD (ascii (statusModuleDisplayProtocol id)))
        detail := copyText statusCollectorTextMax detail }
    else m
  | .markRunning id' => if id = id' then { m with running := true, stopped := false } else m
  | .markStopped id' reason =>
    if id = id' then
      { m with
        running := false
        stopped := true
        lastErrorMessage := copyText statusCollectorTextMax reason }
    else m
  | .recordRx id' bytes =>
    if id = id' then
      { m with
        rxFrames := m.rxFrames + 1
        rxBytes := m.rxBytes + bytes
        lastRxMs := now
        lastErrorMessage := [] }
    else m
  | .recordTxOk id' bytes =>
    if id = id' then
      { m with
        txFrames := m.txFrames + 1
        txBytes := m.txBytes + bytes
        lastTxMs := now
        lastIpcErrorMessage := [] }
    else m
  | .recordError id' stage err _ => if id = id' then recordModuleError now stage err m else m
  | .updateIpcStats _ _ _ => m
  | .writeAll _ _ _ => m

/-- **A call leaves the modules it is not about as they are.** -/
theorem callCollector_modules (c : StatusCollector) (call : CollectorCall) (id : StatusModuleId) :
    (callCollector now c call).modules id = callModule now id (c.modules id) call := by
  cases call with
  | init enabled => rfl
  | configureModule id' implemented enabled protocol detail =>
    rw [callCollector, statusCollectorConfigureModule, withModule_modules, callModule]
    split
    · next h => rw [h]
    · rfl
  | markRunning id' =>
    simp only [callCollector, statusCollectorMarkRunning, withModule_modules, callModule]
  | markStopped id' reason =>
    simp only [callCollector, statusCollectorMarkStopped, withModule_modules, callModule]
  | recordRx id' bytes =>
    simp only [callCollector, statusCollectorRecordRx, withModule_modules, callModule]
  | recordTxOk id' bytes =>
    simp only [callCollector, statusCollectorRecordTxOk, withModule_modules, callModule]
  | recordError id' stage err opened =>
    simp only [callCollector, statusCollectorRecordError, withModule_modules, callModule]
  | updateIpcStats stats rtosOnline heartbeatMs => rfl
  | writeAll modules ipcStatus routeStatus =>
    rw [callCollector]
    split <;> rfl

theorem named_init (enabled : Bool) : Named (statusCollectorInit now enabled) := by
  intro id
  refine ⟨?_, rfl⟩
  change copyText 32 (ascii (statusModuleName id)) = ascii (statusModuleName id)
  cases id <;> decide

/-- **What is told in ASCII stays ASCII.** -/
theorem Named.callCollector (h : Named c) {call : CollectorCall} (hcall : call.Ascii) : Named (Linux.callCollector now c call) := by
  intro id
  obtain ⟨hname, hmessage⟩ := h id
  rw [callCollector_modules]
  cases call with
  | init enabled => exact named_init enabled id
  | markStopped id' reason =>
    rw [callModule]
    split
    · exact ⟨hname, IsAscii.copyText hcall _⟩
    · exact ⟨hname, hmessage⟩
  | recordRx id' bytes =>
    rw [callModule]
    split
    · exact ⟨hname, rfl⟩
    · exact ⟨hname, hmessage⟩
  | recordError id' stage err opened =>
    rw [callModule]
    split
    · obtain ⟨hname', hmessage', -⟩ := recordModuleError_frame now stage err (c.modules id)
      rw [hname', hmessage']
      exact ⟨hname, isAscii_errorMessage hcall err⟩
    · exact ⟨hname, hmessage⟩
  | configureModule id' implemented enabled protocol detail =>
    rw [callModule]
    split <;> exact ⟨hname, hmessage⟩
  | markRunning id' =>
    rw [callModule]
    split <;> exact ⟨hname, hmessage⟩
  | recordTxOk id' bytes =>
    rw [callModule]
    split <;> exact ⟨hname, hmessage⟩
  | updateIpcStats stats rtosOnline heartbeatMs => exact ⟨hname, hmessage⟩
  | writeAll modules ipcStatus routeStatus => exact ⟨hname, hmessage⟩

/-! ## Counters -/

/-- A counter of a module counts what each call is worth to it. -/
def CountsCalls (counter : StatusModuleSnapshot → UInt64)
    (worth : StatusModuleId → CollectorCall → UInt64) : Prop :=
  (∀ id, counter { name := copyText 32 (ascii (statusModuleName id))
                   protocol := copyText 32 (ascii (statusModuleDisplayProtocol id)) } = 0) ∧
  ∀ now id m call, (∀ enabled, call ≠ .init enabled) →
    counter (callModule now id m call) = counter m + worth id call

/-- A frame that came in. -/
def rxFrame (id : StatusModuleId) : CollectorCall → UInt64
  | .recordRx id' _ => if id = id' then 1 else 0
  | _ => 0

/-- The bytes that came in. -/
def rxBytes (id : StatusModuleId) : CollectorCall → UInt64
  | .recordRx id' bytes => if id = id' then bytes else 0
  | _ => 0

/-- A frame that went out. -/
def txFrame (id : StatusModuleId) : CollectorCall → UInt64
  | .recordTxOk id' _ => if id = id' then 1 else 0
  | _ => 0

/-- The bytes that went out. -/
def txBytes (id : StatusModuleId) : CollectorCall → UInt64
  | .recordTxOk id' bytes => if id = id' then bytes else 0
  | _ => 0

/-- An error of a class. -/
def errorOf (k : StageClass) (id : StatusModuleId) : CollectorCall → UInt64
  | .recordError id' stage _ _ => if id = id' ∧ stageClass (stage.getD []) = some k then 1 else 0
  | _ => 0

theorem counts_rxFrames : CountsCalls (·.rxFrames) rxFrame := by
  refine ⟨fun _ => rfl, ?_⟩
  intro now id m call hinit
  have hframe := fun stage err => recordModuleError_frame now stage err m
  cases call with
  | init enabled => exact absurd rfl (hinit enabled)
  | updateIpcStats stats rtosOnline heartbeatMs => exact (UInt64.add_zero _).symm
  | writeAll modules ipcStatus routeStatus => exact (UInt64.add_zero _).symm
  | _ =>
    simp only [callModule, rxFrame]
    split_ifs <;> simp [hframe]

theorem counts_rxBytes : CountsCalls (·.rxBytes) rxBytes := by
  refine ⟨fun _ => rfl, ?_⟩
  intro now id m call hinit
  have hframe := fun stage err => recordModuleError_frame now stage err m
  cases call with
  | init enabled => exact absurd rfl (hinit enabled)
  | updateIpcStats stats rtosOnline heartbeatMs => exact (UInt64.add_zero _).symm
  | writeAll modules ipcStatus routeStatus => exact (UInt64.add_zero _).symm
  | _ =>
    simp only [callModule, rxBytes]
    split_ifs <;> simp [hframe]

theorem counts_txFrames : CountsCalls (·.txFrames) txFrame := by
  refine ⟨fun _ => rfl, ?_⟩
  intro now id m call hinit
  have hframe := fun stage err => recordModuleError_frame now stage err m
  cases call with
  | init enabled => exact absurd rfl (hinit enabled)
  | updateIpcStats stats rtosOnline heartbeatMs => exact (UInt64.add_zero _).symm
  | writeAll modules ipcStatus routeStatus => exact (UInt64.add_zero _).symm
  | _ =>
    simp only [callModule, txFrame]
    split_ifs <;> simp [hframe]

theorem counts_txBytes : CountsCalls (·.txBytes) txBytes := by
  refine ⟨fun _ => rfl, ?_⟩
  intro now id m call hinit
  have hframe := fun stage err => recordModuleError_frame now stage err m
  cases call with
  | init enabled => exact absurd rfl (hinit enabled)
  | updateIpcStats stats rtosOnline heartbeatMs => exact (UInt64.add_zero _).symm
  | writeAll modules ipcStatus routeStatus => exact (UInt64.add_zero _).symm
  | _ =>
    simp only [callModule, txBytes]
    split_ifs <;> simp [hframe]

/-- **Each error counts for the class of its stage, and for no other.** -/
theorem counts_errorOf (k : StageClass) : CountsCalls k.count (errorOf k) := by
  refine ⟨fun _ => by cases k <;> rfl, ?_⟩
  intro now id m call hinit
  cases call with
  | init enabled => exact absurd rfl (hinit enabled)
  | recordError id' stage err opened =>
    simp only [callModule, errorOf]
    by_cases hid : id = id'
    · rw [if_pos hid, count_recordModuleError]
      simp only [hid, true_and]
    · rw [if_neg hid, if_neg (fun h => hid h.1), UInt64.add_zero]
  | _ =>
    simp only [callModule, errorOf, UInt64.add_zero]
    try split
    all_goals cases k <;> rfl

/-! ## Runs -/

/-- What the calls of a run are worth to a counter. -/
def total (worth : CollectorCall → UInt64) (calls : List (UInt64 × CollectorCall)) : UInt64 :=
  (calls.map fun call => worth call.2).sum

/-- The collector after a run. -/
def runCollector (c : StatusCollector) (calls : List (UInt64 × CollectorCall)) : StatusCollector :=
  calls.foldl (fun c call => callCollector call.1 c call.2) c

theorem StatusState.run_collector (s : StatusState) (calls : List (UInt64 × CollectorCall)) :
    (s.run calls).collector = runCollector s.collector calls := by
  induction calls generalizing s with
  | nil => rfl
  | cons call calls ih => exact ih (s.call call)

/-- The calls are those of one run of the program, after its start. -/
def OneStart (calls : List (UInt64 × CollectorCall)) : Prop :=
  ∀ call ∈ calls, ∀ enabled, call.2 ≠ .init enabled

variable {calls : List (UInt64 × CollectorCall)}

theorem OneStart.cons {call : UInt64 × CollectorCall} (h : OneStart (call :: calls)) :
    (∀ enabled, call.2 ≠ .init enabled) ∧ OneStart calls :=
  List.forall_mem_cons.mp h

theorem counter_runCollector {counter : StatusModuleSnapshot → UInt64}
    {worth : StatusModuleId → CollectorCall → UInt64} (h : CountsCalls counter worth)
    (hstart : OneStart calls) (c : StatusCollector) (id : StatusModuleId) :
    counter ((runCollector c calls).modules id) =
      counter (c.modules id) + total (worth id) calls := by
  induction calls generalizing c with
  | nil => exact (UInt64.add_zero _).symm
  | cons call calls ih =>
    obtain ⟨hcall, hrest⟩ := hstart.cons
    rw [runCollector, List.foldl_cons, ← runCollector, ih hrest, callCollector_modules,
      h.2 _ _ _ _ hcall, total, total, List.map_cons, List.sum_cons, UInt64.add_assoc]

/-- **A counter is what the calls since the start are worth to it**, up to
2^64. -/
theorem counter_of_start {counter : StatusModuleSnapshot → UInt64}
    {worth : StatusModuleId → CollectorCall → UInt64} (h : CountsCalls counter worth)
    (hstart : OneStart calls) (now : UInt64) (enabled : Bool) (id : StatusModuleId) :
    counter ((runCollector (statusCollectorInit now enabled) calls).modules id) =
      total (worth id) calls := by
  rw [counter_runCollector h hstart]
  have hzero : counter ((statusCollectorInit now enabled).modules id) = 0 := h.1 id
  rw [hzero, UInt64.zero_add]

/-- A time of a module is that of the last call about it. -/
def TimesCalls (time : StatusModuleSnapshot → UInt64) (about : StatusModuleId → CollectorCall → Bool) :
    Prop :=
  (∀ id, time { name := copyText 32 (ascii (statusModuleName id))
                protocol := copyText 32 (ascii (statusModuleDisplayProtocol id)) } = 0) ∧
  ∀ now id m call, (∀ enabled, call ≠ .init enabled) →
    time (callModule now id m call) = if about id call then now else time m

/-- A frame comes in. -/
def isRx (id : StatusModuleId) : CollectorCall → Bool
  | .recordRx id' _ => id = id'
  | _ => false

/-- A frame goes out. -/
def isTx (id : StatusModuleId) : CollectorCall → Bool
  | .recordTxOk id' _ => id = id'
  | _ => false

theorem times_lastRxMs : TimesCalls (·.lastRxMs) isRx := by
  refine ⟨fun _ => rfl, ?_⟩
  intro now id m call hinit
  have hframe := fun stage err => recordModuleError_frame now stage err m
  cases call with
  | init enabled => exact absurd rfl (hinit enabled)
  | updateIpcStats stats rtosOnline heartbeatMs => rfl
  | writeAll modules ipcStatus routeStatus => rfl
  | _ =>
    simp only [callModule, isRx]
    split_ifs <;> simp_all

theorem times_lastTxMs : TimesCalls (·.lastTxMs) isTx := by
  refine ⟨fun _ => rfl, ?_⟩
  intro now id m call hinit
  have hframe := fun stage err => recordModuleError_frame now stage err m
  cases call with
  | init enabled => exact absurd rfl (hinit enabled)
  | updateIpcStats stats rtosOnline heartbeatMs => rfl
  | writeAll modules ipcStatus routeStatus => rfl
  | _ =>
    simp only [callModule, isTx]
    split_ifs <;> simp_all

/-- The time of the last call of a run that is about something, or zero. -/
def lastTime (about : CollectorCall → Bool) (calls : List (UInt64 × CollectorCall)) : UInt64 :=
  calls.foldl (fun time call => if about call.2 then call.1 else time) 0

/-- **A time is that of the last call about it since the start.** -/
theorem time_of_start {time : StatusModuleSnapshot → UInt64}
    {about : StatusModuleId → CollectorCall → Bool} (h : TimesCalls time about)
    (hstart : OneStart calls) (now : UInt64) (enabled : Bool) (id : StatusModuleId) :
    time ((runCollector (statusCollectorInit now enabled) calls).modules id) =
      lastTime (about id) calls := by
  have hrun : ∀ (c : StatusCollector),
      time ((runCollector c calls).modules id) =
        calls.foldl (fun time call => if about id call.2 then call.1 else time)
          (time (c.modules id)) := by
    induction calls with
    | nil => exact fun c => rfl
    | cons call calls ih =>
      intro c
      obtain ⟨hcall, hrest⟩ := hstart.cons
      rw [runCollector, List.foldl_cons, ← runCollector, ih hrest, callCollector_modules,
        h.2 _ _ _ _ hcall, List.foldl_cons]
  have hzero : time ((statusCollectorInit now enabled).modules id) = 0 := h.1 id
  rw [hrun, lastTime, hzero]

theorem named_runCollector (hc : Named c) (h : ∀ call ∈ calls, call.2.Ascii) :
    Named (runCollector c calls) := by
  induction calls generalizing c with
  | nil => exact hc
  | cons call calls ih =>
    rw [List.forall_mem_cons] at h
    exact ih (hc.callCollector h.1) h.2

theorem enabled_runCollector (h : OneStart calls) (c : StatusCollector) :
    (runCollector c calls).enabled = c.enabled := by
  induction calls generalizing c with
  | nil => rfl
  | cons call calls ih =>
    obtain ⟨hcall, hrest⟩ := h.cons
    rw [runCollector, List.foldl_cons, ← runCollector, ih hrest]
    obtain ⟨t, call⟩ := call
    cases call with
    | init enabled => exact absurd rfl (hcall enabled)
    | writeAll modules ipcStatus routeStatus =>
      simp only [callCollector]
      split <;> rfl
    | _ => rfl

/-! ## The files of a run -/

variable {s : StatusState}

theorem StatusState.run_append (s : StatusState) (calls calls' : List (UInt64 × CollectorCall)) :
    s.run (calls ++ calls') = (s.run calls).run calls' :=
  List.foldl_append

/-- A file stays as it is until it is written. -/
theorem modulesJson_run
    (h : ∀ call ∈ calls, ∀ ipcStatus routeStatus, call.2 ≠ .writeAll true ipcStatus routeStatus) :
    (s.run calls).dir.modulesJson = s.dir.modulesJson := by
  induction calls generalizing s with
  | nil => rfl
  | cons call calls ih =>
    rw [List.forall_mem_cons] at h
    have hcall : (s.call call).dir.modulesJson = s.dir.modulesJson := by
      obtain ⟨t, call⟩ := call
      cases call with
      | writeAll modules ipcStatus routeStatus =>
        have hmodules : modules = false := by
          cases modules with
          | false => rfl
          | true => exact absurd rfl (h.1 ipcStatus routeStatus)
        simp only [StatusState.call, callDir, writeAtomicJson, hmodules]
        split <;> rfl
      | recordError id stage err opened =>
        simp only [StatusState.call, callDir]
        split <;> rfl
      | _ => rfl
    exact (ih h.2).trans hcall

theorem ipcStatusJson_run
    (h : ∀ call ∈ calls, ∀ modules routeStatus, call.2 ≠ .writeAll modules true routeStatus) :
    (s.run calls).dir.ipcStatusJson = s.dir.ipcStatusJson := by
  induction calls generalizing s with
  | nil => rfl
  | cons call calls ih =>
    rw [List.forall_mem_cons] at h
    have hcall : (s.call call).dir.ipcStatusJson = s.dir.ipcStatusJson := by
      obtain ⟨t, call⟩ := call
      cases call with
      | writeAll modules ipcStatus routeStatus =>
        have hipcStatus : ipcStatus = false := by
          cases ipcStatus with
          | false => rfl
          | true => exact absurd rfl (h.1 modules routeStatus)
        simp only [StatusState.call, callDir, writeAtomicJson, hipcStatus]
        split <;> rfl
      | recordError id stage err opened =>
        simp only [StatusState.call, callDir]
        split <;> rfl
      | _ => rfl
    exact (ih h.2).trans hcall

/-- The last statistics a run gave the collector. -/
def lastIpcStats (calls : List (UInt64 × CollectorCall)) :
    Option (LinuxShmIpcSnapshot × Bool × UInt64) :=
  calls.foldl (fun last call =>
    match call.2 with
    | .updateIpcStats stats rtosOnline heartbeatMs => some (stats, rtosOnline, heartbeatMs)
    | _ => last) none

/-- The statistics the collector has are the last it was given. -/
theorem ipcStats_of_start (hstart : OneStart calls) (now : UInt64) (enabled : Bool) :
    ∀ c, c = runCollector (statusCollectorInit now enabled) calls →
      (if c.ipcStatsValid then some (c.ipcStats, c.rtosOnline, c.heartbeatMs) else none) =
        lastIpcStats calls := by
  have hrun : ∀ c : StatusCollector,
      (if (runCollector c calls).ipcStatsValid then
        some ((runCollector c calls).ipcStats, (runCollector c calls).rtosOnline,
          (runCollector c calls).heartbeatMs) else none) =
        calls.foldl (fun last call =>
          match call.2 with
          | .updateIpcStats stats rtosOnline heartbeatMs => some (stats, rtosOnline, heartbeatMs)
          | _ => last)
          (if c.ipcStatsValid then some (c.ipcStats, c.rtosOnline, c.heartbeatMs) else none) := by
    induction calls with
    | nil => exact fun c => rfl
    | cons call calls ih =>
      intro c
      obtain ⟨hcall, hrest⟩ := hstart.cons
      rw [runCollector, List.foldl_cons, ← runCollector, ih hrest, List.foldl_cons]
      congr 1
      obtain ⟨t, call⟩ := call
      cases call with
      | init enabled => exact absurd rfl (hcall enabled)
      | writeAll modules ipcStatus routeStatus =>
        simp only [callCollector]
        split <;> rfl
      | _ => rfl
  rintro c rfl
  exact hrun _

end Linux

end PutGateway
