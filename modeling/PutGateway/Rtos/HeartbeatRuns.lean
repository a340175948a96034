import PutGateway.Lib.SlotTable
import PutGateway.Rtos.EndpointHeartbeat
/-!
# Runs of the heartbeat table

Any sequence of gateway changes, heartbeats, scans and clears. The entries
in use are a partial map from valid CIDs to states (`Wellformed`), and the
file says which call may change a state and how (`MovesByRule`,
`ConsumesByRule`). A run also counts the changes it makes, by comparing
every entry before and after a call, and the two counters of the table are
these numbers as 32-bit values (`heartbeatRun_keeps`).

`rtos_endpoint_heartbeat_clear_entries` zeroes the table, so it takes
entries out of every state without a scan.
-/

namespace PutGateway

namespace Rtos

open SlotTable

variable {table : EndpointHeartbeatTable} {entry entry' : EndpointHeartbeatEntry} {i j : Fin 64}
  {sourceCid destinationCid : Cid} {sourceInterface : PutShmInterface}
  {nowMs frameLocalTime : UInt32}

/-! ## The entries in use -/

/-- The entries in use are under distinct valid CIDs and have a state. -/
structure EndpointHeartbeatTable.Wellformed (table : EndpointHeartbeatTable) : Prop where
  distinct : Distinct (·.inUse) (·.sourceCid) table.entries
  valid : ∀ i, (table.entries i).inUse = true → sourceCidIsValid (table.entries i).sourceCid = true
  state_ne : ∀ i, (table.entries i).inUse = true → (table.entries i).state ≠ .empty
  free : ∀ i, (table.entries i).inUse = false → (table.entries i).state = .empty

theorem EndpointHeartbeatTable.wellformed_init : EndpointHeartbeatTable.Wellformed {} where
  distinct := fun _ _ hi => absurd hi Bool.false_ne_true
  valid := fun _ hi => absurd hi Bool.false_ne_true
  state_ne := fun _ hi => absurd hi Bool.false_ne_true
  free := fun _ _ => rfl

theorem EndpointHeartbeatTable.findEntry_eq_find :
    table.findEntry sourceCid = find (·.inUse) (·.sourceCid) table.entries sourceCid := rfl

theorem EndpointHeartbeatTable.freeEntry_eq_findFree :
    table.freeEntry = findFree (·.inUse) table.entries := rfl

/-! ## A heartbeat -/

/-- The gateway is configured and the heartbeat is a valid one to it. -/
def EndpointHeartbeatTable.Admits (table : EndpointHeartbeatTable)
    (sourceCid destinationCid : Cid) : Prop :=
  table.gatewayConfigured = true ∧ sourceCidIsValid sourceCid = true ∧
    table.gatewayCid = destinationCid

/-- What an accepted heartbeat leaves in its entry. -/
structure EndpointHeartbeatEntry.Heard (entry : EndpointHeartbeatEntry) (sourceCid : Cid)
    (sourceInterface : PutShmInterface) (nowMs frameLocalTime : UInt32)
    (entry' : EndpointHeartbeatEntry) : Prop where
  inUse : entry'.inUse = true
  sourceCid : entry'.sourceCid = sourceCid
  lastRxInterface : entry'.lastRxInterface = sourceInterface
  lastRtosTimeMs : entry'.lastRtosTimeMs = nowMs
  lastFrameLocalTime : entry'.lastFrameLocalTime = frameLocalTime
  rxCount : entry'.rxCount = entry.rxCount + 1
  timeoutCount : entry'.timeoutCount = entry.timeoutCount
  state : entry'.state = .online

/-- **What a heartbeat does.** One that is not admitted changes no entry.
One of a known CID is accepted, full table or not, and updates its entry.
One of a new CID takes a free entry; without a free entry it is rejected.
No other entry changes. -/
inductive ConsumesByRule (table : EndpointHeartbeatTable) (sourceCid destinationCid : Cid)
    (sourceInterface : PutShmInterface) (nowMs frameLocalTime : UInt32) :
    UnifiedError × EndpointHeartbeatTable → Prop
  | refused {error : UnifiedError} {table' : EndpointHeartbeatTable} :
      ¬ table.Admits sourceCid destinationCid → error ≠ .ok → table'.entries = table.entries →
      ConsumesByRule table sourceCid destinationCid sourceInterface nowMs frameLocalTime
        (error, table')
  | known (i : Fin 64) {table' : EndpointHeartbeatTable} :
      table.Admits sourceCid destinationCid →
      (table.entries i).inUse = true → (table.entries i).sourceCid = sourceCid →
      (table.entries i).Heard sourceCid sourceInterface nowMs frameLocalTime (table'.entries i) →
      (∀ j, j ≠ i → table'.entries j = table.entries j) →
      ConsumesByRule table sourceCid destinationCid sourceInterface nowMs frameLocalTime
        (.ok, table')
  | new (i : Fin 64) {table' : EndpointHeartbeatTable} :
      table.Admits sourceCid destinationCid →
      (∀ j, (table.entries j).inUse = true → (table.entries j).sourceCid ≠ sourceCid) →
      (table.entries i).inUse = false →
      (table.entries i).Heard sourceCid sourceInterface nowMs frameLocalTime (table'.entries i) →
      (∀ j, j ≠ i → table'.entries j = table.entries j) →
      ConsumesByRule table sourceCid destinationCid sourceInterface nowMs frameLocalTime
        (.ok, table')
  | full {table' : EndpointHeartbeatTable} :
      table.Admits sourceCid destinationCid →
      (∀ j, (table.entries j).inUse = true ∧ (table.entries j).sourceCid ≠ sourceCid) →
      table'.entries = table.entries →
      ConsumesByRule table sourceCid destinationCid sourceInterface nowMs frameLocalTime
        (.ipcQueueFull, table')

/-- The entry a heartbeat of a CID goes to: its own, or a free one if the
CID is new. -/
def EndpointHeartbeatTable.Takes (table : EndpointHeartbeatTable) (sourceCid : Cid)
    (i : Fin 64) : Prop :=
  ((table.entries i).inUse = true ∧ (table.entries i).sourceCid = sourceCid) ∨
    ((table.entries i).inUse = false ∧
      ∀ j, (table.entries j).inUse = true → (table.entries j).sourceCid ≠ sourceCid)

/-- The three ends of `rtos_endpoint_heartbeat_consume`. -/
theorem rtosEndpointHeartbeatConsume_cases (table : EndpointHeartbeatTable)
    (sourceCid destinationCid : Cid) (sourceInterface : PutShmInterface)
    (nowMs frameLocalTime : UInt32) :
    (¬ table.Admits sourceCid destinationCid ∧ ∃ error, error ≠ UnifiedError.ok ∧
      rtosEndpointHeartbeatConsume table sourceCid destinationCid sourceInterface nowMs
        frameLocalTime = (error, table.countInvalid)) ∨
    (table.Admits sourceCid destinationCid ∧ ∃ i, table.Takes sourceCid i ∧
      rtosEndpointHeartbeatConsume table sourceCid destinationCid sourceInterface nowMs
        frameLocalTime = (.ok, table.record i sourceCid sourceInterface nowMs frameLocalTime)) ∨
    (table.Admits sourceCid destinationCid ∧
      (∀ j, (table.entries j).inUse = true ∧ (table.entries j).sourceCid ≠ sourceCid) ∧
      ∃ statistics : EndpointHeartbeatStatistics,
        statistics.timeoutCount = table.statistics.timeoutCount ∧
        statistics.recoverCount = table.statistics.recoverCount ∧
        rtosEndpointHeartbeatConsume table sourceCid destinationCid sourceInterface nowMs
          frameLocalTime = (.ipcQueueFull, { table with statistics := statistics })) := by
  unfold rtosEndpointHeartbeatConsume
  -- the three checks, in the order of the source
  by_cases hconfigured : table.gatewayConfigured = true
  swap
  · refine .inl ⟨fun h => hconfigured h.1, .ipcNotReady, by decide, ?_⟩
    rw [if_pos (by simpa using hconfigured)]
  by_cases hvalid : sourceCidIsValid sourceCid = true
  swap
  · refine .inl ⟨fun h => hvalid h.2.1, .invalidArg, by decide, ?_⟩
    rw [if_neg (by simpa using hconfigured), if_pos (by simpa using hvalid)]
  by_cases hgateway : table.gatewayCid = destinationCid
  swap
  · refine .inl ⟨fun h => hgateway h.2.2, .invalidArg, by decide, ?_⟩
    rw [if_neg (by simpa using hconfigured), if_neg (by simpa using hvalid), if_pos hgateway]
  rw [if_neg (by simpa using hconfigured), if_neg (by simpa using hvalid),
    if_neg (not_not.mpr hgateway)]
  refine .inr ?_
  have hadmits : table.Admits sourceCid destinationCid := ⟨hconfigured, hvalid, hgateway⟩
  -- the entry of the endpoint, or a free one, or none
  cases hfind : table.findEntry sourceCid with
  | some i => exact .inl ⟨hadmits, i, .inl (find_eq_some hfind), rfl⟩
  | none =>
    have hnew := find_eq_none_iff.mp hfind
    cases hfree : table.freeEntry with
    | some i => exact .inl ⟨hadmits, i, .inr ⟨findFree_eq_some hfree, hnew⟩, rfl⟩
    | none =>
      have hall := findFree_eq_none_iff.mp hfree
      refine .inr ⟨hadmits, fun j => ⟨hall j, hnew j (hall j)⟩,
        { table.statistics with tableFullCount := table.statistics.tableFullCount + 1 }, ?_⟩
      exact ⟨rfl, rfl, rfl⟩

@[simp] theorem EndpointHeartbeatTable.record_entries :
    (table.record i sourceCid sourceInterface nowMs frameLocalTime).entries =
      Function.update table.entries i
        { table.entries i with
          inUse := true, sourceCid := sourceCid, lastRxInterface := sourceInterface,
          lastRtosTimeMs := nowMs, lastFrameLocalTime := frameLocalTime,
          rxCount := (table.entries i).rxCount + 1, state := .online } := rfl

theorem EndpointHeartbeatTable.record_heard :
    (table.entries i).Heard sourceCid sourceInterface nowMs frameLocalTime
      ((table.record i sourceCid sourceInterface nowMs frameLocalTime).entries i) := by
  rw [record_entries, Function.update_self]
  exact ⟨rfl, rfl, rfl, rfl, rfl, rfl, rfl, rfl⟩

theorem EndpointHeartbeatTable.record_of_ne (hj : j ≠ i) :
    (table.record i sourceCid sourceInterface nowMs frameLocalTime).entries j =
      table.entries j := by
  rw [record_entries, Function.update_of_ne hj]

theorem rtosEndpointHeartbeatConsume_byRule (table : EndpointHeartbeatTable)
    (sourceCid destinationCid : Cid) (sourceInterface : PutShmInterface)
    (nowMs frameLocalTime : UInt32) :
    ConsumesByRule table sourceCid destinationCid sourceInterface nowMs frameLocalTime
      (rtosEndpointHeartbeatConsume table sourceCid destinationCid sourceInterface nowMs
        frameLocalTime) := by
  rcases rtosEndpointHeartbeatConsume_cases table sourceCid destinationCid sourceInterface nowMs
    frameLocalTime with ⟨hrefused, error, herror, h⟩ | ⟨hadmits, i, htakes, h⟩ |
      ⟨hadmits, hfull, statistics, -, -, h⟩
  · rw [h]
    exact .refused hrefused herror rfl
  · rw [h]
    rcases htakes with ⟨hlive, hcid⟩ | ⟨hfree, hnew⟩
    · exact .known i hadmits hlive hcid EndpointHeartbeatTable.record_heard
        fun j hj => EndpointHeartbeatTable.record_of_ne hj
    · exact .new i hadmits hnew hfree EndpointHeartbeatTable.record_heard
        fun j hj => EndpointHeartbeatTable.record_of_ne hj
  · rw [h]
    exact .full hadmits hfull rfl

theorem EndpointHeartbeatTable.Wellformed.record (h : table.Wellformed)
    (hvalid : sourceCidIsValid sourceCid = true) (htakes : table.Takes sourceCid i) :
    (table.record i sourceCid sourceInterface nowMs frameLocalTime).Wellformed := by
  have hother : ∀ j, j ≠ i → (table.entries j).inUse = true →
      (table.entries j).sourceCid ≠ sourceCid := by
    intro j hj hlive
    rcases htakes with ⟨hi, hcid⟩ | ⟨-, hnew⟩
    · exact fun hsame => hj (h.distinct j i hlive hi (hsame.trans hcid.symm))
    · exact hnew j hlive
  have hheard := @record_heard table i sourceCid sourceInterface nowMs frameLocalTime
  refine ⟨?_, fun j hj => ?_, fun j hj => ?_, fun j hj => ?_⟩
  · exact h.distinct.update_live hother
  · by_cases hji : j = i
    · rw [hji, hheard.sourceCid]
      exact hvalid
    · rw [record_of_ne hji] at hj ⊢
      exact h.valid j hj
  · by_cases hji : j = i
    · rw [hji, hheard.state]
      decide
    · rw [record_of_ne hji] at hj ⊢
      exact h.state_ne j hj
  · by_cases hji : j = i
    · rw [hji, hheard.inUse] at hj
      cases hj
    · rw [record_of_ne hji] at hj ⊢
      exact h.free j hj

/-! ## A scan -/

/-- **How a scan moves an entry**: from ONLINE to WARN or OFFLINE or from
WARN to OFFLINE, and only at an age that has reached the limit. -/
inductive EndpointHeartbeatEntry.Ages (entry : EndpointHeartbeatEntry) (nowMs : UInt32) :
    EndpointHeartbeatState → Prop
  | stays : Ages entry nowMs entry.state
  | warns : entry.state = .online → 3000 ≤ nowMs - entry.lastRtosTimeMs →
      Ages entry nowMs .warn
  | expires : entry.state = .online ∨ entry.state = .warn → 5000 ≤ nowMs - entry.lastRtosTimeMs →
      Ages entry nowMs .offline

/-- A scan changes nothing but the state of an entry and its count. -/
theorem EndpointHeartbeatEntry.age_eq (entry : EndpointHeartbeatEntry) (nowMs : UInt32) :
    ∃ state timeoutCount, entry.Ages nowMs state ∧
      (entry.age nowMs).1 = { entry with state := state, timeoutCount := timeoutCount } ∧
      (entry.inUse = true ∨ state = entry.state) ∧
      ((entry.age nowMs).2 = true ↔ state ≠ entry.state) := by
  by_cases hskip : (!entry.inUse || decide (entry.state = .empty)) = true
  · refine ⟨entry.state, entry.timeoutCount, .stays, ?_, .inr rfl, ?_⟩ <;>
      simp only [age, if_pos hskip, ne_eq, not_true_eq_false, Bool.false_eq_true]
  have hlive : entry.inUse = true := by
    cases h : entry.inUse
    · simp [h] at hskip
    · rfl
  have hstate : entry.state ≠ .empty := fun h => hskip (by simp [h])
  simp only [age, if_neg hskip]
  -- the longer limit is checked first
  by_cases hoffline : 5000 ≤ nowMs - entry.lastRtosTimeMs ∧ entry.state ≠ .offline
  · refine ⟨.offline, entry.timeoutCount + 1, .expires ?_ hoffline.1, ?_, .inl hlive, ?_⟩
    · rcases hcase : entry.state with _ | _ | _ | _
      · exact absurd hcase hstate
      · exact .inl rfl
      · exact .inr rfl
      · exact absurd hcase hoffline.2
    · rw [if_pos (by simpa using hoffline)]
    · rw [if_pos (by simpa using hoffline)]
      exact ⟨fun _ => hoffline.2.symm, fun _ => rfl⟩
  rw [if_neg (by simpa using hoffline)]
  by_cases hwarn : 3000 ≤ nowMs - entry.lastRtosTimeMs ∧ entry.state = .online
  · refine ⟨.warn, entry.timeoutCount + 1, .warns hwarn.2 hwarn.1, ?_, .inl hlive, ?_⟩
    · rw [if_pos (by simpa using hwarn)]
    · rw [if_pos (by simpa using hwarn), hwarn.2]
      exact ⟨fun _ => by decide, fun _ => rfl⟩
  · refine ⟨entry.state, entry.timeoutCount, .stays, ?_, .inl hlive, ?_⟩ <;>
      rw [if_neg (by simpa using hwarn)]
    exact ⟨fun h => absurd h Bool.false_ne_true, fun h => absurd rfl h⟩

theorem EndpointHeartbeatEntry.age_inUse : (entry.age nowMs).1.inUse = entry.inUse := by
  obtain ⟨state, timeoutCount, -, h, -⟩ := entry.age_eq nowMs
  rw [h]

theorem EndpointHeartbeatEntry.age_sourceCid :
    (entry.age nowMs).1.sourceCid = entry.sourceCid := by
  obtain ⟨state, timeoutCount, -, h, -⟩ := entry.age_eq nowMs
  rw [h]

theorem EndpointHeartbeatEntry.age_state : entry.Ages nowMs (entry.age nowMs).1.state := by
  obtain ⟨state, timeoutCount, hages, h, -⟩ := entry.age_eq nowMs
  rw [h]
  exact hages

theorem EndpointHeartbeatEntry.age_state_of_free (hfree : entry.inUse = false) :
    (entry.age nowMs).1.state = entry.state := by
  obtain ⟨state, timeoutCount, -, h, hlive | hstate, -⟩ := entry.age_eq nowMs
  · rw [hfree] at hlive
    cases hlive
  · rw [h]
    exact hstate

theorem EndpointHeartbeatEntry.Ages.ne_empty {state : EndpointHeartbeatState}
    (h : entry.Ages nowMs state) (hstate : entry.state ≠ .empty) : state ≠ .empty := by
  cases h with
  | stays => exact hstate
  | warns => decide
  | expires => decide

theorem EndpointHeartbeatTable.Wellformed.scan (h : table.Wellformed) (nowMs : UInt32) :
    (rtosEndpointHeartbeatScanTimeouts table nowMs).2.Wellformed where
  distinct := by
    intro i j hi hj hij
    simp only [rtosEndpointHeartbeatScanTimeouts, EndpointHeartbeatEntry.age_inUse,
      EndpointHeartbeatEntry.age_sourceCid] at hi hj hij
    exact h.distinct i j hi hj hij
  valid := by
    intro i hi
    simp only [rtosEndpointHeartbeatScanTimeouts, EndpointHeartbeatEntry.age_inUse,
      EndpointHeartbeatEntry.age_sourceCid] at hi ⊢
    exact h.valid i hi
  state_ne := by
    intro i hi
    simp only [rtosEndpointHeartbeatScanTimeouts, EndpointHeartbeatEntry.age_inUse] at hi
    exact EndpointHeartbeatEntry.age_state.ne_empty (h.state_ne i hi)
  free := by
    intro i hi
    simp only [rtosEndpointHeartbeatScanTimeouts, EndpointHeartbeatEntry.age_inUse] at hi
    exact (EndpointHeartbeatEntry.age_state_of_free hi).trans (h.free i hi)

/-! ## Any call -/

/-- A call on the table. -/
inductive HeartbeatOp
  | setGateway (gatewayCid : Cid)
  | clearGateway
  | consume (sourceCid destinationCid : Cid) (sourceInterface : PutShmInterface)
      (nowMs frameLocalTime : UInt32)
  | scanTimeouts (nowMs : UInt32)
  | clearEntries
  deriving DecidableEq

/-- The table after a call. -/
def HeartbeatOp.apply : HeartbeatOp → EndpointHeartbeatTable → EndpointHeartbeatTable
  | setGateway gatewayCid, table => rtosEndpointHeartbeatSetGateway table gatewayCid
  | clearGateway, table => rtosEndpointHeartbeatClearGateway table
  | consume sourceCid destinationCid sourceInterface nowMs frameLocalTime, table =>
    (rtosEndpointHeartbeatConsume table sourceCid destinationCid sourceInterface nowMs
      frameLocalTime).2
  | scanTimeouts nowMs, table => (rtosEndpointHeartbeatScanTimeouts table nowMs).2
  | clearEntries, table => rtosEndpointHeartbeatClearEntries table

theorem EndpointHeartbeatTable.Wellformed.apply (h : table.Wellformed) (op : HeartbeatOp) :
    (op.apply table).Wellformed := by
  cases op with
  | setGateway gatewayCid => exact ⟨h.distinct, h.valid, h.state_ne, h.free⟩
  | clearGateway => exact ⟨h.distinct, h.valid, h.state_ne, h.free⟩
  | scanTimeouts nowMs => exact h.scan nowMs
  | clearEntries =>
    exact ⟨wellformed_init.distinct, wellformed_init.valid, wellformed_init.state_ne,
      wellformed_init.free⟩
  | consume sourceCid destinationCid sourceInterface nowMs frameLocalTime =>
    rcases rtosEndpointHeartbeatConsume_cases table sourceCid destinationCid sourceInterface nowMs
      frameLocalTime with ⟨-, error, -, hcall⟩ | ⟨hadmits, i, htakes, hcall⟩ |
        ⟨-, -, statistics, -, -, hcall⟩
    · simp only [HeartbeatOp.apply, hcall]
      exact ⟨h.distinct, h.valid, h.state_ne, h.free⟩
    · simp only [HeartbeatOp.apply, hcall]
      exact h.record hadmits.2.1 htakes
    · simp only [HeartbeatOp.apply, hcall]
      exact ⟨h.distinct, h.valid, h.state_ne, h.free⟩

/-- **How a call moves an entry in use.** A scan ages it, a heartbeat of
its own CID that is accepted makes it ONLINE, and nothing else moves it. -/
inductive MovesByRule (table : EndpointHeartbeatTable) (entry : EndpointHeartbeatEntry) :
    HeartbeatOp → EndpointHeartbeatState → Prop
  | stays (op : HeartbeatOp) : MovesByRule table entry op entry.state
  | ages {nowMs : UInt32} {state : EndpointHeartbeatState} : entry.Ages nowMs state →
      MovesByRule table entry (.scanTimeouts nowMs) state
  | revives {destinationCid : Cid} {sourceInterface : PutShmInterface}
      {nowMs frameLocalTime : UInt32} :
      (rtosEndpointHeartbeatConsume table entry.sourceCid destinationCid sourceInterface nowMs
        frameLocalTime).1 = .ok →
      MovesByRule table entry
        (.consume entry.sourceCid destinationCid sourceInterface nowMs frameLocalTime) .online

/-- What a call may do to the entries of a table. -/
structure HeartbeatOp.ByRule (op : HeartbeatOp) (table : EndpointHeartbeatTable) : Prop where
  /-- An entry in use stays, under its CID, until the entries are cleared. -/
  keeps : op ≠ .clearEntries → ∀ i, (table.entries i).inUse = true →
    ((op.apply table).entries i).inUse = true ∧
    ((op.apply table).entries i).sourceCid = (table.entries i).sourceCid ∧
    MovesByRule table (table.entries i) op ((op.apply table).entries i).state
  clears : op = .clearEntries → ∀ i, ((op.apply table).entries i).inUse = false
  /-- An entry is taken into use by an accepted heartbeat. -/
  enters : ∀ i, (table.entries i).inUse = false → ((op.apply table).entries i).inUse = true →
    ∃ destinationCid sourceInterface nowMs frameLocalTime,
      op = .consume ((op.apply table).entries i).sourceCid destinationCid sourceInterface nowMs
        frameLocalTime ∧
      (rtosEndpointHeartbeatConsume table ((op.apply table).entries i).sourceCid destinationCid
        sourceInterface nowMs frameLocalTime).1 = .ok

/-- A call that leaves the entries alone. -/
theorem HeartbeatOp.byRule_of_entries {op : HeartbeatOp} (hop : op ≠ .clearEntries)
    (h : (op.apply table).entries = table.entries) : op.ByRule table := by
  refine ⟨fun _ i hi => ?_, fun hclear => absurd hclear hop, fun i hfree hlive => ?_⟩
  · rw [h]
    exact ⟨hi, rfl, .stays op⟩
  · rw [h, hfree] at hlive
    cases hlive

theorem HeartbeatOp.byRule_scanTimeouts (table : EndpointHeartbeatTable) (nowMs : UInt32) :
    (scanTimeouts nowMs).ByRule table := by
  refine ⟨fun _ i hi => ⟨?_, ?_, ?_⟩, fun hclear => ?_, fun i hfree hlive => ?_⟩
  · exact EndpointHeartbeatEntry.age_inUse.trans hi
  · exact EndpointHeartbeatEntry.age_sourceCid
  · exact .ages EndpointHeartbeatEntry.age_state
  · cases hclear
  · have hsame : ((apply (scanTimeouts nowMs) table).entries i).inUse = _ :=
      EndpointHeartbeatEntry.age_inUse
    rw [hsame, hfree] at hlive
    cases hlive

theorem HeartbeatOp.byRule_consume (table : EndpointHeartbeatTable)
    (sourceCid destinationCid : Cid) (sourceInterface : PutShmInterface)
    (nowMs frameLocalTime : UInt32) :
    (consume sourceCid destinationCid sourceInterface nowMs frameLocalTime).ByRule table := by
  rcases rtosEndpointHeartbeatConsume_cases table sourceCid destinationCid sourceInterface nowMs
    frameLocalTime with ⟨-, error, -, hcall⟩ | ⟨-, i, htakes, hcall⟩ |
      ⟨-, -, statistics, -, -, hcall⟩
  · refine byRule_of_entries (by simp) ?_
    simp only [apply, hcall]
    rfl
  · have hheard := @EndpointHeartbeatTable.record_heard table i sourceCid sourceInterface nowMs
      frameLocalTime
    refine ⟨fun _ j hj => ?_, fun hclear => ?_, fun j hfree hlive => ?_⟩
    · simp only [apply, hcall]
      by_cases hji : j = i
      · -- an entry in use that the heartbeat goes to is under its CID
        subst hji
        rcases htakes with ⟨-, hcid⟩ | ⟨hfree, -⟩
        · subst hcid
          rw [hheard.state]
          exact ⟨hheard.inUse, hheard.sourceCid, .revives (by rw [hcall])⟩
        · rw [hfree] at hj
          cases hj
      · rw [EndpointHeartbeatTable.record_of_ne hji]
        exact ⟨hj, rfl, .stays _⟩
    · cases hclear
    · simp only [apply, hcall] at hlive ⊢
      by_cases hji : j = i
      · subst hji
        rw [hheard.sourceCid]
        exact ⟨destinationCid, sourceInterface, nowMs, frameLocalTime, rfl, by rw [hcall]⟩
      · rw [EndpointHeartbeatTable.record_of_ne hji, hfree] at hlive
        cases hlive
  · refine byRule_of_entries (by simp) ?_
    simp only [apply, hcall]

theorem HeartbeatOp.byRule (op : HeartbeatOp) (table : EndpointHeartbeatTable) :
    op.ByRule table := by
  cases op with
  | setGateway gatewayCid => exact byRule_of_entries (by simp) rfl
  | clearGateway => exact byRule_of_entries (by simp) rfl
  | consume sourceCid destinationCid sourceInterface nowMs frameLocalTime =>
    exact byRule_consume table sourceCid destinationCid sourceInterface nowMs frameLocalTime
  | scanTimeouts nowMs => exact byRule_scanTimeouts table nowMs
  | clearEntries =>
    refine ⟨fun h => absurd rfl h, fun _ _ => rfl, fun i _ hlive => ?_⟩
    exact absurd hlive Bool.false_ne_true

/-! ## Counting -/

/-- An entry in use that goes from ONLINE to WARN or OFFLINE, or from WARN
to OFFLINE. -/
def EndpointHeartbeatEntry.timesOut (entry entry' : EndpointHeartbeatEntry) : Bool :=
  entry.inUse && entry'.inUse &&
    (entry.state = .online && (entry'.state = .warn || entry'.state = .offline) ||
      entry.state = .warn && entry'.state = .offline)

/-- An entry in use that goes from WARN or OFFLINE to ONLINE. -/
def EndpointHeartbeatEntry.recovers (entry entry' : EndpointHeartbeatEntry) : Bool :=
  entry.inUse && entry'.inUse && (entry.state = .warn || entry.state = .offline) &&
    entry'.state = .online

/-- How many entries change in a given way. -/
def countChanges (change : EndpointHeartbeatEntry → EndpointHeartbeatEntry → Bool)
    (table table' : EndpointHeartbeatTable) : ℕ :=
  (List.finRange 64).countP fun i => change (table.entries i) (table'.entries i)

/-- A run, with the number of changes of each kind that its calls made. -/
structure HeartbeatRun where
  table : EndpointHeartbeatTable := {}
  timeouts : ℕ := 0
  recoveries : ℕ := 0

/-- One more call. -/
def HeartbeatRun.next (run : HeartbeatRun) (op : HeartbeatOp) : HeartbeatRun where
  table := op.apply run.table
  timeouts := run.timeouts +
    countChanges EndpointHeartbeatEntry.timesOut run.table (op.apply run.table)
  recoveries := run.recoveries +
    countChanges EndpointHeartbeatEntry.recovers run.table (op.apply run.table)

/-- A run of calls on a table that has just been initialised. -/
def heartbeatRun (ops : List HeartbeatOp) : HeartbeatRun := ops.foldl HeartbeatRun.next {}

theorem heartbeatRun_concat (ops : List HeartbeatOp) (op : HeartbeatOp) :
    heartbeatRun (ops ++ [op]) = (heartbeatRun ops).next op := by
  rw [heartbeatRun, List.foldl_append]
  rfl

section Counts

variable {change : EndpointHeartbeatEntry → EndpointHeartbeatEntry → Bool}
  {table' : EndpointHeartbeatTable}

theorem countChanges_eq_zero (h : ∀ i, change (table.entries i) (table'.entries i) = false) :
    countChanges change table table' = 0 := by
  refine List.countP_eq_zero.mpr fun i _ hi => ?_
  rw [h i] at hi
  cases hi

/-- A call that writes one entry makes at most one change. -/
theorem countChanges_single (i : Fin 64)
    (h : ∀ j, j ≠ i → change (table.entries j) (table'.entries j) = false) :
    countChanges change table table' =
      if change (table.entries i) (table'.entries i) = true then 1 else 0 := by
  split
  · next hi =>
    have hself : ∀ j ∈ List.finRange 64,
        change (table.entries j) (table'.entries j) = true ↔ (j == i) = true := by
      intro j _
      rw [beq_iff_eq]
      constructor
      · intro hj
        by_contra hji
        rw [h j hji] at hj
        cases hj
      · rintro rfl
        exact hi
    rw [countChanges, List.countP_congr hself]
    exact List.count_eq_one_of_mem (List.nodup_finRange 64) (List.mem_finRange i)
  · next hi =>
    refine countChanges_eq_zero fun j => ?_
    by_cases hji : j = i
    · rw [hji]
      simpa using hi
    · exact h j hji

end Counts

theorem EndpointHeartbeatEntry.timesOut_of_state (h : entry'.state = entry.state) :
    entry.timesOut entry' = false := by
  unfold timesOut
  rw [h]
  cases entry.state <;> simp

theorem EndpointHeartbeatEntry.recovers_of_state (h : entry'.state = entry.state) :
    entry.recovers entry' = false := by
  unfold recovers
  rw [h]
  cases entry.state <;> simp

/-- A scan reports the entries that time out. -/
theorem EndpointHeartbeatEntry.timesOut_age (entry : EndpointHeartbeatEntry) (nowMs : UInt32) :
    entry.timesOut (entry.age nowMs).1 = (entry.age nowMs).2 := by
  obtain ⟨state, timeoutCount, hages, h, hlive, hchanged⟩ := entry.age_eq nowMs
  by_cases hstate : state = entry.state
  · have hkept : (entry.age nowMs).2 = false :=
      Bool.eq_false_iff.mpr fun hreported => hchanged.mp hreported hstate
    rw [hkept, timesOut_of_state (by rw [h]; exact hstate)]
  · rw [hchanged.mpr hstate]
    have hinUse := hlive.resolve_right hstate
    unfold timesOut
    rw [h]
    cases hages with
    | stays => exact absurd rfl hstate
    | warns honline => simp [hinUse, honline]
    | expires hbefore => rcases hbefore with hbefore | hbefore <;> simp [hinUse, hbefore]

/-- No entry recovers in a scan. -/
theorem EndpointHeartbeatEntry.recovers_age (entry : EndpointHeartbeatEntry) (nowMs : UInt32) :
    entry.recovers (entry.age nowMs).1 = false := by
  have hages := @age_state entry nowMs
  unfold recovers
  generalize (entry.age nowMs).1 = entry' at hages ⊢
  generalize hstate : entry'.state = state at hages ⊢
  cases hages with
  | stays => cases entry.state <;> simp
  | warns => simp
  | expires => simp

/-- The entry a heartbeat goes to recovers exactly when the call counts it. -/
theorem EndpointHeartbeatTable.Wellformed.recovers_record (h : table.Wellformed) :
    (table.entries i).recovers
        ((table.record i sourceCid sourceInterface nowMs frameLocalTime).entries i) =
      (decide ((table.entries i).state = .warn) || decide ((table.entries i).state = .offline)) := by
  have hheard := @record_heard table i sourceCid sourceInterface nowMs frameLocalTime
  unfold EndpointHeartbeatEntry.recovers
  rw [hheard.inUse, hheard.state]
  cases hlive : (table.entries i).inUse with
  | true => simp
  | false => simp [h.free i hlive]

/-- **One call counts the changes it makes.** -/
theorem HeartbeatOp.apply_counts (h : table.Wellformed) (op : HeartbeatOp) :
    (op.apply table).statistics.timeoutCount = table.statistics.timeoutCount +
      UInt32.ofNat (countChanges EndpointHeartbeatEntry.timesOut table (op.apply table)) ∧
    (op.apply table).statistics.recoverCount = table.statistics.recoverCount +
      UInt32.ofNat (countChanges EndpointHeartbeatEntry.recovers table (op.apply table)) := by
  -- an operation that leaves the entries counts nothing
  have hidle : ∀ table' : EndpointHeartbeatTable, table'.entries = table.entries →
      table'.statistics.timeoutCount = table.statistics.timeoutCount →
      table'.statistics.recoverCount = table.statistics.recoverCount →
      table'.statistics.timeoutCount = table.statistics.timeoutCount +
        UInt32.ofNat (countChanges EndpointHeartbeatEntry.timesOut table table') ∧
      table'.statistics.recoverCount = table.statistics.recoverCount +
        UInt32.ofNat (countChanges EndpointHeartbeatEntry.recovers table table') := by
    intro table' hentries htimeout hrecover
    rw [countChanges_eq_zero, countChanges_eq_zero, htimeout, hrecover]
    · exact ⟨(UInt32.add_zero _).symm, (UInt32.add_zero _).symm⟩
    · exact fun i => EndpointHeartbeatEntry.recovers_of_state (by rw [hentries])
    · exact fun i => EndpointHeartbeatEntry.timesOut_of_state (by rw [hentries])
  cases op with
  | setGateway gatewayCid => exact hidle _ rfl rfl rfl
  | clearGateway => exact hidle _ rfl rfl rfl
  | consume sourceCid destinationCid sourceInterface nowMs frameLocalTime =>
    rcases rtosEndpointHeartbeatConsume_cases table sourceCid destinationCid sourceInterface nowMs
      frameLocalTime with ⟨-, error, -, hcall⟩ | ⟨-, i, -, hcall⟩ |
        ⟨-, -, statistics, htimeout, hrecover, hcall⟩
    · simp only [apply, hcall]
      exact hidle _ rfl rfl rfl
    · simp only [apply, hcall]
      have hheard := @EndpointHeartbeatTable.record_heard table i sourceCid sourceInterface nowMs
        frameLocalTime
      constructor
      · rw [countChanges_eq_zero]
        · exact (UInt32.add_zero _).symm
        · intro j
          by_cases hji : j = i
          · subst hji
            unfold EndpointHeartbeatEntry.timesOut
            rw [hheard.state]
            simp
          · rw [EndpointHeartbeatTable.record_of_ne hji]
            exact EndpointHeartbeatEntry.timesOut_of_state rfl
      · -- only the entry that was heard can recover, as `record` counts
        rw [countChanges_single i, h.recovers_record]
        · show (if _ then _ else _) = _
          split
          · rfl
          · exact (UInt32.add_zero _).symm
        · intro j hji
          rw [EndpointHeartbeatTable.record_of_ne hji]
          exact EndpointHeartbeatEntry.recovers_of_state rfl
    · simp only [apply, hcall]
      exact hidle { table with statistics := statistics } rfl htimeout hrecover
  | scanTimeouts nowMs =>
    constructor
    · -- the scan counts an entry where its age changes its state
      have hsame : countChanges EndpointHeartbeatEntry.timesOut table
          (apply (scanTimeouts nowMs) table) =
          (List.finRange 64).countP fun i => ((table.entries i).age nowMs).2 :=
        List.countP_congr fun i _ => by
          rw [← EndpointHeartbeatEntry.timesOut_age (table.entries i) nowMs]
          rfl
      rw [hsame]
      rfl
    · rw [countChanges_eq_zero fun i => EndpointHeartbeatEntry.recovers_age _ nowMs]
      exact (UInt32.add_zero _).symm
  | clearEntries =>
    rw [countChanges_eq_zero, countChanges_eq_zero]
    · exact ⟨(UInt32.add_zero _).symm, (UInt32.add_zero _).symm⟩
    · intro i
      simp [EndpointHeartbeatEntry.recovers, apply, rtosEndpointHeartbeatClearEntries]
    · intro i
      simp [EndpointHeartbeatEntry.timesOut, apply, rtosEndpointHeartbeatClearEntries]

/-- What holds of a run. -/
structure HeartbeatRun.Counted (run : HeartbeatRun) : Prop where
  wellformed : run.table.Wellformed
  timeouts : run.table.statistics.timeoutCount = UInt32.ofNat run.timeouts
  recoveries : run.table.statistics.recoverCount = UInt32.ofNat run.recoveries

theorem HeartbeatRun.Counted.next {run : HeartbeatRun} (h : run.Counted) (op : HeartbeatOp) :
    (run.next op).Counted := by
  obtain ⟨htimeouts, hrecoveries⟩ := op.apply_counts h.wellformed
  refine ⟨h.wellformed.apply op, ?_, ?_⟩
  · refine htimeouts.trans ?_
    rw [h.timeouts, ← UInt32.ofNat_add]
    rfl
  · refine hrecoveries.trans ?_
    rw [h.recoveries, ← UInt32.ofNat_add]
    rfl

theorem heartbeatRun_counted (ops : List HeartbeatOp) : (heartbeatRun ops).Counted := by
  induction ops using List.reverseRecOn with
  | nil => exact ⟨EndpointHeartbeatTable.wellformed_init, rfl, rfl⟩
  | append_singleton ops op ih =>
    rw [heartbeatRun_concat]
    exact ih.next op

/-- **The heartbeat table over any run.** After any calls the entries in use
are under distinct valid CIDs and in a state, the counters are the numbers
of changes the run has made (as 32-bit values), and whatever the next call
is, it keeps to the rules: a heartbeat that finds the table full is rejected
only if its CID is new, one of a known CID updates its entry, an entry in
use stays in use until the entries are cleared, and it is moved only by a
scan at an age that has reached a limit or by an accepted heartbeat of its
own CID. -/
theorem heartbeatRun_keeps (ops : List HeartbeatOp) :
    (heartbeatRun ops).table.Wellformed ∧
    (heartbeatRun ops).table.statistics.timeoutCount = UInt32.ofNat (heartbeatRun ops).timeouts ∧
    (heartbeatRun ops).table.statistics.recoverCount =
      UInt32.ofNat (heartbeatRun ops).recoveries ∧
    (∀ op : HeartbeatOp, op.ByRule (heartbeatRun ops).table) ∧
    ∀ (sourceCid destinationCid : Cid) (sourceInterface : PutShmInterface)
      (nowMs frameLocalTime : UInt32),
      ConsumesByRule (heartbeatRun ops).table sourceCid destinationCid sourceInterface nowMs
        frameLocalTime (rtosEndpointHeartbeatConsume (heartbeatRun ops).table sourceCid
          destinationCid sourceInterface nowMs frameLocalTime) := by
  have h := heartbeatRun_counted ops
  exact ⟨h.wellformed, h.timeouts, h.recoveries, fun op => op.byRule _,
    rtosEndpointHeartbeatConsume_byRule _⟩

/-! ## Counters that wrap -/

/-- The CID of an endpoint. -/
def beatingCid : Cid := { b0 := 0x20 }

/-- A heartbeat of one endpoint at time zero, and a scan five seconds
later. -/
def lateBeat : List HeartbeatOp :=
  [.consume beatingCid {} 0 0 0, .scanTimeouts 5000]

/-- The endpoint beats, and is late, a number of times. -/
def lateBeats (rounds : ℕ) : List HeartbeatOp :=
  .setGateway {} :: (List.replicate rounds lateBeat).flatten

/-- A heartbeat of the endpoint is admitted and has an entry to go to. -/
def EndpointHeartbeatTable.Awaits (table : EndpointHeartbeatTable) : Prop :=
  table.Admits beatingCid {} ∧ ∃ i, table.Takes beatingCid i

/-- A late beat is one more timeout at least. -/
theorem EndpointHeartbeatTable.Awaits.late {run : HeartbeatRun} (h : run.table.Awaits) :
    (lateBeat.foldl HeartbeatRun.next run).table.Awaits ∧
    run.timeouts + 1 ≤ (lateBeat.foldl HeartbeatRun.next run).timeouts := by
  obtain ⟨hadmits, i, htakes⟩ := h
  rcases rtosEndpointHeartbeatConsume_cases run.table beatingCid {} 0 0 0 with
    ⟨hrefused, -⟩ | ⟨-, k, -, hcall⟩ | ⟨-, hfull, -⟩
  · exact absurd hadmits hrefused
  · have hheard := @record_heard run.table k beatingCid 0 0 0
    have hbeat : (HeartbeatOp.consume beatingCid {} 0 0 0).apply run.table =
        run.table.record k beatingCid 0 0 0 := by
      simp only [HeartbeatOp.apply, hcall]
    simp only [lateBeat, List.foldl_cons, List.foldl_nil, HeartbeatRun.next, hbeat]
    generalize hscanned : run.table.record k beatingCid 0 0 0 = beaten at hheard
    constructor
    · refine ⟨by rw [← hscanned]; exact hadmits, k, .inl ⟨?_, ?_⟩⟩
      · exact EndpointHeartbeatEntry.age_inUse.trans hheard.inUse
      · exact EndpointHeartbeatEntry.age_sourceCid.trans hheard.sourceCid
    · have hage : ((beaten.entries k).age 5000).2 = true := by
        simp [EndpointHeartbeatEntry.age, hheard.inUse, hheard.state, hheard.lastRtosTimeMs]
      have hpos : 0 < countChanges EndpointHeartbeatEntry.timesOut beaten
          ((HeartbeatOp.scanTimeouts 5000).apply beaten) := by
        refine List.countP_pos_iff.mpr ⟨k, List.mem_finRange k, ?_⟩
        exact (EndpointHeartbeatEntry.timesOut_age _ _).trans hage
      omega
  · rcases htakes with ⟨hlive, hcid⟩ | ⟨hfree, -⟩
    · exact absurd hcid (hfull i).2
    · rw [(hfull i).1] at hfree
      cases hfree

theorem EndpointHeartbeatTable.Awaits.rounds (rounds : ℕ) : ∀ {run : HeartbeatRun},
    run.table.Awaits → run.timeouts + rounds ≤
      ((List.replicate rounds lateBeat).flatten.foldl HeartbeatRun.next run).timeouts := by
  induction rounds with
  | zero => exact fun _ => le_rfl
  | succ rounds ih =>
    intro run h
    obtain ⟨hawaits, hmore⟩ := h.late
    rw [List.replicate_succ, List.flatten_cons, List.foldl_append]
    have hrest := ih hawaits
    omega

theorem le_timeouts_lateBeats (rounds : ℕ) : rounds ≤ (heartbeatRun (lateBeats rounds)).timeouts := by
  have hstart : ((HeartbeatRun.next {} (.setGateway {})).table).Awaits :=
    ⟨⟨rfl, rfl, rfl⟩, 0, .inr ⟨rfl, fun _ hlive => absurd hlive Bool.false_ne_true⟩⟩
  have hmore := hstart.rounds rounds
  have hzero : (HeartbeatRun.next {} (.setGateway {})).timeouts = 0 := by decide +kernel
  rw [hzero, Nat.zero_add] at hmore
  exact hmore

/-- A run of 2^32 late beats wraps the counter, and clearing the entries
takes an entry out of ONLINE. -/
theorem heartbeatRun_wraps :
    (heartbeatRun (lateBeats (2 ^ 32))).table.statistics.timeoutCount.toNat ≠
      (heartbeatRun (lateBeats (2 ^ 32))).timeouts ∧
    ((heartbeatRun [.setGateway {}, .consume beatingCid {} 0 0 0]).table.entries 0).state =
      .online ∧
    ((heartbeatRun [.setGateway {}, .consume beatingCid {} 0 0 0, .clearEntries]).table.entries
      0).state = .empty := by
  refine ⟨fun hsame => ?_, by decide +kernel, by decide +kernel⟩
  have hmore := le_timeouts_lateBeats (2 ^ 32)
  rw [← hsame] at hmore
  exact absurd (UInt32.toNat_lt _) (not_lt.mpr hmore)

end Rtos

end PutGateway
