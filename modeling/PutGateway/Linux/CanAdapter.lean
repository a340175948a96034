import Mathlib.Data.Fin.VecNotation
import PutGateway.Common.AnymsgFrame
import PutGateway.Common.Crc16
import PutGateway.Lib.SlotTable
/-!
# Messages over CAN

The part of `linux_app/adapters/can_adapter.c` that cuts a message into
CAN frames and puts it together again. A message is announced by an SOF
frame, which opens a session under the sender's CAN id and a session id,
and follows in DATA frames of five bytes each, in any order. An access
outside an array has no result.
-/

namespace PutGateway

namespace Linux

/-! ## Frames of the bus -/

/-- `struct can_frame`. -/
structure CanFrame where
  canId : UInt32
  canDlc : UInt8
  data : Fin 8 → UInt8
  deriving DecidableEq

/-- `CAN_EFF_FLAG`. -/
def canEffFlag : UInt32 := 0x80000000
def canRtrFlag : UInt32 := 0x40000000
def canSffMask : UInt32 := 0x7FF
def canEffMask : UInt32 := 0x1FFFFFFF

/-- `CAN_ADAPTER_FRAME_KIND_SOF`. -/
def canAdapterFrameKindSof : UInt8 := 0xA0
def canAdapterFrameKindData : UInt8 := 0xD0
def canAdapterClassicDlc : UInt8 := 8

/-- `CAN_ADAPTER_TX_MAX_PACKETS`. -/
def canAdapterTxMaxPackets : ℕ := 1 + (512 + 5 - 1) / 5

/-- `CAN_ADAPTER_DEFAULT_REASSEMBLY_TIMEOUT_MS`. -/
def canAdapterDefaultReassemblyTimeoutMs : UInt32 := 500

/-- `expected_data_frame_count`. -/
def expectedDataFrameCount (totalLen : UInt16) : UInt8 := ((totalLen.toUInt32 + 5 - 1) / 5).toUInt8

/-- `normalize_source_can_id`. -/
def normalizeSourceCanId (canId : UInt32) : UInt32 :=
  if canId &&& canEffFlag ≠ 0 then canId &&& canEffMask ||| canEffFlag else canId &&& canSffMask

/-! ## Cutting a message -/

/-- What `can_fragment_tx` uses of `can_tx_context_t`. -/
structure CanTxContext where
  txCanId : UInt32
  extendedId : Bool
  nextSessionId : UInt8

/-- The CAN id of the frames a sender writes. -/
def CanTxContext.canId (tx : CanTxContext) : UInt32 :=
  (tx.txCanId &&& if tx.extendedId then canEffMask else canSffMask) |||
    if tx.extendedId then canEffFlag else 0

/-- The SOF frame of a message. -/
def sofFrame (canId : UInt32) (sessionId : UInt8) (msg : List UInt8) : CanFrame where
  canId := canId
  canDlc := canAdapterClassicDlc
  data :=
    let msgLen := UInt16.ofNat msg.length
    let crc := unifiedCrc16CcittFalse msg
    ![canAdapterFrameKindSof, sessionId, (writeLe16 msgLen).1, (writeLe16 msgLen).2, (writeLe16 crc).1,
      (writeLe16 crc).2, if msgLen % 5 = 0 then 0 else 1, expectedDataFrameCount msgLen]

/-- The DATA frame of a message with a sequence number. What the last one
does not need is zero. -/
def dataFrame (canId : UInt32) (sessionId : UInt8) (msg : List UInt8) (seq : ℕ) : CanFrame where
  canId := canId
  canDlc := canAdapterClassicDlc
  data i :=
    if i = 0 then canAdapterFrameKindData
    else if i = 1 then sessionId
    else if i = 2 then UInt8.ofNat seq
    else if i.val - 3 < min (msg.length - seq * 5) 5 then msg.getD (seq * 5 + (i.val - 3)) 0 else 0

/-- `can_fragment_tx`. -/
def canFragmentTx (tx : CanTxContext) (msg : List UInt8) : Option (List CanFrame) × CanTxContext :=
  if msg.length < anymsgHeaderSize.toNat ∨ msg.length > 512 then (none, tx)
  else
    let dataFrameCount := expectedDataFrameCount (UInt16.ofNat msg.length)
    if dataFrameCount.toNat + 1 > canAdapterTxMaxPackets then (none, tx)
    else
      (some (sofFrame tx.canId tx.nextSessionId msg ::
          (List.range dataFrameCount.toNat).map (dataFrame tx.canId tx.nextSessionId msg)),
        { tx with nextSessionId := tx.nextSessionId + 1 })

/-! ## Sessions -/

/-- `can_reassembly_session_t`. -/
structure CanReassemblySession where
  inUse : Bool := false
  sourceCanId : UInt32 := 0
  sessionId : UInt8 := 0
  totalLen : UInt16 := 0
  fullCrc16 : UInt16 := 0
  dataFrameCount : UInt8 := 0
  receivedCount : UInt8 := 0
  startedAtMs : UInt64 := 0
  updatedAtMs : UInt64 := 0
  buffer : FrameBlock := fun _ => 0
  receivedBitmap : Fin 16 → UInt8 := fun _ => 0

/-- What a session is found by. -/
abbrev SessionKey := UInt32 × UInt8

def CanReassemblySession.key (s : CanReassemblySession) : SessionKey := (s.sourceCanId, s.sessionId)

/-- `clear_session`. It leaves the bytes. -/
def clearSession (s : CanReassemblySession) : CanReassemblySession := { buffer := s.buffer }

/-- The index of `received_bitmap` a sequence number leads to. -/
def bitmapIndex? (seq : UInt8) : Option (Fin 128) :=
  if h : seq.toNat / 8 < 16 then some ⟨seq.toNat, by omega⟩ else none

/-- The bit of a sequence number in its byte. -/
def bitmapBit (seq : Fin 128) : UInt8 := 1 <<< UInt8.ofNat (seq % 8)

/-- `bitmap_get`. -/
def bitmapGet (bitmap : Fin 16 → UInt8) (seq : Fin 128) : Bool :=
  bitmap ⟨seq / 8, by omega⟩ &&& bitmapBit seq != 0

/-- `bitmap_set`. -/
def bitmapSet (bitmap : Fin 16 → UInt8) (seq : Fin 128) : Fin 16 → UInt8 :=
  Function.update bitmap ⟨seq / 8, by omega⟩ (bitmap ⟨seq / 8, by omega⟩ ||| bitmapBit seq)

/-- What `can_status_t` and the collector are told. -/
inductive CanEvent
  | error (stage : String) (err : UnifiedError)
  | sessionConflict
  | sessionNoBuffer
  | orphanFragment
  | duplicateFragment

/-- `can_reassembly_context_t`. -/
structure CanReassemblyContext where
  reassemblyTimeoutMs : UInt32
  events : List CanEvent := []
  completedBuffer : FrameBlock := fun _ => 0
  completedLen : UInt16 := 0
  sessions : Fin 8 → CanReassemblySession := fun _ => {}

/-- `can_reassembly_context_init`. -/
def canReassemblyContextInit (reassemblyTimeoutMs : UInt32) : CanReassemblyContext where
  reassemblyTimeoutMs :=
    if reassemblyTimeoutMs = 0 then canAdapterDefaultReassemblyTimeoutMs else reassemblyTimeoutMs

namespace CanReassemblyContext

variable (ctx : CanReassemblyContext)

/-- `record_error`. -/
def recordError (stage : String) (err : UnifiedError) : CanReassemblyContext :=
  { ctx with events := ctx.events ++ [.error stage err] }

def recordEvent (e : CanEvent) : CanReassemblyContext := { ctx with events := ctx.events ++ [e] }

/-- Overwrite the session in a slot. -/
def putSession (i : Fin 8) (s : CanReassemblySession) : CanReassemblyContext :=
  { ctx with sessions := Function.update ctx.sessions i s }

/-- `find_session`. -/
def findSession (sourceCanId : UInt32) (sessionId : UInt8) : Option (Fin 8) :=
  SlotTable.find (·.inUse) (·.key) ctx.sessions (sourceCanId, sessionId)

/-- `find_free_session`. -/
def findFreeSession : Option (Fin 8) := SlotTable.findFree (·.inUse) ctx.sessions

/-- The loop of `find_oldest_session`, with the oldest session so far. -/
def findOldestFrom : List (Fin 8) → Option (Fin 8) → Option (Fin 8)
  | [], oldest => oldest
  | i :: rest, oldest =>
    if !(ctx.sessions i).inUse then findOldestFrom rest oldest
    else match oldest with
      | none => findOldestFrom rest (some i)
      | some j =>
        if (ctx.sessions i).startedAtMs < (ctx.sessions j).startedAtMs then findOldestFrom rest (some i)
        else findOldestFrom rest (some j)

/-- `find_oldest_session`. -/
def findOldestSession : Option (Fin 8) := ctx.findOldestFrom (List.finRange 8) none

/-- The timeout in force. -/
def timeoutMs : UInt32 :=
  if ctx.reassemblyTimeoutMs = 0 then canAdapterDefaultReassemblyTimeoutMs else ctx.reassemblyTimeoutMs

end CanReassemblyContext

/-- A session nothing new has arrived for within the timeout. -/
def CanReassemblySession.timedOut (timeoutMs : UInt32) (nowMs : UInt64) (s : CanReassemblySession) :
    Bool :=
  decide (s.updatedAtMs ≤ nowMs) && decide (timeoutMs.toUInt64 < nowMs - s.updatedAtMs)

/-- `can_adapter_reassembly_scan_timeouts`. -/
def canAdapterReassemblyScanTimeouts (ctx : CanReassemblyContext) (nowMs : UInt64) :
    CanReassemblyContext :=
  let timedOut := CanReassemblySession.timedOut ctx.timeoutMs nowMs
  { ctx with
    sessions := SlotTable.sweep (·.inUse) timedOut clearSession ctx.sessions
    events := ctx.events ++ ((List.finRange 8).filter fun i =>
      (ctx.sessions i).inUse && timedOut (ctx.sessions i)).map fun _ =>
        .error "can_reassemble_timeout" .length }

/-! ## Reassembly -/

/-- The session an SOF frame opens. -/
def openedSession (frame : CanFrame) (sourceCanId : UInt32) (nowMs : UInt64) :
    CanReassemblySession where
  inUse := true
  sourceCanId := sourceCanId
  sessionId := frame.data 1
  totalLen := readLe16 (frame.data 2) (frame.data 3)
  fullCrc16 := readLe16 (frame.data 4) (frame.data 5)
  dataFrameCount := frame.data 7
  startedAtMs := nowMs
  updatedAtMs := nowMs

/-- The slot `handle_sof` opens a session in. -/
def sofSlot (ctx : CanReassemblyContext) (sourceCanId : UInt32) (sessionId : UInt8) (nowMs : UInt64) :
    Option (Fin 8) × CanReassemblyContext :=
  match ctx.findSession sourceCanId sessionId with
  | some i =>
    (some i, (ctx.recordEvent .sessionConflict).recordError "can_session_conflict" .invalidArg)
  | none =>
    let ctx := canAdapterReassemblyScanTimeouts ctx nowMs
    match ctx.findFreeSession with
    | some i => (some i, ctx)
    | none =>
      (ctx.findOldestSession,
        (ctx.recordEvent .sessionNoBuffer).recordError "can_session_no_buffer" .ipcQueueFull)

/-- `handle_sof`. -/
def handleSof (ctx : CanReassemblyContext) (frame : CanFrame) (sourceCanId : UInt32) (nowMs : UInt64) :
    UnifiedError × CanReassemblyContext :=
  let totalLen := readLe16 (frame.data 2) (frame.data 3)
  if totalLen < anymsgHeaderSize || totalLen > 512 || frame.data 6 &&& ~~~0x01 ≠ 0 then
    (.length, ctx.recordError "can_fragment_sof" .length)
  else if frame.data 7 = 0 || frame.data 7 ≠ expectedDataFrameCount totalLen then
    (.invalidArg, ctx.recordError "can_fragment_sof" .invalidArg)
  else
    match sofSlot ctx sourceCanId (frame.data 1) nowMs with
    | (none, ctx) => (.ipcQueueFull, ctx)
    | (some i, ctx) => (.ok, ctx.putSession i (openedSession frame sourceCanId nowMs))

/-- The bytes `handle_data` copies: their offset in the buffer and their
number. -/
def copyRange (s : CanReassemblySession) (seq : UInt8) : ℕ × ℕ :=
  (seq.toNat * 5, min (sizeSub s.totalLen.toNat (seq.toNat * 5)) 5)

/-- The session with the bytes of a DATA frame in it. -/
def CanReassemblySession.receive (s : CanReassemblySession) (frame : CanFrame) (seq : Fin 128)
    (nowMs : UInt64) : CanReassemblySession :=
  let range := copyRange s (frame.data 2)
  { s with
    buffer := s.buffer.copyIn range.1 (fun k => frame.data (Fin.ofNat 8 (3 + k))) range.2
    receivedBitmap := bitmapSet s.receivedBitmap seq
    receivedCount := s.receivedCount + 1
    updatedAtMs := nowMs }

/-- `handle_data`, from the copy on: `s` is the session in slot `i`. -/
def receiveData (ctx : CanReassemblyContext) (i : Fin 8) (s : CanReassemblySession) :
    UnifiedError × Option (List UInt8) × CanReassemblyContext :=
  if s.receivedCount < s.dataFrameCount then (.ok, none, ctx.putSession i s)
  else if unifiedCrc16CcittFalse (s.buffer.upTo s.totalLen.toNat) ≠ s.fullCrc16 then
    (.crc, none, (ctx.recordError "can_crc" .crc).putSession i (clearSession s))
  else
    let completed := ctx.completedBuffer.copyIn 0 (fun k => s.buffer (Fin.ofNat 512 k)) s.totalLen.toNat
    (.ok, some (completed.upTo s.totalLen.toNat),
      { ctx with completedBuffer := completed, completedLen := s.totalLen }.putSession i
        (clearSession s))

/-- `handle_data`. -/
def handleData (ctx : CanReassemblyContext) (frame : CanFrame) (sourceCanId : UInt32) (nowMs : UInt64) :
    Option (UnifiedError × Option (List UInt8) × CanReassemblyContext) :=
  match ctx.findSession sourceCanId (frame.data 1) with
  | none =>
    some (.invalidArg, none,
      (ctx.recordEvent .orphanFragment).recordError "can_fragment_orphan" .invalidArg)
  | some i =>
    let s := ctx.sessions i
    if frame.data 2 ≥ s.dataFrameCount then
      some (.invalidArg, none, ctx.recordError "can_fragment_seq" .invalidArg)
    else match bitmapIndex? (frame.data 2) with
      | none => none
      | some seq =>
        if bitmapGet s.receivedBitmap seq then
          some (.ok, none,
            (ctx.recordEvent .duplicateFragment).recordError "can_fragment_duplicate" .invalidArg)
        else if (copyRange s (frame.data 2)).1 + (copyRange s (frame.data 2)).2 ≤ 512 ∧
            s.totalLen.toNat ≤ 512 then
          some (receiveData ctx i (s.receive frame seq nowMs))
        else none

/-- `can_adapter_reassemble_frame`: the result, the message where one is
complete, and the context. -/
def canAdapterReassembleFrame (ctx : CanReassemblyContext) (frame : CanFrame) (nowMs : UInt64) :
    Option (UnifiedError × Option (List UInt8) × CanReassemblyContext) :=
  let ctx := canAdapterReassemblyScanTimeouts ctx nowMs
  if frame.canId &&& canRtrFlag ≠ 0 then
    some (.invalidArg, none, ctx.recordError "can_fragment_rtr" .invalidArg)
  else if frame.canDlc ≠ canAdapterClassicDlc then
    some (.canDlc, none, ctx.recordError "can_fragment_dlc" .canDlc)
  else
    let sourceCanId := normalizeSourceCanId frame.canId
    if frame.data 0 = canAdapterFrameKindSof then
      let r := handleSof ctx frame sourceCanId nowMs
      some (r.1, none, r.2)
    else if frame.data 0 = canAdapterFrameKindData then handleData ctx frame sourceCanId nowMs
    else some (.invalidArg, none, ctx.recordError "can_fragment_kind" .invalidArg)

end Linux

end PutGateway
