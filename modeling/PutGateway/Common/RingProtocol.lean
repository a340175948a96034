import PutGateway.Common.Platform
import PutGateway.Common.SharedMemoryIpc
/-!
# One operation on a ring

The two cores implement the ring protocol separately, in
`linux_shm_ipc.c` and `rtos_shm_ipc.c`, and for descriptor and reclaim
rings separately. The implementations share their skeleton: a producer
reads the consumer line, writes the slot, stores `write_seq` and then
announces the entry; a consumer reads the producer line, checks the head
entry, stores `read_seq` and then clears the pending bit of a ring it
has emptied. The skeletons are stated here once, over the descriptor
type and over the private context of the core that runs them, and the
modules of the two cores apply them to their own checks and counters.

A producer that fails before the `write_seq` store has at most written
the slot after the unread entries (`Ring.Staged`); the store itself is
the point of publication (`Ring.Published`).
-/

namespace PutGateway

/-- What an operation on one ring reads and writes: the ring, the pending
line its bit lies in, the number of platform calls its core has made and
the private context of that core. -/
structure RingIo (D σ : Type) where
  ring : Ring D
  pending : PendingLine
  calls : ℕ
  core : σ

/-- `ring_used`: `write_seq - read_seq`. -/
def Ring.used {D : Type} (r : Ring D) : UInt32 := r.producer.writeSeq - r.consumer.readSeq

/-- The slot of a sequence number: `seq % depth`. -/
def slotIndex (seq depth : UInt32) : Fin 8 := Fin.ofNat 8 (seq % depth).toNat

/-- The entry the consumer takes next: the slot `read_seq` addresses. -/
def Ring.head {D : Type} (r : Ring D) : D :=
  r.descriptors (slotIndex r.consumer.readSeq r.header.depth.toUInt32)

namespace RingIo

variable {D σ : Type}

/-! ## Platform calls -/

/-- A platform call that has an effect where it succeeds. -/
def call (P : Platform) (effect : RingIo D σ → RingIo D σ) (io : RingIo D σ) :
    UnifiedError × RingIo D σ :=
  let made := { io with calls := io.calls + 1 }
  (P.outcome io.calls, if P.outcome io.calls = .ok then effect made else made)

/-- `call_cache_flush` and `call_cache_invalidate`. Linux counts the
failures; `onError` is what the core does about one. -/
def cacheOp (P : Platform) (onError : σ → σ) (io : RingIo D σ) : UnifiedError × RingIo D σ :=
  let made := { io with calls := io.calls + 1 }
  (P.outcome io.calls,
    if P.outcome io.calls = .ok then made else { made with core := onError made.core })

/-- A platform call that updates the pending line where it succeeds. -/
def atomicOp (P : Platform) (f : PendingLine → PendingLine) (io : RingIo D σ) :
    UnifiedError × RingIo D σ :=
  io.call P fun io => { io with pending := f io.pending }

/-- `set_pending_bit`: an atomic OR, then an atomic ADD. -/
def setPendingBit (P : Platform) (bit : UInt32) (io : RingIo D σ) : UnifiedError × RingIo D σ :=
  andThen (io.atomicOp P fun l => { l with bits := l.bits ||| bit }) fun io =>
    io.atomicOp P fun l => { l with setCount := l.setCount + 1 }

/-- `clear_pending_bit`: an atomic AND, then an atomic ADD. -/
def clearPendingBit (P : Platform) (bit : UInt32) (io : RingIo D σ) : UnifiedError × RingIo D σ :=
  andThen (io.atomicOp P fun l => { l with bits := l.bits &&& ~~~bit }) fun io =>
    io.atomicOp P fun l => { l with clearCount := l.clearCount + 1 }

/-- The notify callback. -/
def notify (P : Platform) (io : RingIo D σ) : UnifiedError × RingIo D σ := io.call P id

/-! ## The producer -/

/-- A full ring: count the drop, flush the producer line, report. -/
def dropNewest (P : Platform) (onError onFull : σ → σ) (io : RingIo D σ) :
    UnifiedError × RingIo D σ :=
  let dropped : RingIo D σ :=
    { io with
      ring := { io.ring with
        producer := { io.ring.producer with dropCount := io.ring.producer.dropCount + 1 } }
      core := onFull io.core }
  (.ipcQueueFull, (dropped.cacheOp P onError).2)

/-- Write the slot `write_seq` addresses. -/
def writeSlot (d : D) (io : RingIo D σ) : RingIo D σ :=
  { io with
    ring := { io.ring with
      descriptors := Function.update io.ring.descriptors
        (slotIndex io.ring.producer.writeSeq io.ring.producer.depth) d } }

/-- Store `write_seq`: the entry is published. -/
def storeWriteSeq (onPublish : σ → σ) (io : RingIo D σ) : RingIo D σ :=
  { io with
    ring := { io.ring with
      producer := { io.ring.producer with
        writeSeq := io.ring.producer.writeSeq + 1
        enqueueCount := io.ring.producer.enqueueCount + 1 } }
    core := onPublish io.core }

/-- Count a failed notification on the producer line and flush it. -/
def recordNotifyFail (P : Platform) (onError onNotifyFail : σ → σ) (io : RingIo D σ) :
    RingIo D σ :=
  let counted : RingIo D σ :=
    { io with
      ring := { io.ring with
        producer := { io.ring.producer with
          notifyFailCount := io.ring.producer.notifyFailCount + 1 } }
      core := onNotifyFail io.core }
  (counted.cacheOp P onError).2

/-- Count a notification on the producer line and flush it. -/
def recordNotify (P : Platform) (onError onNotify : σ → σ) (io : RingIo D σ) : RingIo D σ :=
  let counted : RingIo D σ :=
    { io with
      ring := { io.ring with
        producer := { io.ring.producer with notifyCount := io.ring.producer.notifyCount + 1 } }
      core := onNotify io.core }
  (counted.cacheOp P onError).2

/-- The doorbell, rung where the ring was empty. A doorbell that fails is
counted and does not fail the enqueue. -/
def ringDoorbell (P : Platform) (onError onNotifyFail onNotify : σ → σ) (wasEmpty : Bool)
    (io : RingIo D σ) : UnifiedError × RingIo D σ :=
  if wasEmpty then
    let notified := io.notify P
    if notified.1 = .ok then (.ok, notified.2.recordNotify P onError onNotify)
    else (.ok, notified.2.recordNotifyFail P onError onNotifyFail)
  else (.ok, io)

/-- A producer's operation from its first cache call on: read the
consumer line, refuse on a full ring, write and flush the slot, store
`write_seq`, and announce. -/
def enqueue (P : Platform) (onError onFull : σ → σ) (onPublish : UInt32 → σ → σ)
    (announce : Bool → RingIo D σ → UnifiedError × RingIo D σ) (d : D) (io : RingIo D σ) :
    UnifiedError × RingIo D σ :=
  andThen (io.cacheOp P onError) fun io =>
    if io.ring.used ≥ io.ring.producer.depth then io.dropNewest P onError onFull
    else
      let wasEmpty := io.ring.producer.writeSeq == io.ring.consumer.readSeq
      let used := io.ring.used + 1
      andThen ((io.writeSlot d).cacheOp P onError) fun io =>
        announce wasEmpty (io.storeWriteSeq (onPublish used))

/-! ## The consumer -/

/-- Store `read_seq` and, on a ring that has become empty, clear its
pending bit; set it again if an entry has been published meanwhile. -/
def consume (P : Platform) (onError : σ → σ) (pendingBit : RingHeader → Except UnifiedError UInt32)
    (writeSeq : UInt32) (io : RingIo D σ) : UnifiedError × RingIo D σ :=
  let taken : RingIo D σ :=
    { io with
      ring := { io.ring with
        consumer := { io.ring.consumer with readSeq := io.ring.consumer.readSeq + 1 } } }
  andThen (taken.cacheOp P onError) fun io =>
    if io.ring.consumer.readSeq ≠ writeSeq then (.ok, io)
    else andThen (io.cacheOp P onError) fun io =>
      if io.ring.consumer.readSeq ≠ io.ring.producer.writeSeq then (.ok, io)
      else match pendingBit io.ring.header with
        | .error e => (e, io)
        | .ok bit => andThen (io.clearPendingBit P bit) fun io =>
          andThen (io.cacheOp P onError) fun io =>
            if io.ring.consumer.readSeq ≠ io.ring.producer.writeSeq then io.setPendingBit P bit
            else (.ok, io)

/-- Count a bad entry, consume it whatever comes of that, and report. -/
def reject (P : Platform) (onError : σ → σ) (pendingBit : RingHeader → Except UnifiedError UInt32)
    (writeSeq : UInt32) (count : RingConsumer → RingConsumer) (onReject : σ → σ)
    (e : UnifiedError) (io : RingIo D σ) : UnifiedError × Option D × RingIo D σ :=
  let counted : RingIo D σ :=
    { io with
      ring := { io.ring with consumer := count io.ring.consumer }
      core := onReject io.core }
  (e, none, (counted.consume P onError pendingBit writeSeq).2)

/-- What one consumer checks and does, besides the steps all share. -/
structure Consumer (D σ : Type) where
  /-- The bit of the ring in its pending line. -/
  pendingBit : RingHeader → Except UnifiedError UInt32
  /-- The checks an entry must pass once its CRC is right. -/
  check : σ → D → UnifiedError
  /-- The CRC check. -/
  crcOk : D → Bool
  /-- Whether the frame block is invalidated before the entry is taken. -/
  syncFrame : Bool
  /-- What a failed cache operation changes. -/
  onError : σ → σ
  /-- What a CRC error changes. -/
  onCrcError : σ → σ
  /-- What a format error changes. -/
  onFormatError : σ → σ
  /-- What taking an entry changes. -/
  onAccept : σ → D → σ

/-- Take a checked entry: count it, update the core's context, consume. -/
def accept (P : Platform) (C : Consumer D σ) (writeSeq : UInt32) (d : D) (io : RingIo D σ) :
    UnifiedError × Option D × RingIo D σ :=
  let counted : RingIo D σ :=
    { io with
      ring := { io.ring with
        consumer := { io.ring.consumer with dequeueCount := io.ring.consumer.dequeueCount + 1 } }
      core := C.onAccept io.core d }
  let consumed := counted.consume P C.onError C.pendingBit writeSeq
  (consumed.1, some d, consumed.2)

/-- A consumer's operation from its first cache call on. The middle
component is the output parameter, where it is written. -/
def dequeue (P : Platform) (C : Consumer D σ) (io : RingIo D σ) :
    UnifiedError × Option D × RingIo D σ :=
  let synced := io.cacheOp P C.onError
  if synced.1 ≠ .ok then (synced.1, none, synced.2)
  else
    let io := synced.2
    let writeSeq := io.ring.producer.writeSeq
    if writeSeq = io.ring.consumer.readSeq then (.ipcQueueEmpty, none, io)
    else
      let synced := io.cacheOp P C.onError
      if synced.1 ≠ .ok then (synced.1, none, synced.2)
      else
        let io := synced.2
        if !C.crcOk io.ring.head then
          io.reject P C.onError C.pendingBit writeSeq
            (fun c => { c with crcErrorCount := c.crcErrorCount + 1 }) C.onCrcError .crc
        else if C.check io.core io.ring.head ≠ .ok then
          io.reject P C.onError C.pendingBit writeSeq
            (fun c => { c with formatErrorCount := c.formatErrorCount + 1 }) C.onFormatError
            (C.check io.core io.ring.head)
        else if C.syncFrame then
          let synced := io.cacheOp P C.onError
          if synced.1 ≠ .ok then (synced.1, none, synced.2)
          else synced.2.accept P C writeSeq io.ring.head
        else io.accept P C writeSeq io.ring.head

end RingIo

end PutGateway
