import PutGateway.Common.RingQueue
import PutGateway.Lib.FlaggedQueue
/-!
# One operation on a ring, step by step

The skeletons of `RingProtocol` run an operation to its end. Here each
access to the shared memory is a step of its own, so that the steps of
the producer of a ring, of its consumer and of the users of other rings
can interleave. The platform calls succeed. Cache operations are no
steps, since the memory is sequentially consistent.

A producer writes its own line only, and a consumer its own; the pending
line is written by both, with atomic operations. A producer or consumer
between two steps is where it is in the code and the local variables it
still needs.

`enqueue_eq_steps` and `dequeue_eq_steps` tie the two views together: the
steps of an operation, taken one after another, are the skeleton.
-/

namespace PutGateway

variable {D σ : Type}

/-- A ring and the pending line its bit lies in. -/
structure SharedRing (D : Type) where
  ring : Ring D
  pending : PendingLine

namespace SharedRing

/-- `ring->producer.write_seq = write_seq + 1` and the count beside it. -/
def storeWriteSeq (s : SharedRing D) : SharedRing D :=
  { s with
    ring := { s.ring with
      producer := { s.ring.producer with
        writeSeq := s.ring.producer.writeSeq + 1
        enqueueCount := s.ring.producer.enqueueCount + 1 } } }

/-- The drop of an entry on a full ring. -/
def countDrop (s : SharedRing D) : SharedRing D :=
  { s with
    ring := { s.ring with
      producer := { s.ring.producer with dropCount := s.ring.producer.dropCount + 1 } } }

/-- The count of a notification. -/
def countNotify (s : SharedRing D) : SharedRing D :=
  { s with
    ring := { s.ring with
      producer := { s.ring.producer with notifyCount := s.ring.producer.notifyCount + 1 } } }

/-- The atomic OR of `set_pending_bit`. -/
def setBit (bit : UInt32) (s : SharedRing D) : SharedRing D :=
  { s with pending := { s.pending with bits := s.pending.bits ||| bit } }

/-- The atomic ADD of `set_pending_bit`. -/
def countSet (s : SharedRing D) : SharedRing D :=
  { s with pending := { s.pending with setCount := s.pending.setCount + 1 } }

/-- The atomic AND of `clear_pending_bit`. -/
def clearBit (bit : UInt32) (s : SharedRing D) : SharedRing D :=
  { s with pending := { s.pending with bits := s.pending.bits &&& ~~~bit } }

/-- The atomic ADD of `clear_pending_bit`. -/
def countClear (s : SharedRing D) : SharedRing D :=
  { s with pending := { s.pending with clearCount := s.pending.clearCount + 1 } }

end SharedRing

/-! ## The producer -/

/-- What the producer of a ring does next. -/
inductive ProducerPc (D : Type)
  | idle
  /-- Read `read_seq` and compare. -/
  | reading (d : D)
  /-- Write the slot. -/
  | writing (d : D) (wasEmpty : Bool)
  /-- Store `write_seq`. -/
  | storing (wasEmpty : Bool)
  /-- Set the pending bit. -/
  | setting (wasEmpty : Bool)
  /-- Count that. -/
  | counting (wasEmpty : Bool)
  /-- Call `notify`. -/
  | notifying
  /-- Count that. -/
  | recording
  deriving DecidableEq

/-- The next step of a producer. -/
def ProducerPc.step (bit : UInt32) : ProducerPc D → SharedRing D → ProducerPc D × SharedRing D
  | .idle, s => (.idle, s)
  | .reading d, s =>
    if s.ring.used ≥ s.ring.producer.depth then (.idle, s.countDrop)
    else (.writing d (s.ring.producer.writeSeq == s.ring.consumer.readSeq), s)
  | .writing d wasEmpty, s => (.storing wasEmpty, { s with ring := s.ring.stage d })
  | .storing wasEmpty, s => (.setting wasEmpty, s.storeWriteSeq)
  | .setting wasEmpty, s => (.counting wasEmpty, s.setBit bit)
  | .counting wasEmpty, s => (if wasEmpty then .notifying else .idle, s.countSet)
  | .notifying, s => (.recording, s)
  | .recording, s => (.idle, s.countNotify)

namespace ProducerPc

variable {bit : UInt32} {d : D} {s : SharedRing D}

theorem step_reading_full (h : s.ring.used ≥ s.ring.producer.depth) :
    (reading d).step bit s = (.idle, s.countDrop) := if_pos h

theorem step_reading_room (h : ¬ s.ring.used ≥ s.ring.producer.depth) :
    (reading d).step bit s =
      (.writing d (s.ring.producer.writeSeq == s.ring.consumer.readSeq), s) := if_neg h

end ProducerPc

/-! ## The consumer -/

/-- What the checks of an entry come to. -/
inductive Verdict
  | crcError
  | formatError
  | accepted
  deriving DecidableEq

/-- The counter of the consumer line that goes with it. -/
def Verdict.count : Verdict → RingConsumer → RingConsumer
  | .crcError, c => { c with crcErrorCount := c.crcErrorCount + 1 }
  | .formatError, c => { c with formatErrorCount := c.formatErrorCount + 1 }
  | .accepted, c => { c with dequeueCount := c.dequeueCount + 1 }

/-- What the consumer of a ring does next. `writeSeq` is the `write_seq`
it has read first. -/
inductive ConsumerPc
  | idle
  /-- Read `write_seq` and compare. -/
  | reading
  /-- Read and check the entry. -/
  | checking (writeSeq : UInt32)
  /-- Store `read_seq`. -/
  | taking (writeSeq : UInt32)
  /-- Read `write_seq` again. -/
  | rereading
  /-- Clear the pending bit. -/
  | clearing
  /-- Count that. -/
  | countingClear
  /-- Read `write_seq` once more. -/
  | confirming
  /-- Set the pending bit again. -/
  | restoring
  /-- Count that. -/
  | countingSet
  deriving DecidableEq

/-- The next step of a consumer. The verdict is on the entry, where it is
checked. -/
def ConsumerPc.step (bit : UInt32) (verdict : Verdict) :
    ConsumerPc → SharedRing D → ConsumerPc × SharedRing D
  | .idle, s => (.idle, s)
  | .reading, s =>
    if s.ring.producer.writeSeq = s.ring.consumer.readSeq then (.idle, s)
    else (.checking s.ring.producer.writeSeq, s)
  | .checking writeSeq, s =>
    (.taking writeSeq, { s with ring := { s.ring with consumer := verdict.count s.ring.consumer } })
  | .taking writeSeq, s =>
    (if s.ring.take.consumer.readSeq ≠ writeSeq then .idle else .rereading,
      { s with ring := s.ring.take })
  | .rereading, s =>
    (if s.ring.consumer.readSeq ≠ s.ring.producer.writeSeq then .idle else .clearing, s)
  | .clearing, s => (.countingClear, s.clearBit bit)
  | .countingClear, s => (.confirming, s.countClear)
  | .confirming, s =>
    (if s.ring.consumer.readSeq ≠ s.ring.producer.writeSeq then .restoring else .idle, s)
  | .restoring, s => (.countingSet, s.setBit bit)
  | .countingSet, s => (.idle, s.countSet)

namespace ConsumerPc

variable {bit writeSeq : UInt32} {verdict : Verdict} {s : SharedRing D}

theorem step_reading_empty (h : s.ring.producer.writeSeq = s.ring.consumer.readSeq) :
    reading.step bit verdict s = (.idle, s) := if_pos h

theorem step_reading_entry (h : s.ring.producer.writeSeq ≠ s.ring.consumer.readSeq) :
    reading.step bit verdict s = (.checking s.ring.producer.writeSeq, s) := if_neg h

theorem step_taking_left (h : s.ring.consumer.readSeq + 1 ≠ writeSeq) :
    (taking writeSeq).step bit verdict s = (.idle, { s with ring := s.ring.take }) :=
  congrArg (·, _) (if_pos h)

theorem step_taking_last (h : s.ring.consumer.readSeq + 1 = writeSeq) :
    (taking writeSeq).step bit verdict s = (.rereading, { s with ring := s.ring.take }) :=
  congrArg (·, _) (if_neg (not_not.mpr h))

theorem step_rereading_new (h : s.ring.consumer.readSeq ≠ s.ring.producer.writeSeq) :
    rereading.step bit verdict s = (.idle, s) := congrArg (·, _) (if_pos h)

theorem step_rereading_empty (h : s.ring.consumer.readSeq = s.ring.producer.writeSeq) :
    rereading.step bit verdict s = (.clearing, s) := congrArg (·, _) (if_neg (not_not.mpr h))

theorem step_confirming_new (h : s.ring.consumer.readSeq ≠ s.ring.producer.writeSeq) :
    confirming.step bit verdict s = (.restoring, s) := congrArg (·, _) (if_pos h)

theorem step_confirming_empty (h : s.ring.consumer.readSeq = s.ring.producer.writeSeq) :
    confirming.step bit verdict s = (.idle, s) := congrArg (·, _) (if_neg (not_not.mpr h))

end ConsumerPc

/-! ## An operation on its own -/

/-- `n` steps of a producer on its own. -/
def ProducerPc.steps (bit : UInt32) : ℕ → ProducerPc D × SharedRing D → ProducerPc D × SharedRing D
  | 0, x => x
  | n + 1, x => ProducerPc.steps bit n (x.1.step bit x.2)

/-- `n` steps of a consumer on its own. -/
def ConsumerPc.steps (bit : UInt32) (verdict : Verdict) :
    ℕ → ConsumerPc × SharedRing D → ConsumerPc × SharedRing D
  | 0, x => x
  | n + 1, x => ConsumerPc.steps bit verdict n (x.1.step bit verdict x.2)

@[simp] theorem ProducerPc.steps_zero (bit : UInt32) (x : ProducerPc D × SharedRing D) :
    ProducerPc.steps bit 0 x = x := rfl

theorem ProducerPc.steps_succ (bit : UInt32) (n : ℕ) (pc : ProducerPc D) (s : SharedRing D) :
    ProducerPc.steps bit (n + 1) (pc, s) = ProducerPc.steps bit n (pc.step bit s) := rfl

@[simp] theorem ProducerPc.steps_idle (bit : UInt32) (n : ℕ) (s : SharedRing D) :
    ProducerPc.steps bit n (.idle, s) = (.idle, s) := by
  induction n with
  | zero => rfl
  | succ n ih => exact ih

@[simp] theorem ConsumerPc.steps_zero (bit : UInt32) (verdict : Verdict)
    (x : ConsumerPc × SharedRing D) : ConsumerPc.steps bit verdict 0 x = x := rfl

theorem ConsumerPc.steps_succ (bit : UInt32) (verdict : Verdict) (n : ℕ) (pc : ConsumerPc)
    (s : SharedRing D) : ConsumerPc.steps bit verdict (n + 1) (pc, s) =
      ConsumerPc.steps bit verdict n (pc.step bit verdict s) := rfl

@[simp] theorem ConsumerPc.steps_idle (bit : UInt32) (verdict : Verdict) (n : ℕ) (s : SharedRing D) :
    ConsumerPc.steps bit verdict n (.idle, s) = (.idle, s) := by
  induction n with
  | zero => rfl
  | succ n ih => exact ih

namespace RingIo

variable {P : Platform} {io : RingIo D σ} {bit : UInt32} {d : D}

/-- The shared part of what an operation works on. -/
def shared (io : RingIo D σ) : SharedRing D := ⟨io.ring, io.pending⟩

/-- An announcement that sets the bit and rings the doorbell. -/
def Announces (bit : UInt32) (announce : Bool → RingIo D σ → UnifiedError × RingIo D σ) : Prop :=
  ∀ wasEmpty io, ProducerPc.steps bit 4 (.setting wasEmpty, io.shared) =
    (.idle, (announce wasEmpty io).2.shared)

/-- **An enqueue is its steps**, taken one after another. -/
theorem enqueue_eq_steps (hP : P.Succeeds) (onError onFull : σ → σ) (onPublish : UInt32 → σ → σ)
    {announce : Bool → RingIo D σ → UnifiedError × RingIo D σ} (ha : Announces bit announce)
    (io : RingIo D σ) (d : D) :
    ProducerPc.steps bit 7 (.reading d, io.shared) =
      (.idle, (io.enqueue P onError onFull onPublish announce d).2.shared) := by
  by_cases hfull : io.ring.used ≥ io.ring.producer.depth
  · -- refused: the rest of the steps do nothing
    have hend : io.enqueue P onError onFull onPublish announce d =
        ({ io with calls := io.calls + 1 } : RingIo D σ).dropNewest P onError onFull := by
      rw [enqueue, cacheOp_succeeds hP, andThen_of_ok rfl]
      exact if_pos hfull
    have hfirst : (ProducerPc.reading d).step bit io.shared = (.idle, io.shared.countDrop) :=
      ProducerPc.step_reading_full hfull
    rw [hend, ProducerPc.steps_succ, hfirst, ProducerPc.steps_idle, dropNewest]
    simp only [cacheOp_succeeds hP]
    rfl
  · have hend : io.enqueue P onError onFull onPublish announce d =
        announce (io.ring.producer.writeSeq == io.ring.consumer.readSeq)
          (io.published onPublish d) := by
      rw [enqueue, cacheOp_succeeds hP, andThen_of_ok rfl, if_neg hfull]
      simp only [cacheOp_succeeds hP]
      rw [andThen_of_ok rfl]
      rfl
    have hfirst : (ProducerPc.reading d).step bit io.shared =
        (.writing d (io.ring.producer.writeSeq == io.ring.consumer.readSeq), io.shared) :=
      ProducerPc.step_reading_room hfull
    rw [hend, ← ha, ProducerPc.steps_succ, hfirst]
    rfl

/-- What the checks of a consumer come to. -/
def Consumer.verdict (C : Consumer D σ) (core : σ) (d : D) : Verdict :=
  if C.crcOk d = false then .crcError else if C.check core d ≠ .ok then .formatError else .accepted

/-- The steps after the checks. -/
theorem consume_eq_steps (hP : P.Succeeds) (onError : σ → σ) (io : RingIo D σ)
    {pendingBit : RingHeader → Except UnifiedError UInt32} (hbit : pendingBit io.ring.header = .ok bit)
    (verdict : Verdict) (writeSeq : UInt32) :
    ConsumerPc.steps bit verdict 5 (.taking writeSeq, io.shared) =
      (.idle, (io.consume P onError pendingBit writeSeq).2.shared) := by
  simp only [consume, cacheOp_succeeds hP, andThen_ok]
  rw [ConsumerPc.steps_succ]
  let taken : SharedRing D := { io.shared with ring := io.ring.take }
  by_cases hw : io.ring.consumer.readSeq + 1 = writeSeq
  swap
  · -- entries were unread at the first look
    have htaking : (ConsumerPc.taking writeSeq).step bit verdict io.shared = (.idle, taken) :=
      ConsumerPc.step_taking_left hw
    rw [htaking, ConsumerPc.steps_idle, if_pos hw]
    rfl
  have htaking : (ConsumerPc.taking writeSeq).step bit verdict io.shared = (.rereading, taken) :=
    ConsumerPc.step_taking_last hw
  rw [htaking, if_neg (not_not.mpr hw), ConsumerPc.steps_succ]
  by_cases hl : io.ring.consumer.readSeq + 1 = io.ring.producer.writeSeq
  swap
  · -- an entry has been published meanwhile
    have hreading : ConsumerPc.rereading.step bit verdict taken = (.idle, taken) :=
      ConsumerPc.step_rereading_new hl
    rw [hreading, ConsumerPc.steps_idle, if_pos hl]
    rfl
  -- the ring is empty, and stays so
  have hreading : ConsumerPc.rereading.step bit verdict taken = (.clearing, taken) :=
    ConsumerPc.step_rereading_empty hl
  have hconfirming : ConsumerPc.confirming.step bit verdict (taken.clearBit bit).countClear =
      (.idle, (taken.clearBit bit).countClear) := ConsumerPc.step_confirming_empty hl
  have hcleared : ConsumerPc.steps bit verdict 3 (.clearing, taken) =
      ConsumerPc.steps bit verdict 0
        (ConsumerPc.confirming.step bit verdict (taken.clearBit bit).countClear) := rfl
  rw [hreading, hcleared, hconfirming, if_neg (not_not.mpr hl)]
  simp only [hbit, clearPendingBit_succeeds hP, andThen_ok]
  rw [if_neg (not_not.mpr hl)]
  rfl

/-- **A dequeue is its steps**, taken one after another. -/
theorem dequeue_eq_steps (hP : P.Succeeds) (C : Consumer D σ) (io : RingIo D σ)
    (hbit : C.pendingBit io.ring.header = .ok bit) :
    ConsumerPc.steps bit (C.verdict io.core io.ring.head) 7 (.reading, io.shared) =
      (.idle, (io.dequeue P C).2.2.shared) := by
  rw [ConsumerPc.steps_succ]
  by_cases hempty : io.ring.producer.writeSeq = io.ring.consumer.readSeq
  · have hreading : ConsumerPc.reading.step bit (C.verdict io.core io.ring.head) io.shared =
        (.idle, io.shared) := ConsumerPc.step_reading_empty hempty
    have hend : io.dequeue P C = (.ipcQueueEmpty, none, { io with calls := io.calls + 1 }) := by
      rw [dequeue, cacheOp_succeeds hP, if_neg (by simp), if_pos hempty]
    rw [hreading, ConsumerPc.steps_idle, hend]
    rfl
  have hreading : ConsumerPc.reading.step bit (C.verdict io.core io.ring.head) io.shared =
      (.checking io.ring.producer.writeSeq, io.shared) := ConsumerPc.step_reading_entry hempty
  -- what the checks come to is counted, and the entry consumed
  let counted (verdict : Verdict) (calls : ℕ) (core : σ) : RingIo D σ :=
    { ring := { io.ring with consumer := verdict.count io.ring.consumer }
      pending := io.pending, calls := calls, core := core }
  rw [hreading, ConsumerPc.steps_succ]
  rcases dequeue_cases P C io (fun _ => ()) (fun _ => rfl) with
    ⟨-, -, -, -, hnone⟩ | ⟨-, hcrc, heq⟩ | ⟨-, hcrc, hcheck, heq⟩ | ⟨-, hcrc, hcheck, heq⟩
  · exact absurd (hnone hP).1 hempty
  · have hverdict : C.verdict io.core io.ring.head = .crcError := if_pos hcrc
    rw [heq, hverdict]
    exact consume_eq_steps hP C.onError (counted .crcError (io.calls + 2) (C.onCrcError io.core)) hbit
      _ _
  · have hverdict : C.verdict io.core io.ring.head = .formatError := by
      unfold Consumer.verdict
      rw [if_neg (by simp [hcrc]), if_pos hcheck]
    rw [heq, hverdict]
    exact consume_eq_steps hP C.onError
      (counted .formatError (io.calls + 2) (C.onFormatError io.core)) hbit _ _
  · have hverdict : C.verdict io.core io.ring.head = .accepted := by
      unfold Consumer.verdict
      rw [if_neg (by simp [hcrc]), if_neg (not_not.mpr hcheck)]
    rw [heq, hverdict]
    exact consume_eq_steps hP C.onError
      (counted .accepted (io.calls + if C.syncFrame then 3 else 2) (C.onAccept io.core io.ring.head))
      hbit _ _

end RingIo

end PutGateway
