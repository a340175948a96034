import PutGateway.Common.RingProtocol
/-!
# What one operation on a ring does

The skeletons of `RingProtocol`, described for every outcome of the
platform calls they make. Three pure operations on a ring say what can
happen to it: `stage` writes a slot, `publish` writes it and stores
`write_seq`, `take` stores `read_seq`. Everything else an operation
touches on the ring is a counter, and `Ring.Kept` relates two rings that
differ in counters only. `RingIo.enqueue_cases` and
`RingIo.dequeue_cases` list the ends of an operation; every fact about
the two cores' rings is read off them.
-/

namespace PutGateway

namespace Ring

variable {D : Type} {r r' r'' : Ring D}

/-! ## Rings up to counters -/

/-- Write the slot `write_seq` addresses. -/
def stage (r : Ring D) (d : D) : Ring D :=
  { r with
    descriptors := Function.update r.descriptors
      (slotIndex r.producer.writeSeq r.producer.depth) d }

/-- Write the slot and store `write_seq`. -/
def publish (r : Ring D) (d : D) : Ring D :=
  { r.stage d with producer := { r.producer with writeSeq := r.producer.writeSeq + 1 } }

/-- Store `read_seq`. -/
def take (r : Ring D) : Ring D :=
  { r with consumer := { r.consumer with readSeq := r.consumer.readSeq + 1 } }

/-- Two rings that differ in counters only. -/
structure Kept (r r' : Ring D) : Prop where
  header : r'.header = r.header
  writeSeq : r'.producer.writeSeq = r.producer.writeSeq
  depth : r'.producer.depth = r.producer.depth
  descriptorSize : r'.producer.descriptorSize = r.producer.descriptorSize
  readSeq : r'.consumer.readSeq = r.consumer.readSeq
  descriptors : r'.descriptors = r.descriptors

theorem Kept.refl (r : Ring D) : Kept r r := ⟨rfl, rfl, rfl, rfl, rfl, rfl⟩

theorem Kept.trans (h : Kept r r') (h' : Kept r' r'') : Kept r r'' :=
  ⟨h'.header.trans h.header, h'.writeSeq.trans h.writeSeq, h'.depth.trans h.depth,
    h'.descriptorSize.trans h.descriptorSize, h'.readSeq.trans h.readSeq,
    h'.descriptors.trans h.descriptors⟩

theorem Kept.of_eq (h : r' = r) : Kept r r' := h ▸ Kept.refl r

/-- A ring whose consumer counters alone differ. -/
theorem kept_consumer {c : RingConsumer} (h : c.readSeq = r.consumer.readSeq) :
    Kept r { r with consumer := c } := ⟨rfl, rfl, rfl, rfl, h, rfl⟩

/-- A ring whose producer counters alone differ. -/
theorem kept_producer {p : RingProducer} (h : p.writeSeq = r.producer.writeSeq)
    (hd : p.depth = r.producer.depth) (hs : p.descriptorSize = r.producer.descriptorSize) :
    Kept r { r with producer := p } := ⟨rfl, h, hd, hs, rfl, rfl⟩

theorem Kept.take (h : Kept r r') : Kept r.take r'.take :=
  ⟨h.header, h.writeSeq, h.depth, h.descriptorSize, by simp [Ring.take, h.readSeq], h.descriptors⟩

end Ring

namespace RingIo

variable {D σ β : Type} {P : Platform} {onError : σ → σ} {io : RingIo D σ}

/-! ## Platform calls -/

@[simp] theorem cacheOp_fst : (io.cacheOp P onError).1 = P.outcome io.calls := rfl

@[simp] theorem cacheOp_ring : (io.cacheOp P onError).2.ring = io.ring := by
  unfold cacheOp
  split <;> rfl

@[simp] theorem cacheOp_pending : (io.cacheOp P onError).2.pending = io.pending := by
  unfold cacheOp
  split <;> rfl

@[simp] theorem cacheOp_calls : (io.cacheOp P onError).2.calls = io.calls + 1 := by
  unfold cacheOp
  split <;> rfl

theorem cacheOp_of_ok (io : RingIo D σ) (onError : σ → σ) (h : P.outcome io.calls = .ok) :
    io.cacheOp P onError = (.ok, { io with calls := io.calls + 1 }) := by
  simp only [cacheOp, h, if_true]

/-- With operations that succeed, a cache operation is one call. -/
theorem cacheOp_succeeds (hP : P.Succeeds) (onError : σ → σ) (io : RingIo D σ) :
    io.cacheOp P onError = (.ok, { io with calls := io.calls + 1 }) :=
  cacheOp_of_ok io onError (hP _)

/-- What a failed cache operation leaves alone is left alone by every
cache operation. -/
theorem cacheOp_core {π : σ → β} (hErr : ∀ c, π (onError c) = π c) :
    π (io.cacheOp P onError).2.core = π io.core := by
  unfold cacheOp
  split
  · rfl
  · exact hErr _

@[simp] theorem atomicOp_fst {f : PendingLine → PendingLine} :
    (io.atomicOp P f).1 = P.outcome io.calls := rfl

@[simp] theorem atomicOp_ring {f : PendingLine → PendingLine} :
    (io.atomicOp P f).2.ring = io.ring := by
  unfold atomicOp call
  split <;> rfl

@[simp] theorem atomicOp_core {f : PendingLine → PendingLine} :
    (io.atomicOp P f).2.core = io.core := by
  unfold atomicOp call
  split <;> rfl

theorem atomicOp_of_ok {f : PendingLine → PendingLine} (h : P.outcome io.calls = .ok) :
    io.atomicOp P f = (.ok, { io with pending := f io.pending, calls := io.calls + 1 }) := by
  simp only [atomicOp, call, h, if_true]

/-- With operations that succeed, clearing a pending bit is two calls. -/
theorem clearPendingBit_succeeds (hP : P.Succeeds) (bit : UInt32) (io : RingIo D σ) :
    io.clearPendingBit P bit = (.ok, { io with
      pending := ⟨io.pending.bits &&& ~~~bit, io.pending.setCount, io.pending.clearCount + 1⟩
      calls := io.calls + 1 + 1 }) := by
  rw [clearPendingBit, atomicOp_of_ok (hP _), andThen_of_ok rfl]
  exact atomicOp_of_ok (hP _)

@[simp] theorem setPendingBit_ring {bit : UInt32} :
    (io.setPendingBit P bit).2.ring = io.ring :=
  andThen_inv (p := fun s : RingIo D σ => s.ring = io.ring) atomicOp_ring fun _ hs =>
    atomicOp_ring.trans hs

@[simp] theorem setPendingBit_core {bit : UInt32} :
    (io.setPendingBit P bit).2.core = io.core :=
  andThen_inv (p := fun s : RingIo D σ => s.core = io.core) atomicOp_core fun _ hs =>
    atomicOp_core.trans hs

@[simp] theorem clearPendingBit_ring {bit : UInt32} :
    (io.clearPendingBit P bit).2.ring = io.ring :=
  andThen_inv (p := fun s : RingIo D σ => s.ring = io.ring) atomicOp_ring fun _ hs =>
    atomicOp_ring.trans hs

@[simp] theorem clearPendingBit_core {bit : UInt32} :
    (io.clearPendingBit P bit).2.core = io.core :=
  andThen_inv (p := fun s : RingIo D σ => s.core = io.core) atomicOp_core fun _ hs =>
    atomicOp_core.trans hs

@[simp] theorem notify_fst : (io.notify P).1 = P.outcome io.calls := rfl

@[simp] theorem notify_ring : (io.notify P).2.ring = io.ring := by
  unfold notify call
  split <;> rfl

@[simp] theorem notify_core : (io.notify P).2.core = io.core := by
  unfold notify call
  split <;> rfl

/-- Ringing the doorbell touches counters only. -/
theorem ringDoorbell_kept {onNotifyFail onNotify : σ → σ} {wasEmpty : Bool} :
    Ring.Kept io.ring (io.ringDoorbell P onError onNotifyFail onNotify wasEmpty).2.ring := by
  unfold ringDoorbell
  split
  · simp only
    split
    · simp only [recordNotify, cacheOp_ring, notify_ring]
      exact Ring.kept_producer rfl rfl rfl
    · simp only [recordNotifyFail, cacheOp_ring, notify_ring]
      exact Ring.kept_producer rfl rfl rfl
  · exact Ring.Kept.refl _

@[simp] theorem ringDoorbell_fst {onNotifyFail onNotify : σ → σ} {wasEmpty : Bool} :
    (io.ringDoorbell P onError onNotifyFail onNotify wasEmpty).1 = .ok := by
  unfold ringDoorbell
  split
  · simp only
    split <;> rfl
  · rfl

theorem ringDoorbell_core {onNotifyFail onNotify : σ → σ} {wasEmpty : Bool} {π : σ → β}
    (hErr : ∀ c, π (onError c) = π c) (hFail : ∀ c, π (onNotifyFail c) = π c)
    (hNotify : ∀ c, π (onNotify c) = π c) :
    π (io.ringDoorbell P onError onNotifyFail onNotify wasEmpty).2.core = π io.core := by
  unfold ringDoorbell
  split
  · simp only
    split
    · rw [recordNotify, cacheOp_core hErr, hNotify, notify_core]
    · rw [recordNotifyFail, cacheOp_core hErr, hFail, notify_core]
  · rfl

/-! ## The producer -/

/-- The state a producer hands to its announcement: the entry is
published, two platform calls have been made. -/
def published (onPublish : UInt32 → σ → σ) (d : D) (io : RingIo D σ) : RingIo D σ :=
  (({ io with calls := io.calls + 2 } : RingIo D σ).writeSlot d).storeWriteSeq
    (onPublish (io.ring.used + 1))

theorem published_kept {onPublish : UInt32 → σ → σ} {d : D} :
    Ring.Kept (io.ring.publish d) (io.published onPublish d).ring := ⟨rfl, rfl, rfl, rfl, rfl, rfl⟩

section

variable (io) (onError onFull : σ → σ) (onPublish : UInt32 → σ → σ)
  (announce : Bool → RingIo D σ → UnifiedError × RingIo D σ) (d : D)

/-- **The ends of an enqueue.** Either it failed before the `write_seq`
store, and then at most the slot after the unread entries was written;
or the entry was published, and the result is the announcement's. -/
theorem enqueue_cases (P : Platform) (π : σ → β) (hErr : ∀ c, π (onError c) = π c)
    (hFull : ∀ c, π (onFull c) = π c) :
    ((io.enqueue P onError onFull onPublish announce d).1 ≠ .ok ∧
      (Ring.Kept io.ring (io.enqueue P onError onFull onPublish announce d).2.ring ∨
        io.ring.used < io.ring.producer.depth ∧
          Ring.Kept (io.ring.stage d) (io.enqueue P onError onFull onPublish announce d).2.ring) ∧
      (io.enqueue P onError onFull onPublish announce d).2.pending = io.pending ∧
      π (io.enqueue P onError onFull onPublish announce d).2.core = π io.core) ∨
    (io.ring.used < io.ring.producer.depth ∧ P.outcome io.calls = .ok ∧
      P.outcome (io.calls + 1) = .ok ∧
      io.enqueue P onError onFull onPublish announce d =
        announce (io.ring.producer.writeSeq == io.ring.consumer.readSeq)
          (io.published onPublish d)) := by
  by_cases h0 : P.outcome io.calls = .ok
  swap
  · -- the consumer line could not be read
    left
    have hfail : io.enqueue P onError onFull onPublish announce d = io.cacheOp P onError :=
      andThen_of_ne h0
    rw [hfail]
    exact ⟨h0, .inl (.of_eq cacheOp_ring), cacheOp_pending, cacheOp_core hErr⟩
  by_cases hused : io.ring.used < io.ring.producer.depth
  swap
  · -- the ring is full
    left
    have hfull : io.enqueue P onError onFull onPublish announce d =
        ({ io with calls := io.calls + 1 } : RingIo D σ).dropNewest P onError onFull := by
      rw [enqueue, cacheOp_of_ok _ _ h0, andThen_of_ok rfl]
      exact if_pos (UInt32.not_lt.mp hused)
    rw [hfull]
    refine ⟨by simp [dropNewest], .inl ?_, ?_, ?_⟩
    · simp only [dropNewest, cacheOp_ring]
      exact Ring.kept_producer rfl rfl rfl
    · simp only [dropNewest, cacheOp_pending]
    · simp only [dropNewest]
      rw [cacheOp_core hErr, hFull]
  have hstep : io.enqueue P onError onFull onPublish announce d =
      andThen ((({ io with calls := io.calls + 1 } : RingIo D σ).writeSlot d).cacheOp P onError)
        fun io' => announce (io.ring.producer.writeSeq == io.ring.consumer.readSeq)
          (io'.storeWriteSeq (onPublish (io.ring.used + 1))) := by
    rw [enqueue, cacheOp_of_ok _ _ h0, andThen_of_ok rfl]
    exact if_neg (UInt32.not_le.mpr hused)
  by_cases h1 : P.outcome (io.calls + 1) = .ok
  · -- the slot is flushed and the entry published
    right
    refine ⟨hused, h0, h1, ?_⟩
    rw [hstep, cacheOp_of_ok (({ io with calls := io.calls + 1 } : RingIo D σ).writeSlot d) _ h1,
      andThen_of_ok rfl]
    rfl
  · -- the slot could not be flushed
    left
    have hfail : io.enqueue P onError onFull onPublish announce d =
        (({ io with calls := io.calls + 1 } : RingIo D σ).writeSlot d).cacheOp P onError := by
      rw [hstep]
      exact andThen_of_ne h1
    rw [hfail]
    refine ⟨h1, .inr ⟨hused, ?_⟩, ?_, cacheOp_core hErr⟩
    · rw [cacheOp_ring]
      exact ⟨rfl, rfl, rfl, rfl, rfl, rfl⟩
    · rw [cacheOp_pending]
      rfl

/-- With room and two calls that succeed the entry is published. -/
theorem enqueue_of_ok {P : Platform} (hused : io.ring.used < io.ring.producer.depth)
    (h0 : P.outcome io.calls = .ok) (h1 : P.outcome (io.calls + 1) = .ok) :
    io.enqueue P onError onFull onPublish announce d =
      announce (io.ring.producer.writeSeq == io.ring.consumer.readSeq) (io.published onPublish d) := by
  rw [enqueue, cacheOp_of_ok _ _ h0, andThen_of_ok rfl]
  simp only
  rw [if_neg (UInt32.not_le.mpr hused),
    cacheOp_of_ok (({ io with calls := io.calls + 1 } : RingIo D σ).writeSlot d) _ h1,
    andThen_of_ok rfl]
  rfl

/-- Where an announcement cannot fail, an enqueue fails only without room
or for its first two calls. -/
theorem enqueue_fst_eq_ok_iff (P : Platform) (hann : ∀ b io', (announce b io').1 = .ok) :
    (io.enqueue P onError onFull onPublish announce d).1 = .ok ↔
      io.ring.used < io.ring.producer.depth ∧ P.outcome io.calls = .ok ∧
        P.outcome (io.calls + 1) = .ok := by
  constructor
  · intro hok
    rcases enqueue_cases io onError onFull onPublish announce d P (fun _ => ()) (fun _ => rfl)
      (fun _ => rfl) with ⟨hres, -⟩ | ⟨hused, h0, h1, -⟩
    · exact absurd hok hres
    · exact ⟨hused, h0, h1⟩
  · rintro ⟨hused, h0, h1⟩
    rw [enqueue_of_ok io onError onFull onPublish announce d hused h0 h1]
    exact hann _ _

/-- What no step of an enqueue touches is as before, whatever its end. -/
theorem enqueue_core (P : Platform) (π : σ → β) (hErr : ∀ c, π (onError c) = π c)
    (hFull : ∀ c, π (onFull c) = π c) (hPublish : ∀ n c, π (onPublish n c) = π c)
    (hAnnounce : ∀ b io', π (announce b io').2.core = π io'.core) :
    π (io.enqueue P onError onFull onPublish announce d).2.core = π io.core := by
  rcases enqueue_cases io onError onFull onPublish announce d P π hErr hFull with
    ⟨-, -, -, hcore⟩ | ⟨-, -, -, heq⟩
  · exact hcore
  · rw [heq, hAnnounce]
    exact hPublish _ _

/-- With operations that succeed, an enqueue fails on a full ring and on
no other. -/
theorem enqueue_succeeds (hP : P.Succeeds) :
    (io.ring.producer.depth ≤ io.ring.used ∧
      (io.enqueue P onError onFull onPublish announce d).1 = .ipcQueueFull ∧
      Ring.Kept io.ring (io.enqueue P onError onFull onPublish announce d).2.ring ∧
      (io.enqueue P onError onFull onPublish announce d).2.pending = io.pending ∧
      (io.enqueue P onError onFull onPublish announce d).2.core = onFull io.core) ∨
    (io.ring.used < io.ring.producer.depth ∧
      io.enqueue P onError onFull onPublish announce d =
        announce (io.ring.producer.writeSeq == io.ring.consumer.readSeq)
          (io.published onPublish d)) := by
  by_cases hused : io.ring.used < io.ring.producer.depth
  · right
    refine ⟨hused, ?_⟩
    rw [enqueue, cacheOp_succeeds hP, andThen_of_ok rfl, if_neg (UInt32.not_le.mpr hused)]
    simp only [cacheOp_succeeds hP]
    rw [andThen_of_ok rfl]
    rfl
  · left
    have hfull : io.enqueue P onError onFull onPublish announce d =
        ({ io with calls := io.calls + 1 } : RingIo D σ).dropNewest P onError onFull := by
      rw [enqueue, cacheOp_succeeds hP, andThen_of_ok rfl]
      exact if_pos (UInt32.not_lt.mp hused)
    rw [hfull, dropNewest, cacheOp_succeeds hP]
    exact ⟨UInt32.not_lt.mp hused, rfl, Ring.kept_producer rfl rfl rfl, rfl, rfl⟩

end

/-! ## The consumer -/

variable {pendingBit : RingHeader → Except UnifiedError UInt32} {writeSeq : UInt32}

/-- Consuming stores `read_seq`, whatever the platform calls return, and
touches nothing else of the ring. -/
theorem consume_ring :
    (io.consume P onError pendingBit writeSeq).2.ring = io.ring.take := by
  let p : RingIo D σ → Prop := fun s => s.ring = io.ring.take
  have hcache : ∀ s, p s → p (s.cacheOp P onError).2 := fun _ hs => cacheOp_ring.trans hs
  refine andThen_inv (p := p) cacheOp_ring fun s hs => ?_
  split
  · exact hs
  refine andThen_inv (p := p) (hcache s hs) fun s hs => ?_
  split
  · exact hs
  split
  · exact hs
  refine andThen_inv (p := p) (clearPendingBit_ring.trans hs) fun s hs => ?_
  refine andThen_inv (p := p) (hcache s hs) fun s hs => ?_
  split
  · exact setPendingBit_ring.trans hs
  · exact hs

theorem consume_core {π : σ → β} (hErr : ∀ c, π (onError c) = π c) :
    π (io.consume P onError pendingBit writeSeq).2.core = π io.core := by
  let p : RingIo D σ → Prop := fun s => π s.core = π io.core
  have hcache : ∀ s, p s → p (s.cacheOp P onError).2 := fun _ hs => (cacheOp_core hErr).trans hs
  refine andThen_inv (p := p) (cacheOp_core hErr) fun s hs => ?_
  split
  · exact hs
  refine andThen_inv (p := p) (hcache s hs) fun s hs => ?_
  split
  · exact hs
  split
  · exact hs
  refine andThen_inv (p := p) ((congrArg π clearPendingBit_core).trans hs) fun s hs => ?_
  refine andThen_inv (p := p) (hcache s hs) fun s hs => ?_
  split
  · exact (congrArg π setPendingBit_core).trans hs
  · exact hs

/-- Consuming succeeds exactly where the flush of the consumer line does
and, on a ring it has emptied, the four calls that clear the bit. -/
theorem consume_fst_eq_ok_iff {bit : UInt32} (hbit : pendingBit io.ring.header = .ok bit) :
    (io.consume P onError pendingBit io.ring.producer.writeSeq).1 = .ok ↔
      P.outcome io.calls = .ok ∧
        (io.ring.consumer.readSeq + 1 = io.ring.producer.writeSeq →
          ∀ n, 1 ≤ n → n ≤ 4 → P.outcome (io.calls + n) = .ok) := by
  have hrest : (∀ n, 1 ≤ n → n ≤ 4 → P.outcome (io.calls + n) = .ok) ↔
      P.outcome (io.calls + 1) = .ok ∧ P.outcome (io.calls + 2) = .ok ∧
        P.outcome (io.calls + 3) = .ok ∧ P.outcome (io.calls + 4) = .ok := by
    constructor
    · intro h
      exact ⟨h 1 (by omega) (by omega), h 2 (by omega) (by omega), h 3 (by omega) (by omega),
        h 4 (by omega) (by omega)⟩
    · rintro ⟨h1, h2, h3, h4⟩ n hn hn'
      obtain rfl | rfl | rfl | rfl : n = 1 ∨ n = 2 ∨ n = 3 ∨ n = 4 := by omega
      · exact h1
      · exact h2
      · exact h3
      · exact h4
  rw [hrest]
  by_cases h0 : P.outcome io.calls = .ok
  swap
  · simp [consume, andThen, h0]
  by_cases hlast : io.ring.consumer.readSeq + 1 = io.ring.producer.writeSeq
  swap
  · -- entries are left: nothing more is called
    simp [consume, andThen, h0, hlast]
  -- the calls of the clear in turn, up to the first that fails
  by_cases h1 : P.outcome (io.calls + 1) = .ok
  swap
  · simp [consume, andThen, cacheOp, h0, hlast, h1]
  by_cases h2 : P.outcome (io.calls + 1 + 1) = .ok
  swap
  · simp [consume, clearPendingBit, atomicOp, call, andThen, cacheOp, h0, hlast, h1, hbit, h2]
  by_cases h3 : P.outcome (io.calls + 1 + 1 + 1) = .ok
  swap
  · simp [consume, clearPendingBit, atomicOp, call, andThen, cacheOp, h0, hlast, h1, hbit, h2, h3]
  by_cases h4 : P.outcome (io.calls + 1 + 1 + 1 + 1) = .ok
  · simp [consume, clearPendingBit, atomicOp, call, andThen, cacheOp, h0, hlast, h1, hbit, h2, h3, h4]
  · simp [consume, clearPendingBit, atomicOp, call, andThen, cacheOp, h0, hlast, h1, hbit, h2, h3, h4]

variable {C : Consumer D σ} {count : RingConsumer → RingConsumer} {onReject : σ → σ}
  {e : UnifiedError} {d : D}

theorem reject_ring (io : RingIo D σ) (hcount : ∀ c, (count c).readSeq = c.readSeq) :
    Ring.Kept io.ring.take
      (io.reject P onError pendingBit writeSeq count onReject e).2.2.ring := by
  simp only [reject, consume_ring]
  exact (Ring.kept_consumer (hcount _)).take

theorem reject_core {π : σ → β} (hErr : ∀ c, π (onError c) = π c) :
    π (io.reject P onError pendingBit writeSeq count onReject e).2.2.core =
      π (onReject io.core) := by
  simp only [reject]
  rw [consume_core hErr]

theorem accept_ring (io : RingIo D σ) :
    Ring.Kept io.ring.take (io.accept P C writeSeq d).2.2.ring := by
  simp only [accept, consume_ring]
  exact ⟨rfl, rfl, rfl, rfl, rfl, rfl⟩

/-- Taking an entry returns what consuming it does. -/
theorem accept_fst_eq_ok_iff (io : RingIo D σ) {bit : UInt32}
    (hbit : C.pendingBit io.ring.header = .ok bit) :
    (io.accept P C io.ring.producer.writeSeq d).1 = .ok ↔
      P.outcome io.calls = .ok ∧
        (io.ring.consumer.readSeq + 1 = io.ring.producer.writeSeq →
          ∀ n, 1 ≤ n → n ≤ 4 → P.outcome (io.calls + n) = .ok) := by
  let counted : RingIo D σ :=
    { io with
      ring := { io.ring with
        consumer := { io.ring.consumer with dequeueCount := io.ring.consumer.dequeueCount + 1 } }
      core := C.onAccept io.core d }
  have hcounted : C.pendingBit counted.ring.header = .ok bit := hbit
  exact consume_fst_eq_ok_iff hcounted

theorem accept_core {π : σ → β} (hErr : ∀ c, π (C.onError c) = π c) :
    π (io.accept P C writeSeq d).2.2.core = π (C.onAccept io.core d) := by
  simp only [accept]
  rw [consume_core hErr]

/-- **The ends of a dequeue.** It may end before the entry is taken, and
then it has changed counters of the core at most; otherwise the entry at
the head is taken off the ring, rejected for its CRC or for the
consumer's checks, or accepted. -/
theorem dequeue_cases (P : Platform) (C : Consumer D σ) (io : RingIo D σ) (π : σ → β)
    (hErr : ∀ c, π (C.onError c) = π c) :
    ((io.dequeue P C).1 ≠ .ok ∧ (io.dequeue P C).2.1 = none ∧
      (io.dequeue P C).2.2.ring = io.ring ∧ π (io.dequeue P C).2.2.core = π io.core ∧
      (P.Succeeds → io.ring.producer.writeSeq = io.ring.consumer.readSeq ∧
        (io.dequeue P C).1 = .ipcQueueEmpty)) ∨
    (io.ring.producer.writeSeq ≠ io.ring.consumer.readSeq ∧ C.crcOk io.ring.head = false ∧
      io.dequeue P C = ({ io with calls := io.calls + 2 } : RingIo D σ).reject P C.onError
        C.pendingBit io.ring.producer.writeSeq
        (fun c => { c with crcErrorCount := c.crcErrorCount + 1 }) C.onCrcError .crc) ∨
    (io.ring.producer.writeSeq ≠ io.ring.consumer.readSeq ∧ C.crcOk io.ring.head = true ∧
      C.check io.core io.ring.head ≠ .ok ∧
      io.dequeue P C = ({ io with calls := io.calls + 2 } : RingIo D σ).reject P C.onError
        C.pendingBit io.ring.producer.writeSeq
        (fun c => { c with formatErrorCount := c.formatErrorCount + 1 }) C.onFormatError
        (C.check io.core io.ring.head)) ∨
    (io.ring.producer.writeSeq ≠ io.ring.consumer.readSeq ∧ C.crcOk io.ring.head = true ∧
      C.check io.core io.ring.head = .ok ∧
      io.dequeue P C =
        ({ io with calls := io.calls + if C.syncFrame then 3 else 2 } : RingIo D σ).accept P C
          io.ring.producer.writeSeq io.ring.head) := by
  -- the header is read first, before the ring is looked at
  by_cases h0 : P.outcome io.calls = .ok
  swap
  · left
    have hfail : io.dequeue P C = ((io.cacheOp P C.onError).1, none, (io.cacheOp P C.onError).2) :=
      if_pos h0
    rw [hfail]
    exact ⟨h0, rfl, cacheOp_ring, cacheOp_core hErr, fun hP => absurd (hP _) h0⟩
  have hfirst := cacheOp_of_ok io C.onError h0
  by_cases hempty : io.ring.producer.writeSeq = io.ring.consumer.readSeq
  · left
    have hend : io.dequeue P C = (.ipcQueueEmpty, none, { io with calls := io.calls + 1 }) := by
      rw [dequeue, hfirst, if_neg (by simp), if_pos hempty]
    rw [hend]
    exact ⟨by simp, rfl, rfl, rfl, fun _ => ⟨hempty, rfl⟩⟩
  -- then the entry at the head
  by_cases h1 : P.outcome (io.calls + 1) = .ok
  swap
  · left
    have hfail : io.dequeue P C =
        ((({ io with calls := io.calls + 1 } : RingIo D σ).cacheOp P C.onError).1, none,
          (({ io with calls := io.calls + 1 } : RingIo D σ).cacheOp P C.onError).2) := by
      rw [dequeue, hfirst, if_neg (by simp), if_neg hempty]
      exact if_pos h1
    rw [hfail]
    exact ⟨h1, rfl, cacheOp_ring, cacheOp_core hErr, fun hP => absurd (hP _) h1⟩
  have hsecond := cacheOp_of_ok ({ io with calls := io.calls + 1 } : RingIo D σ) C.onError h1
  by_cases hcrc : C.crcOk io.ring.head = true
  swap
  · right; left
    rw [Bool.not_eq_true] at hcrc
    refine ⟨hempty, hcrc, ?_⟩
    rw [dequeue, hfirst, if_neg (by simp), if_neg hempty, hsecond, if_neg (by simp)]
    exact if_pos (by simp [hcrc])
  by_cases hcheck : C.check io.core io.ring.head = .ok
  swap
  · right; right; left
    refine ⟨hempty, hcrc, hcheck, ?_⟩
    rw [dequeue, hfirst, if_neg (by simp), if_neg hempty, hsecond, if_neg (by simp),
      if_neg (by simp [hcrc])]
    exact if_pos hcheck
  -- the third synchronisation, of the frame, is made by one side only
  have hrest : io.dequeue P C =
      if C.syncFrame = true then
        if P.outcome (io.calls + 2) ≠ .ok then
          (P.outcome (io.calls + 2), none,
            (({ io with calls := io.calls + 2 } : RingIo D σ).cacheOp P C.onError).2)
        else (({ io with calls := io.calls + 2 } : RingIo D σ).cacheOp P C.onError).2.accept P C
          io.ring.producer.writeSeq io.ring.head
      else ({ io with calls := io.calls + 2 } : RingIo D σ).accept P C
        io.ring.producer.writeSeq io.ring.head := by
    rw [dequeue, hfirst, if_neg (by simp), if_neg hempty, hsecond, if_neg (by simp),
      if_neg (by simp [hcrc]), if_neg (by simpa using hcheck)]
    rfl
  by_cases hsync : C.syncFrame = true
  swap
  · right; right; right
    refine ⟨hempty, hcrc, hcheck, ?_⟩
    rw [hrest, if_neg hsync]
    simp only [hsync]
    rfl
  by_cases h2 : P.outcome (io.calls + 2) = .ok
  · right; right; right
    refine ⟨hempty, hcrc, hcheck, ?_⟩
    rw [hrest, if_pos hsync, if_neg (by simpa using h2),
      cacheOp_of_ok ({ io with calls := io.calls + 2 } : RingIo D σ) _ h2]
    simp only [hsync]
    rfl
  · left
    rw [hrest, if_pos hsync, if_pos h2]
    exact ⟨h2, rfl, cacheOp_ring, cacheOp_core hErr, fun hP => absurd (hP _) h2⟩

/-- An entry the consumer takes and hands over. -/
def Consumer.accepts (C : Consumer D σ) (core : σ) (d : D) : Prop :=
  C.crcOk d = true ∧ C.check core d = .ok

/-- The platform calls after the `read_seq` store: one to flush the
consumer line and, where the ring is then empty, four to clear its bit. -/
def consumeSucceeds (P : Platform) (calls : ℕ) (ring : Ring D) : Prop :=
  P.outcome calls = .ok ∧
    (ring.consumer.readSeq + 1 = ring.producer.writeSeq →
      ∀ n, 1 ≤ n → n ≤ 4 → P.outcome (calls + n) = .ok)

theorem consumeSucceeds_of_succeeds (hP : P.Succeeds) {calls : ℕ} {ring : Ring D} :
    consumeSucceeds P calls ring := ⟨hP _, fun _ _ _ _ => hP _⟩

/-- Consuming that succeeds makes one platform call, or five where it has
emptied the ring. -/
theorem consume_calls {bit : UInt32} (hbit : pendingBit io.ring.header = .ok bit)
    (hok : consumeSucceeds P io.calls io.ring) :
    (io.consume P onError pendingBit io.ring.producer.writeSeq).2.calls =
      io.calls + if io.ring.consumer.readSeq + 1 = io.ring.producer.writeSeq then 5 else 1 := by
  obtain ⟨h0, hlast⟩ := hok
  by_cases hempty : io.ring.consumer.readSeq + 1 = io.ring.producer.writeSeq
  · have h1 := hlast hempty 1 (by omega) (by omega)
    have h2 : P.outcome (io.calls + 1 + 1) = .ok := hlast hempty 2 (by omega) (by omega)
    have h3 : P.outcome (io.calls + 1 + 1 + 1) = .ok := hlast hempty 3 (by omega) (by omega)
    have h4 : P.outcome (io.calls + 1 + 1 + 1 + 1) = .ok := hlast hempty 4 (by omega) (by omega)
    simp [consume, clearPendingBit, atomicOp, call, andThen, cacheOp, h0, hempty, h1, hbit, h2, h3, h4]
  · simp [consume, andThen, cacheOp, h0, hempty]

theorem accept_calls (io : RingIo D σ) {bit : UInt32} (hbit : C.pendingBit io.ring.header = .ok bit)
    (hok : consumeSucceeds P io.calls io.ring) :
    (io.accept P C io.ring.producer.writeSeq d).2.2.calls =
      io.calls + if io.ring.consumer.readSeq + 1 = io.ring.producer.writeSeq then 5 else 1 := by
  let counted : RingIo D σ :=
    { io with
      ring := { io.ring with
        consumer := { io.ring.consumer with dequeueCount := io.ring.consumer.dequeueCount + 1 } }
      core := C.onAccept io.core d }
  have hcounted : C.pendingBit counted.ring.header = .ok bit := hbit
  exact consume_calls hcounted hok

/-- The platform calls of a dequeue that succeeds. -/
theorem dequeue_calls (P : Platform) (C : Consumer D σ) (io : RingIo D σ) {bit : UInt32}
    (hbit : C.pendingBit io.ring.header = .ok bit) (h : (io.dequeue P C).1 = .ok) :
    (io.dequeue P C).2.2.calls = io.calls + (if C.syncFrame then 3 else 2) +
      if io.ring.consumer.readSeq + 1 = io.ring.producer.writeSeq then 5 else 1 := by
  rcases dequeue_cases P C io (fun _ : σ => ()) (fun _ => rfl) with
    ⟨hres, -⟩ | ⟨-, -, heq⟩ | ⟨-, -, hbad, heq⟩ | ⟨-, -, -, heq⟩
  · exact absurd h hres
  · rw [heq] at h
    cases h
  · rw [heq] at h
    exact absurd h hbad
  · rw [heq] at h ⊢
    have hok : consumeSucceeds P (io.calls + if C.syncFrame then 3 else 2) io.ring :=
      (accept_fst_eq_ok_iff { io with calls := io.calls + if C.syncFrame then 3 else 2 } hbit).mp h
    exact accept_calls { io with calls := io.calls + if C.syncFrame then 3 else 2 } hbit hok

/-- **The three ends of a dequeue**, up to counters: nothing is taken, the
head is taken and refused, or the head is taken and handed over. -/
theorem dequeue_ends (P : Platform) (C : Consumer D σ) (io : RingIo D σ) {bit : UInt32}
    (hbit : C.pendingBit io.ring.header = .ok bit) (hcheck : ∀ c d, C.check c d ≠ .ipcQueueEmpty)
    (π : σ → β) (hErr : ∀ c, π (C.onError c) = π c) (hCrc : ∀ c, π (C.onCrcError c) = π c)
    (hFormat : ∀ c, π (C.onFormatError c) = π c) :
    ((io.dequeue P C).1 ≠ .ok ∧ (io.dequeue P C).2.1 = none ∧
      Ring.Kept io.ring (io.dequeue P C).2.2.ring ∧ π (io.dequeue P C).2.2.core = π io.core ∧
      (P.Succeeds → io.ring.producer.writeSeq = io.ring.consumer.readSeq ∧
        (io.dequeue P C).1 = .ipcQueueEmpty)) ∨
    (io.ring.producer.writeSeq ≠ io.ring.consumer.readSeq ∧
      Ring.Kept io.ring.take (io.dequeue P C).2.2.ring ∧
      ((¬ C.accepts io.core io.ring.head ∧ (io.dequeue P C).1 ≠ .ok ∧
          (io.dequeue P C).1 ≠ .ipcQueueEmpty ∧ (io.dequeue P C).2.1 = none ∧
          π (io.dequeue P C).2.2.core = π io.core) ∨
        (C.accepts io.core io.ring.head ∧ (io.dequeue P C).2.1 = some io.ring.head ∧
          π (io.dequeue P C).2.2.core = π (C.onAccept io.core io.ring.head) ∧
          ((io.dequeue P C).1 = .ok ↔
            consumeSucceeds P (io.calls + if C.syncFrame then 3 else 2) io.ring)))) := by
  rcases dequeue_cases P C io π hErr with
    ⟨hres, hnone, hring, hcore, hempty⟩ | ⟨hne, hbad, heq⟩ | ⟨hne, -, hbad, heq⟩ |
      ⟨hne, hgood, hok, heq⟩
  · exact .inl ⟨hres, hnone, .of_eq hring, hcore, hempty⟩
  · -- the CRC is wrong
    right
    rw [heq]
    refine ⟨hne, reject_ring { io with calls := io.calls + 2 } fun _ => rfl, .inl ⟨?_, ?_, ?_, rfl, ?_⟩⟩
    · exact fun hacc => by simp [hacc.1] at hbad
    · simp [reject]
    · simp [reject]
    · rw [reject_core hErr, hCrc]
  · -- the checks fail
    right
    rw [heq]
    refine ⟨hne, reject_ring { io with calls := io.calls + 2 } fun _ => rfl,
      .inl ⟨fun hacc => hbad hacc.2, hbad, hcheck _ _, rfl, ?_⟩⟩
    rw [reject_core hErr, hFormat]
  · -- the head is handed over
    right
    rw [heq]
    exact ⟨hne, accept_ring { io with calls := io.calls + if C.syncFrame then 3 else 2 },
      .inr ⟨⟨hgood, hok⟩, rfl, accept_core hErr,
        accept_fst_eq_ok_iff { io with calls := io.calls + if C.syncFrame then 3 else 2 } hbit⟩⟩

/-- A dequeue hands an entry over exactly where the calls before the
`read_seq` store succeed, an entry is there, and it is accepted. -/
theorem dequeue_isSome_iff (P : Platform) (C : Consumer D σ) (io : RingIo D σ) :
    (io.dequeue P C).2.1.isSome = true ↔
      (∀ n < if C.syncFrame then 3 else 2, P.outcome (io.calls + n) = .ok) ∧
        io.ring.producer.writeSeq ≠ io.ring.consumer.readSeq ∧ C.accepts io.core io.ring.head := by
  have htwo : ∀ n, 2 ≤ n → (∀ k < n, P.outcome (io.calls + k) = .ok) →
      P.outcome io.calls = .ok ∧ P.outcome (io.calls + 1) = .ok := by
    intro n hn h
    exact ⟨h 0 (by omega), h 1 (by omega)⟩
  have hmany : 2 ≤ if C.syncFrame then 3 else 2 := by split <;> omega
  by_cases h0 : P.outcome io.calls = .ok
  swap
  · -- the first call fails
    constructor
    · intro h
      simp [dequeue, cacheOp, h0] at h
    · intro h
      exact absurd (htwo _ hmany h.1).1 h0
  by_cases hne : io.ring.producer.writeSeq = io.ring.consumer.readSeq
  · simp [dequeue, cacheOp, h0, hne]
  by_cases h1 : P.outcome (io.calls + 1) = .ok
  swap
  · -- the second call fails
    constructor
    · intro h
      simp [dequeue, cacheOp, h0, hne, h1] at h
    · intro h
      exact absurd (htwo _ hmany h.1).2 h1
  by_cases hcrc : C.crcOk io.ring.head = true
  swap
  · simp [dequeue, cacheOp, reject, Consumer.accepts, h0, hne, h1, hcrc]
  by_cases hcheck : C.check io.core io.ring.head = .ok
  swap
  · simp [dequeue, cacheOp, reject, Consumer.accepts, h0, hne, h1, hcrc, hcheck]
  have hcalls : ∀ m, (∀ n < m + 2, P.outcome (io.calls + n) = .ok) ↔
      ∀ n < m, P.outcome (io.calls + 2 + n) = .ok := by
    intro m
    constructor
    · intro h n hn
      have hcall := h (n + 2) (by omega)
      rwa [show io.calls + (n + 2) = io.calls + 2 + n by omega] at hcall
    · intro h n hn
      match n with
      | 0 => exact h0
      | 1 => exact h1
      | n + 2 =>
        rw [show io.calls + (n + 2) = io.calls + 2 + n by omega]
        exact h n (by omega)
  cases hsync : C.syncFrame with
  | false =>
    rw [if_neg Bool.false_ne_true, hcalls 0]
    simp [dequeue, cacheOp, accept, Consumer.accepts, h0, hne, h1, hcrc, hcheck, hsync]
  | true =>
    rw [if_pos rfl, hcalls 1]
    by_cases h2 : P.outcome (io.calls + 1 + 1) = .ok
    · simp [dequeue, cacheOp, accept, Consumer.accepts, h0, hne, h1, hcrc, hcheck, hsync, h2]
    · simp [dequeue, cacheOp, Consumer.accepts, h0, hne, h1, hcrc, hcheck, hsync, h2]

end RingIo

end PutGateway
