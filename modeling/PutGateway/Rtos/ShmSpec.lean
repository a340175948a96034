import PutGateway.Rtos.ShmIpc
import PutGateway.Common.RegionSpec
/-!
# What the RTOS operations do to the region

The ends of each operation of `rtos_shm_ipc.c`, for every outcome of the
platform calls it makes, and, on a valid region and with calls that
succeed, its effect on the queues.
-/

namespace PutGateway

namespace Rtos

variable {P : Platform}

/-! ## Validation -/

/-- The checks of a ring pass exactly where its header is the ABI's. -/
theorem validateDescriptorRing_eq_ok_iff {ring : DescriptorRing} {kind : RingKind}
    {direction : Direction} {interfaceId : UInt8} (hkind : kind = .rx ∨ kind = .tx) :
    validateDescriptorRing ring kind.code interfaceId direction.code = .ok ↔
      ring.Abi kind direction ∧ ring.header.interfaceId = interfaceId := by
  have hcode : ¬ (kind.code ≠ RingKind.rx.code ∧ kind.code ≠ RingKind.tx.code) := by
    rcases hkind with rfl | rfl <;> simp
  simp only [validateDescriptorRing, Bool.or_eq_true, decide_eq_true_eq, Bool.and_eq_true]
  rw [if_neg hcode, checks_eq_ok_iff]
  push Not
  constructor
  · rintro ⟨h1, h2, h3⟩
    exact ⟨⟨h1.1.1, h1.1.2, h1.2, h2.1.1.1, h2.1.1.2, h2.1.2, h2.2, h3.1.1, h3.2⟩, h3.1.2⟩
  · rintro ⟨habi, hid⟩
    exact ⟨⟨⟨habi.magic, habi.version⟩, habi.headerSize⟩,
      ⟨⟨⟨habi.headerDepth, habi.headerDescriptorSize⟩, habi.producerDepth⟩,
        habi.producerDescriptorSize⟩, ⟨habi.ringKind, hid⟩, habi.direction⟩

theorem validateReclaimRing_eq_ok_iff {ring : ReclaimRing} :
    validateReclaimRing ring = .ok ↔ ring.Abi .reclaim .rtosToLinux := by
  simp only [validateReclaimRing, Bool.or_eq_true, decide_eq_true_eq]
  rw [checks_eq_ok_iff]
  push Not
  constructor
  · rintro ⟨h1, h2, h3⟩
    exact ⟨h1.1.1, h1.1.2, h1.2, h2.1.1.1, h2.1.1.2, h2.1.2, h2.2, h3.1, h3.2⟩
  · intro habi
    exact ⟨⟨⟨habi.magic, habi.version⟩, habi.headerSize⟩,
      ⟨⟨⟨habi.headerDepth, habi.headerDescriptorSize⟩, habi.producerDepth⟩,
        habi.producerDescriptorSize⟩, habi.ringKind, habi.direction⟩

/-- A ring with the ABI's header passes the checks against itself. -/
theorem validateOwnHeader_of_abi {ring : DescriptorRing} {kind : RingKind} {direction : Direction}
    (hkind : kind = .rx ∨ kind = .tx) (habi : ring.Abi kind direction) :
    validateOwnHeader ring = .ok := by
  unfold validateOwnHeader
  rw [habi.ringKind, habi.direction]
  exact (validateDescriptorRing_eq_ok_iff hkind).mpr ⟨habi, rfl⟩

/-- The bit of an RX or TX ring is that of its interface. -/
theorem pendingBitFromRing_of_abi {ring : DescriptorRing} {kind : RingKind} {direction : Direction}
    {i : Fin 6} (hkind : kind = .rx ∨ kind = .tx) (habi : ring.Abi kind direction)
    (hid : ring.header.interfaceId = UInt8.ofNat i) :
    pendingBitFromRing ring.header = .ok (1 <<< (UInt8.ofNat i).toUInt32) := by
  have hcode : kind.code ≠ RingKind.reclaim.code := by rcases hkind with rfl | rfl <;> decide
  have hvalid : ∀ i : Fin 6, isInterfaceValid (UInt8.ofNat i) = true := by decide
  simp only [pendingBitFromRing, habi.ringKind, hid]
  rw [if_neg hcode, if_neg (by simp [hvalid i])]

/-- A TX ring takes the descriptors that name its interface as target. -/
theorem validateDescriptorRingInterface_of_tx {ring : DescriptorRing} {d : Descriptor}
    (habi : ring.Abi .tx .rtosToLinux) (htarget : d.targetInterface = ring.header.interfaceId) :
    validateDescriptorRingInterface ring.header d = .ok := by
  have hkind : ring.header.ringKind ≠ RingKind.rx.code := by
    rw [habi.ringKind]
    decide
  rw [validateDescriptorRingInterface, if_neg hkind, if_pos habi.ringKind]
  exact if_neg (not_not.mpr htarget)

/-- An RX ring takes the descriptors that name its interface as source. -/
theorem validateDescriptorRingInterface_of_rx {ring : DescriptorRing} {d : Descriptor}
    (habi : ring.Abi .rx .linuxToRtos) :
    validateDescriptorRingInterface ring.header d = .ok ↔
      d.sourceInterface = ring.header.interfaceId := by
  rw [validateDescriptorRingInterface, if_pos habi.ringKind]
  by_cases h : d.sourceInterface = ring.header.interfaceId <;> simp [h]

/-! ## Publishing -/

section

variable {D : Type} {io : RingIo D Unit} {bit : UInt32} {d : D}

/-- Announcing touches counters of the ring, and succeeds exactly where
the flush and the two atomic operations do. -/
theorem announce_spec (P : Platform) (bit : UInt32) (wasEmpty : Bool) (io : RingIo D Unit) :
    Ring.Kept io.ring (announce P bit wasEmpty io).2.ring ∧
    ((announce P bit wasEmpty io).1 = .ok ↔ P.outcome io.calls = .ok ∧
      P.outcome (io.calls + 1) = .ok ∧ P.outcome (io.calls + 2) = .ok) := by
  unfold announce
  by_cases h0 : P.outcome io.calls = .ok
  swap
  · rw [andThen_of_ne h0]
    exact ⟨.of_eq RingIo.cacheOp_ring, by simp [h0]⟩
  rw [RingIo.cacheOp_of_ok _ _ h0, andThen_ok]
  by_cases h1 : P.outcome (io.calls + 1) = .ok
  swap
  · have hset : ({ io with calls := io.calls + 1 } : RingIo D Unit).setPendingBit P bit =
        ({ io with calls := io.calls + 1 } : RingIo D Unit).atomicOp P fun l =>
          { l with bits := l.bits ||| bit } := andThen_of_ne h1
    rw [hset, andThen_of_ne h1]
    exact ⟨.of_eq RingIo.atomicOp_ring, by simp [h1]⟩
  have hset : ({ io with calls := io.calls + 1 } : RingIo D Unit).setPendingBit P bit =
      ({ io with
          pending := { io.pending with bits := io.pending.bits ||| bit }
          calls := io.calls + 2 } : RingIo D Unit).atomicOp P fun l =>
        { l with setCount := l.setCount + 1 } := by
    rw [RingIo.setPendingBit, RingIo.atomicOp_of_ok h1, andThen_ok]
  rw [hset]
  by_cases h2 : P.outcome (io.calls + 2) = .ok
  · rw [andThen_of_ok h2]
    refine ⟨?_, by simp [h0, h1, h2]⟩
    refine Ring.Kept.trans (.of_eq ?_) RingIo.ringDoorbell_kept
    rw [RingIo.atomicOp_ring]
  · rw [andThen_of_ne h2]
    exact ⟨.of_eq RingIo.atomicOp_ring, by simp [h2]⟩

/-- **The ends of a publication on a ring.** A publication that fails
before the `write_seq` store leaves the unread entries; one that gets
there has published the entry, whatever it returns. -/
theorem publishOn_cases (P : Platform) (bit : UInt32) (d : D) (io : RingIo D Unit) :
    ((publishOn P bit d io).1 ≠ .ok ∧
      (Ring.Kept io.ring (publishOn P bit d io).2.ring ∨
        io.ring.used < io.ring.producer.depth ∧
          Ring.Kept (io.ring.stage d) (publishOn P bit d io).2.ring)) ∨
    (io.ring.used < io.ring.producer.depth ∧ P.outcome io.calls = .ok ∧
      P.outcome (io.calls + 1) = .ok ∧
      Ring.Kept (io.ring.publish d) (publishOn P bit d io).2.ring ∧
      ((publishOn P bit d io).1 = .ok ↔ P.outcome (io.calls + 2) = .ok ∧
        P.outcome (io.calls + 3) = .ok ∧ P.outcome (io.calls + 4) = .ok)) := by
  unfold publishOn
  rcases RingIo.enqueue_cases io id id (fun _ => id) (announce P bit) d P id (fun _ => rfl)
      (fun _ => rfl) with ⟨hres, hring, -, -⟩ | ⟨hused, h0, h1, heq⟩
  · exact .inl ⟨hres, hring⟩
  · right
    rw [heq]
    obtain ⟨hkept, hok⟩ := announce_spec P bit (io.ring.producer.writeSeq == io.ring.consumer.readSeq)
      (io.published (fun _ => id) d)
    exact ⟨hused, h0, h1, RingIo.published_kept.trans hkept, hok⟩

/-- With calls that succeed, a publication fails on a full ring and on no
other. -/
theorem publishOn_succeeds (hP : P.Succeeds) (bit : UInt32) (d : D) (io : RingIo D Unit) :
    (io.ring.producer.depth ≤ io.ring.used ∧ (publishOn P bit d io).1 = .ipcQueueFull ∧
      Ring.Kept io.ring (publishOn P bit d io).2.ring) ∨
    (io.ring.used < io.ring.producer.depth ∧ (publishOn P bit d io).1 = .ok ∧
      Ring.Kept (io.ring.publish d) (publishOn P bit d io).2.ring) := by
  unfold publishOn
  rcases RingIo.enqueue_succeeds io id id (fun _ => id) (announce P bit) d hP with
    ⟨hfull, hres, hring, -, -⟩ | ⟨hused, heq⟩
  · exact .inl ⟨hfull, hres, hring⟩
  · right
    rw [heq]
    obtain ⟨hkept, hok⟩ := announce_spec P bit (io.ring.producer.writeSeq == io.ring.consumer.readSeq)
      (io.published (fun _ => id) d)
    exact ⟨hused, hok.mpr ⟨hP _, hP _, hP _⟩, RingIo.published_kept.trans hkept⟩

end

variable {shm : RtosShm} {R : Region}

/-- **The ends of `rtos_shm_ipc_enqueue_tx_descriptor`.** -/
theorem rtosShmIpcEnqueueTxDescriptor_cases (P : Platform) (shm : RtosShm) (id : PutShmInterface)
    (d : Descriptor) :
    (rtosShmIpcEnqueueTxDescriptor P shm id d).2.initialized = shm.initialized ∧
    (((rtosShmIpcEnqueueTxDescriptor P shm id d).1 ≠ .ok ∧
      (shm.region.Kept (rtosShmIpcEnqueueTxDescriptor P shm id d).2.region ∨
        ∃ i, (shm.region.txRings i).used < (shm.region.txRings i).producer.depth ∧
          (shm.region.stageTx i d.sealed).Kept
            (rtosShmIpcEnqueueTxDescriptor P shm id d).2.region)) ∨
    ∃ i, id = interfaceOfIndex i ∧ d.targetInterface = id.toUInt8 ∧
      validateDescriptorBounds d = .ok ∧
      (shm.region.txRings i).used < (shm.region.txRings i).producer.depth ∧
      P.outcome shm.calls = .ok ∧ P.outcome (shm.calls + 1) = .ok ∧
      (shm.region.publishTx i d.sealed).Kept
        (rtosShmIpcEnqueueTxDescriptor P shm id d).2.region ∧
      ((rtosShmIpcEnqueueTxDescriptor P shm id d).1 = .ok ↔ P.outcome (shm.calls + 2) = .ok ∧
        P.outcome (shm.calls + 3) = .ok ∧ P.outcome (shm.calls + 4) = .ok)) := by
  unfold rtosShmIpcEnqueueTxDescriptor
  split
  · exact ⟨rfl, .inl ⟨by simp, .inl (.refl _)⟩⟩
  split
  · exact ⟨rfl, .inl ⟨by simp, .inl (.refl _)⟩⟩
  next i hi =>
  split
  · exact ⟨rfl, .inl ⟨by simp, .inl (.refl _)⟩⟩
  next htarget =>
  split
  · next hbounds => exact ⟨rfl, .inl ⟨hbounds, .inl (.refl _)⟩⟩
  next hbounds =>
  -- the ring helper either refuses at once or publishes
  have hself : shm.region.Kept { shm.region.setTx i (shm.region.txRings i) with
      txPendingBitmap := shm.region.txPendingBitmap } := Region.kept_setTx (.refl _)
  refine ⟨rfl, ?_⟩
  simp only [rtosShmDescriptorRingEnqueue]
  split
  · exact .inl ⟨by simp, .inl hself⟩
  split
  · exact .inl ⟨by simp, .inl hself⟩
  split
  · next h => exact .inl ⟨h, .inl hself⟩
  split
  · next e hbit =>
    refine .inl ⟨?_, .inl hself⟩
    rintro rfl
    simp only [pendingBitFromRing] at hbit
    split at hbit
    · cases hbit
    split at hbit <;> cases hbit
  next bit hbit =>
  rcases publishOn_cases P bit d.sealed (shm.txIo i) with ⟨hres, hring⟩ | ⟨hused, h0, h1, hk, hok⟩
  · refine .inl ⟨hres, ?_⟩
    rcases hring with hk | ⟨hused, hk⟩
    · exact .inl (Region.kept_setTx hk)
    · exact .inr ⟨i, hused, Region.setTx_kept hk⟩
  · exact .inr ⟨i, interfaceIndex?_eq_some.mp hi, not_not.mp htarget, not_not.mp hbounds, hused, h0,
      h1, Region.setTx_kept hk, hok⟩

/-- **The ends of `rtos_shm_ipc_reclaim_frame`.** -/
theorem rtosShmIpcReclaimFrame_cases (P : Platform) (shm : RtosShm) (frameId : UInt32)
    (reason : ReclaimReason) (source target : PutShmInterface) (epoch flags : UInt32) :
    let r := rtosShmIpcReclaimFrame P shm frameId reason source target epoch flags
    let d := (reclaimDescriptor frameId reason source target epoch flags).sealed
    r.2.initialized = shm.initialized ∧
    ((r.1 ≠ .ok ∧
      (shm.region.Kept r.2.region ∨
        shm.region.reclaimRing.used < shm.region.reclaimRing.producer.depth ∧
          (shm.region.stageReclaim d).Kept r.2.region)) ∨
    (frameId < 64 ∧ shm.region.reclaimRing.used < shm.region.reclaimRing.producer.depth ∧
      P.outcome shm.calls = .ok ∧ P.outcome (shm.calls + 1) = .ok ∧
      (shm.region.publishReclaim d).Kept r.2.region ∧
      (r.1 = .ok ↔ P.outcome (shm.calls + 2) = .ok ∧ P.outcome (shm.calls + 3) = .ok ∧
        P.outcome (shm.calls + 4) = .ok))) := by
  simp only [rtosShmIpcReclaimFrame]
  split
  · exact ⟨rfl, .inl ⟨by simp, .inl (.refl _)⟩⟩
  split
  · exact ⟨rfl, .inl ⟨by simp, .inl (.refl _)⟩⟩
  next hargs =>
  split
  · exact ⟨rfl, .inl ⟨by simp, .inl (.refl _)⟩⟩
  refine ⟨rfl, ?_⟩
  have hlt : frameId < 64 := by
    simp only [Bool.or_eq_true, decide_eq_true_eq, not_or] at hargs
    exact UInt32.not_le.mp hargs.1.1
  rcases publishOn_cases P 1 (reclaimDescriptor frameId reason source target epoch flags).sealed
    shm.reclaimIo with ⟨hres, hring⟩ | ⟨hused, h0, h1, hk, hok⟩
  · refine .inl ⟨hres, ?_⟩
    rcases hring with hk | ⟨hused, hk⟩
    · exact .inl (Region.setReclaim_kept hk)
    · exact .inr ⟨hused, Region.setReclaim_kept hk⟩
  · exact .inr ⟨hlt, hused, h0, h1, Region.setReclaim_kept hk, hok⟩

/-! ## With calls that succeed -/

variable {i : Fin 6}

/-- On a valid region a checked TX descriptor reaches the ring helper. -/
theorem rtosShmIpcEnqueueTxDescriptor_eq (hinit : shm.initialized = true) (hv : shm.region.Valid)
    {d : Descriptor} (htarget : d.targetInterface = UInt8.ofNat i)
    (hbounds : validateDescriptorBounds d = .ok) :
    rtosShmIpcEnqueueTxDescriptor P shm (interfaceOfIndex i) d =
      ((publishOn P (1 <<< (UInt8.ofNat i).toUInt32) d.sealed (shm.txIo i)).1,
        shm.setTxIo i (publishOn P (1 <<< (UInt8.ofNat i).toUInt32) d.sealed (shm.txIo i)).2) := by
  have hiface : validateDescriptorRingInterface (shm.txIo i).ring.header d = .ok :=
    validateDescriptorRingInterface_of_tx (hv.tx i) (htarget.trans (hv.txInterface i).symm)
  have hown : validateOwnHeader (shm.txIo i).ring = .ok :=
    validateOwnHeader_of_abi (.inr rfl) (hv.tx i)
  have hdir : Direction.rtosToLinux.code = (shm.txIo i).ring.header.direction :=
    (hv.tx i).direction.symm
  have hbit : pendingBitFromRing (shm.txIo i).ring.header =
      .ok (1 <<< (UInt8.ofNat i).toUInt32) :=
    pendingBitFromRing_of_abi (.inr rfl) (hv.tx i) (hv.txInterface i)
  simp only [rtosShmIpcEnqueueTxDescriptor, interfaceIndex?_interfaceOfIndex,
    rtosShmDescriptorRingEnqueue, toUInt8_interfaceOfIndex, hinit, htarget, hbounds, hown, hiface,
    hbit, ← hdir]
  simp

/-- On a valid region a checked TX descriptor is refused on a full ring,
and queued on any other. -/
theorem rtosShmIpcEnqueueTxDescriptor_succeeds (hP : P.Succeeds) (hinit : shm.initialized = true)
    (hv : shm.region.Valid) {d : Descriptor} (htarget : d.targetInterface = UInt8.ofNat i)
    (hbounds : validateDescriptorBounds d = .ok) :
    let r := rtosShmIpcEnqueueTxDescriptor P shm (interfaceOfIndex i) d
    (8 ≤ (shm.region.view.tx i).length ∧ r.1 = .ipcQueueFull ∧
      shm.region.Becomes r.2.region shm.region.view) ∨
    ((shm.region.view.tx i).length < 8 ∧ r.1 = .ok ∧
      shm.region.Becomes r.2.region
        (shm.region.view.setTx i (shm.region.view.tx i ++ [d.sealed]))) := by
  simp only [rtosShmIpcEnqueueTxDescriptor_eq hinit hv htarget hbounds]
  rcases publishOn_succeeds hP (1 <<< (UInt8.ofNat i).toUInt32) d.sealed (shm.txIo i) with
    ⟨hfull, hres, hk⟩ | ⟨hroom, hres, hk⟩
  · refine .inl ⟨not_lt.mp fun h => UInt32.not_lt.mpr hfull (hv.tx_room.mpr h), hres, ?_⟩
    exact (Region.kept_setTx hk).becomes hv
  · have hlt := hv.tx_room.mp hroom
    exact .inr ⟨hlt, hres, Region.becomes_publishTx hv hlt (Region.setTx_kept hk)⟩

/-- On a valid region a checked reclaim reaches the ring. -/
theorem rtosShmIpcReclaimFrame_eq (hinit : shm.initialized = true) (hv : shm.region.Valid)
    {frameId : UInt32} (hframe : frameId < 64) {source target : PutShmInterface}
    (hsource : isInterfaceValid source.toUInt8 = true)
    (htarget : isInterfaceValid target.toUInt8 = true)
    {reason : ReclaimReason} {epoch flags : UInt32} :
    rtosShmIpcReclaimFrame P shm frameId reason source target epoch flags =
      let r := publishOn P 1 (reclaimDescriptor frameId reason source target epoch flags).sealed
        shm.reclaimIo
      (r.1, shm.setReclaimIo r.2) := by
  have hargs : (frameId ≥ 64 || !isInterfaceValid source.toUInt8 ||
      !isInterfaceValid target.toUInt8) = false := by
    simp only [hsource, htarget, Bool.not_true, Bool.or_false, decide_eq_false_iff_not]
    exact UInt32.not_le.mpr hframe
  simp only [rtosShmIpcReclaimFrame, hinit, hargs, validateReclaimRing_eq_ok_iff.mpr hv.reclaim]
  simp

/-- On a valid region a reclaim is refused on a full ring, and queued on
any other. -/
theorem rtosShmIpcReclaimFrame_succeeds (hP : P.Succeeds) (hinit : shm.initialized = true)
    (hv : shm.region.Valid) {frameId : UInt32} (hframe : frameId < 64) {source target : PutShmInterface}
    (hsource : isInterfaceValid source.toUInt8 = true)
    (htarget : isInterfaceValid target.toUInt8 = true)
    (reason : ReclaimReason) (epoch flags : UInt32) :
    let r := rtosShmIpcReclaimFrame P shm frameId reason source target epoch flags
    (8 ≤ shm.region.view.reclaim.length ∧ r.1 = .ipcQueueFull ∧
      shm.region.Becomes r.2.region shm.region.view) ∨
    (shm.region.view.reclaim.length < 8 ∧ r.1 = .ok ∧
      shm.region.Becomes r.2.region (shm.region.view.setReclaim (shm.region.view.reclaim ++
        [(reclaimDescriptor frameId reason source target epoch flags).sealed]))) := by
  simp only [rtosShmIpcReclaimFrame_eq hinit hv hframe hsource htarget]
  generalize (reclaimDescriptor frameId reason source target epoch flags).sealed = d
  rcases publishOn_succeeds hP 1 d shm.reclaimIo with ⟨hfull, hres, hk⟩ | ⟨hroom, hres, hk⟩
  · exact .inl ⟨not_lt.mp fun h => UInt32.not_lt.mpr hfull (hv.reclaim_room.mpr h), hres,
      (Region.setReclaim_kept hk).becomes hv⟩
  · have hlt := hv.reclaim_room.mp hroom
    exact .inr ⟨hlt, hres, Region.becomes_publishReclaim hv hlt (Region.setReclaim_kept hk)⟩

/-- A TX descriptor that is not checked is refused, and not for a full
ring. -/
theorem rtosShmIpcEnqueueTxDescriptor_refuses (P : Platform) (shm : RtosShm) {d : Descriptor}
    (h : ¬ (d.targetInterface = UInt8.ofNat i ∧ validateDescriptorBounds d = .ok)) :
    let r := rtosShmIpcEnqueueTxDescriptor P shm (interfaceOfIndex i) d
    r.1 ≠ .ok ∧ r.1 ≠ .ipcQueueFull ∧ r.2 = shm := by
  simp only [rtosShmIpcEnqueueTxDescriptor, interfaceIndex?_interfaceOfIndex,
    toUInt8_interfaceOfIndex]
  by_cases hinit : shm.initialized = true
  swap
  · simp [hinit]
  by_cases htarget : d.targetInterface = UInt8.ofNat i
  swap
  · simp [hinit, htarget]
  have hbounds : validateDescriptorBounds d ≠ .ok := fun hbounds => h ⟨htarget, hbounds⟩
  simp [hinit, htarget, hbounds, validateDescriptorBounds_ne_full]

/-- A reclaim of no frame or no interface is refused, and not for a full
ring. -/
theorem rtosShmIpcReclaimFrame_refuses (P : Platform) (shm : RtosShm) {frameId : UInt32}
    {source target : PutShmInterface}
    (h : ¬ (frameId < 64 ∧ isInterfaceValid source.toUInt8 = true ∧
      isInterfaceValid target.toUInt8 = true)) (reason : ReclaimReason) (epoch flags : UInt32) :
    let r := rtosShmIpcReclaimFrame P shm frameId reason source target epoch flags
    r.1 ≠ .ok ∧ r.1 ≠ .ipcQueueFull ∧ r.2 = shm := by
  have hargs : (frameId ≥ 64 || !isInterfaceValid source.toUInt8 ||
      !isInterfaceValid target.toUInt8) = true := by
    by_contra hargs
    simp only [Bool.or_eq_true, Bool.not_eq_true', decide_eq_true_eq, not_or,
      Bool.not_eq_false] at hargs
    exact h ⟨UInt32.not_le.mp hargs.1.1, hargs.1.2, hargs.2⟩
  simp only [rtosShmIpcReclaimFrame, hargs]
  by_cases hinit : shm.initialized = true <;> simp [hinit]

/-! ## Taking from an RX ring -/

/-- An entry of an RX ring the RTOS accepts: its CRC is right, it is
within bounds, and it names the ring's interface as its source. -/
structure Acceptable (i : Fin 6) (d : Descriptor) : Prop where
  crc : descriptorCrc d = d.descriptorCrc16
  bounds : validateDescriptorBounds d = .ok
  source : d.sourceInterface = UInt8.ofNat i

instance (i : Fin 6) (d : Descriptor) : Decidable (Acceptable i d) :=
  decidable_of_iff (descriptorCrc d = d.descriptorCrc16 ∧ validateDescriptorBounds d = .ok ∧
    d.sourceInterface = UInt8.ofNat i) ⟨fun h => ⟨h.1, h.2.1, h.2.2⟩, fun h => ⟨h.1, h.2, h.3⟩⟩

theorem checkRingDescriptor_eq_ok_iff {ring : DescriptorRing} {d : Descriptor}
    (habi : ring.Abi .rx .linuxToRtos) :
    checkRingDescriptor ring.header d = .ok ↔
      validateDescriptorBounds d = .ok ∧ d.sourceInterface = ring.header.interfaceId := by
  unfold checkRingDescriptor
  by_cases h : validateDescriptorBounds d = .ok
  · simp [h, validateDescriptorRingInterface_of_rx habi]
  · simp [h]

/-- The checks report no empty ring. -/
theorem checkRingDescriptor_ne_empty {header : RingHeader} {d : Descriptor} :
    checkRingDescriptor header d ≠ .ipcQueueEmpty := by
  unfold checkRingDescriptor validateDescriptorBounds validateDescriptorRingInterface
  split_ifs <;> simp

/-- The platform calls a dequeue of an RX ring makes after its `read_seq`
store. -/
def takeCallsSucceed (P : Platform) (shm : RtosShm) (i : Fin 6) : Prop :=
  RingIo.consumeSucceeds P (shm.calls + 2) (shm.region.rxRings i)

/-- A dequeue of an RX ring is one of its ring. -/
theorem rtosShmIpcDequeueRxDescriptor_eq (P : Platform) (hv : shm.region.Valid)
    (hinit : shm.initialized = true) (i : Fin 6) :
    rtosShmIpcDequeueRxDescriptor P shm (interfaceOfIndex i) =
      let r := (shm.rxIo i).dequeue P (ringConsumer (shm.rxIo i).ring.header)
      (r.1, r.2.1, shm.setRxIo i r.2.2) := by
  have hown : validateOwnHeader (shm.rxIo i).ring = .ok :=
    validateOwnHeader_of_abi (.inl rfl) (hv.rx i)
  simp [rtosShmIpcDequeueRxDescriptor, rtosShmDescriptorRingDequeue, hinit, hown]

/-- The checks of a dequeue are those for an acceptable entry. -/
theorem ringConsumer_accepts_iff (hv : shm.region.Valid) (i : Fin 6) (d : Descriptor) :
    (ringConsumer (shm.rxIo i).ring.header).accepts () d ↔ Acceptable i d := by
  have hcheck : checkRingDescriptor (shm.rxIo i).ring.header d = .ok ↔
      validateDescriptorBounds d = .ok ∧ d.sourceInterface = UInt8.ofNat i := by
    rw [← hv.rxInterface i]
    exact checkRingDescriptor_eq_ok_iff (hv.rx i)
  have hcrc : (ringConsumer (shm.rxIo i).ring.header).crcOk d = true ↔
      descriptorCrc d = d.descriptorCrc16 := beq_iff_eq
  constructor
  · rintro ⟨h1, h2⟩
    exact ⟨hcrc.mp h1, (hcheck.mp h2).1, (hcheck.mp h2).2⟩
  · rintro ⟨h1, h2, h3⟩
    exact ⟨hcrc.mpr h1, hcheck.mpr ⟨h2, h3⟩⟩

/-- **The ends of `rtos_shm_ipc_dequeue_rx_descriptor`.** Nothing is
taken; or the head is taken and refused; or it is taken and handed over,
with the result of the calls made after the `read_seq` store. -/
theorem rtosShmIpcDequeueRxDescriptor_cases (P : Platform) (hv : shm.region.Valid)
    (hinit : shm.initialized = true) (i : Fin 6) :
    let r := rtosShmIpcDequeueRxDescriptor P shm (interfaceOfIndex i)
    r.2.2.initialized = true ∧
    ((r.1 ≠ .ok ∧ r.2.1 = none ∧ shm.region.Becomes r.2.2.region shm.region.view ∧
        (P.Succeeds → shm.region.view.rx i = [] ∧ r.1 = .ipcQueueEmpty)) ∨
      ∃ d rest, shm.region.view.rx i = d :: rest ∧
        shm.region.Becomes r.2.2.region (shm.region.view.setRx i rest) ∧
        ((¬ Acceptable i d ∧ r.1 ≠ .ok ∧ r.1 ≠ .ipcQueueEmpty ∧ r.2.1 = none) ∨
          (Acceptable i d ∧ r.2.1 = some d ∧ (r.1 = .ok ↔ takeCallsSucceed P shm i)))) := by
  simp only [rtosShmIpcDequeueRxDescriptor_eq P hv hinit]
  refine ⟨hinit, ?_⟩
  have haccepts := ringConsumer_accepts_iff hv i
  rcases RingIo.dequeue_ends P (ringConsumer (shm.rxIo i).ring.header) (shm.rxIo i)
      (pendingBitFromRing_of_abi (.inl rfl) (hv.rx i) (hv.rxInterface i))
      (fun _ _ => checkRingDescriptor_ne_empty) id (fun _ => rfl) (fun _ => rfl) (fun _ => rfl) with
    ⟨hres, hnone, hk, -, hempty⟩ | ⟨hne, hk, hends⟩
  · refine .inl ⟨hres, hnone, (Region.kept_setRx hk).becomes hv, fun hP => ?_⟩
    exact ⟨Ring.unread_eq_nil_iff.mpr (hempty hP).1, (hempty hP).2⟩
  · obtain ⟨rest, hhead, hbecomes⟩ := Region.becomes_takeRx hv hne (Region.setRx_kept hk)
    refine .inr ⟨_, rest, hhead, hbecomes, ?_⟩
    rcases hends with ⟨hbad, hres, hres', hnone, -⟩ | ⟨hgood, hsome, -, hok⟩
    · exact .inl ⟨fun h => hbad ((haccepts _).mpr h), hres, hres', hnone⟩
    · exact .inr ⟨(haccepts _).mp hgood, hsome, hok⟩

/-- A dequeue hands an entry over exactly where the two calls before the
`read_seq` store succeed and the head is acceptable. -/
theorem rtosShmIpcDequeueRxDescriptor_isSome_iff (P : Platform) (hv : shm.region.Valid)
    (hinit : shm.initialized = true) {i : Fin 6} {d : Descriptor} {rest : List Descriptor}
    (hrx : shm.region.view.rx i = d :: rest) :
    (rtosShmIpcDequeueRxDescriptor P shm (interfaceOfIndex i)).2.1.isSome = true ↔
      P.outcome shm.calls = .ok ∧ P.outcome (shm.calls + 1) = .ok ∧ Acceptable i d := by
  have hrx' : (shm.region.rxRings i).unread = d :: rest := hrx
  have hne : (shm.rxIo i).ring.producer.writeSeq ≠ (shm.rxIo i).ring.consumer.readSeq := by
    intro heq
    have hnil : (shm.region.rxRings i).unread = [] := Ring.unread_eq_nil_iff.mpr heq
    rw [hrx'] at hnil
    cases hnil
  have hhead : (shm.rxIo i).ring.head = d := by
    have htake := Ring.unread_take (hv.rx i).depthOk hne
    rw [hrx'] at htake
    exact (List.cons.inj htake).1.symm
  have hcalls : (∀ n < 2, P.outcome ((shm.rxIo i).calls + n) = .ok) ↔
      P.outcome shm.calls = .ok ∧ P.outcome (shm.calls + 1) = .ok := by
    constructor
    · intro h
      exact ⟨h 0 (by omega), h 1 (by omega)⟩
    · rintro ⟨h0, h1⟩ n hn
      obtain rfl | rfl : n = 0 ∨ n = 1 := by omega
      · exact h0
      · exact h1
  simp only [rtosShmIpcDequeueRxDescriptor_eq P hv hinit]
  have hsome := RingIo.dequeue_isSome_iff P (ringConsumer (shm.rxIo i).ring.header) (shm.rxIo i)
  have hsync : (ringConsumer (shm.rxIo i).ring.header).syncFrame = false := rfl
  rw [hsync, if_neg Bool.false_ne_true, hhead] at hsome
  rw [hsome, ringConsumer_accepts_iff hv, hcalls]
  exact ⟨fun h => ⟨h.1.1, h.1.2, h.2.2⟩, fun h => ⟨⟨h.1, h.2.1⟩, hne, h.2.2⟩⟩

/-- The platform calls of a dequeue that succeeds: two before the
`read_seq` store and one after it, or five where the ring is then empty. -/
theorem rtosShmIpcDequeueRxDescriptor_calls (P : Platform) (hv : shm.region.Valid)
    (hinit : shm.initialized = true) {i : Fin 6}
    (h : (rtosShmIpcDequeueRxDescriptor P shm (interfaceOfIndex i)).1 = .ok) :
    (rtosShmIpcDequeueRxDescriptor P shm (interfaceOfIndex i)).2.2.calls =
      shm.calls + 2 + if (shm.region.view.rx i).length = 1 then 5 else 1 := by
  have hlast : (shm.rxIo i).ring.consumer.readSeq + 1 = (shm.rxIo i).ring.producer.writeSeq ↔
      (shm.region.view.rx i).length = 1 := by
    have hlength : (shm.region.view.rx i).length = (shm.rxIo i).ring.used.toNat := Ring.length_unread
    have h1 : (1 : UInt32).toNat = 1 := rfl
    rw [hlength, Ring.used, ← h1, UInt32.toNat_inj]
    constructor
    · intro heq
      rw [← heq, UInt32.add_comm, UInt32.add_sub_cancel]
    · intro heq
      rw [← heq, UInt32.add_comm, UInt32.sub_add_cancel]
  simp only [rtosShmIpcDequeueRxDescriptor_eq P hv hinit] at h ⊢
  have hcalls := RingIo.dequeue_calls P (ringConsumer (shm.rxIo i).ring.header) (shm.rxIo i)
    (pendingBitFromRing_of_abi (.inl rfl) (hv.rx i) (hv.rxInterface i)) h
  rw [if_congr hlast rfl rfl] at hcalls
  exact hcalls

theorem takeCallsSucceed_of_succeeds (hP : P.Succeeds) : takeCallsSucceed P shm i :=
  RingIo.consumeSucceeds_of_succeeds hP

/-! ## Attaching and reading -/

/-- Attaching again changes nothing. -/
theorem rtosShmIpcAttach_snd (hinit : shm.initialized = true) : (rtosShmIpcAttach shm).2 = shm := by
  have hself : ({ shm with initialized := true } : RtosShm) = shm := by rw [← hinit]
  unfold rtosShmIpcAttach
  simp only
  split_ifs
  · rfl
  · rfl
  · rfl
  · exact hself

private theorem validateRings_of_valid (hv : R.Valid) (l : List (Fin 6)) :
    validateRings R l = .ok := by
  induction l with
  | nil => rfl
  | cons i rest ih =>
    have hrx := (validateDescriptorRing_eq_ok_iff (.inl rfl)).mpr ⟨hv.rx i, hv.rxInterface i⟩
    have htx := (validateDescriptorRing_eq_ok_iff (.inr rfl)).mpr ⟨hv.tx i, hv.txInterface i⟩
    simp [validateRings, hrx, htx, ih]

/-- A region with a valid header and valid rings is attached to. -/
theorem rtosShmIpcAttach_of_valid (hheader : validateRegionHeader shm.region.header = .ok)
    (hv : shm.region.Valid) : rtosShmIpcAttach shm = (.ok, { shm with initialized := true }) := by
  simp [rtosShmIpcAttach, hheader, validateRings_of_valid hv,
    validateReclaimRing_eq_ok_iff.mpr hv.reclaim]

/-- **The ends of `rtos_shm_ipc_get_frame_const`** on a descriptor within
bounds: the block is read where its invalidation succeeds. -/
theorem rtosShmIpcGetFrameConst_cases (hinit : shm.initialized = true) {d : Descriptor}
    (hbounds : validateDescriptorBounds d = .ok) {f : Fin 64} (hf : frameIndex? d.frameId = some f) :
    rtosShmIpcGetFrameConst P shm d =
      (P.outcome shm.calls,
        if P.outcome shm.calls = .ok then some (shm.region.framePool f) else none,
        { shm with calls := shm.calls + 1 }) := by
  simp only [rtosShmIpcGetFrameConst, hinit, hbounds, hf, RtosShm.cacheOp]
  by_cases h : P.outcome shm.calls = .ok <;> simp [h]

/-- The RX pending word is read where its invalidation succeeds. -/
theorem rtosShmIpcGetRxPendingSnapshot_snd (P : Platform) (shm : RtosShm) :
    (rtosShmIpcGetRxPendingSnapshot P shm).2.2.region = shm.region ∧
      (rtosShmIpcGetRxPendingSnapshot P shm).2.2.initialized = shm.initialized := by
  unfold rtosShmIpcGetRxPendingSnapshot
  simp only
  split_ifs <;> exact ⟨rfl, rfl⟩

end Rtos

end PutGateway
