import PutGateway.Linux.Operations
import PutGateway.Rtos.ShmSpec
/-!
# Bad descriptors are contained

The region is written by the other core, so a consumer trusts nothing of
the entry it takes: not its bytes, and not how far `write_seq` is ahead.
With platform calls that succeed, each of the three dequeues takes the
entry off the ring whatever it holds; it hands over only an entry that is
sealed and in range; and Linux touches the record of a block only where
that block was queued for the interface the entry names.
-/

namespace PutGateway

/-- The fields of a descriptor that `validate_descriptor_bounds` checks
are in range. -/
structure Descriptor.InRange (d : Descriptor) : Prop where
  source : d.sourceInterface < 6
  target : d.targetInterface < 6
  frame : d.frameId < 64
  offset : d.frameOffset = d.frameId * 512
  atLeast : 40 ≤ d.frameLength
  atMost : d.frameLength ≤ 512

theorem Descriptor.InRange.of_bounds {d : Descriptor} (h : validateDescriptorBounds d = .ok) :
    d.InRange := by
  unfold validateDescriptorBounds at h
  split at h
  · cases h
  next hinterfaces =>
  split at h
  · cases h
  next hframe =>
  split at h
  · cases h
  next hoffset =>
  split at h
  · cases h
  next hlength =>
  simp only [Bool.or_eq_true, Bool.not_eq_true', not_or, Bool.not_eq_false, isInterfaceValid,
    decide_eq_true_eq] at hinterfaces hlength
  exact ⟨hinterfaces.1, hinterfaces.2, UInt32.not_le.mp hframe, not_not.mp hoffset,
    UInt16.not_lt.mp hlength.1, UInt16.not_lt.mp hlength.2⟩

namespace RingIo

variable {D σ β : Type} {P : Platform}

theorem reject_readSeq {onError onReject : σ → σ} {pendingBit : RingHeader → Except UnifiedError UInt32}
    {writeSeq : UInt32} {count : RingConsumer → RingConsumer} {e : UnifiedError} (io : RingIo D σ)
    (hcount : ∀ c, (count c).readSeq = c.readSeq) :
    (io.reject P onError pendingBit writeSeq count onReject e).2.2.ring.consumer.readSeq =
      io.ring.consumer.readSeq + 1 :=
  (reject_ring io hcount).readSeq

theorem accept_readSeq {C : Consumer D σ} {writeSeq : UInt32} {d : D} (io : RingIo D σ) :
    (io.accept P C writeSeq d).2.2.ring.consumer.readSeq = io.ring.consumer.readSeq + 1 :=
  (accept_ring io).readSeq

/-- **With calls that succeed a dequeue takes the head of a ring that is
not empty**, whatever it holds, and hands it over only where the consumer
accepts it. -/
theorem dequeue_takes (hP : P.Succeeds) (C : Consumer D σ) (io : RingIo D σ) (π : σ → β)
    (hErr : ∀ c, π (C.onError c) = π c)
    (hne : io.ring.producer.writeSeq ≠ io.ring.consumer.readSeq) :
    (io.dequeue P C).2.2.ring.consumer.readSeq = io.ring.consumer.readSeq + 1 ∧
      ((io.dequeue P C).1 = .ok → C.accepts io.core io.ring.head ∧
        (io.dequeue P C).2.1 = some io.ring.head ∧
        π (io.dequeue P C).2.2.core = π (C.onAccept io.core io.ring.head)) := by
  rcases dequeue_cases P C io π hErr with
    ⟨-, -, -, -, hempty⟩ | ⟨-, -, heq⟩ | ⟨-, -, hbad, heq⟩ | ⟨-, hcrc, hcheck, heq⟩
  · exact absurd (hempty hP).1 hne
  · -- the CRC is wrong
    rw [heq]
    refine ⟨reject_readSeq _ fun _ => rfl, fun hok => ?_⟩
    simp [reject] at hok
  · -- the checks fail
    rw [heq]
    refine ⟨reject_readSeq _ fun _ => rfl, fun hok => ?_⟩
    exact absurd hok hbad
  · -- the head is handed over
    rw [heq]
    exact ⟨accept_readSeq _, fun _ => ⟨⟨hcrc, hcheck⟩, rfl, accept_core hErr⟩⟩

end RingIo

namespace System

open Linux Rtos

variable {P : Platform} {shm : LinuxShm} {i : Fin 6}

/-- The ownership of blocks as Linux keeps it. -/
structure SameOwnership (ipc ipc' : LinuxShmIpc) : Prop where
  bitmap : ipc'.allocationBitmap = ipc.allocationBitmap
  frames : ipc'.frames = ipc.frames
  quotaUsed : ∀ i, (ipc'.stats.interfaceQuota i).used = (ipc.stats.interfaceQuota i).used
  used : ipc'.stats.framePool.used = ipc.stats.framePool.used

/-- No block but one has changed hands. -/
structure OnlyFrame (f : Fin 64) (ipc ipc' : LinuxShmIpc) : Prop where
  bits : ∀ g, g ≠ f → ipc'.isAllocated g = ipc.isAllocated g
  frames : ∀ g, g ≠ f → ipc'.frames g = ipc.frames g

/-- What the ring dequeues look at of Linux's context. -/
def ownership (ipc : LinuxShmIpc) : Pool × UInt64 := (ipc.pool, ipc.stats.framePool.used)

theorem SameOwnership.of_eq {ipc ipc' : LinuxShmIpc} (h : ownership ipc' = ownership ipc) :
    SameOwnership ipc ipc' := by
  obtain ⟨hpool, hused⟩ := Prod.mk.inj h
  exact ⟨congrArg Pool.allocationBitmap hpool, congrArg Pool.frames hpool,
    fun i => congrFun (congrArg Pool.used hpool) i, hused⟩

/-! ## Linux, from a TX ring -/

/-- A dequeue from TX ring `i` that contains what it finds. -/
structure TxContained (i : Fin 6) (shm : LinuxShm) (r : UnifiedError × Option Descriptor × LinuxShm) :
    Prop where
  advances : (r.2.2.region.txRings i).consumer.readSeq = (shm.region.txRings i).consumer.readSeq + 1
  taken : r.1 = .ok → ∃ d f, r.2.1 = some d ∧ d.InRange ∧ descriptorCrc d = d.descriptorCrc16 ∧
    d.targetInterface = UInt8.ofNat i ∧ frameIndex? d.frameId = some f ∧
    shm.ipc.isAllocated f = true ∧ (shm.ipc.frames f).state = .rxQueued ∧
    (shm.ipc.frames f).sourceInterface = d.sourceInterface ∧ OnlyFrame f shm.ipc r.2.2.ipc
  refused : r.1 ≠ .ok → SameOwnership shm.ipc r.2.2.ipc

/-- The header of a TX ring, as Linux checks it. -/
structure TxRingValid (i : Fin 6) (R : Region) : Prop where
  abi : (R.txRings i).Abi .tx .rtosToLinux
  interfaceId : (R.txRings i).header.interfaceId = UInt8.ofNat i

theorem OnlyFrame.of_put {ipc ipc' : LinuxShmIpc} {f : Fin 64} {m : FrameMeta}
    (h : ipc'.pool = ipc.pool.put f m) : OnlyFrame f ipc ipc' := by
  constructor
  · intro g _
    exact congrArg (Pool.isAllocated · g) h
  · intro g hg
    have hframes := congrFun (congrArg Pool.frames h) g
    rw [Pool.put_frames, if_neg hg] at hframes
    exact hframes

theorem OnlyFrame.of_discharge {ipc ipc' : LinuxShmIpc} {f : Fin 64}
    (h : ipc'.pool = ipc.pool.discharge f) : OnlyFrame f ipc ipc' := by
  constructor
  · intro g hg
    have hbit := congrArg (Pool.isAllocated · g) h
    simp only [Pool.isAllocated_discharge] at hbit
    rw [decide_eq_false fun heq => hg heq.symm, Bool.not_false, Bool.and_true] at hbit
    exact hbit
  · intro g hg
    have hframes := congrFun (congrArg Pool.frames h) g
    rw [Pool.discharge_frames, if_neg hg] at hframes
    exact hframes

/-- **A TX ring is drained of what it holds.** -/
theorem txContained (hP : P.Succeeds) (hinit : shm.ipc.initialized = true)
    (hring : TxRingValid i shm.region)
    (hne : (shm.region.txRings i).producer.writeSeq ≠ (shm.region.txRings i).consumer.readSeq) :
    TxContained i shm (linuxShmDequeueTxDescriptor P shm (interfaceOfIndex i)) := by
  have hvalid : validateDescriptorRing (shm.region.txRings i) .tx (interfaceOfIndex i).toUInt8
      .rtosToLinux = .ok :=
    Linux.validateDescriptorRing_eq_ok_iff.mpr
      ⟨hring.abi, hring.interfaceId.trans (toUInt8_interfaceOfIndex i).symm⟩
  have hrun : linuxShmDequeueTxDescriptor P shm (interfaceOfIndex i) =
      let r := (shm.txIo i).dequeue P (txConsumer (interfaceOfIndex i))
      (r.1, r.2.1, shm.setTxIo i r.2.2) := by
    simp [linuxShmDequeueTxDescriptor, hinit, hvalid]
  simp only [hrun]
  have htakes := RingIo.dequeue_takes hP (txConsumer (interfaceOfIndex i)) (shm.txIo i) ownership
    (fun _ => rfl) hne
  rcases RingIo.dequeue_ends P (txConsumer (interfaceOfIndex i)) (shm.txIo i) rfl
      (fun _ _ => checkTxDescriptor_ne_empty) ownership (fun _ => rfl) (fun _ => rfl)
      (fun _ => rfl) with
    ⟨-, -, -, -, hempty⟩ | ⟨-, -, hends⟩
  · exact absurd (hempty hP).1 hne
  have hadvances : ((shm.setTxIo i ((shm.txIo i).dequeue P
      (txConsumer (interfaceOfIndex i))).2.2).region.txRings i).consumer.readSeq =
      (shm.region.txRings i).consumer.readSeq + 1 := by
    refine Eq.trans ?_ htakes.1
    simp [LinuxShm.setTxIo]
  rcases hends with ⟨-, hres, -, -, hsame⟩ | ⟨hgood, hsome, hcore, hok⟩
  · exact ⟨hadvances, fun h => absurd h hres, fun _ => .of_eq hsame⟩
  · have hres := hok.mpr (RingIo.consumeSucceeds_of_succeeds hP)
    refine ⟨hadvances, fun _ => ?_, fun h => absurd hres h⟩
    obtain ⟨hbounds, htarget, f, hf, hqueued⟩ := checkTxDescriptor_eq_ok_iff.mp hgood.2
    have hpool := (congrArg Prod.fst hcore).trans (LinuxShmIpc.pool_markTxReady hf)
    exact ⟨_, f, hsome, .of_bounds hbounds, beq_iff_eq.mp hgood.1, htarget, hf, hqueued.allocated,
      hqueued.state, hqueued.source, .of_put hpool⟩

/-! ## Linux, from the reclaim ring -/

/-- A dequeue from the reclaim ring that contains what it finds. -/
structure ReclaimContained (shm : LinuxShm) (r : UnifiedError × Option ReclaimDescriptor × LinuxShm) :
    Prop where
  advances : r.2.2.region.reclaimRing.consumer.readSeq = shm.region.reclaimRing.consumer.readSeq + 1
  taken : r.1 = .ok → ∃ d f, r.2.1 = some d ∧ reclaimCrc d = d.descriptorCrc16 ∧
    d.reason ≤ ReclaimReason.queueFull.code ∧ d.frameId < 64 ∧ frameIndex? d.frameId = some f ∧
    shm.ipc.isAllocated f = true ∧ (shm.ipc.frames f).state = .rxQueued ∧
    (shm.ipc.frames f).sourceInterface = d.sourceInterface ∧
    (shm.ipc.frames f).targetInterface = d.targetInterface ∧ OnlyFrame f shm.ipc r.2.2.ipc
  refused : r.1 ≠ .ok → SameOwnership shm.ipc r.2.2.ipc

/-- **The reclaim ring is drained of what it holds.** -/
theorem reclaimContained (hP : P.Succeeds) (hinit : shm.ipc.initialized = true)
    (hring : shm.region.reclaimRing.Abi .reclaim .rtosToLinux)
    (hne : shm.region.reclaimRing.producer.writeSeq ≠ shm.region.reclaimRing.consumer.readSeq) :
    ReclaimContained shm (linuxShmDequeueReclaimDescriptor P shm) := by
  have hrun : linuxShmDequeueReclaimDescriptor P shm =
      let r := shm.reclaimIo.dequeue P reclaimConsumer
      (r.1, r.2.1, shm.setReclaimIo r.2.2) := by
    simp [linuxShmDequeueReclaimDescriptor, hinit, Linux.validateReclaimRing_eq_ok_iff.mpr hring]
  simp only [hrun]
  have htakes := RingIo.dequeue_takes hP reclaimConsumer shm.reclaimIo ownership (fun _ => rfl) hne
  rcases RingIo.dequeue_ends P reclaimConsumer shm.reclaimIo rfl
      (fun _ _ => checkReclaimDescriptor_ne_empty) ownership (fun _ => rfl) (fun _ => rfl)
      (fun _ => rfl) with
    ⟨-, -, -, -, hempty⟩ | ⟨-, -, hends⟩
  · exact absurd (hempty hP).1 hne
  rcases hends with ⟨-, hres, -, -, hsame⟩ | ⟨hgood, hsome, hcore, hok⟩
  · exact ⟨htakes.1, fun h => absurd h hres, fun _ => .of_eq hsame⟩
  · have hres := hok.mpr (RingIo.consumeSucceeds_of_succeeds hP)
    refine ⟨htakes.1, fun _ => ?_, fun h => absurd hres h⟩
    obtain ⟨hreason, f, hf, hqueued, htarget⟩ := checkReclaimDescriptor_eq_ok_iff.mp hgood.2
    have hframe : shm.reclaimIo.ring.head.frameId < 64 := frameIndex?_lt hf
    have hpool := (congrArg Prod.fst hcore).trans
      (LinuxShmIpc.pool_takeReclaim hinit hf hqueued.allocated)
    exact ⟨_, f, hsome, beq_iff_eq.mp hgood.1, hreason, hframe, hf, hqueued.allocated, hqueued.state,
      hqueued.source, htarget, .of_discharge hpool⟩

/-! ## The RTOS, from a descriptor ring -/

/-- A dequeue of the RTOS that contains what it finds. -/
structure RingContained (io : RingIo Descriptor Unit)
    (r : UnifiedError × Option Descriptor × RingIo Descriptor Unit) : Prop where
  advances : r.2.2.ring.consumer.readSeq = io.ring.consumer.readSeq + 1
  taken : r.1 = .ok → ∃ d, r.2.1 = some d ∧ d.InRange ∧ descriptorCrc d = d.descriptorCrc16 ∧
    (io.ring.header.ringKind = RingKind.rx.code ∧ d.sourceInterface = io.ring.header.interfaceId ∨
      io.ring.header.ringKind = RingKind.tx.code ∧ d.targetInterface = io.ring.header.interfaceId)

/-- An entry belongs to the interface of the ring it lies on. -/
theorem validateDescriptorRingInterface_eq_ok {header : RingHeader} {d : Descriptor}
    (h : validateDescriptorRingInterface header d = .ok) :
    header.ringKind = RingKind.rx.code ∧ d.sourceInterface = header.interfaceId ∨
      header.ringKind = RingKind.tx.code ∧ d.targetInterface = header.interfaceId := by
  unfold validateDescriptorRingInterface at h
  split at h
  next hrx =>
    split at h
    · cases h
    next hsource => exact .inl ⟨hrx, not_not.mp hsource⟩
  split at h
  next htx =>
    split at h
    · cases h
    next htarget => exact .inr ⟨htx, not_not.mp htarget⟩
  · cases h

/-- **A ring the RTOS reads is drained of what it holds.** -/
theorem ringContained (hP : P.Succeeds) {io : RingIo Descriptor Unit}
    (hring : validateOwnHeader io.ring = .ok)
    (hne : io.ring.producer.writeSeq ≠ io.ring.consumer.readSeq) :
    RingContained io (rtosShmDescriptorRingDequeue P io) := by
  have hrun : rtosShmDescriptorRingDequeue P io = io.dequeue P (ringConsumer io.ring.header) := by
    simp [rtosShmDescriptorRingDequeue, hring]
  rw [hrun]
  obtain ⟨hadvances, htaken⟩ :=
    RingIo.dequeue_takes hP (ringConsumer io.ring.header) io id (fun _ => rfl) hne
  refine ⟨hadvances, fun hok => ?_⟩
  obtain ⟨hgood, hsome, -⟩ := htaken hok
  have hcheck : checkRingDescriptor io.ring.header io.ring.head = .ok := hgood.2
  have hbounds : validateDescriptorBounds io.ring.head = .ok := by
    by_contra hbad
    rw [checkRingDescriptor, if_pos hbad] at hcheck
    exact hbad hcheck
  rw [checkRingDescriptor, if_neg (not_not.mpr hbounds)] at hcheck
  exact ⟨_, hsome, .of_bounds hbounds, beq_iff_eq.mp hgood.1,
    validateDescriptorRingInterface_eq_ok hcheck⟩

/-! ## The three together -/

/-- **Bad descriptors are contained and never wedge a ring.** -/
theorem dequeues_contained (hP : P.Succeeds) :
    (∀ (shm : LinuxShm) (i : Fin 6), shm.ipc.initialized = true → TxRingValid i shm.region →
      (shm.region.txRings i).producer.writeSeq ≠ (shm.region.txRings i).consumer.readSeq →
      TxContained i shm (linuxShmDequeueTxDescriptor P shm (interfaceOfIndex i))) ∧
    (∀ shm : LinuxShm, shm.ipc.initialized = true →
      shm.region.reclaimRing.Abi .reclaim .rtosToLinux →
      shm.region.reclaimRing.producer.writeSeq ≠ shm.region.reclaimRing.consumer.readSeq →
      ReclaimContained shm (linuxShmDequeueReclaimDescriptor P shm)) ∧
    ∀ io : RingIo Descriptor Unit, validateOwnHeader io.ring = .ok →
      io.ring.producer.writeSeq ≠ io.ring.consumer.readSeq →
      RingContained io (rtosShmDescriptorRingDequeue P io) :=
  ⟨fun _ _ => txContained hP, fun _ => reclaimContained hP, fun _ => ringContained hP⟩

/-- A region whose TX ring, reclaim ring and RX ring claim more entries
than they have, all of them zero bytes. -/
def overrunRegion : Region :=
  let ahead : RingProducer := { (formatRegion 1 1).reclaimRing.producer with writeSeq := 200 }
  let formatted := formatRegion 1 1
  { formatted with
    rxRings := fun i => { formatted.rxRings i with producer := ahead }
    txRings := fun i => { formatted.txRings i with producer := ahead }
    reclaimRing := { formatted.reclaimRing with producer := ahead } }

theorem dequeues_contained_overrun :
    TxContained 0 ⟨resetLocalState { initialized := true }, overrunRegion, 0⟩
      (linuxShmDequeueTxDescriptor ⟨fun _ => .ok⟩
        ⟨resetLocalState { initialized := true }, overrunRegion, 0⟩ (interfaceOfIndex 0)) ∧
    ReclaimContained ⟨resetLocalState { initialized := true }, overrunRegion, 0⟩
      (linuxShmDequeueReclaimDescriptor ⟨fun _ => .ok⟩
        ⟨resetLocalState { initialized := true }, overrunRegion, 0⟩) ∧
    RingContained (RtosShm.rxIo ⟨true, overrunRegion, 0⟩ 0)
      (rtosShmDescriptorRingDequeue ⟨fun _ => .ok⟩ (RtosShm.rxIo ⟨true, overrunRegion, 0⟩ 0)) := by
  have hP : Platform.Succeeds ⟨fun _ => .ok⟩ := fun _ => rfl
  refine ⟨(dequeues_contained hP).1 _ 0 rfl ?_ (by decide),
    (dequeues_contained hP).2.1 _ rfl ?_ (by decide), (dequeues_contained hP).2.2 _ ?_ (by decide)⟩
  · exact ⟨⟨rfl, rfl, rfl, rfl, rfl, rfl, rfl, rfl, rfl⟩, rfl⟩
  · exact ⟨rfl, rfl, rfl, rfl, rfl, rfl, rfl, rfl, rfl⟩
  · exact @validateOwnHeader_of_abi _ .rx .linuxToRtos (.inl rfl)
      ⟨rfl, rfl, rfl, rfl, rfl, rfl, rfl, rfl, rfl⟩

end System

end PutGateway
