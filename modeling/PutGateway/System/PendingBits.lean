import PutGateway.Common.RingBits
import PutGateway.Rtos.RingRuns
import PutGateway.System.Interleaving
import PutGateway.System.Liveness
/-!
# The pending bits of a running machine

Both cores look at the pending bits before they look at a ring, so a bit
that is clear hides what lies on its ring. While the cores run whole
operations one after the other no bit is ever wrong: each of the thirteen
tells whether its ring holds an entry, whatever the tasks of the RTOS and
Linux do.
-/

namespace PutGateway

namespace System

open Linux Rtos Progress

variable {P Q : Platform} {K : Clock} {q : RingId} {R : Region} {m : Machine}

/-- A valid region in which every bit tells. -/
structure Signalled (R : Region) : Prop where
  valid : R.Valid
  tells : ∀ q : RingId, (q.shared R).Tells q.bit

/-! ## One ring at a time -/

/-- An operation that leaves its own bit exact, and the other bits of its
line. -/
theorem Signalled.put (h : Signalled R) {s : SharedRing q.Entry} (hvalid : (q.put R s).Valid)
    (hs : s.Tells q.bit)
    (hothers : ∀ bit', q.bit &&& bit' = 0 → s.pending.isSet bit' = (q.shared R).pending.isSet bit') :
    Signalled (q.put R s) := by
  refine ⟨hvalid, fun q' => ?_⟩
  by_cases hq : q' = q
  · subst hq
    rw [RingId.shared_put_self]
    exact hs
  · have hring := RingId.shared_put_ring (R := R) hq s
    have hset : (q'.shared (q.put R s)).pending.isSet q'.bit = (q'.shared R).pending.isSet q'.bit :=
      RingId.isSet_put hq hothers
    have htells := h.tells q'
    unfold SharedRing.Tells at htells ⊢
    rw [hring, hset]
    exact htells

/-- **An enqueue.** -/
theorem Signalled.produce (h : Signalled R) {s : SharedRing q.Entry} {d : q.Entry}
    (hsteps : ProducerPc.steps q.bit 7 (.reading d, q.shared R) = (.idle, s))
    (hvalid : (q.put R s).Valid) : Signalled (q.put R s) := by
  have htells := ProducerPc.steps_tells q.bit_ne_zero (h.tells q) d
  rw [hsteps] at htells
  refine h.put hvalid htells fun bit' hbit => ?_
  have hothers := ProducerPc.steps_isSet hbit 7 (.reading d, q.shared R)
  rw [hsteps] at hothers
  exact hothers

/-- **A dequeue.** -/
theorem Signalled.consume (h : Signalled R) {s : SharedRing q.Entry} {verdict : Verdict}
    (hsteps : ConsumerPc.steps q.bit verdict 7 (.reading, q.shared R) = (.idle, s))
    (hvalid : (q.put R s).Valid) : Signalled (q.put R s) := by
  have htells := ConsumerPc.steps_tells (h.tells q) verdict
  rw [hsteps] at htells
  refine h.put hvalid htells fun bit' hbit => ?_
  have hothers := ConsumerPc.steps_isSet hbit verdict 7 (.reading, q.shared R)
  rw [hsteps] at hothers
  exact hothers

/-- What the bits tell does not depend on the frame pool. -/
theorem Signalled.withFramePool (h : Signalled R) (pool : Fin 64 → FrameBlock) :
    Signalled { R with framePool := pool } :=
  ⟨h.valid.withFramePool pool, fun q => by cases q <;> exact h.tells _⟩

/-! ## The RTOS -/

section

variable {shm : RtosShm}

theorem Signalled.dequeueRx (h : Signalled shm.region) (hQ : Q.Succeeds) (id : PutShmInterface) :
    Signalled (rtosShmIpcDequeueRxDescriptor Q shm id).2.2.region := by
  by_cases hinit : shm.initialized = true
  swap
  · simp only [rtosShmIpcDequeueRxDescriptor, hinit]
    exact h
  cases hi : interfaceIndex? id with
  | none =>
    simp only [rtosShmIpcDequeueRxDescriptor, hinit, hi]
    exact h
  | some i =>
    obtain rfl := interfaceIndex?_eq_some.mp hi
    have hvalid : (rtosShmIpcDequeueRxDescriptor Q shm (interfaceOfIndex i)).2.2.region.Valid := by
      obtain ⟨-, hends⟩ := rtosShmIpcDequeueRxDescriptor_cases Q h.valid hinit i
      rcases hends with ⟨-, -, hbecomes, -⟩ | ⟨d, rest, -, hbecomes, -⟩
      · exact hbecomes.valid
      · exact hbecomes.valid
    have hsteps := Interleaving.rtosDequeue_eq_steps hQ (shm.rxIo i) (h.valid.rx i)
      (h.valid.rxInterface i)
    simp only [rtosShmIpcDequeueRxDescriptor, hinit, hi] at hvalid ⊢
    exact h.consume (q := .rx i) hsteps hvalid

theorem Signalled.enqueueTx (h : Signalled shm.region) (hQ : Q.Succeeds) (id : PutShmInterface)
    (d : Descriptor) : Signalled (rtosShmIpcEnqueueTxDescriptor Q shm id d).2.region := by
  have hvalid : (rtosShmIpcEnqueueTxDescriptor Q shm id d).2.region.Valid := by
    obtain ⟨-, hends⟩ := rtosShmIpcEnqueueTxDescriptor_cases Q shm id d
    rcases hends with ⟨-, hkept | ⟨i, hroom, hkept⟩⟩ | ⟨i, -, -, -, hroom, -, -, hkept, -⟩
    · exact Region.Valid.kept h.valid hkept
    · exact (Region.becomes_stageTx h.valid (h.valid.tx_room.mp hroom) hkept).valid
    · exact (Region.becomes_publishTx h.valid (h.valid.tx_room.mp hroom) hkept).valid
  by_cases hinit : shm.initialized = true
  swap
  · simp only [rtosShmIpcEnqueueTxDescriptor, hinit]
    exact h
  cases hi : interfaceIndex? id with
  | none =>
    simp only [rtosShmIpcEnqueueTxDescriptor, hinit, hi]
    exact h
  | some i =>
    obtain rfl := interfaceIndex?_eq_some.mp hi
    by_cases hchecks : d.targetInterface = UInt8.ofNat i ∧ validateDescriptorBounds d = .ok
    swap
    · rw [(rtosShmIpcEnqueueTxDescriptor_refuses Q shm hchecks).2.2]
      exact h
    have heq := rtosShmIpcEnqueueTxDescriptor_eq (P := Q) hinit h.valid hchecks.1 hchecks.2
    rw [heq] at hvalid ⊢
    exact h.produce (q := .tx i)
      (Interleaving.publishOn_eq_steps hQ d.sealed (shm.txIo i)) hvalid

theorem Signalled.reclaimFrame (h : Signalled shm.region) (hQ : Q.Succeeds) (frameId : UInt32)
    (reason : ReclaimReason) (source target : PutShmInterface) (epoch flags : UInt32) :
    Signalled (rtosShmIpcReclaimFrame Q shm frameId reason source target epoch flags).2.region := by
  have hvalid : (rtosShmIpcReclaimFrame Q shm frameId reason source target epoch
      flags).2.region.Valid := by
    obtain ⟨-, hends⟩ :=
      rtosShmIpcReclaimFrame_cases Q shm frameId reason source target epoch flags
    rcases hends with ⟨-, hkept | ⟨hroom, hkept⟩⟩ | ⟨-, hroom, -, -, hkept, -⟩
    · exact Region.Valid.kept h.valid hkept
    · exact (Region.becomes_stageReclaim h.valid (h.valid.reclaim_room.mp hroom) hkept).valid
    · exact (Region.becomes_publishReclaim h.valid (h.valid.reclaim_room.mp hroom) hkept).valid
  unfold rtosShmIpcReclaimFrame at hvalid ⊢
  split
  · exact h
  split
  · exact h
  split
  · exact h
  next hinit hargs hring =>
  rw [if_neg hinit, if_neg hargs, if_neg hring] at hvalid
  exact h.produce (q := .reclaim) (Interleaving.publishOn_eq_steps hQ _ shm.reclaimIo) hvalid

/-- **The ring operations of the RTOS keep the bits exact.** -/
theorem signalled_ringsKeep (hQ : Q.Succeeds) : RingsKeep Q Signalled where
  dequeueRx _ id h := h.dequeueRx hQ id
  enqueueTx _ id d h := h.enqueueTx hQ id d
  reclaimFrame _ frameId reason source target epoch flags h :=
    h.reclaimFrame hQ frameId reason source target epoch flags

end

/-! ## Linux -/

section

variable {shm : LinuxShm}

theorem Signalled.enqueueRx (h : Signalled shm.region) (hP : P.Succeeds) (id : PutShmInterface)
    (d : Descriptor) : Signalled (linuxShmEnqueueRxDescriptor P shm id d).2.region := by
  have hmoved : Moved (some d) shm (linuxShmEnqueueRxDescriptor P shm id d).2 :=
    (Operation.enqueueRxDescriptor id d).moved P h.valid
  have hvalid := hmoved.valid
  unfold linuxShmEnqueueRxDescriptor at hvalid ⊢
  simp only at hvalid ⊢
  split
  · exact h
  next hinit =>
  rw [if_neg hinit] at hvalid
  cases hi : interfaceIndex? id with
  | none => exact h
  | some i =>
    obtain rfl := interfaceIndex?_eq_some.mp hi
    simp only [hi] at hvalid ⊢
    split
    · exact h
    next hring =>
    rw [if_neg hring] at hvalid
    split
    · exact h
    next hbounds =>
    rw [if_neg hbounds] at hvalid
    split
    · exact h
    next hsource =>
    rw [if_neg hsource] at hvalid
    cases hf : frameIndex? d.frameId with
    | none => exact h
    | some f =>
      simp only [hf] at hvalid ⊢
      split
      · exact h
      next howned =>
      rw [if_neg howned] at hvalid
      have hbit : interfacePendingBit (interfaceOfIndex i).toUInt8 = (RingId.rx i).bit := by
        rw [toUInt8_interfaceOfIndex]
        rfl
      rw [hbit] at hvalid ⊢
      exact h.produce (q := .rx i)
        (Interleaving.linuxEnqueue_eq_steps hP _ _ d.sealed (shm.rxIo i)) hvalid

theorem Signalled.dequeueTx (h : Signalled shm.region) (hP : P.Succeeds) (id : PutShmInterface) :
    Signalled (linuxShmDequeueTxDescriptor P shm id).2.2.region := by
  have hmoved : Moved none shm (linuxShmDequeueTxDescriptor P shm id).2.2 :=
    (Operation.dequeueTxDescriptor id).moved P h.valid
  have hvalid := hmoved.valid
  unfold linuxShmDequeueTxDescriptor at hvalid ⊢
  simp only at hvalid ⊢
  split
  · exact h
  next hinit =>
  rw [if_neg hinit] at hvalid
  cases hi : interfaceIndex? id with
  | none => exact h
  | some i =>
    obtain rfl := interfaceIndex?_eq_some.mp hi
    simp only [hi] at hvalid ⊢
    split
    · exact h
    next hring =>
    rw [if_neg hring] at hvalid
    exact h.consume (q := .tx i)
      (Interleaving.linuxDequeueTx_eq_steps hP (shm.txIo i) (h.valid.txInterface i) _) hvalid

theorem Signalled.dequeueReclaim (h : Signalled shm.region) (hP : P.Succeeds) :
    Signalled (linuxShmDequeueReclaimDescriptor P shm).2.2.region := by
  have hmoved : Moved none shm (linuxShmDequeueReclaimDescriptor P shm).2.2 :=
    Operation.dequeueReclaimDescriptor.moved P h.valid
  have hvalid := hmoved.valid
  unfold linuxShmDequeueReclaimDescriptor at hvalid ⊢
  simp only at hvalid ⊢
  split
  · exact h
  next hinit =>
  rw [if_neg hinit] at hvalid
  split
  · exact h
  next hring =>
  rw [if_neg hring] at hvalid
  exact h.consume (q := .reclaim)
    (Interleaving.linuxDequeueReclaim_eq_steps hP shm.reclaimIo) hvalid

/-- **Every operation of Linux keeps the bits exact.** -/
theorem Signalled.linux (h : Signalled shm.region) (hP : P.Succeeds) (op : Linux.Operation) :
    Signalled (op.run P shm).region := by
  cases op with
  | setInterfaceQuota | frameAlloc | frameRelease => exact h
  | fillFrame f frame => exact h.withFramePool _
  | enqueueRxDescriptor id d => exact h.enqueueRx hP id d
  | dequeueTxDescriptor id => exact h.dequeueTx hP id
  | dequeueReclaimDescriptor => exact h.dequeueReclaim hP
  | frameCommitRx c =>
    simp only [Linux.Operation.run, Commit.run, linuxShmFrameCommitRx]
    split
    · exact h
    split
    · exact h
    split
    · exact h
    split
    · exact h
    split
    · exact h
    -- the frame is flushed first, which leaves the region
    have hflushed : Signalled (shm.cacheOp P).2.region := by
      simp only [LinuxShm.cacheOp]
      split
      · exact h
      · exact h
    have hok : (shm.cacheOp P).1 = .ok := hP _
    have hsent := hflushed.enqueueRx hP c.source c.descriptor
    rw [andThen_of_ok hok]
    split
    · exact hsent
    · exact hsent

end

/-! ## Every run -/

/-- A region Linux has just formatted. -/
theorem signalled_formatRegion (linuxEpoch rtosEpoch : UInt32) :
    Signalled (formatRegion linuxEpoch rtosEpoch) := by
  have hzero : ∀ (line : PendingLine) (bit : UInt32), line.bits = 0 → line.isSet bit = false := by
    intro line bit hbits
    rw [PendingLine.isSet, hbits, UInt32.zero_and]
    rfl
  refine ⟨formatRegion_valid linuxEpoch rtosEpoch, fun q => .clear (hzero _ _ ?_) ?_⟩
  · cases q <;> rfl
  · cases q <;> rfl

theorem PoweredUp.signalled (h : PoweredUp m) : Signalled m.tasks.ipc.region := by
  obtain ⟨shm, linuxEpoch, rtosEpoch, hinit⟩ := h
  have hruntime := rtosRuntimeInit_format hinit
  subst hruntime
  exact signalled_formatRegion linuxEpoch rtosEpoch

/-- **A step of the machine keeps the bits exact.** -/
theorem Signalled.step (h : Signalled m.tasks.ipc.region) (hP : P.Succeeds) (hQ : Q.Succeeds)
    (a : Action) : Signalled (m.step P Q K a).tasks.ipc.region := by
  cases a with
  | linux op =>
    have hregion : Signalled m.gateway.shm.region := h
    exact hregion.linux hP op
  | call trigger ackResult =>
    simp only [Machine.step]
    split
    · simp only [Machine.tasks, Config.begin_tasks]
      exact h
    · exact h
  | stage =>
    simp only [Machine.step]
    split
    · exact h
    · exact (signalled_ringsKeep hQ).stage h _
  | observe sequence =>
    simp only [Machine.step]
    split
    · exact h
    · exact h

/-- The bits are exact throughout. -/
theorem signalled_of_run (hP : P.Succeeds) (hQ : Q.Succeeds) (r : Run (Machine.step P Q K))
    (hstart : PoweredUp (r.state 0)) (n : ℕ) : Signalled (r.state n).tasks.ipc.region :=
  r.always (I := fun m => Signalled m.tasks.ipc.region) hstart.signalled
    (fun _ a h => h.step hP hQ a) n

/-- **The pending bits are exact** after every step of every run: the bit
of a ring is set where the ring holds an entry, and only there. -/
theorem pending_bits_exact (hP : P.Succeeds) (hQ : Q.Succeeds) (r : Run (Machine.step P Q K))
    (hstart : PoweredUp (r.state 0)) (n : ℕ) (q : RingId) :
    q.isSet (r.state n).tasks.ipc.region = true ↔
      (q.shared (r.state n).tasks.ipc.region).ring.unread ≠ [] :=
  (signalled_of_run hP hQ r hstart n).tells q

/-- Linux takes a block and commits it; nothing happens after that. -/
def committingRun : Run (Machine.step .defaultOps .defaultOps fun _ => 0) :=
  .ofSchedule idleMachine fun n _ =>
    match n with
    | 0 => .linux (.frameAlloc 0)
    | 1 => .linux (.frameCommitRx (sampleCommit 1))
    | _ => .stage

set_option maxRecDepth 100000 in
/-- The bit of the ring the frame lies on is set. -/
theorem pending_bits_exact_committed :
    (RingId.rx 0).isSet (committingRun.state 2).tasks.ipc.region = true := by
  have hlength : 0 < ((RingId.rx 0).shared
      (committingRun.state 2).tasks.ipc.region).ring.unread.length := by
    decide +kernel
  exact (pending_bits_exact Platform.defaultOps_succeeds Platform.defaultOps_succeeds committingRun
    idleMachine_poweredUp 2 (.rx 0)).mpr (List.length_pos_iff.mp hlength)

end System

end PutGateway
