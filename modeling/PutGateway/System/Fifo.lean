import PutGateway.System.Cores
/-!
# The rings as queues

The operations of the two cores on the thirteen rings, in any order. Each
core has its own implementation of its half of a ring; together they are
a bounded queue for each. An operation that puts `put` on a queue `l` and
leaves `l'` satisfies `l ++ put = taken ++ l'` (`Flow`), and over a run
what was sent is what was taken followed by what is unread, whatever the
counters were at the start.
-/

namespace PutGateway

namespace System

open Linux Rtos

/-! ## One queue -/

section

variable {D : Type} {l l' : List D} {d : D}

/-- What has left a queue that was `l` and is `l'`: the entries a
`read_seq` store has passed. -/
def takenFrom (l l' : List D) : List D := l.take (l.length - l'.length)

/-- A queue before and after an operation that puts `put` on it. Nothing
is lost, nothing overtakes, and there is no overflow. -/
structure Flow (l put l' : List D) : Prop where
  conserved : l ++ put = takenFrom l l' ++ l'
  bounded : l.length ≤ 8 → l'.length ≤ 8

theorem Flow.idle : Flow l [] l := ⟨by simp [takenFrom], id⟩

theorem Flow.put (h : l.length < 8) : Flow l [d] (l ++ [d]) := by
  refine ⟨?_, fun _ => ?_⟩
  · have hnone : l.length - (l ++ [d]).length = 0 := by
      rw [List.length_append]
      omega
    rw [takenFrom, hnone, List.take_zero, List.nil_append]
  · rw [List.length_append, List.length_singleton]
    omega

theorem Flow.take : Flow (d :: l) [] l := by
  refine ⟨?_, fun h => ?_⟩
  · have hone : (d :: l).length - l.length = 1 := by
      rw [List.length_cons]
      omega
    rw [takenFrom, hone, List.append_nil]
    rfl
  · rw [List.length_cons] at h
    omega

end

/-! ## The thirteen queues -/

/-- Empty queues. -/
def noQueues : Queues := ⟨fun _ => [], fun _ => [], []⟩

/-- Queues end to end. -/
def appendQueues (q q' : Queues) : Queues :=
  ⟨fun i => q.rx i ++ q'.rx i, fun i => q.tx i ++ q'.tx i, q.reclaim ++ q'.reclaim⟩

/-- What has left each queue. -/
def takenQueues (q q' : Queues) : Queues :=
  ⟨fun i => takenFrom (q.rx i) (q'.rx i), fun i => takenFrom (q.tx i) (q'.tx i),
    takenFrom q.reclaim q'.reclaim⟩

/-- The queues before and after an operation that puts `put` on them. -/
structure Flows (q put q' : Queues) : Prop where
  rx : ∀ i, Flow (q.rx i) (put.rx i) (q'.rx i)
  tx : ∀ i, Flow (q.tx i) (put.tx i) (q'.tx i)
  reclaim : Flow q.reclaim put.reclaim q'.reclaim

section

variable {q : Queues} {i : Fin 6} {l l' : List Descriptor} {d : Descriptor}

theorem Flows.idle : Flows q noQueues q := ⟨fun _ => .idle, fun _ => .idle, .idle⟩

theorem Flows.setRx (h : Flow (q.rx i) l l') : Flows q (noQueues.setRx i l) (q.setRx i l') := by
  refine ⟨fun j => ?_, fun _ => .idle, .idle⟩
  rw [Queues.setRx_rx, Queues.setRx_rx]
  by_cases hj : j = i
  · rw [if_pos hj, if_pos hj, hj]
    exact h
  · rw [if_neg hj, if_neg hj]
    exact .idle

theorem Flows.setTx (h : Flow (q.tx i) l l') : Flows q (noQueues.setTx i l) (q.setTx i l') := by
  refine ⟨fun _ => .idle, fun j => ?_, .idle⟩
  rw [Queues.setTx_tx, Queues.setTx_tx]
  by_cases hj : j = i
  · rw [if_pos hj, if_pos hj, hj]
    exact h
  · rw [if_neg hj, if_neg hj]
    exact .idle

theorem Flows.takeRx (h : q.rx i = d :: l) : Flows q noQueues (q.setRx i l) := by
  have hnone : noQueues.setRx i [] = noQueues :=
    congrArg (Queues.mk · _ _) (Function.update_eq_self i fun _ => [])
  rw [← hnone]
  exact .setRx (h ▸ .take)

theorem Flows.takeTx (h : q.tx i = d :: l) : Flows q noQueues (q.setTx i l) := by
  have hnone : noQueues.setTx i [] = noQueues :=
    congrArg (Queues.mk _ · _) (Function.update_eq_self i fun _ => [])
  rw [← hnone]
  exact .setTx (h ▸ .take)

theorem Flows.setReclaim {l l' : List ReclaimDescriptor} (h : Flow q.reclaim l l') :
    Flows q (noQueues.setReclaim l) (q.setReclaim l') := ⟨fun _ => .idle, fun _ => .idle, h⟩

theorem Flows.takeReclaim {d : ReclaimDescriptor} {l : List ReclaimDescriptor}
    (h : q.reclaim = d :: l) : Flows q noQueues (q.setReclaim l) :=
  .setReclaim (h ▸ .take)

end

/-! ## The two cores on one region -/

/-- The private context of Linux, and the RTOS with the region. -/
structure Link where
  linux : LinuxShmIpc
  linuxCalls : ℕ
  rtos : RtosShm

/-- What an operation of Linux works on. -/
def Link.shm (s : Link) : LinuxShm := ⟨s.linux, s.rtos.region, s.linuxCalls⟩

def Link.region (s : Link) : Region := s.rtos.region

/-- The link after an operation of Linux. -/
def Link.withShm (s : Link) (shm : LinuxShm) : Link :=
  ⟨shm.ipc, shm.calls, { s.rtos with region := shm.region }⟩

/-- A whole operation of either core. Those of Linux that touch no ring
come with the rest, since they decide which blocks it may publish. -/
inductive LinkOperation
  | linux (op : Linux.Operation)
  | dequeueRxDescriptor (id : PutShmInterface)
  | enqueueTxDescriptor (id : PutShmInterface) (d : Descriptor)
  | reclaimFrame (frameId : UInt32) (reason : ReclaimReason) (source target : PutShmInterface)
      (epoch flags : UInt32)

/-- `P` is the platform of Linux and `Q` that of the RTOS. -/
def LinkOperation.run (P Q : Platform) (s : Link) : LinkOperation → Link
  | .linux op => s.withShm (op.run P s.shm)
  | .dequeueRxDescriptor id => { s with rtos := (rtosShmIpcDequeueRxDescriptor Q s.rtos id).2.2 }
  | .enqueueTxDescriptor id d => { s with rtos := (rtosShmIpcEnqueueTxDescriptor Q s.rtos id d).2 }
  | .reclaimFrame frameId reason source target epoch flags =>
    { s with rtos := (rtosShmIpcReclaimFrame Q s.rtos frameId reason source target epoch flags).2 }

/-- One descriptor for an RX ring. -/
def sentRx (id : PutShmInterface) (d : Descriptor) : Queues :=
  match interfaceIndex? id with
  | none => noQueues
  | some i => noQueues.setRx i [d]

/-- One descriptor for a TX ring. -/
def sentTx (id : PutShmInterface) (d : Descriptor) : Queues :=
  match interfaceIndex? id with
  | none => noQueues
  | some i => noQueues.setTx i [d]

/-- What an operation has sent: the descriptor it was given, with its CRC,
where it reports success. -/
def LinkOperation.sent (P Q : Platform) (s : Link) : LinkOperation → Queues
  | .linux (.frameCommitRx c) =>
    if (c.run P s.shm).1 = .ok then sentRx c.source c.descriptor.sealed else noQueues
  | .linux (.enqueueRxDescriptor id d) =>
    if (linuxShmEnqueueRxDescriptor P s.shm id d).1 = .ok then sentRx id d.sealed else noQueues
  | .enqueueTxDescriptor id d =>
    if (rtosShmIpcEnqueueTxDescriptor Q s.rtos id d).1 = .ok then sentTx id d.sealed else noQueues
  | .reclaimFrame frameId reason source target epoch flags =>
    if (rtosShmIpcReclaimFrame Q s.rtos frameId reason source target epoch flags).1 = .ok then
      noQueues.setReclaim [(reclaimDescriptor frameId reason source target epoch flags).sealed]
    else noQueues
  | _ => noQueues

/-- The states a run reaches from `s₀`, with what it has sent on each ring
and taken off it. -/
inductive Exchanges (P Q : Platform) (s₀ : Link) : Queues → Queues → Link → Prop
  | start : Exchanges P Q s₀ noQueues noQueues s₀
  | step {sent taken s} (h : Exchanges P Q s₀ sent taken s) (op : LinkOperation) :
      Exchanges P Q s₀ (appendQueues sent (op.sent P Q s))
        (appendQueues taken (takenQueues s.region.view (op.run P Q s).region.view)) (op.run P Q s)

/-- Both cores are attached to a valid region. -/
structure Attached (s : Link) : Prop where
  linux : s.linux.initialized = true
  rtos : s.rtos.initialized = true
  valid : s.region.Valid

variable {P Q : Platform} {s s₀ : Link} {sent taken : Queues} {i : Fin 6}

/-! ## The operations -/

/-- An operation of Linux that has no descriptor to publish. -/
theorem flows_of_poolMove {p p' : Pool} {q q' : Queues} (h : PoolMove none p q p' q') :
    Flows q noQueues q' := by
  cases h with
  | idle | claim | release => exact .idle
  | publish hb => cases hb
  | dropTx htx | takeTx htx => exact .takeTx htx
  | dropReclaim hr | takeReclaim hr => exact .takeReclaim hr

/-- An operation of Linux that has not published. -/
private theorem flows_of_staged {R R' : Region} {d : Descriptor} (hv : R.Valid)
    (h : R.Kept R' ∨ ∃ i, (R.rxRings i).used < (R.rxRings i).producer.depth ∧
      (R.stageRx i d).Kept R') : Flows R.view noQueues R'.view := by
  have hview : R'.view = R.view := by
    rcases h with hkept | ⟨i, hroom, hkept⟩
    · exact hkept.view
    · exact (Region.becomes_stageRx hv (hv.rx_room.mp hroom) hkept).view
  exact hview ▸ .idle

/-- An operation of Linux that has published. -/
private theorem flows_of_published {R R' : Region} {d : Descriptor} {id : PutShmInterface}
    (hv : R.Valid) (hi : interfaceIndex? id = some i)
    (hroom : (R.rxRings i).used < (R.rxRings i).producer.depth)
    (hkept : (R.publishRx i d).Kept R') : Flows R.view (sentRx id d) R'.view := by
  have hroom' := hv.rx_room.mp hroom
  rw [(Region.becomes_publishRx hv hroom' hkept).view]
  simp only [sentRx, hi]
  exact .setRx (.put hroom')

/-- The operations of Linux that publish nothing. -/
private theorem Attached.flows_unpublished (h : Attached s) {op : Linux.Operation}
    (hop : op.descriptor? = none) :
    Flows s.region.view noQueues (op.run P s.shm).region.view := by
  have hmoved : Moved op.descriptor? s.shm (op.run P s.shm) := op.moved P h.valid
  rw [hop] at hmoved
  exact flows_of_poolMove hmoved.move

theorem Attached.flows_linux (h : Attached s) (op : Linux.Operation) :
    Flows s.region.view (LinkOperation.sent P Q s (.linux op)) (op.run P s.shm).region.view := by
  cases op with
  | frameCommitRx c =>
    rcases linuxShmFrameCommitRx_cases P s.shm c with
      ⟨hres, -, hregion⟩ | ⟨hok, i, f, hi, -, -, -, -, -, -, hroom, hregion, -⟩
    · simp only [LinkOperation.sent, if_neg hres]
      exact flows_of_staged h.valid hregion
    · simp only [LinkOperation.sent, if_pos hok]
      exact flows_of_published h.valid hi hroom hregion
  | enqueueRxDescriptor id d =>
    rcases linuxShmEnqueueRxDescriptor_cases P s.shm id d with
      ⟨hres, -, hregion⟩ | ⟨hok, i, f, hi, -, -, -, -, -, -, hroom, hregion, -⟩
    · simp only [LinkOperation.sent, if_neg hres]
      exact flows_of_staged h.valid hregion
    · simp only [LinkOperation.sent, if_pos hok]
      exact flows_of_published h.valid hi hroom hregion
  | setInterfaceQuota | frameAlloc | fillFrame | frameRelease | dequeueTxDescriptor |
    dequeueReclaimDescriptor => exact h.flows_unpublished rfl

theorem Attached.dequeueRx (h : Attached s) (id : PutShmInterface) :
    let r := rtosShmIpcDequeueRxDescriptor Q s.rtos id
    r.2.2.initialized = true ∧ r.2.2.region.Valid ∧ Flows s.region.view noQueues r.2.2.region.view := by
  cases hi : interfaceIndex? id with
  | none =>
    simp only [rtosShmIpcDequeueRxDescriptor, h.rtos, hi]
    exact ⟨h.rtos, h.valid, .idle⟩
  | some i =>
    obtain rfl := interfaceIndex?_eq_some.mp hi
    obtain ⟨hinit, hends⟩ := rtosShmIpcDequeueRxDescriptor_cases Q h.valid h.rtos i
    refine ⟨hinit, ?_⟩
    rcases hends with ⟨-, -, hbecomes, -⟩ | ⟨d, rest, hrx, hbecomes, -⟩
    · exact ⟨hbecomes.valid, hbecomes.view.symm ▸ .idle⟩
    · exact ⟨hbecomes.valid, hbecomes.view.symm ▸ .takeRx hrx⟩

theorem Attached.enqueueTx (h : Attached s) (hQ : Q.Succeeds) (id : PutShmInterface)
    (d : Descriptor) :
    let r := rtosShmIpcEnqueueTxDescriptor Q s.rtos id d
    r.2.initialized = true ∧ r.2.region.Valid ∧
      Flows s.region.view (LinkOperation.sent P Q s (.enqueueTxDescriptor id d)) r.2.region.view := by
  obtain ⟨hinit, hends⟩ := rtosShmIpcEnqueueTxDescriptor_cases Q s.rtos id d
  refine ⟨hinit.trans h.rtos, ?_⟩
  rcases hends with ⟨hres, hkept | ⟨i, hroom, hkept⟩⟩ | ⟨i, rfl, -, -, hroom, -, -, hkept, hok⟩
  · simp only [LinkOperation.sent, if_neg hres]
    exact ⟨Region.Valid.kept h.valid hkept, hkept.view.symm ▸ .idle⟩
  · have hbecomes := Region.becomes_stageTx h.valid (h.valid.tx_room.mp hroom) hkept
    simp only [LinkOperation.sent, if_neg hres]
    exact ⟨hbecomes.valid, hbecomes.view.symm ▸ .idle⟩
  · have hroom' := h.valid.tx_room.mp hroom
    have hbecomes := Region.becomes_publishTx h.valid hroom' hkept
    simp only [LinkOperation.sent, if_pos (hok.mpr ⟨hQ _, hQ _, hQ _⟩), sentTx,
      interfaceIndex?_interfaceOfIndex]
    exact ⟨hbecomes.valid, hbecomes.view.symm ▸ .setTx (.put hroom')⟩

theorem Attached.reclaimFrame (h : Attached s) (hQ : Q.Succeeds) (frameId : UInt32)
    (reason : ReclaimReason) (source target : PutShmInterface) (epoch flags : UInt32) :
    let r := rtosShmIpcReclaimFrame Q s.rtos frameId reason source target epoch flags
    r.2.initialized = true ∧ r.2.region.Valid ∧
      Flows s.region.view
        (LinkOperation.sent P Q s (.reclaimFrame frameId reason source target epoch flags))
        r.2.region.view := by
  obtain ⟨hinit, hends⟩ :=
    rtosShmIpcReclaimFrame_cases Q s.rtos frameId reason source target epoch flags
  refine ⟨hinit.trans h.rtos, ?_⟩
  rcases hends with ⟨hres, hkept | ⟨hroom, hkept⟩⟩ | ⟨-, hroom, -, -, hkept, hok⟩
  · simp only [LinkOperation.sent, if_neg hres]
    exact ⟨Region.Valid.kept h.valid hkept, hkept.view.symm ▸ .idle⟩
  · have hbecomes := Region.becomes_stageReclaim h.valid (h.valid.reclaim_room.mp hroom) hkept
    simp only [LinkOperation.sent, if_neg hres]
    exact ⟨hbecomes.valid, hbecomes.view.symm ▸ .idle⟩
  · have hroom' := h.valid.reclaim_room.mp hroom
    have hbecomes := Region.becomes_publishReclaim h.valid hroom' hkept
    simp only [LinkOperation.sent, if_pos (hok.mpr ⟨hQ _, hQ _, hQ _⟩)]
    exact ⟨hbecomes.valid, hbecomes.view.symm ▸ .setReclaim (.put hroom')⟩

/-- **Every operation conserves what is on the rings.** -/
theorem Attached.flows (h : Attached s) (hQ : Q.Succeeds) (op : LinkOperation) :
    Attached (op.run P Q s) ∧ Flows s.region.view (op.sent P Q s) (op.run P Q s).region.view := by
  cases op with
  | linux op =>
    have hmoved : Moved op.descriptor? s.shm (op.run P s.shm) := op.moved P h.valid
    have hinit : (op.run P s.shm).ipc.initialized = true := hmoved.move.initialized.trans h.linux
    exact ⟨⟨hinit, h.rtos, hmoved.valid⟩, h.flows_linux op⟩
  | dequeueRxDescriptor id =>
    obtain ⟨hinit, hvalid, hflows⟩ := h.dequeueRx (Q := Q) id
    exact ⟨⟨h.linux, hinit, hvalid⟩, hflows⟩
  | enqueueTxDescriptor id d =>
    obtain ⟨hinit, hvalid, hflows⟩ := h.enqueueTx (P := P) hQ id d
    exact ⟨⟨h.linux, hinit, hvalid⟩, hflows⟩
  | reclaimFrame frameId reason source target epoch flags =>
    obtain ⟨hinit, hvalid, hflows⟩ :=
      h.reclaimFrame (P := P) hQ frameId reason source target epoch flags
    exact ⟨⟨h.linux, hinit, hvalid⟩, hflows⟩

/-! ## What an operation answers -/

section

variable {D : Type} {r r' : Ring D} {e : UnifiedError} {out : Option D} {d : D} {rest : List D}
  {ready : Prop}

theorem used_eq_zero_iff : r.used = 0 ↔ r.unread = [] := by
  rw [← List.length_eq_zero_iff, Ring.length_unread]
  exact UInt32.toNat_inj.symm

theorem used_eq_depth_iff : r.used = putShmDescriptorRingDepth.toUInt32 ↔ r.unread.length = 8 := by
  rw [Ring.length_unread]
  exact UInt32.toNat_inj.symm

theorem used_lt_depth_iff : r.used < putShmDescriptorRingDepth.toUInt32 ↔ r.unread.length < 8 := by
  rw [Ring.length_unread]
  exact UInt32.lt_iff_toNat_lt

/-- What an enqueue answers: it reports a full ring where it is ready and
the occupancy is the depth, and success where it is ready and it is not. -/
structure EnqueueAnswer (ready : Prop) (r : Ring D) (e : UnifiedError) : Prop where
  full : e = .ipcQueueFull ↔ ready ∧ r.used = putShmDescriptorRingDepth.toUInt32
  ok : e = .ok ↔ ready ∧ r.used < putShmDescriptorRingDepth.toUInt32

/-- What a dequeue answers: it reports an empty ring where the occupancy
is zero, it takes the head of any other, and it hands over what it takes
where it reports success. -/
structure DequeueAnswer (r : Ring D) (e : UnifiedError) (out : Option D) (r' : Ring D) : Prop where
  empty : e = .ipcQueueEmpty ↔ r.used = 0
  taken : r'.unread = r.unread.tail
  handed : e = .ok → out = r.unread.head?

theorem EnqueueAnswer.of_cases (hbound : r.unread.length ≤ 8)
    (h : (¬ ready ∧ e ≠ .ok ∧ e ≠ .ipcQueueFull) ∨
      (ready ∧ 8 ≤ r.unread.length ∧ e = .ipcQueueFull) ∨
      (ready ∧ r.unread.length < 8 ∧ e = .ok)) : EnqueueAnswer ready r e := by
  rcases h with ⟨hready, hok, hfull⟩ | ⟨hready, hlen, rfl⟩ | ⟨hready, hlen, rfl⟩
  · exact ⟨by simp [hready, hfull], by simp [hready, hok]⟩
  · have heq : r.unread.length = 8 := by omega
    have hnot : ¬ r.unread.length < 8 := by omega
    exact ⟨by simp [hready, used_eq_depth_iff, heq], by simp [used_lt_depth_iff, hnot]⟩
  · have hne : r.unread.length ≠ 8 := by omega
    exact ⟨by simp [used_eq_depth_iff, hne], by simp [hready, used_lt_depth_iff, hlen]⟩

theorem DequeueAnswer.of_empty (h : r.unread = []) (h' : r'.unread = r.unread)
    (he : e = .ipcQueueEmpty) : DequeueAnswer r e out r' := by
  refine ⟨by simp [used_eq_zero_iff, h, he], ?_, by simp [he]⟩
  rw [h', h]
  rfl

theorem DequeueAnswer.of_taken (h : r.unread = d :: rest) (h' : r'.unread = rest)
    (he : e ≠ .ipcQueueEmpty) (hout : e = .ok → out = some d) : DequeueAnswer r e out r' := by
  refine ⟨by simp [used_eq_zero_iff, h, he], ?_, ?_⟩
  · rw [h', h]
    rfl
  · rw [h]
    exact hout

end

/-- A reclaim that names a frame and two interfaces. -/
def ReclaimReady (frameId : UInt32) (source target : PutShmInterface) : Prop :=
  frameId < 64 ∧ isInterfaceValid source.toUInt8 = true ∧ isInterfaceValid target.toUInt8 = true

/-- What the operations answer on each ring. -/
structure Answers (P Q : Platform) (s : Link) : Prop where
  enqueueRx : ∀ i d, EnqueueAnswer (RxReady i s.linux.pool d) (s.region.rxRings i)
    (linuxShmEnqueueRxDescriptor P s.shm (interfaceOfIndex i) d).1
  dequeueRx : ∀ i, let r := rtosShmIpcDequeueRxDescriptor Q s.rtos (interfaceOfIndex i)
    DequeueAnswer (s.region.rxRings i) r.1 r.2.1 (r.2.2.region.rxRings i)
  enqueueTx : ∀ i d,
    EnqueueAnswer (d.targetInterface = UInt8.ofNat i.val ∧ validateDescriptorBounds d = .ok)
      (s.region.txRings i) (rtosShmIpcEnqueueTxDescriptor Q s.rtos (interfaceOfIndex i) d).1
  dequeueTx : ∀ i, let r := linuxShmDequeueTxDescriptor P s.shm (interfaceOfIndex i)
    DequeueAnswer (s.region.txRings i) r.1 r.2.1 (r.2.2.region.txRings i)
  reclaimFrame : ∀ frameId reason source target epoch flags,
    EnqueueAnswer (ReclaimReady frameId source target) s.region.reclaimRing
      (rtosShmIpcReclaimFrame Q s.rtos frameId reason source target epoch flags).1
  dequeueReclaim : let r := linuxShmDequeueReclaimDescriptor P s.shm
    DequeueAnswer s.region.reclaimRing r.1 r.2.1 r.2.2.region.reclaimRing

theorem Attached.answer_enqueueTx (h : Attached s) (hQ : Q.Succeeds) (hb : s.region.Bounded) (i : Fin 6)
    (d : Descriptor) :
    EnqueueAnswer (d.targetInterface = UInt8.ofNat i ∧ validateDescriptorBounds d = .ok)
      (s.region.txRings i) (rtosShmIpcEnqueueTxDescriptor Q s.rtos (interfaceOfIndex i) d).1 := by
  refine .of_cases (hb.tx i) ?_
  by_cases hready : d.targetInterface = UInt8.ofNat i ∧ validateDescriptorBounds d = .ok
  · rcases rtosShmIpcEnqueueTxDescriptor_succeeds hQ h.rtos h.valid hready.1 hready.2 with
      ⟨hlen, hres, -⟩ | ⟨hlen, hres, -⟩
    · exact .inr (.inl ⟨hready, hlen, hres⟩)
    · exact .inr (.inr ⟨hready, hlen, hres⟩)
  · obtain ⟨hok, hfull, -⟩ := rtosShmIpcEnqueueTxDescriptor_refuses Q s.rtos hready
    exact .inl ⟨hready, hok, hfull⟩

theorem Attached.answer_reclaimFrame (h : Attached s) (hQ : Q.Succeeds) (hb : s.region.Bounded)
    (frameId : UInt32) (reason : ReclaimReason) (source target : PutShmInterface)
    (epoch flags : UInt32) :
    EnqueueAnswer (ReclaimReady frameId source target) s.region.reclaimRing
      (rtosShmIpcReclaimFrame Q s.rtos frameId reason source target epoch flags).1 := by
  refine .of_cases hb.reclaim ?_
  by_cases hready : ReclaimReady frameId source target
  · rcases rtosShmIpcReclaimFrame_succeeds hQ h.rtos h.valid hready.1 hready.2.1 hready.2.2 reason
      epoch flags with ⟨hlen, hres, -⟩ | ⟨hlen, hres, -⟩
    · exact .inr (.inl ⟨hready, hlen, hres⟩)
    · exact .inr (.inr ⟨hready, hlen, hres⟩)
  · obtain ⟨hok, hfull, -⟩ := rtosShmIpcReclaimFrame_refuses Q s.rtos hready reason epoch flags
    exact .inl ⟨hready, hok, hfull⟩

theorem Attached.answer_dequeueRx (h : Attached s) (hQ : Q.Succeeds) (i : Fin 6) :
    let r := rtosShmIpcDequeueRxDescriptor Q s.rtos (interfaceOfIndex i)
    DequeueAnswer (s.region.rxRings i) r.1 r.2.1 (r.2.2.region.rxRings i) := by
  obtain ⟨-, hends⟩ := rtosShmIpcDequeueRxDescriptor_cases Q h.valid h.rtos i
  rcases hends with ⟨-, -, hbecomes, hempty⟩ | ⟨d, rest, hrx, hbecomes, hends⟩
  · obtain ⟨hnil, he⟩ := hempty hQ
    exact .of_empty hnil (congrArg (Queues.rx · i) hbecomes.view) he
  have hrest : (s.region.view.setRx i rest).rx i = rest := Queues.setRx_rx_same
  have hunread := (congrArg (Queues.rx · i) hbecomes.view).trans hrest
  rcases hends with ⟨-, hok, hempty, -⟩ | ⟨-, hsome, hok⟩
  · exact .of_taken hrx hunread hempty fun he => absurd he hok
  · have he := hok.mpr (takeCallsSucceed_of_succeeds hQ)
    exact .of_taken hrx hunread (by simp [he]) fun _ => hsome

theorem Attached.answer_dequeueTx (h : Attached s) (hP : P.Succeeds) (i : Fin 6) :
    let r := linuxShmDequeueTxDescriptor P s.shm (interfaceOfIndex i)
    DequeueAnswer (s.region.txRings i) r.1 r.2.1 (r.2.2.region.txRings i) := by
  have hv : s.shm.region.Valid := h.valid
  rcases linuxShmDequeueTxDescriptor_cases P hv h.linux i with
    ⟨-, -, -, hbecomes, hempty⟩ | ⟨d, rest, htx, hbecomes, hends⟩
  · obtain ⟨hnil, he⟩ := hempty hP
    exact .of_empty hnil (congrArg (Queues.tx · i) hbecomes.view) he
  have hrest : (s.shm.region.view.setTx i rest).tx i = rest := Queues.setTx_tx_same
  have hunread := (congrArg (Queues.tx · i) hbecomes.view).trans hrest
  rcases hends with ⟨-, hok, hempty, -⟩ | ⟨-, hsome, -, hok⟩
  · exact .of_taken htx hunread hempty fun he => absurd he hok
  · have he := hok hP
    exact .of_taken htx hunread (by simp [he]) fun _ => hsome

theorem Attached.answer_dequeueReclaim (h : Attached s) (hP : P.Succeeds) :
    let r := linuxShmDequeueReclaimDescriptor P s.shm
    DequeueAnswer s.region.reclaimRing r.1 r.2.1 r.2.2.region.reclaimRing := by
  have hv : s.shm.region.Valid := h.valid
  rcases linuxShmDequeueReclaimDescriptor_cases P hv h.linux with
    ⟨-, -, -, hbecomes, hempty⟩ | ⟨d, rest, hr, hbecomes, hends⟩
  · obtain ⟨hnil, he⟩ := hempty hP
    exact .of_empty hnil (congrArg Queues.reclaim hbecomes.view) he
  have hunread := congrArg Queues.reclaim hbecomes.view
  rcases hends with ⟨-, hok, hempty, -⟩ | ⟨-, hsome, -, hok⟩
  · exact .of_taken hr hunread hempty fun he => absurd he hok
  · have he := hok hP
    exact .of_taken hr hunread (by simp [he]) fun _ => hsome

/-- **Full is full and empty is empty**: what the operations answer is
decided by the occupancy of the ring. -/
theorem Attached.answers (h : Attached s) (hP : P.Succeeds) (hQ : Q.Succeeds)
    (hb : s.region.Bounded) : Answers P Q s where
  enqueueRx i d := by
    have hv : s.shm.region.Valid := h.valid
    exact .of_cases (hb.rx i) (linuxShmEnqueueRxDescriptor_succeeds hP h.linux hv i d)
  dequeueRx := h.answer_dequeueRx hQ
  enqueueTx := h.answer_enqueueTx hQ hb
  dequeueTx := h.answer_dequeueTx hP
  reclaimFrame := h.answer_reclaimFrame hQ hb
  dequeueReclaim := h.answer_dequeueReclaim hP

/-! ## What a consumer refuses -/

/-- Descriptors whose CRC, bounds and interface the consumer of their ring
accepts. -/
structure Whole (q : Queues) : Prop where
  rx : ∀ i, ∀ d ∈ q.rx i, Acceptable i d
  tx : ∀ i, ∀ d ∈ q.tx i, WellFormedTx i d
  reclaim : ∀ d ∈ q.reclaim, WellFormedReclaim d

theorem Whole.none : Whole noQueues := by
  refine ⟨fun i d hd => ?_, fun i d hd => ?_, fun d hd => ?_⟩ <;> cases hd

theorem Whole.append {q q' : Queues} (h : Whole q) (h' : Whole q') : Whole (appendQueues q q') := by
  refine ⟨fun i d hd => ?_, fun i d hd => ?_, fun d hd => ?_⟩
  · exact (List.mem_append.mp hd).elim (h.rx i d) (h'.rx i d)
  · exact (List.mem_append.mp hd).elim (h.tx i d) (h'.tx i d)
  · exact (List.mem_append.mp hd).elim (h.reclaim d) (h'.reclaim d)

theorem Whole.sentRx {id : PutShmInterface} {d : Descriptor}
    (hbounds : validateDescriptorBounds d = .ok)
    (hsource : d.sourceInterface = id.toUInt8) : Whole (sentRx id d.sealed) := by
  cases hi : interfaceIndex? id with
  | none =>
    simp only [System.sentRx, hi]
    exact .none
  | some i =>
    simp only [System.sentRx, hi]
    refine ⟨fun j e he => ?_, Whole.none.tx, Whole.none.reclaim⟩
    rw [Queues.setRx_rx] at he
    by_cases hj : j = i
    · rw [if_pos hj] at he
      obtain rfl := List.mem_singleton.mp he
      obtain rfl := hj
      refine ⟨descriptorCrc_sealed d, by simp [hbounds], ?_⟩
      simp [hsource, interfaceIndex?_eq_some.mp hi, toUInt8_interfaceOfIndex]
    · rw [if_neg hj] at he
      exact Whole.none.rx j e he

theorem Whole.sentTx {d : Descriptor} (hbounds : validateDescriptorBounds d = .ok)
    (htarget : d.targetInterface = UInt8.ofNat i) :
    Whole (sentTx (interfaceOfIndex i) d.sealed) := by
  simp only [System.sentTx, interfaceIndex?_interfaceOfIndex]
  refine ⟨Whole.none.rx, fun j e he => ?_, Whole.none.reclaim⟩
  rw [Queues.setTx_tx] at he
  by_cases hj : j = i
  · rw [if_pos hj] at he
    obtain rfl := List.mem_singleton.mp he
    obtain rfl := hj
    exact ⟨descriptorCrc_sealed d, by simp [hbounds], by simp [htarget]⟩
  · rw [if_neg hj] at he
    exact Whole.none.tx j e he

/-- **What a core sends, the other accepts**, as far as the descriptor
decides it. -/
theorem LinkOperation.whole_sent (op : LinkOperation) : Whole (op.sent P Q s) := by
  match op with
  | .linux (.frameCommitRx c) =>
    simp only [LinkOperation.sent]
    rcases linuxShmFrameCommitRx_cases P s.shm c with
      ⟨hres, -⟩ | ⟨hok, i, f, -, -, -, hbounds, -⟩
    · rw [if_neg hres]
      exact .none
    · rw [if_pos hok]
      exact .sentRx hbounds rfl
  | .linux (.enqueueRxDescriptor id d) =>
    simp only [LinkOperation.sent]
    rcases linuxShmEnqueueRxDescriptor_cases P s.shm id d with
      ⟨hres, -⟩ | ⟨hok, i, f, -, -, hsource, hbounds, -⟩
    · rw [if_neg hres]
      exact .none
    · rw [if_pos hok]
      exact .sentRx hbounds hsource
  | .enqueueTxDescriptor id d =>
    simp only [LinkOperation.sent]
    rcases (rtosShmIpcEnqueueTxDescriptor_cases Q s.rtos id d).2 with
      ⟨hres, -⟩ | ⟨i, rfl, htarget, hbounds, -⟩
    · rw [if_neg hres]
      exact .none
    · rw [toUInt8_interfaceOfIndex] at htarget
      split
      · exact .sentTx hbounds htarget
      · exact .none
  | .reclaimFrame frameId reason source target epoch flags =>
    simp only [LinkOperation.sent]
    split
    · refine ⟨Whole.none.rx, Whole.none.tx, fun d hd => ?_⟩
      -- the sealed request carries its checksum and a reason of the range
      obtain rfl := List.mem_singleton.mp hd
      refine ⟨reclaimCrc_sealed _, ?_⟩
      rw [ReclaimDescriptor.reason_sealed]
      exact ReclaimReason.code_le reason
    · exact .none
  | .linux (.setInterfaceQuota ..) | .linux (.frameAlloc ..) | .linux (.fillFrame ..) |
    .linux (.frameRelease ..) | .linux (.dequeueTxDescriptor ..) |
    .linux .dequeueReclaimDescriptor | .dequeueRxDescriptor .. => exact .none

/-- The block of a reclaim descriptor is the one Linux has queued for the
interfaces it names. -/
def Returned (p : Pool) (d : ReclaimDescriptor) : Prop :=
  ∃ f, frameIndex? d.frameId = some f ∧ p.Queued f d.sourceInterface ∧
    (p.frames f).targetInterface = d.targetInterface

/-- The block of a TX descriptor is one Linux has queued for the source it
names. -/
def Forwarded (p : Pool) (d : Descriptor) : Prop :=
  ∃ f, frameIndex? d.frameId = some f ∧ p.Queued f d.sourceInterface

/-- Which dequeues succeed. The RTOS refuses no entry, and Linux only one
whose block it has not handed to the RTOS. -/
structure Handover (P Q : Platform) (s : Link) : Prop where
  rx : ∀ i, (rtosShmIpcDequeueRxDescriptor Q s.rtos (interfaceOfIndex i)).1 = .ok ↔
    (s.region.rxRings i).used ≠ 0
  tx : ∀ i, (linuxShmDequeueTxDescriptor P s.shm (interfaceOfIndex i)).1 = .ok ↔
    ∃ d ∈ (s.region.txRings i).unread.head?, Forwarded s.linux.pool d
  reclaim : (linuxShmDequeueReclaimDescriptor P s.shm).1 = .ok ↔
    ∃ d ∈ s.region.reclaimRing.unread.head?, Returned s.linux.pool d

theorem Attached.handover_rx (h : Attached s) (hQ : Q.Succeeds)
    (hwhole : ∀ d ∈ s.region.view.rx i, Acceptable i d) :
    (rtosShmIpcDequeueRxDescriptor Q s.rtos (interfaceOfIndex i)).1 = .ok ↔
      (s.region.rxRings i).used ≠ 0 := by
  rw [ne_eq, used_eq_zero_iff]
  rcases (rtosShmIpcDequeueRxDescriptor_cases Q h.valid h.rtos i).2 with
    ⟨hres, -, -, hempty⟩ | ⟨d, rest, hrx, -, hends⟩
  · have hnil : (s.region.rxRings i).unread = [] := (hempty hQ).1
    simp [hres, hnil]
  · have hcons : (s.region.rxRings i).unread = d :: rest := hrx
    have hgood : Acceptable i d := hwhole d (hrx ▸ List.mem_cons_self)
    rcases hends with ⟨hbad, -⟩ | ⟨-, -, hok⟩
    · exact absurd hgood hbad
    · simp [hcons, hok.mpr (takeCallsSucceed_of_succeeds hQ)]

theorem Attached.handover_tx (h : Attached s) (hP : P.Succeeds)
    (hwhole : ∀ d ∈ s.region.view.tx i, WellFormedTx i d) :
    (linuxShmDequeueTxDescriptor P s.shm (interfaceOfIndex i)).1 = .ok ↔
      ∃ d ∈ (s.region.txRings i).unread.head?, Forwarded s.linux.pool d := by
  have hv : s.shm.region.Valid := h.valid
  rcases linuxShmDequeueTxDescriptor_cases P hv h.linux i with
    ⟨hres, -, -, -, hempty⟩ | ⟨d, rest, htx, -, hends⟩
  · have hnil : (s.region.txRings i).unread = [] := (hempty hP).1
    simp [hres, hnil]
  · have hcons : (s.region.txRings i).unread = d :: rest := htx
    have hgood : WellFormedTx i d := hwhole d (htx ▸ List.mem_cons_self)
    have haccepted : TxAccepted i s.linux d ↔ Forwarded s.linux.pool d := by
      constructor
      · intro hacc
        obtain ⟨f, htakes⟩ := txAccepted_iff.mp hacc
        exact ⟨f, htakes.frame, htakes.queued⟩
      · rintro ⟨f, hf, hqueued⟩
        exact txAccepted_iff.mpr ⟨f, hgood.crc, hgood.bounds, hgood.target, hf, hqueued⟩
    rw [hcons]
    simp only [List.head?_cons, Option.mem_some_iff, exists_eq_left', ← haccepted]
    rcases hends with ⟨hbad, hres, -⟩ | ⟨hacc, -, -, hok⟩
    · exact ⟨fun hres' => absurd hres' hres, fun hacc => absurd hacc hbad⟩
    · exact ⟨fun _ => hacc, fun _ => hok hP⟩

theorem Attached.handover_reclaim (h : Attached s) (hP : P.Succeeds)
    (hwhole : ∀ d ∈ s.region.view.reclaim, WellFormedReclaim d) :
    (linuxShmDequeueReclaimDescriptor P s.shm).1 = .ok ↔
      ∃ d ∈ s.region.reclaimRing.unread.head?, Returned s.linux.pool d := by
  have hv : s.shm.region.Valid := h.valid
  rcases linuxShmDequeueReclaimDescriptor_cases P hv h.linux with
    ⟨hres, -, -, -, hempty⟩ | ⟨d, rest, hr, -, hends⟩
  · have hnil : s.region.reclaimRing.unread = [] := (hempty hP).1
    simp [hres, hnil]
  · have hcons : s.region.reclaimRing.unread = d :: rest := hr
    have hgood : WellFormedReclaim d := hwhole d (hr ▸ List.mem_cons_self)
    have haccepted : ReclaimAccepted s.linux d ↔ Returned s.linux.pool d := by
      constructor
      · intro hacc
        obtain ⟨f, htakes⟩ := reclaimAccepted_iff.mp hacc
        exact ⟨f, htakes.frame, htakes.queued, htakes.target⟩
      · rintro ⟨f, hf, hqueued, htarget⟩
        exact reclaimAccepted_iff.mpr ⟨f, hgood.crc, hgood.reason, hf, hqueued, htarget⟩
    rw [hcons]
    simp only [List.head?_cons, Option.mem_some_iff, exists_eq_left', ← haccepted]
    rcases hends with ⟨hbad, hres, -⟩ | ⟨hacc, -, -, hok⟩
    · exact ⟨fun hres' => absurd hres' hres, fun hacc => absurd hacc hbad⟩
    · exact ⟨fun _ => hacc, fun _ => hok hP⟩

theorem Attached.handover (h : Attached s) (hP : P.Succeeds) (hQ : Q.Succeeds)
    (hwhole : Whole s.region.view) : Handover P Q s where
  rx i := h.handover_rx hQ (hwhole.rx i)
  tx i := h.handover_tx hP (hwhole.tx i)
  reclaim := h.handover_reclaim hP hwhole.reclaim

/-! ## Runs -/

/-- The counters of every ring agree, whatever they are. -/
structure AtRest (R : Region) : Prop where
  rx : ∀ i, (R.rxRings i).producer.writeSeq = (R.rxRings i).consumer.readSeq
  tx : ∀ i, (R.txRings i).producer.writeSeq = (R.txRings i).consumer.readSeq
  reclaim : R.reclaimRing.producer.writeSeq = R.reclaimRing.consumer.readSeq

theorem AtRest.view {R : Region} (h : AtRest R) : R.view = noQueues := by
  ext1
  · funext i
    exact Ring.unread_eq_nil_iff.mpr (h.rx i)
  · funext i
    exact Ring.unread_eq_nil_iff.mpr (h.tx i)
  · exact Ring.unread_eq_nil_iff.mpr h.reclaim

/-- A ring over a run: what was taken off it came first among what was
sent, the rest is unread in the same order, and the occupancy is within
the depth. -/
structure FirstInFirstOut {D : Type} (sent taken : List D) (r : Ring D) : Prop where
  order : taken <+: sent
  rest : sent = taken ++ r.unread
  bounded : r.used ≤ putShmDescriptorRingDepth.toUInt32

/-- What holds in every state of a run. -/
structure Lawful (sent taken : Queues) (s : Link) : Prop where
  attached : Attached s
  bounded : s.region.Bounded
  rest : sent = appendQueues taken s.region.view
  whole : Whole sent

theorem Lawful.start (h : Attached s₀) (hrest : AtRest s₀.region) : Lawful noQueues noQueues s₀ := by
  refine ⟨h, ?_, ?_, .none⟩
  · refine ⟨fun i => ?_, fun i => ?_, ?_⟩ <;>
      · rw [hrest.view]
        exact Nat.zero_le 8
  · rw [hrest.view]
    rfl

/-- Appending to both sides of the law. -/
private theorem Flow.append {D : Type} {sent taken l put l' : List D} (h : Flow l put l')
    (hrest : sent = taken ++ l) : sent ++ put = taken ++ takenFrom l l' ++ l' := by
  rw [hrest, List.append_assoc, h.conserved, List.append_assoc]

theorem Lawful.step (h : Lawful sent taken s) (hQ : Q.Succeeds) (op : LinkOperation) :
    Lawful (appendQueues sent (op.sent P Q s))
      (appendQueues taken (takenQueues s.region.view (op.run P Q s).region.view))
      (op.run P Q s) := by
  obtain ⟨hattached, hflows⟩ := h.attached.flows (P := P) hQ op
  refine ⟨hattached, ?_, ?_, h.whole.append op.whole_sent⟩
  · exact ⟨fun i => (hflows.rx i).bounded (h.bounded.rx i),
      fun i => (hflows.tx i).bounded (h.bounded.tx i), hflows.reclaim.bounded h.bounded.reclaim⟩
  · ext1
    · funext i
      exact (hflows.rx i).append (congrArg (Queues.rx · i) h.rest)
    · funext i
      exact (hflows.tx i).append (congrArg (Queues.tx · i) h.rest)
    · exact hflows.reclaim.append (congrArg Queues.reclaim h.rest)

/-- What is unread was sent. -/
theorem Lawful.whole_view (h : Lawful sent taken s) : Whole s.region.view := by
  have hwhole := h.whole
  rw [h.rest] at hwhole
  exact ⟨fun i d hd => hwhole.rx i d (List.mem_append_right _ hd),
    fun i d hd => hwhole.tx i d (List.mem_append_right _ hd),
    fun d hd => hwhole.reclaim d (List.mem_append_right _ hd)⟩

/-- A run is lawful, by induction on its operations. -/
theorem Exchanges.lawful (h : Exchanges P Q s₀ sent taken s) (hQ : Q.Succeeds)
    (hattached : Attached s₀) (hrest : AtRest s₀.region) : Lawful sent taken s := by
  induction h with
  | start => exact .start hattached hrest
  | step _ op ih => exact ih.step hQ op

private theorem FirstInFirstOut.of_rest {D : Type} {sent taken : List D} {r : Ring D}
    (hrest : sent = taken ++ r.unread) (hbound : r.unread.length ≤ 8) :
    FirstInFirstOut sent taken r :=
  ⟨⟨r.unread, hrest.symm⟩, hrest, Ring.bounded_iff.mpr hbound⟩

/-- **The rings are first in, first out.** The two cores start on a valid
region whose rings are empty, wherever the counters stand. In every state
of every run of their operations, with platform calls that succeed: what
has been taken off a ring is the first part of what has been sent on it,
descriptor by descriptor, and the rest is unread; at most eight are
unread; an enqueue reports a full ring exactly where eight are, and a
dequeue an empty one exactly where none is; and no dequeue refuses what
it takes for its CRC, its bounds or its interface. -/
theorem rings_first_in_first_out (hP : P.Succeeds) (hQ : Q.Succeeds) (hattached : Attached s₀)
    (hrest : AtRest s₀.region) (h : Exchanges P Q s₀ sent taken s) :
    (∀ i, FirstInFirstOut (sent.rx i) (taken.rx i) (s.region.rxRings i)) ∧
    (∀ i, FirstInFirstOut (sent.tx i) (taken.tx i) (s.region.txRings i)) ∧
    FirstInFirstOut sent.reclaim taken.reclaim s.region.reclaimRing ∧
    Answers P Q s ∧ Handover P Q s := by
  have hlawful := h.lawful hQ hattached hrest
  refine ⟨fun i => ?_, fun i => ?_, ?_, hlawful.attached.answers hP hQ hlawful.bounded,
    hlawful.attached.handover hP hQ hlawful.whole_view⟩
  · exact .of_rest (congrArg (Queues.rx · i) hlawful.rest) (hlawful.bounded.rx i)
  · exact .of_rest (congrArg (Queues.tx · i) hlawful.rest) (hlawful.bounded.tx i)
  · exact .of_rest (congrArg Queues.reclaim hlawful.rest) hlawful.bounded.reclaim

/-! ## A run across the wrap -/

/-- A run so far: what it has sent and taken, and where it is. -/
structure Exchange where
  sent : Queues
  taken : Queues
  link : Link

/-- One operation more. -/
def Exchange.step (P Q : Platform) (e : Exchange) (op : LinkOperation) : Exchange where
  sent := appendQueues e.sent (op.sent P Q e.link)
  taken := appendQueues e.taken (takenQueues e.link.region.view (op.run P Q e.link).region.view)
  link := op.run P Q e.link

theorem Exchanges.foldl {e : Exchange} (h : Exchanges P Q s₀ e.sent e.taken e.link)
    (l : List LinkOperation) :
    Exchanges P Q s₀ (l.foldl (Exchange.step P Q) e).sent (l.foldl (Exchange.step P Q) e).taken
      (l.foldl (Exchange.step P Q) e).link := by
  induction l generalizing e with
  | nil => exact h
  | cons op rest ih => exact ih (h.step op)

/-- A ring whose counters are about to wrap. -/
def atWrap {D : Type} (r : Ring D) : Ring D :=
  { r with
    producer := { r.producer with writeSeq := 0xFFFFFFFF }
    consumer := { r.consumer with readSeq := 0xFFFFFFFF } }

/-- Both cores on a formatted region whose rings are all about to wrap. -/
def linkAtWrap : Link where
  linux := resetLocalState { initialized := true }
  linuxCalls := 0
  rtos :=
    { region :=
        let R := formatRegion 1 1
        { R with
          rxRings := fun i => atWrap (R.rxRings i)
          txRings := fun i => atWrap (R.txRings i)
          reclaimRing := atWrap R.reclaimRing }
      initialized := true
      calls := 0 }

/-- A commit of another block. -/
def commitOf (frameId : UInt32) : Commit := { sampleCommit 1 with frameId := frameId }

/-- Six blocks go to the RTOS, which takes five of them: two it forwards
and three it gives back. Linux takes one of the two and two of the
three. -/
def wrapRun : List LinkOperation :=
  List.replicate 6 (.linux (.frameAlloc 0)) ++
    [0, 1, 2, 3, 4, 5].map (fun n => .linux (.frameCommitRx (commitOf n))) ++
    List.replicate 5 (.dequeueRxDescriptor 0) ++
    [.enqueueTxDescriptor 1 (commitOf 0).descriptor, .enqueueTxDescriptor 1 (commitOf 1).descriptor,
      .reclaimFrame 2 .noRoute 0 1 1 0, .reclaimFrame 3 .noRoute 0 1 1 0,
      .reclaimFrame 4 .noRoute 0 1 1 0, .linux (.dequeueTxDescriptor 1),
      .linux .dequeueReclaimDescriptor, .linux .dequeueReclaimDescriptor]

/-- Where it leads. -/
def wrapped : Exchange :=
  wrapRun.foldl (Exchange.step .defaultOps .defaultOps) ⟨noQueues, noQueues, linkAtWrap⟩

set_option maxRecDepth 1000000 in
/-- Blocks sent and taken in order on rings of each kind, over the wrap of
their counters. -/
theorem rings_first_in_first_out_wrap :
    ((wrapped.sent.rx 0).map (·.frameId), (wrapped.taken.rx 0).map (·.frameId)) =
      ([0, 1, 2, 3, 4, 5], [0, 1, 2, 3, 4]) ∧
    ((wrapped.sent.tx 1).map (·.frameId), (wrapped.taken.tx 1).map (·.frameId)) = ([0, 1], [0]) ∧
    (wrapped.sent.reclaim.map (·.frameId), wrapped.taken.reclaim.map (·.frameId)) =
      ([2, 3, 4], [2, 3]) ∧
    (∀ i, FirstInFirstOut (wrapped.sent.rx i) (wrapped.taken.rx i) (wrapped.link.region.rxRings i)) ∧
    (∀ i, FirstInFirstOut (wrapped.sent.tx i) (wrapped.taken.tx i) (wrapped.link.region.txRings i)) ∧
    FirstInFirstOut wrapped.sent.reclaim wrapped.taken.reclaim wrapped.link.region.reclaimRing ∧
    Answers .defaultOps .defaultOps wrapped.link ∧ Handover .defaultOps .defaultOps wrapped.link :=
  ⟨by decide +kernel, by decide +kernel, by decide +kernel,
    rings_first_in_first_out Platform.defaultOps_succeeds Platform.defaultOps_succeeds
      ⟨rfl, rfl, ⟨fun _ => ⟨rfl, rfl, rfl, rfl, rfl, rfl, rfl, rfl, rfl⟩, fun _ => rfl,
        fun _ => ⟨rfl, rfl, rfl, rfl, rfl, rfl, rfl, rfl, rfl⟩, fun _ => rfl,
        ⟨rfl, rfl, rfl, rfl, rfl, rfl, rfl, rfl, rfl⟩⟩⟩
      ⟨fun _ => rfl, fun _ => rfl, rfl⟩ (Exchanges.start.foldl (e := ⟨noQueues, noQueues, linkAtWrap⟩)
        wrapRun)⟩

end System

end PutGateway
