import PutGateway.Common.RingQueue
/-!
# What the operations do to the region

Every operation of either core changes at most one ring of the region.
The effects are named here (`publishTx`, `takeRx`, ...), and
`Region.Kept` relates two regions that differ in counters and pending
words only. A region is `Valid` where every ring has the header and the
depth its place in the region asks for, which is what both cores check
when they attach and before each operation; the effects keep it so.

`Region.view` is the region as thirteen queues, and the effects are
appends and removals on it.
-/

namespace PutGateway

/-! ## Valid rings -/

/-- The three checks of a ring's header pass where none of them finds
anything. -/
theorem checks_eq_ok_iff {layout sizes place : Prop} [Decidable layout] [Decidable sizes]
    [Decidable place] :
    (if layout then UnifiedError.protocolHeader
      else if sizes then .length
      else if place then .invalidArg
      else .ok) = .ok ↔ ¬ layout ∧ ¬ sizes ∧ ¬ place := by
  by_cases hlayout : layout
  · simp [hlayout]
  by_cases hsizes : sizes
  · simp [hlayout, hsizes]
  by_cases hplace : place
  · simp [hlayout, hsizes, hplace]
  · simp [hlayout, hsizes, hplace]

/-- The header and producer line of a ring of a given kind. -/
structure Ring.Abi {D : Type} (r : Ring D) (kind : RingKind) (direction : Direction) : Prop where
  magic : r.header.magic = putShmRingMagic
  version : r.header.version = putShmIpcVersion
  headerSize : r.header.headerSize = putShmHeaderSize
  headerDepth : r.header.depth = putShmDescriptorRingDepth
  headerDescriptorSize : r.header.descriptorSize = putShmDescriptorSize
  producerDepth : r.producer.depth = putShmDescriptorRingDepth.toUInt32
  producerDescriptorSize : r.producer.descriptorSize = putShmDescriptorSize.toUInt32
  ringKind : r.header.ringKind = kind.code
  direction : r.header.direction = direction.code

namespace Ring

variable {D : Type} {r r' : Ring D} {kind : RingKind} {direction : Direction}

theorem Abi.depthOk (h : Abi r kind direction) : DepthOk r := ⟨h.headerDepth, h.producerDepth⟩

theorem Abi.kept (h : Abi r kind direction) (hk : Kept r r') : Abi r' kind direction := by
  obtain ⟨h1, h2, h3, h4, h5, h6, h7, h8, h9⟩ := h
  exact ⟨hk.header ▸ h1, hk.header ▸ h2, hk.header ▸ h3, hk.header ▸ h4, hk.header ▸ h5,
    hk.depth ▸ h6, hk.descriptorSize ▸ h7, hk.header ▸ h8, hk.header ▸ h9⟩

theorem Abi.publish (h : Abi r kind direction) (d : D) : Abi (r.publish d) kind direction := by
  obtain ⟨h1, h2, h3, h4, h5, h6, h7, h8, h9⟩ := h
  exact ⟨h1, h2, h3, h4, h5, h6, h7, h8, h9⟩

theorem Abi.stage (h : Abi r kind direction) (d : D) : Abi (r.stage d) kind direction := by
  obtain ⟨h1, h2, h3, h4, h5, h6, h7, h8, h9⟩ := h
  exact ⟨h1, h2, h3, h4, h5, h6, h7, h8, h9⟩

theorem Abi.take (h : Abi r kind direction) : Abi r.take kind direction := by
  obtain ⟨h1, h2, h3, h4, h5, h6, h7, h8, h9⟩ := h
  exact ⟨h1, h2, h3, h4, h5, h6, h7, h8, h9⟩

end Ring

namespace Region

/-- Every ring has the header its place asks for. -/
structure Valid (R : Region) : Prop where
  rx : ∀ i, (R.rxRings i).Abi .rx .linuxToRtos
  rxInterface : ∀ i, (R.rxRings i).header.interfaceId = UInt8.ofNat i.val
  tx : ∀ i, (R.txRings i).Abi .tx .rtosToLinux
  txInterface : ∀ i, (R.txRings i).header.interfaceId = UInt8.ofNat i.val
  reclaim : R.reclaimRing.Abi .reclaim .rtosToLinux

/-- Two regions that differ in counters and pending words only. -/
structure Kept (R R' : Region) : Prop where
  header : R'.header = R.header
  framePool : R'.framePool = R.framePool
  rx : ∀ i, (R.rxRings i).Kept (R'.rxRings i)
  tx : ∀ i, (R.txRings i).Kept (R'.txRings i)
  reclaim : R.reclaimRing.Kept R'.reclaimRing

variable {R R' R'' : Region} {i j : Fin 6}

theorem Kept.refl (R : Region) : Kept R R :=
  ⟨rfl, rfl, fun _ => .refl _, fun _ => .refl _, .refl _⟩

theorem Valid.kept (h : Valid R) (hk : Kept R R') : Valid R' where
  rx i := (h.rx i).kept (hk.rx i)
  rxInterface i := (congrArg RingHeader.interfaceId (hk.rx i).header).trans (h.rxInterface i)
  tx i := (h.tx i).kept (hk.tx i)
  txInterface i := (congrArg RingHeader.interfaceId (hk.tx i).header).trans (h.txInterface i)
  reclaim := h.reclaim.kept hk.reclaim

/-! ## Replacing one ring -/

def setRx (R : Region) (i : Fin 6) (ring : DescriptorRing) : Region :=
  { R with rxRings := Function.update R.rxRings i ring }

def setTx (R : Region) (i : Fin 6) (ring : DescriptorRing) : Region :=
  { R with txRings := Function.update R.txRings i ring }

def setReclaim (R : Region) (ring : ReclaimRing) : Region := { R with reclaimRing := ring }

theorem setRx_kept {ring ring' : DescriptorRing} (hring : ring.Kept ring') {p : PendingLine} :
    Kept (R.setRx i ring) { R.setRx i ring' with rxPendingBitmap := p } := by
  refine ⟨rfl, rfl, fun j => ?_, fun _ => .refl _, .refl _⟩
  by_cases hj : j = i
  · subst hj
    simpa [setRx] using hring
  · simp only [setRx, Function.update_of_ne hj]
    exact .refl _

theorem setTx_kept {ring ring' : DescriptorRing} (hring : ring.Kept ring') {p : PendingLine} :
    Kept (R.setTx i ring) { R.setTx i ring' with txPendingBitmap := p } := by
  refine ⟨rfl, rfl, fun _ => .refl _, fun j => ?_, .refl _⟩
  by_cases hj : j = i
  · subst hj
    simpa [setTx] using hring
  · simp only [setTx, Function.update_of_ne hj]
    exact .refl _

theorem setReclaim_kept {ring ring' : ReclaimRing} (hring : ring.Kept ring') {p : PendingLine} :
    Kept (R.setReclaim ring) { R.setReclaim ring' with reclaimPending := p } :=
  ⟨rfl, rfl, fun _ => .refl _, fun _ => .refl _, hring⟩

@[simp] theorem setRx_self : R.setRx i (R.rxRings i) = R := by
  simp [setRx]

@[simp] theorem setTx_self : R.setTx i (R.txRings i) = R := by
  simp [setTx]

theorem kept_setRx {ring : DescriptorRing} (hring : (R.rxRings i).Kept ring) {p : PendingLine} :
    Kept R { R.setRx i ring with rxPendingBitmap := p } := by
  have hkept := setRx_kept (R := R) (i := i) (p := p) hring
  rwa [setRx_self] at hkept

theorem kept_setTx {ring : DescriptorRing} (hring : (R.txRings i).Kept ring) {p : PendingLine} :
    Kept R { R.setTx i ring with txPendingBitmap := p } := by
  have hkept := setTx_kept (R := R) (i := i) (p := p) hring
  rwa [setTx_self] at hkept

theorem kept_setReclaim {ring : ReclaimRing} (hring : R.reclaimRing.Kept ring) {p : PendingLine} :
    Kept R { R.setReclaim ring with reclaimPending := p } := setReclaim_kept hring

/-! ## Effects -/

/-- Linux publishes on an RX ring. -/
def publishRx (R : Region) (i : Fin 6) (d : Descriptor) : Region :=
  R.setRx i ((R.rxRings i).publish d)

/-- Linux writes a slot of an RX ring and stops. -/
def stageRx (R : Region) (i : Fin 6) (d : Descriptor) : Region := R.setRx i ((R.rxRings i).stage d)

/-- The RTOS takes from an RX ring. -/
def takeRx (R : Region) (i : Fin 6) : Region := R.setRx i (R.rxRings i).take

/-- The RTOS publishes on a TX ring. -/
def publishTx (R : Region) (i : Fin 6) (d : Descriptor) : Region :=
  R.setTx i ((R.txRings i).publish d)

/-- The RTOS writes a slot of a TX ring and stops. -/
def stageTx (R : Region) (i : Fin 6) (d : Descriptor) : Region := R.setTx i ((R.txRings i).stage d)

/-- Linux takes from a TX ring. -/
def takeTx (R : Region) (i : Fin 6) : Region := R.setTx i (R.txRings i).take

/-- The RTOS publishes on the reclaim ring. -/
def publishReclaim (R : Region) (d : ReclaimDescriptor) : Region :=
  R.setReclaim (R.reclaimRing.publish d)

/-- The RTOS writes a slot of the reclaim ring and stops. -/
def stageReclaim (R : Region) (d : ReclaimDescriptor) : Region :=
  R.setReclaim (R.reclaimRing.stage d)

/-- Linux takes from the reclaim ring. -/
def takeReclaim (R : Region) : Region := R.setReclaim R.reclaimRing.take

/-- Replacing a ring by one with a valid header keeps the region valid. -/
theorem Valid.setRx (h : Valid R) {ring : DescriptorRing} (habi : ring.Abi .rx .linuxToRtos)
    (hid : ring.header.interfaceId = UInt8.ofNat i.val) : Valid (R.setRx i ring) := by
  refine ⟨fun j => ?_, fun j => ?_, h.tx, h.txInterface, h.reclaim⟩ <;>
    by_cases hj : j = i
  · subst hj
    simpa [Region.setRx] using habi
  · simpa [Region.setRx, Function.update_of_ne hj] using h.rx j
  · subst hj
    simpa [Region.setRx] using hid
  · simpa [Region.setRx, Function.update_of_ne hj] using h.rxInterface j

theorem Valid.setTx (h : Valid R) {ring : DescriptorRing} (habi : ring.Abi .tx .rtosToLinux)
    (hid : ring.header.interfaceId = UInt8.ofNat i.val) : Valid (R.setTx i ring) := by
  refine ⟨h.rx, h.rxInterface, fun j => ?_, fun j => ?_, h.reclaim⟩ <;>
    by_cases hj : j = i
  · subst hj
    simpa [Region.setTx] using habi
  · simpa [Region.setTx, Function.update_of_ne hj] using h.tx j
  · subst hj
    simpa [Region.setTx] using hid
  · simpa [Region.setTx, Function.update_of_ne hj] using h.txInterface j

theorem Valid.setReclaim (h : Valid R) {ring : ReclaimRing}
    (habi : ring.Abi .reclaim .rtosToLinux) : Valid (R.setReclaim ring) :=
  ⟨h.rx, h.rxInterface, h.tx, h.txInterface, habi⟩

/-- The frame pool is no part of a ring. -/
theorem Valid.withFramePool (h : Valid R) (framePool : Fin 64 → FrameBlock) :
    Valid { R with framePool := framePool } :=
  ⟨h.rx, h.rxInterface, h.tx, h.txInterface, h.reclaim⟩

theorem Valid.publishRx (h : Valid R) (d : Descriptor) : Valid (R.publishRx i d) :=
  h.setRx ((h.rx i).publish d) (h.rxInterface i)

theorem Valid.stageRx (h : Valid R) (d : Descriptor) : Valid (R.stageRx i d) :=
  h.setRx ((h.rx i).stage d) (h.rxInterface i)

theorem Valid.takeRx (h : Valid R) : Valid (R.takeRx i) :=
  h.setRx (h.rx i).take (h.rxInterface i)

theorem Valid.publishTx (h : Valid R) (d : Descriptor) : Valid (R.publishTx i d) :=
  h.setTx ((h.tx i).publish d) (h.txInterface i)

theorem Valid.stageTx (h : Valid R) (d : Descriptor) : Valid (R.stageTx i d) :=
  h.setTx ((h.tx i).stage d) (h.txInterface i)

theorem Valid.takeTx (h : Valid R) : Valid (R.takeTx i) :=
  h.setTx (h.tx i).take (h.txInterface i)

theorem Valid.publishReclaim (h : Valid R) (d : ReclaimDescriptor) : Valid (R.publishReclaim d) :=
  h.setReclaim (h.reclaim.publish d)

theorem Valid.stageReclaim (h : Valid R) (d : ReclaimDescriptor) : Valid (R.stageReclaim d) :=
  h.setReclaim (h.reclaim.stage d)

theorem Valid.takeReclaim (h : Valid R) : Valid R.takeReclaim := h.setReclaim h.reclaim.take

end Region

/-! ## The thirteen queues -/

/-- The region as queues of descriptors, one for each ring. -/
@[ext] structure Queues where
  rx : Fin 6 → List Descriptor
  tx : Fin 6 → List Descriptor
  reclaim : List ReclaimDescriptor

namespace Queues

variable (q : Queues) {i j : Fin 6}

def setRx (i : Fin 6) (l : List Descriptor) : Queues := { q with rx := Function.update q.rx i l }

def setTx (i : Fin 6) (l : List Descriptor) : Queues := { q with tx := Function.update q.tx i l }

def setReclaim (l : List ReclaimDescriptor) : Queues := { q with reclaim := l }

variable {q} {l : List Descriptor} {l' : List ReclaimDescriptor}

theorem setRx_rx : (q.setRx i l).rx j = if j = i then l else q.rx j := Function.update_apply ..

theorem setTx_tx : (q.setTx i l).tx j = if j = i then l else q.tx j := Function.update_apply ..

@[simp] theorem setRx_rx_same : (q.setRx i l).rx i = l := Function.update_self ..

@[simp] theorem setTx_tx_same : (q.setTx i l).tx i = l := Function.update_self ..

@[simp] theorem setRx_tx : (q.setRx i l).tx = q.tx := rfl

@[simp] theorem setRx_reclaim : (q.setRx i l).reclaim = q.reclaim := rfl

@[simp] theorem setTx_rx : (q.setTx i l).rx = q.rx := rfl

@[simp] theorem setTx_reclaim : (q.setTx i l).reclaim = q.reclaim := rfl

@[simp] theorem setReclaim_rx : (q.setReclaim l').rx = q.rx := rfl

@[simp] theorem setReclaim_tx : (q.setReclaim l').tx = q.tx := rfl

@[simp] theorem setReclaim_reclaim : (q.setReclaim l').reclaim = l' := rfl

end Queues

namespace Region

variable {R R' : Region} {i : Fin 6}

/-- The unread entries of every ring. -/
def view (R : Region) : Queues where
  rx i := (R.rxRings i).unread
  tx i := (R.txRings i).unread
  reclaim := R.reclaimRing.unread

/-- No ring holds more than its depth. -/
structure Bounded (R : Region) : Prop where
  rx : ∀ i, (R.view.rx i).length ≤ 8
  tx : ∀ i, (R.view.tx i).length ≤ 8
  reclaim : R.view.reclaim.length ≤ 8

theorem Kept.view (h : Kept R R') : R'.view = R.view := by
  ext1
  · funext i
    exact (h.rx i).unread
  · funext i
    exact (h.tx i).unread
  · exact h.reclaim.unread

theorem view_setRx {ring : DescriptorRing} :
    (R.setRx i ring).view = { R.view with rx := Function.update R.view.rx i ring.unread } := by
  ext1
  · funext j
    by_cases hj : j = i
    · subst hj
      simp [Region.view, setRx]
    · simp [Region.view, setRx, Function.update_of_ne hj]
  · rfl
  · rfl

theorem view_setTx {ring : DescriptorRing} :
    (R.setTx i ring).view = { R.view with tx := Function.update R.view.tx i ring.unread } := by
  ext1
  · rfl
  · funext j
    by_cases hj : j = i
    · subst hj
      simp [Region.view, setTx]
    · simp [Region.view, setTx, Function.update_of_ne hj]
  · rfl

theorem view_setReclaim {ring : ReclaimRing} :
    (R.setReclaim ring).view = { R.view with reclaim := ring.unread } := rfl

theorem view_publishRx (hv : Valid R) (d : Descriptor) (h : (R.view.rx i).length < 8) :
    (R.publishRx i d).view =
      { R.view with rx := Function.update R.view.rx i (R.view.rx i ++ [d]) } := by
  rw [publishRx, view_setRx, Ring.unread_publish (hv.rx i).depthOk h]
  rfl

theorem view_stageRx (hv : Valid R) (d : Descriptor) (h : (R.view.rx i).length < 8) :
    (R.stageRx i d).view = R.view := by
  rw [stageRx, view_setRx, Ring.unread_stage (hv.rx i).depthOk h]
  exact congrArg (Queues.mk · _ _) (Function.update_eq_self i R.view.rx)

theorem view_publishTx (hv : Valid R) (d : Descriptor) (h : (R.view.tx i).length < 8) :
    (R.publishTx i d).view =
      { R.view with tx := Function.update R.view.tx i (R.view.tx i ++ [d]) } := by
  rw [publishTx, view_setTx, Ring.unread_publish (hv.tx i).depthOk h]
  rfl

theorem view_stageTx (hv : Valid R) (d : Descriptor) (h : (R.view.tx i).length < 8) :
    (R.stageTx i d).view = R.view := by
  rw [stageTx, view_setTx, Ring.unread_stage (hv.tx i).depthOk h]
  exact congrArg (Queues.mk _ · _) (Function.update_eq_self i R.view.tx)

theorem view_publishReclaim (hv : Valid R) (d : ReclaimDescriptor)
    (h : R.view.reclaim.length < 8) :
    (R.publishReclaim d).view = { R.view with reclaim := R.view.reclaim ++ [d] } := by
  rw [publishReclaim, view_setReclaim, Ring.unread_publish hv.reclaim.depthOk h]
  rfl

theorem view_stageReclaim (hv : Valid R) (d : ReclaimDescriptor)
    (h : R.view.reclaim.length < 8) : (R.stageReclaim d).view = R.view := by
  rw [stageReclaim, view_setReclaim, Ring.unread_stage hv.reclaim.depthOk h]
  rfl

/-- The RTOS takes the head of an RX queue. -/
theorem view_takeRx (hv : Valid R)
    (h : (R.rxRings i).producer.writeSeq ≠ (R.rxRings i).consumer.readSeq) :
    R.view.rx i = (R.rxRings i).head :: (R.takeRx i).view.rx i ∧
      (R.takeRx i).view =
        { R.view with rx := Function.update R.view.rx i ((R.takeRx i).view.rx i) } := by
  have hself : (R.takeRx i).view.rx i = (R.rxRings i).take.unread := by
    simp [takeRx, view_setRx]
  rw [hself]
  exact ⟨Ring.unread_take (hv.rx i).depthOk h, view_setRx⟩

/-- Linux takes the head of a TX queue. -/
theorem view_takeTx (hv : Valid R)
    (h : (R.txRings i).producer.writeSeq ≠ (R.txRings i).consumer.readSeq) :
    R.view.tx i = (R.txRings i).head :: (R.takeTx i).view.tx i ∧
      (R.takeTx i).view =
        { R.view with tx := Function.update R.view.tx i ((R.takeTx i).view.tx i) } := by
  have hself : (R.takeTx i).view.tx i = (R.txRings i).take.unread := by
    simp [takeTx, view_setTx]
  rw [hself]
  exact ⟨Ring.unread_take (hv.tx i).depthOk h, view_setTx⟩

/-- Linux takes the head of the reclaim queue. -/
theorem view_takeReclaim (hv : Valid R)
    (h : R.reclaimRing.producer.writeSeq ≠ R.reclaimRing.consumer.readSeq) :
    R.view.reclaim = R.reclaimRing.head :: R.takeReclaim.view.reclaim ∧
      R.takeReclaim.view = { R.view with reclaim := R.takeReclaim.view.reclaim } :=
  ⟨Ring.unread_take hv.reclaim.depthOk h, rfl⟩

/-! ## Moves on the queues -/

/-- `R'` is a valid region with the queues `q` and the header and the
blocks of `R`. -/
structure Becomes (R R' : Region) (q : Queues) : Prop where
  valid : R'.Valid
  view : R'.view = q
  header : R'.header = R.header
  framePool : R'.framePool = R.framePool

theorem Valid.becomes_self (hv : Valid R) : Becomes R R R.view := ⟨hv, rfl, rfl, rfl⟩

private theorem Valid.becomes {S : Region} {q : Queues} (hv : Valid S) (hq : S.view = q)
    (hh : S.header = R.header) (hf : S.framePool = R.framePool) (hk : Kept S R') : Becomes R R' q :=
  ⟨hv.kept hk, hk.view.trans hq, hk.header.trans hh, hk.framePool.trans hf⟩

theorem Kept.becomes (hk : Kept R R') (hv : Valid R) : Becomes R R' R.view :=
  hv.becomes rfl rfl rfl hk

theorem becomes_publishRx (hv : Valid R) {d : Descriptor} (h : (R.view.rx i).length < 8)
    (hk : Kept (R.publishRx i d) R') : Becomes R R' (R.view.setRx i (R.view.rx i ++ [d])) :=
  (hv.publishRx d).becomes (view_publishRx hv d h) rfl rfl hk

theorem becomes_stageRx (hv : Valid R) {d : Descriptor} (h : (R.view.rx i).length < 8)
    (hk : Kept (R.stageRx i d) R') : Becomes R R' R.view :=
  (hv.stageRx d).becomes (view_stageRx hv d h) rfl rfl hk

theorem becomes_publishTx (hv : Valid R) {d : Descriptor} (h : (R.view.tx i).length < 8)
    (hk : Kept (R.publishTx i d) R') : Becomes R R' (R.view.setTx i (R.view.tx i ++ [d])) :=
  (hv.publishTx d).becomes (view_publishTx hv d h) rfl rfl hk

theorem becomes_stageTx (hv : Valid R) {d : Descriptor} (h : (R.view.tx i).length < 8)
    (hk : Kept (R.stageTx i d) R') : Becomes R R' R.view :=
  (hv.stageTx d).becomes (view_stageTx hv d h) rfl rfl hk

theorem becomes_publishReclaim (hv : Valid R) {d : ReclaimDescriptor}
    (h : R.view.reclaim.length < 8) (hk : Kept (R.publishReclaim d) R') :
    Becomes R R' (R.view.setReclaim (R.view.reclaim ++ [d])) :=
  (hv.publishReclaim d).becomes (view_publishReclaim hv d h) rfl rfl hk

theorem becomes_stageReclaim (hv : Valid R) {d : ReclaimDescriptor}
    (h : R.view.reclaim.length < 8) (hk : Kept (R.stageReclaim d) R') : Becomes R R' R.view :=
  (hv.stageReclaim d).becomes (view_stageReclaim hv d h) rfl rfl hk

theorem becomes_takeRx (hv : Valid R)
    (h : (R.rxRings i).producer.writeSeq ≠ (R.rxRings i).consumer.readSeq)
    (hk : Kept (R.takeRx i) R') :
    ∃ rest, R.view.rx i = (R.rxRings i).head :: rest ∧ Becomes R R' (R.view.setRx i rest) := by
  obtain ⟨hhead, hview⟩ := view_takeRx hv h
  exact ⟨_, hhead, hv.takeRx.becomes hview rfl rfl hk⟩

theorem becomes_takeTx (hv : Valid R)
    (h : (R.txRings i).producer.writeSeq ≠ (R.txRings i).consumer.readSeq)
    (hk : Kept (R.takeTx i) R') :
    ∃ rest, R.view.tx i = (R.txRings i).head :: rest ∧ Becomes R R' (R.view.setTx i rest) := by
  obtain ⟨hhead, hview⟩ := view_takeTx hv h
  exact ⟨_, hhead, hv.takeTx.becomes hview rfl rfl hk⟩

theorem becomes_takeReclaim (hv : Valid R)
    (h : R.reclaimRing.producer.writeSeq ≠ R.reclaimRing.consumer.readSeq)
    (hk : Kept R.takeReclaim R') :
    ∃ rest, R.view.reclaim = R.reclaimRing.head :: rest ∧
      Becomes R R' (R.view.setReclaim rest) := by
  obtain ⟨hhead, hview⟩ := view_takeReclaim hv h
  exact ⟨_, hhead, hv.takeReclaim.becomes hview rfl rfl hk⟩

/-- A ring has room exactly where its queue is shorter than its depth. -/
theorem Valid.rx_room (hv : Valid R) :
    (R.rxRings i).used < (R.rxRings i).producer.depth ↔ (R.view.rx i).length < 8 :=
  (hv.rx i).depthOk.used_lt_iff

theorem Valid.tx_room (hv : Valid R) :
    (R.txRings i).used < (R.txRings i).producer.depth ↔ (R.view.tx i).length < 8 :=
  (hv.tx i).depthOk.used_lt_iff

theorem Valid.reclaim_room (hv : Valid R) :
    R.reclaimRing.used < R.reclaimRing.producer.depth ↔ R.view.reclaim.length < 8 :=
  hv.reclaim.depthOk.used_lt_iff

end Region

end PutGateway
