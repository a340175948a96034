import PutGateway.Linux.Adapters
import PutGateway.Linux.Operations
/-!
# A submit function happens or does not

`linux_shm_frame_commit_rx` publishes one descriptor and reports success,
or publishes none and leaves the block with its caller. The six adapters
build on it: a submission that fails gives its block back, so that the
pool and the rings are as they were, and one that succeeds owns one block
more, queued under one new descriptor.

Giving a block back empties its record. That restores the pool as long as
a block whose bit is clear has an empty record, which a start establishes
and every operation keeps.
-/

namespace PutGateway

/-! ## Entries published -/

namespace Region

/-- No entry is published. -/
structure Unpublished (R R' : Region) : Prop where
  rx : ∀ i, (R'.rxRings i).producer.writeSeq = (R.rxRings i).producer.writeSeq
  tx : ∀ i, (R'.txRings i).producer.writeSeq = (R.txRings i).producer.writeSeq
  reclaim : R'.reclaimRing.producer.writeSeq = R.reclaimRing.producer.writeSeq
  view : R.Valid → R'.view = R.view

/-- One entry is published, on an RX ring. -/
structure PublishedOn (i : Fin 6) (d : Descriptor) (R R' : Region) : Prop where
  rx : (R'.rxRings i).producer.writeSeq = (R.rxRings i).producer.writeSeq + 1
  slot : (R'.rxRings i).descriptors
    (slotIndex (R.rxRings i).producer.writeSeq (R.rxRings i).producer.depth) = d
  others : ∀ j, j ≠ i → (R'.rxRings j).producer.writeSeq = (R.rxRings j).producer.writeSeq
  tx : ∀ j, (R'.txRings j).producer.writeSeq = (R.txRings j).producer.writeSeq
  reclaim : R'.reclaimRing.producer.writeSeq = R.reclaimRing.producer.writeSeq
  view : R.Valid → R'.view = R.view.setRx i (R.view.rx i ++ [d])

variable {R R' : Region} {i j : Fin 6} {d : Descriptor}

theorem Kept.unpublished (hk : Kept R R') : Unpublished R R' :=
  ⟨fun i => (hk.rx i).writeSeq, fun i => (hk.tx i).writeSeq, hk.reclaim.writeSeq, fun _ => hk.view⟩

theorem setRx_rxRings {ring : DescriptorRing} :
    (R.setRx i ring).rxRings j = if j = i then ring else R.rxRings j := Function.update_apply ..

/-- A slot written behind `write_seq` is not an entry. -/
theorem unpublished_stageRx (hroom : (R.rxRings i).used < (R.rxRings i).producer.depth)
    (hk : Kept (R.stageRx i d) R') : Unpublished R R' where
  rx j := by
    rw [(hk.rx j).writeSeq, stageRx, setRx_rxRings]
    by_cases hj : j = i
    · rw [if_pos hj, hj]
      rfl
    · rw [if_neg hj]
  tx j := (hk.tx j).writeSeq
  reclaim := hk.reclaim.writeSeq
  view hv := hk.view.trans (view_stageRx hv d (hv.rx_room.mp hroom))

theorem publishedOn_publishRx (hroom : (R.rxRings i).used < (R.rxRings i).producer.depth)
    (hk : Kept (R.publishRx i d) R') : PublishedOn i d R R' := by
  have hring : (R.publishRx i d).rxRings i = (R.rxRings i).publish d := by
    rw [publishRx, setRx_rxRings, if_pos rfl]
  refine ⟨?_, ?_, fun j hj => ?_, fun j => (hk.tx j).writeSeq, hk.reclaim.writeSeq, fun hv => ?_⟩
  · rw [(hk.rx i).writeSeq, hring]
    rfl
  · rw [(hk.rx i).descriptors, hring]
    exact Function.update_self ..
  · rw [(hk.rx j).writeSeq, publishRx, setRx_rxRings, if_neg hj]
  · exact hk.view.trans (view_publishRx hv d (hv.rx_room.mp hroom))

end Region

namespace Linux

variable {P : Platform} {shm shm' : LinuxShm} {i : Fin 6} {f : Fin 64}

/-! ## Committing -/

/-- Linux holds a block itself: it is `ALLOCATED`. -/
structure LinuxShmIpc.Holds (ipc : LinuxShmIpc) (f : Fin 64) : Prop where
  bit : ipc.isAllocated f = true
  state : (ipc.frames f).state = .allocated

/-- `linux_shm_frame_commit_rx` publishes one descriptor of the frame it
names, or fails and leaves the frame with its caller, who can release it. -/
structure CommitsAtomically (P : Platform) (shm : LinuxShm) (c : Commit) : Prop where
  refused : (c.run P shm).1 ≠ .ok →
    shm.region.Unpublished (c.run P shm).2.region ∧
    (c.run P shm).2.ipc.pool = shm.ipc.pool ∧
    ∀ f, frameIndex? c.frameId = some f → shm.ipc.initialized = true → shm.ipc.Holds f →
      (c.run P shm).2.ipc.Holds f ∧
      ∀ reason, (linuxShmFrameRelease (c.run P shm).2.ipc c.frameId reason).1 = .ok
  committed : (c.run P shm).1 = .ok →
    ∃ i f, interfaceIndex? c.source = some i ∧ frameIndex? c.frameId = some f ∧
      shm.ipc.Holds f ∧ shm.region.PublishedOn i c.descriptor.sealed (c.run P shm).2.region ∧
      ((c.run P shm).2.ipc.frames f).state = .rxQueued

/-- A block Linux holds can be released, whatever the reason given. -/
theorem LinuxShmIpc.Holds.release {ipc : LinuxShmIpc} (h : ipc.Holds f) (hinit : ipc.initialized = true)
    {frameId : UInt32} (hf : frameIndex? frameId = some f) (reason : UInt32) :
    linuxShmFrameRelease ipc frameId reason = (.ok, ipc.discharge f reason) :=
  linuxShmFrameRelease_of_releasable hinit hf h.bit (.inl h.state) reason

/-- Contexts with one pool hold the same blocks. -/
theorem LinuxShmIpc.Holds.of_pool {ipc ipc' : LinuxShmIpc} (h : ipc.Holds f)
    (hpool : ipc'.pool = ipc.pool) : ipc'.Holds f := by
  have hbit : ipc'.isAllocated f = ipc.isAllocated f := congrArg (Pool.isAllocated · f) hpool
  have hframe : ipc'.frames f = ipc.frames f := congrFun (congrArg Pool.frames hpool) f
  exact ⟨hbit.trans h.bit, (congrArg FrameMeta.state hframe).trans h.state⟩

/-- **A commit happens or does not**, for every pool, every region and
every outcome of the platform calls. -/
theorem commitsAtomically (P : Platform) (shm : LinuxShm) (c : Commit) :
    CommitsAtomically P shm c := by
  rcases linuxShmFrameCommitRx_cases P shm c with
    ⟨hres, hpool, hregion⟩ | ⟨hok, i, f, hi, hf, -, -, hbit, hstate, -, hroom, hregion, hpool⟩
  · refine ⟨fun _ => ⟨?_, hpool, fun f hf hinit hheld => ?_⟩, fun hok => absurd hok hres⟩
    · rcases hregion with hk | ⟨i, hroom, hk⟩
      · exact hk.unpublished
      · exact Region.unpublished_stageRx hroom hk
    · have hheld' := hheld.of_pool hpool
      have hinit' : (c.run P shm).2.ipc.initialized = true :=
        (congrArg Pool.initialized hpool).trans hinit
      exact ⟨hheld', fun reason => by rw [hheld'.release hinit' hf]⟩
  · refine ⟨fun hne => absurd hok hne, fun _ => ⟨i, f, hi, hf, ⟨hbit, hstate⟩, ?_, ?_⟩⟩
    · exact Region.publishedOn_publishRx hroom hregion
    · have hframe : (c.run P shm).2.ipc.frames f = _ := congrFun (congrArg Pool.frames hpool) f
      rw [hframe]
      simp [Pool.put]

/-! ## Clean pools -/

/-- A block whose bit is clear has an empty record. -/
def Pool.Clean (p : Pool) : Prop := ∀ f, p.isAllocated f = false → p.frames f = {}

theorem Pool.Clean.put {p : Pool} (h : p.Clean) (hbit : p.isAllocated f = true) (m : FrameMeta) :
    (p.put f m).Clean := by
  intro g hg
  have hne : g ≠ f := by
    rintro rfl
    rw [Pool.isAllocated_put, hbit] at hg
    cases hg
  rw [Pool.put_frames, if_neg hne]
  exact h g hg

theorem Pool.Clean.claim {p : Pool} (h : p.Clean) (m : FrameMeta) : (p.claim i f m).Clean := by
  intro g hg
  simp only [Pool.isAllocated_claim, Bool.or_eq_false_iff, decide_eq_false_iff_not] at hg
  rw [Pool.claim_frames, if_neg (Ne.symm hg.2)]
  exact h g hg.1

theorem Pool.Clean.discharge {p : Pool} (h : p.Clean) : (p.discharge f).Clean := by
  intro g hg
  rw [Pool.discharge_frames]
  split
  · rfl
  next hne =>
  apply h g
  simpa [Pool.isAllocated_discharge, Ne.symm hne] using hg

theorem Pool.clean_fresh : Pool.fresh.Clean := fun _ _ => rfl

/-- Every move keeps the pool clean. -/
theorem PoolMove.clean {b : Option Descriptor} {p p' : Pool} {q q' : Queues}
    (h : PoolMove b p q p' q') (hc : p.Clean) : p'.Clean := by
  cases h with
  | idle => exact hc
  | claim => exact hc.claim _
  | publish _ _ _ _ halloc => exact hc.put halloc _
  | release => exact hc.discharge
  | dropTx => exact hc
  | takeTx _ htakes => exact hc.put htakes.queued.allocated _
  | dropReclaim => exact hc
  | takeReclaim => exact hc.discharge

/-- The states of Linux after a start: what its operations make of them,
whatever the platform answers and whatever the RTOS does to the rings
meanwhile. -/
inductive Started : LinuxShm → Prop
  | format (shm : LinuxShm) (linuxEpoch rtosEpoch : UInt32) :
      Started (linuxShmIpcFormatRegion shm linuxEpoch rtosEpoch).2
  | attach {shm : LinuxShm} (h : (linuxShmIpcAttach shm).1 = .ok) :
      Started (linuxShmIpcAttach shm).2
  | operation {shm : LinuxShm} (h : Started shm) (P : Platform) (op : Operation) :
      Started (op.run P shm)
  | elsewhere {shm : LinuxShm} (h : Started shm) {R : Region} (hv : R.Valid) (calls : ℕ) :
      Started { shm with region := R, calls := calls }

theorem Started.invariant (h : Started shm) : shm.region.Valid ∧ shm.ipc.pool.Clean := by
  induction h with
  | format shm linuxEpoch rtosEpoch => exact ⟨formatRegion_valid _ _, Pool.clean_fresh⟩
  | @attach shm h =>
    simp only [linuxShmIpcAttach] at h ⊢
    split at h
    · next hne => exact absurd h hne
    next hok =>
    rw [if_neg hok]
    exact ⟨validateRegion_valid (not_not.mp hok), Pool.clean_fresh⟩
  | operation _ P op ih =>
    obtain ⟨hv, hc⟩ := ih
    have hmoved := op.moved P hv
    exact ⟨hmoved.valid, hmoved.move.clean hc⟩
  | elsewhere _ hv _ ih => exact ⟨hv, ih.2⟩

/-! ## Submitting -/

/-- A submission leaves the pool and the rings as they were. -/
structure Unchanged (shm shm' : LinuxShm) : Prop where
  bitmap : shm'.ipc.allocationBitmap = shm.ipc.allocationBitmap
  states : ∀ f, (shm'.ipc.frames f).state = (shm.ipc.frames f).state
  used : ∀ i, (shm'.ipc.stats.interfaceQuota i).used = (shm.ipc.stats.interfaceQuota i).used
  region : shm.region.Unpublished shm'.region

/-- A submission takes one block and publishes one descriptor of it. -/
structure Submitted (i : Fin 6) (f : Fin 64) (d : Descriptor) (shm shm' : LinuxShm) : Prop where
  free : shm.ipc.isAllocated f = false
  bitmap : ∀ g, shm'.ipc.isAllocated g = (shm.ipc.isAllocated g || decide (f = g))
  state : (shm'.ipc.frames f).state = .rxQueued
  others : ∀ g, g ≠ f → shm'.ipc.frames g = shm.ipc.frames g
  used : ∀ j, (shm'.ipc.stats.interfaceQuota j).used =
    (shm.ipc.stats.interfaceQuota j).used + if j = i then 1 else 0
  names : frameIndex? d.frameId = some f
  region : shm.region.PublishedOn i d shm'.region

theorem Unchanged.of_pool (hpool : shm'.ipc.pool = shm.ipc.pool)
    (hregion : shm.region.Unpublished shm'.region) : Unchanged shm shm' where
  bitmap := congrArg Pool.allocationBitmap hpool
  states f := congrArg FrameMeta.state (congrFun (congrArg Pool.frames hpool) f)
  used i := congrFun (congrArg Pool.used hpool) i
  region := hregion

/-- The block of a frame is no part of a ring. -/
theorem unpublished_fillFrame (shm : LinuxShm) {fill : FrameBlock → FrameBlock} {R : Region}
    (h : (shm.fillFrame f fill).region.Unpublished R) : shm.region.Unpublished R :=
  ⟨h.rx, h.tx, h.reclaim, fun hv => h.view (hv.withFramePool _)⟩

theorem publishedOn_fillFrame (shm : LinuxShm) {fill : FrameBlock → FrameBlock} {R : Region}
    {d : Descriptor} (h : (shm.fillFrame f fill).region.PublishedOn i d R) :
    shm.region.PublishedOn i d R :=
  ⟨h.rx, h.slot, h.others, h.tx, h.reclaim, fun hv => h.view (hv.withFramePool _)⟩

theorem interfaceIndex?_toUInt8 (i : Fin 6) :
    interfaceIndex? (interfaceOfIndex i).toUInt8.toUInt32 = some i := by
  revert i
  decide

/-- A block just claimed is given back whole. -/
theorem giveBack_claimed {p : Pool} (hc : p.Clean) (hinit : p.initialized = true)
    (hfree : p.isAllocated f = false) (hroom : p.used i < 0xFFFFFFFFFFFFFFFF) {sequence : UInt64}
    (hpool : shm.ipc.pool = p.claim i f (allocatedMeta (interfaceOfIndex i) sequence))
    (reason : ReclaimReason) : (shm.giveBack (frameIdOfIndex f) reason).ipc.pool = p := by
  have hbit : shm.ipc.isAllocated f = true := by
    have h : shm.ipc.isAllocated f = _ := congrArg (Pool.isAllocated · f) hpool
    simpa [Pool.isAllocated_claim] using h
  have hframe : shm.ipc.frames f = allocatedMeta (interfaceOfIndex i) sequence := by
    have h : shm.ipc.frames f = _ := congrFun (congrArg Pool.frames hpool) f
    simpa using h
  have hinit' : shm.ipc.initialized = true := (congrArg Pool.initialized hpool).trans hinit
  have hheld : shm.ipc.Holds f := ⟨hbit, by rw [hframe]; rfl⟩
  have hundone := Pool.discharge_claim (m := allocatedMeta (interfaceOfIndex i) sequence) hfree hroom
    (interfaceIndex?_toUInt8 i)
  rw [LinuxShm.giveBack, hheld.release hinit' (frameIndex?_frameIdOfIndex f)]
  rw [LinuxShmIpc.pool_discharge, hpool, hundone]
  -- the record it leaves is the empty one it found
  exact Pool.ext rfl rfl ((Function.update_eq_self_iff).mpr (hc f hfree).symm) rfl

/-- A submission that names the block it is given, and its source. -/
structure Submission.Wellformed (s : Submission) (i : Fin 6) : Prop where
  source : s.source = interfaceOfIndex i
  frameId : ∀ frameId, (s.commit frameId).frameId = frameId
  commitSource : ∀ frameId, (s.commit frameId).source = s.source

/-- **The ends of a submission**: it changes nothing, or takes one block
and publishes its descriptor. -/
theorem Submission.run_cases (P : Platform) {s : Submission} (hs : s.Wellformed i)
    (hc : shm.ipc.pool.Clean) :
    ((s.run P shm).1 ≠ .ok ∧ Unchanged shm (s.run P shm).2) ∨
    ((s.run P shm).1 = .ok ∧ ∃ f,
      Submitted i f (s.commit (frameIdOfIndex f)).descriptor.sealed shm (s.run P shm).2) := by
  unfold Submission.run
  rcases linuxShmFrameAlloc_cases shm.ipc s.source with
    ⟨hres, hnone, hpool⟩ | ⟨i', f, hinit, hi', hfree, hquota, heq⟩
  · -- no block
    rcases hr : linuxShmFrameAlloc shm.ipc s.source with ⟨err, out, ipc⟩
    rw [hr] at hres hnone hpool
    obtain rfl : out = none := hnone
    exact .inl ⟨hres, .of_pool hpool (Region.Kept.refl _).unpublished⟩
  obtain rfl : i = i' := by
    rw [hs.source, interfaceIndex?_interfaceOfIndex] at hi'
    exact Option.some.inj hi'
  have hclaim : (shm.ipc.claim i s.source f).pool = shm.ipc.pool.claim i f
      (allocatedMeta (interfaceOfIndex i) (shm.ipc.allocationSequence + 1)) := by
    rw [LinuxShmIpc.pool_claim, hs.source]
  have hroom : shm.ipc.pool.used i < 0xFFFFFFFFFFFFFFFF :=
    UInt64.lt_of_lt_of_le hquota (UInt64.le_iff_toNat_le.mpr (Nat.le_of_lt_succ (UInt64.toNat_lt _)))
  have hback : ∀ {shm' : LinuxShm}, shm'.ipc.pool = (shm.ipc.claim i s.source f).pool →
      ∀ reason, (shm'.giveBack (frameIdOfIndex f) reason).ipc.pool = shm.ipc.pool := by
    intro shm' hpool reason
    exact giveBack_claimed hc hinit hfree hroom (hpool.trans hclaim) reason
  rw [heq]
  simp only
  split
  · -- the frame is longer than a block
    exact .inl ⟨by simp, .of_pool (hback rfl _) (Region.Kept.refl _).unpublished⟩
  set claimed : LinuxShm := { shm with ipc := shm.ipc.claim i s.source f } with hclaimed
  have hcommit := commitsAtomically P (claimed.fillFrame f s.fill) (s.commit (frameIdOfIndex f))
  split
  · next hres =>
    obtain ⟨hregion, hpool, -⟩ := hcommit.refused hres
    exact .inl ⟨hres, .of_pool (hback hpool _) (unpublished_fillFrame claimed hregion)⟩
  next hok =>
  rcases linuxShmFrameCommitRx_cases P (claimed.fillFrame f s.fill) (s.commit (frameIdOfIndex f)) with
    ⟨hres, -⟩ | ⟨-, j, g, hj, hg, -, -, -, -, -, hused, hregion, hpool⟩
  · exact absurd hres hok
  obtain rfl : i = j := by
    rw [hs.commitSource, hs.source, interfaceIndex?_interfaceOfIndex] at hj
    exact Option.some.inj hj
  obtain rfl : f = g := by
    rw [hs.frameId, frameIndex?_frameIdOfIndex] at hg
    exact Option.some.inj hg
  have hfilled : (claimed.fillFrame f s.fill).ipc.pool = (shm.ipc.claim i s.source f).pool := rfl
  rw [hfilled, hclaim] at hpool
  refine .inr ⟨rfl, f, hfree, fun g => ?_, ?_, fun g hg => ?_, fun j => ?_, ?_, ?_⟩
  · have h := congrArg (Pool.isAllocated · g) hpool
    refine h.trans ?_
    rw [Pool.isAllocated_put, Pool.isAllocated_claim, LinuxShmIpc.isAllocated_pool]
  · have h := congrFun (congrArg Pool.frames hpool) f
    simp only [Pool.put_frames, if_true] at h
    exact congrArg FrameMeta.state h
  · have h := congrFun (congrArg Pool.frames hpool) g
    refine h.trans ?_
    rw [Pool.put_frames, if_neg hg, Pool.claim_frames, if_neg hg]
    rfl
  · have h := congrFun (congrArg Pool.used hpool) j
    refine h.trans ?_
    by_cases hj : j = i
    · subst hj
      simp [Pool.put, Pool.claim, LinuxShmIpc.pool]
    · simp [Pool.put, Pool.claim, LinuxShmIpc.pool, hj]
  · exact hg
  · exact publishedOn_fillFrame claimed (Region.publishedOn_publishRx hused hregion)

/-- **A submission fills the block it is given**, whatever becomes of the
commit, and publishes its descriptor where it succeeds. -/
theorem Submission.run_of_alloc (P : Platform) {s : Submission} (hs : s.Wellformed i)
    {ipc : LinuxShmIpc} {err : UnifiedError}
    (halloc : linuxShmFrameAlloc shm.ipc s.source = (err, some f, ipc))
    (hlen : s.length ≤ putShmFramePoolBlockSize.toNat) :
    (s.run P shm).2.region.framePool =
      Function.update shm.region.framePool f (s.fill (shm.region.framePool f)) ∧
    ((s.run P shm).1 = .ok →
      shm.region.PublishedOn i (s.commit (frameIdOfIndex f)).descriptor.sealed
        (s.run P shm).2.region) := by
  unfold Submission.run
  rw [halloc]
  simp only
  rw [if_neg (Nat.not_lt.mpr hlen)]
  set claimed : LinuxShm := { shm with ipc := ipc } with hclaimed
  rcases linuxShmFrameCommitRx_cases P (claimed.fillFrame f s.fill) (s.commit (frameIdOfIndex f)) with
    ⟨hres, -, hregion⟩ | ⟨hok, j, g, hj, -, -, -, -, -, -, hused, hkept, -⟩
  · -- the commit fails, and the block is given back
    rw [if_pos hres]
    refine ⟨?_, fun hok => absurd hok hres⟩
    rcases hregion with hkept | ⟨j, -, hkept⟩
    · exact hkept.framePool
    · exact hkept.framePool
  · rw [if_neg (not_not.mpr hok)]
    obtain rfl : i = j := by
      rw [hs.commitSource, hs.source, interfaceIndex?_interfaceOfIndex] at hj
      exact Option.some.inj hj
    refine ⟨hkept.framePool, fun _ => ?_⟩
    exact publishedOn_fillFrame claimed (Region.publishedOn_publishRx hused hkept)

/-- **A submission is a few operations** of Linux: what these keep it
keeps, whatever becomes of it. -/
theorem Submission.run_keeps {I : LinuxShm → Prop}
    (hI : ∀ (op : Operation) {shm : LinuxShm}, I shm → I (op.run P shm)) (s : Submission) (h : I shm) :
    I (s.run P shm).2 := by
  have halloc := hI (.frameAlloc s.source) h
  unfold Submission.run
  rcases linuxShmFrameAlloc_cases shm.ipc s.source with
    ⟨-, hnone, -⟩ | ⟨i, f, -, -, -, -, heq⟩
  · rcases hr : linuxShmFrameAlloc shm.ipc s.source with ⟨err, out, ipc⟩
    rw [hr] at hnone
    obtain rfl : out = none := hnone
    simp only [Operation.run, hr] at halloc
    exact halloc
  simp only [Operation.run, heq] at halloc
  rw [heq]
  simp only
  split
  · exact hI (.frameRelease (frameIdOfIndex f) ReclaimReason.invalidFrame.code) halloc
  have hcommit := hI (.frameCommitRx (s.commit (frameIdOfIndex f)))
    (hI (.fillFrame f (s.fill (shm.region.framePool f))) halloc)
  split
  · exact hI (.frameRelease (frameIdOfIndex f) ReclaimReason.queueFull.code) hcommit
  · exact hcommit

/-- **A submission that succeeds is three operations**: it allocates a
block, fills it and commits it. -/
theorem Submission.run_steps (P : Platform) {s : Submission} (hs : s.Wellformed i)
    (hc : shm.ipc.pool.Clean) (hok : (s.run P shm).1 = .ok) :
    ∃ f ipc, linuxShmFrameAlloc shm.ipc s.source = (.ok, some f, ipc) ∧
      (ipc.frames f).state = .allocated ∧
      (s.run P shm).2.region.framePool f = s.fill (shm.region.framePool f) ∧
      Submitted i f (s.commit (frameIdOfIndex f)).descriptor.sealed shm (s.run P shm).2 ∧
      (s.run P shm).2 =
        (Operation.frameCommitRx (s.commit (frameIdOfIndex f))).run P
          ((Operation.fillFrame f (s.fill (shm.region.framePool f))).run P
            ((Operation.frameAlloc s.source).run P shm)) := by
  rcases linuxShmFrameAlloc_cases shm.ipc s.source with
    ⟨hres, hnone, -⟩ | ⟨i', f, -, -, hfree, -, heq⟩
  · unfold Submission.run at hok
    rcases hr : linuxShmFrameAlloc shm.ipc s.source with ⟨err, out, ipc⟩
    rw [hr] at hres hnone hok
    obtain rfl : out = none := hnone
    exact absurd hok hres
  have hlen : ¬ s.length > putShmFramePoolBlockSize.toNat := by
    intro hlong
    unfold Submission.run at hok
    rw [heq] at hok
    simp only [if_pos hlong] at hok
    cases hok
  obtain ⟨hpool, hpublished⟩ := Submission.run_of_alloc P hs heq (Nat.le_of_not_lt hlen)
  rcases Submission.run_cases P hs hc with ⟨hres, -⟩ | ⟨-, f', hsubmitted⟩
  · exact absurd hok hres
  -- both name the block of the entry that was published
  obtain rfl : f = f' := by
    have hslot := (hpublished hok).slot.symm.trans hsubmitted.region.slot
    have hid := congrArg Descriptor.frameId hslot
    rw [Descriptor.frameId_sealed, Descriptor.frameId_sealed] at hid
    exact frameIdOfIndex_inj.mp ((hs.frameId _).symm.trans (Eq.trans hid (hs.frameId _)))
  refine ⟨f, _, heq, by simp [LinuxShmIpc.claim], ?_, hsubmitted, ?_⟩
  · rw [hpool]
    exact Function.update_self ..
  · unfold Submission.run at hok ⊢
    simp only [Operation.run, heq, if_neg hlen] at hok ⊢
    split at hok
    · next hres => exact absurd hok hres
    · next hres =>
      rw [if_neg hres]
      rfl

/-! ## The six adapters -/

/-- A call of a submit function. -/
inductive SubmitCall
  | can (frame : Bytes) (rx : AdapterRxResult) (linuxEpoch : UInt32)
  | ethernet (frame : Bytes) (rx : AdapterRxResult) (linuxEpoch : UInt32)
  | wifi (frame : Bytes) (rx : AdapterRxResult) (linuxEpoch : UInt32)
  | bluetooth (frame : Bytes) (rx : AdapterRxResult) (linuxEpoch : UInt32)
  | fourG (frame : Bytes) (rx : AdapterRxResult) (linuxEpoch : UInt32)
  | rs485 (payload : Bytes) (payloadLen : ℕ) (linuxEpoch : UInt32)

/-- The call. -/
def SubmitCall.run (P : Platform) (shm : LinuxShm) : SubmitCall → UnifiedError × LinuxShm
  | .can frame rx epoch => canAdapterSubmitToIpc P shm frame rx epoch
  | .ethernet frame rx epoch => ethernetAdapterSubmitToIpc P shm frame rx epoch
  | .wifi frame rx epoch => wifiAdapterSubmitToIpc P shm frame rx epoch
  | .bluetooth frame rx epoch => bluetoothAdapterSubmitToIpc P shm frame rx epoch
  | .fourG frame rx epoch => fourGAdapterSubmitToIpc P shm frame rx epoch
  | .rs485 payload payloadLen epoch => rs485AdapterSubmitToIpc P shm payload payloadLen epoch

/-- The interface an adapter serves. -/
def SubmitCall.interface : SubmitCall → Fin 6
  | .can .. => 0
  | .ethernet .. => 1
  | .wifi .. => 2
  | .bluetooth .. => 3
  | .fourG .. => 4
  | .rs485 .. => 5

/-- A submit function of an interface happened, or did not. -/
structure SubmitsAtomically (i : Fin 6) (shm : LinuxShm) (r : UnifiedError × LinuxShm) : Prop where
  refused : r.1 ≠ .ok → Unchanged shm r.2
  submitted : r.1 = .ok → ∃ f d, Submitted i f d shm r.2

/-- An argument is rejected before anything is done. -/
theorem SubmitsAtomically.reject {err : UnifiedError} (h : err ≠ .ok) :
    SubmitsAtomically i shm (err, shm) :=
  ⟨fun _ => .of_pool rfl (Region.Kept.refl _).unpublished, fun hok => absurd hok h⟩

theorem Submission.submitsAtomically (P : Platform) {s : Submission} (hs : s.Wellformed i)
    (hc : shm.ipc.pool.Clean) : SubmitsAtomically i shm (s.run P shm) := by
  rcases Submission.run_cases P hs hc with ⟨hres, hsame⟩ | ⟨hok, f, hsub⟩
  · exact ⟨fun _ => hsame, fun hok => absurd hok hres⟩
  · exact ⟨fun hres => absurd hok hres, fun _ => ⟨f, _, hsub⟩⟩

theorem frameSubmission_wellformed {priority ttl : UInt8} {flags linuxEpoch : UInt32} {frame : Bytes}
    {rx : AdapterRxResult} :
    (frameSubmission (interfaceOfIndex i) priority ttl flags frame rx linuxEpoch).Wellformed i :=
  ⟨rfl, fun _ => rfl, fun _ => rfl⟩

theorem rs485Submission_wellformed {payload : Bytes} {payloadLen : ℕ} {linuxEpoch : UInt32} :
    (rs485Submission payload payloadLen linuxEpoch).Wellformed 5 :=
  ⟨rfl, fun _ => rfl, fun _ => rfl⟩

theorem SubmitCall.submitsAtomically (P : Platform) (hc : shm.ipc.pool.Clean) (c : SubmitCall) :
    SubmitsAtomically c.interface shm (c.run P shm) := by
  cases c with
  | can => exact Submission.submitsAtomically P (frameSubmission_wellformed (i := 0)) hc
  | ethernet => exact Submission.submitsAtomically P (frameSubmission_wellformed (i := 1)) hc
  | wifi => exact Submission.submitsAtomically P (frameSubmission_wellformed (i := 2)) hc
  | bluetooth => exact Submission.submitsAtomically P (frameSubmission_wellformed (i := 3)) hc
  | fourG => exact Submission.submitsAtomically P (frameSubmission_wellformed (i := 4)) hc
  | rs485 payload payloadLen epoch =>
    simp only [SubmitCall.run, rs485AdapterSubmitToIpc]
    split
    · exact .reject (by simp)
    split
    · exact .reject (by simp)
    · exact Submission.submitsAtomically P rs485Submission_wellformed hc

end Linux

end PutGateway
