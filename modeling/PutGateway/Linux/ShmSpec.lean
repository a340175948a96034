import PutGateway.Linux.ShmRings
import PutGateway.Common.RegionSpec
/-!
# What the Linux operations do to the pool and to the region

The ends of each operation of `linux_shm_ipc.c`, for every outcome of the
platform calls it makes. `Pool` is what the operations read of Linux's
private context: the bitmap, the record of each block and the use of
each interface's quota. The rest of the context is statistics.
-/

namespace PutGateway

namespace Linux

/-! ## The pool -/

/-- The private context of Linux, less its statistics. -/
@[ext] structure Pool where
  initialized : Bool
  allocationBitmap : UInt64
  frames : Fin 64 → FrameMeta
  used : Fin 6 → UInt64

namespace Pool

/-- The bit of a frame is set. -/
def isAllocated (p : Pool) (f : Fin 64) : Bool := p.allocationBitmap &&& frameBit f != 0

/-- Replace the record of a block. -/
def put (p : Pool) (f : Fin 64) (m : FrameMeta) : Pool :=
  { p with frames := Function.update p.frames f m }

/-- Take a block into use. -/
def claim (p : Pool) (i : Fin 6) (f : Fin 64) (m : FrameMeta) : Pool :=
  { p.put f m with
    allocationBitmap := p.allocationBitmap ||| frameBit f
    used := Function.update p.used i (p.used i + 1) }

/-- Give a block back, to the quota of the interface it came from. -/
def discharge (p : Pool) (f : Fin 64) : Pool :=
  { p.put f {} with
    allocationBitmap := p.allocationBitmap &&& ~~~frameBit f
    used := match interfaceIndex? (p.frames f).sourceInterface.toUInt32 with
      | none => p.used
      | some i => Function.update p.used i (if p.used i > 0 then p.used i - 1 else p.used i) }

variable {p : Pool} {i : Fin 6} {f g : Fin 64} {m : FrameMeta}

private theorem toBitVec_frameBit (f : Fin 64) : (frameBit f).toBitVec = BitSet.bit 64 f := by
  revert f
  decide

theorem isAllocated_eq : p.isAllocated f = p.allocationBitmap.toBitVec.getLsbD f := by
  have hzero : p.allocationBitmap &&& frameBit f = 0 ↔
      p.allocationBitmap.toBitVec.getLsbD f = false := by
    rw [← BitSet.and_bit_eq_zero_iff, ← toBitVec_frameBit, ← UInt64.toBitVec_and,
      ← UInt64.toBitVec_inj]
    rfl
  rw [isAllocated, Bool.eq_iff_iff, bne_iff_ne, ne_eq, hzero, Bool.not_eq_false]

@[simp] theorem isAllocated_put : (p.put f m).isAllocated g = p.isAllocated g := rfl

theorem isAllocated_claim :
    (p.claim i f m).isAllocated g = (p.isAllocated g || decide (f = g)) := by
  rw [isAllocated_eq, isAllocated_eq]
  simp only [claim, UInt64.toBitVec_or, toBitVec_frameBit]
  rw [BitSet.getLsbD_or_bit g.isLt]
  simp [Fin.ext_iff]

theorem isAllocated_discharge :
    (p.discharge f).isAllocated g = (p.isAllocated g && !decide (f = g)) := by
  rw [isAllocated_eq, isAllocated_eq]
  simp only [discharge, UInt64.toBitVec_and, UInt64.toBitVec_not, toBitVec_frameBit]
  rw [BitSet.getLsbD_and_not_bit g.isLt]
  simp [Fin.ext_iff]

@[simp] theorem put_frames : (p.put f m).frames g = if g = f then m else p.frames g :=
  Function.update_apply ..

@[simp] theorem claim_frames : (p.claim i f m).frames g = if g = f then m else p.frames g :=
  Function.update_apply ..

@[simp] theorem discharge_frames :
    (p.discharge f).frames g = if g = f then {} else p.frames g := Function.update_apply ..

/-- Giving a block back undoes taking it, for a block that had been given
back before. -/
theorem discharge_claim (hfree : p.isAllocated f = false) (hroom : p.used i < 0xFFFFFFFFFFFFFFFF)
    (hm : interfaceIndex? m.sourceInterface.toUInt32 = some i) :
    (p.claim i f m).discharge f = p.put f {} := by
  have hused : p.used i + 1 > 0 ∧ p.used i + 1 - 1 = p.used i := by
    refine ⟨?_, by simp⟩
    rw [gt_iff_lt, UInt64.lt_iff_toNat_lt, UInt64.toNat_add]
    rw [UInt64.lt_iff_toNat_lt] at hroom
    have h1 : (1 : UInt64).toNat = 1 := rfl
    have h0 : (0 : UInt64).toNat = 0 := rfl
    have hmax : (0xFFFFFFFFFFFFFFFF : UInt64).toNat = 2 ^ 64 - 1 := rfl
    omega
  refine Pool.ext rfl ?_ ?_ ?_
  · -- the bit was clear
    apply UInt64.toBitVec_inj.mp
    apply BitVec.eq_of_getLsbD_eq
    intro k hk
    rw [isAllocated_eq] at hfree
    simp only [discharge, claim, put, UInt64.toBitVec_and, UInt64.toBitVec_not, UInt64.toBitVec_or,
      toBitVec_frameBit]
    rw [BitSet.getLsbD_and_not_bit hk, BitSet.getLsbD_or_bit hk]
    by_cases hfk : f.val = k
    · subst hfk
      rw [hfree]
      simp
    · simp [hfk]
  · funext g
    by_cases hg : g = f <;> simp [hg]
  · simp only [discharge, claim_frames, if_true, hm]
    funext j
    by_cases hj : j = i
    · subst hj
      simp [claim, put, hused]
    · simp [claim, put, Function.update_of_ne hj]

end Pool

/-- The pool of a context. -/
def LinuxShmIpc.pool (ipc : LinuxShmIpc) : Pool :=
  ⟨ipc.initialized, ipc.allocationBitmap, ipc.frames, fun i => (ipc.stats.interfaceQuota i).used⟩

variable {ipc : LinuxShmIpc} {i : Fin 6} {f : Fin 64}

theorem LinuxShmIpc.isAllocated_pool : ipc.pool.isAllocated f = ipc.isAllocated f := rfl

theorem LinuxShmIpc.pool_modifyFrame {g : FrameMeta → FrameMeta} :
    (ipc.modifyFrame f g).pool = ipc.pool.put f (g (ipc.frames f)) := rfl

theorem LinuxShmIpc.pool_modifyQuota (ipc : LinuxShmIpc) (i : Fin 6)
    (g : InterfaceQuotaStats → InterfaceQuotaStats) :
    ({ ipc with stats := ipc.stats.modifyQuota i g } : LinuxShmIpc).pool =
      { ipc.pool with
        used := Function.update ipc.pool.used i (g (ipc.stats.interfaceQuota i)).used } := by
  refine Pool.ext rfl rfl rfl ?_
  funext j
  by_cases hj : j = i
  · subst hj
    simp [LinuxShmIpc.pool, LinuxShmIpcStats.modifyQuota]
  · simp [LinuxShmIpc.pool, LinuxShmIpcStats.modifyQuota, Function.update_of_ne hj]

theorem LinuxShmIpc.pool_modifyRxRing (ipc : LinuxShmIpc) (i : Fin 6)
    (g : RxRingStats → RxRingStats) :
    ({ ipc with stats := ipc.stats.modifyRxRing i g } : LinuxShmIpc).pool = ipc.pool := rfl

/-- The record of a block just allocated. -/
def allocatedMeta (sourceInterface : PutShmInterface) (sequence : UInt64) : FrameMeta :=
  { state := .allocated
    sourceInterface := sourceInterface.toUInt8
    targetInterface := 0
    pendingReclaim := false
    allocationSequence := sequence }

theorem LinuxShmIpc.pool_claim {source : PutShmInterface} :
    (ipc.claim i source f).pool =
      ipc.pool.claim i f (allocatedMeta source (ipc.allocationSequence + 1)) := by
  refine Pool.ext rfl rfl rfl ?_
  funext j
  by_cases hj : j = i
  · subst hj
    simp [LinuxShmIpc.pool, LinuxShmIpc.claim, LinuxShmIpcStats.modifyQuota, Pool.claim]
  · simp [LinuxShmIpc.pool, LinuxShmIpc.claim, LinuxShmIpcStats.modifyQuota, Pool.claim, Pool.put,
      Function.update_of_ne hj]

theorem LinuxShmIpc.pool_discharge {reason : UInt32} :
    (ipc.discharge f reason).pool = ipc.pool.discharge f := by
  refine Pool.ext rfl rfl rfl ?_
  funext j
  simp only [LinuxShmIpc.pool, LinuxShmIpc.discharge, Pool.discharge]
  cases h : interfaceIndex? (ipc.frames f).sourceInterface.toUInt32 with
  | none => rfl
  | some i =>
    by_cases hj : j = i
    · subst hj
      simp [LinuxShmIpcStats.modifyQuota]
    · simp [LinuxShmIpcStats.modifyQuota, Function.update_of_ne hj]

/-- Setting a quota leaves the pool. -/
theorem linuxShmIpcSetInterfaceQuota_pool {id : PutShmInterface} {quota : UInt64} :
    (linuxShmIpcSetInterfaceQuota ipc id quota).2.pool = ipc.pool := by
  unfold linuxShmIpcSetInterfaceQuota
  split
  · rfl
  next i hi =>
  split
  · rfl
  · have hpool := LinuxShmIpc.pool_modifyQuota ipc i fun q => { q with quota := quota }
    exact hpool.trans (Pool.ext rfl rfl rfl (Function.update_eq_self i _))

/-! ## Allocation and release -/

theorem LinuxShmIpc.firstFree_eq_some (h : ipc.firstFree = some f) : ipc.isAllocated f = false := by
  have := List.find?_some h
  simpa using this

/-- **The ends of `linux_shm_frame_alloc`.** It fails and leaves the
pool, or takes a block whose bit was clear into use. -/
theorem linuxShmFrameAlloc_cases (ipc : LinuxShmIpc) (source : PutShmInterface) :
    ((linuxShmFrameAlloc ipc source).1 ≠ .ok ∧ (linuxShmFrameAlloc ipc source).2.1 = none ∧
      (linuxShmFrameAlloc ipc source).2.2.pool = ipc.pool) ∨
    ∃ i f, ipc.initialized = true ∧ interfaceIndex? source = some i ∧ ipc.isAllocated f = false ∧
      (ipc.stats.interfaceQuota i).used < (ipc.stats.interfaceQuota i).quota ∧
      linuxShmFrameAlloc ipc source = (.ok, some f, ipc.claim i source f) := by
  unfold linuxShmFrameAlloc
  split
  · exact .inl ⟨by simp, rfl, rfl⟩
  next hinit =>
  split
  · exact .inl ⟨by simp, rfl, rfl⟩
  next i hi =>
  split
  · refine .inl ⟨by simp, rfl, ?_⟩
    have hquota := LinuxShmIpc.pool_modifyQuota ipc i fun q => { q with fullCount := q.fullCount + 1 }
    refine hquota.trans (Pool.ext rfl rfl rfl ?_)
    exact Function.update_eq_self i _
  next hquota =>
  split
  · exact .inl ⟨by simp, rfl, rfl⟩
  split
  · next f hf =>
    exact .inr ⟨i, f, by simpa using hinit, hi, LinuxShmIpc.firstFree_eq_some hf,
      UInt64.not_le.mp hquota, rfl⟩
  · exact .inl ⟨by simp, rfl, rfl⟩

/-- A block Linux may release. -/
def FrameMeta.releasable (m : FrameMeta) : Prop :=
  m.state = .allocated ∨ m.state = .txReady ∨ m.state = .pendingReclaim ∨ m.pendingReclaim = true

/-- **The ends of `linux_shm_frame_release`.** It changes nothing, or
gives the block back. -/
theorem linuxShmFrameRelease_cases (ipc : LinuxShmIpc) (frameId reason : UInt32) :
    ((linuxShmFrameRelease ipc frameId reason).1 ≠ .ok ∧
      (linuxShmFrameRelease ipc frameId reason).2 = ipc) ∨
    ∃ f, frameIndex? frameId = some f ∧ ipc.isAllocated f = true ∧ (ipc.frames f).releasable ∧
      linuxShmFrameRelease ipc frameId reason = (.ok, ipc.discharge f reason) := by
  unfold linuxShmFrameRelease
  split
  · exact .inl ⟨by simp, rfl⟩
  split
  · exact .inl ⟨by simp, rfl⟩
  next f hf =>
  split
  · exact .inl ⟨by simp, rfl⟩
  next halloc =>
  split
  · exact .inl ⟨by simp, rfl⟩
  split
  · exact .inl ⟨by simp, rfl⟩
  next hstate =>
  refine .inr ⟨f, hf, by simpa using halloc, ?_, rfl⟩
  simp only [Bool.and_eq_true, decide_eq_true_eq, Bool.not_eq_true', not_and, ne_eq] at hstate
  unfold FrameMeta.releasable
  by_contra hne
  push Not at hne
  exact absurd (hstate ⟨⟨hne.1, hne.2.1⟩, hne.2.2.1⟩) (by simpa using hne.2.2.2)

/-- A block Linux holds itself can be released. -/
theorem linuxShmFrameRelease_of_releasable (hinit : ipc.initialized = true) {frameId : UInt32}
    (hf : frameIndex? frameId = some f) (halloc : ipc.isAllocated f = true)
    (hstate : (ipc.frames f).releasable) (reason : UInt32) :
    linuxShmFrameRelease ipc frameId reason = (.ok, ipc.discharge f reason) := by
  rcases linuxShmFrameRelease_cases ipc frameId reason with ⟨hres, -⟩ | ⟨g, hg, -, -, heq⟩
  · exfalso
    apply hres
    simp only [linuxShmFrameRelease, hinit, hf, halloc]
    rcases hstate with h | h | h | h <;> simp [h]
  · rw [heq, Option.some.inj (hg.symm.trans hf)]

/-! ## Validation and formatting -/

theorem validateDescriptorRing_eq_ok_iff {ring : DescriptorRing} {kind : RingKind}
    {direction : Direction} {interfaceId : UInt8} :
    validateDescriptorRing ring kind interfaceId direction = .ok ↔
      ring.Abi kind direction ∧ ring.header.interfaceId = interfaceId := by
  simp only [validateDescriptorRing, Bool.or_eq_true, decide_eq_true_eq]
  rw [checks_eq_ok_iff]
  push Not
  constructor
  · rintro ⟨h1, h2, h3⟩
    exact ⟨⟨h1.1.1, h1.1.2, h1.2, h2.1.1.1, h2.1.1.2, h2.1.2, h2.2, h3.1.1, h3.2⟩, h3.1.2⟩
  · rintro ⟨habi, hid⟩
    exact ⟨⟨⟨habi.magic, habi.version⟩, habi.headerSize⟩,
      ⟨⟨⟨habi.headerDepth, habi.headerDescriptorSize⟩, habi.producerDepth⟩,
        habi.producerDescriptorSize⟩, ⟨habi.ringKind, hid⟩, habi.direction⟩

theorem validateReclaimRing_eq_ok_iff {ring : ReclaimRing} :
    validateReclaimRing ring = .ok ↔ ring.Abi .reclaim .rtosToLinux := by
  simp only [validateReclaimRing, Bool.or_eq_true, decide_eq_true_eq]
  rw [checks_eq_ok_iff]
  push Not
  constructor
  · rintro ⟨h1, h2, h3⟩
    exact ⟨h1.1.1, h1.1.2, h1.2, h2.1.1.1, h2.1.1.2, h2.1.2, h2.2, h3.1, h3.2⟩
  · intro habi
    exact ⟨⟨⟨habi.magic, habi.version⟩, habi.headerSize⟩,
      ⟨⟨⟨habi.headerDepth, habi.headerDescriptorSize⟩, habi.producerDepth⟩,
        habi.producerDescriptorSize⟩, habi.ringKind, habi.direction⟩

private theorem validateRings_eq_ok {R : Region} {l : List (Fin 6)} (h : validateRings R l = .ok) :
    ∀ i ∈ l, validateDescriptorRing (R.rxRings i) .rx (UInt8.ofNat i) .linuxToRtos = .ok ∧
      validateDescriptorRing (R.txRings i) .tx (UInt8.ofNat i) .rtosToLinux = .ok := by
  induction l with
  | nil => simp
  | cons j rest ih =>
    simp only [validateRings] at h
    split at h
    · next hrx => exact absurd h hrx
    next hrx =>
    split at h
    · next htx => exact absurd h htx
    next htx =>
    intro i hi
    rcases List.mem_cons.mp hi with rfl | hi
    · exact ⟨not_not.mp hrx, not_not.mp htx⟩
    · exact ih h i hi

/-- The region checks accept valid regions only. -/
theorem validateRegion_valid {R : Region} (h : validateRegion R = .ok) : R.Valid := by
  simp only [validateRegion] at h
  split at h
  · next hheader => exact absurd h hheader
  split at h
  · next hrings => exact absurd h hrings
  next hrings =>
  have hring := validateRings_eq_ok (not_not.mp hrings)
  exact
    { rx := fun i => (validateDescriptorRing_eq_ok_iff.mp (hring i (List.mem_finRange i)).1).1
      rxInterface := fun i => (validateDescriptorRing_eq_ok_iff.mp (hring i (List.mem_finRange i)).1).2
      tx := fun i => (validateDescriptorRing_eq_ok_iff.mp (hring i (List.mem_finRange i)).2).1
      txInterface := fun i => (validateDescriptorRing_eq_ok_iff.mp (hring i (List.mem_finRange i)).2).2
      reclaim := validateReclaimRing_eq_ok_iff.mp h }

/-- A formatted region is valid. -/
theorem formatRegion_valid (linuxEpoch rtosEpoch : UInt32) :
    (formatRegion linuxEpoch rtosEpoch).Valid where
  rx _ := ⟨rfl, rfl, rfl, rfl, rfl, rfl, rfl, rfl, rfl⟩
  rxInterface _ := rfl
  tx _ := ⟨rfl, rfl, rfl, rfl, rfl, rfl, rfl, rfl, rfl⟩
  txInterface _ := rfl
  reclaim := ⟨rfl, rfl, rfl, rfl, rfl, rfl, rfl, rfl, rfl⟩

/-- The queues of a formatted region are empty. -/
theorem formatRegion_view (linuxEpoch rtosEpoch : UInt32) :
    (formatRegion linuxEpoch rtosEpoch).view = ⟨fun _ => [], fun _ => [], []⟩ := by
  refine Queues.ext ?_ ?_ ?_
  · funext i
    exact Ring.unread_eq_nil_iff.mpr rfl
  · funext i
    exact Ring.unread_eq_nil_iff.mpr rfl
  · exact Ring.unread_eq_nil_iff.mpr rfl

/-- The pool after a start: no block is in use. -/
def Pool.fresh : Pool := ⟨true, 0, fun _ => {}, fun _ => 0⟩

theorem resetLocalState_pool : (resetLocalState { initialized := true }).pool = Pool.fresh := rfl

@[simp] theorem Pool.isAllocated_fresh : Pool.fresh.isAllocated f = false := by
  simp [Pool.isAllocated_eq, Pool.fresh]

/-! ## Publishing on an RX ring -/

variable {P : Platform} {shm : LinuxShm} {R : Region}

/-- What the counters of Linux leave alone is left alone by an
announcement. -/
theorem announceRx_core {β : Type} {π : LinuxShmIpc → β} {bit : UInt32} {wasEmpty : Bool}
    {io : RingIo Descriptor LinuxShmIpc} (hErr : ∀ c, π c.recordCacheSyncError = π c)
    (hFail : ∀ c, π c.recordNotifyFail = π c) (hBell : ∀ c, π c.recordDoorbell = π c) :
    π (announceRx P bit wasEmpty io).2.core = π io.core := by
  unfold announceRx
  simp only
  split
  · exact RingIo.cacheOp_core hErr
  split
  · rw [RingIo.recordNotifyFail, RingIo.cacheOp_core hErr, hFail, RingIo.setPendingBit_core,
      RingIo.cacheOp_core hErr]
  · rw [RingIo.ringDoorbell_core hErr hFail hBell, RingIo.setPendingBit_core,
      RingIo.cacheOp_core hErr]

/-- Announcing an RX descriptor succeeds, and touches counters and
statistics only. -/
theorem announceRx_spec (P : Platform) (bit : UInt32) (wasEmpty : Bool)
    (io : RingIo Descriptor LinuxShmIpc) :
    (announceRx P bit wasEmpty io).1 = .ok ∧
    Ring.Kept io.ring (announceRx P bit wasEmpty io).2.ring ∧
    (announceRx P bit wasEmpty io).2.core.pool = io.core.pool := by
  have hpool : (announceRx P bit wasEmpty io).2.core.pool = io.core.pool :=
    announceRx_core (fun _ => rfl) (fun _ => rfl) fun _ => rfl
  unfold announceRx at hpool ⊢
  simp only at hpool ⊢
  split
  · exact ⟨rfl, .of_eq RingIo.cacheOp_ring, RingIo.cacheOp_core fun _ => rfl⟩
  next hflush =>
  rw [if_neg hflush] at hpool
  split
  · next hmark =>
    rw [if_pos hmark] at hpool
    refine ⟨rfl, ?_, hpool⟩
    simp only [RingIo.recordNotifyFail, RingIo.cacheOp_ring, RingIo.setPendingBit_ring]
    exact Ring.kept_producer rfl rfl rfl
  · next hmark =>
    rw [if_neg hmark] at hpool
    refine ⟨RingIo.ringDoorbell_fst, ?_, hpool⟩
    refine Ring.Kept.trans (.of_eq ?_) RingIo.ringDoorbell_kept
    rw [RingIo.setPendingBit_ring, RingIo.cacheOp_ring]

/-- **The ends of `linux_shm_enqueue_rx_descriptor`.** It fails, and the
pool is as before and nothing is published; or the entry is published
and its block handed to the RX ring. -/
theorem linuxShmEnqueueRxDescriptor_cases (P : Platform) (shm : LinuxShm) (id : PutShmInterface)
    (d : Descriptor) :
    let r := linuxShmEnqueueRxDescriptor P shm id d
    (r.1 ≠ .ok ∧ r.2.ipc.pool = shm.ipc.pool ∧
      (shm.region.Kept r.2.region ∨
        ∃ i, (shm.region.rxRings i).used < (shm.region.rxRings i).producer.depth ∧
          (shm.region.stageRx i d.sealed).Kept r.2.region)) ∨
    (r.1 = .ok ∧ ∃ i f, interfaceIndex? id = some i ∧ frameIndex? d.frameId = some f ∧
      d.sourceInterface = id.toUInt8 ∧ validateDescriptorBounds d = .ok ∧
      shm.ipc.isAllocated f = true ∧ (shm.ipc.frames f).state = .allocated ∧
      (shm.ipc.frames f).sourceInterface = id.toUInt8 ∧
      (shm.region.rxRings i).used < (shm.region.rxRings i).producer.depth ∧
      (shm.region.publishRx i d.sealed).Kept r.2.region ∧
      r.2.ipc.pool = shm.ipc.pool.put f { shm.ipc.frames f with
        state := .rxQueued, targetInterface := d.targetInterface }) := by
  simp only [linuxShmEnqueueRxDescriptor]
  split
  · exact .inl ⟨by simp, rfl, .inl (.refl _)⟩
  split
  · exact .inl ⟨by simp, rfl, .inl (.refl _)⟩
  next i hi =>
  split
  · next h => exact .inl ⟨h, rfl, .inl (.refl _)⟩
  split
  · next h => exact .inl ⟨h, rfl, .inl (.refl _)⟩
  next hbounds =>
  split
  · exact .inl ⟨by simp, rfl, .inl (.refl _)⟩
  next hsource =>
  split
  · exact .inl ⟨by simp, rfl, .inl (.refl _)⟩
  next f hf =>
  split
  · exact .inl ⟨by simp, rfl, .inl (.refl _)⟩
  next hmeta =>
  simp only [Bool.or_eq_true, Bool.not_eq_true', decide_eq_true_eq, not_or, not_not,
    Bool.not_eq_false] at hmeta
  -- past the checks the ring decides; a refused entry may still be staged
  rcases RingIo.enqueue_cases (shm.rxIo i) LinuxShmIpc.recordCacheSyncError
      (LinuxShmIpc.recordRxFull i) (LinuxShmIpc.handToRx i f d.targetInterface)
      (announceRx P (interfacePendingBit id.toUInt8)) d.sealed P LinuxShmIpc.pool (fun _ => rfl)
      (fun c => (LinuxShmIpc.pool_modifyRxRing c i _)) with
    ⟨hres, hring, -, hpool⟩ | ⟨hused, -, -, heq⟩
  · refine .inl ⟨hres, hpool, ?_⟩
    rcases hring with hk | ⟨hused, hk⟩
    · exact .inl (Region.kept_setRx hk)
    · exact .inr ⟨i, hused, Region.setRx_kept hk⟩
  · right
    obtain ⟨hok, hkept, hpool⟩ := announceRx_spec P (interfacePendingBit id.toUInt8)
      ((shm.rxIo i).ring.producer.writeSeq == (shm.rxIo i).ring.consumer.readSeq)
      ((shm.rxIo i).published (LinuxShmIpc.handToRx i f d.targetInterface) d.sealed)
    rw [heq]
    exact ⟨hok, i, f, hi, hf, not_not.mp hsource, not_not.mp hbounds, hmeta.1.1, hmeta.1.2, hmeta.2,
      hused, Region.setRx_kept (RingIo.published_kept.trans hkept), hpool⟩

/-- What `linux_shm_enqueue_rx_descriptor` asks of a descriptor: it is
within bounds, it names the ring's interface as its source, and its block
is one that interface has allocated. -/
structure RxReady (i : Fin 6) (p : Pool) (d : Descriptor) : Prop where
  bounds : validateDescriptorBounds d = .ok
  source : d.sourceInterface = UInt8.ofNat i
  frame : ∃ f, frameIndex? d.frameId = some f ∧ p.isAllocated f = true ∧
    (p.frames f).state = .allocated ∧ (p.frames f).sourceInterface = UInt8.ofNat i

/-- With calls that succeed, a descriptor that is ready is refused on a
full ring and published on any other; one that is not is refused for
another reason. -/
theorem linuxShmEnqueueRxDescriptor_succeeds (hP : P.Succeeds) (hinit : shm.ipc.initialized = true)
    (hv : shm.region.Valid) (i : Fin 6) (d : Descriptor) :
    let e := (linuxShmEnqueueRxDescriptor P shm (interfaceOfIndex i) d).1
    (¬ RxReady i shm.ipc.pool d ∧ e ≠ .ok ∧ e ≠ .ipcQueueFull) ∨
    (RxReady i shm.ipc.pool d ∧ 8 ≤ (shm.region.view.rx i).length ∧ e = .ipcQueueFull) ∨
    (RxReady i shm.ipc.pool d ∧ (shm.region.view.rx i).length < 8 ∧ e = .ok) := by
  have hring : validateDescriptorRing (shm.region.rxRings i) .rx (UInt8.ofNat i) .linuxToRtos =
      .ok := validateDescriptorRing_eq_ok_iff.mpr ⟨hv.rx i, hv.rxInterface i⟩
  simp only [linuxShmEnqueueRxDescriptor, interfaceIndex?_interfaceOfIndex, hinit, hring,
    toUInt8_interfaceOfIndex]
  by_cases hbounds : validateDescriptorBounds d = .ok
  swap
  · refine .inl ⟨fun h => hbounds h.bounds, ?_⟩
    simpa [hbounds] using validateDescriptorBounds_ne_full
  by_cases hsource : d.sourceInterface = UInt8.ofNat i
  swap
  · refine .inl ⟨fun h => hsource h.source, ?_⟩
    simp [hbounds, hsource]
  cases hf : frameIndex? d.frameId with
  | none =>
    refine .inl ⟨fun h => ?_, ?_⟩
    · obtain ⟨f, hf', -⟩ := h.frame
      cases hf.symm.trans hf'
    · simp [hbounds, hsource]
  | some f =>
    by_cases hmeta : shm.ipc.isAllocated f = true ∧ (shm.ipc.frames f).state = .allocated ∧
        (shm.ipc.frames f).sourceInterface = UInt8.ofNat i
    swap
    · -- the block is not the interface's to publish
      refine .inl ⟨fun h => ?_, ?_⟩
      · obtain ⟨g, hg, hframe⟩ := h.frame
        obtain rfl : f = g := Option.some.inj (hf.symm.trans hg)
        exact hmeta hframe
      · simp only [not_and] at hmeta
        by_cases h1 : shm.ipc.isAllocated f = true
        · by_cases h2 : (shm.ipc.frames f).state = .allocated
          · simp [hbounds, hsource, h1, h2, hmeta h1 h2]
          · simp [hbounds, hsource, h1, h2]
        · simp [hbounds, hsource, h1]
    obtain ⟨h1, h2, h3⟩ := hmeta
    have hready : RxReady i shm.ipc.pool d := ⟨hbounds, hsource, f, hf, h1, h2, h3⟩
    have hfull : (shm.rxIo i).ring.producer.depth ≤ (shm.rxIo i).ring.used ↔
        8 ≤ (shm.region.view.rx i).length := by
      rw [← UInt32.not_lt, ← not_lt]
      exact not_congr hv.rx_room
    rcases RingIo.enqueue_succeeds (shm.rxIo i) LinuxShmIpc.recordCacheSyncError
        (LinuxShmIpc.recordRxFull i) (LinuxShmIpc.handToRx i f d.targetInterface)
        (announceRx P (interfacePendingBit (UInt8.ofNat i))) d.sealed hP with
      ⟨hused, hres, -⟩ | ⟨hused, heq⟩
    · refine .inr (.inl ⟨hready, hfull.mp hused, ?_⟩)
      simpa [hbounds, hsource, h1, h2, h3] using hres
    · refine .inr (.inr ⟨hready, hv.rx_room.mp hused, ?_⟩)
      obtain ⟨hok, -, -⟩ := announceRx_spec P (interfacePendingBit (UInt8.ofNat i))
        ((shm.rxIo i).ring.producer.writeSeq == (shm.rxIo i).ring.consumer.readSeq)
        ((shm.rxIo i).published (LinuxShmIpc.handToRx i f d.targetInterface) d.sealed)
      rw [← heq] at hok
      simpa [hbounds, hsource, h1, h2, h3] using hok

private theorem cacheOp_spec (P : Platform) (shm : LinuxShm) :
    (shm.cacheOp P).1 = P.outcome shm.calls ∧ (shm.cacheOp P).2.region = shm.region ∧
      (shm.cacheOp P).2.ipc.pool = shm.ipc.pool := by
  refine ⟨rfl, ?_⟩
  unfold LinuxShm.cacheOp
  simp only
  split <;> exact ⟨rfl, rfl⟩

/-- **The ends of `linux_shm_frame_commit_rx`.** It fails, and the pool is
as before and nothing is published; or one descriptor is published and
its block, allocated before, is queued. -/
theorem linuxShmFrameCommitRx_cases (P : Platform) (shm : LinuxShm) (c : Commit) :
    ((c.run P shm).1 ≠ .ok ∧ (c.run P shm).2.ipc.pool = shm.ipc.pool ∧
      (shm.region.Kept (c.run P shm).2.region ∨
        ∃ i, (shm.region.rxRings i).used < (shm.region.rxRings i).producer.depth ∧
          (shm.region.stageRx i c.descriptor.sealed).Kept (c.run P shm).2.region)) ∨
    ((c.run P shm).1 = .ok ∧ ∃ i f, interfaceIndex? c.source = some i ∧
      frameIndex? c.frameId = some f ∧ isInterfaceValid c.target.toUInt8 = true ∧
      validateDescriptorBounds c.descriptor = .ok ∧
      shm.ipc.isAllocated f = true ∧ (shm.ipc.frames f).state = .allocated ∧
      (shm.ipc.frames f).sourceInterface = c.source.toUInt8 ∧
      (shm.region.rxRings i).used < (shm.region.rxRings i).producer.depth ∧
      (shm.region.publishRx i c.descriptor.sealed).Kept (c.run P shm).2.region ∧
      (c.run P shm).2.ipc.pool = shm.ipc.pool.put f { shm.ipc.frames f with
        state := .rxQueued, targetInterface := c.target.toUInt8 }) := by
  unfold Commit.run linuxShmFrameCommitRx
  split
  · exact .inl ⟨by simp, rfl, .inl (.refl _)⟩
  split
  · exact .inl ⟨by simp, rfl, .inl (.refl _)⟩
  next f hf =>
  split
  · exact .inl ⟨by simp, rfl, .inl (.refl _)⟩
  next hifaces =>
  split
  · exact .inl ⟨by simp, rfl, .inl (.refl _)⟩
  split
  · exact .inl ⟨by simp, rfl, .inl (.refl _)⟩
  obtain ⟨hres, hregion, hpool⟩ := cacheOp_spec P shm
  by_cases hsync : (shm.cacheOp P).1 = .ok
  swap
  · -- the block could not be flushed
    rw [andThen_of_ne hsync]
    exact .inl ⟨hsync, hpool, .inl (hregion ▸ .refl _)⟩
  rw [andThen_of_ok hsync]
  generalize (shm.cacheOp P).2 = synced at hregion hpool
  have hdesc : rxDescriptor c.frameId c.frameLength c.source c.target c.sourceCid c.destinationCid
      c.type c.priority c.ttl c.epoch c.flags = c.descriptor := rfl
  have hframe : synced.ipc.frames f = shm.ipc.frames f := congrFun (congrArg Pool.frames hpool) f
  have halloc : synced.ipc.isAllocated f = shm.ipc.isAllocated f :=
    congrArg (Pool.isAllocated · f) hpool
  have hcases := linuxShmEnqueueRxDescriptor_cases P synced c.source c.descriptor
  simp only [hdesc]
  generalize linuxShmEnqueueRxDescriptor P synced c.source c.descriptor = r at hcases ⊢
  rcases hcases with
    ⟨hres, hpool', hring⟩ | ⟨hok, i, g, hi, hg, -, hbounds, hg1, hg2, hg3, hroom, hk, hpool'⟩
  · rw [if_neg hres]
    rw [hregion] at hring
    exact .inl ⟨hres, hpool'.trans hpool, hring⟩
  · obtain rfl : f = g := Option.some.inj (hf.symm.trans hg)
    rw [if_pos hok]
    rw [hregion] at hroom hk
    rw [halloc] at hg1
    rw [hframe] at hg2 hg3 hpool'
    simp only [Bool.or_eq_true, Bool.not_eq_true', not_or, Bool.not_eq_false] at hifaces
    refine .inr ⟨hok, i, f, hi, hf, hifaces.2, hbounds, hg1, hg2, hg3, hroom, hk, ?_⟩
    -- the record is written a second time, with the same values
    have hput : r.2.ipc.frames f = { shm.ipc.frames f with
        state := .rxQueued, targetInterface := c.target.toUInt8 } :=
      (congrFun (congrArg Pool.frames hpool') f).trans (Function.update_self ..)
    simp only [LinuxShmIpc.pool_modifyFrame, hput, hpool', hpool]
    exact Pool.ext rfl rfl (Function.update_idem ..) rfl

/-! ## Taking from the RTOS -/

/-- Linux has handed the block to the RTOS, for the given source. -/
structure Pool.Queued (p : Pool) (f : Fin 64) (source : UInt8) : Prop where
  allocated : p.isAllocated f = true
  state : (p.frames f).state = .rxQueued
  source : (p.frames f).sourceInterface = source

/-- What the checks on a TX descriptor ask for. -/
theorem checkTxDescriptor_eq_ok_iff {d : Descriptor} :
    checkTxDescriptor (interfaceOfIndex i) ipc d = .ok ↔
      validateDescriptorBounds d = .ok ∧ d.targetInterface = UInt8.ofNat i ∧
        ∃ f, frameIndex? d.frameId = some f ∧ ipc.pool.Queued f d.sourceInterface := by
  unfold checkTxDescriptor
  by_cases hbounds : validateDescriptorBounds d = .ok
  swap
  · simp [hbounds]
  by_cases htarget : d.targetInterface = UInt8.ofNat i
  swap
  · simp [hbounds, htarget, toUInt8_interfaceOfIndex]
  rw [if_neg (not_not.mpr hbounds), if_neg (by simp [htarget, toUInt8_interfaceOfIndex])]
  cases hf : frameIndex? d.frameId with
  | none => simp
  | some f =>
    simp only [hbounds, htarget, true_and, Option.some.injEq, exists_eq_left']
    constructor
    · intro h
      split_ifs at h with h1 h2
      simp only [Bool.or_eq_true, decide_eq_true_eq, not_or, not_not, ne_eq] at h2
      have h1' : ipc.isAllocated f = true := by simpa using h1
      exact ⟨h1', h2.1, h2.2⟩
    · rintro ⟨h1, h2, h3⟩
      have h1' : ipc.isAllocated f = true := h1
      have h2' : (ipc.frames f).state = .rxQueued := h2
      have h3' : (ipc.frames f).sourceInterface = d.sourceInterface := h3
      simp [h1', h2', h3']

/-- What the checks on a reclaim descriptor ask for. -/
theorem checkReclaimDescriptor_eq_ok_iff {d : ReclaimDescriptor} :
    checkReclaimDescriptor ipc d = .ok ↔
      d.reason ≤ ReclaimReason.queueFull.code ∧
        ∃ f, frameIndex? d.frameId = some f ∧ ipc.pool.Queued f d.sourceInterface ∧
          (ipc.frames f).targetInterface = d.targetInterface := by
  unfold checkReclaimDescriptor
  cases hf : frameIndex? d.frameId with
  | none => simp
  | some f =>
    simp only [Option.some.injEq, exists_eq_left']
    constructor
    · intro h
      split_ifs at h with h1 h2
      simp only [Bool.or_eq_true, Bool.not_eq_true', decide_eq_true_eq, not_or, not_not, ne_eq,
        Bool.not_eq_false] at h2
      exact ⟨UInt32.not_lt.mp h1, ⟨h2.1.1.1, h2.1.1.2, h2.1.2⟩, h2.2⟩
    · rintro ⟨h1, ⟨h2, h3, h4⟩, h5⟩
      have h2' : ipc.isAllocated f = true := h2
      have h3' : (ipc.frames f).state = .rxQueued := h3
      have h4' : (ipc.frames f).sourceInterface = d.sourceInterface := h4
      simp only [h2', h3', h4', h5]
      rw [if_neg (UInt32.not_lt.mpr h1)]
      simp

/-- The checks report no empty ring. -/
theorem checkTxDescriptor_ne_empty {id : PutShmInterface} {d : Descriptor} :
    checkTxDescriptor id ipc d ≠ .ipcQueueEmpty := by
  unfold checkTxDescriptor
  have hbounds : validateDescriptorBounds d ≠ .ipcQueueEmpty := by
    unfold validateDescriptorBounds
    split_ifs <;> simp
  split
  · exact hbounds
  split
  · simp
  split
  · simp
  · split_ifs <;> simp

theorem checkReclaimDescriptor_ne_empty {d : ReclaimDescriptor} :
    checkReclaimDescriptor ipc d ≠ .ipcQueueEmpty := by
  unfold checkReclaimDescriptor
  split
  · simp
  · split_ifs <;> simp

theorem LinuxShmIpc.pool_markTxReady {d : Descriptor} (hf : frameIndex? d.frameId = some f) :
    (ipc.markTxReady d).pool = ipc.pool.put f { ipc.frames f with state := .txReady } := by
  simp only [LinuxShmIpc.markTxReady, hf]
  rfl

/-- Taking a reclaim descriptor releases the block it names. -/
theorem LinuxShmIpc.pool_takeReclaim {d : ReclaimDescriptor} (hinit : ipc.initialized = true)
    (hf : frameIndex? d.frameId = some f) (halloc : ipc.isAllocated f = true) :
    (ipc.takeReclaim d).pool = ipc.pool.discharge f := by
  simp only [LinuxShmIpc.takeReclaim, hf]
  set marked : LinuxShmIpc := { ipc.modifyFrame f fun m =>
      { m with pendingReclaim := true, state := .pendingReclaim } with
    stats := _ } with hmarked
  have hpool : marked.pool = ipc.pool.put f { ipc.frames f with
      pendingReclaim := true, state := .pendingReclaim } := rfl
  have hframe : marked.frames f = { ipc.frames f with
      pendingReclaim := true, state := .pendingReclaim } := Function.update_self ..
  have hrel : linuxShmFrameRelease marked d.frameId d.reason = (.ok, marked.discharge f d.reason) :=
    linuxShmFrameRelease_of_releasable (show marked.initialized = true from hinit) hf
      (show marked.isAllocated f = true from halloc)
      (.inr (.inr (.inl (congrArg FrameMeta.state hframe)))) _
  have hdischarge : (marked.discharge f d.reason).pool = marked.pool.discharge f :=
    LinuxShmIpc.pool_discharge
  rw [hrel]
  refine Eq.trans hdischarge ?_
  rw [hpool]
  refine Pool.ext rfl rfl (Function.update_idem ..) ?_
  simp only [Pool.discharge, Pool.put_frames, if_true]
  rfl

/-- A TX descriptor Linux takes and hands to egress. -/
structure TxAccepted (i : Fin 6) (ipc : LinuxShmIpc) (d : Descriptor) : Prop where
  crc : descriptorCrc d = d.descriptorCrc16
  check : checkTxDescriptor (interfaceOfIndex i) ipc d = .ok

/-- **The ends of `linux_shm_dequeue_tx_descriptor`.** Nothing is taken;
or the head is taken and refused, and the pool is as before; or it is
taken and its block waits for egress. -/
theorem linuxShmDequeueTxDescriptor_cases (P : Platform) (hv : shm.region.Valid)
    (hinit : shm.ipc.initialized = true) (i : Fin 6) :
    let r := linuxShmDequeueTxDescriptor P shm (interfaceOfIndex i)
    (r.1 ≠ .ok ∧ r.2.1 = none ∧ r.2.2.ipc.pool = shm.ipc.pool ∧
      shm.region.Becomes r.2.2.region shm.region.view ∧
      (P.Succeeds → shm.region.view.tx i = [] ∧ r.1 = .ipcQueueEmpty)) ∨
    ∃ d rest, shm.region.view.tx i = d :: rest ∧
      shm.region.Becomes r.2.2.region (shm.region.view.setTx i rest) ∧
      ((¬ TxAccepted i shm.ipc d ∧ r.1 ≠ .ok ∧ r.1 ≠ .ipcQueueEmpty ∧ r.2.1 = none ∧
          r.2.2.ipc.pool = shm.ipc.pool) ∨
        (TxAccepted i shm.ipc d ∧ r.2.1 = some d ∧
          r.2.2.ipc.pool = (shm.ipc.markTxReady d).pool ∧ (P.Succeeds → r.1 = .ok))) := by
  have hring : validateDescriptorRing (shm.region.txRings i) .tx (interfaceOfIndex i).toUInt8
      .rtosToLinux = .ok :=
    validateDescriptorRing_eq_ok_iff.mpr
      ⟨hv.tx i, (hv.txInterface i).trans (toUInt8_interfaceOfIndex i).symm⟩
  have hrun : linuxShmDequeueTxDescriptor P shm (interfaceOfIndex i) =
      let r := (shm.txIo i).dequeue P (txConsumer (interfaceOfIndex i))
      (r.1, r.2.1, shm.setTxIo i r.2.2) := by
    simp [linuxShmDequeueTxDescriptor, hinit, hring]
  simp only [hrun]
  rcases RingIo.dequeue_ends P (txConsumer (interfaceOfIndex i)) (shm.txIo i) rfl
      (fun _ _ => checkTxDescriptor_ne_empty) LinuxShmIpc.pool (fun _ => rfl) (fun _ => rfl)
      (fun _ => rfl) with
    ⟨hres, hnone, hk, hpool, hempty⟩ | ⟨hne, hk, hends⟩
  · refine .inl ⟨hres, hnone, hpool, (Region.kept_setTx hk).becomes hv, fun hP => ?_⟩
    exact ⟨Ring.unread_eq_nil_iff.mpr (hempty hP).1, (hempty hP).2⟩
  · obtain ⟨rest, hhead, hbecomes⟩ := Region.becomes_takeTx hv hne (Region.setTx_kept hk)
    refine .inr ⟨_, rest, hhead, hbecomes, ?_⟩
    rcases hends with ⟨hbad, hres, hres', hnone, hpool⟩ | ⟨hgood, hsome, hpool, hok⟩
    · exact .inl ⟨fun h => hbad ⟨beq_iff_eq.mpr h.crc, h.check⟩, hres, hres', hnone, hpool⟩
    · exact .inr ⟨⟨beq_iff_eq.mp hgood.1, hgood.2⟩, hsome, hpool,
        fun hP => hok.mpr (RingIo.consumeSucceeds_of_succeeds hP)⟩

/-- A reclaim descriptor Linux takes and acts on. -/
structure ReclaimAccepted (ipc : LinuxShmIpc) (d : ReclaimDescriptor) : Prop where
  crc : reclaimCrc d = d.descriptorCrc16
  check : checkReclaimDescriptor ipc d = .ok

/-- **The ends of `linux_shm_dequeue_reclaim_descriptor`.** Nothing is
taken; or the head is taken and refused, and the pool is as before; or it
is taken and its block released. -/
theorem linuxShmDequeueReclaimDescriptor_cases (P : Platform) (hv : shm.region.Valid)
    (hinit : shm.ipc.initialized = true) :
    let r := linuxShmDequeueReclaimDescriptor P shm
    (r.1 ≠ .ok ∧ r.2.1 = none ∧ r.2.2.ipc.pool = shm.ipc.pool ∧
      shm.region.Becomes r.2.2.region shm.region.view ∧
      (P.Succeeds → shm.region.view.reclaim = [] ∧ r.1 = .ipcQueueEmpty)) ∨
    ∃ d rest, shm.region.view.reclaim = d :: rest ∧
      shm.region.Becomes r.2.2.region (shm.region.view.setReclaim rest) ∧
      ((¬ ReclaimAccepted shm.ipc d ∧ r.1 ≠ .ok ∧ r.1 ≠ .ipcQueueEmpty ∧ r.2.1 = none ∧
          r.2.2.ipc.pool = shm.ipc.pool) ∨
        (ReclaimAccepted shm.ipc d ∧ r.2.1 = some d ∧
          r.2.2.ipc.pool = (shm.ipc.takeReclaim d).pool ∧ (P.Succeeds → r.1 = .ok))) := by
  have hrun : linuxShmDequeueReclaimDescriptor P shm =
      let r := shm.reclaimIo.dequeue P reclaimConsumer
      (r.1, r.2.1, shm.setReclaimIo r.2.2) := by
    simp [linuxShmDequeueReclaimDescriptor, hinit, validateReclaimRing_eq_ok_iff.mpr hv.reclaim]
  simp only [hrun]
  rcases RingIo.dequeue_ends P reclaimConsumer shm.reclaimIo rfl
      (fun _ _ => checkReclaimDescriptor_ne_empty) LinuxShmIpc.pool (fun _ => rfl) (fun _ => rfl)
      (fun _ => rfl) with
    ⟨hres, hnone, hk, hpool, hempty⟩ | ⟨hne, hk, hends⟩
  · refine .inl ⟨hres, hnone, hpool, (Region.kept_setReclaim hk).becomes hv, fun hP => ?_⟩
    exact ⟨Ring.unread_eq_nil_iff.mpr (hempty hP).1, (hempty hP).2⟩
  · obtain ⟨rest, hhead, hbecomes⟩ := Region.becomes_takeReclaim hv hne (Region.setReclaim_kept hk)
    refine .inr ⟨_, rest, hhead, hbecomes, ?_⟩
    rcases hends with ⟨hbad, hres, hres', hnone, hpool⟩ | ⟨hgood, hsome, hpool, hok⟩
    · exact .inl ⟨fun h => hbad ⟨beq_iff_eq.mpr h.crc, h.check⟩, hres, hres', hnone, hpool⟩
    · exact .inr ⟨⟨beq_iff_eq.mp hgood.1, hgood.2⟩, hsome, hpool,
        fun hP => hok.mpr (RingIo.consumeSucceeds_of_succeeds hP)⟩

end Linux

end PutGateway
