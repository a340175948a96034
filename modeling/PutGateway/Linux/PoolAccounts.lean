import PutGateway.Linux.ArrayAccess
import PutGateway.Linux.AdaptersSpec
import PutGateway.Lib.Holding
/-!
# The accounts of the frame pool

Linux counts the blocks in use four times over: in the bitmap, in the use
of the pool, in the use of each interface's quota, and as allocations less
releases. `Balanced` says that the four agree, with the map from blocks to
interfaces as the truth they all count. The decrements of a release are
guarded, which hides an underflow where one could happen; since the
accounts balance, none does.

Nothing here asks for a valid region: an operation on a ring whose header
is broken fails before it touches the accounts.
-/

namespace PutGateway

namespace Linux

variable {P : Platform} {shm shm' : LinuxShm} {ipc ipc' : LinuxShmIpc} {p : Pool} {i j : Fin 6}
  {f g : Fin 64} {m : FrameMeta}

/-! ## Blocks and their interfaces -/

/-- The interface that holds a block. -/
def Pool.holding (p : Pool) (f : Fin 64) : Option (Fin 6) :=
  if p.isAllocated f then interfaceIndex? (p.frames f).sourceInterface.toUInt32 else none

theorem Pool.holding_claim (hm : interfaceIndex? m.sourceInterface.toUInt32 = some i) :
    (p.claim i f m).holding = Function.update p.holding f (some i) := by
  funext g
  unfold Pool.holding
  rw [Pool.isAllocated_claim, Pool.claim_frames]
  by_cases hg : g = f
  · subst hg
    simp [hm]
  · have hfg : f ≠ g := fun h => hg h.symm
    simp [hg, hfg]

theorem Pool.holding_discharge : (p.discharge f).holding = Function.update p.holding f none := by
  funext g
  unfold Pool.holding
  rw [Pool.isAllocated_discharge, Pool.discharge_frames]
  by_cases hg : g = f
  · subst hg
    simp
  · have hfg : f ≠ g := fun h => hg h.symm
    simp [hg, hfg]

/-- A new record of the same source leaves the block with its interface. -/
theorem Pool.holding_put (hm : m.sourceInterface = (p.frames f).sourceInterface) :
    (p.put f m).holding = p.holding := by
  funext g
  unfold Pool.holding
  rw [Pool.isAllocated_put, Pool.put_frames]
  by_cases hg : g = f
  · subst hg
    simp [hm]
  · simp [hg]

theorem Pool.holding_isSome : (p.holding f).isSome = true → p.isAllocated f = true := by
  unfold Pool.holding
  split
  · next h => exact fun _ => h
  · simp

/-! ## The counters -/

/-- The counters of the pool that have to balance. -/
@[ext] structure Counts where
  used : UInt64
  highWatermark : UInt64
  allocated : UInt64
  released : UInt64
  pendingReclaim : UInt64

def LinuxShmIpc.counts (ipc : LinuxShmIpc) : Counts :=
  ⟨ipc.stats.framePool.used, ipc.stats.framePool.highWatermark, ipc.stats.framePool.allocated,
    ipc.stats.framePool.released, ipc.stats.framePool.pendingReclaim⟩

/-- The pool with its counters. -/
def LinuxShmIpc.accounts (ipc : LinuxShmIpc) : Pool × Counts := (ipc.pool, ipc.counts)

/-- The accounts balance. -/
structure Balanced (p : Pool) (c : Counts) : Prop where
  /-- A block in use has an interface. -/
  owned : ∀ f, p.isAllocated f = true → (p.holding f).isSome = true
  free : ∀ f, (p.frames f).state = .free ↔ p.isAllocated f = false
  unmarked : ∀ f, (p.frames f).pendingReclaim = false
  pending : c.pendingReclaim = 0
  total : c.used.toNat = Holding.total p.holding
  quota : ∀ i, (p.used i).toNat = Holding.held p.holding i
  difference : c.used = c.allocated - c.released
  watermark : c.used ≤ c.highWatermark

theorem Balanced.fresh {c : Counts} (hc : c = ⟨0, 0, 0, 0, 0⟩) : Balanced Pool.fresh c := by
  subst hc
  have hnone : ∀ f, Pool.fresh.holding f = none := by
    intro f
    simp [Pool.holding]
  refine ⟨fun f hf => ?_, fun f => ?_, fun f => rfl, rfl, ?_, fun i => ?_, rfl, ?_⟩
  · simp at hf
  · rw [Pool.isAllocated_fresh]
    simp [Pool.fresh]
  · simp [Holding.total, hnone]
  · simp only [Holding.held, hnone]
    simp [Pool.fresh]
  · exact UInt64.le_refl 0

theorem Balanced.total_le {c : Counts} (h : Balanced p c) : c.used.toNat ≤ 64 := by
  have hle := Holding.total_le p.holding
  rw [Fintype.card_fin] at hle
  exact h.total ▸ hle

theorem Balanced.quota_le {c : Counts} (h : Balanced p c) (i : Fin 6) : (p.used i).toNat ≤ 64 := by
  have hle : Holding.held p.holding i ≤ Holding.total p.holding := Holding.held_le_total
  have htotal := h.total_le
  have hheld := h.quota i
  have heq := h.total
  omega

private theorem toNat_succ {a : UInt64} (h : a.toNat ≤ 64) : (a + 1).toNat = a.toNat + 1 := by
  have hone : (1 : UInt64).toNat = 1 := rfl
  rw [UInt64.toNat_add, hone]
  omega

/-- A decrement that is guarded, where the guard holds. -/
private theorem guarded_pred {a : UInt64} {n : ℕ} (h : n + 1 = a.toNat) :
    (if a > 0 then a - 1 else a).toNat = n ∧ (if a > 0 then a - 1 else a) = a - 1 := by
  have hzero : (0 : UInt64).toNat = 0 := rfl
  have hone : (1 : UInt64).toNat = 1 := rfl
  have hpos : a > 0 := by
    rw [gt_iff_lt, UInt64.lt_iff_toNat_lt]
    omega
  rw [if_pos hpos]
  refine ⟨?_, rfl⟩
  rw [UInt64.toNat_sub_of_le _ _ (UInt64.le_iff_toNat_le.mpr (by omega))]
  omega

private theorem watermark_eq (a b : UInt64) : max a b = if a ≤ b then b else a := rfl

private theorem le_watermark (a b : UInt64) : a ≤ max a b := by
  rw [watermark_eq]
  split
  · next h => exact h
  · exact UInt64.le_refl a

/-! ## What keeps the accounts balanced -/

variable {c c' : Counts}

/-- The counts after an allocation. -/
def Counts.claim (c : Counts) : Counts :=
  { c with
    used := c.used + 1
    allocated := c.allocated + 1
    highWatermark := max (c.used + 1) c.highWatermark }

/-- The counts after a release. -/
def Counts.discharge (c : Counts) : Counts :=
  { c with
    used := if c.used > 0 then c.used - 1 else c.used
    released := c.released + 1 }

theorem Balanced.claim (h : Balanced p c) (hfree : p.isAllocated f = false)
    (hm : interfaceIndex? m.sourceInterface.toUInt32 = some i) (hstate : m.state ≠ .free)
    (hmark : m.pendingReclaim = false) : Balanced (p.claim i f m) c.claim := by
  have hnone : p.holding f = none := by simp [Pool.holding, hfree]
  have hholding := Pool.holding_claim (p := p) (f := f) hm
  have htotal : (c.used + 1).toNat = c.used.toNat + 1 := toNat_succ h.total_le
  refine ⟨fun g hg => ?_, fun g => ?_, fun g => ?_, h.pending, ?_, fun j => ?_, ?_, ?_⟩
  · rw [hholding]
    by_cases hgf : g = f
    · subst hgf
      simp
    · rw [Function.update_of_ne hgf]
      rw [Pool.isAllocated_claim] at hg
      exact h.owned g (by simpa [Ne.symm hgf] using hg)
  · rw [Pool.claim_frames, Pool.isAllocated_claim]
    by_cases hgf : g = f
    · simp [hgf, hstate]
    · simpa [hgf, Ne.symm hgf] using h.free g
  · rw [Pool.claim_frames]
    split
    · exact hmark
    · exact h.unmarked g
  · rw [hholding, Holding.total_claim hnone, ← h.total]
    exact htotal
  · rw [hholding, Holding.held_claim hnone, ← h.quota j]
    by_cases hj : j = i
    · subst hj
      have hsucc := toNat_succ (h.quota_le j)
      simpa [Pool.claim] using hsucc
    · simp [Pool.claim, Pool.put, hj]
  · simp only [Counts.claim, h.difference]
    rw [sub_add_eq_add_sub]
  · exact le_watermark _ _

/-- A release. -/
theorem Balanced.discharge (h : Balanced p c) (halloc : p.isAllocated f = true) :
    Balanced (p.discharge f) c.discharge := by
  obtain ⟨i, hi⟩ := Option.isSome_iff_exists.mp (h.owned f halloc)
  have hindex : interfaceIndex? (p.frames f).sourceInterface.toUInt32 = some i := by
    rw [← hi, Pool.holding, if_pos halloc]
  have hholding := Pool.holding_discharge (p := p) (f := f)
  have htotal : Holding.total (Function.update p.holding f none) + 1 = c.used.toNat := by
    rw [h.total]
    exact Holding.total_return hi
  -- the frame itself is counted, so the guarded decrements do decrement
  obtain ⟨hused, hpred⟩ := guarded_pred htotal
  refine ⟨fun g hg => ?_, fun g => ?_, fun g => ?_, h.pending, ?_, fun j => ?_, ?_, ?_⟩
  · rw [Pool.isAllocated_discharge] at hg
    have hgf : g ≠ f := by
      rintro rfl
      simp at hg
    rw [hholding, Function.update_of_ne hgf]
    exact h.owned g (by simpa [Ne.symm hgf] using hg)
  · rw [Pool.discharge_frames, Pool.isAllocated_discharge]
    by_cases hgf : g = f
    · simp [hgf]
    · simpa [hgf, Ne.symm hgf] using h.free g
  · rw [Pool.discharge_frames]
    split
    · rfl
    · exact h.unmarked g
  · rw [hholding]
    exact hused
  · have hheld := Holding.held_return (j := j) hi
    have hquota := h.quota j
    rw [hholding]
    simp only [Pool.discharge, hindex]
    by_cases hj : j = i
    · subst hj
      rw [if_pos rfl] at hheld
      have hone := (guarded_pred (hheld.trans hquota.symm)).1
      rw [Function.update_self]
      exact hone
    · rw [if_neg hj, Nat.add_zero] at hheld
      rw [Function.update_of_ne hj, hheld]
      exact hquota
  · calc c.discharge.used = c.used - 1 := hpred
      _ = c.allocated - c.released - 1 := by rw [h.difference]
      _ = c.allocated - (c.released + 1) := sub_sub ..
  · have hw := UInt64.le_iff_toNat_le.mp h.watermark
    refine UInt64.le_iff_toNat_le.mpr ?_
    have hlow : c.discharge.used.toNat ≤ c.used.toNat := by
      have heq : c.discharge.used.toNat = _ := hused
      omega
    exact hlow.trans hw

/-- A block in use changes its state. -/
theorem Balanced.put (h : Balanced p c) (halloc : p.isAllocated f = true)
    (hsource : m.sourceInterface = (p.frames f).sourceInterface) (hstate : m.state ≠ .free)
    (hmark : m.pendingReclaim = false) : Balanced (p.put f m) c := by
  have hholding := Pool.holding_put (f := f) hsource
  refine ⟨fun g hg => ?_, fun g => ?_, fun g => ?_, h.pending, ?_, fun j => ?_, h.difference,
    h.watermark⟩
  · rw [hholding]
    exact h.owned g hg
  · rw [Pool.put_frames, Pool.isAllocated_put]
    by_cases hgf : g = f
    · simp [hgf, hstate, halloc]
    · simpa [hgf] using h.free g
  · rw [Pool.put_frames]
    split
    · exact hmark
    · exact h.unmarked g
  · rw [hholding]
    exact h.total
  · rw [hholding]
    exact h.quota j

/-! ## The operations -/

/-- What an operation makes of the accounts, and of the high watermark. -/
structure Keeps (ipc ipc' : LinuxShmIpc) : Prop where
  balanced : Balanced ipc.pool ipc.counts → Balanced ipc'.pool ipc'.counts
  watermark : Balanced ipc.pool ipc.counts →
    ipc'.counts.highWatermark = max ipc'.counts.used ipc.counts.highWatermark

private theorem watermark_idle (h : Balanced p c) (hused : c'.used = c.used)
    (hhigh : c'.highWatermark = c.highWatermark) : c'.highWatermark = max c'.used c.highWatermark := by
  rw [hused, hhigh, watermark_eq, if_pos h.watermark]

/-- The accounts are as before. -/
theorem Keeps.of_eq (h : ipc'.accounts = ipc.accounts) : Keeps ipc ipc' := by
  have hpool : ipc'.pool = ipc.pool := congrArg Prod.fst h
  have hcounts : ipc'.counts = ipc.counts := congrArg Prod.snd h
  refine ⟨fun hb => hpool ▸ hcounts ▸ hb, fun hb => ?_⟩
  exact watermark_idle hb (congrArg Counts.used hcounts) (congrArg Counts.highWatermark hcounts)

/-- A block in use changes its state. -/
theorem Keeps.of_put (h : ipc'.accounts = (ipc.pool.put f m, ipc.counts))
    (halloc : ipc.isAllocated f = true)
    (hsource : m.sourceInterface = (ipc.frames f).sourceInterface) (hstate : m.state ≠ .free)
    (hmark : m.pendingReclaim = (ipc.frames f).pendingReclaim) : Keeps ipc ipc' := by
  have hpool : ipc'.pool = ipc.pool.put f m := congrArg Prod.fst h
  have hcounts : ipc'.counts = ipc.counts := congrArg Prod.snd h
  refine ⟨fun hb => ?_, fun hb => ?_⟩
  · rw [hpool, hcounts]
    exact hb.put halloc hsource hstate (hmark.trans (hb.unmarked f))
  · exact watermark_idle hb (congrArg Counts.used hcounts) (congrArg Counts.highWatermark hcounts)

theorem counts_claim {source : PutShmInterface} :
    (ipc.claim i source f).counts = ipc.counts.claim := rfl

/-- An allocation. -/
theorem Keeps.claim (hfree : ipc.isAllocated f = false) (i : Fin 6) :
    Keeps ipc (ipc.claim i (interfaceOfIndex i) f) := by
  refine ⟨fun hb => ?_, fun _ => rfl⟩
  rw [LinuxShmIpc.pool_claim, counts_claim]
  exact hb.claim hfree (interfaceIndex?_toUInt8 i) (by simp [allocatedMeta]) rfl

/-- The counts a release leaves, of a block that was not marked. -/
theorem counts_discharge {reason : UInt32} (hmark : (ipc.frames f).pendingReclaim = false) :
    (ipc.discharge f reason).counts = ipc.counts.discharge := by
  refine Counts.ext rfl rfl rfl rfl ?_
  simp [LinuxShmIpc.counts, LinuxShmIpc.discharge, Counts.discharge, hmark]

private theorem watermark_discharge (hb : Balanced p c) (halloc : p.isAllocated f = true) :
    c.discharge.highWatermark = max c.discharge.used c.highWatermark := by
  have hw : c.discharge.used ≤ c.highWatermark := (hb.discharge halloc).watermark
  rw [watermark_eq, if_pos hw]
  rfl

/-- A release. -/
theorem Keeps.of_discharge (halloc : ipc.isAllocated f = true)
    (h : Balanced ipc.pool ipc.counts → ipc'.accounts = (ipc.pool.discharge f, ipc.counts.discharge)) :
    Keeps ipc ipc' := by
  refine ⟨fun hb => ?_, fun hb => ?_⟩
  · have hpool : ipc'.pool = ipc.pool.discharge f := congrArg Prod.fst (h hb)
    have hcounts : ipc'.counts = ipc.counts.discharge := congrArg Prod.snd (h hb)
    rw [hpool, hcounts]
    exact hb.discharge halloc
  · have hcounts : ipc'.counts = ipc.counts.discharge := congrArg Prod.snd (h hb)
    rw [hcounts]
    exact watermark_discharge hb halloc

/-- The mark a reclaim sets is undone by the release that follows. -/
theorem counts_takeReclaim {d : ReclaimDescriptor} (hinit : ipc.initialized = true)
    (hf : frameIndex? d.frameId = some f) (halloc : ipc.isAllocated f = true)
    (hb : Balanced ipc.pool ipc.counts) : (ipc.takeReclaim d).counts = ipc.counts.discharge := by
  simp only [LinuxShmIpc.takeReclaim, hf]
  set marked : LinuxShmIpc := { ipc.modifyFrame f fun m =>
      { m with pendingReclaim := true, state := .pendingReclaim } with
    stats := _ } with hmarked
  have hframe : marked.frames f = { ipc.frames f with
      pendingReclaim := true, state := .pendingReclaim } := Function.update_self ..
  have hrel : linuxShmFrameRelease marked d.frameId d.reason = (.ok, marked.discharge f d.reason) :=
    linuxShmFrameRelease_of_releasable (show marked.initialized = true from hinit) hf
      (show marked.isAllocated f = true from halloc)
      (.inr (.inr (.inl (congrArg FrameMeta.state hframe)))) _
  have hpending : ipc.stats.framePool.pendingReclaim = 0 := hb.pending
  rw [hrel]
  refine Counts.ext rfl rfl rfl rfl ?_
  have hmark : (marked.frames f).pendingReclaim = true := congrArg FrameMeta.pendingReclaim hframe
  have hcount : marked.stats.framePool.pendingReclaim = 1 := by
    rw [hmarked]
    simp [LinuxShmIpc.modifyFrame, hpending]
  simp only [LinuxShmIpc.counts, LinuxShmIpc.discharge, Counts.discharge, hmark, hcount, hpending]
  decide

/-- A refused allocation counts a full pool at most. -/
theorem counts_alloc {source : PutShmInterface} (h : (linuxShmFrameAlloc ipc source).1 ≠ .ok) :
    (linuxShmFrameAlloc ipc source).2.2.counts = ipc.counts := by
  unfold linuxShmFrameAlloc at h ⊢
  split
  · rfl
  next hinit =>
  rw [if_neg hinit] at h
  split
  · rfl
  next i hi =>
  simp only [hi] at h
  split
  · rfl
  next hquota =>
  rw [if_neg hquota] at h
  split
  · rfl
  next hfull =>
  rw [if_neg hfull] at h
  split
  · next f hf => simp [hf] at h
  · rfl

/-- Publishing on an RX ring counts nothing of the pool. -/
theorem counts_enqueueRx {id : PutShmInterface} {d : Descriptor} :
    (linuxShmEnqueueRxDescriptor P shm id d).2.ipc.counts = shm.ipc.counts := by
  unfold linuxShmEnqueueRxDescriptor
  split
  · rfl
  split
  · rfl
  next i hi =>
  simp only
  split
  · rfl
  split
  · rfl
  split
  · rfl
  split
  · rfl
  split
  · rfl
  · exact RingIo.enqueue_core _ _ _ _ _ _ P LinuxShmIpc.counts (fun _ => rfl) (fun _ => rfl)
      (fun _ _ => rfl) fun _ _ => announceRx_core (fun _ => rfl) (fun _ => rfl) fun _ => rfl

theorem counts_commit {k : Commit} : (k.run P shm).2.ipc.counts = shm.ipc.counts := by
  unfold Commit.run linuxShmFrameCommitRx
  split
  · rfl
  split
  · rfl
  split
  · rfl
  split
  · rfl
  split
  · rfl
  have hsync : (shm.cacheOp P).2.ipc.counts = shm.ipc.counts := by
    unfold LinuxShm.cacheOp
    simp only
    split <;> rfl
  by_cases hok : (shm.cacheOp P).1 = .ok
  swap
  · rw [andThen_of_ne hok]
    exact hsync
  rw [andThen_of_ok hok]
  simp only
  split
  · exact (counts_enqueueRx (P := P)).trans hsync
  · exact counts_enqueueRx.trans hsync

/-- The two ways a block gets onto an RX ring. -/
private theorem Keeps.of_publish {target : UInt8} (halloc : ipc.isAllocated f = true)
    (hpool : ipc'.pool = ipc.pool.put f { ipc.frames f with
      state := .rxQueued, targetInterface := target }) (hcounts : ipc'.counts = ipc.counts) :
    Keeps ipc ipc' :=
  .of_put (Prod.ext hpool hcounts) halloc rfl (by simp) rfl

theorem accounts_markTxReady {d : Descriptor} (hf : frameIndex? d.frameId = some f) :
    (ipc.markTxReady d).accounts =
      (ipc.pool.put f { ipc.frames f with state := .txReady }, ipc.counts) := by
  refine Prod.ext (LinuxShmIpc.pool_markTxReady hf) ?_
  simp only [LinuxShmIpc.accounts, LinuxShmIpc.markTxReady, hf]
  rfl

theorem keeps_dequeueTx {id : PutShmInterface} :
    Keeps shm.ipc (linuxShmDequeueTxDescriptor P shm id).2.2.ipc := by
  unfold linuxShmDequeueTxDescriptor
  split
  · exact .of_eq rfl
  split
  · exact .of_eq rfl
  next i hi =>
  obtain rfl := interfaceIndex?_eq_some.mp hi
  simp only
  split
  · exact .of_eq rfl
  rcases RingIo.dequeue_ends P (txConsumer (interfaceOfIndex i)) (shm.txIo i) rfl
      (fun _ _ => checkTxDescriptor_ne_empty) LinuxShmIpc.accounts (fun _ => rfl) (fun _ => rfl)
      (fun _ => rfl) with
    ⟨-, -, -, hsame, -⟩ | ⟨-, -, ⟨-, -, -, -, hsame⟩ | ⟨⟨-, hcheck⟩, -, htaken, -⟩⟩
  · exact .of_eq hsame
  · exact .of_eq hsame
  · obtain ⟨-, -, f, hf, hqueued⟩ := checkTxDescriptor_eq_ok_iff.mp hcheck
    exact .of_put (htaken.trans (accounts_markTxReady hf)) hqueued.allocated rfl (by simp) rfl

theorem keeps_dequeueReclaim : Keeps shm.ipc (linuxShmDequeueReclaimDescriptor P shm).2.2.ipc := by
  unfold linuxShmDequeueReclaimDescriptor
  split
  · exact .of_eq rfl
  next hinit =>
  simp only
  split
  · exact .of_eq rfl
  rcases RingIo.dequeue_ends P reclaimConsumer shm.reclaimIo rfl
      (fun _ _ => checkReclaimDescriptor_ne_empty) LinuxShmIpc.accounts (fun _ => rfl) (fun _ => rfl)
      (fun _ => rfl) with
    ⟨-, -, -, hsame, -⟩ | ⟨-, -, ⟨-, -, -, -, hsame⟩ | ⟨⟨-, hcheck⟩, -, htaken, -⟩⟩
  · exact .of_eq hsame
  · exact .of_eq hsame
  · obtain ⟨-, f, hf, hqueued, -⟩ := checkReclaimDescriptor_eq_ok_iff.mp hcheck
    have hinit' : shm.ipc.initialized = true := by simpa using hinit
    refine .of_discharge hqueued.allocated fun hb => htaken.trans (Prod.ext ?_ ?_)
    · exact LinuxShmIpc.pool_takeReclaim hinit' hf hqueued.allocated
    · exact counts_takeReclaim hinit' hf hqueued.allocated hb

/-- **Every operation keeps the accounts balanced**, on every region. -/
theorem Operation.keeps (P : Platform) (shm : LinuxShm) (op : Operation) :
    Keeps shm.ipc (op.run P shm).ipc := by
  cases op with
  | setInterfaceQuota id quota =>
    refine .of_eq (Prod.ext linuxShmIpcSetInterfaceQuota_pool ?_)
    simp only [Operation.run, linuxShmIpcSetInterfaceQuota]
    split
    · rfl
    · split <;> rfl
  | frameAlloc source =>
    rcases linuxShmFrameAlloc_cases shm.ipc source with
      ⟨hres, -, hpool⟩ | ⟨i, f, -, hi, hfree, -, heq⟩
    · exact .of_eq (Prod.ext hpool (counts_alloc hres))
    · obtain rfl := interfaceIndex?_eq_some.mp hi
      simp only [Operation.run, heq]
      exact .claim hfree i
  | fillFrame f frame => exact .of_eq rfl
  | frameCommitRx k =>
    rcases linuxShmFrameCommitRx_cases P shm k with
      ⟨-, hpool, -⟩ | ⟨-, i, f, -, -, -, -, halloc, -, -, -, -, hpool⟩
    · exact .of_eq (Prod.ext hpool counts_commit)
    · exact .of_publish halloc hpool counts_commit
  | enqueueRxDescriptor id d =>
    rcases linuxShmEnqueueRxDescriptor_cases P shm id d with
      ⟨-, hpool, -⟩ | ⟨-, i, f, -, -, -, -, halloc, -, -, -, -, hpool⟩
    · exact .of_eq (Prod.ext hpool counts_enqueueRx)
    · exact .of_publish halloc hpool counts_enqueueRx
  | frameRelease frameId reason =>
    rcases linuxShmFrameRelease_cases shm.ipc frameId reason with
      ⟨-, heq⟩ | ⟨f, -, halloc, -, heq⟩
    · simp only [Operation.run, heq]
      exact .of_eq rfl
    · simp only [Operation.run, heq]
      refine .of_discharge halloc fun hb => Prod.ext LinuxShmIpc.pool_discharge ?_
      exact counts_discharge (hb.unmarked f)
  | dequeueTxDescriptor id => exact keeps_dequeueTx
  | dequeueReclaimDescriptor => exact keeps_dequeueReclaim

/-! ## Runs -/

/-- A step of a run: Linux calls an operation, on any platform, or the
other core leaves anything in the region. -/
inductive PoolStep
  | call (P : Platform) (op : Operation)
  | elsewhere (R : Region) (calls : ℕ)

/-- What a step leaves. -/
def PoolStep.run (shm : LinuxShm) : PoolStep → LinuxShm
  | .call P op => op.run P shm
  | .elsewhere R calls => { shm with region := R, calls := calls }

/-- What a step leaves, where it stays in the arrays. -/
def PoolStep.run? (shm : LinuxShm) : PoolStep → Option LinuxShm
  | .call P op => op.run? P shm
  | .elsewhere R calls => some { shm with region := R, calls := calls }

/-- The step goes past an array. -/
def PoolStep.overruns (shm : LinuxShm) : PoolStep → Bool
  | .call P op => op.overruns P shm
  | .elsewhere _ _ => false

theorem PoolStep.run?_eq (shm : LinuxShm) (s : PoolStep) :
    s.run? shm = if s.overruns shm then none else some (s.run shm) := by
  cases s with
  | call P op => exact op.run?_eq P shm
  | elsewhere R calls => rfl

/-- Take the steps in turn, up to the first that goes past an array: the
state they leave and those before it, latest first. -/
def poolRun? : List PoolStep → LinuxShm → List LinuxShm → Option (LinuxShm × List LinuxShm)
  | [], shm, past => some (shm, past)
  | s :: rest, shm, past => (s.run? shm).bind fun shm' => poolRun? rest shm' (shm :: past)

/-- No step goes past an array, at the state it is taken in. -/
def StaysInArrays : List PoolStep → LinuxShm → Prop
  | [], _ => True
  | s :: rest, shm => s.overruns shm = false ∧ StaysInArrays rest (s.run shm)

/-- The number of blocks in use, as the pool counts it. -/
def LinuxShm.used (shm : LinuxShm) : UInt64 := shm.ipc.stats.framePool.used

/-- The high watermark is the greatest use so far. -/
structure Watermark (shm : LinuxShm) (past : List LinuxShm) : Prop where
  bound : ∀ s ∈ shm :: past, s.used ≤ shm.ipc.stats.framePool.highWatermark
  reached : ∃ s ∈ shm :: past, s.used = shm.ipc.stats.framePool.highWatermark

theorem Watermark.step {past : List LinuxShm} (h : Watermark shm past)
    (hw : shm'.ipc.counts.highWatermark = max shm'.ipc.counts.used shm.ipc.counts.highWatermark) :
    Watermark shm' (shm :: past) := by
  have hw' : shm'.ipc.stats.framePool.highWatermark =
      max shm'.used shm.ipc.stats.framePool.highWatermark := hw
  by_cases hle : shm'.used ≤ shm.ipc.stats.framePool.highWatermark
  · -- an earlier state still holds the record
    rw [watermark_eq, if_pos hle] at hw'
    obtain ⟨s, hs, hsused⟩ := h.reached
    refine ⟨fun s hs => ?_, ⟨s, List.mem_cons_of_mem _ hs, hsused.trans hw'.symm⟩⟩
    rw [hw']
    rcases List.mem_cons.mp hs with rfl | hs
    · exact hle
    · exact h.bound s hs
  · rw [watermark_eq, if_neg hle] at hw'
    refine ⟨fun s hs => ?_, ⟨shm', List.mem_cons_self, hw'.symm⟩⟩
    rw [hw']
    rcases List.mem_cons.mp hs with rfl | hs
    · exact UInt64.le_refl _
    · exact UInt64.le_trans (h.bound s hs) (UInt64.le_of_lt (UInt64.not_le.mp hle))

/-- What every step keeps. -/
def Tracked (shm : LinuxShm) (past : List LinuxShm) : Prop :=
  Balanced shm.ipc.pool shm.ipc.counts ∧ Watermark shm past

theorem Tracked.format (shm : LinuxShm) (linuxEpoch rtosEpoch : UInt32) :
    Tracked (linuxShmIpcFormatRegion shm linuxEpoch rtosEpoch).2 [] := by
  refine ⟨.fresh rfl, fun s hs => ?_, _, List.mem_cons_self, rfl⟩
  obtain rfl := List.mem_singleton.mp hs
  exact UInt64.le_refl 0

theorem Tracked.step {past : List LinuxShm} (h : Tracked shm past) (s : PoolStep) :
    Tracked (s.run shm) (shm :: past) := by
  obtain ⟨hb, hw⟩ := h
  have hkeeps : Keeps shm.ipc (s.run shm).ipc := by
    cases s with
    | call P op => exact op.keeps P shm
    | elsewhere R calls => exact .of_eq rfl
  exact ⟨hkeeps.balanced hb, hw.step (hkeeps.watermark hb)⟩

/-- The accounts of the pool, as Linux keeps them. -/
structure Accounted (shm : LinuxShm) (past : List LinuxShm) : Prop where
  /-- The use is the number of set bits. -/
  bits : shm.used.toNat = (Finset.univ.filter fun f => shm.ipc.isAllocated f).card
  /-- The use is the sum of the interfaces' use. -/
  quotas : shm.used.toNat = ∑ i, (shm.ipc.stats.interfaceQuota i).used.toNat
  flow : shm.used = shm.ipc.stats.framePool.allocated - shm.ipc.stats.framePool.released
  free : ∀ f, (shm.ipc.frames f).state = .free ↔ shm.ipc.isAllocated f = false
  pending : shm.ipc.stats.framePool.pendingReclaim = 0
  le : shm.used ≤ 64
  watermark : Watermark shm past
  /-- An interface at its quota gets no block. -/
  quota : ∀ source i, interfaceIndex? source = some i →
    (shm.ipc.stats.interfaceQuota i).quota ≤ (shm.ipc.stats.interfaceQuota i).used →
    (linuxShmFrameAlloc shm.ipc source).1 ≠ .ok

theorem alloc_refused {source : PutShmInterface} (hi : interfaceIndex? source = some i)
    (hquota : (ipc.stats.interfaceQuota i).quota ≤ (ipc.stats.interfaceQuota i).used) :
    (linuxShmFrameAlloc ipc source).1 ≠ .ok := by
  rcases linuxShmFrameAlloc_cases ipc source with ⟨hres, -⟩ | ⟨j, f, -, hj, -, hroom, -⟩
  · exact hres
  · obtain rfl : i = j := Option.some.inj (hi.symm.trans hj)
    exact absurd hquota (UInt64.not_le.mpr hroom)

theorem Tracked.accounted {past : List LinuxShm} (h : Tracked shm past) : Accounted shm past := by
  obtain ⟨hb, hw⟩ := h
  have hholding : ∀ f, (shm.ipc.pool.holding f).isSome = true ↔ shm.ipc.isAllocated f = true :=
    fun f => ⟨Pool.holding_isSome, hb.owned f⟩
  refine ⟨?_, ?_, hb.difference, hb.free, hb.pending, ?_, hw, fun source i hi => alloc_refused hi⟩
  · have htotal : shm.used.toNat = Holding.total shm.ipc.pool.holding := hb.total
    rw [htotal, Holding.total]
    simp only [hholding]
  · have htotal : shm.used.toNat = Holding.total shm.ipc.pool.holding := hb.total
    rw [htotal, Holding.total_eq_sum]
    exact Finset.sum_congr rfl fun i _ => (hb.quota i).symm
  · exact UInt64.le_iff_toNat_le.mpr hb.total_le

theorem Tracked.run {past past' : List LinuxShm} {steps : List PoolStep} (h : Tracked shm past)
    (hrun : poolRun? steps shm past = some (shm', past')) : Tracked shm' past' := by
  induction steps generalizing shm past with
  | nil =>
    cases hrun
    exact h
  | cons s rest ih =>
    rw [poolRun?, PoolStep.run?_eq] at hrun
    split at hrun
    · cases hrun
    · exact ih (h.step s) hrun

/-- **A run has a result where it stays in the arrays, and only there.** -/
theorem poolRun?_isSome {steps : List PoolStep} {past : List LinuxShm} :
    (poolRun? steps shm past).isSome = true ↔ StaysInArrays steps shm := by
  induction steps generalizing shm past with
  | nil => exact iff_of_true rfl trivial
  | cons s rest ih =>
    rw [poolRun?, PoolStep.run?_eq, StaysInArrays]
    cases hover : s.overruns shm with
    | true => simp
    | false =>
      simp only [Bool.false_eq_true, if_false, Option.bind_some, true_and]
      exact ih

theorem StaysInArrays.take {steps : List PoolStep} (h : StaysInArrays steps shm) (n : ℕ) :
    StaysInArrays (steps.take n) shm := by
  induction steps generalizing shm n with
  | nil => rwa [List.take_nil]
  | cons s rest ih =>
    cases n with
    | zero => trivial
    | succ n => exact ⟨h.1, ih h.2 n⟩

/-- **The accounts of the pool balance**, with the high watermark at the
greatest use so far, in exactly the runs since a format whose calls stay
in the arrays: up to any point, every call has a result and the accounts
balance after it. -/
theorem pool_accounts_iff (shm : LinuxShm) (linuxEpoch rtosEpoch : UInt32) (steps : List PoolStep) :
    (∀ n, ∃ shm' past, poolRun? (steps.take n)
        (linuxShmIpcFormatRegion shm linuxEpoch rtosEpoch).2 [] = some (shm', past) ∧
      Accounted shm' past) ↔
      StaysInArrays steps (linuxShmIpcFormatRegion shm linuxEpoch rtosEpoch).2 := by
  constructor
  · intro h
    obtain ⟨shm', past, hrun, -⟩ := h steps.length
    rw [List.take_length] at hrun
    exact poolRun?_isSome.mp (by rw [hrun]; rfl)
  · intro h n
    obtain ⟨⟨shm', past⟩, hrun⟩ := Option.isSome_iff_exists.mp (poolRun?_isSome.mpr (h.take n))
    exact ⟨shm', past, hrun, ((Tracked.format ..).run hrun).accounted⟩

/-- **An allocation for the interface `0x100`** passes the check of its low
byte and goes past the quotas. -/
theorem not_pool_accounts :
    ¬ ∀ (shm : LinuxShm) (linuxEpoch rtosEpoch : UInt32) (steps : List PoolStep),
      ∃ shm' past, poolRun? steps (linuxShmIpcFormatRegion shm linuxEpoch rtosEpoch).2 [] =
        some (shm', past) ∧ Accounted shm' past := by
  intro hclaim
  obtain ⟨shm', past, hrun, -⟩ := hclaim ⟨{}, formatRegion 0 0, 0⟩ 1 1
    [.call .defaultOps (.frameAlloc 0x100)]
  have hstays := poolRun?_isSome.mp (Option.isSome_iff_exists.mpr ⟨_, hrun⟩)
  exact absurd hstays.1 (by decide)

/-- With a quota of one, the second block is refused. -/
example : (poolRun? [.call .defaultOps (.setInterfaceQuota 0 1), .call .defaultOps (.frameAlloc 0),
    .call .defaultOps (.frameAlloc 0)] (linuxShmIpcFormatRegion ⟨{}, formatRegion 0 0, 0⟩ 1 1).2 []).map
    (fun r => (r.1.used, r.1.ipc.stats.framePool.fullCount)) = some (1, 1) := by decide +kernel

end Linux

end PutGateway
