import PutGateway.System.Cores
import PutGateway.Rtos.Provenance
/-!
# Restarts of Linux and the epoch

Linux may format the region anew, with another epoch, while the RTOS
still holds frames of the epoch before. Nothing in Linux looks at the
epoch of a TX or reclaim descriptor, and what keeps the old ones from
being taken for new ones is only that Linux has not queued the frame they
name. So they are harmless as long as Linux queues no frame while one of
them could pass for it, which is `Fenced`; a run that does not care is
given at the end.
-/

namespace PutGateway

namespace System

open Linux Rtos

variable {epoch : UInt32} {p p' : Pool} {L L' : Ledger} {q' : Queues} {f : Fin 64}
  {source target : UInt8}

/-! ## Fences -/

/-- No descriptor or reference of another epoch could pass for the frame
`f` as committed from `source` to `target`. -/
structure Fenced (epoch : UInt32) (L : Ledger) (f : Fin 64) (source target : UInt8) : Prop where
  reference : ∀ r, L.references f = some r → r.epoch ≠ epoch → r.sourceInterface ≠ source
  tx : ∀ i, ∀ d ∈ L.queues.tx i, d.frameId = frameIdOfIndex f → d.epoch ≠ epoch →
    d.sourceInterface ≠ source
  reclaim : ∀ d ∈ L.queues.reclaim, d.frameId = frameIdOfIndex f → d.epoch ≠ epoch →
    d.sourceInterface ≠ source ∨ d.targetInterface ≠ target

/-- What is unread on an RX ring is of the epoch, and every frame Linux
has queued is fenced. -/
structure Isolated (epoch : UInt32) (p : Pool) (L : Ledger) : Prop where
  rx : ∀ i, ∀ d ∈ L.queues.rx i, d.epoch = epoch
  fenced : ∀ f, (p.frames f).state = .rxQueued →
    Fenced epoch L f (p.frames f).sourceInterface (p.frames f).targetInterface

theorem Fenced.mono (h : Fenced epoch L f source target) (href : L'.references = L.references)
    (htx : ∀ i, L'.queues.tx i ⊆ L.queues.tx i) (hreclaim : L'.queues.reclaim ⊆ L.queues.reclaim) :
    Fenced epoch L' f source target :=
  ⟨fun r hr => h.reference r (href ▸ hr), fun i d hd => h.tx i d (htx i hd),
    fun d hd => h.reclaim d (hreclaim hd)⟩

/-- What the RTOS knows of another epoch, it has a reference for. -/
private theorem Isolated.reference_of_knows {taken : Fin 6 → List Descriptor} {r : Descriptor}
    (h : Isolated epoch p L) (hL : L.Books) (htaken : ∀ i, taken i ⊆ L.queues.rx i)
    (hr : L.Knows taken r) (hepoch : r.epoch ≠ epoch) (hf : r.frameId = frameIdOfIndex f) :
    L.references f = some r := by
  rcases hr with ⟨f', href⟩ | ⟨i, hmem, -⟩
  · obtain ⟨hid, -⟩ := hL.references f' r href
    exact frameIdOfIndex_inj.mp (hid.symm.trans hf) ▸ href
  · exact absurd (h.rx i r (htaken i hmem)) hepoch

/-- **The RTOS keeps fences up**: what it writes for a frame of another
epoch could pass for another frame no more than its reference. -/
theorem Isolated.descends {taken : Fin 6 → List Descriptor} (h : Isolated epoch p L) (hL : L.Books)
    (hdescends : Descends L L' taken) : Isolated epoch p L' := by
  have htaken : ∀ i, taken i ⊆ L.queues.rx i := fun i => by
    rw [hdescends.rx i]
    exact List.subset_append_left _ _
  refine ⟨fun i d hd => h.rx i d ?_, fun f hstate => ?_⟩
  · rw [hdescends.rx i]
    exact List.mem_append_right _ hd
  have hfenced := h.fenced f hstate
  refine ⟨fun r href hepoch => ?_, fun i d hd hid hepoch => ?_, fun d hd hid hepoch => ?_⟩
  · rcases hdescends.references f r href with href | ⟨i, hmem, -⟩
    · exact hfenced.reference r href hepoch
    · exact absurd (h.rx i r (htaken i hmem)) hepoch
  · rcases hdescends.tx i d hd with hd | ⟨r, hr, hforwards⟩
    · exact hfenced.tx i d hd hid hepoch
    · rw [hforwards.epoch] at hepoch
      rw [hforwards.source]
      exact hfenced.reference r
        (h.reference_of_knows hL htaken hr hepoch (hforwards.frameId ▸ hid)) hepoch
  · rcases hdescends.reclaim d hd with hd | ⟨r, hr, hreturns⟩
    · exact hfenced.reclaim d hd hid hepoch
    · rw [hreturns.epoch] at hepoch
      rw [hreturns.source]
      exact .inl (hfenced.reference r
        (h.reference_of_knows hL htaken hr hepoch (hreturns.frameId ▸ hid)) hepoch)

/-- **Linux keeps fences up** where it queues fenced frames of the epoch
only. -/
theorem Isolated.poolMove {b : Option Descriptor} (h : Isolated epoch p L)
    (hmove : PoolMove b p L.queues p' q') (hepoch : ∀ d, b = some d → d.epoch = epoch)
    (hfenced : ∀ d f, b = some d → frameIndex? d.frameId = some f →
      Fenced epoch L f d.sourceInterface d.targetInterface) :
    Isolated epoch p' { L with queues := q' } := by
  cases hmove with
  | idle => exact h
  | @claim i f m hfree hm =>
    refine ⟨h.rx, fun g hg => ?_⟩
    by_cases hgf : g = f
    · simp [hgf, hm] at hg
    · simp only [Pool.claim_frames, if_neg hgf] at hg ⊢
      exact h.fenced g hg
  | @publish i f d hb hf hbounds hsource halloc hstate hmeta hroom =>
    refine ⟨fun j d' hd => ?_, fun g hg => ?_⟩
    · rw [Queues.setRx_rx] at hd
      split at hd
      · next hj =>
        -- the one new descriptor carries the current epoch
        subst hj
        rcases List.mem_append.mp hd with hd | hd
        · exact h.rx j d' hd
        · rw [List.mem_singleton.mp hd, Descriptor.epoch_sealed]
          exact hepoch d hb
      · exact h.rx j d' hd
    · by_cases hgf : g = f
      · subst hgf
        simp only [Pool.put_frames, if_true, hmeta]
        -- the frame turns to queued, and was fenced before it did
        exact (hfenced d g hb hf).mono rfl (fun _ => List.Subset.refl _) (List.Subset.refl _)
      · simp only [Pool.put_frames, if_neg hgf] at hg ⊢
        exact (h.fenced g hg).mono rfl (fun _ => List.Subset.refl _) (List.Subset.refl _)
  | @release f halloc hrelease =>
    refine ⟨h.rx, fun g hg => ?_⟩
    by_cases hgf : g = f
    · simp [hgf] at hg
    · simp only [Pool.discharge_frames, if_neg hgf] at hg ⊢
      exact h.fenced g hg
  | @dropTx i d rest htx hbad =>
    exact ⟨h.rx, fun g hg => (h.fenced g hg).mono rfl (subset_of_takeTx htx) (List.Subset.refl _)⟩
  | @takeTx i d rest f htx htakes =>
    refine ⟨h.rx, fun g hg => ?_⟩
    by_cases hgf : g = f
    · simp [hgf] at hg
    · simp only [Pool.put_frames, if_neg hgf] at hg ⊢
      exact (h.fenced g hg).mono rfl (subset_of_takeTx htx) (List.Subset.refl _)
  | @dropReclaim d rest hr hbad =>
    refine ⟨h.rx, fun g hg => (h.fenced g hg).mono rfl (fun _ => List.Subset.refl _) ?_⟩
    exact hr ▸ List.subset_cons_self d rest
  | @takeReclaim d rest f hr htakes =>
    refine ⟨h.rx, fun g hg => ?_⟩
    by_cases hgf : g = f
    · simp [hgf] at hg
    · simp only [Pool.discharge_frames, if_neg hgf] at hg ⊢
      refine (h.fenced g hg).mono rfl (fun _ => List.Subset.refl _) ?_
      exact hr ▸ List.subset_cons_self d rest

/-! ## Runs with restarts -/

variable {P Q : Platform} {K : Clock} {g : Gateway}

/-- The epoch Linux has written to the header of the region. -/
def Gateway.linuxEpoch (g : Gateway) : UInt32 := g.region.header.linuxEpoch

/-- Linux publishes descriptors of its own epoch only. -/
def Step.inEpoch (g : Gateway) : Step → Prop
  | .linux op => ∀ d ∈ op.descriptor?, d.epoch = g.linuxEpoch
  | _ => True

instance (g : Gateway) : (s : Step) → Decidable (s.inEpoch g)
  | .linux op => inferInstanceAs (Decidable (∀ d ∈ op.descriptor?, d.epoch = g.linuxEpoch))
  | .rtos _ => inferInstanceAs (Decidable True)
  | .restart _ => inferInstanceAs (Decidable True)

/-- Linux publishes no frame while a descriptor or reference of another
epoch could pass for it. -/
def Step.fenced (g : Gateway) : Step → Prop
  | .linux op => ∀ d f, op.descriptor? = some d → frameIndex? d.frameId = some f →
      Fenced g.linuxEpoch (ledger g.rtos) f d.sourceInterface d.targetInterface
  | _ => True

/-- A descriptor of another epoch is refused: it changes no frame and is
not handed out. -/
structure Isolates (P : Platform) (g : Gateway) : Prop where
  tx : ∀ i, ∀ d ∈ (g.region.view.tx i).head?, d.epoch ≠ g.linuxEpoch →
    (linuxShmDequeueTxDescriptor P g.shm (interfaceOfIndex i)).1 ≠ .ok ∧
      (linuxShmDequeueTxDescriptor P g.shm (interfaceOfIndex i)).2.1 = none ∧
      (linuxShmDequeueTxDescriptor P g.shm (interfaceOfIndex i)).2.2.ipc.pool = g.linux.pool
  reclaim : ∀ d ∈ g.region.view.reclaim.head?, d.epoch ≠ g.linuxEpoch →
    (linuxShmDequeueReclaimDescriptor P g.shm).1 ≠ .ok ∧
      (linuxShmDequeueReclaimDescriptor P g.shm).2.1 = none ∧
      (linuxShmDequeueReclaimDescriptor P g.shm).2.2.ipc.pool = g.linux.pool

/-- Both cores are in order, and the fences are up. -/
structure Fencing (g : Gateway) : Prop where
  sound : Sound g.rtos
  initialized : g.linux.initialized = true
  isolated : Isolated g.linuxEpoch g.linux.pool (ledger g.rtos)

/-- Nothing is fenced off from a pool without queued frames. -/
private theorem Isolated.fresh (hrx : ∀ i, ∀ d ∈ L.queues.rx i, d.epoch = epoch) :
    Isolated epoch .fresh L := ⟨hrx, fun f hf => by simp [Pool.fresh] at hf⟩

theorem fencing_boot (linuxEpoch rtosEpoch : UInt32) (shm : LinuxShm) :
    Fencing (boot linuxEpoch rtosEpoch shm) := by
  refine ⟨(exclusive_boot linuxEpoch rtosEpoch shm).sound, rfl, ?_⟩
  rw [boot_linux, boot_rtos, ledger_contextInit, formatRegion_view]
  exact .fresh (by simp)

theorem Fencing.linux (h : Fencing g) (op : Linux.Operation) (hepoch : (Step.linux op).inEpoch g)
    (hfenced : (Step.linux op).fenced g) : Fencing (g.withShm (op.run P g.shm)) := by
  have hmoved : Moved op.descriptor? g.shm (op.run P g.shm) := op.moved P h.sound.valid
  refine ⟨h.sound.withRegion hmoved.valid, hmoved.move.initialized.trans h.initialized, ?_⟩
  have hheader : (g.withShm (op.run P g.shm)).linuxEpoch = g.linuxEpoch :=
    congrArg RegionHeader.linuxEpoch hmoved.header
  rw [hheader]
  exact h.isolated.poolMove hmoved.move hepoch hfenced

theorem Fencing.rtos (h : Fencing g) (op : Rtos.Operation) :
    Fencing { g with rtos := op.run Q K g.rtos } := by
  obtain ⟨hsound, hheader, -, es, hmoves, -⟩ := h.sound.run (P := Q) (K := K) op
  obtain ⟨taken, hdescends⟩ := hmoves.descends h.sound.books
  refine ⟨hsound, h.initialized, ?_⟩
  have hepoch : ({ g with rtos := op.run Q K g.rtos } : Gateway).linuxEpoch = g.linuxEpoch :=
    congrArg RegionHeader.linuxEpoch hheader
  rw [hepoch]
  exact h.isolated.descends h.sound.books hdescends

/-- A restart frees every frame, so that no fence is left to keep. -/
theorem Fencing.restart (h : Fencing g) (r : Restart) : Fencing (g.withShm (r.run g.shm)) := by
  cases r with
  | format linuxEpoch rtosEpoch =>
    refine ⟨h.sound.withRegion (formatRegion_valid linuxEpoch rtosEpoch), rfl, .fresh ?_⟩
    change ∀ i, ∀ d ∈ (formatRegion linuxEpoch rtosEpoch).view.rx i, _
    rw [formatRegion_view]
    simp
  | attach =>
    simp only [Restart.run, linuxShmIpcAttach]
    split
    · exact h
    · exact ⟨h.sound, rfl, .fresh h.isolated.rx⟩

theorem Fencing.step (h : Fencing g) {s : Step} (hs : s.inEpoch g ∧ s.fenced g) :
    Fencing (s.run P Q K g) := by
  cases s with
  | linux op => exact h.linux op hs.1 hs.2
  | rtos op => exact h.rtos op
  | restart r => exact h.restart r

/-- A fence refuses what is not of the epoch. -/
theorem Fencing.isolates (h : Fencing g) : Isolates P g := by
  have hvalid : g.shm.region.Valid := h.sound.valid
  constructor
  · intro i d hd hepoch
    obtain ⟨rest, htx⟩ := List.head?_eq_some_iff.mp (Option.mem_def.mp hd)
    rcases linuxShmDequeueTxDescriptor_cases P hvalid h.initialized i with
      ⟨hres, hnone, hpool, -⟩ | ⟨d', rest', htx', -, hends⟩
    · exact ⟨hres, hnone, hpool⟩
    obtain rfl : d = d' := (List.cons.inj (htx.symm.trans htx')).1
    rcases hends with ⟨-, hres, -, hnone, hpool⟩ | ⟨hgood, -⟩
    · exact ⟨hres, hnone, hpool⟩
    · obtain ⟨f, htakes⟩ := txAccepted_iff.mp hgood
      have hfenced := h.isolated.fenced f htakes.queued.state
      have hmem : d ∈ (ledger g.rtos).queues.tx i := List.mem_of_mem_head? hd
      -- an accepted descriptor of an old epoch would name a fenced frame
      exact absurd htakes.queued.source.symm
        (hfenced.tx i d hmem (frameIndex?_eq_some.mp htakes.frame) hepoch)
  · intro d hd hepoch
    obtain ⟨rest, hr⟩ := List.head?_eq_some_iff.mp (Option.mem_def.mp hd)
    rcases linuxShmDequeueReclaimDescriptor_cases P hvalid h.initialized with
      ⟨hres, hnone, hpool, -⟩ | ⟨d', rest', hr', -, hends⟩
    · exact ⟨hres, hnone, hpool⟩
    obtain rfl : d = d' := (List.cons.inj (hr.symm.trans hr')).1
    rcases hends with ⟨-, hres, -, hnone, hpool⟩ | ⟨hgood, -⟩
    · exact ⟨hres, hnone, hpool⟩
    · obtain ⟨f, htakes⟩ := reclaimAccepted_iff.mp hgood
      have hfenced := h.isolated.fenced f htakes.queued.state
      have hmem : d ∈ (ledger g.rtos).queues.reclaim := List.mem_of_mem_head? hd
      rcases hfenced.reclaim d hmem (frameIndex?_eq_some.mp htakes.frame) hepoch with hne | hne
      · exact absurd htakes.queued.source.symm hne
      · exact absurd htakes.target.symm hne

/-- **Epoch isolation.** In every state of every run in which Linux
publishes fenced frames of its epoch only, and may start again at any
time, Linux refuses every descriptor of another epoch, whatever the
platform calls return. -/
theorem epoch_isolation {linuxEpoch rtosEpoch : UInt32} {shm : LinuxShm}
    (h : Reachable P Q K (fun g s => s.inEpoch g ∧ s.fenced g) (boot linuxEpoch rtosEpoch shm) g) :
    Isolates P g :=
  (h.invariant (fencing_boot linuxEpoch rtosEpoch shm) fun _ _ hg hs => hg.step hs).isolates

/-! ## A run behind fences -/

instance : Decidable (Fenced epoch L f source target) :=
  decidable_of_iff
    ((∀ r ∈ L.references f, r.epoch ≠ epoch → r.sourceInterface ≠ source) ∧
      (∀ i, ∀ d ∈ L.queues.tx i, d.frameId = frameIdOfIndex f → d.epoch ≠ epoch →
        d.sourceInterface ≠ source) ∧
      ∀ d ∈ L.queues.reclaim, d.frameId = frameIdOfIndex f → d.epoch ≠ epoch →
        d.sourceInterface ≠ source ∨ d.targetInterface ≠ target)
    ⟨fun h => ⟨h.1, h.2.1, h.2.2⟩, fun h => ⟨h.reference, h.tx, h.reclaim⟩⟩

instance (g : Gateway) : (s : Step) → Decidable (s.fenced g)
  | .linux op => decidable_of_iff
      (∀ d ∈ op.descriptor?, ∀ f ∈ frameIndex? d.frameId,
        Fenced g.linuxEpoch (ledger g.rtos) f d.sourceInterface d.targetInterface)
      ⟨fun h d f hd hf => h d hd f hf, fun h d hd f hf => h d f hd hf⟩
  | .rtos _ => inferInstanceAs (Decidable True)
  | .restart _ => inferInstanceAs (Decidable True)

/-- The RTOS queues block 0 of epoch 1. Linux formats the region for
epoch 2, and the recovery of the RTOS writes the reclaim of the first
block 0 to the new ring, which Linux leaves there. Block 0 is then
allocated and committed again, but from the RS485 interface, so that the
old reclaim does not pass for it. -/
def fencedRun : List Step :=
  [.linux (.frameAlloc 0), .linux (.fillFrame 0 sampleBlock),
    .linux (.frameCommitRx (sampleCommit 1)), .rtos (.eventTask .periodic),
    .restart (.format 2 1), .rtos .errorMonitorTask, .rtos (.recoveryTask 64),
    .linux (.frameAlloc 2), .linux (.frameCommitRx { sampleCommit 2 with source := 2 })]

/-- The state it leads to. -/
def fencedGateway : Gateway :=
  fencedRun.foldl (Step.run .defaultOps .defaultOps fun _ => 0) (boot 1 1 ⟨{}, formatRegion 0 0, 0⟩)

set_option maxRecDepth 1000000 in
/-- The reclaim of epoch 1 is at the head of the ring, and the block it
names is queued in epoch 2. -/
theorem epoch_isolation_fenced :
    (fencedGateway.linux.pool.frames 0).state = .rxQueued ∧ fencedGateway.linuxEpoch = 2 ∧
      fencedGateway.region.view.reclaim.head?.map (fun d => (d.frameId, d.epoch)) = some (0, 1) ∧
      Isolates .defaultOps fencedGateway :=
  ⟨by decide +kernel, by decide +kernel, by decide +kernel,
    epoch_isolation (Reachable.start.foldl (l := fencedRun) (by decide +kernel))⟩

/-! ## A run without fences -/

/-- The RTOS queues block 0 of epoch 1. Linux formats the region for
epoch 2, and commits block 0 again. The RTOS notices the epoch, and its
recovery writes the reclaim of the first block 0 to the new ring. -/
def staleRun : List Step :=
  [.linux (.frameAlloc 0), .linux (.fillFrame 0 sampleBlock),
    .linux (.frameCommitRx (sampleCommit 1)), .rtos (.eventTask .periodic),
    .restart (.format 2 1), .linux (.frameAlloc 0), .linux (.frameCommitRx (sampleCommit 2)),
    .rtos .errorMonitorTask, .rtos (.recoveryTask 64)]

/-- The state it leads to. -/
def staleGateway : Gateway :=
  staleRun.foldl (Step.run .defaultOps .defaultOps fun _ => 0) (boot 1 1 ⟨{}, formatRegion 0 0, 0⟩)

set_option maxRecDepth 1000000 in
/-- **Isolation fails without fences**: Linux takes the reclaim of epoch 1
and releases the block it has committed in epoch 2. -/
theorem not_epoch_isolation :
    ¬ ∀ (P Q : Platform) (K : Clock) (linuxEpoch rtosEpoch : UInt32) (shm : LinuxShm) (g : Gateway),
      Reachable P Q K (fun g s => s.inEpoch g) (boot linuxEpoch rtosEpoch shm) g → Isolates P g := by
  intro hclaim
  have hreachable : Reachable .defaultOps .defaultOps (fun _ => 0) (fun g s => s.inEpoch g)
      (boot 1 1 ⟨{}, formatRegion 0 0, 0⟩) staleGateway :=
    Reachable.start.foldl (by decide +kernel)
  have hisolates := hclaim _ _ _ _ _ _ _ hreachable
  have hhead : (staleGateway.region.view.reclaim.head?.map (·.epoch)) = some 1 := by decide +kernel
  have hepoch : staleGateway.linuxEpoch = 2 := by decide +kernel
  have hok : (linuxShmDequeueReclaimDescriptor .defaultOps staleGateway.shm).1 = .ok := by
    decide +kernel
  obtain ⟨d, hd, hd1⟩ := Option.map_eq_some_iff.mp hhead
  refine (hisolates.reclaim d hd ?_).1 hok
  rw [hd1, hepoch]
  decide

end System

end PutGateway
