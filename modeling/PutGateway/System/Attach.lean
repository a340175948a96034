import PutGateway.System.Cores
/-!
# Attaching to a region in use

`linux_shm_ipc_attach` takes a region over as it is and clears the
private context of Linux, the allocation bitmap with it. It keeps the
blocks apart exactly where nothing is in flight at that moment: otherwise
Linux hands out, sooner or later, a block that is still referenced.
-/

namespace PutGateway

namespace System

open Linux Rtos

variable {P Q : Platform} {K : Clock} {g g' : Gateway} {f : Fin 64}

/-! ## Allocating in order -/

/-- Allocation takes the first free block. -/
theorem linuxShmFrameAlloc_firstFree {ipc : LinuxShmIpc} {i : Fin 6} (hinit : ipc.initialized = true)
    (hquota : (ipc.stats.interfaceQuota i).used < (ipc.stats.interfaceQuota i).quota)
    (hf : ipc.firstFree = some f) :
    linuxShmFrameAlloc ipc (interfaceOfIndex i) =
      (.ok, some f, ipc.claim i (interfaceOfIndex i) f) := by
  have hfree := LinuxShmIpc.firstFree_eq_some hf
  have hbitmap : ipc.allocationBitmap ≠ 0xFFFFFFFFFFFFFFFF := by
    intro hfull
    have hall : ∀ f : Fin 64, (0xFFFFFFFFFFFFFFFF : UInt64) &&& frameBit f != 0 := by decide
    simp only [LinuxShmIpc.isAllocated, hfull, hall f] at hfree
    cases hfree
  simp only [linuxShmFrameAlloc, hinit, interfaceIndex?_interfaceOfIndex, hf]
  rw [if_neg (by simp), if_neg (UInt64.not_le.mpr hquota), if_neg hbitmap]

/-- The blocks below `n` are in use, taken for interface 0. -/
structure FirstBlocks (n : ℕ) (ipc : LinuxShmIpc) : Prop where
  initialized : ipc.initialized = true
  bits : ∀ f : Fin 64, ipc.isAllocated f = decide (f.val < n)
  used : (ipc.stats.interfaceQuota 0).used = UInt64.ofNat n
  quota : (ipc.stats.interfaceQuota 0).quota = 64

theorem FirstBlocks.firstFree {n : ℕ} {ipc : LinuxShmIpc} (h : FirstBlocks n ipc) (hn : n < 64) :
    ipc.firstFree = some ⟨n, hn⟩ := by
  unfold LinuxShmIpc.firstFree
  rw [List.find?_eq_some_iff_getElem]
  refine ⟨by simp [h.bits], n, by simpa using hn, by simp, fun j hj => ?_⟩
  simp [h.bits, hj]

/-- The next allocation takes the next block. -/
theorem FirstBlocks.alloc {n : ℕ} {ipc : LinuxShmIpc} (h : FirstBlocks n ipc) (hn : n < 64) :
    (linuxShmFrameAlloc ipc 0).2.1 = some ⟨n, hn⟩ ∧
      FirstBlocks (n + 1) (linuxShmFrameAlloc ipc 0).2.2 := by
  have hquota : (ipc.stats.interfaceQuota 0).used < (ipc.stats.interfaceQuota 0).quota := by
    rw [h.used, h.quota, UInt64.lt_iff_toNat_lt, UInt64.toNat_ofNat']
    change n % 2 ^ 64 < 64
    omega
  have halloc := linuxShmFrameAlloc_firstFree h.initialized hquota (h.firstFree hn)
  rw [show interfaceOfIndex 0 = 0 from rfl] at halloc
  rw [halloc]
  refine ⟨rfl, h.initialized, fun g => ?_, ?_, ?_⟩
  · change (ipc.claim 0 0 ⟨n, hn⟩).pool.isAllocated g = _
    rw [LinuxShmIpc.pool_claim, Pool.isAllocated_claim]
    change (ipc.isAllocated g || _) = _
    rw [h.bits g, Bool.eq_iff_iff]
    simp only [Bool.or_eq_true, decide_eq_true_eq, Fin.ext_iff]
    omega
  · simp [LinuxShmIpc.claim, LinuxShmIpcStats.modifyQuota, h.used]
  · simp [LinuxShmIpc.claim, LinuxShmIpcStats.modifyQuota, h.quota]

/-! ## After an attach -/

/-- An unread descriptor or a reference names the frame. -/
def Referenced (g : Gateway) (f : Fin 64) : Prop :=
  (∃ i, ∃ d ∈ g.region.view.rx i, d.frameId = frameIdOfIndex f) ∨
    (∃ i, ∃ d ∈ g.region.view.tx i, d.frameId = frameIdOfIndex f) ∨
    (∃ d ∈ g.region.view.reclaim, d.frameId = frameIdOfIndex f) ∨
    (g.rtos.host.frameReferences f).inUse = true

theorem inFlight_eq_zero_iff : inFlight (ledger g.rtos) f = 0 ↔ ¬ Referenced g f := by
  constructor
  · rintro hzero (⟨i, d, hd, hid⟩ | ⟨i, d, hd, hid⟩ | ⟨d, hd, hid⟩ | hinUse)
    · exact absurd (inFlight_pos_of_rx (L := ledger g.rtos) hd hid) (by omega)
    · exact absurd (inFlight_pos_of_tx (L := ledger g.rtos) hd hid) (by omega)
    · exact absurd (inFlight_pos_of_reclaim (L := ledger g.rtos) hd hid) (by omega)
    · have href : (ledger g.rtos).references f = some (g.rtos.host.frameReferences f).descriptor :=
        FrameReference.descriptor?_eq_some.mpr ⟨hinUse, rfl⟩
      exact absurd (inFlight_pos_of_reference href) (by omega)
  · intro hnone
    simp only [Referenced, not_or, not_exists, not_and] at hnone
    obtain ⟨hrx, htx, hreclaim, hinUse⟩ := hnone
    have hreference : (ledger g.rtos).references f = none := by
      simp [ledger, Tasks.ledger, FrameReference.descriptor?, hinUse]
    have hcount : ∀ l : List Descriptor, (∀ d ∈ l, d.frameId ≠ frameIdOfIndex f) →
        l.countP (·.frameId == frameIdOfIndex f) = 0 := by
      intro l hl
      rw [List.countP_eq_zero]
      simpa using hl
    have hqueues : (ledger g.rtos).queues = g.region.view := rfl
    simp only [inFlight, named, hreference, hqueues]
    rw [Finset.sum_eq_zero fun i _ => hcount _ (hrx i), Finset.sum_eq_zero fun i _ => hcount _ (htx i),
      List.countP_eq_zero.mpr (by simpa using hreclaim)]
    simp

/-- The gateway after Linux has attached. -/
def Gateway.attach (g : Gateway) : Gateway := g.withShm (linuxShmIpcAttach g.shm).2

theorem attach_linux (hok : (linuxShmIpcAttach g.shm).1 = .ok) :
    g.attach.linux = resetLocalState { initialized := true } ∧ g.attach.rtos = g.rtos ∧
      g.region.Valid := by
  simp only [Gateway.attach, linuxShmIpcAttach] at hok ⊢
  split at hok
  · next hbad => exact absurd hok hbad
  next hvalid =>
  have hregion := not_not.mp hvalid
  rw [if_neg hvalid]
  exact ⟨rfl, rfl, validateRegion_valid hregion⟩

/-- Nothing is in flight that Linux does not know of. -/
structure Covered (g : Gateway) : Prop where
  sound : Sound g.rtos
  owned : Owned g.linux.pool (ledger g.rtos)

theorem Covered.step (h : Covered g) (hQ : Q.Succeeds) {s : Step} (hs : s.running) :
    Covered (s.run P Q K g) := by
  cases s with
  | linux op =>
    have hmoved : Moved op.descriptor? g.shm (op.run P g.shm) := op.moved P h.sound.valid
    exact ⟨h.sound.withRegion hmoved.valid, h.owned.poolMove hmoved.move⟩
  | rtos op => exact ⟨(h.sound.run op).1, h.owned.rtos h.sound hQ op⟩
  | restart => exact hs.elim

/-- A covered gateway allocates no block that is referenced. -/
theorem Covered.frameAlloc (h : Covered g) {source : PutShmInterface}
    (halloc : (linuxShmFrameAlloc g.linux source).2.1 = some f) : ¬ Referenced g f := by
  rw [← inFlight_eq_zero_iff]
  rcases linuxShmFrameAlloc_cases g.linux source with ⟨-, hnone, -⟩ | ⟨i, k, -, -, hfree, -, heq⟩
  · rw [hnone] at halloc
    cases halloc
  · rw [heq] at halloc
    obtain rfl : k = f := Option.some.inj halloc
    refine h.owned.idle fun hstate => ?_
    have halloc := (h.owned.bit k).mpr (by rw [hstate]; decide)
    exact absurd (halloc.symm.trans hfree) (by decide)

/-- Allocating again and again after an attach goes through the blocks in
order. -/
theorem reachable_firstBlocks (hok : (linuxShmIpcAttach g.shm).1 = .ok) {n : ℕ} (hn : n ≤ 64) :
    ∃ g', Reachable P Q K (fun _ s => s.running) g.attach g' ∧ FirstBlocks n g'.linux ∧
      g'.rtos = g.rtos := by
  induction n with
  | zero =>
    obtain ⟨hlinux, hrtos, -⟩ := attach_linux hok
    refine ⟨g.attach, .start, ?_, hrtos⟩
    rw [hlinux]
    refine ⟨rfl, fun f => ?_, rfl, rfl⟩
    change Pool.fresh.isAllocated f = _
    simp
  | succ n ih =>
    obtain ⟨g', hreach, hblocks, hrtos⟩ := ih (by omega)
    exact ⟨_, hreach.step (.linux (.frameAlloc 0)) trivial, (hblocks.alloc (by omega)).2, hrtos⟩

variable {B : Platform} {T : Clock} {seen : Fin 6 → List Descriptor}

/-- **When an attach keeps the blocks apart.** Linux attaches to a region
it accepts, the tasks of the RTOS being in any state they can reach. In
the runs that follow, Linux never allocates a block that an unread
descriptor or a reference names if and only if there is none at the
attach. -/
theorem attach_preserves_ownership_iff (hQ : Q.Succeeds) (hg : Reaches B T seen g.rtos)
    (hok : (linuxShmIpcAttach g.shm).1 = .ok) :
    (∀ g', Reachable P Q K (fun _ s => s.running) g.attach g' →
      ∀ source f, (linuxShmFrameAlloc g'.linux source).2.1 = some f → ¬ Referenced g' f) ↔
      ∀ f, ¬ Referenced g f := by
  obtain ⟨hlinux, hrtos, hvalid⟩ := attach_linux hok
  constructor
  · intro hall f hreferenced
    obtain ⟨g', hreach, hblocks, hrtos'⟩ :=
      reachable_firstBlocks (P := P) (Q := Q) (K := K) hok (n := f) (by omega)
    refine hall g' hreach 0 f (hblocks.alloc f.isLt).1 ?_
    simpa only [Referenced, Gateway.region, hrtos'] using hreferenced
  · intro hnone g' hreach source f halloc
    have hstart : Covered g.attach := by
      refine ⟨hrtos ▸ hg.sound, ?_⟩
      rw [hlinux, hrtos, resetLocalState_pool]
      exact .fresh fun f => inFlight_eq_zero_iff.mpr (hnone f)
    have hcovered : Covered g' :=
      hreach.invariant hstart fun _ _ hg hs => hg.step hQ hs
    exact hcovered.frameAlloc halloc

/-- Linux on a region it has just formatted. -/
def formattedGateway : Gateway := ⟨{}, 0, rtosTasksContextInit ⟨true, formatRegion 1 1, 0⟩ 0⟩

/-- Linux has committed a block, which the RTOS has not read. -/
def reattachedGateway : Gateway :=
  ([.linux (.frameAlloc 0), .linux (.frameCommitRx (sampleCommit 1))].foldl
    (Step.run .defaultOps .defaultOps fun _ => 0) (boot 1 1 ⟨{}, formatRegion 0 0, 0⟩))

theorem reattachedGateway_reaches :
    ∃ seen, Reaches .defaultOps (fun _ => 0) seen reattachedGateway.rtos := by
  have hreachable : Reachable .defaultOps .defaultOps (fun _ => 0) (fun _ s => s.running)
      (boot 1 1 ⟨{}, formatRegion 0 0, 0⟩) reattachedGateway :=
    (Reachable.start.step (.linux (.frameAlloc 0)) trivial).step
      (.linux (.frameCommitRx (sampleCommit 1))) trivial
  exact hreachable.rtos

/-- The block is on its RX ring, before Linux attaches again and after. -/
theorem reattachedGateway_referenced :
    Referenced reattachedGateway 0 ∧ Referenced reattachedGateway.attach 0 := by
  have hid : (reattachedGateway.region.view.rx 0).head?.map (·.frameId) = some 0 := by
    decide +kernel
  obtain ⟨d, hd, hd0⟩ := Option.map_eq_some_iff.mp hid
  have hrtos := (attach_linux (g := reattachedGateway) (by decide +kernel)).2.1
  refine ⟨.inl ⟨0, d, List.mem_of_mem_head? hd, hd0⟩, .inl ⟨0, d, ?_, hd0⟩⟩
  rw [Gateway.region, hrtos]
  exact List.mem_of_mem_head? hd

/-- Attaching to a region just formatted keeps the blocks apart; attaching
with a block in flight does not. -/
theorem attach_preserves_ownership_iff_reattached :
    (∀ g', Reachable .defaultOps .defaultOps (fun _ => 0) (fun _ s => s.running)
        formattedGateway.attach g' →
      ∀ source f, (linuxShmFrameAlloc g'.linux source).2.1 = some f → ¬ Referenced g' f) ∧
    ¬ ∀ g', Reachable .defaultOps .defaultOps (fun _ => 0) (fun _ s => s.running)
        reattachedGateway.attach g' →
      ∀ source f, (linuxShmFrameAlloc g'.linux source).2.1 = some f → ¬ Referenced g' f := by
  constructor
  · refine (attach_preserves_ownership_iff (g := formattedGateway) (B := .defaultOps)
      (T := fun _ => 0) Platform.defaultOps_succeeds (.init rfl (formatRegion_valid 1 1) 0)
      (by decide +kernel)).mpr fun f => inFlight_eq_zero_iff.mp ?_
    change inFlight (ledger (rtosTasksContextInit ⟨true, formatRegion 1 1, 0⟩ 0)) f = 0
    rw [ledger_contextInit, formatRegion_view]
    simp [inFlight, named]
  · intro hkept
    obtain ⟨seen, hreaches⟩ := reattachedGateway_reaches
    exact (attach_preserves_ownership_iff Platform.defaultOps_succeeds hreaches
      (by decide +kernel)).mp hkept 0 reattachedGateway_referenced.1

/-- **An attach loses track of blocks in flight**: the next allocation
returns the block that is unread on the RX ring. -/
theorem not_attach_preserves_ownership :
    ¬ ∀ (P Q : Platform) (K : Clock) (seen : Fin 6 → List Descriptor) (g g' : Gateway),
      P.Succeeds → Q.Succeeds → Reaches Q K seen g.rtos → (linuxShmIpcAttach g.shm).1 = .ok →
      Reachable P Q K (fun _ s => s.running) g.attach g' →
      ∀ source f, (linuxShmFrameAlloc g'.linux source).2.1 = some f → ¬ Referenced g' f := by
  intro hclaim
  obtain ⟨seen, hreaches⟩ := reattachedGateway_reaches
  exact hclaim .defaultOps .defaultOps (fun _ => 0) seen reattachedGateway reattachedGateway.attach
    Platform.defaultOps_succeeds Platform.defaultOps_succeeds hreaches (by decide +kernel) .start 0 0
    (by decide +kernel) reattachedGateway_referenced.2

end System

end PutGateway
