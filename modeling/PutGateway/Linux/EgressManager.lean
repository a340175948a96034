import PutGateway.Lib.Signal
import PutGateway.Linux.EgressWorker
import PutGateway.Linux.IpcStats
import PutGateway.Linux.Operations
/-!
# The egress manager

`linux_app/egress/egress_manager.c`: one thread looks at the pending bits
of the TX rings and takes the reclaim ring empty, every 100 ms; one thread
for each interface sleeps until its bit was seen, and drains its ring.

The drain of the reclaim ring is modelled here as the loop it is. The
threads, which work between each other's operations, are modelled in
`EgressThreads`.
-/

namespace PutGateway

namespace Linux

/-- `status_module_id_t`. -/
inductive StatusModuleId
  | can
  | ethernet
  | wifi
  | bluetooth
  | fourG
  | rs485
  deriving DecidableEq, Repr

/-- `record_reclaim_error`: the module, the stage and the error the
collector is told. -/
def recordReclaimError (err : UnifiedError) : StatusModuleId × String × UnifiedError :=
  (.ethernet, "egress_ipc_reclaim", err)

/-! ## Draining the reclaim ring -/

/-- What `egress_manager_drain_reclaim_once` leaves: its result, the count
where it gives one out, and what it tells the collector. -/
structure ReclaimDrain where
  result : UnifiedError
  count : Option UInt32
  recorded : Option (StatusModuleId × String × UnifiedError)
  shm : LinuxShm

/-- The loop of `egress_manager_drain_reclaim_once`, for so many rounds. -/
def drainReclaimLoop (P : Platform) : ℕ → UInt32 → LinuxShm → Option ReclaimDrain
  | 0, _, _ => none
  | rounds + 1, count, shm =>
    let r := linuxShmDequeueReclaimDescriptor P shm
    if r.1 = .ipcQueueEmpty then some ⟨.ok, some count, none, r.2.2⟩
    else if r.1 ≠ .ok then some ⟨r.1, none, some (recordReclaimError r.1), r.2.2⟩
    else drainReclaimLoop P rounds (count + 1) r.2.2

variable {P : Platform} {shm : LinuxShm} {p p' : Pool} {l : List ReclaimDescriptor}

/-- Linux takes the reclaims of a list in turn, and each frees its
frame. -/
inductive Pool.Reclaims : Pool → List ReclaimDescriptor → Pool → Prop
  | nil {p : Pool} : p.Reclaims [] p
  | cons {p p' : Pool} {d : ReclaimDescriptor} {l : List ReclaimDescriptor} {f : Fin 64}
      (htakes : p.TakesReclaim d f) (h : (p.discharge f).Reclaims l p') : p.Reclaims (d :: l) p'

/-- What a drain comes to: the whole ring, or what lies before the first
reclaim that is refused, which is dropped and reported. -/
inductive DrainsReclaims (p : Pool) (count : UInt32) (l : List ReclaimDescriptor) (D : ReclaimDrain) :
    Prop
  | all (hall : p.Reclaims l D.shm.ipc.pool) (hleft : D.shm.region.view.reclaim = [])
      (hresult : D.result = .ok) (hcount : D.count = some (count + UInt32.ofNat l.length))
      (hsilent : D.recorded = none)
  | upTo {taken : List ReclaimDescriptor} {d : ReclaimDescriptor} {rest : List ReclaimDescriptor}
      (hl : l = taken ++ d :: rest) (htaken : p.Reclaims taken D.shm.ipc.pool)
      (hbad : ∀ f, ¬ D.shm.ipc.pool.TakesReclaim d f) (hleft : D.shm.region.view.reclaim = rest)
      (hresult : D.result ≠ .ok) (hcount : D.count = none)
      (hrecorded : D.recorded = some (recordReclaimError D.result))

/-- One more reclaim, taken first. -/
theorem DrainsReclaims.cons {d : ReclaimDescriptor} {f : Fin 64} {count : UInt32} {D : ReclaimDrain}
    (htakes : p.TakesReclaim d f) (h : DrainsReclaims (p.discharge f) (count + 1) l D) :
    DrainsReclaims p count (d :: l) D := by
  cases h with
  | all hall hleft hresult hcount hsilent =>
    refine .all (.cons htakes hall) hleft hresult ?_ hsilent
    rw [hcount, List.length_cons, UInt32.ofNat_add, UInt32.add_assoc,
      UInt32.add_comm (UInt32.ofNat l.length)]
    rfl
  | upTo hl htaken hbad hleft hresult hcount hrecorded =>
    exact .upTo (congrArg (d :: ·) hl) (.cons htakes htaken) hbad hleft hresult hcount hrecorded

/-- **The drain of the reclaim ring ends**, within one round more than the
ring holds entries, and frees the frames of the reclaims it has taken in
the order in which they lie on the ring. It takes them all, or stops at
the first one it refuses and reports that. -/
theorem drainReclaimLoop_ends (hP : P.Succeeds) (hv : shm.region.Valid)
    (hinit : shm.ipc.initialized = true) {rounds : ℕ}
    (hrounds : shm.region.view.reclaim.length < rounds) (count : UInt32) :
    ∃ D, drainReclaimLoop P rounds count shm = some D ∧
      DrainsReclaims shm.ipc.pool count shm.region.view.reclaim D := by
  induction rounds generalizing shm count with
  | zero => exact absurd hrounds (Nat.not_lt_zero _)
  | succ rounds ih =>
    have hcases := linuxShmDequeueReclaimDescriptor_cases P hv hinit
    have hmoved : Moved none shm (linuxShmDequeueReclaimDescriptor P shm).2.2 :=
      Operation.dequeueReclaimDescriptor.moved P hv
    unfold drainReclaimLoop
    generalize linuxShmDequeueReclaimDescriptor P shm = r at hcases hmoved ⊢
    simp only
    rcases hcases with ⟨-, -, hpool, hregion, hempty⟩ | ⟨d, rest, hring, hregion, hends⟩
    · obtain ⟨hring, hres⟩ := hempty hP
      rw [if_pos hres]
      refine ⟨_, rfl, .all ?_ ?_ rfl ?_ rfl⟩
      · rw [hring]
        simp only [hpool]
        exact .nil
      · exact (congrArg Queues.reclaim hregion.view).trans hring
      · rw [hring]
        simp
    have hleft : r.2.2.region.view.reclaim = rest := congrArg Queues.reclaim hregion.view
    rw [hring] at hrounds ⊢
    rcases hends with ⟨hbad, hres, hres', -, hpool⟩ | ⟨hgood, -, hpool, hok⟩
    · -- refused, and consumed all the same
      rw [if_neg hres', if_pos hres]
      refine ⟨_, rfl, .upTo (List.nil_append _).symm ?_ ?_ hleft hres rfl rfl⟩
      · simp only [hpool]
        exact .nil
      · simp only [hpool]
        exact fun f hf => hbad (reclaimAccepted_iff.mpr ⟨f, hf⟩)
    · obtain ⟨f, htakes⟩ := reclaimAccepted_iff.mp hgood
      have hdischarged : r.2.2.ipc.pool = shm.ipc.pool.discharge f :=
        hpool.trans (LinuxShmIpc.pool_takeReclaim hinit htakes.frame htakes.queued.allocated)
      have hinit' : r.2.2.ipc.initialized = true := hmoved.move.initialized.trans hinit
      rw [hok hP, if_neg (by decide), if_neg (by decide)]
      obtain ⟨D, hD, hdrains⟩ := ih hmoved.valid hinit' (by
        rw [hleft]
        rw [List.length_cons] at hrounds
        omega) (count + 1)
      rw [hdischarged, hleft] at hdrains
      exact ⟨D, hD, hdrains.cons htakes⟩

/-! ## A drain that stops at its third reclaim -/

/-- A commit of a CAN frame to Ethernet, in block `f`. -/
def canToEthernet (f : Fin 64) : Commit where
  frameId := frameIdOfIndex f
  frameLength := 40
  source := putShmInterfaceCan
  target := putShmInterfaceEthernet
  sourceCid := {}
  destinationCid := {}
  type := 0x49
  priority := 2
  ttl := 0
  epoch := 1
  flags := 0

/-- The reclaim of it, as the RTOS writes it. -/
def canReclaim (f : Fin 64) : ReclaimDescriptor :=
  ReclaimDescriptor.sealed
    { frameId := frameIdOfIndex f
      reason := ReclaimReason.noRoute.code
      sourceInterface := 0
      targetInterface := 1
      epoch := 1 }

/-- Two frames have been committed and given back, the second of them
twice. -/
def returnedTwice : LinuxShm :=
  let committed := [.frameAlloc 0, .frameAlloc 0, .frameCommitRx (canToEthernet 0),
    .frameCommitRx (canToEthernet 1)].foldl (Operation.run .defaultOps)
      (linuxShmIpcFormatRegion ⟨{}, formatRegion 1 1, 0⟩ 1 1).2
  { committed with
    region := ((committed.region.publishReclaim (canReclaim 1)).publishReclaim
      (canReclaim 0)).publishReclaim (canReclaim 1) }

theorem returnedTwice_valid : returnedTwice.region.Valid := by
  have hcommitted : ∀ (ops : List Operation) (shm : LinuxShm), shm.region.Valid →
      (ops.foldl (Operation.run .defaultOps) shm).region.Valid := by
    intro ops
    induction ops with
    | nil => exact fun shm hv => hv
    | cons op rest ih => exact fun shm hv => ih _ (op.moved .defaultOps hv).valid
  have hformatted : (linuxShmIpcFormatRegion ⟨{}, formatRegion 1 1, 0⟩ 1 1).2.region.Valid :=
    formatRegion_valid 1 1
  exact (((hcommitted _ _ hformatted).publishReclaim _).publishReclaim _).publishReclaim _

set_option maxRecDepth 100000 in
/-- The drain frees both frames and stops at the reclaim that comes a
second time. -/
theorem drainReclaimLoop_ends_twice :
    returnedTwice.ipc.allocationBitmap = 3 ∧
    ∃ D, drainReclaimLoop .defaultOps 4 0 returnedTwice = some D ∧
      D.result = .invalidArg ∧ D.shm.ipc.allocationBitmap = 0 ∧
      DrainsReclaims returnedTwice.ipc.pool 0 returnedTwice.region.view.reclaim D := by
  have hrounds : returnedTwice.region.view.reclaim.length < 4 := by decide +kernel
  obtain ⟨D, hD, hdrains⟩ := drainReclaimLoop_ends Platform.defaultOps_succeeds returnedTwice_valid
    (by decide +kernel) hrounds 0
  have hends : (drainReclaimLoop .defaultOps 4 0 returnedTwice).map
      (fun D => (D.result, D.shm.ipc.allocationBitmap)) = some (.invalidArg, 0) := by decide +kernel
  rw [hD, Option.map_some, Option.some_inj, Prod.ext_iff] at hends
  exact ⟨by decide +kernel, D, hD, hends.1, hends.2, hdrains⟩

end Linux

end PutGateway
