import PutGateway.Linux.ShmSpec
/-!
# The operations of Linux as moves

The counterpart on Linux of the ledger of the RTOS: what an operation
does to the pool and to the queues of the region, without statistics,
pending words and return codes. Each operation is one move, whatever its
platform calls return.
-/

namespace PutGateway

namespace Linux

/-! ## Operations -/

/-- An operation of Linux on the pool or on a ring. -/
inductive Operation
  | setInterfaceQuota (id : PutShmInterface) (quota : UInt64)
  | frameAlloc (source : PutShmInterface)
  /-- An adapter writes a block it was given. -/
  | fillFrame (f : Fin 64) (frame : FrameBlock)
  | frameCommitRx (c : Commit)
  | enqueueRxDescriptor (id : PutShmInterface) (d : Descriptor)
  | frameRelease (frameId reason : UInt32)
  | dequeueTxDescriptor (id : PutShmInterface)
  | dequeueReclaimDescriptor

/-- What an operation leaves. -/
def Operation.run (P : Platform) (shm : LinuxShm) : Operation → LinuxShm
  | .setInterfaceQuota id quota =>
    { shm with ipc := (linuxShmIpcSetInterfaceQuota shm.ipc id quota).2 }
  | .frameAlloc source => { shm with ipc := (linuxShmFrameAlloc shm.ipc source).2.2 }
  | .fillFrame f frame =>
    { shm with
      region := { shm.region with framePool := Function.update shm.region.framePool f frame } }
  | .frameCommitRx c => (c.run P shm).2
  | .enqueueRxDescriptor id d => (linuxShmEnqueueRxDescriptor P shm id d).2
  | .frameRelease frameId reason =>
    { shm with ipc := (linuxShmFrameRelease shm.ipc frameId reason).2 }
  | .dequeueTxDescriptor id => (linuxShmDequeueTxDescriptor P shm id).2.2
  | .dequeueReclaimDescriptor => (linuxShmDequeueReclaimDescriptor P shm).2.2

/-- The descriptor an operation may publish. -/
def Operation.descriptor? : Operation → Option Descriptor
  | .frameCommitRx c => some c.descriptor
  | .enqueueRxDescriptor _ d => some d
  | _ => none

/-! ## Moves -/

/-- Linux hands the frame of a TX descriptor to egress. -/
structure Pool.TakesTx (p : Pool) (i : Fin 6) (d : Descriptor) (f : Fin 64) : Prop where
  crc : descriptorCrc d = d.descriptorCrc16
  bounds : validateDescriptorBounds d = .ok
  target : d.targetInterface = UInt8.ofNat i
  frame : frameIndex? d.frameId = some f
  queued : p.Queued f d.sourceInterface

/-- Linux releases the frame of a reclaim descriptor. -/
structure Pool.TakesReclaim (p : Pool) (d : ReclaimDescriptor) (f : Fin 64) : Prop where
  crc : reclaimCrc d = d.descriptorCrc16
  reason : d.reason ≤ ReclaimReason.queueFull.code
  frame : frameIndex? d.frameId = some f
  queued : p.Queued f d.sourceInterface
  target : (p.frames f).targetInterface = d.targetInterface

/-- One move on the pool and the queues, of an operation that may publish
`b`. -/
inductive PoolMove (b : Option Descriptor) : Pool → Queues → Pool → Queues → Prop
  | idle {p q} : PoolMove b p q p q
  | claim {p q} (i : Fin 6) {f m} (hfree : p.isAllocated f = false)
      (hm : m.state = FrameState.allocated) (hunmarked : m.pendingReclaim = false) :
      PoolMove b p q (p.claim i f m) q
  | publish {p q i f d} (hb : b = some d) (hf : frameIndex? d.frameId = some f)
      (hbounds : validateDescriptorBounds d = .ok) (hsource : d.sourceInterface = UInt8.ofNat i.val)
      (halloc : p.isAllocated f = true) (hstate : (p.frames f).state = .allocated)
      (hmeta : (p.frames f).sourceInterface = d.sourceInterface) (hroom : (q.rx i).length < 8) :
      PoolMove b p q
        (p.put f { p.frames f with state := .rxQueued, targetInterface := d.targetInterface })
        (q.setRx i (q.rx i ++ [d.sealed]))
  | release {p q f} (halloc : p.isAllocated f = true) (hrelease : (p.frames f).releasable) :
      PoolMove b p q (p.discharge f) q
  | dropTx {p q i d rest} (htx : q.tx i = d :: rest) (hbad : ∀ f, ¬ p.TakesTx i d f) :
      PoolMove b p q p (q.setTx i rest)
  | takeTx {p q i d rest f} (htx : q.tx i = d :: rest) (htakes : p.TakesTx i d f) :
      PoolMove b p q (p.put f { p.frames f with state := .txReady }) (q.setTx i rest)
  | dropReclaim {p q d rest} (hr : q.reclaim = d :: rest) (hbad : ∀ f, ¬ p.TakesReclaim d f) :
      PoolMove b p q p (q.setReclaim rest)
  | takeReclaim {p q d rest f} (hr : q.reclaim = d :: rest) (htakes : p.TakesReclaim d f) :
      PoolMove b p q (p.discharge f) (q.setReclaim rest)

variable {P : Platform} {shm shm' : LinuxShm} {i : Fin 6} {f : Fin 64} {q : Queues}
  {b : Option Descriptor}

theorem PoolMove.initialized {p p' : Pool} {q' : Queues} (h : PoolMove b p q p' q') :
    p'.initialized = p.initialized := by
  cases h <;> rfl

/-- A move frees a frame that Linux may release, or that the head of the
reclaim ring names. -/
theorem PoolMove.freed {p p' : Pool} {q' : Queues} (h : PoolMove b p q p' q')
    (hbefore : p.isAllocated f = true) (hafter : p'.isAllocated f = false) :
    (p.frames f).releasable ∨ ∃ d rest, q.reclaim = d :: rest ∧ p.TakesReclaim d f := by
  cases h with
  | idle => simp [hbefore] at hafter
  | claim => simp [Pool.isAllocated_claim, hbefore] at hafter
  | publish => simp [hbefore] at hafter
  | release halloc hrelease =>
    simp only [Pool.isAllocated_discharge, hbefore, Bool.true_and, Bool.not_eq_false',
      decide_eq_true_eq] at hafter
    exact .inl (hafter ▸ hrelease)
  | dropTx => simp [hbefore] at hafter
  | takeTx => simp [hbefore] at hafter
  | dropReclaim => simp [hbefore] at hafter
  | takeReclaim hr htakes =>
    simp only [Pool.isAllocated_discharge, hbefore, Bool.true_and, Bool.not_eq_false',
      decide_eq_true_eq] at hafter
    exact .inr ⟨_, _, hr, hafter ▸ htakes⟩

theorem txAccepted_iff {ipc : LinuxShmIpc} {d : Descriptor} :
    TxAccepted i ipc d ↔ ∃ f, ipc.pool.TakesTx i d f := by
  constructor
  · rintro ⟨hcrc, hcheck⟩
    obtain ⟨hbounds, htarget, f, hf, hqueued⟩ := checkTxDescriptor_eq_ok_iff.mp hcheck
    exact ⟨f, hcrc, hbounds, htarget, hf, hqueued⟩
  · rintro ⟨f, hcrc, hbounds, htarget, hf, hqueued⟩
    exact ⟨hcrc, checkTxDescriptor_eq_ok_iff.mpr ⟨hbounds, htarget, f, hf, hqueued⟩⟩

theorem reclaimAccepted_iff {ipc : LinuxShmIpc} {d : ReclaimDescriptor} :
    ReclaimAccepted ipc d ↔ ∃ f, ipc.pool.TakesReclaim d f := by
  constructor
  · rintro ⟨hcrc, hcheck⟩
    obtain ⟨hreason, f, hf, hqueued, htarget⟩ := checkReclaimDescriptor_eq_ok_iff.mp hcheck
    exact ⟨f, hcrc, hreason, hf, hqueued, htarget⟩
  · rintro ⟨f, hcrc, hreason, hf, hqueued, htarget⟩
    exact ⟨hcrc, checkReclaimDescriptor_eq_ok_iff.mpr ⟨hreason, f, hf, hqueued, htarget⟩⟩

/-- What an operation did: one move, on a region that stays valid and
keeps its header. -/
structure Moved (b : Option Descriptor) (shm shm' : LinuxShm) : Prop where
  valid : shm'.region.Valid
  header : shm'.region.header = shm.region.header
  move : PoolMove b shm.ipc.pool shm.region.view shm'.ipc.pool shm'.region.view

theorem Moved.of_becomes (hregion : shm.region.Becomes shm'.region q)
    (hmove : PoolMove b shm.ipc.pool shm.region.view shm'.ipc.pool q) : Moved b shm shm' :=
  ⟨hregion.valid, hregion.header, hregion.view.symm ▸ hmove⟩

theorem Moved.idle (hregion : shm.region.Becomes shm'.region shm.region.view)
    (hpool : shm'.ipc.pool = shm.ipc.pool) : Moved b shm shm' :=
  .of_becomes hregion (hpool.symm ▸ .idle)

/-- Nothing but the pool changes. -/
theorem Moved.of_region (hv : shm.region.Valid) (hregion : shm'.region = shm.region)
    (hmove : PoolMove b shm.ipc.pool shm.region.view shm'.ipc.pool shm.region.view) :
    Moved b shm shm' :=
  .of_becomes (hregion.symm ▸ hv.becomes_self) hmove

/-- An operation that fails before it publishes. -/
private theorem Moved.staged {d : Descriptor} (hv : shm.region.Valid)
    (hpool : shm'.ipc.pool = shm.ipc.pool)
    (hregion : shm.region.Kept shm'.region ∨
      ∃ i, (shm.region.rxRings i).used < (shm.region.rxRings i).producer.depth ∧
        (shm.region.stageRx i d).Kept shm'.region) : Moved b shm shm' := by
  rcases hregion with hkept | ⟨i, hroom, hkept⟩
  · exact .idle (hkept.becomes hv) hpool
  · exact .idle (Region.becomes_stageRx hv (hv.rx_room.mp hroom) hkept) hpool

/-- An operation that publishes on an RX ring. -/
private theorem Moved.published {d : Descriptor} (hv : shm.region.Valid)
    (hf : frameIndex? d.frameId = some f) (hbounds : validateDescriptorBounds d = .ok)
    (hsource : d.sourceInterface = UInt8.ofNat i) (halloc : shm.ipc.isAllocated f = true)
    (hstate : (shm.ipc.frames f).state = .allocated)
    (hmeta : (shm.ipc.frames f).sourceInterface = d.sourceInterface)
    (hroom : (shm.region.rxRings i).used < (shm.region.rxRings i).producer.depth)
    (hregion : (shm.region.publishRx i d.sealed).Kept shm'.region)
    (hpool : shm'.ipc.pool = shm.ipc.pool.put f { shm.ipc.frames f with
      state := .rxQueued, targetInterface := d.targetInterface }) : Moved (some d) shm shm' := by
  have hroom' := hv.rx_room.mp hroom
  refine .of_becomes (Region.becomes_publishRx hv hroom' hregion) ?_
  exact hpool.symm ▸ .publish rfl hf hbounds hsource halloc hstate hmeta hroom'

/-- **Every operation of Linux is one move.** -/
theorem Operation.moved (P : Platform) (hv : shm.region.Valid) (op : Operation) :
    Moved op.descriptor? shm (op.run P shm) := by
  have hself := hv.becomes_self
  cases op with
  | setInterfaceQuota id quota => exact .idle hself linuxShmIpcSetInterfaceQuota_pool
  | frameAlloc source =>
    rcases linuxShmFrameAlloc_cases shm.ipc source with
      ⟨-, -, hpool⟩ | ⟨i, f, -, -, hfree, -, heq⟩
    · exact .idle hself hpool
    · refine .of_region hv rfl ?_
      have hpool : (linuxShmFrameAlloc shm.ipc source).2.2.pool =
          shm.ipc.pool.claim i f (allocatedMeta source (shm.ipc.allocationSequence + 1)) := by
        rw [heq, LinuxShmIpc.pool_claim]
      exact hpool ▸ .claim i hfree rfl rfl
  | fillFrame f frame =>
    exact ⟨hv.withFramePool _, rfl, .idle⟩
  | frameCommitRx c =>
    rcases linuxShmFrameCommitRx_cases P shm c with
      ⟨-, hpool, hregion⟩ | ⟨-, i, f, hi, hf, -, hbounds, halloc, hstate, hmeta, hroom, hregion, hpool⟩
    · exact .staged hv hpool hregion
    · have hi' : c.source.toUInt8 = UInt8.ofNat i := by
        rw [interfaceIndex?_eq_some.mp hi, toUInt8_interfaceOfIndex]
      exact .published (d := c.descriptor) hv hf hbounds hi' halloc hstate hmeta hroom hregion hpool
  | enqueueRxDescriptor id d =>
    rcases linuxShmEnqueueRxDescriptor_cases P shm id d with
      ⟨-, hpool, hregion⟩ |
        ⟨-, i, f, hi, hf, hsource, hbounds, halloc, hstate, hmeta, hroom, hregion, hpool⟩
    · exact .staged hv hpool hregion
    · have hi' : d.sourceInterface = UInt8.ofNat i := by
        rw [hsource, interfaceIndex?_eq_some.mp hi, toUInt8_interfaceOfIndex]
      exact .published hv hf hbounds hi' halloc hstate (hmeta.trans hsource.symm) hroom hregion hpool
  | frameRelease frameId reason =>
    rcases linuxShmFrameRelease_cases shm.ipc frameId reason with
      ⟨-, heq⟩ | ⟨f, -, halloc, hrelease, heq⟩
    · exact .idle hself (congrArg LinuxShmIpc.pool heq)
    · refine .of_region hv rfl ?_
      have hpool : (linuxShmFrameRelease shm.ipc frameId reason).2.pool =
          shm.ipc.pool.discharge f := by
        rw [heq, LinuxShmIpc.pool_discharge]
      exact hpool ▸ .release halloc hrelease
  | dequeueTxDescriptor id =>
    by_cases hready : shm.ipc.initialized = true ∧ ∃ i, interfaceIndex? id = some i
    swap
    · -- refused at once
      have heq : (Operation.dequeueTxDescriptor id).run P shm = shm := by
        simp only [Operation.run, linuxShmDequeueTxDescriptor]
        split
        · rfl
        next hinit =>
        split
        · rfl
        next i hi => exact absurd ⟨by simpa using hinit, i, hi⟩ hready
      rw [heq]
      exact .idle hself rfl
    obtain ⟨hinit, i, hi⟩ := hready
    obtain rfl := interfaceIndex?_eq_some.mp hi
    rcases linuxShmDequeueTxDescriptor_cases P hv hinit i with
      ⟨-, -, hpool, hregion, -⟩ | ⟨d, rest, htx, hregion, hends⟩
    · exact .idle hregion hpool
    rcases hends with ⟨hbad, -, -, -, hpool⟩ | ⟨hgood, -, hpool, -⟩
    · refine .of_becomes hregion ?_
      have hbad' := fun f hf => hbad (txAccepted_iff.mpr ⟨f, hf⟩)
      exact hpool.symm ▸ .dropTx htx hbad'
    · refine .of_becomes hregion ?_
      obtain ⟨f, htakes⟩ := txAccepted_iff.mp hgood
      exact (hpool.trans (LinuxShmIpc.pool_markTxReady htakes.frame)).symm ▸ .takeTx htx htakes
  | dequeueReclaimDescriptor =>
    by_cases hinit : shm.ipc.initialized = true
    swap
    · have heq : Operation.dequeueReclaimDescriptor.run P shm = shm := by
        simp [Operation.run, linuxShmDequeueReclaimDescriptor, hinit]
      rw [heq]
      exact .idle hself rfl
    rcases linuxShmDequeueReclaimDescriptor_cases P hv hinit with
      ⟨-, -, hpool, hregion, -⟩ | ⟨d, rest, hr, hregion, hends⟩
    · exact .idle hregion hpool
    rcases hends with ⟨hbad, -, -, -, hpool⟩ | ⟨hgood, -, hpool, -⟩
    · refine .of_becomes hregion ?_
      have hbad' := fun f hf => hbad (reclaimAccepted_iff.mpr ⟨f, hf⟩)
      exact hpool.symm ▸ .dropReclaim hr hbad'
    · refine .of_becomes hregion ?_
      obtain ⟨f, htakes⟩ := reclaimAccepted_iff.mp hgood
      exact (hpool.trans (LinuxShmIpc.pool_takeReclaim hinit htakes.frame
        htakes.queued.allocated)).symm ▸ .takeReclaim hr htakes

theorem subset_of_takeTx {d : Descriptor} {rest : List Descriptor} (h : q.tx i = d :: rest)
    (j : Fin 6) :
    (q.setTx i rest).tx j ⊆ q.tx j := by
  intro d' hd
  rw [Queues.setTx_tx] at hd
  split at hd
  · next hj =>
    subst hj
    exact h ▸ List.mem_cons_of_mem d hd
  · exact hd

/-- A move takes TX descriptors and adds none. -/
theorem PoolMove.tx_subset {p p' : Pool} {q' : Queues} (h : PoolMove b p q p' q') (j : Fin 6) :
    q'.tx j ⊆ q.tx j := by
  cases h with
  | dropTx htx => exact subset_of_takeTx htx j
  | takeTx htx => exact subset_of_takeTx htx j
  | _ => exact fun _ hd => hd

/-- What a move publishes on an RX ring is what the operation may publish. -/
theorem PoolMove.mem_rx {p p' : Pool} {q' : Queues} (h : PoolMove b p q p' q') {j : Fin 6}
    {r : Descriptor} (hr : r ∈ q'.rx j) : r ∈ q.rx j ∨ ∃ d, b = some d ∧ r = d.sealed := by
  cases h with
  | @publish i f d hb =>
    rw [Queues.setRx_rx] at hr
    split at hr
    · next hj =>
      subst hj
      rcases List.mem_append.mp hr with hr | hr
      · exact .inl hr
      · exact .inr ⟨d, hb, List.mem_singleton.mp hr⟩
    · exact .inl hr
  | _ => exact .inl hr

/-- **The blocks are written by the adapters alone.** -/
theorem Operation.framePool (P : Platform) (shm : LinuxShm) (op : Operation) :
    (op.run P shm).region.framePool =
      match op with
      | .fillFrame f frame => Function.update shm.region.framePool f frame
      | _ => shm.region.framePool := by
  cases op with
  | setInterfaceQuota => rfl
  | frameAlloc => rfl
  | fillFrame => rfl
  | frameCommitRx c =>
    rcases linuxShmFrameCommitRx_cases P shm c with
      ⟨-, -, hkept | ⟨i, -, hkept⟩⟩ | ⟨-, i, f, -, -, -, -, -, -, -, -, hkept, -⟩
    · exact hkept.framePool
    · exact hkept.framePool
    · exact hkept.framePool
  | enqueueRxDescriptor id d =>
    rcases linuxShmEnqueueRxDescriptor_cases P shm id d with
      ⟨-, -, hkept | ⟨i, -, hkept⟩⟩ | ⟨-, i, f, -, -, -, -, -, -, -, -, hkept, -⟩
    · exact hkept.framePool
    · exact hkept.framePool
    · exact hkept.framePool
  | frameRelease => rfl
  | dequeueTxDescriptor id =>
    simp only [Operation.run, linuxShmDequeueTxDescriptor]
    split
    · rfl
    split
    · rfl
    split
    · rfl
    · rfl
  | dequeueReclaimDescriptor =>
    simp only [Operation.run, linuxShmDequeueReclaimDescriptor]
    split
    · rfl
    split
    · rfl
    · rfl

/-! ## Starts -/

/-- A start of Linux on a region that is there. -/
inductive Restart
  | format (linuxEpoch rtosEpoch : UInt32)
  | attach

/-- What a start leaves. -/
def Restart.run (shm : LinuxShm) : Restart → LinuxShm
  | .format linuxEpoch rtosEpoch => (linuxShmIpcFormatRegion shm linuxEpoch rtosEpoch).2
  | .attach => (linuxShmIpcAttach shm).2

/-- A start leaves a valid region. -/
theorem Restart.valid (r : Restart) (hv : shm.region.Valid) : (r.run shm).region.Valid := by
  cases r with
  | format linuxEpoch rtosEpoch => exact formatRegion_valid linuxEpoch rtosEpoch
  | attach =>
    simp only [Restart.run, linuxShmIpcAttach]
    split
    · exact hv
    · exact hv

end Linux

end PutGateway
