import PutGateway.Linux.Operations
/-!
# Accesses past an array

Linux checks an interface it is given by its low byte and indexes with the
whole value, so that a value such as `0x100` passes the check and leaves
the array. The functions here make the checks in the order of the source
and have no result where the access leaves the array; elsewhere they go on
as the operations they are named for. `Operation.overruns` says of the
arguments and the state before a call whether it comes to such an access,
and `Operation.run?_eq` that nothing else does.
-/

namespace PutGateway

namespace Linux

variable {P : Platform} {shm : LinuxShm} {ipc : LinuxShmIpc} {id : PutShmInterface}

/-! ## The operations on any argument -/

/-- `linux_shm_ipc_set_interface_quota`, to the access of
`interface_quota[interface_id]`. -/
def linuxShmIpcSetInterfaceQuota? (ipc : LinuxShmIpc) (interfaceId : PutShmInterface)
    (quota : UInt64) : Option (UnifiedError × LinuxShmIpc) :=
  if !isInterfaceValid interfaceId.toUInt8 || quota > 64 then some (.invalidArg, ipc)
  else (interfaceIndex? interfaceId).map fun i =>
    (.ok, { ipc with stats := ipc.stats.modifyQuota i fun q => { q with quota := quota } })

/-- `linux_shm_frame_alloc`, to the access of
`interface_quota[source_interface]`. -/
def linuxShmFrameAlloc? (ipc : LinuxShmIpc) (sourceInterface : PutShmInterface) :
    Option (UnifiedError × Option (Fin 64) × LinuxShmIpc) :=
  if !ipc.initialized then some (.ipcNotReady, none, ipc)
  else if !isInterfaceValid sourceInterface.toUInt8 then some (.invalidArg, none, ipc)
  else (interfaceIndex? sourceInterface).map fun _ => linuxShmFrameAlloc ipc sourceInterface

/-- `linux_shm_enqueue_rx_descriptor`, to the access of
`rx_rings[interface_id]`. -/
def linuxShmEnqueueRxDescriptor? (P : Platform) (shm : LinuxShm) (interfaceId : PutShmInterface)
    (descriptor : Descriptor) : Option (UnifiedError × LinuxShm) :=
  if !shm.ipc.initialized then some (.ipcNotReady, shm)
  else if !isInterfaceValid interfaceId.toUInt8 then some (.invalidArg, shm)
  else (interfaceIndex? interfaceId).map fun _ =>
    linuxShmEnqueueRxDescriptor P shm interfaceId descriptor

/-- `linux_shm_frame_commit_rx`. Its own accesses stay in their arrays;
the enqueue it ends in may not. -/
def Commit.run? (P : Platform) (shm : LinuxShm) (c : Commit) : Option (UnifiedError × LinuxShm) :=
  if !shm.ipc.initialized then some (.ipcNotReady, shm)
  else match frameIndex? c.frameId with
    | none => some (.invalidArg, shm)
    | some f =>
      if !isInterfaceValid c.source.toUInt8 || !isInterfaceValid c.target.toUInt8 then
        some (.invalidArg, shm)
      else if !shm.ipc.isAllocated f || (shm.ipc.frames f).state ≠ .allocated ||
          (shm.ipc.frames f).sourceInterface ≠ c.source.toUInt8 then some (.invalidArg, shm)
      else if c.frameLength < anymsgHeaderSize || c.frameLength > 512 then some (.length, shm)
      else if (shm.cacheOp P).1 ≠ .ok then some (shm.cacheOp P)
      else (linuxShmEnqueueRxDescriptor? P (shm.cacheOp P).2 c.source c.descriptor).map fun r =>
        if r.1 = .ok then
          (r.1, { r.2 with
            ipc := r.2.ipc.modifyFrame f fun m =>
              { m with state := .rxQueued, targetInterface := c.target.toUInt8 } })
        else r

/-- `linux_shm_dequeue_tx_descriptor`, to the access of
`tx_rings[interface_id]`. -/
def linuxShmDequeueTxDescriptor? (P : Platform) (shm : LinuxShm) (interfaceId : PutShmInterface) :
    Option (UnifiedError × Option Descriptor × LinuxShm) :=
  if !shm.ipc.initialized then some (.ipcNotReady, none, shm)
  else if !isInterfaceValid interfaceId.toUInt8 then some (.invalidArg, none, shm)
  else (interfaceIndex? interfaceId).map fun _ => linuxShmDequeueTxDescriptor P shm interfaceId

/-- What an operation leaves, where it stays in the arrays. The other
operations are given no interface. -/
def Operation.run? (P : Platform) (shm : LinuxShm) : Operation → Option LinuxShm
  | .setInterfaceQuota id quota =>
    (linuxShmIpcSetInterfaceQuota? shm.ipc id quota).map fun r => { shm with ipc := r.2 }
  | .frameAlloc source => (linuxShmFrameAlloc? shm.ipc source).map fun r => { shm with ipc := r.2.2 }
  | .frameCommitRx c => (c.run? P shm).map fun r => r.2
  | .enqueueRxDescriptor id d => (linuxShmEnqueueRxDescriptor? P shm id d).map fun r => r.2
  | .dequeueTxDescriptor id => (linuxShmDequeueTxDescriptor? P shm id).map fun r => r.2.2
  | .fillFrame f frame => some (Operation.run P shm (.fillFrame f frame))
  | .frameRelease frameId reason => some (Operation.run P shm (.frameRelease frameId reason))
  | .dequeueReclaimDescriptor => some (Operation.run P shm .dequeueReclaimDescriptor)

/-! ## Where a call leaves an array -/

/-- The checks of `linux_shm_frame_commit_rx` let the frame through to the
ring. -/
def Commit.passes (P : Platform) (shm : LinuxShm) (c : Commit) : Bool :=
  shm.ipc.initialized && match frameIndex? c.frameId with
    | none => false
    | some f =>
      (isInterfaceValid c.source.toUInt8 && isInterfaceValid c.target.toUInt8) &&
        (shm.ipc.isAllocated f && (shm.ipc.frames f).state = .allocated &&
          (shm.ipc.frames f).sourceInterface = c.source.toUInt8) &&
        (anymsgHeaderSize ≤ c.frameLength && c.frameLength ≤ 512) && P.outcome shm.calls = .ok

/-- The call comes to an access past an array. -/
def Operation.overruns (P : Platform) (shm : LinuxShm) : Operation → Bool
  | .setInterfaceQuota id quota => pastArray id && !(quota > 64)
  | .frameAlloc source => shm.ipc.initialized && pastArray source
  | .frameCommitRx c => c.passes P shm && pastArray c.source
  | .enqueueRxDescriptor id _ => shm.ipc.initialized && pastArray id
  | .dequeueTxDescriptor id => shm.ipc.initialized && pastArray id
  | .fillFrame _ _ | .frameRelease _ _ | .dequeueReclaimDescriptor => false

/-- Where the access stays in the array, a match on the index makes the
check of the low byte. -/
private theorem indexed_eq {α : Type*} {r refused : α} {k : Fin 6 → α}
    (hrefused : interfaceIndex? id = none → r = refused)
    (hk : ∀ i, interfaceIndex? id = some i → r = k i) :
    (if !isInterfaceValid id.toUInt8 then some refused else (interfaceIndex? id).map k) =
      if pastArray id then none else some r := by
  cases hvalid : isInterfaceValid id.toUInt8 with
  | false =>
    have hin : pastArray id = false := by simp [pastArray, hvalid]
    simp [hin, hrefused (interfaceIndex?_eq_none_of_invalid hvalid)]
  | true =>
    rw [← interfaceIndex?_isNone_of_valid hvalid]
    cases hindex : interfaceIndex? id with
    | none => rfl
    | some i => simp [hk i hindex]

theorem linuxShmIpcSetInterfaceQuota?_eq (quota : UInt64) :
    linuxShmIpcSetInterfaceQuota? ipc id quota =
      if pastArray id && !(quota > 64) then none
      else some (linuxShmIpcSetInterfaceQuota ipc id quota) := by
  unfold linuxShmIpcSetInterfaceQuota? linuxShmIpcSetInterfaceQuota
  by_cases hquota : quota > 64
  · cases interfaceIndex? id <;> simp [hquota]
  · simp only [hquota, decide_false, Bool.or_false, Bool.not_false, Bool.and_true, if_false]
    exact indexed_eq (fun hnone => by rw [hnone]) fun i hi => by rw [hi]

theorem linuxShmFrameAlloc?_eq :
    linuxShmFrameAlloc? ipc id =
      if ipc.initialized && pastArray id then none else some (linuxShmFrameAlloc ipc id) := by
  unfold linuxShmFrameAlloc?
  cases hinit : ipc.initialized with
  | false => simp [linuxShmFrameAlloc, hinit]
  | true =>
    exact indexed_eq (fun hnone => by simp [linuxShmFrameAlloc, hinit, hnone]) fun _ _ => rfl

theorem linuxShmEnqueueRxDescriptor?_eq (d : Descriptor) :
    linuxShmEnqueueRxDescriptor? P shm id d =
      if shm.ipc.initialized && pastArray id then none
      else some (linuxShmEnqueueRxDescriptor P shm id d) := by
  unfold linuxShmEnqueueRxDescriptor?
  cases hinit : shm.ipc.initialized with
  | false => simp [linuxShmEnqueueRxDescriptor, hinit]
  | true =>
    exact indexed_eq (fun hnone => by simp [linuxShmEnqueueRxDescriptor, hinit, hnone]) fun _ _ => rfl

theorem linuxShmDequeueTxDescriptor?_eq :
    linuxShmDequeueTxDescriptor? P shm id =
      if shm.ipc.initialized && pastArray id then none
      else some (linuxShmDequeueTxDescriptor P shm id) := by
  unfold linuxShmDequeueTxDescriptor?
  cases hinit : shm.ipc.initialized with
  | false => simp [linuxShmDequeueTxDescriptor, hinit]
  | true =>
    exact indexed_eq (fun hnone => by simp [linuxShmDequeueTxDescriptor, hinit, hnone]) fun _ _ => rfl

theorem Commit.run?_eq (c : Commit) :
    c.run? P shm = if c.passes P shm && pastArray c.source then none else some (c.run P shm) := by
  unfold Commit.run? Commit.run linuxShmFrameCommitRx Commit.passes
  cases hinit : shm.ipc.initialized with
  | false => simp
  | true =>
    cases hf : frameIndex? c.frameId with
    | none => simp
    | some f =>
      have hframe : (!shm.ipc.isAllocated f || (shm.ipc.frames f).state ≠ .allocated ||
          (shm.ipc.frames f).sourceInterface ≠ c.source.toUInt8) =
            !(shm.ipc.isAllocated f && (shm.ipc.frames f).state = .allocated &&
              (shm.ipc.frames f).sourceInterface = c.source.toUInt8) := by
        simp [Bool.not_and]
      have hlength : (c.frameLength < anymsgHeaderSize || c.frameLength > 512) =
          !(anymsgHeaderSize ≤ c.frameLength && c.frameLength ≤ 512) := by
        simp [Bool.not_and, ← decide_not, UInt16.not_le]
      simp only [Bool.not_true, Bool.false_eq_true, if_false, Bool.true_and, hframe, hlength,
        ← Bool.not_and]
      -- a check that fails refuses the frame before the ring
      cases isInterfaceValid c.source.toUInt8 && isInterfaceValid c.target.toUInt8 with
      | false => rfl
      | true =>
        cases shm.ipc.isAllocated f && (shm.ipc.frames f).state = .allocated &&
          (shm.ipc.frames f).sourceInterface = c.source.toUInt8 with
        | false => rfl
        | true =>
          cases anymsgHeaderSize ≤ c.frameLength && c.frameLength ≤ 512 with
          | false => rfl
          | true =>
            by_cases hflush : P.outcome shm.calls = .ok
            · have hcache : (shm.cacheOp P).1 = .ok := hflush
              have hsynced : (shm.cacheOp P).2.ipc.initialized = true := by
                simp only [LinuxShm.cacheOp, if_pos hflush, hinit]
              simp only [andThen, hcache, hflush, linuxShmEnqueueRxDescriptor?_eq, hsynced]
              cases pastArray c.source with
              | false => rfl
              | true => rfl
            · have hcache : (shm.cacheOp P).1 ≠ .ok := hflush
              simp [andThen, hcache, hflush]

/-- **A call has no result where it overruns, and only there.** -/
theorem Operation.run?_eq (P : Platform) (shm : LinuxShm) (op : Operation) :
    op.run? P shm = if op.overruns P shm then none else some (op.run P shm) := by
  cases op with
  | setInterfaceQuota id quota =>
    rw [run?, linuxShmIpcSetInterfaceQuota?_eq]
    exact apply_ite (Option.map _) _ _ _
  | frameAlloc source =>
    rw [run?, linuxShmFrameAlloc?_eq]
    exact apply_ite (Option.map _) _ _ _
  | frameCommitRx c =>
    rw [run?, Commit.run?_eq]
    exact apply_ite (Option.map _) _ _ _
  | enqueueRxDescriptor id d =>
    rw [run?, linuxShmEnqueueRxDescriptor?_eq]
    exact apply_ite (Option.map _) _ _ _
  | dequeueTxDescriptor id =>
    rw [run?, linuxShmDequeueTxDescriptor?_eq]
    exact apply_ite (Option.map _) _ _ _
  | fillFrame f frame => rfl
  | frameRelease frameId reason => rfl
  | dequeueReclaimDescriptor => rfl

end Linux

end PutGateway
