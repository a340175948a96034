import PutGateway.Linux.Ingress
import PutGateway.Linux.Releasing
import PutGateway.Rtos.RoutedRuns
import PutGateway.Rtos.Vetting
import PutGateway.System.Cores
/-!
# From the decoder of one adapter to the worker of another

A frame is checked three times: by the adapter that receives it, by the
RTOS before it is queued, and by the egress worker before it is sent. The
three checks differ, and the descriptor the worker sees was put together
by the RTOS from what it had queued. The worker refuses no frame that the
other two let through: its length, its header and its addresses are those
the adapter decoded, and it is on the ring of the interface its
destination names.

One check is made at the ends only. The RTOS takes a frame whose source
address is reserved; the adapters do not, and so nothing an adapter has
decoded fails at the worker.
-/

namespace PutGateway

/-! ## The check before egress -/

namespace Linux

/-- The interface the default table names is the one the worker derives. -/
theorem names_default {destinationCid : Cid} {i : Fin 6}
    (h : Rtos.rtosRouterRouteTableDefault.Names destinationCid (interfaceOfIndex i)) :
    anymsgCidSegmentFromFirstByte destinationCid.b0 ≠ .reservedLow ∧
      anymsgCidSegmentFromFirstByte destinationCid.b0 ≠ .reservedHigh ∧
      interfaceFromCidSegment (anymsgCidSegmentFromFirstByte destinationCid.b0) =
        interfaceOfIndex i := by
  unfold Rtos.RouteTable.Names Rtos.rtosRouterRouteTableLookup at h
  generalize anymsgCidSegmentFromFirstByte destinationCid.b0 = segment at h ⊢
  split at h
  · cases h
  simp only at h
  split at h
  · cases h
  next hreserved =>
  split at h
  · cases h
  simp only [Bool.or_eq_true, decide_eq_true_eq, not_or] at hreserved
  refine ⟨hreserved.1, hreserved.2, ?_⟩
  cases segment with
  | reservedLow => exact absurd rfl hreserved.1
  | reservedHigh => exact absurd rfl hreserved.2
  | _ => exact Except.ok.inj h

/-- **A descriptor that describes its block passes the worker's checks**
on the ring the default table names, unless the source address is
reserved. -/
theorem validateAnymsgForEgress_of_describes {d : Descriptor} {block : FrameBlock} {i : Fin 6}
    (hdescribes : d.Describes block) (hbounds : validateDescriptorBounds d = .ok)
    (htarget : d.targetInterface = UInt8.ofNat i)
    (hnames : Rtos.rtosRouterRouteTableDefault.Names d.destinationCid (interfaceOfIndex i))
    (hlow : anymsgCidSegmentFromFirstByte block.header.sourceCid.b0 ≠ .reservedLow)
    (hhigh : anymsgCidSegmentFromFirstByte block.header.sourceCid.b0 ≠ .reservedHigh) :
    validateAnymsgForEgress (interfaceOfIndex i) d block d.frameLength = .ok := by
  obtain ⟨hheader, hzero, hzeros⟩ := hdescribes
  simp only [Rtos.validateAnymsgHeader, Rtos.descriptorMatchesHeader, Bool.and_eq_true,
    beq_iff_eq] at hheader
  obtain ⟨⟨⟨hlengths, hstatic⟩, ⟨hsource, hdestination⟩, htype⟩, -⟩ := hheader
  obtain ⟨hlow', hhigh', hinterface⟩ := names_default hnames
  rw [hdestination] at hlow' hhigh' hinterface
  have hreserved : descriptorReservedFieldsAreZero d = true := by
    simp [descriptorReservedFieldsAreZero, hzero, hzeros]
  have hlength : ¬ ((d.frameLength < anymsgHeaderSize || d.frameLength > 512) = true) := by
    intro hlong
    simp only [validateDescriptorBounds, hlong, if_true] at hbounds
    split at hbounds
    · cases hbounds
    split at hbounds
    · cases hbounds
    split at hbounds
    · cases hbounds
    · cases hbounds
  unfold validateAnymsgForEgress
  rw [if_neg (by simp [htarget, hreserved, toUInt8_interfaceOfIndex]), if_neg hlength]
  simp [hlengths, hstatic, hsource, hdestination, htype, hlow, hhigh, hlow', hhigh', hinterface]

variable {A : Type} {P : Platform} {w : EgressWorkerContext A} {s : EgressState A} {d : Descriptor}
  {block : FrameBlock} {i : Fin 6}

theorem releaseFrame_counts :
    (s.releaseFrame d).result.validationFailed = s.result.validationFailed ∧
      (s.releaseFrame d).result.dequeued = s.result.dequeued := by
  unfold EgressState.releaseFrame
  simp only
  split
  · exact ⟨rfl, rfl⟩
  · exact ⟨rfl, rfl⟩

theorem recordSendFailure_result (adapter : PhysicalInterfaceAdapter A) :
    (s.recordSendFailure adapter).result = s.result := by
  unfold EgressState.recordSendFailure
  split
  · rfl
  split
  · split
    · rfl
    · rfl
  · rfl

/-- A frame that passes the checks is counted as no failure of them,
whatever becomes of it. -/
theorem egressFrame_counts
    (hvalid : validateAnymsgForEgress w.interfaceId d block d.frameLength = .ok) :
    (egressFrame w s d block).result.validationFailed = s.result.validationFailed ∧
      (egressFrame w s d block).result.dequeued = s.result.dequeued := by
  unfold egressFrame
  simp only [hvalid, ne_eq, not_true_eq_false, if_false]
  split
  · exact releaseFrame_counts
  split
  · exact releaseFrame_counts
  next adapter _ =>
  split
  · exact releaseFrame_counts
  · obtain ⟨hfailed, hdequeued⟩ := releaseFrame_counts (d := d)
      (s := ({ s with adapterCtx := (sendByAdapter w.enabled adapter s.adapterCtx
        ⟨block, d.frameLength⟩).2 } : EgressState A).countTxFailed.recordSendFailure adapter)
    rw [recordSendFailure_result] at hfailed hdequeued
    exact ⟨hfailed, hdequeued⟩

/-- **A turn is one operation of Linux or two**: the descriptor is taken,
and the block of what was taken is given back. -/
theorem egressTurn_operations (w : EgressWorkerContext A) (s : EgressState A) :
    (egressTurn P w s).2.shm = (Operation.dequeueTxDescriptor w.interfaceId).run P s.shm ∨
      ∃ frameId, (egressTurn P w s).2.shm =
        (Operation.frameRelease frameId ReclaimReason.none.code).run P
          ((Operation.dequeueTxDescriptor w.interfaceId).run P s.shm) := by
  have hturn := egressTurn_shm P w s
  simp only at hturn
  split at hturn
  · exact .inr ⟨_, hturn⟩
  · exact .inl hturn

/-- **A turn of a worker whose frame passes the checks** takes it, and
counts no failure. -/
theorem egressTurn_counts (hP : P.Succeeds) (hv : s.shm.region.Valid)
    (hinit : s.shm.ipc.initialized = true) (hi : w.interfaceId = interfaceOfIndex i)
    {rest : List Descriptor} (htx : s.shm.region.view.tx i = d :: rest)
    (haccepted : TxAccepted i s.shm.ipc d)
    (hvalid : validateAnymsgForEgress (interfaceOfIndex i) d (s.shm.frameOf d) d.frameLength = .ok) :
    (egressTurn P w s).2.result.validationFailed = s.result.validationFailed ∧
      (egressTurn P w s).2.result.dequeued = s.result.dequeued + 1 := by
  rcases linuxShmDequeueTxDescriptor_cases P hv hinit i with
    ⟨-, -, -, -, hempty⟩ | ⟨d', rest', htx', hregion, hends⟩
  · rw [(hempty hP).1] at htx
    cases htx
  obtain ⟨rfl, rfl⟩ := List.cons.inj (htx.symm.trans htx')
  rcases hends with ⟨hbad, -⟩ | ⟨-, hsome, -, hok⟩
  · exact absurd haccepted hbad
  unfold egressTurn
  rw [hi]
  generalize linuxShmDequeueTxDescriptor P s.shm (interfaceOfIndex i) = r at hregion hsome hok ⊢
  simp only [hok hP, hsome, Option.getD_some, reduceCtorEq, if_false, ne_eq, not_true_eq_false]
  have hframe : r.2.2.frameOf d = s.shm.frameOf d := by
    simp only [LinuxShm.frameOf, hregion.framePool]
  refine egressFrame_counts ?_
  rw [hframe, hi]
  exact hvalid

theorem egressTurns_succ (w : EgressWorkerContext A) (n : ℕ) (s : EgressState A) :
    egressTurns P w (n + 1) s =
      if (egressTurn P w s).1 then egressTurns P w n (egressTurn P w s).2
      else (egressTurn P w s).2 := rfl

/-- A turn that ends a drain found an empty ring. -/
theorem egressTurn_ends (hP : P.Succeeds) (hv : s.shm.region.Valid)
    (hinit : s.shm.ipc.initialized = true) (hi : w.interfaceId = interfaceOfIndex i)
    (hends : (egressTurn P w s).1 = false) : (egressTurn P w s).2.shm.region.view.tx i = [] := by
  have hcases := linuxShmDequeueTxDescriptor_cases P hv hinit i
  unfold egressTurn at hends ⊢
  rw [hi] at hends ⊢
  generalize linuxShmDequeueTxDescriptor P s.shm (interfaceOfIndex i) = r at hcases hends ⊢
  simp only at hends ⊢
  split at hends
  swap
  · split at hends
    · cases hends
    · cases hends
  next hempty =>
  rw [if_pos hempty]
  rcases hcases with ⟨-, -, -, hregion, hnone⟩ | ⟨d, rest, -, -, ⟨-, -, hne, -⟩ | ⟨-, -, -, hok⟩⟩
  · exact (congrArg (fun q => q.tx i) hregion.view).trans (hnone hP).1
  · exact absurd hempty hne
  · exact absurd (hempty.symm.trans (hok hP)) (by decide)

end Linux

/-! ## The adapters of whole frames -/

namespace Linux

/-- The adapters that receive whole frames. -/
inductive FrameAdapter
  | can
  | external (e : ExternalInterface)
  deriving DecidableEq, Repr

namespace FrameAdapter

def index : FrameAdapter → Fin 6
  | can => 0
  | external e => e.index

/-- The address segment of the adapter's interface. -/
def segment : FrameAdapter → AnymsgCidSegment
  | can => .can
  | external e => e.segment

/-- The decode function of the adapter. -/
def decode : FrameAdapter → Bytes → ℕ → Except UnifiedError AdapterRxResult
  | can => canAdapterDecodeAnymsg
  | external e => e.decode

/-- The submit function of the adapter. -/
def submitToIpc : FrameAdapter → Platform → LinuxShm → Bytes → AdapterRxResult → UInt32 →
    UnifiedError × LinuxShm
  | can => canAdapterSubmitToIpc
  | external e => e.submitToIpc

/-- What the adapter submits. -/
def submission : FrameAdapter → Bytes → AdapterRxResult → UInt32 → Submission
  | can, frame, rx, linuxEpoch =>
    frameSubmission putShmInterfaceCan 2 8 (canFlags rx.trustFlags) frame rx linuxEpoch
  | external e, frame, rx, linuxEpoch => e.submission frame rx linuxEpoch

variable {a : FrameAdapter} {P : Platform} {shm : LinuxShm} {input : Bytes} {inputLen : ℕ}
  {rx : AdapterRxResult} {linuxEpoch : UInt32}

theorem submitToIpc_eq : a.submitToIpc P shm input rx linuxEpoch =
    (a.submission input rx linuxEpoch).run P shm := by
  cases a with
  | can => rfl
  | external e => exact ExternalInterface.submitToIpc_eq

theorem submission_wellformed : (a.submission input rx linuxEpoch).Wellformed a.index := by
  cases a with
  | can => exact frameSubmission_wellformed (i := 0)
  | external e => exact ExternalInterface.submission_wellformed

/-- What is written is the frame. -/
theorem submission_frame :
    (a.submission input rx linuxEpoch).length = rx.len ∧
      ∀ block, (a.submission input rx linuxEpoch).fill block = block.copyIn 0 input rx.len := by
  cases a with
  | can => exact ⟨rfl, fun _ => rfl⟩
  | external e => exact ⟨rfl, fun _ => rfl⟩

theorem decode_eq_ok_iff :
    a.decode input inputLen = .ok rx ↔ Decodes a.segment input inputLen ∧
      rx = received input inputLen := by
  cases a with
  | can => exact decodeDatagram_eq_ok_iff
  | external e => exact ExternalInterface.decode_eq_ok_iff

theorem segment_not_reserved : a.segment ≠ .reservedLow ∧ a.segment ≠ .reservedHigh := by
  cases a with
  | can => exact ⟨nofun, nofun⟩
  | external e => cases e <;> exact ⟨nofun, nofun⟩

end FrameAdapter

end Linux

/-! ## Blocks that stay as committed -/

namespace System

open Linux Rtos

variable {P Q : Platform} {K : Clock} {g g' : Gateway} {f : Fin 64} {i : Fin 6} {s : Step}

/-- A step of a running system that writes no block after its commit. -/
def SparesCommitted (g : Gateway) : Step → Prop
  | .linux (.fillFrame f _) => (g.linux.frames f).state ≠ .rxQueued
  | .restart _ => False
  | _ => True

instance (g : Gateway) : DecidablePred (SparesCommitted g)
  | .linux (.fillFrame f _) => inferInstanceAs (Decidable ((g.linux.frames f).state ≠ .rxQueued))
  | .linux (.setInterfaceQuota _ _) => isTrue trivial
  | .linux (.frameAlloc _) => isTrue trivial
  | .linux (.frameCommitRx _) => isTrue trivial
  | .linux (.enqueueRxDescriptor _ _) => isTrue trivial
  | .linux (.frameRelease _ _) => isTrue trivial
  | .linux (.dequeueTxDescriptor _) => isTrue trivial
  | .linux .dequeueReclaimDescriptor => isTrue trivial
  | .rtos _ => isTrue trivial
  | .restart _ => isFalse id

theorem SparesCommitted.linux {op : Linux.Operation} (hs : SparesCommitted g (.linux op))
    (hf : (g.linux.frames f).state = .rxQueued) :
    (op.run P g.shm).region.framePool f = g.region.framePool f := by
  have hpool := congrFun (op.framePool P g.shm) f
  cases op with
  | fillFrame k frame =>
    have hne : f ≠ k := by
      rintro rfl
      exact hs hf
    exact hpool.trans (Function.update_of_ne hne _ _)
  | _ => exact hpool

/-- **The block of a frame the RTOS holds stays.** -/
theorem SparesCommitted.framePool (hs : SparesCommitted g s) (h : Exclusive g)
    (hf : (g.linux.frames f).state = .rxQueued) :
    (s.run P Q K g).region.framePool f = g.region.framePool f := by
  cases s with
  | linux op => exact hs.linux hf
  | rtos op => exact congrFun (h.sound.run (P := Q) (K := K) op).2.2.1 f
  | restart r => exact hs.elim

/-- What holds between the two cores: each frame has one owner, what the
RTOS holds was checked against its block, and it is sent by the default
table. -/
structure Agreed (g : Gateway) : Prop where
  exclusive : Exclusive g
  clean : g.linux.pool.Clean
  vetting : Vetting g.region.framePool g.rtos
  routed : RoutedTasks rtosRouterRouteTableDefault g.rtos

theorem agreed_boot (linuxEpoch rtosEpoch : UInt32) (shm : LinuxShm) :
    Agreed (boot linuxEpoch rtosEpoch shm) := by
  have hempty : ∀ i, (formatRegion linuxEpoch rtosEpoch).view.tx i = [] := by
    intro i
    rw [formatRegion_view]
  refine ⟨exclusive_boot linuxEpoch rtosEpoch shm, ?_, ⟨?_, ?_⟩, ?_⟩
  · rw [boot_linux]
    exact Pool.clean_fresh
  · rw [boot_rtos]
    intro x hx
    cases hx
  · rw [boot_rtos]
    intro i d hd
    have hd' : d ∈ (formatRegion linuxEpoch rtosEpoch).view.tx i := hd
    rw [hempty i] at hd'
    cases hd'
  · rw [boot_rtos]
    exact .contextInit _ 0 hempty

theorem Agreed.linux (h : Agreed g) {op : Linux.Operation} (hs : SparesCommitted g (.linux op)) :
    Agreed (g.withShm (op.run P g.shm)) := by
  have hmoved : Moved op.descriptor? g.shm (op.run P g.shm) := op.moved P h.exclusive.sound.valid
  have htx := hmoved.move.tx_subset
  have hkept : ∀ f, 0 < inFlight (ledger g.rtos) f →
      (op.run P g.shm).region.framePool f = g.region.framePool f :=
    fun f hpos => hs.linux (h.exclusive.owned.queued hpos)
  refine ⟨h.exclusive.linux op, hmoved.move.clean h.clean, ?_, h.routed.environment htx⟩
  refine h.vetting.environment htx (fun f d href => ?_) fun i d hd f hf => ?_
  · exact hkept f (inFlight_pos_of_reference href)
  · exact hkept f (inFlight_pos_of_tx hd (frameIndex?_eq_some.mp hf))

theorem Agreed.rtos (h : Agreed g) (hQ : Q.Succeeds) (op : Rtos.Operation) :
    Agreed { g with rtos := op.run Q K g.rtos } := by
  obtain ⟨-, -, hpool, -⟩ := h.exclusive.sound.run (P := Q) (K := K) op
  have hvetting : Vetting (op.run Q K g.rtos).host.ipc.region.framePool (op.run Q K g.rtos) := by
    rw [hpool]
    exact h.vetting.run h.exclusive.sound rfl op
  exact ⟨h.exclusive.rtos hQ op, h.clean, hvetting, h.routed.run rfl op⟩

/-- **Every step keeps the agreement.** -/
theorem Agreed.step (h : Agreed g) (hQ : Q.Succeeds) (hs : SparesCommitted g s) :
    Agreed (s.run P Q K g) := by
  cases s with
  | linux op => exact h.linux hs
  | rtos op => exact h.rtos hQ op
  | restart r => exact hs.elim

/-! ## The frame of a submission -/

/-- A step that leaves a frame with the RTOS, and writes no block after
its commit. -/
def LeavesQueued (P Q : Platform) (K : Clock) (f : Fin 64) (g : Gateway) (s : Step) : Prop :=
  SparesCommitted g s ∧ ((s.run P Q K g).linux.frames f).state = .rxQueued

instance (f : Fin 64) (g : Gateway) : DecidablePred (LeavesQueued P Q K f g) :=
  fun _ => inferInstanceAs (Decidable (_ ∧ _))

/-- A frame that stays with the RTOS keeps its block. -/
theorem Agreed.leavesQueued (h : Agreed g) (hQ : Q.Succeeds)
    (hf : (g.linux.frames f).state = .rxQueued)
    (hrun : Reachable P Q K (LeavesQueued P Q K f) g g') :
    Agreed g' ∧ g'.region.framePool f = g.region.framePool f := by
  have hkept : Agreed g' ∧ (g'.linux.frames f).state = .rxQueued ∧
      g'.region.framePool f = g.region.framePool f := by
    refine hrun.invariant (I := fun g' => Agreed g' ∧ (g'.linux.frames f).state = .rxQueued ∧
      g'.region.framePool f = g.region.framePool f) ⟨h, hf, rfl⟩ ?_
    rintro g' s ⟨hagreed, hqueued, hblock⟩ ⟨hspares, hstays⟩
    exact ⟨hagreed.step hQ hspares, hstays,
      (hspares.framePool hagreed.exclusive hqueued).trans hblock⟩
  exact ⟨hkept.1, hkept.2.2⟩

variable {a : FrameAdapter} {segment : AnymsgCidSegment} {input : Bytes} {inputLen : ℕ}
  {rx : AdapterRxResult} {d : Descriptor} {shm shm' : LinuxShm}

/-- The worker of an interface finds the frame that was received behind a
descriptor, and does not refuse it: its check succeeds, and the turn of a
drain that takes the descriptor counts no failure. -/
structure EgressAccepts (P : Platform) (g : Gateway) (i : Fin 6) (f : Fin 64) (d : Descriptor)
    (input : Bytes) (inputLen : ℕ) : Prop where
  length : d.frameLength.toNat = inputLen
  content : ∀ k : Fin 512, (k : ℕ) < inputLen → g.region.framePool f k = input k
  valid : validateAnymsgForEgress (interfaceOfIndex i) d (g.region.framePool f) d.frameLength = .ok
  turn : ∀ (A : Type) (w : EgressWorkerContext A) (s : EgressState A) (n : ℕ) (rest : List Descriptor),
    w.interfaceId = interfaceOfIndex i → s.shm = g.shm →
    (egressTurns P w n s).shm.region.view.tx i = d :: rest →
      (egressTurns P w (n + 1) s).result.validationFailed =
        (egressTurns P w n s).result.validationFailed ∧
      (egressTurns P w (n + 1) s).result.dequeued = (egressTurns P w n s).result.dequeued + 1

theorem actualLength_of_normalized {msgLength payloadLength : UInt16} {actualLength : ℕ}
    (h : anymsgValidateNormalizedLengths msgLength payloadLength actualLength = .ok) :
    actualLength = msgLength.toNat := by
  unfold anymsgValidateNormalizedLengths at h
  split at h
  · cases h
  split at h
  · cases h
  split at h
  · cases h
  next hlength => exact not_not.mp hlength

/-- **What is sent of a block that holds a decoded frame passes the
check.** -/
theorem Agreed.validates (h : Agreed g) (hd : Decodes segment input inputLen)
    (hsegment : segment ≠ .reservedLow ∧ segment ≠ .reservedHigh)
    (hheader : (g.region.framePool f).header = input.header)
    (htx : d ∈ g.region.view.tx i) (hf : frameIndex? d.frameId = some f) :
    validateAnymsgForEgress (interfaceOfIndex i) d (g.region.framePool f) d.frameLength = .ok := by
  have htakes : g.linux.pool.TakesTx i d f := h.exclusive.owned.takesTx htx hf
  refine validateAnymsgForEgress_of_describes (h.vetting.sends i d htx f hf) htakes.bounds
    htakes.target (h.routed.host i d htx) ?_ ?_
  · rw [hheader, hd.segment]
    exact hsegment.1
  · rw [hheader, hd.segment]
    exact hsegment.2

/-- A turn of a worker writes no block. -/
theorem Agreed.egressTurn (h : Agreed g) {A : Type} (w : EgressWorkerContext A) {s : EgressState A}
    (hshm : s.shm = g.shm) :
    Agreed (g.withShm (egressTurn P w s).2.shm) ∧
      (egressTurn P w s).2.shm.region.framePool = g.region.framePool := by
  have htaken : Agreed (g.withShm ((Operation.dequeueTxDescriptor w.interfaceId).run P g.shm)) :=
    h.linux trivial
  have hpool : ((Operation.dequeueTxDescriptor w.interfaceId).run P g.shm).region.framePool =
      g.region.framePool := Operation.framePool P g.shm (.dequeueTxDescriptor w.interfaceId)
  have hends := egressTurn_operations (P := P) w s
  rw [hshm] at hends
  rcases hends with heq | ⟨frameId, heq⟩
  · rw [heq]
    exact ⟨htaken, hpool⟩
  · rw [heq]
    exact ⟨Agreed.linux htaken trivial, hpool⟩

/-- **No turn of a drain counts the frame as a failure**: what the turns
before it do leaves the agreement and the block. -/
theorem Agreed.egressTurns (hP : P.Succeeds) (hd : Decodes segment input inputLen)
    (hsegment : segment ≠ .reservedLow ∧ segment ≠ .reservedHigh)
    (hf : frameIndex? d.frameId = some f) {A : Type} {w : EgressWorkerContext A}
    (hi : w.interfaceId = interfaceOfIndex i) (n : ℕ) {rest : List Descriptor} (h : Agreed g)
    {s : EgressState A} (hshm : s.shm = g.shm)
    (hheader : (g.region.framePool f).header = input.header)
    (hhead : (egressTurns P w n s).shm.region.view.tx i = d :: rest) :
    (egressTurns P w (n + 1) s).result.validationFailed =
        (egressTurns P w n s).result.validationFailed ∧
      (egressTurns P w (n + 1) s).result.dequeued = (egressTurns P w n s).result.dequeued + 1 := by
  have hv : s.shm.region.Valid := by
    rw [hshm]
    exact h.exclusive.sound.valid
  have hinit : s.shm.ipc.initialized = true := by
    rw [hshm]
    exact h.exclusive.owned.initialized
  induction n generalizing g s with
  | zero =>
    -- the descriptor is the first one
    have htx : g.region.view.tx i = d :: rest := by
      rw [← hhead, Linux.egressTurns, hshm]
      rfl
    have hmem : d ∈ g.region.view.tx i := htx ▸ List.mem_cons_self
    have hframe : s.shm.frameOf d = g.region.framePool f := by
      rw [hshm, LinuxShm.frameOf, hf]
      rfl
    have haccepted : TxAccepted i s.shm.ipc d := by
      rw [hshm]
      exact txAccepted_iff.mpr ⟨f, h.exclusive.owned.takesTx hmem hf⟩
    have hturn := egressTurn_counts hP hv hinit hi (by rw [hshm]; exact htx) haccepted
      (by rw [hframe]; exact h.validates hd hsegment hheader hmem hf)
    rw [egressTurns_succ, Linux.egressTurns]
    split
    · exact hturn
    · exact hturn
  | succ n ih =>
    obtain ⟨hagreed, hpool⟩ := h.egressTurn (P := P) w hshm
    rw [egressTurns_succ] at hhead
    by_cases hgoes : (Linux.egressTurn P w s).1 = true
    · have hnext : ∀ m, Linux.egressTurns P w (m + 1) s =
          Linux.egressTurns P w m (Linux.egressTurn P w s).2 := by
        intro m
        rw [egressTurns_succ, if_pos hgoes]
      rw [if_pos hgoes] at hhead
      rw [hnext (n + 1), hnext n]
      refine ih hagreed rfl ?_ hhead hagreed.exclusive.sound.valid hagreed.exclusive.owned.initialized
      exact (congrArg FrameBlock.header (congrFun hpool f)).trans hheader
    · -- the ring would be empty by now
      rw [if_neg hgoes, egressTurn_ends hP hv hinit hi (by simpa using hgoes)] at hhead
      cases hhead

/-- **What is sent of a block that holds a decoded frame is accepted.** -/
theorem Agreed.egressAccepts (hP : P.Succeeds) (h : Agreed g) (hd : Decodes segment input inputLen)
    (hsegment : segment ≠ .reservedLow ∧ segment ≠ .reservedHigh) {block : FrameBlock}
    (hblock : g.region.framePool f = block.copyIn 0 input inputLen)
    (htx : d ∈ g.region.view.tx i) (hf : frameIndex? d.frameId = some f) :
    EgressAccepts P g i f d input inputLen := by
  have hheader : (g.region.framePool f).header = input.header := by
    rw [hblock]
    exact FrameBlock.header_copyIn block input hd.atLeast
  refine ⟨?_, fun k hk => ?_, h.validates hd hsegment hheader htx hf, fun A w s n rest hi hshm hhead =>
    Agreed.egressTurns hP hd hsegment hf hi n h hshm hheader hhead⟩
  · -- both lengths are that of the header
    have hlengths := (h.vetting.sends i d htx f hf).header
    simp only [validateAnymsgHeader, Bool.and_eq_true, beq_iff_eq] at hlengths
    rw [actualLength_of_normalized hlengths.1.1.1, actualLength_of_normalized hd.lengths, hheader]
  · rw [hblock]
    simp only [FrameBlock.copyIn]
    rw [if_pos (by omega), Nat.sub_zero]

/-- **A submission is three operations** that write no block after its
commit, and leaves its frame in its block. -/
theorem Agreed.submit (h : Agreed g) {submission : Linux.Submission}
    (hwell : submission.Wellformed i) (hok : (submission.run P g.shm).1 = .ok) :
    ∃ f, Submitted i f (submission.commit (frameIdOfIndex f)).descriptor.sealed g.shm
        (submission.run P g.shm).2 ∧
      (submission.run P g.shm).2.region.framePool f = submission.fill (g.region.framePool f) ∧
      Agreed (g.withShm (submission.run P g.shm).2) := by
  have hclean : g.shm.ipc.pool.Clean := h.clean
  obtain ⟨f, ipc, halloc, hallocated, hblock, hsubmitted, hsteps⟩ :=
    submission.run_steps P hwell hclean hok
  refine ⟨f, hsubmitted, hblock, ?_⟩
  have hclaimed : Agreed (g.withShm ((Operation.frameAlloc submission.source).run P g.shm)) :=
    h.linux trivial
  have hspares : SparesCommitted (g.withShm ((Operation.frameAlloc submission.source).run P g.shm))
      (.linux (.fillFrame f (submission.fill (g.region.framePool f)))) := by
    have hstate : ((linuxShmFrameAlloc g.shm.ipc submission.source).2.2.frames f).state =
        .allocated := by
      rw [halloc]
      exact hallocated
    intro hqueued
    exact absurd (hstate.symm.trans hqueued) (by decide)
  have hfilled := hclaimed.linux (P := P) hspares
  rw [hsteps]
  exact Agreed.linux hfilled trivial

/-- **What ingress decodes and commits, egress accepts.** In every run that
writes no block after its commit, with the default route table and
platform calls that succeed: a frame that an adapter has decoded and
committed, with whatever trust flags, is accepted by the worker of every
interface the RTOS sends it to, however the RTOS was scheduled before it
did, for as long as Linux has not taken the frame back. -/
theorem egress_accepts_ingress (hP : P.Succeeds) (hQ : Q.Succeeds) {linuxEpoch rtosEpoch : UInt32}
    (hrun : Reachable P Q K SparesCommitted (boot linuxEpoch rtosEpoch shm) g)
    (hdecode : a.decode input inputLen = .ok rx) (trustFlags epoch : UInt32)
    (hsubmit : a.submitToIpc P g.shm input { rx with trustFlags := trustFlags } epoch =
      (.ok, shm')) :
    ∃ f d, Submitted a.index f d g.shm shm' ∧
      ∀ g', Reachable P Q K (LeavesQueued P Q K f) (g.withShm shm') g' →
        ∀ i, ∀ d' ∈ g'.region.view.tx i, frameIndex? d'.frameId = some f →
          EgressAccepts P g' i f d' input inputLen := by
  obtain ⟨hd, rfl⟩ := FrameAdapter.decode_eq_ok_iff.mp hdecode
  have hagreed : Agreed g :=
    hrun.invariant (agreed_boot linuxEpoch rtosEpoch shm) fun g s h hs => h.step hQ hs
  rw [FrameAdapter.submitToIpc_eq] at hsubmit
  obtain ⟨f, hsubmitted, hblock, hafter⟩ := hagreed.submit
    FrameAdapter.submission_wellformed (congrArg Prod.fst hsubmit)
  rw [hsubmit] at hsubmitted hblock hafter
  refine ⟨f, _, hsubmitted, fun g' hrun' i d' htx hf => ?_⟩
  obtain ⟨hagreed', hkept⟩ := hafter.leavesQueued hQ hsubmitted.state hrun'
  have hframe : g'.region.framePool f = (g.region.framePool f).copyIn 0 input inputLen :=
    hkept.trans (hblock.trans (FrameAdapter.submission_frame.2 _))
  exact hagreed'.egressAccepts hP hd FrameAdapter.segment_not_reserved hframe htx hf

/-- A frame without payload from CAN to Ethernet, of type `0x49`. -/
def canToEthernet : Bytes
  | 0 => 40
  | 8 => 0x40
  | 12 => 0x20
  | 38 => 0x49
  | _ => 0

/-- A gateway just started, after CAN has submitted the frame. -/
def canSubmitted : Gateway :=
  let g := boot 1 1 ⟨{}, formatRegion 0 0, 0⟩
  g.withShm (canAdapterSubmitToIpc .defaultOps g.shm canToEthernet (received canToEthernet 40) 1).2

/-- The RTOS receives the frame and schedules it once. -/
def canRouted : Gateway :=
  [Step.rtos (.eventTask .doorbell), .rtos (.schedulerTask 1)].foldl
    (Step.run .defaultOps .defaultOps fun _ => 0) canSubmitted

set_option maxRecDepth 100000 in
/-- The frame is sent to Ethernet, and accepted there. -/
theorem egress_accepts_ingress_can :
    ∃ d ∈ canRouted.region.view.tx 1, EgressAccepts .defaultOps canRouted 1 0 d canToEthernet 40 := by
  have hdecodes : Decodes FrameAdapter.can.segment canToEthernet 40 :=
    ⟨by decide, by decide, by decide, by decide, by decide⟩
  have hsubmit : FrameAdapter.can.submitToIpc .defaultOps (boot 1 1 ⟨{}, formatRegion 0 0, 0⟩).shm
      canToEthernet { received canToEthernet 40 with trustFlags := 0 } 1 = (.ok, canSubmitted.shm) :=
    Prod.ext (by decide +kernel) rfl
  obtain ⟨f, d, hsubmitted, haccepts⟩ := egress_accepts_ingress (K := fun _ => 0)
    Platform.defaultOps_succeeds Platform.defaultOps_succeeds .start
    (FrameAdapter.decode_eq_ok_iff.mpr ⟨hdecodes, rfl⟩) 0 1 hsubmit
  have hfirst : ∀ f, (canSubmitted.linux.frames f).state = .rxQueued → f = 0 := by decide +kernel
  obtain rfl := hfirst f hsubmitted.state
  have hsent : ∃ d ∈ canRouted.region.view.tx 1, frameIndex? d.frameId = some 0 := by decide +kernel
  obtain ⟨d', htx, hf⟩ := hsent
  exact ⟨d', htx, haccepts canRouted (Reachable.start.foldl (by decide +kernel)) 1 d' htx hf⟩

end System

end PutGateway
