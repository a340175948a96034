import PutGateway.Linux.Ingress
/-!
# When a datagram gets through

A decoded frame is submitted after its trust flags have been worked out,
and the submission may fail: for the quota of the interface, for want of a
block, on a full ring, or for one of the three platform calls before the
`write_seq` store. `Admits` is the state in which it does not, and
`handleDatagram_error_atomic_iff` says on which datagrams an error leaves
everything as it was.
-/

namespace PutGateway

namespace Linux

variable {P : Platform} {shm : LinuxShm} {i : Fin 6} {f : Fin 64}

/-- **The state in which a submission succeeds**: the quota is not used
up, a block is free, the RX ring has room, and the three platform calls up
to the `write_seq` store succeed. -/
structure LinuxShm.Admits (P : Platform) (shm : LinuxShm) (i : Fin 6) : Prop where
  quota : (shm.ipc.stats.interfaceQuota i).used < (shm.ipc.stats.interfaceQuota i).quota
  block : ∃ f, shm.ipc.isAllocated f = false
  room : (shm.region.rxRings i).used < (shm.region.rxRings i).producer.depth
  frameFlushed : P.outcome shm.calls = .ok
  lineRead : P.outcome (shm.calls + 1) = .ok
  slotFlushed : P.outcome (shm.calls + 2) = .ok

/-! ## The steps of a submission -/

theorem linuxShmFrameAlloc_ok_iff {ipc : LinuxShmIpc} (hinit : ipc.initialized = true) :
    (linuxShmFrameAlloc ipc (interfaceOfIndex i)).1 = .ok ↔
      (ipc.stats.interfaceQuota i).used < (ipc.stats.interfaceQuota i).quota ∧
        ∃ f, ipc.isAllocated f = false := by
  constructor
  · intro hok
    rcases linuxShmFrameAlloc_cases ipc (interfaceOfIndex i) with
      ⟨hres, -⟩ | ⟨j, f, -, hj, hfree, hquota, -⟩
    · exact absurd hok hres
    · rw [interfaceIndex?_interfaceOfIndex] at hj
      obtain rfl := Option.some.inj hj
      exact ⟨hquota, f, hfree⟩
  · rintro ⟨hquota, f, hfree⟩
    have hbits : ipc.allocationBitmap ≠ 0xFFFFFFFFFFFFFFFF := by
      intro hall
      have hset : ∀ f : Fin 64, ((0xFFFFFFFFFFFFFFFF : UInt64) &&& frameBit f != 0) = true := by
        decide +kernel
      have halloc := hset f
      rw [← hall] at halloc
      exact absurd (halloc.symm.trans hfree) (by decide)
    obtain ⟨g, hg⟩ := Option.isSome_iff_exists.mp (show ipc.firstFree.isSome = true by
      rw [LinuxShmIpc.firstFree, List.find?_isSome]
      exact ⟨f, List.mem_finRange f, by simp [hfree]⟩)
    have hroom : ¬ (ipc.stats.interfaceQuota i).used ≥ (ipc.stats.interfaceQuota i).quota :=
      UInt64.not_le.mpr hquota
    simp [linuxShmFrameAlloc, hinit, hroom, hbits, hg]

theorem linuxShmEnqueueRxDescriptor_ok_iff (hinit : shm.ipc.initialized = true)
    (hv : shm.region.Valid) {d : Descriptor} (hready : RxReady i shm.ipc.pool d) :
    (linuxShmEnqueueRxDescriptor P shm (interfaceOfIndex i) d).1 = .ok ↔
      (shm.region.rxRings i).used < (shm.region.rxRings i).producer.depth ∧
        P.outcome shm.calls = .ok ∧ P.outcome (shm.calls + 1) = .ok := by
  have hring : validateDescriptorRing (shm.region.rxRings i) .rx (UInt8.ofNat i) .linuxToRtos =
      .ok := validateDescriptorRing_eq_ok_iff.mpr ⟨hv.rx i, hv.rxInterface i⟩
  obtain ⟨f, hf, halloc, hstate, hsource⟩ := hready.frame
  have hbit : shm.ipc.isAllocated f = true := halloc
  have hframe : (shm.ipc.frames f).state = .allocated := hstate
  have howner : (shm.ipc.frames f).sourceInterface = UInt8.ofNat i := hsource
  have hiff : _ ↔ (shm.region.rxRings i).used < (shm.region.rxRings i).producer.depth ∧
      P.outcome shm.calls = .ok ∧ P.outcome (shm.calls + 1) = .ok :=
    RingIo.enqueue_fst_eq_ok_iff (shm.rxIo i) LinuxShmIpc.recordCacheSyncError
    (LinuxShmIpc.recordRxFull i) (LinuxShmIpc.handToRx i f d.targetInterface)
    (announceRx P (interfacePendingBit (UInt8.ofNat i))) d.sealed P
    (fun b io' => (announceRx_spec P (interfacePendingBit (UInt8.ofNat i)) b io').1)
  simpa [linuxShmEnqueueRxDescriptor, hinit, hring, toUInt8_interfaceOfIndex, hready.bounds,
    hready.source, hf, hbit, hframe, howner] using hiff

/-- A commit of a block that its interface holds, with lengths and
interfaces in range. -/
theorem commit_ok_iff (hinit : shm.ipc.initialized = true) (hv : shm.region.Valid) {c : Commit}
    (hid : c.frameId = frameIdOfIndex f) (hsource : c.source = interfaceOfIndex i)
    (htarget : isInterfaceValid c.target.toUInt8 = true) (hmin : anymsgHeaderSize ≤ c.frameLength)
    (hmax : c.frameLength ≤ 512) (hheld : shm.ipc.Holds f)
    (howner : (shm.ipc.frames f).sourceInterface = UInt8.ofNat i) :
    (c.run P shm).1 = .ok ↔ (shm.region.rxRings i).used < (shm.region.rxRings i).producer.depth ∧
      P.outcome shm.calls = .ok ∧ P.outcome (shm.calls + 1) = .ok ∧
        P.outcome (shm.calls + 2) = .ok := by
  have hsrc : isInterfaceValid (UInt8.ofNat i) = true := isInterfaceValid_ofNat i
  have hshort : ¬ c.frameLength < anymsgHeaderSize := UInt16.not_lt.mpr hmin
  have hlong : ¬ 512 < c.frameLength := UInt16.not_lt.mpr hmax
  have hready : ∀ {p : Pool}, p = shm.ipc.pool → RxReady i p (rxDescriptor (frameIdOfIndex f)
      c.frameLength (interfaceOfIndex i) c.target c.sourceCid c.destinationCid c.type c.priority
      c.ttl c.epoch c.flags) := by
    rintro p rfl
    have hlt : ∀ g : Fin 64, ¬ 64 ≤ frameIdOfIndex g := by decide
    refine ⟨?_, toUInt8_interfaceOfIndex i, f, frameIndex?_frameIdOfIndex f, hheld.bit, hheld.state,
      howner⟩
    simp [validateDescriptorBounds, rxDescriptor, toUInt8_interfaceOfIndex, hsrc, htarget, hshort,
      hlong, hlt f]
  -- every check of the commit holds here, and the enqueue decides
  have hcommit : c.run P shm = andThen (shm.cacheOp P) fun shm =>
      let r := linuxShmEnqueueRxDescriptor P shm (interfaceOfIndex i)
        (rxDescriptor (frameIdOfIndex f) c.frameLength (interfaceOfIndex i) c.target c.sourceCid
          c.destinationCid c.type c.priority c.ttl c.epoch c.flags)
      if r.1 = .ok then
        (r.1, { r.2 with
          ipc := r.2.ipc.modifyFrame f fun m =>
            { m with state := .rxQueued, targetInterface := c.target.toUInt8 } })
      else r := by
    have hbit : shm.ipc.isAllocated f = true := hheld.bit
    have hstate : (shm.ipc.frames f).state = .allocated := hheld.state
    unfold Commit.run linuxShmFrameCommitRx
    rw [hid, hsource]
    simp [hinit, hsrc, htarget, hbit, hstate, howner, toUInt8_interfaceOfIndex, hshort, hlong]
  rw [hcommit]
  by_cases h0 : P.outcome shm.calls = .ok
  · have hsync : shm.cacheOp P = (.ok, { shm with calls := shm.calls + 1 }) := by
      simp [LinuxShm.cacheOp, h0]
    have henqueue := @linuxShmEnqueueRxDescriptor_ok_iff P { shm with calls := shm.calls + 1 } i
      hinit hv _ (hready rfl)
    rw [hsync, andThen_of_ok rfl]
    simp only at henqueue ⊢
    generalize linuxShmEnqueueRxDescriptor P { shm with calls := shm.calls + 1 } (interfaceOfIndex i)
      (rxDescriptor (frameIdOfIndex f) c.frameLength (interfaceOfIndex i) c.target c.sourceCid
        c.destinationCid c.type c.priority c.ttl c.epoch c.flags) = r at henqueue ⊢
    have hfst : (if r.1 = .ok then (r.1, ({ r.2 with
        ipc := r.2.ipc.modifyFrame f fun m =>
          { m with state := .rxQueued, targetInterface := c.target.toUInt8 } } : LinuxShm))
        else r).1 = r.1 := by
      split <;> rfl
    rw [hfst, henqueue]
    simp [h0]
  · have hfail : (shm.cacheOp P).1 ≠ .ok := h0
    rw [andThen_of_ne hfail]
    constructor
    · intro hok
      exact absurd hok hfail
    · rintro ⟨-, hok, -⟩
      exact absurd hok h0

/-- Every address has a route hint that is an interface. -/
theorem routeHint_valid (i : Fin 6) (cid : Cid) :
    isInterfaceValid (routeHintFromDestinationCid (interfaceOfIndex i) cid).toUInt8 = true := by
  have hown : isInterfaceValid (interfaceOfIndex i).toUInt8 = true := by
    rw [toUInt8_interfaceOfIndex]
    exact isInterfaceValid_ofNat i
  unfold routeHintFromDestinationCid
  split <;> first | exact hown | decide

/-- What a submission commits is within the bounds of a descriptor. -/
structure Submission.InBounds (s : Submission) : Prop where
  length : s.length ≤ putShmFramePoolBlockSize.toNat
  atLeast : ∀ frameId, anymsgHeaderSize ≤ (s.commit frameId).frameLength
  atMost : ∀ frameId, (s.commit frameId).frameLength ≤ 512
  target : ∀ frameId, isInterfaceValid (s.commit frameId).target.toUInt8 = true

/-- **A submission succeeds exactly in a state that admits it.** -/
theorem Submission.run_ok_iff {s : Submission} (hs : s.Wellformed i) (hb : s.InBounds)
    (hinit : shm.ipc.initialized = true) (hv : shm.region.Valid) :
    (s.run P shm).1 = .ok ↔ shm.Admits P i := by
  have halloc := @linuxShmFrameAlloc_ok_iff i shm.ipc hinit
  unfold Submission.run
  rw [hs.source]
  rcases linuxShmFrameAlloc_cases shm.ipc (interfaceOfIndex i) with
    ⟨hres, hnone, -⟩ | ⟨j, f, -, hj, hfree, hquota, heq⟩
  · -- no block
    rcases hr : linuxShmFrameAlloc shm.ipc (interfaceOfIndex i) with ⟨err, out, ipc⟩
    rw [hr] at hres hnone halloc
    obtain rfl : out = none := hnone
    refine ⟨fun hok => absurd hok hres, fun h => ?_⟩
    exact absurd (halloc.mpr ⟨h.quota, h.block⟩) hres
  rw [interfaceIndex?_interfaceOfIndex] at hj
  obtain rfl := Option.some.inj hj
  rw [heq]
  simp only
  rw [if_neg (Nat.not_lt.mpr hb.length)]
  -- the block is the interface's, and nothing else has changed
  set filled : LinuxShm := LinuxShm.fillFrame { shm with ipc := shm.ipc.claim i (interfaceOfIndex i) f }
    f s.fill with hfilled
  have hframe : filled.ipc.frames f =
      allocatedMeta (interfaceOfIndex i) (shm.ipc.allocationSequence + 1) := Function.update_self ..
  have hbit : filled.ipc.isAllocated f = true := by
    have hpool : filled.ipc.pool = shm.ipc.pool.claim i f
        (allocatedMeta (interfaceOfIndex i) (shm.ipc.allocationSequence + 1)) :=
      LinuxShmIpc.pool_claim
    rw [← LinuxShmIpc.isAllocated_pool, hpool, Pool.isAllocated_claim, decide_eq_true rfl, Bool.or_true]
  have hheld : filled.ipc.Holds f := ⟨hbit, by rw [hframe]; rfl⟩
  have howner : (filled.ipc.frames f).sourceInterface = UInt8.ofNat i := by
    rw [hframe]
    exact toUInt8_interfaceOfIndex i
  have hvalid : filled.region.Valid := hv.withFramePool _
  have hcommit : ((s.commit (frameIdOfIndex f)).run P filled).1 = .ok ↔
      (shm.region.rxRings i).used < (shm.region.rxRings i).producer.depth ∧
        P.outcome shm.calls = .ok ∧ P.outcome (shm.calls + 1) = .ok ∧
          P.outcome (shm.calls + 2) = .ok :=
    @commit_ok_iff P filled i f hinit hvalid _ (hs.frameId _) ((hs.commitSource _).trans hs.source)
      (hb.target _)
      (hb.atLeast _) (hb.atMost _) hheld howner
  have hfst : ∀ {r : UnifiedError × LinuxShm} {shm' : LinuxShm},
      (if r.1 ≠ .ok then (r.1, shm') else (.ok, r.2)).1 = .ok ↔ r.1 = .ok := by
    intro r shm'
    by_cases h : r.1 = .ok
    · simp [h]
    · simp [h]
  rw [hfst, hcommit]
  constructor
  · rintro ⟨hroom, h0, h1, h2⟩
    exact ⟨hquota, ⟨f, hfree⟩, hroom, h0, h1, h2⟩
  · rintro ⟨-, -, hroom, h0, h1, h2⟩
    exact ⟨hroom, h0, h1, h2⟩

/-! ## Datagrams -/

namespace ExternalInterface

variable {e : ExternalInterface} {policy : IngressSecurityPolicy} {linuxEpoch : UInt32}
  {input : Bytes} {inputLen : ℕ}

theorem submission_inBounds (h : Decodes e.segment input inputLen) {rx : AdapterRxResult}
    (hrx : rx.len = inputLen) : (e.submission input rx linuxEpoch).InBounds := by
  have hmin := h.atLeast
  have hmax := h.atMost
  have hsize : (UInt16.ofNat inputLen).toNat = inputLen := by
    have h512 : putShmFramePoolBlockSize.toNat = 512 := rfl
    rw [UInt16.toNat_ofNat']
    omega
  refine ⟨?_, fun _ => ?_, fun _ => ?_, fun _ => routeHint_valid e.index _⟩
  · simp only [submission, frameSubmission, hrx]
    exact hmax
  · simp only [submission, frameSubmission, hrx]
    rw [UInt16.le_iff_toNat_le, hsize]
    exact hmin
  · simp only [submission, frameSubmission, hrx]
    rw [UInt16.le_iff_toNat_le, hsize]
    exact hmax

/-- The datagram gets as far as its submission with a new sequence number
that the policy asks for, and the submission fails. -/
structure LosesSequence (e : ExternalInterface) (P : Platform) (policy : IngressSecurityPolicy)
    (shm : LinuxShm) (input : Bytes) (inputLen : ℕ) : Prop where
  decodes : Decodes e.segment input inputLen
  enabled : policy.enabled = true
  required : policy.requireReplayProtection = true
  fresh : policy.Fresh e.index input.header
  refused : ¬ shm.Admits P e.index

end ExternalInterface

/-- **An error leaves the policy and the pool as they were.** -/
structure ErrorAtomic (policy : IngressSecurityPolicy) (shm : LinuxShm)
    (r : UnifiedError × IngressSecurityPolicy × LinuxShm) : Prop where
  policy : r.1 ≠ .ok → r.2.1 = policy
  bitmap : r.1 ≠ .ok → r.2.2.ipc.allocationBitmap = shm.ipc.allocationBitmap
  states : r.1 ≠ .ok → ∀ f, (r.2.2.ipc.frames f).state = (shm.ipc.frames f).state
  used : r.1 ≠ .ok → ∀ i,
    (r.2.2.ipc.stats.interfaceQuota i).used = (shm.ipc.stats.interfaceQuota i).used

variable {e : ExternalInterface} {policy : IngressSecurityPolicy} {linuxEpoch : UInt32}
  {input : Bytes} {inputLen : ℕ}

/-- An accepted sequence number changes the policy. -/
theorem IngressSecurityPolicy.Fresh.advance_ne {header : AnymsgHeader} (h : policy.Fresh i header) :
    policy.advance i header ≠ policy := by
  intro heq
  have hseen : policy.sequenceSeen i = true := by
    rw [← heq]
    exact Function.update_self ..
  have hlast : policy.lastSequence i = readLe32 header.localTime := by
    rw [← heq]
    exact Function.update_self ..
  have hlt := h hseen
  rw [hlast] at hlt
  exact UInt32.lt_irrefl _ hlt

theorem ErrorAtomic.of_unchanged {err : UnifiedError} {shm' : LinuxShm} (h : Unchanged shm shm') :
    ErrorAtomic policy shm (err, policy, shm') :=
  ⟨fun _ => rfl, fun _ => h.bitmap, fun _ => h.states, fun _ => h.used⟩

/-- A datagram that is refused before its submission changes nothing. -/
theorem ErrorAtomic.rejected {err : UnifiedError} : ErrorAtomic policy shm (err, policy, shm) :=
  .of_unchanged (.of_pool rfl (Region.Kept.refl _).unpublished)

theorem Started.initialized (h : Started shm) : shm.ipc.initialized = true := by
  induction h with
  | format => rfl
  | @attach shm h =>
    simp only [linuxShmIpcAttach] at h ⊢
    split at h
    · next hne => exact absurd h hne
    · next hok =>
      rw [if_neg hok]
      rfl
  | operation hs P op ih =>
    have hmoved := op.moved P hs.invariant.1
    exact hmoved.move.initialized.trans ih
  | elsewhere _ _ _ ih => exact ih

/-- A submission that is refused changes nothing. -/
theorem ErrorAtomic.submission (hc : shm.ipc.pool.Clean) {s : Submission} (hs : s.Wellformed i) :
    ErrorAtomic policy shm ((s.run P shm).1, policy, (s.run P shm).2) := by
  rcases Submission.run_cases P hs hc with ⟨-, hsame⟩ | ⟨hok, -⟩
  · exact .of_unchanged hsame
  · exact ⟨fun h => absurd hok h, fun h => absurd hok h, fun h => absurd hok h, fun h => absurd hok h⟩

/-- **An error is atomic exactly where no new sequence number is lost.**
For every policy, every state of the pool and the rings after a start,
every outcome of the platform calls and every datagram. -/
theorem handleDatagram_error_atomic_iff (e : ExternalInterface) (P : Platform)
    (policy : IngressSecurityPolicy) (linuxEpoch : UInt32) {shm : LinuxShm} (hstarted : Started shm)
    (input : Bytes) (inputLen : ℕ) :
    ErrorAtomic policy shm (e.handleDatagram P policy linuxEpoch shm input inputLen) ↔
      ¬ e.LosesSequence P policy shm input inputLen := by
  obtain ⟨hv, hc⟩ := hstarted.invariant
  have hinit := hstarted.initialized
  by_cases hd : Decodes e.segment input inputLen
  swap
  · -- the datagram is not decoded
    have hdecode : ∃ err, e.decode input inputLen = .error err := by
      cases h : e.decode input inputLen with
      | error err => exact ⟨err, rfl⟩
      | ok rx => exact absurd (ExternalInterface.decode_eq_ok_iff.mp h).1 hd
    obtain ⟨err, herr⟩ := hdecode
    refine iff_of_true ?_ fun h => hd h.decodes
    unfold ExternalInterface.handleDatagram
    rw [herr]
    exact .rejected
  by_cases henabled : policy.enabled = true
  · rw [ExternalInterface.handleDatagram_of_secured hd
      (ExternalInterface.applyIngressSecurity_enabled hd henabled)]
    generalize hrx : ({ received input inputLen with trustFlags := _ } : AdapterRxResult) = rx
    have hlen : rx.len = inputLen := by
      rw [← hrx]
      rfl
    have hsub := @Submission.run_ok_iff P shm e.index (e.submission input rx linuxEpoch)
      ExternalInterface.submission_wellformed (ExternalInterface.submission_inBounds hd hlen) hinit hv
    have hsame : ErrorAtomic policy shm (((e.submission input rx linuxEpoch).run P shm).1, policy,
        ((e.submission input rx linuxEpoch).run P shm).2) :=
      .submission hc ExternalInterface.submission_wellformed
    by_cases hmoves : policy.requireReplayProtection = true ∧ policy.Fresh e.index input.header
    · -- the policy has moved on by the time of the submission
      have hafter : e.policyAfter policy input = policy.advance e.index input.header := if_pos hmoves
      rw [hafter]
      constructor
      · intro hatomic hloses
        have hfail : ((e.submission input rx linuxEpoch).run P shm).1 ≠ .ok :=
          fun hok => hloses.refused (hsub.mp hok)
        exact hmoves.2.advance_ne (hatomic.policy hfail)
      · intro hnot
        have hok : ((e.submission input rx linuxEpoch).run P shm).1 = .ok := by
          by_contra hfail
          exact hnot ⟨hd, henabled, hmoves.1, hmoves.2, fun hadm => hfail (hsub.mpr hadm)⟩
        exact ⟨fun h => absurd hok h, fun h => absurd hok h, fun h => absurd hok h,
          fun h => absurd hok h⟩
    · have hafter : e.policyAfter policy input = policy := if_neg hmoves
      rw [hafter]
      exact iff_of_true hsame fun h => hmoves ⟨h.required, h.fresh⟩
  · rw [ExternalInterface.handleDatagram_of_secured hd
      (ExternalInterface.applyIngressSecurity_disabled (by simpa using henabled))]
    refine iff_of_true (.submission hc ExternalInterface.submission_wellformed) fun h => ?_
    exact henabled h.enabled

/-! ### A lost sequence number -/

/-- A platform whose calls all succeed. -/
def workingPlatform : Platform := ⟨fun _ => .ok⟩

/-- Linux after a start, with the quota of Ethernet used up by being
none. -/
def exhaustedShm : LinuxShm :=
  (Operation.setInterfaceQuota putShmInterfaceEthernet 0).run workingPlatform
    (linuxShmIpcFormatRegion ⟨{}, formatRegion 0 0, 0⟩ 1 1).2

/-- A policy that asks for replay protection only. -/
def replayPolicy : IngressSecurityPolicy where
  enabled := true
  requireReplayProtection := true

/-- A frame from Ethernet to Wi-Fi with a sequence number. -/
def ethernetFrame (sequenceByte : UInt8) : Bytes
  | 0 => 40
  | 8 => 0x60
  | 12 => 0x40
  | 16 => sequenceByte
  | _ => 0

theorem started_exhausted : Started exhaustedShm := .operation (.format _ 1 1) _ _

/-- **A datagram that is refused for want of quota** counts as seen. -/
theorem refused_datagram_seen :
    ¬ ∀ (P : Platform) (policy : IngressSecurityPolicy) (linuxEpoch : UInt32) (shm : LinuxShm),
      Started shm → ∀ (input : Bytes) (inputLen : ℕ), ErrorAtomic policy shm
        (ExternalInterface.ethernet.handleDatagram P policy linuxEpoch shm input inputLen) := by
  intro h
  have hatomic := (h workingPlatform replayPolicy 1 exhaustedShm started_exhausted (ethernetFrame 1)
    40).policy (by decide +kernel)
  have hseen := congrArg (fun policy => policy.sequenceSeen 1) hatomic
  exact absurd hseen (by decide +kernel)

/-- Without replay protection the same datagram leaves no trace. -/
theorem handleDatagram_error_atomic_unprotected :
    ErrorAtomic {} exhaustedShm
      (ExternalInterface.ethernet.handleDatagram workingPlatform {} 1 exhaustedShm
        (ethernetFrame 1) 40) :=
  (handleDatagram_error_atomic_iff .ethernet workingPlatform {} 1 started_exhausted (ethernetFrame 1)
    40).mpr fun h => absurd h.required (by decide)

end Linux

end PutGateway
