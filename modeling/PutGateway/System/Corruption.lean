import PutGateway.Common.Crc16Spec
import PutGateway.Linux.CanSessions
import PutGateway.Linux.ShmSpec
import PutGateway.Rtos.ShmSpec
/-!
# Corrupted bytes are noticed

Between the core that seals a descriptor and the core that takes it, or
between the node that cuts a message and the gateway that assembles it,
bytes may change. A change that is one short burst fails the CRC check:
neither dequeue hands the descriptor over, and the call that reads it
reports the CRC; the CAN message is not delivered, and its session is gone.
-/

namespace PutGateway

/-! ## A bad entry at the head of a ring -/

/-- **A dequeue rejects for the CRC**: it fails and hands nothing over, and
where it reads the entry it reports the CRC. -/
structure RejectsForCrc {D α : Type} (reads : Prop) (r : UnifiedError × Option D × α) : Prop where
  fails : r.1 ≠ .ok
  nothing : r.2.1 = none
  reports : reads → r.1 = .crc

namespace RingIo

variable {D σ : Type} {P : Platform} {C : Consumer D σ} {io : RingIo D σ}

/-- A dequeue from its first cache call on reads the entry at the head: the
producer line and the entry could be synchronised, and there is one. -/
def ReadsHead (P : Platform) (io : RingIo D σ) : Prop :=
  P.outcome io.calls = .ok ∧ io.ring.producer.writeSeq ≠ io.ring.consumer.readSeq ∧
    P.outcome (io.calls + 1) = .ok

/-- An entry with a bad CRC is never handed over. -/
theorem dequeue_of_bad_crc (P : Platform) (C : Consumer D σ) (io : RingIo D σ)
    (hbad : C.crcOk io.ring.head = false) :
    RejectsForCrc (io.ReadsHead P) (io.dequeue P C) := by
  have hends : (io.dequeue P C).1 ≠ .ok ∧ (io.dequeue P C).2.1 = none := by
    rcases dequeue_cases P C io (fun _ : σ => ()) (fun _ => rfl) with
      ⟨hres, hnone, -⟩ | ⟨-, -, heq⟩ | ⟨-, hgood, -⟩ | ⟨-, hgood, -⟩
    · exact ⟨hres, hnone⟩
    · rw [heq]
      exact ⟨by simp [reject], rfl⟩
    · rw [hbad] at hgood
      cases hgood
    · rw [hbad] at hgood
      cases hgood
  refine ⟨hends.1, hends.2, ?_⟩
  rintro ⟨hfirst, hentry, hsecond⟩
  rw [dequeue, cacheOp_of_ok io C.onError hfirst, if_neg (by simp), if_neg hentry,
    cacheOp_of_ok { io with calls := io.calls + 1 } C.onError hsecond, if_neg (by simp),
    if_pos (by simp [hbad])]
  rfl

end RingIo

namespace Rtos

/-- `rtos_shm_descriptor_ring_dequeue` gets as far as the descriptor. -/
def ReadsDescriptor (P : Platform) (io : RingIo Descriptor Unit) : Prop :=
  validateOwnHeader io.ring = .ok ∧ io.ReadsHead P

/-- **The RTOS on a descriptor with a bad CRC.** -/
theorem rtosShmDescriptorRingDequeue_of_bad_crc (P : Platform) (io : RingIo Descriptor Unit)
    (hbad : descriptorCrc io.ring.head ≠ io.ring.head.descriptorCrc16) :
    RejectsForCrc (ReadsDescriptor P io) (rtosShmDescriptorRingDequeue P io) := by
  have hends := io.dequeue_of_bad_crc P (ringConsumer io.ring.header) (beq_false_of_ne hbad)
  unfold rtosShmDescriptorRingDequeue
  by_cases hheader : validateOwnHeader io.ring = .ok
  · rw [if_neg (not_not.mpr hheader)]
    exact ⟨hends.fails, hends.nothing, fun h => hends.reports h.2⟩
  · rw [if_pos hheader]
    exact ⟨by simp, rfl, fun h => absurd h.1 hheader⟩

end Rtos

namespace Linux

/-- `linux_shm_dequeue_tx_descriptor` gets as far as the descriptor. -/
def ReadsDescriptor (P : Platform) (shm : LinuxShm) (interfaceId : PutShmInterface) (i : Fin 6) :
    Prop :=
  shm.ipc.initialized = true ∧
    validateDescriptorRing (shm.region.txRings i) .tx interfaceId.toUInt8 .rtosToLinux = .ok ∧
      (shm.txIo i).ReadsHead P

/-- **Linux on a descriptor with a bad CRC.** -/
theorem linuxShmDequeueTxDescriptor_of_bad_crc (P : Platform) (shm : LinuxShm)
    {interfaceId : PutShmInterface} {i : Fin 6} (hi : interfaceIndex? interfaceId = some i)
    (hbad : descriptorCrc (shm.region.txRings i).head ≠ (shm.region.txRings i).head.descriptorCrc16) :
    RejectsForCrc (ReadsDescriptor P shm interfaceId i)
      (linuxShmDequeueTxDescriptor P shm interfaceId) := by
  have hends := (shm.txIo i).dequeue_of_bad_crc P (txConsumer interfaceId) (beq_false_of_ne hbad)
  unfold linuxShmDequeueTxDescriptor
  rw [hi]
  simp only
  by_cases hinit : shm.ipc.initialized = true
  swap
  · rw [if_pos (by simpa using hinit)]
    exact ⟨by simp, rfl, fun h => absurd h.1 hinit⟩
  rw [if_neg (by simpa using hinit)]
  by_cases hring : validateDescriptorRing (shm.region.txRings i) .tx interfaceId.toUInt8 .rtosToLinux = .ok
  · rw [if_neg (not_not.mpr hring)]
    exact ⟨hends.fails, hends.nothing, fun h => hends.reports h.2.2⟩
  · rw [if_pos hring]
    exact ⟨hring, rfl, fun h => absurd h.2.1 hring⟩

/-! ## A bad message on the bus -/

/-- The bytes a session has assembled. -/
def CanReassemblySession.bytes (s : CanReassemblySession) : List UInt8 := s.buffer.upTo s.totalLen.toNat

/-- **A DATA frame completes a session**: it is the session's, is new to it
and leaves none missing. The session has the frame in it. -/
structure Completes (ctx : CanReassemblyContext) (f : CanFrame) (nowMs : UInt64)
    (s : CanReassemblySession) : Prop where
  isData : f.isData = true
  receives : ∃ i seq, (canAdapterReassemblyScanTimeouts ctx nowMs).findSession
      (normalizeSourceCanId f.canId) (f.data 1) = some i ∧
    f.data 2 < ((canAdapterReassemblyScanTimeouts ctx nowMs).sessions i).dataFrameCount ∧
    seq.val = (f.data 2).toNat ∧
    bitmapGet ((canAdapterReassemblyScanTimeouts ctx nowMs).sessions i).receivedBitmap seq = false ∧
    s = ((canAdapterReassemblyScanTimeouts ctx nowMs).sessions i).receive f seq nowMs
  complete : ¬ s.receivedCount < s.dataFrameCount

variable {history : List CanFrame} {ctx : CanReassemblyContext} {f sof : CanFrame} {nowMs : UInt64}
  {s : CanReassemblySession}

/-- The CRC of a session is the one its SOF announced. -/
theorem Completes.fullCrc16_eq (h : Completes ctx f nowMs s) (hctx : Received history ctx)
    (hsof : lastSof CanFrame.opens f.key history = some sof) : s.fullCrc16 = sof.sofCrc := by
  obtain ⟨i, seq, hfind, -, -, -, rfl⟩ := h.receives
  obtain ⟨hlive, hkey⟩ := SlotTable.find_eq_some hfind
  obtain ⟨sof', hsof', -, hcrc⟩ := ((hctx.reassembling.scan nowMs).assembles i hlive).sof
  rw [hkey] at hsof'
  obtain rfl : sof' = sof := Option.some.inj (hsof'.symm.trans hsof)
  exact hcrc

/-- **A complete session with a bad CRC** is reported and given up. -/
theorem Completes.of_bad_crc (h : Completes ctx f nowMs s) (hctx : Received history ctx)
    (hbad : unifiedCrc16CcittFalse s.bytes ≠ s.fullCrc16) :
    ∃ ctx', canAdapterReassembleFrame ctx f nowMs = some (.crc, none, ctx') ∧
      ∀ i, (ctx'.sessions i).inUse = true → (ctx'.sessions i).key ≠ f.key := by
  have hinv := hctx.reassembling.scan nowMs
  obtain ⟨i, seq, hfind, hlt, hseq, hnew, hs⟩ := h.receives
  obtain ⟨hlive, hkey⟩ := SlotTable.find_eq_some hfind
  have hhandles : canAdapterReassembleFrame ctx f nowMs =
      handleData (canAdapterReassemblyScanTimeouts ctx nowMs) f (normalizeSourceCanId f.canId) nowMs := by
    rcases reassembleFrame_cases ctx f nowMs with ⟨-, hsof, -⟩ | ⟨-, heq⟩ | ⟨hno, -⟩
    · have hopens := (CanFrame.isData_iff.mp h.isData).2
      rw [hsof] at hopens
      cases hopens
    · exact heq
    · rw [h.isData] at hno
      cases hno
  obtain ⟨r, hr, hcases⟩ := handleData_cases f (normalizeSourceCanId f.canId) nowMs hinv.valid
  rcases hcases with ⟨-, -, hdropped⟩ | ⟨j, seq', hfind', -, hseq', -, rfl⟩
  · -- a dropped frame would have been there before
    obtain ⟨seq', hseq', hset⟩ := hdropped i hfind hlt
    obtain rfl : seq' = seq := Fin.ext (hseq'.trans hseq.symm)
    rw [hnew] at hset
    cases hset
  obtain rfl : i = j := Option.some.inj (hfind.symm.trans hfind')
  obtain rfl : seq' = seq := Fin.ext (hseq'.trans hseq.symm)
  have hcrc : unifiedCrc16CcittFalse (s.buffer.upTo s.totalLen.toNat) ≠ s.fullCrc16 := hbad
  rw [← hs, receiveData, if_neg h.complete, if_pos hcrc] at hr
  refine ⟨_, hhandles.trans hr, fun j hj hjkey => ?_⟩
  simp only [CanReassemblyContext.putSession] at hj hjkey
  by_cases hji : j = i
  · subst hji
    rw [Function.update_self] at hj
    cases hj
  · rw [Function.update_of_ne hji] at hj hjkey
    exact hji (hinv.distinct j i hj hlive (hjkey.trans hkey.symm))

/-- A message that is handed over has the CRC of the SOF before it. -/
theorem crc_of_delivered (hctx : Received history ctx)
    (hsof : lastSof CanFrame.opens f.key history = some sof)
    {r : UnifiedError × Option (List UInt8) × CanReassemblyContext}
    (hr : canAdapterReassembleFrame ctx f nowMs = some r) {msg : List UInt8} (hmsg : r.2.1 = some msg) :
    unifiedCrc16CcittFalse msg = sof.sofCrc := by
  have hopens : f.opens = false := by
    rcases reassembleFrame_cases ctx f nowMs with ⟨-, -, heq⟩ | ⟨hdata, -⟩ | ⟨-, hno, -⟩
    · rw [hr] at heq
      cases heq
      cases hmsg
    · exact CanFrame.opens_of_isData hdata
    · exact hno
  obtain ⟨r', hr', -, hmade⟩ := hctx.reassembling.reassembleFrame f nowMs
  rw [hr] at hr'
  cases hr'
  obtain ⟨sof', hsof', -, hcrc⟩ := (hmade msg hmsg).sof
  have hskip : lastSof CanFrame.opens f.key (f :: history) = lastSof CanFrame.opens f.key history := by
    simp only [lastSof, List.find?_cons, hopens, Bool.false_and]
  rw [hskip, hsof] at hsof'
  cases hsof'
  exact hcrc

end Linux

/-! ## Short bursts -/

section System

open Rtos Linux

/-- **Short bursts of errors are detected.** Byte strings that differ in one
have different CRCs. A descriptor that was sealed and whose bytes then
changed so is rejected by both dequeues. Where the bytes assembled under an
SOF have changed so from the message it was sent for, the frame that
completes them is answered with the CRC error, the session is gone, and
the changed message is never handed over. -/
theorem short_bursts_detected {a b : List UInt8} (h : ShortBurst a b) :
    unifiedCrc16CcittFalse a ≠ unifiedCrc16CcittFalse b ∧
    (∀ (P : Platform) (d d' : Descriptor), d.bytes = a → d'.bytes = b →
      descriptorCrc d = d.descriptorCrc16 → d'.descriptorCrc16 = d.descriptorCrc16 →
      (∀ io : RingIo Descriptor Unit, io.ring.head = d' →
        RejectsForCrc (Rtos.ReadsDescriptor P io) (rtosShmDescriptorRingDequeue P io)) ∧
      ∀ (shm : LinuxShm) (interfaceId : PutShmInterface) (i : Fin 6),
        interfaceIndex? interfaceId = some i → (shm.region.txRings i).head = d' →
        RejectsForCrc (Linux.ReadsDescriptor P shm interfaceId i)
          (linuxShmDequeueTxDescriptor P shm interfaceId)) ∧
    ∀ (history : List CanFrame) (ctx : CanReassemblyContext) (f sof : CanFrame) (nowMs : UInt64),
      Received history ctx → lastSof CanFrame.opens f.key history = some sof →
      sof.sofCrc = unifiedCrc16CcittFalse a →
      ∃ r, canAdapterReassembleFrame ctx f nowMs = some r ∧ r.2.1 ≠ some b ∧
        ∀ s, Completes ctx f nowMs s → s.bytes = b → r.1 = .crc ∧ r.2.1 = none ∧
          ∀ i, (r.2.2.sessions i).inUse = true → (r.2.2.sessions i).key ≠ f.key := by
  have hne := crc16_ne_of_burst h
  refine ⟨hne, ?_, ?_⟩
  · intro P d d' hd hd' hsealed hkept
    have hbad : descriptorCrc d' ≠ d'.descriptorCrc16 := by
      rw [hkept, ← hsealed, descriptorCrc, descriptorCrc, hd, hd']
      exact hne.symm
    refine ⟨fun io hhead => ?_, fun shm interfaceId i hi hhead => ?_⟩
    · exact rtosShmDescriptorRingDequeue_of_bad_crc P io (by rwa [hhead])
    · exact linuxShmDequeueTxDescriptor_of_bad_crc P shm hi (by rwa [hhead])
  · intro history ctx f sof nowMs hctx hsof hcrc
    obtain ⟨r, hr, -⟩ := hctx.reassembling.reassembleFrame f nowMs
    refine ⟨r, hr, fun hmsg => ?_, fun s hcompletes hbytes => ?_⟩
    · exact hne ((crc_of_delivered hctx hsof hr hmsg).trans hcrc).symm
    · have hbad : unifiedCrc16CcittFalse s.bytes ≠ s.fullCrc16 := by
        rw [hcompletes.fullCrc16_eq hctx hsof, hcrc, hbytes]
        exact hne.symm
      obtain ⟨ctx', hr', hgone⟩ := hcompletes.of_bad_crc hctx hbad
      rw [hr] at hr'
      cases hr'
      exact ⟨rfl, rfl, hgone⟩

/-- A sealed descriptor of zero bytes, and the same with a bit of its
frame id changed. -/
def sealedDescriptor : Descriptor := ({} : Descriptor).sealed

def corruptedDescriptor : Descriptor := { sealedDescriptor with frameId := 1 }

/-- A region with the corrupted descriptor in every descriptor ring. -/
def corruptedRegion : Region :=
  let formatted := formatRegion 1 1
  let one : RingProducer := { formatted.reclaimRing.producer with writeSeq := 1 }
  { formatted with
    rxRings := fun i =>
      { formatted.rxRings i with producer := one, descriptors := fun _ => corruptedDescriptor }
    txRings := fun i =>
      { formatted.txRings i with producer := one, descriptors := fun _ => corruptedDescriptor } }

/-- The SOF of the zero bytes as a message, and the DATA frames of the
changed bytes but the last. The newest comes first. -/
def corruptedTrace : List (CanFrame × UInt64) :=
  ([11, 10, 9, 8, 7, 6, 5, 4, 3, 2, 1, 0].map fun seq =>
      (dataFrame 1 0 corruptedDescriptor.bytes seq, 0)) ++ [(sofFrame 1 0 sealedDescriptor.bytes, 0)]

set_option maxRecDepth 100000 in
theorem short_bursts_detected_one_bit :
    (rtosShmDescriptorRingDequeue .defaultOps (RtosShm.rxIo ⟨true, corruptedRegion, 0⟩ 0)).1 = .crc ∧
      (linuxShmDequeueTxDescriptor .defaultOps
        ⟨resetLocalState { initialized := true }, corruptedRegion, 0⟩ (interfaceOfIndex 0)).1 = .crc ∧
      ∃ ctx r, Received (corruptedTrace.map Prod.fst) ctx ∧
        canAdapterReassembleFrame ctx (dataFrame 1 0 corruptedDescriptor.bytes 12) 0 = some r ∧
          r.1 = .crc ∧ r.2.1 = none := by
  have hlength : ([0] : List UInt8).length = ([1] : List UInt8).length := rfl
  have hburst : ShortBurst sealedDescriptor.bytes corruptedDescriptor.bytes :=
    shortBurst_of_replaced [] (sealedDescriptor.bytes.drop 1) hlength (by decide) (by decide)
  obtain ⟨-, hdescriptor, hmessage⟩ := short_bursts_detected hburst
  obtain ⟨hrtos, hlinux⟩ := hdescriptor .defaultOps sealedDescriptor corruptedDescriptor rfl rfl
    (descriptorCrc_sealed _) rfl
  refine ⟨?_, ?_, ?_⟩
  · refine (hrtos _ rfl).reports ⟨?_, rfl, by decide, rfl⟩
    exact @validateOwnHeader_of_abi _ .rx .linuxToRtos (.inl rfl)
      ⟨rfl, rfl, rfl, rfl, rfl, rfl, rfl, rfl, rfl⟩
  · exact (hlinux _ _ 0 rfl rfl).reports ⟨rfl, by decide, rfl, by decide, rfl⟩
  · obtain ⟨delivered, ctx, hrun, hreceived⟩ := received_of_receiveFrames 500 corruptedTrace
    have hlast : (receiveFrames (canReassemblyContextInit 500) corruptedTrace).any (fun c =>
        let scanned := canAdapterReassemblyScanTimeouts c.2 0
        let s := (scanned.sessions 0).receive (dataFrame 1 0 corruptedDescriptor.bytes 12) 12 0
        scanned.findSession 1 0 = some 0 ∧ 12 < (scanned.sessions 0).dataFrameCount ∧
          bitmapGet (scanned.sessions 0).receivedBitmap 12 = false ∧
          ¬ s.receivedCount < s.dataFrameCount ∧ s.bytes = corruptedDescriptor.bytes) = true := by
      decide +kernel
    rw [hrun, Option.any_some, decide_eq_true_eq] at hlast
    obtain ⟨hfind, hlt, hnew, hcomplete, hbytes⟩ := hlast
    obtain ⟨r, hr, -, hrejects⟩ := hmessage _ ctx (dataFrame 1 0 corruptedDescriptor.bytes 12)
      (sofFrame 1 0 sealedDescriptor.bytes) 0 hreceived (by decide +kernel) (by decide +kernel)
    obtain ⟨hcrc, hnone, -⟩ :=
      hrejects _ ⟨by decide +kernel, ⟨0, 12, hfind, hlt, rfl, hnew, rfl⟩, hcomplete⟩ hbytes
    exact ⟨ctx, r, hreceived, hr, hcrc, hnone⟩

end System

end PutGateway
