import PutGateway.Linux.AdaptersSpec
import PutGateway.Rtos.RouterAdapter
/-!
# RS485 traffic at the router

The RS485 adapter builds an anyMSG around the bytes it has read and gives
it the type `0x1F`, which its documentation reserves to raw RS485 traffic.
`rtos_router_type_is_valid` counts that type among the reserved ones.
Everything else about the frame is what the RTOS asks for
(`validateAnymsgHeader_rs485`), but for its type every frame is reclaimed
as invalid.
-/

namespace PutGateway

namespace System

open Linux Rtos

variable {shm : LinuxShm} {f : Fin 64} {payload : Bytes} {payloadLen : ℕ} {linuxEpoch frameId : UInt32}

/-- The descriptor of a frame the RS485 adapter has built. -/
def rs485Descriptor (payload : Bytes) (payloadLen : ℕ) (linuxEpoch frameId : UInt32) : Descriptor :=
  ((rs485Submission payload payloadLen linuxEpoch).commit frameId).descriptor.sealed

/-- **The RTOS lets a frame into the router.** -/
def Routable (d : Descriptor) (frame : FrameBlock) : Prop :=
  validateAnymsgHeader d frame = true ∧ ∀ nowMs, inputIsInvalid (routeInput d frame nowMs) = false

/-! ## The frame -/

/-- The header of a filled block is the one the adapter has written. -/
theorem header_rs485 (block : FrameBlock) :
    ((rs485Submission payload payloadLen linuxEpoch).fill block).header =
      (rs485Header (UInt16.ofNat (anymsgHeaderSize.toNat + payloadLen))
        (UInt16.ofNat payloadLen)).header :=
  (FrameBlock.header_copyIn_behind _ payload payloadLen le_rfl).trans
    (FrameBlock.header_copyIn block _ le_rfl)

/-- The lengths in the header are those of the frame. -/
theorem lengths_rs485 (hlen : payloadLen ≤ 256) :
    let msgLength := UInt16.ofNat (anymsgHeaderSize.toNat + payloadLen)
    let header := (rs485Header msgLength (UInt16.ofNat payloadLen)).header
    anymsgValidateNormalizedLengths (readLe16 header.msgLength0 header.msgLength1)
      (readLe16 header.payloadLength0 header.payloadLength1) msgLength.toNat = .ok := by
  intro msgLength header
  have hmsg : readLe16 header.msgLength0 header.msgLength1 = msgLength := readLe16_writeLe16 _
  have hpayload : readLe16 header.payloadLength0 header.payloadLength1 = UInt16.ofNat payloadLen :=
    readLe16_writeLe16 _
  have h40 : anymsgHeaderSize.toNat = 40 := rfl
  have hnat : msgLength.toNat = 40 + payloadLen := by
    show (UInt16.ofNat (anymsgHeaderSize.toNat + payloadLen)).toNat = _
    rw [UInt16.toNat_ofNat']
    omega
  have hpay : (UInt16.ofNat payloadLen).toNat = payloadLen := by
    rw [UInt16.toNat_ofNat']
    omega
  have hshort : ¬ msgLength < anymsgHeaderSize := by
    rw [UInt16.lt_iff_toNat_lt]
    omega
  have hsum : msgLength.toUInt32 =
      anymsgHeaderSize.toUInt32 + (UInt16.ofNat payloadLen).toUInt32 := by
    rw [← UInt32.toNat_inj, UInt32.toNat_add, UInt16.toNat_toUInt32, UInt16.toNat_toUInt32,
      UInt16.toNat_toUInt32]
    omega
  rw [hmsg, hpayload, anymsgValidateNormalizedLengths, if_neg hshort, if_neg (not_not.mpr hsum),
    if_neg (not_not.mpr rfl)]

/-- **Only the type of the frame is in question.** -/
theorem validateAnymsgHeader_rs485 (hlen : payloadLen ≤ 256) (block : FrameBlock) :
    validateAnymsgHeader (rs485Descriptor payload payloadLen linuxEpoch frameId)
      ((rs485Submission payload payloadLen linuxEpoch).fill block) =
    rtosRouterTypeIsValid rs485AnymsgTypeRaw := by
  unfold validateAnymsgHeader
  simp only [header_rs485]
  have hlengths := lengths_rs485 hlen
  simp only at hlengths
  have hstatic : anymsgValidateHeaderStaticFields (rs485Header
      (UInt16.ofNat (anymsgHeaderSize.toNat + payloadLen)) (UInt16.ofNat payloadLen)).header = .ok :=
    rfl
  have hmatches : descriptorMatchesHeader (rs485Descriptor payload payloadLen linuxEpoch frameId)
      (rs485Header (UInt16.ofNat (anymsgHeaderSize.toNat + payloadLen))
        (UInt16.ofNat payloadLen)).header = true := by
    unfold descriptorMatchesHeader rs485Descriptor
    rw [Descriptor.sourceCid_sealed, Descriptor.destinationCid_sealed, Descriptor.type_sealed]
    simp only [Commit.descriptor, rxDescriptor, rs485Submission, beq_self_eq_true, Bool.and_self]
  have hframeLength : (rs485Descriptor payload payloadLen linuxEpoch frameId).frameLength =
      UInt16.ofNat (anymsgHeaderSize.toNat + payloadLen) := Descriptor.frameLength_sealed _
  rw [hframeLength, hlengths, hstatic, hmatches]
  rfl

theorem not_routable_rs485 (hlen : payloadLen ≤ 256) (block : FrameBlock) :
    ¬ Routable (rs485Descriptor payload payloadLen linuxEpoch frameId)
      ((rs485Submission payload payloadLen linuxEpoch).fill block) := by
  rintro ⟨hvalid, -⟩
  rw [validateAnymsgHeader_rs485 hlen block] at hvalid
  exact absurd hvalid (by decide)

/-! ## At the router -/

/-- The router reclaims a frame that is not routable as invalid. -/
theorem rtosRouterSubmit_of_invalid {H : Type} (S : RouterSinks H) (s : Hosted H) {input : RouteInput}
    (h : inputIsInvalid input = true) :
    ∃ s', rtosRouterSubmit S s input = reclaimInput S s' input .invalidFrame := by
  unfold rtosRouterSubmit
  simp only
  exact ⟨_, if_pos h⟩

theorem inputIsInvalid_rs485 (hlen : payloadLen ≤ 256) (block : FrameBlock) (nowMs : UInt32) :
    inputIsInvalid (routeInput (rs485Descriptor payload payloadLen linuxEpoch frameId)
      ((rs485Submission payload payloadLen linuxEpoch).fill block) nowMs) = true := by
  have hvalid := @validateAnymsgHeader_rs485 payload payloadLen linuxEpoch frameId hlen block
  have htype : rtosRouterTypeIsValid rs485AnymsgTypeRaw = false := by decide
  simp only [inputIsInvalid, routeInput, hvalid, htype, Bool.not_false, Bool.true_or]

/-- **No RS485 traffic is routed.** Whatever bytes are read, and whatever
block they are put into, the RTOS does not let the frame and its
descriptor into the router: every router reclaims it as invalid. -/
theorem rs485AdapterSubmitToIpc_never_routable (P : Platform) (payload : Bytes) (linuxEpoch : UInt32)
    (hpos : 0 < payloadLen) (hlen : payloadLen ≤ 256) {err : UnifiedError} {ipc : LinuxShmIpc}
    (halloc : linuxShmFrameAlloc shm.ipc putShmInterfaceRs485 = (err, some f, ipc)) :
    let r := rs485AdapterSubmitToIpc P shm payload payloadLen linuxEpoch
    let d := rs485Descriptor payload payloadLen linuxEpoch (frameIdOfIndex f)
    (r.1 = .ok → shm.region.PublishedOn 5 d r.2.region) ∧
      ¬ Routable d (r.2.region.framePool f) ∧
      ∀ {H : Type} (S : RouterSinks H) (s : Hosted H) (nowMs : UInt32),
        ∃ s', rtosRouterSubmit S s (routeInput d (r.2.region.framePool f) nowMs) =
          reclaimInput S s' (routeInput d (r.2.region.framePool f) nowMs) .invalidFrame := by
  intro r d
  have hlength : (rs485Submission payload payloadLen linuxEpoch).length ≤
      putShmFramePoolBlockSize.toNat := by
    show (UInt16.ofNat (anymsgHeaderSize.toNat + payloadLen)).toNat ≤ _
    have h40 : anymsgHeaderSize.toNat = 40 := rfl
    have h512 : putShmFramePoolBlockSize.toNat = 512 := rfl
    rw [UInt16.toNat_ofNat']
    omega
  have hrun : r = (rs485Submission payload payloadLen linuxEpoch).run P shm := by
    have hmax : ¬ payloadLen > anymsgMaxPayloadLength := by
      unfold anymsgMaxPayloadLength
      omega
    show rs485AdapterSubmitToIpc P shm payload payloadLen linuxEpoch = _
    rw [rs485AdapterSubmitToIpc, if_neg (by omega), if_neg hmax]
  obtain ⟨hpool, hpublished⟩ := Submission.run_of_alloc P
    (@rs485Submission_wellformed payload payloadLen linuxEpoch) halloc hlength
  have hblock : r.2.region.framePool f =
      (rs485Submission payload payloadLen linuxEpoch).fill (shm.region.framePool f) := by
    rw [hrun, hpool, Function.update_self]
  rw [hblock]
  refine ⟨fun hok => ?_, not_routable_rs485 hlen _, fun S s nowMs => ?_⟩
  · rw [hrun] at hok ⊢
    exact hpublished hok
  · exact rtosRouterSubmit_of_invalid S s (inputIsInvalid_rs485 hlen _ nowMs)

/-- A formatted gateway. -/
def formatted : LinuxShm := (linuxShmIpcFormatRegion ⟨{}, formatRegion 0 0, 0⟩ 1 1).2

/-- Two bytes read on a formatted gateway are published, and not routed. -/
theorem rs485AdapterSubmitToIpc_never_routable_formatted :
    (rs485AdapterSubmitToIpc Platform.defaultOps formatted (fun _ => 7) 2 1).1 = .ok ∧
      ¬ Routable (rs485Descriptor (fun _ => 7) 2 1 0)
        ((rs485AdapterSubmitToIpc Platform.defaultOps formatted (fun _ => 7) 2 1).2.region.framePool
          0) := by
  have halloc : (linuxShmFrameAlloc formatted.ipc putShmInterfaceRs485).2.1 = some 0 := by
    decide +kernel
  refine ⟨by decide +kernel, ?_⟩
  exact (@rs485AdapterSubmitToIpc_never_routable formatted 0 2 Platform.defaultOps (fun _ => 7) 1
    (by decide)
    (by decide) (linuxShmFrameAlloc formatted.ipc putShmInterfaceRs485).1
    (linuxShmFrameAlloc formatted.ipc putShmInterfaceRs485).2.2
    (Prod.ext rfl (Prod.ext halloc rfl))).2.1

/-- **The frame built from two bytes is refused.** -/
theorem rs485_frame_refused :
    ¬ ∀ (P : Platform) (shm : LinuxShm) (payload : Bytes) (payloadLen : ℕ) (linuxEpoch : UInt32)
        (f : Fin 64), 0 < payloadLen → payloadLen ≤ 256 →
        (linuxShmFrameAlloc shm.ipc putShmInterfaceRs485).2.1 = some f →
        Routable (rs485Descriptor payload payloadLen linuxEpoch (frameIdOfIndex f))
          ((rs485AdapterSubmitToIpc P shm payload payloadLen linuxEpoch).2.region.framePool f) := by
  intro h
  have hroutable := h Platform.defaultOps formatted (fun _ => 7) 2 1 0 (by decide) (by decide)
    (by decide +kernel)
  exact absurd hroutable.1 (by decide +kernel)

end System

end PutGateway
