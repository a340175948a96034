import PutGateway.Linux.AdaptersSpec
/-!
# The ingress path of the external interfaces

`ethernet_adapter_handle_datagram`, its siblings on Wi-Fi and 4G, and the
receive loop of Bluetooth: a frame is decoded, the security policy works
out its trust flags, and the frame is submitted with them. The four paths
differ in the interface, its address segment, and the priority and the
lifetime they give a frame.
-/

namespace PutGateway

namespace Linux

/-- The interfaces whose frames have to earn their trust. -/
inductive ExternalInterface
  | ethernet
  | wifi
  | bluetooth
  | fourG
  deriving DecidableEq, Repr

namespace ExternalInterface

def index : ExternalInterface → Fin 6
  | .ethernet => 1
  | .wifi => 2
  | .bluetooth => 3
  | .fourG => 4

theorem index_injective : Function.Injective index := by
  intro e e' h
  cases e <;> cases e' <;> first | rfl | exact absurd h (by decide)

/-- The `put_shm_interface_t` the adapter passes. -/
def interface (e : ExternalInterface) : PutShmInterface := interfaceOfIndex e.index

/-- The address segment of an external interface. -/
def segment : ExternalInterface → AnymsgCidSegment
  | .ethernet => .ethernet
  | .wifi => .wifi
  | .bluetooth => .bluetooth
  | .fourG => .fourG

/-- The decode function of the adapter. -/
def decode : ExternalInterface → Bytes → ℕ → Except UnifiedError AdapterRxResult
  | .ethernet => ethernetAdapterDecodeDatagram
  | .wifi => wifiAdapterDecodeDatagram
  | .bluetooth => bluetoothDecodeRx
  | .fourG => fourGAdapterDecodeDatagram

/-- The submit function of the adapter. -/
def submitToIpc : ExternalInterface → Platform → LinuxShm → Bytes → AdapterRxResult → UInt32 →
    UnifiedError × LinuxShm
  | .ethernet => ethernetAdapterSubmitToIpc
  | .wifi => wifiAdapterSubmitToIpc
  | .bluetooth => bluetoothAdapterSubmitToIpc
  | .fourG => fourGAdapterSubmitToIpc

/-- The priority the adapter gives a frame. -/
def priority : ExternalInterface → UInt8
  | .ethernet | .wifi | .fourG => 2
  | .bluetooth => 1

/-- The lifetime the adapter gives a frame. -/
def ttl : ExternalInterface → UInt8
  | .ethernet | .wifi | .fourG => 8
  | .bluetooth => 255

/-- What the adapter submits. -/
def submission (e : ExternalInterface) (frame : Bytes) (rx : AdapterRxResult) (linuxEpoch : UInt32) :
    Submission :=
  frameSubmission e.interface e.priority e.ttl (externalFlags rx.trustFlags) frame rx linuxEpoch

/-- `ethernet_apply_ingress_security` and its siblings. -/
def applyIngressSecurity (e : ExternalInterface) (policy : IngressSecurityPolicy) (input : Bytes)
    (inputLen : ℕ) (rx : AdapterRxResult) : UnifiedError × AdapterRxResult × IngressSecurityPolicy :=
  let r := ingressSecurityEvaluate policy
    { sourceInterface := e.interface, frame := input, frameLength := inputLen, nowMs := 0 }
  if r.1 ≠ .ok then (r.1, rx, r.2.2) else (.ok, { rx with trustFlags := r.2.1 }, r.2.2)

/-- `ethernet_adapter_handle_datagram` and its siblings. -/
def handleDatagram (e : ExternalInterface) (P : Platform) (policy : IngressSecurityPolicy)
    (linuxEpoch : UInt32) (shm : LinuxShm) (input : Bytes) (inputLen : ℕ) :
    UnifiedError × IngressSecurityPolicy × LinuxShm :=
  match e.decode input inputLen with
  | .error err => (err, policy, shm)
  | .ok rx =>
    let secured := e.applyIngressSecurity policy input inputLen rx
    if secured.1 ≠ .ok then (secured.1, secured.2.2, shm)
    else
      let r := e.submitToIpc P shm input secured.2.1 linuxEpoch
      (r.1, secured.2.2, r.2)

variable {e : ExternalInterface} {P : Platform} {shm : LinuxShm} {policy : IngressSecurityPolicy}
  {input : Bytes} {inputLen : ℕ} {linuxEpoch : UInt32} {rx : AdapterRxResult}

theorem submitToIpc_eq : e.submitToIpc P shm input rx linuxEpoch =
    (e.submission input rx linuxEpoch).run P shm := by
  cases e <;> rfl

theorem submission_wellformed : (e.submission input rx linuxEpoch).Wellformed e.index :=
  frameSubmission_wellformed

end ExternalInterface

/-! ## Decoding -/

/-- The frames a decode function takes. -/
structure Decodes (segment : AnymsgCidSegment) (input : Bytes) (inputLen : ℕ) : Prop where
  atLeast : anymsgHeaderSize.toNat ≤ inputLen
  atMost : inputLen ≤ putShmFramePoolBlockSize.toNat
  lengths : anymsgValidateNormalizedLengths
    (readLe16 input.header.msgLength0 input.header.msgLength1)
    (readLe16 input.header.payloadLength0 input.header.payloadLength1) inputLen = .ok
  staticFields : anymsgValidateHeaderStaticFields input.header = .ok
  segment : anymsgCidSegmentFromFirstByte input.header.sourceCid.b0 = segment

/-- What a decode function reads out of a frame. -/
def received (input : Bytes) (inputLen : ℕ) : AdapterRxResult where
  len := inputLen
  msgLength := readLe16 input.header.msgLength0 input.header.msgLength1
  payloadLength := readLe16 input.header.payloadLength0 input.header.payloadLength1
  sourceCid := input.header.sourceCid
  destinationCid := input.header.destinationCid
  type := input.header.type

variable {own : AnymsgCidSegment} {input : Bytes} {inputLen : ℕ} {rx : AdapterRxResult}

theorem decodeDatagram_eq_ok_iff :
    decodeDatagram own input inputLen = .ok rx ↔
      Decodes own input inputLen ∧ rx = received input inputLen := by
  constructor
  · intro h
    unfold decodeDatagram at h
    split at h
    · cases h
    next hlen =>
    simp only at h
    split at h
    · cases h
    next hlengths =>
    split at h
    · cases h
    next hstatic =>
    split at h
    · cases h
    next hsegment =>
    simp only [Bool.or_eq_true, decide_eq_true_eq, not_or, not_lt] at hlen
    cases h
    exact ⟨⟨hlen.1, hlen.2, not_not.mp hlengths, not_not.mp hstatic, not_not.mp hsegment⟩, rfl⟩
  · rintro ⟨hd, rfl⟩
    have hlen : ¬ (inputLen < anymsgHeaderSize.toNat ∨ inputLen > putShmFramePoolBlockSize.toNat) := by
      have h1 := hd.atLeast
      have h2 := hd.atMost
      omega
    simp only [decodeDatagram, Bool.or_eq_true, decide_eq_true_eq, if_neg hlen, hd.lengths,
      hd.staticFields, hd.segment, ne_eq, not_true_eq_false, if_false]
    rfl

/-- A decoded frame passes the checks of the security evaluation. -/
theorem Decodes.parseFrameHeader (h : Decodes own input inputLen) {id : PutShmInterface}
    {nowMs : UInt32} : parseFrameHeader ⟨id, input, inputLen, nowMs⟩ = .ok input.header := by
  have hlen : ¬ (inputLen < anymsgHeaderSize.toNat ∨ inputLen > putShmFramePoolBlockSize.toNat) := by
    have h1 := h.atLeast
    have h2 := h.atMost
    omega
  simp only [Linux.parseFrameHeader, Bool.or_eq_true, decide_eq_true_eq, if_neg hlen, h.lengths,
    h.staticFields, ne_eq, not_true_eq_false, if_false]

/-! ## Evaluating -/

/-- The replay check accepts the sequence number of a frame. -/
def IngressSecurityPolicy.Fresh (policy : IngressSecurityPolicy) (i : Fin 6) (header : AnymsgHeader) :
    Prop :=
  policy.sequenceSeen i = true → policy.lastSequence i < readLe32 header.localTime

instance (policy : IngressSecurityPolicy) (i : Fin 6) (header : AnymsgHeader) :
    Decidable (policy.Fresh i header) := inferInstanceAs (Decidable (_ → _))

/-- The policy after a frame it accepts. -/
def IngressSecurityPolicy.advance (policy : IngressSecurityPolicy) (i : Fin 6) (header : AnymsgHeader) :
    IngressSecurityPolicy :=
  { policy with
    lastSequence := Function.update policy.lastSequence i (readLe32 header.localTime)
    sequenceSeen := Function.update policy.sequenceSeen i true }

variable {policy : IngressSecurityPolicy} {header : AnymsgHeader} {i : Fin 6}

/-- The replay check of an adapter, which gives no clock reading. -/
theorem replayCheckAndUpdate_eq {frame : Bytes} {frameLength : ℕ} :
    replayCheckAndUpdate policy ⟨interfaceOfIndex i, frame, frameLength, 0⟩ header =
      if policy.Fresh i header then (true, policy.advance i header) else (false, policy) := by
  unfold replayCheckAndUpdate
  simp only [interfaceIndex?_interfaceOfIndex]
  rw [if_neg (by simp)]
  have hfresh : policy.Fresh i header ↔
      ¬ ((policy.sequenceSeen i && decide
        (readLe32 header.localTime ≤ policy.lastSequence i)) = true) := by
    unfold IngressSecurityPolicy.Fresh
    rw [Bool.and_eq_true, decide_eq_true_eq, not_and, UInt32.not_le]
  by_cases h : policy.Fresh i header
  · rw [if_pos h, if_neg (hfresh.mp h)]
    rfl
  · rw [if_neg h, if_pos (not_not.mp (fun hn => h (hfresh.mpr hn)))]

namespace ExternalInterface

variable {e : ExternalInterface} {P : Platform} {shm : LinuxShm} {linuxEpoch : UInt32}

theorem decode_eq_ok_iff :
    e.decode input inputLen = .ok rx ↔
      Decodes e.segment input inputLen ∧ rx = received input inputLen := by
  cases e with
  | ethernet => exact decodeDatagram_eq_ok_iff
  | wifi => exact decodeDatagram_eq_ok_iff
  | fourG => exact decodeDatagram_eq_ok_iff
  | bluetooth =>
    simp only [decode, segment]
    rw [← decodeDatagram_eq_ok_iff]
    unfold bluetoothDecodeRx
    split
    · next h => rw [h]
    · next h => simp [h]

theorem isExternalInterface_interface : isExternalInterface e.interface = true := by
  cases e <;> decide

/-- The results of the four checks on a frame. -/
def authOk (policy : IngressSecurityPolicy) (input : Bytes) : Bool :=
  !policy.requireAuthentication ||
    verifySliceMatches input.header ingressSecurityAuthTokenOffset policy.authToken

def integrityOk (policy : IngressSecurityPolicy) (input : Bytes) : Bool :=
  !policy.requireIntegrity ||
    verifySliceMatches input.header ingressSecurityIntegrityTagOffset policy.integrityTag

def replayOk (e : ExternalInterface) (policy : IngressSecurityPolicy) (input : Bytes) : Bool :=
  !policy.requireReplayProtection || decide (policy.Fresh e.index input.header)

def controlAllowed (policy : IngressSecurityPolicy) (input : Bytes) : Bool :=
  policy.allowControlPath && destinationIsControlPath input.header

/-- The policy after a frame. -/
def policyAfter (e : ExternalInterface) (policy : IngressSecurityPolicy) (input : Bytes) :
    IngressSecurityPolicy :=
  if policy.requireReplayProtection = true ∧ policy.Fresh e.index input.header then
    policy.advance e.index input.header
  else policy

/-- **The evaluation of a decoded frame**, under an enabled policy. -/
theorem evaluate_of_decodes (h : Decodes own input inputLen) (henabled : policy.enabled = true) :
    ingressSecurityEvaluate policy ⟨e.interface, input, inputLen, 0⟩ =
      (.ok, earnedFlags (authOk policy input) (integrityOk policy input) (e.replayOk policy input)
        (controlAllowed policy input), e.policyAfter policy input) := by
  unfold ingressSecurityEvaluate
  rw [if_neg (by simp [henabled]), if_neg (by simp [isExternalInterface_interface]),
    h.parseFrameHeader]
  simp only
  have hreplay : replayCheckAndUpdate policy ⟨interfaceOfIndex e.index, input, inputLen, 0⟩
      input.header = _ := replayCheckAndUpdate_eq
  by_cases hreq : policy.requireReplayProtection = true
  · rw [if_pos hreq]
    unfold interface
    rw [hreplay]
    by_cases hfresh : policy.Fresh e.index input.header
    · simp [replayOk, policyAfter, hreq, hfresh, authOk, integrityOk, controlAllowed]
    · simp [replayOk, policyAfter, hreq, hfresh, authOk, integrityOk, controlAllowed]
  · rw [if_neg hreq]
    simp [replayOk, policyAfter, hreq, authOk, integrityOk, controlAllowed]

/-- The security step of an enabled policy ends well, and gives a decoded
frame the flags it has earned. -/
theorem applyIngressSecurity_enabled (h : Decodes e.segment input inputLen)
    (henabled : policy.enabled = true) :
    e.applyIngressSecurity policy input inputLen (received input inputLen) =
      (.ok, { received input inputLen with
        trustFlags := earnedFlags (authOk policy input) (integrityOk policy input)
          (e.replayOk policy input) (controlAllowed policy input) }, e.policyAfter policy input) := by
  unfold applyIngressSecurity
  rw [evaluate_of_decodes h henabled]
  rfl

/-- A policy that is not enabled works out no flags, and stays. -/
theorem applyIngressSecurity_disabled (hdisabled : policy.enabled = false) :
    e.applyIngressSecurity policy input inputLen (received input inputLen) =
      (.ok, received input inputLen, policy) := by
  simp only [applyIngressSecurity, ingressSecurityEvaluate, hdisabled, Bool.not_false, if_true, ne_eq,
    not_true_eq_false, if_false]
  rfl

/-- **A decoded frame is submitted** with what the security step makes of
it, under the policy that step leaves. -/
theorem handleDatagram_of_secured (h : Decodes e.segment input inputLen) {secured : AdapterRxResult}
    {policy' : IngressSecurityPolicy}
    (hsecured : e.applyIngressSecurity policy input inputLen (received input inputLen) =
      (.ok, secured, policy')) :
    e.handleDatagram P policy linuxEpoch shm input inputLen =
      (((e.submission input secured linuxEpoch).run P shm).1, policy',
        ((e.submission input secured linuxEpoch).run P shm).2) := by
  have hdecode : e.decode input inputLen = .ok (received input inputLen) :=
    decode_eq_ok_iff.mpr ⟨h, rfl⟩
  unfold handleDatagram
  rw [hdecode]
  simp only [hsecured, ne_eq, not_true_eq_false, if_false, submitToIpc_eq]

end ExternalInterface

end Linux

end PutGateway
