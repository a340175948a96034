import PutGateway.Common.SharedMemoryIpc
/-!
# The security policy of the external interfaces

`linux_app/security/ingress_security.c`. A frame from Ethernet, Wi-Fi,
Bluetooth or 4G earns its trust flags here: two slices of its
`verify_string` are compared with the credentials of the policy, and its
`local_time` is a sequence number that must grow on each interface.

A null policy and a disabled one are answered alike, without trust; the
address and the port a frame came from are not looked at.
-/

namespace PutGateway

namespace Linux

/-- `ANYMSG_VERIFY_STRING_LENGTH`. -/
def anymsgVerifyStringLength : ℕ := 16

/-- `INGRESS_SECURITY_AUTH_TOKEN_OFFSET`. -/
def ingressSecurityAuthTokenOffset : ℕ := 0

/-- `INGRESS_SECURITY_INTEGRITY_TAG_OFFSET`. -/
def ingressSecurityIntegrityTagOffset : ℕ := 8

/-- A token or a tag with its actual length, which
`ingress_security_policy_set_mock_credentials` bounds by the length of the
array. -/
structure Credential where
  bytes : Fin 8 → UInt8 := fun _ => 0
  length : ℕ := 0
  length_le : length ≤ 8 := by decide

/-- One byte fits a credential. -/
theorem Credential.one_le : 1 ≤ 8 := by decide

/-- `ingress_security_policy_t`. The defaults are those of
`ingress_security_policy_init`. -/
structure IngressSecurityPolicy where
  enabled : Bool := false
  requireAuthentication : Bool := false
  requireIntegrity : Bool := false
  requireReplayProtection : Bool := false
  allowControlPath : Bool := false
  authToken : Credential := {}
  integrityTag : Credential := {}
  maxAgeMs : UInt32 := 0
  lastSequence : Fin 6 → UInt32 := fun _ => 0
  sequenceSeen : Fin 6 → Bool := fun _ => false

/-- `ingress_security_input_t`. -/
structure IngressSecurityInput where
  sourceInterface : PutShmInterface
  frame : Bytes
  frameLength : ℕ
  nowMs : UInt32

/-- `is_external_interface`. -/
def isExternalInterface (interfaceId : PutShmInterface) : Bool :=
  interfaceId == putShmInterfaceEthernet || interfaceId == putShmInterfaceWifi ||
    interfaceId == putShmInterfaceBluetooth || interfaceId == putShmInterface4G

/-- `destination_is_control_path`. -/
def destinationIsControlPath (header : AnymsgHeader) : Bool :=
  anymsgCidSegmentFromFirstByte header.destinationCid.b0 = .can ||
    anymsgCidSegmentFromFirstByte header.destinationCid.b0 = .rs485

/-- The bytes of `verify_string` a credential is compared with. -/
def verifySlice (header : AnymsgHeader) (offset length : ℕ) : List UInt8 :=
  ((List.ofFn header.verifyString).drop offset).take length

/-- `verify_slice_matches`. -/
def verifySliceMatches (header : AnymsgHeader) (offset : ℕ) (expected : Credential) : Bool :=
  if expected.length = 0 then false
  else if offset + expected.length > anymsgVerifyStringLength then false
  else verifySlice header offset expected.length == (List.ofFn expected.bytes).take expected.length

/-- `parse_frame_header`. -/
def parseFrameHeader (input : IngressSecurityInput) : Except UnifiedError AnymsgHeader :=
  if input.frameLength < anymsgHeaderSize.toNat ||
      input.frameLength > putShmFramePoolBlockSize.toNat then .error .length
  else
    let header := input.frame.header
    let lengths := anymsgValidateNormalizedLengths
      (readLe16 header.msgLength0 header.msgLength1)
      (readLe16 header.payloadLength0 header.payloadLength1) input.frameLength
    if lengths ≠ .ok then .error lengths
    else if anymsgValidateHeaderStaticFields header ≠ .ok then
      .error (anymsgValidateHeaderStaticFields header)
    else .ok header

/-- `replay_check_and_update`. -/
def replayCheckAndUpdate (policy : IngressSecurityPolicy) (input : IngressSecurityInput)
    (header : AnymsgHeader) : Bool × IngressSecurityPolicy :=
  match interfaceIndex? input.sourceInterface with
  | none => (false, policy)
  | some i =>
    let sequence := readLe32 header.localTime
    if policy.maxAgeMs ≠ 0 && input.nowMs ≠ 0 &&
        (input.nowMs < sequence || input.nowMs - sequence > policy.maxAgeMs) then (false, policy)
    else if policy.sequenceSeen i && sequence ≤ policy.lastSequence i then (false, policy)
    else
      (true,
        { policy with
          lastSequence := Function.update policy.lastSequence i sequence
          sequenceSeen := Function.update policy.sequenceSeen i true })

/-- A flag of the descriptor, set on a condition. -/
def flagIf (condition : Bool) (flag : UInt32) : UInt32 := if condition then flag else 0

/-- The flags `ingress_security_evaluate` gives for the results of its
four checks. -/
def earnedFlags (authOk integrityOk replayOk controlAllowed : Bool) : UInt32 :=
  (flagIf authOk descriptorFlagAuthOk ||| flagIf integrityOk descriptorFlagIntegrityOk |||
      flagIf replayOk descriptorFlagReplayOk ||| flagIf controlAllowed descriptorFlagControlAllowed) &&&
    descriptorTrustFlagMask

/-- `ingress_security_evaluate`. -/
def ingressSecurityEvaluate (policy : IngressSecurityPolicy) (input : IngressSecurityInput) :
    UnifiedError × UInt32 × IngressSecurityPolicy :=
  if !policy.enabled then (.ok, 0, policy)
  else if !isExternalInterface input.sourceInterface then (.invalidArg, 0, policy)
  else match parseFrameHeader input with
    | .error result => (result, 0, policy)
    | .ok header =>
      let authOk := !policy.requireAuthentication ||
        verifySliceMatches header ingressSecurityAuthTokenOffset policy.authToken
      let integrityOk := !policy.requireIntegrity ||
        verifySliceMatches header ingressSecurityIntegrityTagOffset policy.integrityTag
      -- the replay state moves only where the policy asks for the check
      let replay :=
        if policy.requireReplayProtection then replayCheckAndUpdate policy input header
        else (true, policy)
      let controlAllowed := policy.allowControlPath && destinationIsControlPath header
      (.ok, earnedFlags authOk integrityOk replay.1 controlAllowed, replay.2)

end Linux

end PutGateway
