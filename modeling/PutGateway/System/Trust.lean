import PutGateway.Linux.Ingress
import PutGateway.Rtos.RouterAdapter
/-!
# Two decisions on trust

Linux decides what a frame from an external interface may do when it
gives the frame its flags; the RTOS decides again when it reads them out
of the descriptor, and it looks at the priority the adapter chose as
well. The two agree on Ethernet, Wi-Fi and 4G. Bluetooth gives its frames
the priority 1, which the RTOS reserves to frames that may control, so
that an authenticated frame from there is routed only towards CAN or
RS485.
-/

namespace PutGateway

namespace System

open Linux Rtos

variable {e : ExternalInterface} {policy policy' : IngressSecurityPolicy} {input : Bytes}
  {inputLen : ℕ} {rx secured : AdapterRxResult} {epoch frameId : UInt32}

/-- The descriptor the adapter commits for a frame with given flags. -/
def committed (e : ExternalInterface) (input : Bytes) (secured : AdapterRxResult)
    (epoch frameId : UInt32) : Descriptor :=
  ((e.submission input secured epoch).commit frameId).descriptor.sealed

/-- The flags say that a frame is authentic, whole and new. -/
structure Vouched (flags : UInt32) : Prop where
  auth : flags &&& descriptorFlagAuthOk ≠ 0
  integrity : flags &&& descriptorFlagIntegrityOk ≠ 0
  replay : flags &&& descriptorFlagReplayOk ≠ 0

/-- The RTOS routes a frame Linux vouched for: always where it goes to a
business interface, and where it goes to CAN or RS485 when the policy
allows the control path. -/
def TrustAgrees (e : ExternalInterface) (policy : IngressSecurityPolicy) (input : Bytes)
    (inputLen : ℕ) : Prop :=
  ∀ rx secured policy', e.decode input inputLen = .ok rx →
    e.applyIngressSecurity policy input inputLen rx = (.ok, secured, policy') →
    Vouched secured.trustFlags → ∀ epoch frameId,
      (destinationIsControlPath input.header = false →
        rtosRouterTrustIsRoutable (descriptorTrustFromFlags (committed e input secured epoch frameId)) =
          true) ∧
      (destinationIsControlPath input.header = true →
        (rtosRouterTrustIsRoutable
            (descriptorTrustFromFlags (committed e input secured epoch frameId)) = true ↔
          policy.allowControlPath = true))

/-! ## Reading the flags back -/

/-- Each flag of a commit is the result of one check, and none of them
makes the frame an internal one. -/
theorem externalFlags_earnedFlags (auth integrity replay control : Bool) :
    (externalFlags (earnedFlags auth integrity replay control) &&& descriptorFlagAuthOk != 0) = auth ∧
    (externalFlags (earnedFlags auth integrity replay control) &&& descriptorFlagIntegrityOk != 0) =
      integrity ∧
    (externalFlags (earnedFlags auth integrity replay control) &&& descriptorFlagReplayOk != 0) =
      replay ∧
    (externalFlags (earnedFlags auth integrity replay control) &&& descriptorFlagControlAllowed != 0) =
      control ∧
    (externalFlags (earnedFlags auth integrity replay control) &&& descriptorFlagInternalTrusted != 0) =
      false := by
  revert auth integrity replay control
  decide

theorem vouched_earnedFlags {auth integrity replay control : Bool} :
    Vouched (earnedFlags auth integrity replay control) ↔
      auth = true ∧ integrity = true ∧ replay = true := by
  have hall : ∀ a i r c : Bool,
      (earnedFlags a i r c &&& descriptorFlagAuthOk ≠ 0 ∧
        earnedFlags a i r c &&& descriptorFlagIntegrityOk ≠ 0 ∧
        earnedFlags a i r c &&& descriptorFlagReplayOk ≠ 0) ↔ a = true ∧ i = true ∧ r = true := by
    decide
  rw [← hall auth integrity replay control]
  exact ⟨fun h => ⟨h.auth, h.integrity, h.replay⟩, fun h => ⟨h.1, h.2.1, h.2.2⟩⟩

theorem not_vouched_zero : ¬ Vouched 0 := fun h => h.auth (by decide)

theorem sourceInterfaceIsExternal_interface : sourceInterfaceIsExternal e.interface.toUInt8 = true := by
  cases e <;> decide

/-- **What the RTOS makes of a commit.** It routes the frame when the
three checks passed and, where the priority or the destination asks for
it, control is allowed. -/
theorem trust_committed {auth integrity replay control : Bool}
    (hflags : secured.trustFlags = earnedFlags auth integrity replay control) :
    rtosRouterTrustIsRoutable (descriptorTrustFromFlags (committed e input secured epoch frameId)) =
      (auth && integrity && replay &&
        (!(decide (e.priority ≤ 1) || destinationCidIsControlPath secured.destinationCid) ||
          control)) := by
  obtain ⟨hauth, hintegrity, hreplay, hcontrol, hinternal⟩ :=
    externalFlags_earnedFlags auth integrity replay control
  rw [← hflags] at hauth hintegrity hreplay hcontrol hinternal
  have hhas : ∀ flag, descriptorHasFlag (committed e input secured epoch frameId) flag =
      (externalFlags secured.trustFlags &&& flag != 0) := fun _ => rfl
  have hneeds : descriptorRequiresControlAllowed (committed e input secured epoch frameId) =
      (decide (e.priority ≤ 1) || destinationCidIsControlPath secured.destinationCid) := by
    have hsource : sourceInterfaceIsExternal (committed e input secured epoch frameId).sourceInterface =
        true := sourceInterfaceIsExternal_interface
    rw [descriptorRequiresControlAllowed, hsource, Bool.true_and]
    rfl
  unfold descriptorTrustFromFlags
  rw [hhas, hhas, hhas, hhas, hhas, hneeds, hauth, hintegrity, hreplay, hcontrol, hinternal]
  generalize (decide (e.priority ≤ 1) || destinationCidIsControlPath secured.destinationCid) = needs
  clear hauth hintegrity hreplay hcontrol hinternal hflags hhas hneeds
  revert auth integrity replay control needs
  decide

/-! ## Agreement -/

/-- A policy vouches for a frame. -/
structure Vouches (e : ExternalInterface) (policy : IngressSecurityPolicy) (input : Bytes) : Prop where
  enabled : policy.enabled = true
  auth : ExternalInterface.authOk policy input = true
  integrity : ExternalInterface.integrityOk policy input = true
  replay : e.replayOk policy input = true

/-- What the security step of an adapter gives a decoded frame. -/
theorem applyIngressSecurity_cases (hd : Decodes e.segment input inputLen)
    (h : e.applyIngressSecurity policy input inputLen (received input inputLen) =
      (.ok, secured, policy')) :
    (policy.enabled = false ∧ secured = received input inputLen) ∨
    (policy.enabled = true ∧ policy' = e.policyAfter policy input ∧
      secured = { received input inputLen with
        trustFlags := earnedFlags (ExternalInterface.authOk policy input)
          (ExternalInterface.integrityOk policy input) (e.replayOk policy input)
          (ExternalInterface.controlAllowed policy input) }) := by
  by_cases henabled : policy.enabled = true
  · rw [ExternalInterface.applyIngressSecurity_enabled hd henabled, Prod.mk.injEq, Prod.mk.injEq] at h
    exact .inr ⟨henabled, h.2.2.symm, h.2.1.symm⟩
  · have hoff : policy.enabled = false := by simpa using henabled
    rw [ExternalInterface.applyIngressSecurity_disabled hoff, Prod.mk.injEq, Prod.mk.injEq] at h
    exact .inl ⟨hoff, h.2.1.symm⟩

/-- A frame from Bluetooth the policy vouches for is refused unless it
goes to CAN or RS485. -/
theorem TrustAgrees.not_bluetooth (hd : Decodes ExternalInterface.bluetooth.segment input inputLen)
    (hv : Vouches .bluetooth policy input)
    (hdest : destinationIsControlPath input.header = false) :
    ¬ TrustAgrees .bluetooth policy input inputLen := by
  intro h
  have hflags : Vouched (earnedFlags (ExternalInterface.authOk policy input)
      (ExternalInterface.integrityOk policy input) (ExternalInterface.replayOk .bluetooth policy input)
      (ExternalInterface.controlAllowed policy input)) :=
    vouched_earnedFlags.mpr ⟨hv.auth, hv.integrity, hv.replay⟩
  have hroutable := (h _ _ _ (ExternalInterface.decode_eq_ok_iff.mpr ⟨hd, rfl⟩)
    (ExternalInterface.applyIngressSecurity_enabled hd hv.enabled) hflags 0 0).1 hdest
  rw [trust_committed rfl] at hroutable
  have hcontrol : ExternalInterface.controlAllowed policy input = false := by
    rw [ExternalInterface.controlAllowed, hdest, Bool.and_false]
  simp [hcontrol, ExternalInterface.priority] at hroutable

/-- **The two decisions agree exactly off Bluetooth's business traffic.**
They disagree on a frame when it comes from Bluetooth, goes to neither
CAN nor RS485, and Linux decodes it and vouches for it. -/
theorem trust_agrees_iff (e : ExternalInterface) (policy : IngressSecurityPolicy) (input : Bytes)
    (inputLen : ℕ) :
    TrustAgrees e policy input inputLen ↔
      ¬ (e = .bluetooth ∧ destinationIsControlPath input.header = false ∧
        Decodes e.segment input inputLen ∧ Vouches e policy input) := by
  constructor
  · rintro h ⟨rfl, hdest, hd, hv⟩
    exact TrustAgrees.not_bluetooth hd hv hdest h
  intro hne rx secured policy' hdecode happly hvouched epoch frameId
  obtain ⟨hd, rfl⟩ := ExternalInterface.decode_eq_ok_iff.mp hdecode
  rcases applyIngressSecurity_cases hd happly with ⟨-, rfl⟩ | ⟨henabled, -, rfl⟩
  · exact absurd hvouched not_vouched_zero
  obtain ⟨hauth, hintegrity, hreplay⟩ := vouched_earnedFlags.mp hvouched
  have hcontrol : ExternalInterface.controlAllowed policy input =
      (policy.allowControlPath && destinationIsControlPath input.header) := rfl
  have hdest : destinationCidIsControlPath (received input inputLen).destinationCid =
      destinationIsControlPath input.header := rfl
  rw [trust_committed rfl, hauth, hintegrity, hreplay, hcontrol, hdest]
  refine ⟨fun hbusiness => ?_, fun hpath => ?_⟩
  · -- only Bluetooth commits with a priority that asks for control
    have hprio : decide (e.priority ≤ 1) = false := by
      have hnot : e ≠ .bluetooth := by
        rintro rfl
        exact hne ⟨rfl, hbusiness, hd, ⟨henabled, hauth, hintegrity, hreplay⟩⟩
      revert hnot
      cases e <;> decide
    simp [hbusiness, hprio]
  · simp [hpath]

/-- A policy that asks for everything, with one-byte credentials. -/
def strictPolicy : IngressSecurityPolicy where
  enabled := true
  requireAuthentication := true
  requireIntegrity := true
  requireReplayProtection := true
  authToken := ⟨fun _ => 1, 1, Credential.one_le⟩
  integrityTag := ⟨fun _ => 2, 1, Credential.one_le⟩

/-- A header without payload, from an address to an address. -/
def bareFrame (source destination : UInt8) : Bytes
  | 0 => 40
  | 8 => destination
  | 12 => source
  | 16 => 1
  | 20 => 1
  | 28 => 2
  | _ => 0

/-- A frame from Bluetooth to Ethernet, with both credentials and a first
sequence number, is refused by the RTOS. -/
theorem not_trust_agrees : ¬ TrustAgrees .bluetooth strictPolicy (bareFrame 0x80 0x40) 40 :=
  TrustAgrees.not_bluetooth ⟨by decide, by decide, by decide, by decide, by decide⟩
    ⟨by decide, by decide, by decide, by decide⟩ (by decide)

end System

end PutGateway
