import PutGateway.Rtos.Provenance
import PutGateway.System.Cores
import PutGateway.System.Trust
/-!
# The security gate, end to end

A frame passes the gate twice. Linux gives the frames of its external
interfaces the flags that the security policy has worked out; the RTOS
queues a frame only where the flags, the priority and the destination of
its descriptor agree. What is queued is retried, evicted and recovered
afterwards, and none of it is checked again: `writtenTx_mayPass` says that
every descriptor the RTOS writes to a TX ring still forwards one that
passed.

`Guarded` puts both cores together with the policies of the adapters. It
remembers which datagrams the replay checks have found new, and which one
was last submitted into each block, so that `GuardedInvariant` can say of
every descriptor in flight which datagram it stands for.
-/

namespace PutGateway

namespace System

open Linux Rtos

/-! ## What the RTOS lets pass -/

/-- The flags of a descriptor allow its frame to be sent: it comes from
the gateway itself, or it is authentic, whole and new, and may control
where an external frame asks for it. -/
def MayPass (r : Descriptor) : Prop :=
  r.flags &&& descriptorFlagInternalTrusted ≠ 0 ∨
    (Vouched r.flags ∧
      (sourceInterfaceIsExternal r.sourceInterface = true →
        (r.priority ≤ 1 ∨ anymsgCidSegmentFromFirstByte r.destinationCid.b0 = .can ∨
          anymsgCidSegmentFromFirstByte r.destinationCid.b0 = .rs485) →
        r.flags &&& descriptorFlagControlAllowed ≠ 0))

/-- **The router's trust is the gate.** -/
theorem mayPass_iff {r : Descriptor} :
    rtosRouterTrustIsRoutable (descriptorTrustFromFlags r) = true ↔ MayPass r := by
  have hflag : ∀ flag, descriptorHasFlag r flag = true ↔ r.flags &&& flag ≠ 0 := by
    intro flag
    simp [descriptorHasFlag]
  have hneeds : descriptorRequiresControlAllowed r = true ↔
      (sourceInterfaceIsExternal r.sourceInterface = true ∧
        (r.priority ≤ 1 ∨ anymsgCidSegmentFromFirstByte r.destinationCid.b0 = .can ∨
          anymsgCidSegmentFromFirstByte r.destinationCid.b0 = .rs485)) := by
    simp [descriptorRequiresControlAllowed, destinationCidIsControlPath]
  have hvouched : Vouched r.flags ↔ descriptorHasFlag r descriptorFlagAuthOk = true ∧
      descriptorHasFlag r descriptorFlagIntegrityOk = true ∧
      descriptorHasFlag r descriptorFlagReplayOk = true := by
    simp only [hflag]
    exact ⟨fun h => ⟨h.auth, h.integrity, h.replay⟩, fun h => ⟨h.1, h.2.1, h.2.2⟩⟩
  unfold MayPass
  rw [← hflag, ← hflag, hvouched, ← and_imp, ← hneeds]
  unfold descriptorTrustFromFlags
  cases descriptorHasFlag r descriptorFlagInternalTrusted <;>
    cases descriptorHasFlag r descriptorFlagAuthOk <;>
    cases descriptorHasFlag r descriptorFlagIntegrityOk <;>
    cases descriptorHasFlag r descriptorFlagReplayOk <;>
    cases descriptorRequiresControlAllowed r <;>
    cases descriptorHasFlag r descriptorFlagControlAllowed <;>
    simp [rtosRouterTrustIsRoutable]

theorem mayPass_of_forwards {d r : Descriptor} (h : d.Forwards r) : MayPass r ∧ MayPass d := by
  have hr := mayPass_iff.mp h.trusted
  refine ⟨hr, ?_⟩
  unfold MayPass
  rw [h.flags, h.source, h.priority, h.destinationCid]
  exact hr

variable {P Q : Platform} {K : Clock} {seen : Fin 6 → List Descriptor} {c : TasksContext}

/-- What an operation has taken off a ring is what its moves took. -/
theorem takenRx_of_descends {c' : TasksContext} {taken : Fin 6 → List Descriptor}
    (h : Descends (ledger c) (ledger c') taken) (j : Fin 6) : takenRx c c' j = taken j := by
  have hrx : c.host.ipc.region.view.rx j = taken j ++ c'.host.ipc.region.view.rx j := h.rx j
  simp [takenRx, hrx]

/-- What a run of the tasks has a reference for, it has taken off an RX
ring. -/
theorem reaches_references (h : Reaches P K seen c) :
    ∀ f r, (ledger c).references f = some r → ∃ j, r ∈ seen j ∧ Acceptable j r := by
  induction h with
  | init =>
    intro f r href
    simp [ledger_contextInit] at href
  | @operation seen c h op ih =>
    intro f r href
    obtain ⟨-, -, -, es, hmoves, -⟩ := h.sound.run (P := P) (K := K) op
    obtain ⟨taken, hdescends⟩ := hmoves.descends h.sound.books
    rcases hdescends.references f r href with href | ⟨j, hmem, hgood⟩
    · obtain ⟨j, hmem, hgood⟩ := ih f r href
      exact ⟨j, List.mem_append_left _ hmem, hgood⟩
    · refine ⟨j, List.mem_append_right _ ?_, hgood⟩
      rw [takenRx_of_descends hdescends j]
      exact hmem
  | environment _ _ ih => exact ih

/-- **Nothing is sent past the gate.** Whatever arrives on the RX rings
and whatever the platform answers, what an operation writes to a TX ring
forwards a descriptor that was taken off an RX ring and may pass. -/
theorem writtenTx_mayPass (h : Reaches P K seen c) (op : Rtos.Operation) {i : Fin 6} {d : Descriptor}
    (hd : d ∈ writtenTx c (op.run P K c) i) :
    ∃ j r, r ∈ seen j ++ takenRx c (op.run P K c) j ∧ Acceptable j r ∧ d.Forwards r ∧ MayPass r := by
  obtain ⟨-, -, -, es, hmoves, -⟩ := h.sound.run (P := P) (K := K) op
  obtain ⟨taken, hdescends, hwrites⟩ := hmoves.writes h.sound.books
  obtain ⟨new, htx, hknown⟩ := hwrites i
  have hnew : d ∈ new := by
    have htx' : (op.run P K c).host.ipc.region.view.tx i = c.host.ipc.region.view.tx i ++ new := htx
    rw [writtenTx, htx', List.drop_left] at hd
    exact hd
  obtain ⟨r, hr, hforwards⟩ := hknown d hnew
  have hpass := (mayPass_of_forwards hforwards).1
  rcases hr with ⟨f, href⟩ | ⟨j, hmem, hgood⟩
  · obtain ⟨j, hmem, hgood⟩ := reaches_references h f r href
    exact ⟨j, r, List.mem_append_left _ hmem, hgood, hforwards, hpass⟩
  · refine ⟨j, r, List.mem_append_right _ ?_, hgood, hforwards, hpass⟩
    rw [takenRx_of_descends hdescends j]
    exact hmem

/-! ## Datagrams -/

/-- A datagram that an adapter has decoded, with the policy it was
evaluated under. -/
structure Arrival where
  source : ExternalInterface
  frame : Bytes
  policy : IngressSecurityPolicy

namespace Arrival

/-- The flags the evaluation gives it. -/
def flags (a : Arrival) : UInt32 :=
  if a.policy.enabled then
    earnedFlags (ExternalInterface.authOk a.policy a.frame)
      (ExternalInterface.integrityOk a.policy a.frame)
      (a.source.replayOk a.policy a.frame) (ExternalInterface.controlAllowed a.policy a.frame)
  else 0

/-- The policy the evaluation leaves. -/
def policyAfter (a : Arrival) : IngressSecurityPolicy :=
  if a.policy.enabled then a.source.policyAfter a.policy a.frame else a.policy

def localTime (a : Arrival) : UInt32 := readLe32 a.frame.header.localTime

/-- The replay check has found it new. -/
def Accepted (a : Arrival) : Prop :=
  a.policy.enabled = true ∧ a.policy.requireReplayProtection = true ∧
    a.policy.Fresh a.source.index a.frame.header

instance (a : Arrival) : Decidable a.Accepted := inferInstanceAs (Decidable (_ ∧ _ ∧ _))

/-- What the adapter submits for it. -/
def submission (a : Arrival) (inputLen : ℕ) (linuxEpoch : UInt32) : Linux.Submission :=
  a.source.submission a.frame { received a.frame inputLen with trustFlags := a.flags } linuxEpoch

variable {a : Arrival} {inputLen : ℕ} {linuxEpoch frameId : UInt32} {shm : LinuxShm}

/-- **What an adapter does with a datagram it has decoded.** -/
theorem handleDatagram (hd : Decodes a.source.segment a.frame inputLen) :
    a.source.handleDatagram P a.policy linuxEpoch shm a.frame inputLen =
      (((a.submission inputLen linuxEpoch).run P shm).1, a.policyAfter,
        ((a.submission inputLen linuxEpoch).run P shm).2) := by
  have hsecured : a.source.applyIngressSecurity a.policy a.frame inputLen (received a.frame inputLen) =
      (.ok, { received a.frame inputLen with trustFlags := a.flags }, a.policyAfter) := by
    unfold flags policyAfter
    by_cases henabled : a.policy.enabled = true
    · rw [ExternalInterface.applyIngressSecurity_enabled hd henabled, if_pos henabled, if_pos henabled]
    · rw [ExternalInterface.applyIngressSecurity_disabled (by simpa using henabled), if_neg henabled,
        if_neg henabled]
      rfl
  exact ExternalInterface.handleDatagram_of_secured hd hsecured

/-- **No datagram is made an internal frame.** -/
theorem flags_not_internal (a : Arrival) :
    externalFlags a.flags &&& descriptorFlagInternalTrusted = 0 := by
  unfold flags
  split
  · have h := (externalFlags_earnedFlags (ExternalInterface.authOk a.policy a.frame)
      (ExternalInterface.integrityOk a.policy a.frame) (a.source.replayOk a.policy a.frame)
      (ExternalInterface.controlAllowed a.policy a.frame)).2.2.2.2
    simpa using h
  · decide

/-- A datagram that was vouched for passed the three checks. -/
theorem checks_of_vouched (h : Vouched (externalFlags a.flags)) :
    a.policy.enabled = true ∧ ExternalInterface.authOk a.policy a.frame = true ∧
      ExternalInterface.integrityOk a.policy a.frame = true ∧
      a.source.replayOk a.policy a.frame = true := by
  unfold flags at h
  by_cases henabled : a.policy.enabled = true
  · rw [if_pos henabled] at h
    obtain ⟨hauth, hintegrity, hreplay, -, -⟩ :=
      externalFlags_earnedFlags (ExternalInterface.authOk a.policy a.frame)
        (ExternalInterface.integrityOk a.policy a.frame) (a.source.replayOk a.policy a.frame)
        (ExternalInterface.controlAllowed a.policy a.frame)
    refine ⟨henabled, ?_, ?_, ?_⟩
    · rw [← hauth]
      exact bne_iff_ne.mpr h.auth
    · rw [← hintegrity]
      exact bne_iff_ne.mpr h.integrity
    · rw [← hreplay]
      exact bne_iff_ne.mpr h.replay
  · rw [if_neg henabled] at h
    exact absurd h not_vouched_zero

end Arrival

/-! ## Descriptors in flight -/

/-- Every RX descriptor and reference in flight has a property, and every
TX descriptor forwards one that has it. -/
structure Traced (A : Descriptor → Prop) (L : Ledger) : Prop where
  rx : ∀ i, ∀ r ∈ L.queues.rx i, A r
  references : ∀ f r, L.references f = some r → A r
  tx : ∀ i, ∀ d ∈ L.queues.tx i, ∃ r, A r ∧ d.Forwards r

namespace Traced

variable {A A' : Descriptor → Prop} {L L' : Ledger} {i : Fin 6} {f : Fin 64}

/-- **The RTOS keeps descriptors traced**: it takes them off the RX rings,
and forwards what it has taken. -/
theorem descends {taken : Fin 6 → List Descriptor} (h : Traced A L) (hdescends : Descends L L' taken) :
    Traced A L' := by
  have htaken : ∀ i, ∀ r ∈ taken i, A r := by
    intro i r hr
    exact h.rx i r (hdescends.rx i ▸ List.mem_append_left _ hr)
  have hknown : ∀ r, L.Knows taken r → A r := by
    rintro r (⟨f, href⟩ | ⟨i, hmem, -⟩)
    · exact h.references f r href
    · exact htaken i r hmem
  refine ⟨fun i r hr => ?_, fun f r href => ?_, fun i d hd => ?_⟩
  · exact h.rx i r (hdescends.rx i ▸ List.mem_append_right _ hr)
  · rcases hdescends.references f r href with href | ⟨i, hmem, -⟩
    · exact h.references f r href
    · exact htaken i r hmem
  · rcases hdescends.tx i d hd with hd | ⟨r, hr, hforwards⟩
    · exact h.tx i d hd
    · exact ⟨r, hknown r hr, hforwards⟩

/-- Linux takes TX descriptors, and publishes one RX descriptor at most. -/
theorem linux {q : Queues} (h : Traced A L) (htx : ∀ i, q.tx i ⊆ L.queues.tx i)
    (hrx : ∀ i, ∀ r ∈ q.rx i, r ∈ L.queues.rx i ∨ A r) : Traced A { L with queues := q } := by
  refine ⟨fun i r hr => ?_, h.references, fun i d hd => h.tx i d (htx i hd)⟩
  rcases hrx i r hr with hr | hr
  · exact h.rx i r hr
  · exact hr

/-- Only the descriptors of frames in flight matter. -/
theorem imp (h : Traced A L) (hL : L.Books)
    (himp : ∀ r, (∀ f, frameIndex? r.frameId = some f → 0 < inFlight L f) → A r → A' r) :
    Traced A' L := by
  refine ⟨fun i r hr => himp r (fun f hf => ?_) (h.rx i r hr), fun f r href =>
    himp r (fun g hg => ?_) (h.references f r href), fun i d hd => ?_⟩
  · exact inFlight_pos_of_rx hr (frameIndex?_eq_some.mp hf)
  · have hid := (hL.references f r href).1
    obtain rfl : g = f := frameIdOfIndex_inj.mp ((frameIndex?_eq_some.mp hg).symm.trans hid)
    exact inFlight_pos_of_reference href
  · obtain ⟨r, hr, hforwards⟩ := h.tx i d hd
    refine ⟨r, himp r (fun f hf => ?_) hr, hforwards⟩
    exact inFlight_pos_of_tx hd (hforwards.frameId.trans (frameIndex?_eq_some.mp hf))

end Traced

/-! ## Both cores and the policies -/

variable {ι : Type} {which : ExternalInterface → ι}

/-- The gateway, the policies of its adapters, and what is remembered of
the datagrams: those the replay checks have found new, in order, and the
one last submitted into each block. -/
structure Guarded (ι : Type) where
  gateway : Gateway
  policies : ι → IngressSecurityPolicy
  accepted : List Arrival
  holder : Fin 64 → Option Arrival

/-- A step of the gateway, or a datagram on an external interface. -/
inductive GuardedStep
  | plain (s : Step)
  | datagram (e : ExternalInterface) (input : Bytes) (inputLen : ℕ) (linuxEpoch : UInt32)

/-- The datagram that arrives at an adapter, under the policy of it. -/
def Guarded.arrival (G : Guarded ι) (which : ExternalInterface → ι) (e : ExternalInterface)
    (input : Bytes) : Arrival := ⟨e, input, G.policies (which e)⟩

/-- The datagrams found new, and the one in each block, after one more. -/
def Guarded.remember (G : Guarded ι) (a : Arrival) (inputLen : ℕ) (result : UnifiedError) :
    List Arrival × (Fin 64 → Option Arrival) :=
  match a.source.decode a.frame inputLen with
  | .error _ => (G.accepted, G.holder)
  | .ok _ =>
    (if a.Accepted then G.accepted ++ [a] else G.accepted,
      match (linuxShmFrameAlloc G.gateway.linux a.source.interface).2.1 with
      | some f => if result = .ok then Function.update G.holder f (some a) else G.holder
      | none => G.holder)

/-- `which` says which policy an adapter uses; adapters may share one. -/
def GuardedStep.run [DecidableEq ι] (which : ExternalInterface → ι) (P Q : Platform) (K : Clock)
    (G : Guarded ι) : GuardedStep → Guarded ι
  | .plain s => { G with gateway := s.run P Q K G.gateway }
  | .datagram e input inputLen linuxEpoch =>
    let r := e.handleDatagram P (G.policies (which e)) linuxEpoch G.gateway.shm input inputLen
    let remembered := G.remember (G.arrival which e input) inputLen r.1
    { gateway := G.gateway.withShm r.2.2
      policies := Function.update G.policies (which e) r.2.1
      accepted := remembered.1
      holder := remembered.2 }

/-- A step of a running system that publishes nothing for an external
interface. -/
def CommitsInternal : Step → Prop
  | .linux op => ∀ d, op.descriptor? = some d → sourceInterfaceIsExternal d.sourceInterface = false
  | .rtos _ => True
  | .restart _ => False

/-- The states a run reaches in which external frames arrive as datagrams
only. -/
inductive GuardedReaches [DecidableEq ι] (which : ExternalInterface → ι) (P Q : Platform) (K : Clock)
    (G : Guarded ι) : Guarded ι → Prop
  | start : GuardedReaches which P Q K G G
  | plain {G'} (h : GuardedReaches which P Q K G G') (s : Step) (hs : CommitsInternal s) :
      GuardedReaches which P Q K G ((GuardedStep.plain s).run which P Q K G')
  | datagram {G'} (h : GuardedReaches which P Q K G G') (e : ExternalInterface) (input : Bytes)
      (inputLen : ℕ) (linuxEpoch : UInt32) :
      GuardedReaches which P Q K G
        ((GuardedStep.datagram e input inputLen linuxEpoch).run which P Q K G')

/-- A start of both cores under given policies. -/
def guardedBoot (linuxEpoch rtosEpoch : UInt32) (shm : LinuxShm)
    (policies : ι → IngressSecurityPolicy) : Guarded ι :=
  ⟨boot linuxEpoch rtosEpoch shm, policies, [], fun _ => none⟩

/-! ## The invariant -/

/-- A descriptor of an external interface has the flags that the datagram
in its block has earned. -/
def StandsFor (holder : Fin 64 → Option Arrival) (r : Descriptor) : Prop :=
  sourceInterfaceIsExternal r.sourceInterface = true →
    ∃ f a, frameIndex? r.frameId = some f ∧ holder f = some a ∧
      r.sourceInterface = a.source.interface.toUInt8 ∧ r.flags = externalFlags a.flags

/-- Two policies that differ in their replay state at most. -/
def SameRules (policy policy' : IngressSecurityPolicy) : Prop :=
  ∃ lastSequence sequenceSeen,
    policy' = { policy with lastSequence := lastSequence, sequenceSeen := sequenceSeen }

theorem SameRules.refl (policy : IngressSecurityPolicy) : SameRules policy policy := ⟨_, _, rfl⟩

theorem SameRules.trans {policy policy' policy'' : IngressSecurityPolicy} (h : SameRules policy policy')
    (h' : SameRules policy' policy'') : SameRules policy policy'' := by
  obtain ⟨last, seen, rfl⟩ := h
  obtain ⟨last', seen', rfl⟩ := h'
  exact ⟨last', seen', rfl⟩

theorem Arrival.policyAfter_eq (a : Arrival) :
    a.policyAfter =
      if a.Accepted then a.policy.advance a.source.index a.frame.header else a.policy := by
  unfold Arrival.policyAfter Arrival.Accepted ExternalInterface.policyAfter
  by_cases henabled : a.policy.enabled = true
  · simp [henabled]
  · simp [henabled]

theorem Arrival.sameRules (a : Arrival) : SameRules a.policy a.policyAfter := by
  rw [a.policyAfter_eq]
  split
  · exact ⟨_, _, rfl⟩
  · exact .refl _

/-- The replay state remembers a datagram. -/
def Remembers (policies : ι → IngressSecurityPolicy) (which : ExternalInterface → ι)
    (b : Arrival) : Prop :=
  (policies (which b.source)).sequenceSeen b.source.index = true ∧
    b.localTime ≤ (policies (which b.source)).lastSequence b.source.index

/-- What a run keeps: every frame has one owner, descriptors in flight
stand for the datagrams in their blocks, and the datagrams found new have
grown in `local_time` on every interface. -/
structure GuardedInvariant (which : ExternalInterface → ι) (policies : ι → IngressSecurityPolicy)
    (G : Guarded ι) : Prop where
  exclusive : Exclusive G.gateway
  clean : G.gateway.linux.pool.Clean
  traced : Traced (StandsFor G.holder) (ledger G.gateway.rtos)
  rules : ∀ k, SameRules (policies k) (G.policies k)
  holders : ∀ f a, G.holder f = some a →
    SameRules (policies (which a.source)) a.policy ∧ (a.Accepted → a ∈ G.accepted)
  ordered : G.accepted.Pairwise fun b a => b.source = a.source → b.localTime < a.localTime
  remembered : ∀ b ∈ G.accepted, Remembers G.policies which b

variable {policies : ι → IngressSecurityPolicy} {G G' : Guarded ι}

theorem guardedInvariant_boot (linuxEpoch rtosEpoch : UInt32) (shm : LinuxShm) :
    GuardedInvariant which policies (guardedBoot linuxEpoch rtosEpoch shm policies) := by
  have hledger : ledger (boot linuxEpoch rtosEpoch shm).rtos =
      ⟨⟨fun _ => [], fun _ => [], []⟩, fun _ => none, [], [], {}⟩ := by
    rw [boot_rtos, ledger_contextInit, formatRegion_view]
  refine ⟨exclusive_boot linuxEpoch rtosEpoch shm, ?_, ?_, fun _ => .refl _, fun f a h => ?_, .nil,
    fun b hb => ?_⟩
  · exact Pool.clean_fresh
  · show Traced _ (ledger (boot linuxEpoch rtosEpoch shm).rtos)
    rw [hledger]
    exact ⟨by simp, by simp, by simp⟩
  · cases h
  · cases hb

/-- Ownership stays exclusive over a submission, whatever becomes of it. -/
theorem Exclusive.submission {g : Gateway} (h : Exclusive g) (hc : g.linux.pool.Clean)
    (submission : Linux.Submission) :
    Exclusive (g.withShm (submission.run P g.shm).2) ∧
      (submission.run P g.shm).2.ipc.pool.Clean := by
  have hstart : Exclusive (g.withShm g.shm) ∧ g.shm.ipc.pool.Clean := ⟨h, hc⟩
  refine Submission.run_keeps (P := P)
    (I := fun shm => Exclusive (g.withShm shm) ∧ shm.ipc.pool.Clean) ?_ submission hstart
  rintro op shm ⟨hexclusive, hclean⟩
  have hmoved : Moved op.descriptor? shm (op.run P shm) := op.moved P hexclusive.sound.valid
  exact ⟨hexclusive.linux op, hmoved.move.clean hclean⟩

/-- The blocks after a submission: the one it has filled holds its
datagram, and the others are not concerned. -/
theorem GuardedInvariant.submit (h : GuardedInvariant which policies G) (a : Arrival) (inputLen : ℕ)
    (linuxEpoch : UInt32) :
    let r := (a.submission inputLen linuxEpoch).run P G.gateway.shm
    let holder := match (linuxShmFrameAlloc G.gateway.linux a.source.interface).2.1 with
      | some f => if r.1 = .ok then Function.update G.holder f (some a) else G.holder
      | none => G.holder
    Traced (StandsFor holder) (ledger (withRegion G.gateway.rtos r.2.region)) ∧
      ∀ f b, holder f = some b → G.holder f = some b ∨ b = a := by
  intro r holder
  have hwell : (a.submission inputLen linuxEpoch).Wellformed a.source.index :=
    ExternalInterface.submission_wellformed
  have hclean : G.gateway.shm.ipc.pool.Clean := h.clean
  have hv : G.gateway.shm.region.Valid := h.exclusive.sound.valid
  by_cases hok : r.1 = .ok
  swap
  · -- nothing is published
    have hsame : holder = G.holder := by
      simp only [holder, if_neg hok]
      split
      · rfl
      · rfl
    rw [hsame]
    refine ⟨?_, fun f b hb => .inl hb⟩
    rcases Submission.run_cases P hwell hclean with ⟨-, hunchanged⟩ | ⟨hres, -⟩
    · have hview : r.2.region.view = G.gateway.shm.region.view := hunchanged.region.view hv
      rw [ledger_withRegion, hview]
      exact h.traced
    · exact absurd hres hok
  obtain ⟨f, ipc, halloc, -, -, hsubmitted, -⟩ := Submission.run_steps P hwell hclean hok
  have hholder : holder = Function.update G.holder f (some a) := by
    have halloc' : linuxShmFrameAlloc G.gateway.linux a.source.interface = (.ok, some f, ipc) := halloc
    simp only [holder, halloc', if_pos hok]
  rw [hholder]
  have hidle : inFlight (ledger G.gateway.rtos) f = 0 := by
    refine h.exclusive.owned.idle fun hqueued => ?_
    have hbit := (h.exclusive.owned.bit f).mpr (by rw [hqueued]; decide)
    exact absurd (hbit.symm.trans hsubmitted.free) (by decide)
  have hmoved : Traced (StandsFor (Function.update G.holder f (some a))) (ledger G.gateway.rtos) := by
    refine h.traced.imp h.exclusive.sound.books fun r hflight hr hexternal => ?_
    obtain ⟨g, b, hg, hb, hsource, hflags⟩ := hr hexternal
    have hne : g ≠ f := by
      rintro rfl
      exact absurd (hflight g hg) (by omega)
    exact ⟨g, b, hg, by rw [Function.update_of_ne hne, hb], hsource, hflags⟩
  have hnew : StandsFor (Function.update G.holder f (some a))
      ((a.submission inputLen linuxEpoch).commit (frameIdOfIndex f)).descriptor.sealed := by
    intro _
    refine ⟨f, a, hsubmitted.names, Function.update_self .., ?_, ?_⟩
    · rw [Descriptor.sourceInterface_sealed]
      rfl
    · rw [Descriptor.flags_sealed]
      rfl
  refine ⟨?_, fun g b hb => ?_⟩
  · rw [ledger_withRegion, hsubmitted.region.view hv]
    refine hmoved.linux (fun i => List.Subset.refl _) fun j r hr => ?_
    rw [Queues.setRx_rx] at hr
    split at hr
    · next hj =>
      subst hj
      rcases List.mem_append.mp hr with hr | hr
      · exact .inl hr
      · exact .inr (List.mem_singleton.mp hr ▸ hnew)
    · exact .inl hr
  · by_cases hg : g = f
    · subst hg
      rw [Function.update_self] at hb
      exact .inr (Option.some.inj hb).symm
    · rw [Function.update_of_ne hg] at hb
      exact .inl hb

variable [DecidableEq ι]

/-- **A step without a datagram.** -/
theorem GuardedInvariant.plain (h : GuardedInvariant which policies G) (hQ : Q.Succeeds) {s : Step}
    (hs : CommitsInternal s) :
    GuardedInvariant which policies ((GuardedStep.plain s).run which P Q K G) := by
  cases s with
  | restart => exact hs.elim
  | rtos op =>
    obtain ⟨-, -, -, es, hmoves, -⟩ := h.exclusive.sound.run (P := Q) (K := K) op
    obtain ⟨taken, hdescends⟩ := hmoves.descends h.exclusive.sound.books
    exact ⟨h.exclusive.rtos hQ op, h.clean, h.traced.descends hdescends, h.rules, h.holders, h.ordered,
      h.remembered⟩
  | linux op =>
    have hmoved : Moved op.descriptor? G.gateway.shm (op.run P G.gateway.shm) :=
      op.moved P h.exclusive.sound.valid
    refine ⟨h.exclusive.linux op, hmoved.move.clean h.clean, ?_, h.rules, h.holders, h.ordered,
      h.remembered⟩
    refine h.traced.linux hmoved.move.tx_subset fun i r hr => ?_
    rcases hmoved.move.mem_rx hr with hr | ⟨d, hd, rfl⟩
    · exact .inl hr
    · refine .inr fun hexternal => ?_
      rw [Descriptor.sourceInterface_sealed, hs d hd] at hexternal
      cases hexternal

/-- The replay state after one more datagram remembers it where it was
new, and those before it; and what was new is later than those. -/
theorem GuardedInvariant.remembers (h : GuardedInvariant which policies G) {a : Arrival}
    (ha : a.policy = G.policies (which a.source)) {b : Arrival} (hb : b ∈ G.accepted) :
    Remembers (Function.update G.policies (which a.source) a.policyAfter) which b ∧
      (a.Accepted → b.source = a.source → b.localTime < a.localTime) := by
  obtain ⟨hseen, hlast⟩ := h.remembered b hb
  have hlater : a.Accepted → b.source = a.source → b.localTime < a.localTime := by
    rintro ⟨-, -, hfresh⟩ hsource
    rw [hsource] at hseen hlast
    rw [ha] at hfresh
    exact UInt32.lt_of_le_of_lt hlast (hfresh hseen)
  refine ⟨?_, hlater⟩
  unfold Remembers
  -- only the policy of the arrival's own source changes
  by_cases hwhich : which b.source = which a.source
  swap
  · rw [Function.update_of_ne hwhich]
    exact ⟨hseen, hlast⟩
  rw [hwhich] at hseen hlast ⊢
  rw [Function.update_self, a.policyAfter_eq]
  rw [← ha] at hseen hlast
  by_cases haccepted : a.Accepted
  swap
  · rw [if_neg haccepted]
    exact ⟨hseen, hlast⟩
  rw [if_pos haccepted]
  simp only [IngressSecurityPolicy.advance]
  -- two sources of one policy have slots of their own
  by_cases hsource : b.source = a.source
  · rw [hsource, Function.update_self, Function.update_self]
    exact ⟨rfl, UInt32.le_of_lt (hlater haccepted hsource)⟩
  · have hindex : b.source.index ≠ a.source.index := fun h =>
      hsource (ExternalInterface.index_injective h)
    rw [Function.update_of_ne hindex, Function.update_of_ne hindex]
    exact ⟨hseen, hlast⟩

/-- A datagram that was new is remembered. -/
theorem Arrival.remembers {a : Arrival} (h : a.Accepted) :
    Remembers (Function.update G.policies (which a.source) a.policyAfter) which a := by
  unfold Remembers
  rw [Function.update_self, a.policyAfter_eq, if_pos h]
  simp only [IngressSecurityPolicy.advance, Function.update_self]
  exact ⟨trivial, UInt32.le_refl _⟩

/-- The rules of the policies stay. -/
theorem GuardedInvariant.sameRules (h : GuardedInvariant which policies G) {a : Arrival}
    (ha : a.policy = G.policies (which a.source)) (k : ι) :
    SameRules (policies k) (Function.update G.policies (which a.source) a.policyAfter k) := by
  by_cases hk : k = which a.source
  · subst hk
    rw [Function.update_self]
    refine (h.rules _).trans ?_
    rw [← ha]
    exact a.sameRules
  · rw [Function.update_of_ne hk]
    exact h.rules k

/-- **A datagram.** -/
theorem GuardedInvariant.datagram (h : GuardedInvariant which policies G) (e : ExternalInterface)
    (input : Bytes) (inputLen : ℕ) (linuxEpoch : UInt32) :
    GuardedInvariant which policies
      ((GuardedStep.datagram e input inputLen linuxEpoch).run which P Q K G) := by
  cases hdecode : e.decode input inputLen with
  | error err =>
    -- nothing happens
    have hsame : (GuardedStep.datagram e input inputLen linuxEpoch).run which P Q K G = G := by
      simp only [GuardedStep.run, Guarded.remember, Guarded.arrival, ExternalInterface.handleDatagram,
        hdecode, Function.update_eq_self]
      rfl
    rw [hsame]
    exact h
  | ok rx =>
  obtain ⟨hd, rfl⟩ := ExternalInterface.decode_eq_ok_iff.mp hdecode
  let a : Arrival := G.arrival which e input
  have hpolicy : a.policy = G.policies (which a.source) := rfl
  obtain ⟨hexclusive, hclean⟩ :=
    h.exclusive.submission (P := P) h.clean (a.submission inputLen linuxEpoch)
  obtain ⟨htraced, hholders⟩ := h.submit (P := P) a inputLen linuxEpoch
  have hhandle : e.handleDatagram P (G.policies (which e)) linuxEpoch G.gateway.shm input inputLen =
      (((a.submission inputLen linuxEpoch).run P G.gateway.shm).1, a.policyAfter,
        ((a.submission inputLen linuxEpoch).run P G.gateway.shm).2) :=
          Arrival.handleDatagram (a := a) hd
  have hdecoded : (G.arrival which e input).source.decode (G.arrival which e input).frame inputLen =
      .ok (received input inputLen) := hdecode
  simp only [GuardedStep.run, hhandle, Guarded.remember, hdecoded]
  refine ⟨hexclusive, hclean, htraced, h.sameRules hpolicy, fun f b hb => ?_, ?_, fun b hb => ?_⟩
  · -- what a block holds is as before, or the datagram
    rcases hholders f b hb with hb | rfl
    · obtain ⟨hrules, haccepted⟩ := h.holders f b hb
      refine ⟨hrules, fun hnew => ?_⟩
      split
      · exact List.mem_append_left _ (haccepted hnew)
      · exact haccepted hnew
    · refine ⟨h.rules _, fun hnew => ?_⟩
      rw [if_pos hnew]
      exact List.mem_append_right _ (List.mem_singleton_self _)
  · -- what is new is later than what was
    by_cases hnew : a.Accepted
    · rw [if_pos hnew]
      refine List.pairwise_append.mpr ⟨h.ordered, List.pairwise_singleton _ _, fun b hb x hx => ?_⟩
      obtain rfl := List.mem_singleton.mp hx
      exact (h.remembers hpolicy hb).2 hnew
    · rw [if_neg hnew]
      exact h.ordered
  · by_cases hnew : a.Accepted
    · rw [if_pos hnew] at hb
      rcases List.mem_append.mp hb with hb | hb
      · exact (h.remembers hpolicy hb).1
      · obtain rfl := List.mem_singleton.mp hb
        exact Arrival.remembers hnew
    · rw [if_neg hnew] at hb
      exact (h.remembers hpolicy hb).1

theorem GuardedReaches.invariant (hQ : Q.Succeeds) {G₀ : Guarded ι}
    (hstart : GuardedInvariant which policies G₀) (h : GuardedReaches which P Q K G₀ G) :
    GuardedInvariant which policies G := by
  induction h with
  | start => exact hstart
  | plain _ s hs ih => exact ih.plain hQ hs
  | datagram _ e input inputLen linuxEpoch ih => exact ih.datagram e input inputLen linuxEpoch

/-! ## The gate -/

/-- A policy that asks for everything. -/
structure Strict (policy : IngressSecurityPolicy) : Prop where
  enabled : policy.enabled = true
  authentication : policy.requireAuthentication = true
  integrity : policy.requireIntegrity = true
  replay : policy.requireReplayProtection = true

/-- The frame of a descriptor is the datagram `a` last submitted into its
block; `a` matches both credentials of a policy, and its `local_time` is
larger than that of every datagram of its interface found new before it. -/
structure Admitted (policy : IngressSecurityPolicy) (G : Guarded ι) (d : Descriptor) (a : Arrival) :
    Prop where
  held : ∃ f, frameIndex? d.frameId = some f ∧ G.holder f = some a
  source : d.sourceInterface = a.source.interface.toUInt8
  auth : verifySliceMatches a.frame.header ingressSecurityAuthTokenOffset policy.authToken = true
  integrity : verifySliceMatches a.frame.header ingressSecurityIntegrityTagOffset
    policy.integrityTag = true
  later : ∃ before after, G.accepted = before ++ a :: after ∧
    ∀ b ∈ before, b.source = a.source → b.localTime < a.localTime

omit [DecidableEq ι] in
/-- **What is sent of an external frame was admitted.** -/
theorem GuardedInvariant.admitted (h : GuardedInvariant which policies G) {i : Fin 6} {d : Descriptor}
    (hd : d ∈ G.gateway.region.view.tx i)
    (hexternal : sourceInterfaceIsExternal d.sourceInterface = true)
    (hstrict : ∀ e : ExternalInterface, d.sourceInterface = e.interface.toUInt8 →
      Strict (policies (which e))) : ∃ a, Admitted (policies (which a.source)) G d a := by
  obtain ⟨r, hr, hforwards⟩ := h.traced.tx i d hd
  rw [hforwards.source] at hexternal
  obtain ⟨f, a, hf, hholder, hsource, hflags⟩ := hr hexternal
  have hdsource : d.sourceInterface = a.source.interface.toUInt8 := hforwards.source.trans hsource
  obtain ⟨henabled, hauth, hintegrity, hreplay⟩ := hstrict a.source hdsource
  -- the router forwards an external frame only when the flags vouch for it
  have hvouched : Vouched (externalFlags a.flags) := by
    rw [← hflags]
    rcases (mayPass_of_forwards hforwards).1 with hinternal | ⟨hvouched, -⟩
    · rw [hflags] at hinternal
      exact absurd a.flags_not_internal hinternal
    · exact hvouched
  obtain ⟨hon, hauthOk, hintegrityOk, hreplayOk⟩ := Arrival.checks_of_vouched hvouched
  obtain ⟨⟨last, seen, hpolicy⟩, hmem⟩ := h.holders f a hholder
  simp only [ExternalInterface.authOk, ExternalInterface.integrityOk, ExternalInterface.replayOk,
    hpolicy, hauth, hintegrity, hreplay, Bool.not_true, Bool.false_or] at hauthOk hintegrityOk hreplayOk
  have haccepted : a.Accepted := by
    refine ⟨hon, by rw [hpolicy]; exact hreplay, ?_⟩
    rw [hpolicy]
    exact of_decide_eq_true hreplayOk
  -- the accepted are newest first, so what follows came earlier
  obtain ⟨before, after, hsplit⟩ := List.append_of_mem (hmem haccepted)
  refine ⟨a, ⟨⟨f, ?_, hholder⟩, hdsource, hauthOk, hintegrityOk,
    ⟨before, after, hsplit, fun b hb => ?_⟩⟩⟩
  · rw [hforwards.frameId]
    exact hf
  · have hordered := h.ordered
    rw [hsplit] at hordered
    exact (List.pairwise_append.mp hordered).2.2 b hb a List.mem_cons_self

/-- What the adapter of an external interface commits is no internal frame. -/
theorem committed_not_internal {e : ExternalInterface} {policy policy' : IngressSecurityPolicy}
    {input : Bytes} {inputLen : ℕ} {rx secured : AdapterRxResult}
    (hdecode : e.decode input inputLen = .ok rx)
    (hsecured : e.applyIngressSecurity policy input inputLen rx = (.ok, secured, policy'))
    (linuxEpoch frameId : UInt32) :
    (committed e input secured linuxEpoch frameId).flags &&& descriptorFlagInternalTrusted = 0 := by
  obtain ⟨hd, rfl⟩ := ExternalInterface.decode_eq_ok_iff.mp hdecode
  have hflags : secured.trustFlags = Arrival.flags ⟨e, input, policy⟩ := by
    unfold Arrival.flags
    rcases applyIngressSecurity_cases hd hsecured with ⟨hoff, rfl⟩ | ⟨henabled, -, rfl⟩
    · rw [if_neg (by simp [hoff])]
      rfl
    · rw [if_pos henabled]
  have hcommitted : (committed e input secured linuxEpoch frameId).flags =
      externalFlags secured.trustFlags := by
    rw [committed, Descriptor.flags_sealed]
    rfl
  rw [hcommitted, hflags]
  exact Arrival.flags_not_internal _

/-- **The security gate, end to end.** Whatever arrives on the RX rings, an
operation of the RTOS writes a TX descriptor only for a frame whose RX
descriptor may pass. The adapters of the external interfaces make no frame
an internal one. And where they are the only ones to commit frames of
these interfaces, in every run of both cores from a start, with platform
calls of the RTOS that succeed, a frame of an interface whose policy asks
for everything is on a TX ring only if it matches both credentials and is
later than what the policy has found new on its interface before. -/
theorem security_gate {P Q : Platform} {K : Clock} {ι : Type} [DecidableEq ι]
    {which : ExternalInterface → ι} :
    (∀ seen c, Reaches P K seen c → ∀ (op : Rtos.Operation) i, ∀ d ∈ writtenTx c (op.run P K c) i,
      ∃ j r, r ∈ seen j ++ takenRx c (op.run P K c) j ∧ Acceptable j r ∧ d.Forwards r ∧ MayPass r) ∧
    (∀ (e : ExternalInterface) policy input inputLen rx secured policy',
      e.decode input inputLen = .ok rx →
      e.applyIngressSecurity policy input inputLen rx = (.ok, secured, policy') →
      ∀ linuxEpoch frameId,
        (committed e input secured linuxEpoch frameId).flags &&& descriptorFlagInternalTrusted = 0) ∧
    (∀ policies linuxEpoch rtosEpoch shm (G : Guarded ι), Q.Succeeds →
      GuardedReaches which P Q K (guardedBoot linuxEpoch rtosEpoch shm policies) G →
      ∀ i, ∀ d ∈ G.gateway.region.view.tx i, sourceInterfaceIsExternal d.sourceInterface = true →
        (∀ e : ExternalInterface, d.sourceInterface = e.interface.toUInt8 →
          Strict (policies (which e))) →
        ∃ a, Admitted (policies (which a.source)) G d a) := by
  refine ⟨fun seen c h op i d hd => writtenTx_mayPass h op hd,
    fun e policy input inputLen rx secured policy' hdecode hsecured linuxEpoch frameId =>
      committed_not_internal hdecode hsecured linuxEpoch frameId, ?_⟩
  intro policies linuxEpoch rtosEpoch shm G hQ hreach i d hd hexternal hstrict
  have hinvariant := hreach.invariant hQ (guardedInvariant_boot linuxEpoch rtosEpoch shm)
  exact hinvariant.admitted hd hexternal hstrict

/-- A frame from Ethernet to Wi-Fi with both credentials, of type `0x49`. -/
def vouchedFrame : Bytes
  | 38 => 0x49
  | k => bareFrame 0x40 0x60 k

/-- It arrives at a gateway just started, and the RTOS sends it. -/
def vouchedSent : Guarded Unit :=
  [GuardedStep.datagram .ethernet vouchedFrame 40 1, .plain (.rtos (.eventTask .doorbell)),
    .plain (.rtos (.schedulerTask 1))].foldl
      (GuardedStep.run (fun _ => ()) .defaultOps .defaultOps fun _ => 0)
      (guardedBoot 1 1 ⟨{}, formatRegion 0 0, 0⟩ fun _ => strictPolicy)

set_option maxRecDepth 100000 in
/-- The frame is on the TX ring of Wi-Fi, and was admitted. -/
theorem security_gate_vouched :
    ∃ d ∈ vouchedSent.gateway.region.view.tx 2, ∃ a, Admitted strictPolicy vouchedSent d a := by
  have hsent : ∃ d ∈ vouchedSent.gateway.region.view.tx 2,
      sourceInterfaceIsExternal d.sourceInterface = true := by
    decide +kernel
  obtain ⟨d, hd, hexternal⟩ := hsent
  have hreach : GuardedReaches (fun _ => ()) .defaultOps .defaultOps (fun _ => 0)
      (guardedBoot 1 1 ⟨{}, formatRegion 0 0, 0⟩ fun _ => strictPolicy) vouchedSent :=
    ((GuardedReaches.start.datagram .ethernet vouchedFrame 40 1).plain
      (.rtos (.eventTask .doorbell)) trivial).plain (.rtos (.schedulerTask 1)) trivial
  exact ⟨d, hd, security_gate.2.2 (fun _ => strictPolicy) 1 1 ⟨{}, formatRegion 0 0, 0⟩ vouchedSent
    Platform.defaultOps_succeeds hreach 2 d hd hexternal fun _ _ => ⟨rfl, rfl, rfl, rfl⟩⟩

end System

end PutGateway
