import PutGateway.Rtos.Bookkeeping
import PutGateway.Rtos.Frozen
/-!
# Recovery

From the moment the tasks are in recovery until they are normal again
nothing is taken off an RX ring and nothing is put on a TX ring, every
frame that was held is written to the reclaim ring exactly once, and what
the tasks come back to is empty and bears the epoch of the region.

On the ledger this is one law: a sequence of moves that touches no RX and
no TX ring writes a reclaim for each reference it removes, and removes
none otherwise.
-/

namespace PutGateway

namespace Rtos

/-! ## Moves off the RX and TX rings -/

/-- As many descriptors wait on each RX and each TX ring. -/
structure Ledger.SameTraffic (L L' : Ledger) : Prop where
  rx : ∀ i, (L'.queues.rx i).length = (L.queues.rx i).length
  tx : ∀ i, (L'.queues.tx i).length = (L.queues.tx i).length

/-- How often a frame is named by reclaim descriptors. -/
def returns (ds : List ReclaimDescriptor) (f : Fin 64) : ℕ :=
  (ds.map ReclaimDescriptor.frameId).count (frameIdOfIndex f)

theorem returns_append (ds ds' : List ReclaimDescriptor) (f : Fin 64) :
    returns (ds ++ ds') f = returns ds f + returns ds' f := by
  simp only [returns, List.map_append, List.count_append]

theorem returns_singleton {d : ReclaimDescriptor} {g : Fin 64} (hid : d.frameId = frameIdOfIndex g)
    (f : Fin 64) : returns [d] f = if f = g then 1 else 0 := by
  simp only [returns, List.map_cons, List.map_nil, hid, List.count_singleton, beq_iff_eq,
    frameIdOfIndex_inj, eq_comm (a := g)]

/-- Whether a frame has a reference, as a number. -/
def Ledger.referenced (L : Ledger) (f : Fin 64) : ℕ := if (L.references f).isSome then 1 else 0

/-- `L'` comes from `L` by writing a reclaim for every reference that is
gone, and for no other frame. -/
def ReturnsOnce (L L' : Ledger) : Prop :=
  ∃ ds, L'.queues.reclaim = L.queues.reclaim ++ ds ∧
    ∀ f, L.referenced f = L'.referenced f + returns ds f

variable {L L' L'' : Ledger} {e : Event} {es : List Event}

theorem ReturnsOnce.of_eq (hreclaim : L'.queues.reclaim = L.queues.reclaim)
    (href : L'.references = L.references) : ReturnsOnce L L' := by
  refine ⟨[], by rw [hreclaim, List.append_nil], fun f => ?_⟩
  unfold Ledger.referenced
  rw [href]
  rfl

theorem ReturnsOnce.trans (h : ReturnsOnce L L') (h' : ReturnsOnce L' L'') : ReturnsOnce L L'' := by
  obtain ⟨ds, hds, href⟩ := h
  obtain ⟨ds', hds', href'⟩ := h'
  refine ⟨ds ++ ds', by rw [hds', hds, List.append_assoc], fun f => ?_⟩
  have hf := href f
  have hf' := href' f
  rw [returns_append]
  omega

/-- A reclaim is written for the reference that goes. -/
theorem ReturnsOnce.clear {g : Fin 64} {r : Descriptor} {d : ReclaimDescriptor}
    (hreclaim : L'.queues.reclaim = L.queues.reclaim ++ [d])
    (href : L'.references = Function.update L.references g none) (hknown : L.references g = some r)
    (hid : d.frameId = frameIdOfIndex g) : ReturnsOnce L L' := by
  refine ⟨[d], hreclaim, fun f => ?_⟩
  rw [returns_singleton hid]
  unfold Ledger.referenced
  rw [href]
  by_cases hf : f = g
  · subst hf
    simp [hknown]
  · simp [hf]

/-- RX rings get no longer and TX rings no shorter. -/
theorem Move.traffic (h : Move L e L') (i : Fin 6) :
    (L'.queues.rx i).length ≤ (L.queues.rx i).length ∧
      (L.queues.tx i).length ≤ (L'.queues.tx i).length := by
  have htake : ∀ {j : Fin 6} {d : Descriptor} {rest : List Descriptor},
      L.queues.rx j = d :: rest → ((L.queues.setRx j rest).rx i).length ≤ (L.queues.rx i).length := by
    intro j d rest hrx
    rw [Queues.setRx_rx]
    split
    · next hi =>
      subst hi
      simp [hrx]
    · exact le_refl _
  have hput : ∀ (j : Fin 6) (d : Descriptor),
      (L.queues.tx i).length ≤ ((L.queues.setTx j (L.queues.tx j ++ [d])).tx i).length := by
    intro j d
    rw [Queues.setTx_tx]
    split
    · next hi =>
      subst hi
      simp
    · exact le_refl _
  cases h with
  | refuse hrx => exact ⟨htake hrx, le_refl _⟩
  | duplicate hrx => exact ⟨htake hrx, le_refl _⟩
  | receive _ _ hrx => exact ⟨htake hrx, le_refl _⟩
  | lose hrx => exact ⟨htake hrx, le_refl _⟩
  | send => exact ⟨le_refl _, hput _ _⟩
  | straySend => exact ⟨le_refl _, hput _ _⟩
  | _ => exact ⟨le_refl _, le_refl _⟩

theorem Moves.traffic (h : Moves L es L') (i : Fin 6) :
    (L'.queues.rx i).length ≤ (L.queues.rx i).length ∧
      (L.queues.tx i).length ≤ (L'.queues.tx i).length := by
  induction h with
  | refl => exact ⟨le_refl _, le_refl _⟩
  | snoc _ hmove ih =>
    obtain ⟨hrx, htx⟩ := hmove.traffic i
    exact ⟨hrx.trans ih.1, ih.2.trans htx⟩

/-- **A move off the RX and TX rings** writes a reclaim for the reference
it removes. -/
theorem Move.returnsOnce (h : Move L e L') (hL : L.Books) (hfault : ¬ e.IsFault)
    (hsame : L.SameTraffic L') : ReturnsOnce L L' := by
  have hshorter : ∀ {j : Fin 6} {d : Descriptor} {rest : List Descriptor},
      L.queues.rx j = d :: rest → L'.queues = L.queues.setRx j rest → False := by
    intro j d rest hrx hqueues
    have hlen := hsame.rx j
    rw [hqueues, Queues.setRx_rx_same, hrx, List.length_cons] at hlen
    omega
  cases h with
  | refuse hrx => exact (hshorter hrx rfl).elim
  | duplicate hrx => exact (hshorter hrx rfl).elim
  | receive _ _ hrx => exact (hshorter hrx rfl).elim
  | @send x rest f d j nowMs =>
    have hlen := hsame.tx j
    simp at hlen
  | reclaim hheld hid hf href =>
    exact .clear rfl rfl href (hid.trans (frameIndex?_eq_some.mp hf))
  | @thaw o rest f hpending hf =>
    obtain ⟨g, d, hid, href, -⟩ := hL.frozen o (by rw [hpending]; exact List.mem_cons_self)
    obtain rfl : f = g := frameIdOfIndex_inj.mp ((frameIndex?_eq_some.mp hf).symm.trans hid)
    exact .clear rfl rfl href hid
  | lose => exact absurd trivial hfault
  | straySend => exact absurd trivial hfault
  | strayReclaim => exact absurd trivial hfault
  | strayThaw => exact absurd trivial hfault
  | abandon => exact absurd trivial hfault
  | _ => exact .of_eq rfl rfl

/-- **Moves off the RX and TX rings** write one reclaim for each reference
they remove. -/
theorem Moves.returnsOnce (h : Moves L es L') (hL : L.Books) (hfault : ∀ e ∈ es, ¬ e.IsFault)
    (hsame : L.SameTraffic L') : ReturnsOnce L L' := by
  induction h with
  | refl => exact .of_eq rfl rfl
  | @snoc L' L'' es e hmoves hmove ih =>
    -- the lengths in between are caught between those at the ends
    have hbetween : L.SameTraffic L' ∧ L'.SameTraffic L'' := by
      have hrx : ∀ i, (L''.queues.rx i).length = (L'.queues.rx i).length ∧
          (L'.queues.rx i).length = (L.queues.rx i).length := by
        intro i
        have h1 := (hmoves.traffic i).1
        have h2 := (hmove.traffic i).1
        have h3 := hsame.rx i
        omega
      have htx : ∀ i, (L''.queues.tx i).length = (L'.queues.tx i).length ∧
          (L'.queues.tx i).length = (L.queues.tx i).length := by
        intro i
        have h1 := (hmoves.traffic i).2
        have h2 := (hmove.traffic i).2
        have h3 := hsame.tx i
        omega
      exact ⟨⟨fun i => (hrx i).2, fun i => (htx i).2⟩, ⟨fun i => (hrx i).1, fun i => (htx i).1⟩⟩
    have hfirst := ih (fun e he => hfault e (List.mem_append_left _ he)) hbetween.1
    have hlast := hmove.returnsOnce (hmoves.books hL) (hfault e (by simp)) hbetween.2
    exact hfirst.trans hlast

/-! ## Intact regions -/

/-- A region that passes all the checks of attaching. -/
structure Intact (R : Region) : Prop where
  valid : R.Valid
  header : validateRegionHeader R.header = .ok

theorem Intact.attach {shm : RtosShm} (h : Intact shm.region) : (rtosShmIpcAttach shm).1 = .ok := by
  rw [rtosShmIpcAttach_of_valid h.header h.valid]

/-- The error monitor checks less than attaching does. -/
theorem Intact.monitorAccepts {R : Region} (h : Intact R) : monitorAccepts R = true := by
  have hheader : shmRegionHeaderIsValid R = true := by
    have hchecks := h.header
    unfold validateRegionHeader at hchecks
    split at hchecks
    · cases hchecks
    next hok =>
    simp only [Bool.or_eq_true, decide_eq_true_eq, not_or, not_not] at hok
    simp [shmRegionHeaderIsValid, hok.1.1.1, hok.1.1.2, hok.1.2, hok.2]
  have hring : ∀ {ring : DescriptorRing} {kind : RingKind} {direction : Direction} {i : Fin 6},
      ring.Abi kind direction → ring.header.interfaceId = UInt8.ofNat i →
        descriptorRingHeaderIsValid ring kind (UInt8.ofNat i) direction = true := by
    intro ring kind direction i habi hid
    simp [descriptorRingHeaderIsValid, habi.magic, habi.version, habi.headerDepth,
      habi.headerDescriptorSize, habi.ringKind, habi.direction, hid]
  have hrings : shmRingHeadersAreValid R = true := by
    have hreclaim : reclaimRingHeaderIsValid R.reclaimRing = true := by
      have habi := h.valid.reclaim
      simp [reclaimRingHeaderIsValid, habi.magic, habi.version, habi.headerDepth,
        habi.headerDescriptorSize, habi.ringKind]
    unfold shmRingHeadersAreValid
    rw [hreclaim, Bool.and_true, List.all_eq_true]
    intro i _
    rw [hring (h.valid.rx i) (h.valid.rxInterface i), hring (h.valid.tx i) (h.valid.txInterface i)]
    rfl
  rw [Rtos.monitorAccepts, hheader, hrings]
  rfl

/-! ## A stage of a recovery -/

/-- What the tasks come back to when a recovery is done. -/
structure Resynchronised (c : TasksContext) : Prop where
  references : ∀ f, (c.host.frameReferences f).inUse = false
  pending : c.host.pendingReclaims = []
  queue : c.router.queue.items = []
  routes : c.router.routeTable.valid = true
  endpoints : ∀ i, c.router.endpointHeartbeat.entries i = {}
  routerEpoch : c.router.currentLinuxEpoch = c.host.ipc.region.header.linuxEpoch
  lastEpoch : c.host.lastLinuxEpoch = c.host.ipc.region.header.linuxEpoch

variable {P : Platform} {K : Clock} {c c' : TasksContext} {t : Tasks} {cfg : Config}

/-- A retry in the course of a recovery goes on with it. -/
theorem retry_isRecovering {budget : UInt32} (hstate : t.state.IsRecovering) (hr : t.Recovering) :
    (rtosTasksRetryPendingReclaims P K t budget).2.state.IsRecovering := by
  obtain ⟨-, ⟨-, heq⟩ | ⟨-, heq | heq⟩⟩ :=
    rtosTasksRetryPendingReclaims_cases (P := P) (K := K) t budget
  · rw [heq, if_pos hr]
    exact .inl rfl
  · rw [heq]
    exact hstate
  · rw [heq]
    rcases retryBlockedState_cases t.state with ⟨-, hb⟩ | ⟨hn, -⟩
    · rw [hb]
      exact .inr rfl
    · exact absurd hstate hn

/-- Nothing queued and nothing frozen: nothing is referenced. -/
theorem no_reference (hbalanced : (ledger c).Balanced) (hqueue : c.router.queue.items = [])
    (hpending : c.host.pendingReclaims = []) (f : Fin 64) :
    (c.host.frameReferences f).inUse = false := by
  by_contra hinUse
  rw [Bool.not_eq_false] at hinUse
  have hmem := hbalanced f _ (FrameReference.descriptor?_eq_some.mpr ⟨hinUse, rfl⟩)
  rw [ids_ledger, queuedIds, pendingIds, hqueue, hpending] at hmem
  exact List.not_mem_nil hmem

/-- Every reference is frozen, and nothing is frozen: there is none. -/
theorem not_inUse_of_claimed (hclaimed : unclaimedFrameReferenceExists t = false)
    (hpending : t.pendingReclaims = []) (f : Fin 64) : (t.frameReferences f).inUse = false := by
  unfold unclaimedFrameReferenceExists at hclaimed
  have hf := List.any_eq_false.mp hclaimed f (List.mem_finRange f)
  simpa [pendingReclaimExists, hpending] using hf

/-- **The recovery task** goes on, or finds nothing left to give back and
comes back to the normal state. -/
theorem rtosRecoveryTaskRunOnce_ends {budget : UInt32}
    (hon : c.host.state = .recovery ∨ c.host.Recovering)
    (hintact : Intact (rtosRecoveryTaskRunOnce P K c budget).2.host.ipc.region) :
    let c' := (rtosRecoveryTaskRunOnce P K c budget).2
    c'.host.state.IsRecovering ∨ (c'.host.state = .normal ∧ Resynchronised c') := by
  rcases rtosRecoveryTaskRunOnce_cases P K c budget with
    ⟨hstate, hnone, -⟩ | ⟨-, ⟨-, heq⟩ | ⟨-, -, heq⟩ | ⟨hpending, hqueue, hclaimed, heq⟩⟩
  · exact absurd hon (not_or.mpr ⟨hstate, hnone⟩)
  · simp only [heq]
    exact .inl (.inr rfl)
  · simp only [heq]
    exact .inl (.inl rfl)
  rw [heq] at hintact
  simp only [heq]
  obtain ⟨hqueue', hpending', hreferences, hregion⟩ := finishRecovery_frames K (recoveredFrames P K c budget)
  rcases finishRecovery_cases K (recoveredFrames P K c budget) with
    ⟨hfail, -⟩ | ⟨-, hnormal, -, hlast, hepoch, hroutes, hendpoints⟩
  · rw [hregion] at hintact
    exact absurd hintact.attach hfail
  · have hitems := (congrArg PriorityQueue.items hqueue').trans hqueue
    refine .inr ⟨hnormal, fun f => ?_, hpending'.trans hpending, hitems, hroutes, hendpoints, ?_, ?_⟩
    · rw [hreferences]
      exact not_inUse_of_claimed hclaimed hpending f
    · rw [hregion]
      exact hepoch
    · rw [hregion]
      exact hlast

/-- **A stage of a recovery** goes on with it, or brings the tasks back to
the normal state with everything given back. -/
theorem Config.stage_recovers (hP : P.Succeeds) (hgoverned : Governed cfg.tasks)
    (hstate : cfg.tasks.host.state.IsRecovering) (hintact : Intact cfg.tasks.host.ipc.region)
    (s : Stage) (hintact' : Intact (cfg.stage P K s).2.2.host.ipc.region) :
    cfg.tasks.host.Quiet (cfg.stage P K s).2.2.host ∧
      ((cfg.stage P K s).2.2.host.state.IsRecovering ∨
        ((cfg.stage P K s).2.2.host.state = .normal ∧ Resynchronised (cfg.stage P K s).2.2)) := by
  have hnot : cfg.tasks.host.state ≠ .normal := by
    intro hnormal
    rw [hnormal] at hstate
    rcases hstate with h | h <;> cases h
  have hr := hgoverned.recovering hstate
  -- the monitor asks for recovery again, or leaves things as they are
  have hmonitor : ∀ c : TasksContext, c.host.ipc.region = cfg.tasks.host.ipc.region →
      c.host.state.IsRecovering → (rtosErrorMonitorTaskRunOnce K c).2.host.state.IsRecovering := by
    intro c hregion hc
    obtain ⟨-, -, ⟨hbad, -⟩ | ⟨-, -, heq, -⟩ | ⟨-, -, hsame⟩⟩ := rtosErrorMonitorTaskRunOnce_control K c
    · rw [hregion, hintact.monitorAccepts] at hbad
      cases hbad
    · rw [heq]
      exact .inl rfl
    · rw [hsame.state]
      exact hc
  have hquiet : s ≠ .event → s ≠ .scheduler → cfg.tasks.host.Quiet (cfg.stage P K s).2.2.host :=
    Config.stage_quiet P K cfg
  -- the only stages that can come back to normal run the recovery task
  have hrecover : ∀ r, recoverFirst P K cfg.runtime.recoveryBudget cfg.tasks = r →
      Intact r.2.host.ipc.region →
        r.2.host.state.IsRecovering ∨ (r.2.host.state = .normal ∧ Resynchronised r.2) := by
    rintro r rfl
    unfold recoverFirst
    split
    · exact rtosRecoveryTaskRunOnce_ends (.inr hr)
    · exact fun _ => .inl hstate
  cases s with
  | preflight =>
    refine ⟨hquiet (by simp) (by simp), .inl ?_⟩
    rcases Config.preflightBeforeRxDrain_cases P K cfg.tasks with
      ⟨hfail, -⟩ | ⟨-, -, -, heq⟩ | ⟨-, -, heq⟩
    · exact absurd (hP _) hfail
    · simp only [Config.stage, heq]
      exact hstate
    · simp only [Config.stage, heq]
      exact hmonitor (Config.called cfg.tasks) rfl hstate
  | retry =>
    refine ⟨hquiet (by simp) (by simp), .inl ?_⟩
    simp only [Config.stage]
    unfold retryFirst
    split
    · exact retry_isRecovering hstate hr
    · exact hstate
  | recovery => exact ⟨hquiet (by simp) (by simp), hrecover _ rfl hintact'⟩
  | supervision => exact ⟨hquiet (by simp) (by simp), hrecover _ rfl hintact'⟩
  | event =>
    simp only [Config.stage]
    unfold drainAllowed
    split
    swap
    · exact ⟨.refl _, .inl hstate⟩
    -- a drain is refused in recovery: it retries what is frozen, or returns
    rcases rtosIpcEventTaskRunOnce_cases P K cfg.tasks (mapIpcTrigger cfg.trigger) with
      ⟨hnormal, -⟩ | ⟨-, t, ht, ⟨-, heq⟩ | ⟨-, heq⟩⟩
    · exact absurd hnormal hnot
    · rw [heq]
      refine ⟨ht.quiet, .inl ?_⟩
      rw [show ({ cfg.tasks with host := t } : TasksContext).host.state = _ from ht.state]
      exact hstate
    · rw [heq]
      have hretried := (rtosTasksRetryPendingReclaims_cases (P := P) (K := K) t 64).1
      refine ⟨ht.quiet.trans hretried.toQuiet, .inl (retry_isRecovering ?_ ?_)⟩
      · rw [ht.state]
        exact hstate
      · exact (Tasks.Recovering.iff_of_eq ht.recovery).mpr hr
  | scheduler =>
    simp only [Config.stage]
    rcases rtosRouterSchedulerTaskRunOnce_cases P K cfg.tasks cfg.runtime.schedulerBudget with
      ⟨-, heq⟩ | ⟨-, -, heq⟩ | ⟨-, hnormal, -⟩
    · rw [heq]
      have hretried := (rtosTasksRetryPendingReclaims_cases (P := P) (K := K) cfg.tasks.host
        cfg.runtime.schedulerBudget).1
      exact ⟨hretried.toQuiet, .inl (retry_isRecovering hstate hr)⟩
    · rw [heq]
      exact ⟨.refl _, .inl hstate⟩
    · exact absurd hnormal hnot
  | heartbeat =>
    refine ⟨hquiet (by simp) (by simp), .inl ?_⟩
    obtain ⟨-, -, -, ⟨-, heq⟩ | ⟨-, heq | ⟨hnormal, -⟩⟩⟩ := rtosHeartbeatTaskRunOnce_control K cfg.tasks
    · simp only [Config.stage, heq]
      exact .inl rfl
    · simp only [Config.stage, heq]
      exact hstate
    · exact absurd hnormal hnot
  | monitor => exact ⟨hquiet (by simp) (by simp), .inl (hmonitor cfg.tasks rfl hstate)⟩
  | statistics => exact ⟨⟨rfl, rfl⟩, .inl hstate⟩

/-! ## From recovery to the normal state -/

/-- What the stages of a run have taken off the RX rings and written to
the other rings. -/
structure Traffic where
  rx : Fin 6 → List Descriptor := fun _ => []
  tx : Fin 6 → List Descriptor := fun _ => []
  reclaim : List ReclaimDescriptor := []

/-- The traffic after one more stage. -/
def Traffic.after (traffic : Traffic) (c c' : TasksContext) : Traffic where
  rx i := traffic.rx i ++ takenRx c c' i
  tx i := traffic.tx i ++ writtenTx c c' i
  reclaim := traffic.reclaim ++ writtenReclaim c c'

/-- The configurations a run reaches from `start` up to its first return
to the normal state, with the traffic since. The region stays intact. -/
inductive Recovers (P : Platform) (K : Clock) (start : Config) : Traffic → Config → Prop
  | start : Recovers P K start {} start
  | call {traffic cfg} (h : Recovers P K start traffic cfg) (hnot : cfg.tasks.host.state ≠ .normal)
      (hidle : cfg.left = []) (trigger : RuntimeTrigger) (ackResult : UnifiedError) :
      Recovers P K start traffic (cfg.begin trigger ackResult)
  | stage {traffic cfg s rest} (h : Recovers P K start traffic cfg)
      (hnot : cfg.tasks.host.state ≠ .normal) (hleft : cfg.left = s :: rest) :
      Recovers P K start (traffic.after cfg.tasks (cfg.advance P K s rest).tasks)
        (cfg.advance P K s rest)
  | observe {traffic cfg} (h : Recovers P K start traffic cfg)
      (hnot : cfg.tasks.host.state ≠ .normal) (hidle : cfg.left = []) (sequence : UInt32) :
      Recovers P K start traffic (cfg.observe K sequence)
  | environment {traffic cfg} {R : Region} (h : Recovers P K start traffic cfg)
      (hnot : cfg.tasks.host.state ≠ .normal) (hR : Intact R)
      (hheader : cfg.left ≠ [] → R.header = cfg.tasks.host.ipc.region.header) :
      Recovers P K start traffic (cfg.withRegion R)

variable {start : Config} {traffic : Traffic}

/-- The start may be reached in any environment. -/
theorem Recovers.reaches {Allowed : Region → Prop} (hstart : RuntimeReaches P K Allowed start)
    (h : Recovers P K start traffic cfg) : RuntimeReaches P K (fun _ => True) cfg := by
  induction h with
  | start => exact hstart.mono fun _ _ => trivial
  | call _ _ hidle trigger ackResult ih => exact ih.call hidle trigger ackResult
  | stage _ _ hleft ih => exact ih.stage hleft
  | observe _ _ hidle sequence ih => exact ih.observe hidle sequence
  | environment _ _ _ hheader ih => exact ih.environment trivial hheader

/-- The region stays intact throughout. -/
theorem RuntimeReaches.intact (h : RuntimeReaches P K Intact cfg) :
    Intact cfg.tasks.host.ipc.region := by
  have hkeep : Sound cfg.tasks ∧ Intact cfg.tasks.host.ipc.region := by
    refine h.invariant (I := fun c => Sound c ∧ Intact c.host.ipc.region) ?_ ?_ ?_ ?_
    · exact fun ipc hinit hR ticks => ⟨.contextInit hinit hR.valid ticks, hR⟩
    · rintro c ⟨⟨hinit, hv, hbooks⟩, hR⟩
      exact ⟨⟨hinit, hv, hbooks⟩, hR⟩
    · rintro c op ⟨hsound, hR⟩
      obtain ⟨hsound', hheader, -⟩ := hsound.run (P := P) (K := K) op
      refine ⟨hsound', hsound'.valid, ?_⟩
      rw [hheader]
      exact hR.header
    · exact fun c R hR hc => ⟨hc.1.withRegion hR.valid, hR⟩
  exact hkeep.2

/-- In any environment the context is sound wherever the rings are valid. -/
theorem RuntimeReaches.sound_of_valid {Allowed : Region → Prop} (h : RuntimeReaches P K Allowed cfg)
    (hv : cfg.tasks.host.ipc.region.Valid) : Sound cfg.tasks :=
  ⟨h.wellFrozen.initialized, hv, h.books⟩

/-- A stage is a sequence of moves without faults. -/
theorem Sound.stage (hP : P.Succeeds) (h : Sound cfg.tasks) (s : Stage) :
    ∃ es, Moves (ledger cfg.tasks) es (ledger (cfg.stage P K s).2.2) ∧ ∀ e ∈ es, ¬ e.IsFault := by
  have hrun : ∀ c, Sound c → ∀ op : Operation,
      ∃ es, Moves (ledger c) es (ledger (op.run P K c)) ∧ ∀ e ∈ es, ¬ e.IsFault := by
    intro c hc op
    obtain ⟨-, -, -, es, hmoves, hfaults⟩ := hc.run (P := P) (K := K) op
    exact ⟨es, hmoves, hfaults hP⟩
  have hcalled : Sound (Config.called cfg.tasks) := ⟨h.initialized, h.valid, h.books⟩
  rcases Config.stage_cases P K cfg s with heq | heq | ⟨op, heq | heq⟩
  · rw [heq]
    exact ⟨[], .refl, fun e he => absurd he List.not_mem_nil⟩
  · rw [heq]
    exact ⟨[], .refl, fun e he => absurd he List.not_mem_nil⟩
  · rw [heq]
    exact hrun _ h op
  · rw [heq]
    exact hrun _ hcalled op

/-- What a quiet stage writes to the reclaim ring are the references it
removes. -/
theorem Sound.stage_returns (hP : P.Succeeds) (h : Sound cfg.tasks) (s : Stage)
    (hquiet : cfg.tasks.host.Quiet (cfg.stage P K s).2.2.host) (f : Fin 64) :
    (ledger cfg.tasks).referenced f = (ledger (cfg.stage P K s).2.2).referenced f +
      returns (writtenReclaim cfg.tasks (cfg.stage P K s).2.2) f := by
  have hsame : (ledger cfg.tasks).SameTraffic (ledger (cfg.stage P K s).2.2) := by
    constructor
    · intro i
      exact congrArg (fun rings : Fin 6 → DescriptorRing => (rings i).unread.length) hquiet.rxRings
    · intro i
      exact congrArg (fun rings : Fin 6 → DescriptorRing => (rings i).unread.length) hquiet.txRings
  obtain ⟨es, hmoves, hfaults⟩ := h.stage (K := K) hP s
  obtain ⟨ds, hds, hreturns⟩ := hmoves.returnsOnce h.books hfaults hsame
  have hwritten : writtenReclaim cfg.tasks (cfg.stage P K s).2.2 = ds := by
    have hview : (cfg.stage P K s).2.2.host.ipc.region.view.reclaim =
        cfg.tasks.host.ipc.region.view.reclaim ++ ds := hds
    rw [writtenReclaim, hview, List.drop_left]
  rw [hwritten]
  exact hreturns f

/-- A stage keeps an intact region intact. -/
theorem Sound.stage_intact (h : Sound cfg.tasks) (hintact : Intact cfg.tasks.host.ipc.region)
    (s : Stage) : Intact (cfg.stage P K s).2.2.host.ipc.region := by
  have hkept : Sound (cfg.stage P K s).2.2 ∧ Intact (cfg.stage P K s).2.2.host.ipc.region := by
    refine Config.stage_keeps (I := fun c => Sound c ∧ Intact c.host.ipc.region) ?_ ?_ ⟨h, hintact⟩ s
    · rintro c ⟨⟨hinit, hv, hbooks⟩, hR⟩
      exact ⟨⟨hinit, hv, hbooks⟩, hR⟩
    · rintro c op ⟨hsound, hR⟩
      obtain ⟨hsound', hheader, -⟩ := hsound.run (P := P) (K := K) op
      refine ⟨hsound', hsound'.valid, ?_⟩
      rw [hheader]
      exact hR.header
  exact hkept.2

/-- The region stays intact in a recovery that starts on an intact one. -/
theorem Recovers.intact {Allowed : Region → Prop} (hstart : RuntimeReaches P K Allowed start)
    (hintact : Intact start.tasks.host.ipc.region) (h : Recovers P K start traffic cfg) :
    Intact cfg.tasks.host.ipc.region := by
  induction h with
  | start => exact hintact
  | @call traffic cfg _ _ _ trigger ackResult ih =>
    rw [Config.begin_tasks]
    exact ih
  | @stage traffic cfg s rest hrec _ _ ih =>
    exact ((hrec.reaches hstart).sound_of_valid ih.valid).stage_intact ih s
  | observe _ _ _ sequence ih => exact ih
  | environment _ _ hR _ _ => exact hR

/-- **A recovery from its start to its end**: the tasks recover or have
come back, nothing was taken or sent, and every reference that is gone
was given back once. -/
theorem Recovers.invariant {Allowed : Region → Prop} (hP : P.Succeeds)
    (hstart : RuntimeReaches P K Allowed start) (hintact : Intact start.tasks.host.ipc.region)
    (hstate : start.tasks.host.state.IsRecovering) (h : Recovers P K start traffic cfg) :
    (cfg.tasks.host.state.IsRecovering ∨
        (cfg.tasks.host.state = .normal ∧ Resynchronised cfg.tasks)) ∧
      (∀ i, traffic.rx i = [] ∧ traffic.tx i = []) ∧
      ∀ f, (ledger start.tasks).referenced f =
        (ledger cfg.tasks).referenced f + returns traffic.reclaim f := by
  induction h with
  | start => exact ⟨.inl hstate, fun _ => ⟨rfl, rfl⟩, fun f => rfl⟩
  | call _ _ _ trigger ackResult ih =>
    rw [Config.begin_tasks]
    exact ih
  | @stage traffic cfg s rest hrec hnot hleft ih =>
    obtain ⟨hends, hnone, hreturns⟩ := ih
    -- the stages go on only while the state is not normal
    have hrecovering := hends.resolve_right fun hnormal => hnot hnormal.1
    have hreach := hrec.reaches hstart
    have hregion := hrec.intact hstart hintact
    have hsound := hreach.sound_of_valid hregion.valid
    obtain ⟨hquiet, hends'⟩ := Config.stage_recovers (K := K) hP hreach.governed hrecovering
      hregion s (hsound.stage_intact hregion s)
    refine ⟨hends', fun i => ⟨?_, ?_⟩, fun f => ?_⟩
    · have hview : (cfg.advance P K s rest).tasks.host.ipc.region.view.rx i =
          cfg.tasks.host.ipc.region.view.rx i :=
        congrArg (fun rings : Fin 6 → DescriptorRing => (rings i).unread) hquiet.rxRings
      simp only [Traffic.after, takenRx, hnone i, hview, Nat.sub_self, List.take_zero,
        List.append_nil]
    · have hview : (cfg.advance P K s rest).tasks.host.ipc.region.view.tx i =
          cfg.tasks.host.ipc.region.view.tx i :=
        congrArg (fun rings : Fin 6 → DescriptorRing => (rings i).unread) hquiet.txRings
      simp only [Traffic.after, writtenTx, hnone i, hview, List.drop_length, List.append_nil]
    · have hstage := hsound.stage_returns (K := K) hP s hquiet f
      have hbefore := hreturns f
      have hafter : (ledger (cfg.advance P K s rest).tasks).referenced f =
          (ledger (cfg.stage P K s).2.2).referenced f := rfl
      have hwritten : writtenReclaim cfg.tasks (cfg.advance P K s rest).tasks =
          writtenReclaim cfg.tasks (cfg.stage P K s).2.2 := rfl
      simp only [Traffic.after, returns_append, hwritten, hafter]
      omega
  | observe _ hnot _ sequence ih =>
    obtain ⟨hends, hnone, hreturns⟩ := ih
    exact ⟨.inl (hends.resolve_right fun hnormal => hnot hnormal.1), hnone, hreturns⟩
  | environment _ hnot _ _ ih =>
    obtain ⟨hends, hnone, hreturns⟩ := ih
    exact ⟨.inl (hends.resolve_right fun hnormal => hnot hnormal.1), hnone, hreturns⟩

/-- A frame the tasks hold: queued, with its reclaim frozen, or only
referenced. -/
def Holds (c : TasksContext) (f : Fin 64) : Prop :=
  frameIdOfIndex f ∈ queuedIds c ∨ frameIdOfIndex f ∈ pendingIds c ∨
    (c.host.frameReferences f).inUse = true

theorem Sound.referenced_of_holds (h : Sound c) {f : Fin 64} (hf : Holds c f) :
    (ledger c).referenced f = 1 := by
  have hinUse : (c.host.frameReferences f).inUse = true := by
    have hids : frameIdOfIndex f ∈ (ledger c).ids → (c.host.frameReferences f).inUse = true := by
      intro hmem
      obtain ⟨g, hid, d, href⟩ := h.books.exists_of_mem_ids hmem
      obtain rfl := frameIdOfIndex_inj.mp hid
      exact (FrameReference.descriptor?_eq_some.mp href).1
    rw [ids_ledger] at hids
    rcases hf with hf | hf | hf
    · exact hids (List.mem_append_left _ hf)
    · exact hids (List.mem_append_right _ hf)
    · exact hf
  have href : (ledger c).references f = some (c.host.frameReferences f).descriptor :=
    FrameReference.descriptor?_eq_some.mpr ⟨hinUse, rfl⟩
  simp [Ledger.referenced, href]

/-- **Recovery discards and resynchronises.** With platform calls that
succeed and a region that stays intact, from any configuration a run
reaches in recovery, whatever the region was before, and for as long as
the tasks have not come back to the normal state: they stay in recovery,
blocked by the reclaim ring or not, take nothing off an RX ring and write
nothing to a TX ring, and every frame held at the start is held still or
has been written to the reclaim ring, once. When they come back, every
one of these has been written once, nothing is held, and all epochs are
that of the region. -/
theorem recovery_discards_and_resynchronises {Allowed : Region → Prop} (hP : P.Succeeds)
    (hstart : RuntimeReaches P K Allowed start) (hintact : Intact start.tasks.host.ipc.region)
    (hstate : start.tasks.host.state = .recovery) (h : Recovers P K start traffic cfg) :
    (cfg.tasks.host.state = .recovery ∨ cfg.tasks.host.state = .reclaimBlocked ∨
      cfg.tasks.host.state = .normal) ∧
    (∀ i, traffic.rx i = [] ∧ traffic.tx i = []) ∧
    (∀ f, Holds start.tasks f →
      ((cfg.tasks.host.frameReferences f).inUse = true ∧ returns traffic.reclaim f = 0) ∨
        ((cfg.tasks.host.frameReferences f).inUse = false ∧ returns traffic.reclaim f = 1)) ∧
    (cfg.tasks.host.state = .normal →
      Resynchronised cfg.tasks ∧ ∀ f, Holds start.tasks f → returns traffic.reclaim f = 1) := by
  obtain ⟨hends, hnone, hreturns⟩ := h.invariant hP hstart hintact (.inl hstate)
  have hsound := hstart.sound_of_valid hintact.valid
  have hframes : ∀ f, Holds start.tasks f →
      ((cfg.tasks.host.frameReferences f).inUse = true ∧ returns traffic.reclaim f = 0) ∨
        ((cfg.tasks.host.frameReferences f).inUse = false ∧ returns traffic.reclaim f = 1) := by
    intro f hf
    -- one reference at the start: it is there still, or in the reclaims written
    have hone := hsound.referenced_of_holds hf
    have hcount := hreturns f
    rw [hone] at hcount
    have href : (ledger cfg.tasks).references f = (cfg.tasks.host.frameReferences f).descriptor? := rfl
    unfold Ledger.referenced at hcount
    rw [href] at hcount
    cases hinUse : (cfg.tasks.host.frameReferences f).inUse with
    | true =>
      rw [FrameReference.descriptor?_eq_some.mpr ⟨hinUse, rfl⟩] at hcount
      exact .inl ⟨rfl, by simp at hcount; omega⟩
    | false =>
      have hnone : (cfg.tasks.host.frameReferences f).descriptor? = none := by
        simp [FrameReference.descriptor?, hinUse]
      rw [hnone] at hcount
      exact .inr ⟨rfl, by simp at hcount; omega⟩
  refine ⟨?_, hnone, hframes, fun hnormal => ?_⟩
  · rcases hends with (h | h) | ⟨h, -⟩
    · exact .inl h
    · exact .inr (.inl h)
    · exact .inr (.inr h)
  · -- in the normal state no frame is referenced, so each was written
    have hdone : Resynchronised cfg.tasks := by
      rcases hends with hrecovering | ⟨-, hdone⟩
      · rw [hnormal] at hrecovering
        rcases hrecovering with h | h <;> cases h
      · exact hdone
    refine ⟨hdone, fun f hf => ?_⟩
    rcases hframes f hf with ⟨hinUse, -⟩ | ⟨-, hone⟩
    · rw [hdone.references f] at hinUse
      cases hinUse
    · exact hone

/-! ## A recovery that is blocked and goes on -/

/-- Go through the next stage, with its traffic. -/
def recoverStage (P : Platform) (K : Clock) (x : Traffic × Config) (s : Stage) : Traffic × Config :=
  let cfg := x.2.advance P K s x.2.left.tail
  (x.1.after x.2.tasks cfg.tasks, cfg)

/-- The stages are the next ones, and the state is not normal before any
of them. -/
def GoesThrough (P : Platform) (K : Clock) : List Stage → Traffic × Config → Prop
  | [], _ => True
  | s :: l, x => x.2.tasks.host.state ≠ .normal ∧ x.2.left.head? = some s ∧
      GoesThrough P K l (recoverStage P K x s)

instance GoesThrough.decidable : (l : List Stage) → (x : Traffic × Config) →
    Decidable (GoesThrough P K l x)
  | [], _ => inferInstanceAs (Decidable True)
  | s :: l, x =>
    have : Decidable (GoesThrough P K l (recoverStage P K x s)) := GoesThrough.decidable l _
    inferInstanceAs (Decidable (_ ∧ _ ∧ _))

theorem Recovers.foldl {l : List Stage} {x : Traffic × Config} (h : Recovers P K start x.1 x.2)
    (hl : GoesThrough P K l x) :
    Recovers P K start (l.foldl (recoverStage P K) x).1 (l.foldl (recoverStage P K) x).2 := by
  induction l generalizing x with
  | nil => exact h
  | cons s l ih =>
    obtain ⟨hnot, hhead, hrest⟩ := hl
    obtain ⟨rest, hleft⟩ := List.head?_eq_some_iff.mp hhead
    refine ih (h.stage hnot ?_) hrest
    rw [hleft, List.tail_cons]

/-- A region of the next epoch, with `n` reclaims Linux has not read. -/
def renewedRegion (n : ℕ) : Region :=
  (List.range n).foldl (fun R _ => R.publishReclaim {}) (Linux.formatRegion 2 1)

theorem renewedRegion_intact : Intact (renewedRegion 7) ∧ Intact (renewedRegion 0) := by
  have hfold : ∀ l : List ℕ, ∀ R : Region, R.Valid →
      (l.foldl (fun R _ => R.publishReclaim {}) R).Valid := by
    intro l
    induction l with
    | nil => exact fun R hR => hR
    | cons n rest ih => exact fun R hR => ih _ (hR.publishReclaim {})
  exact ⟨⟨hfold _ _ (Linux.formatRegion_valid 2 1), by decide +kernel⟩,
    ⟨hfold _ _ (Linux.formatRegion_valid 2 1), by decide +kernel⟩⟩

/-- A call on a doorbell, on a region as Linux has left it. -/
def callOn (R : Region) (cfg : Config) : Config :=
  ((cfg.withRegion R).begin .doorbell .ok).finish .defaultOps (fun _ => 0) (stages .doorbell)

/-- The tasks hold a frame that only a damaged ring has kept from being
given back, one that is queued and one whose reclaim is frozen, and the
preflight of the next call sees a new epoch. -/
def heldConfig : Config :=
  (((callOn congestedRegion (callOn strayRegion idleConfig)).withRegion (renewedRegion 7)).begin
    .doorbell .ok).advance .defaultOps (fun _ => 0) .preflight (stages .doorbell).tail

/-- The rest of that call, which the reclaim ring has room for one entry
in. -/
def blockedRecovery : Traffic × Config :=
  [Stage.retry, .recovery, .event, .scheduler, .statistics].foldl
    (recoverStage .defaultOps fun _ => 0) ({}, heldConfig)

/-- Linux reads the reclaim ring, and the next call is done with the
recovery. -/
def doneRecovery : Traffic × Config :=
  [Stage.preflight, .retry, .recovery].foldl (recoverStage .defaultOps fun _ => 0)
    (blockedRecovery.1, (blockedRecovery.2.withRegion (renewedRegion 0)).begin .doorbell .ok)

theorem callOn_left (R : Region) (cfg : Config) : (callOn R cfg).left = [] :=
  Config.finish_left rfl

theorem callOn_reaches {R : Region}
    (h : RuntimeReaches .defaultOps (fun _ => 0) (fun _ => True) cfg) (hidle : cfg.left = []) :
    RuntimeReaches .defaultOps (fun _ => 0) (fun _ => True) (callOn R cfg) := by
  have hwrite := h.environment (R := R) trivial fun hleft => absurd hidle hleft
  have hbegun := hwrite.call hidle .doorbell .ok
  exact hbegun.finish (l := stages .doorbell) rfl

theorem heldConfig_reaches :
    RuntimeReaches .defaultOps (fun _ => 0) (fun _ => True) heldConfig := by
  have hstray := callOn_reaches (R := strayRegion) idleConfig_reaches rfl
  have hcongested := callOn_reaches (R := congestedRegion) hstray (callOn_left _ _)
  have hidle := callOn_left congestedRegion (callOn strayRegion idleConfig)
  have hwrite := hcongested.environment (R := renewedRegion 7) trivial fun hleft =>
    absurd hidle hleft
  have hbegun := hwrite.call hidle .doorbell .ok
  exact hbegun.stage (s := .preflight) rfl

set_option maxRecDepth 100000 in
/-- A recovery with a frame queued, one frozen and one only referenced: it
is blocked by the reclaim ring, goes on, and gives back each of them. -/
theorem recovery_discards_and_resynchronises_held :
    (queuedIds heldConfig.tasks = [0] ∧ pendingIds heldConfig.tasks = [1] ∧
      (heldConfig.tasks.host.frameReferences 2).inUse = true) ∧
    blockedRecovery.2.tasks.host.state = .reclaimBlocked ∧
    doneRecovery.1.reclaim.map ReclaimDescriptor.frameId = [1, 0, 2] ∧
    Resynchronised doneRecovery.2.tasks ∧
    ∀ f, Holds heldConfig.tasks f → returns doneRecovery.1.reclaim f = 1 := by
  have hblocked : Recovers .defaultOps (fun _ => 0) heldConfig blockedRecovery.1 blockedRecovery.2 :=
    Recovers.foldl (x := ({}, heldConfig)) .start (by decide +kernel)
  have hresumed := (hblocked.environment (R := renewedRegion 0) (by decide +kernel)
    renewedRegion_intact.2 fun hleft => absurd (by decide +kernel) hleft).call (by decide +kernel)
    (by decide +kernel) .doorbell .ok
  have hdone : Recovers .defaultOps (fun _ => 0) heldConfig doneRecovery.1 doneRecovery.2 :=
    hresumed.foldl (x := (blockedRecovery.1,
      (blockedRecovery.2.withRegion (renewedRegion 0)).begin .doorbell .ok)) (by decide +kernel)
  have hend := (recovery_discards_and_resynchronises Platform.defaultOps_succeeds heldConfig_reaches
    renewedRegion_intact.1 (by decide +kernel) hdone).2.2.2 (by decide +kernel)
  exact ⟨⟨by decide +kernel, by decide +kernel, by decide +kernel⟩, by decide +kernel,
    by decide +kernel, hend⟩

end Rtos

end PutGateway
