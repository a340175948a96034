import PutGateway.Rtos.Bookkeeping
/-!
# Epoch fencing

The runtime sends frames of the region's epoch only. The preflight of a
call compares that epoch with the one the tasks last saw, so a stage that
finds the tasks in the normal state finds the two equal, and what the
router queues bears its own epoch, which is the same again.
-/

namespace PutGateway

namespace Rtos

variable {P : Platform} {K : Clock} {c c' : TasksContext} {t t' : Tasks}

/-! ## Who writes the TX rings -/

theorem ReceiveStep.txRings (h : ReceiveStep P K t t') :
    t'.ipc.region.txRings = t.ipc.region.txRings := by
  cases h with
  | take i =>
    unfold rtosShmIpcDequeueRxDescriptor
    split
    · rfl
    split
    · rfl
    · rfl
  | read d nowMs =>
    exact congrArg Region.txRings (rtosRouterAdapterDescriptorToInput_region P t.ipc d nowMs).1
  | snapshot => exact congrArg Region.txRings (rtosShmIpcGetRxPendingSnapshot_snd P t.ipc).1
  | register d =>
    unfold registerFrameReference
    split
    · rfl
    split
    · rfl
    · rfl
  | clear frameId => rw [clearFrameReference_ipc]
  | _ => rfl

/-- **The event task sends nothing.** -/
theorem rtosIpcEventTaskRunOnce_txRings (c : TasksContext) (trigger : IpcEventTrigger) :
    (rtosIpcEventTaskRunOnce P K c trigger).2.host.ipc.region.txRings =
      c.host.ipc.region.txRings := by
  have hkeep : Receives P K (fun c' =>
      c'.host.ipc.region.txRings = c.host.ipc.region.txRings) := by
    constructor
    · intro router t t' hstep h
      exact hstep.txRings.trans h
    · intro c' input h
      exact (submit_serves c' input).2.txRings.trans h
  rcases rtosIpcEventTaskRunOnce_cases P K c trigger with
    ⟨hnormal, -⟩ | ⟨-, t, ht, ⟨-, heq⟩ | ⟨-, heq⟩⟩
  · exact hkeep.eventTask rfl hnormal trigger
  · rw [heq]
    exact ht.quiet.txRings
  · rw [heq]
    have hretried := (rtosTasksRetryPendingReclaims_cases (P := P) (K := K) t 64).1
    exact hretried.txRings.trans ht.quiet.txRings

/-! ## The fence of a call -/

/-- The tasks have seen the epoch of the region. -/
def SeesEpoch (c : TasksContext) : Prop :=
  c.host.lastLinuxEpoch = c.host.ipc.region.header.linuxEpoch

theorem Serves.seesEpoch (h : Serves c c') (hsees : SeesEpoch c) : SeesEpoch c' := by
  unfold SeesEpoch
  rw [h.host.lastLinuxEpoch, h.host.header]
  exact hsees

theorem GivesBack.seesEpoch (h : GivesBack c c') (hsees : SeesEpoch c) : SeesEpoch c' := by
  unfold SeesEpoch
  rw [h.steady.lastLinuxEpoch, h.steady.header]
  exact hsees

/-- What holds before a stage, from the preflight to the scheduler: the
epoch has been seen, or a recovery keeps the tasks from draining. -/
def Fence (c : TasksContext) : Option Stage → Prop
  | some .retry | some .recovery => SeesEpoch c ∨ (c.host.state = .degraded ∧ c.host.Recovering)
  | some .event | some .scheduler => SeesEpoch c ∨ (c.host.state ≠ .normal ∧ c.host.Recovering)
  | _ => True

/-- A retry during a recovery does not end in the normal state. -/
theorem retry_not_normal {budget : UInt32} (hstate : t.state ≠ .normal)
    (hrecovering : t.Recovering) :
    (rtosTasksRetryPendingReclaims P K t budget).2.state ≠ .normal ∧
      (rtosTasksRetryPendingReclaims P K t budget).2.Recovering := by
  obtain ⟨hretried, hends⟩ := rtosTasksRetryPendingReclaims_cases (P := P) (K := K) t budget
  refine ⟨?_, (Tasks.Recovering.iff_of_eq hretried.recovery).mpr hrecovering⟩
  rcases hends with ⟨-, heq⟩ | ⟨-, heq | heq⟩
  · rw [heq, if_pos hrecovering]
    simp
  · rw [heq]
    exact hstate
  · rw [heq]
    rcases retryBlockedState_cases t.state with ⟨-, hb⟩ | ⟨-, hb⟩
    · rw [hb]
      simp
    · rw [hb]
      simp

variable {cfg : Config} {s : Stage} {rest : List Stage}

/-- The preflight puts up the fence. -/
theorem fence_preflight (hP : P.Succeeds) : Fence (cfg.stage P K .preflight).2.2 (some .retry) := by
  rcases Config.preflightBeforeRxDrain_cases P K cfg.tasks with
    ⟨hfail, -⟩ | ⟨-, -, hepoch, heq⟩ | ⟨-, -, heq⟩
  · exact absurd (hP _) hfail
  · refine .inl ?_
    simp only [Config.stage, heq]
    exact hepoch.symm
  · have hheader := (rtosErrorMonitorTaskRunOnce_snd K (Config.called cfg.tasks)).1.ipc
    have hcontrol := rtosErrorMonitorTaskRunOnce_control K (Config.called cfg.tasks)
    simp only [Config.stage, heq]
    generalize (rtosErrorMonitorTaskRunOnce K (Config.called cfg.tasks)).2 = c' at hheader hcontrol ⊢
    have hsees : c'.host.lastLinuxEpoch = (Config.called cfg.tasks).host.ipc.region.header.linuxEpoch →
        SeesEpoch c' := by
      intro hlast
      unfold SeesEpoch
      rw [hheader]
      exact hlast
    obtain ⟨-, -, ⟨-, hstate, hask, -⟩ | ⟨-, -, -, -, hlast⟩ | ⟨-, hepoch, hsame⟩⟩ := hcontrol
    · exact .inr ⟨hstate, .inl hask⟩
    · exact .inl (hsees hlast)
    · exact .inl (hsees (hsame.lastLinuxEpoch.trans hepoch.symm))

theorem fence_retry (h : Fence cfg.tasks (some .retry)) :
    Fence (cfg.stage P K .retry).2.2 (some .recovery) := by
  simp only [Config.stage]
  unfold retryFirst
  split
  · next hneeds =>
    rcases h with hsees | ⟨hstate, -⟩
    · exact .inl ((retry_givesBack cfg.tasks _).seesEpoch hsees)
    · rw [hstate] at hneeds
      cases hneeds
  · exact h

theorem fence_recovery (h : Fence cfg.tasks (some .recovery)) :
    Fence (cfg.stage P K .recovery).2.2 (some .event) := by
  simp only [Config.stage]
  unfold recoverFirst
  split
  · next hneeds =>
    rcases h with hsees | ⟨hstate, -⟩
    · refine .inl ?_
      obtain ⟨hheader, hlast⟩ :=
        rtosRecoveryTaskRunOnce_epoch P K cfg.tasks cfg.runtime.recoveryBudget
      unfold SeesEpoch
      rw [hheader]
      rcases hlast with hlast | hlast
      · rw [hlast]
        exact hsees
      · exact hlast
    · rw [hstate] at hneeds
      cases hneeds
  · rcases h with hsees | ⟨hstate, hrecovering⟩
    · exact .inl hsees
    · exact .inr ⟨by rw [hstate]; simp, hrecovering⟩

theorem fence_event (h : Fence cfg.tasks (some .event)) :
    Fence (cfg.stage P K .event).2.2 (some .scheduler) := by
  simp only [Config.stage]
  unfold drainAllowed
  split
  swap
  · exact h
  rcases rtosIpcEventTaskRunOnce_cases P K cfg.tasks (mapIpcTrigger cfg.trigger) with
    ⟨hnormal, hserves⟩ | ⟨-, t, ht, ⟨-, heq⟩ | ⟨-, heq⟩⟩
  · -- a drain in the normal state is behind the fence, and keeps it
    rcases h with hsees | ⟨hstate, -⟩
    · exact .inl (hserves.seesEpoch hsees)
    · exact absurd hnormal hstate
  · rw [heq]
    rcases h with hsees | ⟨hstate, hrecovering⟩
    · refine .inl ?_
      unfold SeesEpoch
      rw [ht.lastLinuxEpoch, ht.ipc]
      exact hsees
    · refine .inr ⟨?_, (Tasks.Recovering.iff_of_eq ht.recovery).mpr hrecovering⟩
      rw [ht.state]
      exact hstate
  · rw [heq]
    rcases h with hsees | ⟨hstate, hrecovering⟩
    · refine .inl ((retry_givesBack { cfg.tasks with host := t } 64).seesEpoch ?_)
      unfold SeesEpoch
      rw [ht.lastLinuxEpoch, ht.ipc]
      exact hsees
    · have hstate' : t.state ≠ .normal := by
        rw [ht.state]
        exact hstate
      exact .inr (retry_not_normal hstate' ((Tasks.Recovering.iff_of_eq ht.recovery).mpr hrecovering))

/-- Which stage follows which. -/
theorem next_stage {trigger : RuntimeTrigger} (h : s :: rest <:+ stages trigger) :
    (s = .preflight ∧ rest.head? = some .retry) ∨ (s = .retry ∧ rest.head? = some .recovery) ∨
      (s = .recovery ∧ rest.head? = some .event) ∨ (s = .event ∧ rest.head? = some .scheduler) ∨
      (∀ c, Fence c rest.head?) := by
  cases trigger with
  | doorbell =>
    simp only [stages, List.suffix_cons_iff, List.cons.injEq, List.suffix_nil, reduceCtorEq,
      or_false] at h
    rcases h with ⟨rfl, rfl⟩ | ⟨rfl, rfl⟩ | ⟨rfl, rfl⟩ | ⟨rfl, rfl⟩ | ⟨rfl, rfl⟩ | ⟨rfl, rfl⟩
    all_goals simp [Fence]
  | periodic =>
    simp only [stages, List.suffix_cons_iff, List.cons.injEq, List.suffix_nil, reduceCtorEq,
      or_false] at h
    rcases h with ⟨rfl, rfl⟩ | ⟨rfl, rfl⟩ | ⟨rfl, rfl⟩ | ⟨rfl, rfl⟩ | ⟨rfl, rfl⟩ | ⟨rfl, rfl⟩ |
      ⟨rfl, rfl⟩ | ⟨rfl, rfl⟩ | ⟨rfl, rfl⟩
    all_goals simp [Fence]

variable {Allowed : Region → Prop}

/-- **The fence stands** from the preflight to the scheduler of every
call. -/
theorem RuntimeReaches.fence (hP : P.Succeeds) (h : RuntimeReaches P K Allowed cfg) :
    Fence cfg.tasks cfg.left.head? := by
  induction h with
  | init => trivial
  | call _ _ trigger _ _ => cases trigger <;> trivial
  | @stage cfg s rest hreach hleft ih =>
    have hsuffix := hreach.left_suffix
    rw [hleft] at hsuffix ih
    have hleft' : (cfg.advance P K s rest).left = rest := rfl
    have htasks : (cfg.advance P K s rest).tasks = (cfg.stage P K s).2.2 := rfl
    rw [hleft', htasks]
    -- each stage hands the fence on to the next
    rcases next_stage hsuffix with ⟨rfl, hnext⟩ | ⟨rfl, hnext⟩ | ⟨rfl, hnext⟩ | ⟨rfl, hnext⟩ | hnext
    · rw [hnext]
      exact fence_preflight hP
    · rw [hnext]
      exact fence_retry ih
    · rw [hnext]
      exact fence_recovery ih
    · rw [hnext]
      exact fence_event ih
    · exact hnext _
  | @observe cfg _ hidle sequence _ =>
    have hleft : (cfg.observe K sequence).left = [] := hidle
    rw [hleft]
    trivial
  | @environment cfg R _ _ hheader ih =>
    have hleft : (cfg.withRegion R).left = cfg.left := rfl
    rw [hleft]
    cases hcases : cfg.left with
    | nil => trivial
    | cons s rest =>
      -- between two stages the environment keeps the header
      have hsame := hheader (by rw [hcases]; exact List.cons_ne_nil _ _)
      rw [hcases] at ih
      have hsees : SeesEpoch cfg.tasks → SeesEpoch (cfg.withRegion R).tasks := by
        intro hsees
        exact hsees.trans (congrArg RegionHeader.linuxEpoch hsame.symm)
      have hkeep : ∀ s, Fence cfg.tasks (some s) → Fence (cfg.withRegion R).tasks (some s) := by
        intro s hs
        cases s with
        | retry => exact hs.imp hsees id
        | recovery => exact hs.imp hsees id
        | event => exact hs.imp hsees id
        | scheduler => exact hs.imp hsees id
        | _ => trivial
      exact hkeep s ih

/-! ## What the scheduler writes -/

/-- The TX rings hold what they held in `R`, and after it descriptors of
one epoch. -/
def WritesEpoch (R : Region) (epoch : UInt32) (t : Tasks) : Prop :=
  ∀ i, ∃ ds, t.ipc.region.view.tx i = R.view.tx i ++ ds ∧ ∀ d ∈ ds, d.epoch = epoch

variable {R : Region} {epoch : UInt32}

theorem WritesEpoch.congr (h : WritesEpoch R epoch t)
    (htx : t'.ipc.region.txRings = t.ipc.region.txRings) : WritesEpoch R epoch t' := by
  intro i
  have hview : t'.ipc.region.view.tx i = t.ipc.region.view.tx i := congrArg Ring.unread (congrFun htx i)
  rw [hview]
  exact h i

/-- A ring that passes the checks against itself has the depth the ring
helpers count with. -/
theorem depthOk_of_validateOwnHeader {ring : DescriptorRing} (h : validateOwnHeader ring = .ok) :
    Ring.DepthOk ring := by
  unfold validateOwnHeader validateDescriptorRing at h
  split at h
  · cases h
  split at h
  · cases h
  split at h
  · cases h
  next hdepth =>
  simp only [Bool.or_eq_true, decide_eq_true_eq, not_or, not_not] at hdepth
  exact ⟨hdepth.1.1.1, hdepth.1.2⟩

/-- **Whatever the headers of the rings**, an enqueue appends its
descriptor to its TX ring, or nothing. -/
theorem rtosShmIpcEnqueueTxDescriptor_appends (shm : RtosShm) (id : PutShmInterface)
    (d : Descriptor) (i : Fin 6) :
    ∃ ds, (rtosShmIpcEnqueueTxDescriptor P shm id d).2.region.view.tx i =
      shm.region.view.tx i ++ ds ∧ ∀ x ∈ ds, x = d.sealed ∧ id = interfaceOfIndex i := by
  have hnone : ∀ R : Region, shm.region.Kept R →
      ∃ ds, R.view.tx i = shm.region.view.tx i ++ ds ∧
        ∀ x ∈ ds, x = d.sealed ∧ id = interfaceOfIndex i := by
    intro R hkept
    exact ⟨[], by rw [hkept.view, List.append_nil], fun x hx => absurd hx List.not_mem_nil⟩
  unfold rtosShmIpcEnqueueTxDescriptor
  split
  · exact hnone _ (.refl _)
  split
  · exact hnone _ (.refl _)
  next j hj =>
  split
  · exact hnone _ (.refl _)
  split
  · exact hnone _ (.refl _)
  have hself : shm.region.Kept { shm.region.setTx j (shm.region.txRings j) with
      txPendingBitmap := shm.region.txPendingBitmap } := Region.kept_setTx (.refl _)
  simp only [rtosShmDescriptorRingEnqueue]
  split
  · exact hnone _ hself
  next hown =>
  split
  · exact hnone _ hself
  split
  · exact hnone _ hself
  split
  · exact hnone _ hself
  next bit _ =>
  have hdepth := depthOk_of_validateOwnHeader (not_not.mp hown)
  rcases publishOn_cases P bit d.sealed (shm.txIo j) with ⟨-, hk | ⟨hused, hk⟩⟩ | ⟨hused, -, -, hk, -⟩
  · exact hnone _ (Region.kept_setTx hk)
  · -- the slot is written and the ring is left
    have hview : (shm.setTxIo j (publishOn P bit d.sealed (shm.txIo j)).2).region.view =
        (shm.region.stageTx j d.sealed).view := (Region.setTx_kept hk).view
    have hstage := Ring.unread_stage (d := d.sealed) hdepth (hdepth.used_lt_iff.mp hused)
    refine ⟨[], ?_, fun x hx => absurd hx List.not_mem_nil⟩
    rw [hview, Region.stageTx, Region.view_setTx, List.append_nil]
    by_cases hi : i = j
    · subst hi
      exact (Function.update_self ..).trans hstage
    · exact Function.update_of_ne hi ..
  · -- the descriptor is published
    have hview : (shm.setTxIo j (publishOn P bit d.sealed (shm.txIo j)).2).region.view =
        (shm.region.publishTx j d.sealed).view := (Region.setTx_kept hk).view
    have hpublish := Ring.unread_publish (d := d.sealed) hdepth (hdepth.used_lt_iff.mp hused)
    rw [hview, Region.publishTx, Region.view_setTx]
    by_cases hi : i = j
    · subst hi
      refine ⟨[d.sealed], (Function.update_self ..).trans hpublish, fun x hx => ?_⟩
      exact ⟨List.mem_singleton.mp hx, interfaceIndex?_eq_some.mp hj⟩
    · refine ⟨[], ?_, fun x hx => absurd hx List.not_mem_nil⟩
      rw [List.append_nil]
      exact Function.update_of_ne hi ..

/-- The TX sink writes the epoch of its output. -/
theorem WritesEpoch.txSink (h : WritesEpoch R epoch t) {output : RouteOutput}
    (hepoch : output.epoch = epoch) : WritesEpoch R epoch (rtosTasksTxSink P output t).2 := by
  unfold rtosTasksTxSink
  split
  · exact h
  split
  · exact h
  split
  · exact h
  next f _ _ =>
  have happends := rtosShmIpcEnqueueTxDescriptor_appends (P := P) t.ipc output.targetInterface
    (fillTxDescriptor (t.frameReferences f).descriptor output)
  simp only
  generalize rtosShmIpcEnqueueTxDescriptor P t.ipc output.targetInterface
    (fillTxDescriptor (t.frameReferences f).descriptor output) = r at happends ⊢
  have hwritten : ∀ t' : Tasks, t'.ipc = r.2 → WritesEpoch R epoch t' := by
    intro t' hipc i
    obtain ⟨ds, hds, hof⟩ := h i
    obtain ⟨ds', hds', hof'⟩ := happends i
    refine ⟨ds ++ ds', ?_, fun d hd => ?_⟩
    · rw [hipc, hds', hds, List.append_assoc]
    · rcases List.mem_append.mp hd with hd | hd
      · exact hof d hd
      · rw [(hof' d hd).1, Descriptor.epoch_sealed]
        exact hepoch
  split
  · exact hwritten _ clearFrameReference_ipc
  · exact hwritten _ rfl

/-- The sinks of the tasks, for a queue of one epoch. -/
theorem writesEpoch_keep :
    SinksKeep (tasksSinks P K) (fun q t =>
      (∀ x ∈ q, QueueItem.epoch x = epoch) ∧ WritesEpoch R epoch t) := by
  constructor
  · intro q q' t hperm h
    exact ⟨fun x hx => h.1 x (hperm.mem_iff.mpr hx), h.2⟩
  · intro q t h
    exact h
  · intro x q t n h
    exact ⟨List.forall_mem_cons.mpr (List.forall_mem_cons.mp h.1), h.2⟩
  · intro x q t target version h
    exact ⟨List.forall_mem_cons.mpr (List.forall_mem_cons.mp h.1), h.2⟩
  · intro x q t nowMs h _
    exact ⟨fun y hy => h.1 y (List.mem_cons_of_mem _ hy), h.2.txSink (h.1 x List.mem_cons_self)⟩
  · intro x q t nowMs h _
    exact ⟨h.1, h.2.txSink (h.1 x List.mem_cons_self)⟩
  · intro x q t nowMs reason h
    exact ⟨fun y hy => h.1 y (List.mem_cons_of_mem _ hy),
      h.2.congr (rtosTasksReclaimSink_served ..).2.txRings⟩

/-- **A drain writes the router's epoch.** -/
theorem drain_writesEpoch (hfenced : c.router.Fenced) (budget : UInt32)
    (h : WritesEpoch R c.router.currentLinuxEpoch c.host) :
    WritesEpoch R c.router.currentLinuxEpoch (rtosRouterDrain (tasksSinks P K) c budget).2.host :=
  ((writesEpoch_keep (P := P) (K := K)).drain budget (s := c) ⟨hfenced, h⟩).2

/-! ## What a call writes -/

/-- **A stage writes the epoch of the region header** to the TX rings. -/
theorem RuntimeReaches.stage_writesEpoch (hP : P.Succeeds) (h : RuntimeReaches P K Allowed cfg)
    (hleft : cfg.left = s :: rest)
    (hw : WritesEpoch R cfg.tasks.host.ipc.region.header.linuxEpoch cfg.tasks.host) :
    WritesEpoch R cfg.tasks.host.ipc.region.header.linuxEpoch (cfg.stage P K s).2.2.host := by
  -- of the stages only the scheduler writes TX rings
  by_cases hevent : s = .event
  · subst hevent
    refine hw.congr ?_
    simp only [Config.stage]
    unfold drainAllowed
    split
    · exact rtosIpcEventTaskRunOnce_txRings _ _
    · rfl
  by_cases hscheduler : s = .scheduler
  swap
  · exact hw.congr (Config.stage_quiet P K cfg hevent hscheduler).txRings
  subst hscheduler
  have hfence := h.fence hP
  rw [hleft] at hfence
  simp only [Config.stage]
  rcases rtosRouterSchedulerTaskRunOnce_cases P K cfg.tasks cfg.runtime.schedulerBudget with
    ⟨-, heq⟩ | ⟨-, -, heq⟩ | ⟨-, hnormal, heq⟩
  · rw [heq]
    exact hw.congr (retry_givesBack cfg.tasks _).quiet.txRings
  · rw [heq]
    exact hw
  · rw [heq]
    -- a scheduler that runs in the normal state is behind the fence
    have hsees : SeesEpoch cfg.tasks := by
      rcases hfence with hsees | ⟨hstate, -⟩
      · exact hsees
      · exact absurd hnormal hstate
    have hepoch : cfg.tasks.router.currentLinuxEpoch =
        cfg.tasks.host.ipc.region.header.linuxEpoch :=
      (h.governed.synced (.inl hnormal)).trans hsees
    rw [← hepoch] at hw ⊢
    exact drain_writesEpoch h.governed.fenced _ hw

/-- The stages of a call write the epoch of the region header. -/
theorem RuntimeReaches.finish_writesEpoch (hP : P.Succeeds) {l : List Stage}
    (h : RuntimeReaches P K Allowed cfg) (hleft : cfg.left = l)
    (hw : WritesEpoch R cfg.tasks.host.ipc.region.header.linuxEpoch cfg.tasks.host) :
    WritesEpoch R cfg.tasks.host.ipc.region.header.linuxEpoch (cfg.finish P K l).tasks.host := by
  induction l generalizing cfg with
  | nil => exact hw
  | cons s rest ih =>
    have hstage := h.stage_writesEpoch hP hleft hw
    have hheader : (cfg.advance P K s rest).tasks.host.ipc.region.header =
        cfg.tasks.host.ipc.region.header := Config.stage_header P K cfg s
    rw [← hheader] at hstage ⊢
    exact ih (h.stage hleft) rfl hstage

theorem WritesEpoch.written (h : WritesEpoch c.host.ipc.region epoch c'.host) (i : Fin 6)
    {d : Descriptor} (hd : d ∈ writtenTx c c' i) : d.epoch = epoch := by
  obtain ⟨ds, hds, hof⟩ := h i
  unfold writtenTx at hd
  rw [hds, List.drop_left] at hd
  exact hof d hd

theorem RuntimeReaches.initialized (h : RuntimeReaches P K Allowed cfg) :
    cfg.runtime.initialized = true := by
  induction h with
  | @init region ticks schedulerBudget recoveryBudget runtime _ hstart =>
    unfold rtosRuntimeInit at hstart
    simp only at hstart
    split at hstart
    · cases hstart
    · obtain rfl := Except.ok.inj hstart
      rfl
  | call _ _ trigger ackResult ih =>
    unfold Config.begin Runtime.countRun
    split
    · exact ih
    · exact ih
  | stage _ _ ih => exact ih
  | observe _ _ _ ih => exact ih
  | environment _ _ _ ih => exact ih

/-- In the normal state the frame of every reference is queued. -/
theorem queued_of_inUse (hbalanced : (ledger c).Balanced) (hpending : c.host.pendingReclaims = [])
    {f : Fin 64} (hinUse : (c.host.frameReferences f).inUse = true) :
    frameIdOfIndex f ∈ queuedIds c := by
  have hmem := hbalanced f _ (FrameReference.descriptor?_eq_some.mpr ⟨hinUse, rfl⟩)
  rw [ids_ledger, pendingIds, hpending, List.map_nil, List.append_nil] at hmem
  exact hmem

/-- The reference of a queued frame bears the router's epoch. -/
theorem reference_epoch (hbooks : (ledger c).Books) (hfenced : c.router.Fenced) {f : Fin 64}
    (hqueued : frameIdOfIndex f ∈ queuedIds c) :
    (c.host.frameReferences f).descriptor.epoch = c.router.currentLinuxEpoch := by
  obtain ⟨x, hx, hid⟩ := List.mem_map.mp hqueued
  obtain ⟨f', d, hid', href, hof⟩ := hbooks.held (.item x) (List.mem_map_of_mem hx)
  have hitem : x.Of d := hof
  obtain rfl : f' = f := frameIdOfIndex_inj.mp (hid'.symm.trans hid)
  rw [(FrameReference.descriptor?_eq_some.mp href).2]
  exact hitem.epoch.symm.trans (hfenced x hx)

/-- **The epoch fence of the runtime.** With platform calls that succeed,
in every configuration a run reaches: the stage a call goes through next,
and a call as a whole, write descriptors of the region's epoch only; and
in the normal state the router has the epoch last seen, nothing is
frozen, and that epoch is the one of every queued item and of the
reference of every queued frame. As long as the rings keep their headers,
no other frame has a reference. -/
theorem epoch_fencing (hP : P.Succeeds) (h : RuntimeReaches P K Allowed cfg) :
    (∀ s rest, cfg.left = s :: rest →
      ∀ i, ∀ d ∈ writtenTx cfg.tasks (cfg.advance P K s rest).tasks i,
        d.epoch = cfg.tasks.host.ipc.region.header.linuxEpoch) ∧
    (cfg.left = [] → ∀ trigger ackResult i,
      ∀ d ∈ writtenTx cfg.tasks (rtosRuntimeRunOnce P K cfg.runtime trigger ackResult).2.tasks i,
        d.epoch = cfg.tasks.host.ipc.region.header.linuxEpoch) ∧
    (cfg.tasks.host.state = .normal →
      cfg.tasks.router.currentLinuxEpoch = cfg.tasks.host.lastLinuxEpoch ∧
      cfg.tasks.host.pendingReclaims = [] ∧
      (∀ x ∈ cfg.tasks.router.queue.items, x.epoch = cfg.tasks.host.lastLinuxEpoch) ∧
      (∀ f, (cfg.tasks.host.frameReferences f).inUse = true →
        frameIdOfIndex f ∈ queuedIds cfg.tasks →
        (cfg.tasks.host.frameReferences f).descriptor.epoch = cfg.tasks.host.lastLinuxEpoch) ∧
      ((∀ R, Allowed R → R.Valid) → ∀ f, (cfg.tasks.host.frameReferences f).inUse = true →
        frameIdOfIndex f ∈ queuedIds cfg.tasks ∧
        (cfg.tasks.host.frameReferences f).descriptor.epoch = cfg.tasks.host.lastLinuxEpoch)) := by
  have hstart : ∀ (c : TasksContext) (epoch : UInt32),
      WritesEpoch c.host.ipc.region epoch c.host := fun c epoch i =>
    ⟨[], (List.append_nil _).symm, fun d hd => absurd hd List.not_mem_nil⟩
  refine ⟨fun s rest hleft i d hd => ?_, fun hidle trigger ackResult i d hd => ?_, fun hnormal => ?_⟩
  · exact (h.stage_writesEpoch hP hleft (hstart _ _)).written i hd
  · -- a call is its stages
    have hcall : RuntimeReaches P K Allowed (cfg.begin trigger ackResult) := h.call hidle _ _
    have hw := hcall.finish_writesEpoch hP rfl (hstart _ _)
    have hends : ((cfg.begin trigger ackResult).finish P K (stages trigger)).tasks =
        (rtosRuntimeRunOnce P K cfg.runtime trigger ackResult).2.tasks :=
      congrArg Runtime.tasks (Config.finish_begin cfg trigger ackResult h.initialized)
    rw [Config.begin_tasks] at hw
    refine WritesEpoch.written ?_ i hd
    rw [← hends]
    exact hw
  · have hgoverned := h.governed
    have hsynced := hgoverned.synced (.inl hnormal)
    have hepoch : ∀ f, frameIdOfIndex f ∈ queuedIds cfg.tasks →
        (cfg.tasks.host.frameReferences f).descriptor.epoch = cfg.tasks.host.lastLinuxEpoch :=
      fun f hqueued => (reference_epoch h.books hgoverned.fenced hqueued).trans hsynced
    refine ⟨hsynced, hgoverned.idle hnormal, fun x hx => ?_, fun f _ => hepoch f,
      fun hvalid f hinUse => ?_⟩
    · exact (hgoverned.fenced x hx).trans hsynced
    · obtain ⟨-, hbalanced⟩ := (h.mono hvalid).sound
      have hqueued := queued_of_inUse (hbalanced hP) (hgoverned.idle hnormal) hinUse
      exact ⟨hqueued, hepoch f hqueued⟩

/-! ## A frame that is sent -/

/-- Linux has sent a frame of its epoch. -/
def offeredConfig : Config :=
  idleConfig.withRegion (offering (Linux.formatRegion 1 1) [plainDescriptor 0 1])

/-- A call has received it and comes to the scheduler. -/
def receivedConfig : Config :=
  [Stage.preflight, .retry, .recovery, .event].foldl
    (fun cfg s => cfg.advance .defaultOps (fun _ => 0) s cfg.left.tail) (offeredConfig.begin .doorbell .ok)

set_option maxRecDepth 100000 in
/-- The frame is referenced and queued before the scheduler runs, and a
call as a whole sends it: with the epoch of the region in either case. -/
theorem epoch_fencing_offered :
    ((receivedConfig.tasks.host.frameReferences 0).inUse = true ∧
      (receivedConfig.tasks.host.frameReferences 0).descriptor.epoch = 1) ∧
    (writtenTx offeredConfig.tasks
      (rtosRuntimeRunOnce .defaultOps (fun _ => 0) offeredConfig.runtime .doorbell .ok).2.tasks
        1).length = 1 ∧
    ∀ trigger ackResult i, ∀ d ∈ writtenTx offeredConfig.tasks
      (rtosRuntimeRunOnce .defaultOps (fun _ => 0) offeredConfig.runtime trigger ackResult).2.tasks i,
      d.epoch = 1 := by
  have hinit : RuntimeReaches .defaultOps (fun _ => 0) Region.Valid idleConfig :=
    .init (Linux.formatRegion_valid 1 1) idleConfig_init
  have hoffered : RuntimeReaches .defaultOps (fun _ => 0) Region.Valid offeredConfig :=
    hinit.environment (offering_valid (Linux.formatRegion_valid 1 1) _) fun hleft => absurd rfl hleft
  have hreceived : RuntimeReaches .defaultOps (fun _ => 0) Region.Valid receivedConfig :=
    ((((hoffered.call rfl .doorbell .ok).stage rfl).stage rfl).stage rfl).stage rfl
  have hinUse : (receivedConfig.tasks.host.frameReferences 0).inUse = true := by decide +kernel
  have hlast : receivedConfig.tasks.host.lastLinuxEpoch = 1 := by decide +kernel
  have hstate := (epoch_fencing Platform.defaultOps_succeeds hreceived).2.2 (by decide +kernel)
  exact ⟨⟨hinUse, (hstate.2.2.2.2 (fun _ hR => hR) 0 hinUse).2.trans hlast⟩, by decide +kernel,
    (epoch_fencing Platform.defaultOps_succeeds hoffered).2.1 rfl⟩

/-! ## A frame that cannot be given back -/

/-- Linux has sent a frame of another epoch than the region's, and the
header of the reclaim ring is damaged. -/
def strayConfig : Config := idleConfig.withRegion strayRegion

set_option maxRecDepth 100000 in
/-- **A reference of another epoch in the normal state**: the router
refuses the frame for its epoch, and its reclaim cannot be written. A
call on a doorbell does not look at the headers of the rings. -/
theorem not_epoch_fencing :
    ¬ ∀ (P : Platform) (K : Clock) (cfg : Config), P.Succeeds →
      RuntimeReaches P K (fun _ => True) cfg → cfg.tasks.host.state = .normal →
      ∀ f, (cfg.tasks.host.frameReferences f).inUse = true →
        (cfg.tasks.host.frameReferences f).descriptor.epoch = cfg.tasks.host.lastLinuxEpoch := by
  intro hclaim
  have hstray : RuntimeReaches .defaultOps (fun _ => 0) (fun _ => True) strayConfig :=
    idleConfig_reaches.environment trivial fun hleft => absurd rfl hleft
  have hdone := (hstray.call rfl .doorbell .ok).finish rfl
  have hepoch := hclaim .defaultOps (fun _ => 0) _ Platform.defaultOps_succeeds hdone
    (by decide +kernel) 2 (by decide +kernel)
  revert hepoch
  decide +kernel

end Rtos

end PutGateway
