import PutGateway.Rtos.RuntimeRuns
/-!
# Frozen reclaims

What the list of frozen reclaims keeps in every run, whatever lies in the
region and whatever the platform answers: it has at most 64 entries, and
each of them can be written once the ring has room. With this a retry
with platform calls that succeed is exact: it writes as many as its
budget, the list and the room of the ring allow.
-/

namespace PutGateway

namespace Rtos

variable {P : Platform} {K : Clock} {t t' : Tasks} {c c' : TasksContext} {o : RouteOutput}

/-! ## The invariant -/

/-- A reclaim the ring takes once it has room. -/
structure RouteOutput.Writable (o : RouteOutput) : Prop where
  frameId : o.frameId < 64
  source : isInterfaceValid o.sourceInterface.toUInt8 = true
  target : isInterfaceValid o.targetInterface.toUInt8 = true

/-- The frozen reclaims fit into their list and can be written. -/
structure Tasks.WellFrozen (t : Tasks) : Prop where
  initialized : t.ipc.initialized = true
  length : t.pendingReclaims.length ≤ 64
  writable : ∀ o ∈ t.pendingReclaims, o.Writable

theorem Tasks.WellFrozen.congr (h : t.WellFrozen) (hinit : t'.ipc.initialized = t.ipc.initialized)
    (hpending : t'.pendingReclaims = t.pendingReclaims) : t'.WellFrozen :=
  ⟨hinit.trans h.initialized, by rw [hpending]; exact h.length, by rw [hpending]; exact h.writable⟩

/-- What is refused for a full ring can be written later. -/
theorem RouteOutput.Writable.of_reclaimFrame (h : (reclaimFrame P t o).1 = .ipcQueueFull) :
    o.Writable := by
  by_contra hnot
  have hbad : ¬ (o.frameId < 64 ∧ isInterfaceValid o.sourceInterface.toUInt8 = true ∧
      isInterfaceValid o.targetInterface.toUInt8 = true) := fun hgood =>
    hnot ⟨hgood.1, hgood.2.1, hgood.2.2⟩
  exact (rtosShmIpcReclaimFrame_refuses P t.ipc hbad o.reclaimReason o.epoch o.flags).2.1 h

theorem Tasks.WellFrozen.store (h : t.WellFrozen) (ho : o.Writable) :
    (storePendingReclaim K t o).2.WellFrozen := by
  unfold storePendingReclaim
  split
  · exact h.congr rfl rfl
  split
  · exact h.congr rfl rfl
  next hroom =>
  refine ⟨h.initialized, ?_, ?_⟩
  · have hlength : (t.pendingReclaims ++ [o]).length ≤ 64 := by
      unfold pendingReclaimCapacity at hroom
      rw [List.length_append, List.length_singleton]
      omega
    exact hlength
  · intro o' ho'
    rcases List.mem_append.mp ho' with ho' | ho'
    · exact h.writable o' ho'
    · rw [List.mem_singleton.mp ho']
      exact ho

theorem clearFrameReference_pending (t : Tasks) (frameId : UInt32) :
    (clearFrameReference t frameId).pendingReclaims = t.pendingReclaims := by
  obtain ⟨references, heq⟩ := clearFrameReference_eq t frameId
  rw [heq]

theorem Tasks.WellFrozen.clear (h : t.WellFrozen) (frameId : UInt32) :
    (clearFrameReference t frameId).WellFrozen :=
  h.congr (by rw [clearFrameReference_ipc]) (clearFrameReference_pending t frameId)

theorem Tasks.WellFrozen.reclaimSink (h : t.WellFrozen) (output : RouteOutput) :
    (rtosTasksReclaimSink P K output t).2.WellFrozen := by
  unfold rtosTasksReclaimSink
  split
  · exact h
  split
  · exact h
  split
  · exact h
  next f _ _ =>
  have hkept : (reclaimFrame P t (withRxMetadata output
    (t.frameReferences f).descriptor)).2.WellFrozen :=
    h.congr (reclaimFrame_served P t _).1.initialized rfl
  have hwritable := RouteOutput.Writable.of_reclaimFrame (P := P) (t := t)
    (o := withRxMetadata output (t.frameReferences f).descriptor)
  simp only
  generalize reclaimFrame P t (withRxMetadata output (t.frameReferences f).descriptor) = r
    at hkept hwritable ⊢
  split
  · refine Tasks.WellFrozen.clear ?_ _
    exact hkept.congr rfl rfl
  split
  · next hfull =>
    refine Tasks.WellFrozen.store ?_ (hwritable hfull)
    exact hkept.congr rfl rfl
  · exact hkept

/-- The TX sink freezes nothing. -/
theorem rtosTasksTxSink_pending (output : RouteOutput) (t : Tasks) :
    (rtosTasksTxSink P output t).2.pendingReclaims = t.pendingReclaims := by
  unfold rtosTasksTxSink
  split
  · rfl
  split
  · rfl
  split
  · rfl
  simp only
  split
  · exact clearFrameReference_pending _ _
  · rfl

theorem Tasks.WellFrozen.txSink (h : t.WellFrozen) (output : RouteOutput) :
    (rtosTasksTxSink P output t).2.WellFrozen :=
  h.congr (rtosTasksTxSink_served P output t).initialized (rtosTasksTxSink_pending output t)

/-- The reclaim sink thaws nothing. -/
theorem rtosTasksReclaimSink_pending (output : RouteOutput) (t : Tasks) :
    t.pendingReclaims <+: (rtosTasksReclaimSink P K output t).2.pendingReclaims := by
  have hstore : ∀ (t : Tasks) (output : RouteOutput),
      t.pendingReclaims <+: (storePendingReclaim K t output).2.pendingReclaims := by
    intro t output
    unfold storePendingReclaim
    split
    · exact List.prefix_rfl
    split
    · exact List.prefix_rfl
    · exact List.prefix_append _ _
  unfold rtosTasksReclaimSink
  split
  · exact List.prefix_rfl
  split
  · exact List.prefix_rfl
  split
  · exact List.prefix_rfl
  next f _ _ =>
  -- writing to the ring touches no frozen reclaim
  have hkept : (reclaimFrame P t (withRxMetadata output
    (t.frameReferences f).descriptor)).2.pendingReclaims =
      t.pendingReclaims := rfl
  simp only
  generalize reclaimFrame P t (withRxMetadata output (t.frameReferences f).descriptor) = r at hkept ⊢
  split
  · rw [clearFrameReference_pending, ← hkept]
  split
  · rw [← hkept]
    exact hstore { r.2 with
      statistics := { r.2.statistics with reclaimFullCount := r.2.statistics.reclaimFullCount + 1 } } _
  · rw [hkept]

/-- The sinks of the tasks, for the frozen reclaims. -/
theorem wellFrozen_keep : SinksKeep (tasksSinks P K) (fun _ t => t.WellFrozen) where
  perm _ h := h
  now h := h.congr rfl rfl
  retry h := h
  reroute h := h
  sent h _ := h.txSink _
  unsent h _ := h.txSink _
  reclaimed h := h.reclaimSink _

theorem wellFrozen_submit (input : RouteInput) :
    SubmitKeeps (tasksSinks P K) (fun _ t => t.WellFrozen) input (fun _ t => t.WellFrozen) where
  now h := h.congr rfl rfl
  reclaimed h := h.reclaimSink _
  queued h _ := h

theorem ReceiveStep.wellFrozen (hstep : ReceiveStep P K t t') (h : t.WellFrozen) : t'.WellFrozen := by
  refine h.congr hstep.served.initialized ?_
  cases hstep with
  | register d =>
    unfold registerFrameReference
    split
    · rfl
    split
    · rfl
    · rfl
  | clear frameId => exact clearFrameReference_pending _ _
  | _ => rfl

theorem receives_wellFrozen : Receives P K (fun c => c.host.WellFrozen) where
  step hstep h := hstep.wellFrozen h
  submit input h := (wellFrozen_submit input).submit wellFrozen_keep h

theorem Tasks.WellFrozen.retry (h : t.WellFrozen) (budget : UInt32) :
    (rtosTasksRetryPendingReclaims P K t budget).2.WellFrozen := by
  obtain ⟨hretried, -⟩ := rtosTasksRetryPendingReclaims_cases (P := P) (K := K) t budget
  refine ⟨hretried.initialized.trans h.initialized, hretried.frozen.length_le.trans h.length, ?_⟩
  exact fun o ho => h.writable o (hretried.frozen.subset ho)

theorem Tasks.WellFrozen.orphanLoop (h : t.WellFrozen) (budget : UInt32) (l : List (Fin 64))
    (k : UInt32) : (orphanLoop P K budget l k t).2.WellFrozen := by
  induction l generalizing t k with
  | nil => exact h
  | cons f rest ih =>
    unfold Rtos.orphanLoop
    split
    · exact h
    split
    · exact ih h k
    have hcounted : ({ t with history := t.history.countOrphan } : Tasks).WellFrozen := h.congr rfl rfl
    have hreclaimed := hcounted.reclaimSink (P := P) (K := K)
      (orphanOutput f (t.frameReferences f).descriptor)
    simp only
    generalize rtosTasksReclaimSink P K (orphanOutput f (t.frameReferences f).descriptor)
      { t with history := t.history.countOrphan } = r at hreclaimed ⊢
    split
    · exact hreclaimed
    · exact ih hreclaimed _

theorem Tasks.WellFrozen.sameFrames (h : t.WellFrozen) (hsame : t.SameFrames t') : t'.WellFrozen :=
  h.congr (by rw [hsame.ipc]) hsame.pending

theorem Tasks.WellFrozen.recoveryTask (h : c.host.WellFrozen) (budget : UInt32) :
    (rtosRecoveryTaskRunOnce P K c budget).2.host.WellFrozen := by
  obtain ⟨hipc, -, hpending, -, -⟩ := startRecovery_frames c
  have hstart : (startRecovery c).host.WellFrozen := h.congr (by rw [hipc]) hpending
  have hgiven : (recoveredFrames P K c budget).host.WellFrozen := by
    refine recoverFrames_keeps (I := fun c => c.host.WellFrozen) ?_ ?_ ?_ hstart budget
    · exact fun c budget h => h.retry budget
    · exact fun c budget h => wellFrozen_keep.reclaimQueuedLoop h
    · exact fun c budget h _ => h.orphanLoop budget _ _
  rcases rtosRecoveryTaskRunOnce_cases P K c budget with
    ⟨-, -, heq⟩ | ⟨-, ⟨-, heq⟩ | ⟨-, -, heq⟩ | ⟨-, -, -, heq⟩⟩
  · rw [heq]
    exact h
  · rw [heq]
    exact hgiven.congr rfl rfl
  · rw [heq]
    exact hgiven.congr rfl rfl
  · rw [heq]
    obtain ⟨-, hkept, -, -⟩ := finishRecovery_frames K (recoveredFrames P K c budget)
    exact hgiven.congr
      ((finishRecovery_initialized hgiven.initialized).trans hgiven.initialized.symm) hkept

/-- **Every operation keeps the frozen reclaims writable.** -/
theorem Tasks.WellFrozen.run (h : c.host.WellFrozen) (op : Operation) :
    (op.run P K c).host.WellFrozen := by
  cases op with
  | eventTask trigger =>
    rcases rtosIpcEventTaskRunOnce_cases P K c trigger with
      ⟨hnormal, -⟩ | ⟨-, t, ht, ⟨-, heq⟩ | ⟨-, heq⟩⟩
    · exact receives_wellFrozen.eventTask h hnormal trigger
    · simp only [Operation.run, heq]
      exact h.sameFrames ht.toSameFrames
    · simp only [Operation.run, heq]
      exact (h.sameFrames ht.toSameFrames).retry 64
  | schedulerTask budget =>
    rcases rtosRouterSchedulerTaskRunOnce_cases P K c budget with
      ⟨-, heq⟩ | ⟨-, -, heq⟩ | ⟨-, -, heq⟩
    · simp only [Operation.run, heq]
      exact h.retry budget
    · simp only [Operation.run, heq]
      exact h
    · simp only [Operation.run, heq]
      exact wellFrozen_keep.drain budget h
  | retryPendingReclaims budget => exact h.retry budget
  | heartbeatTask => exact h.sameFrames (rtosHeartbeatTaskRunOnce_snd K c).1
  | errorMonitorTask => exact h.sameFrames (rtosErrorMonitorTaskRunOnce_snd K c).1
  | recoveryTask budget => exact h.recoveryTask budget
  | statisticsTask => exact h.congr rfl rfl
  | observeLinuxHeartbeat sequence => exact h.congr rfl rfl

variable {Allowed : Region → Prop} {cfg : Config}

theorem RuntimeReaches.wellFrozen (h : RuntimeReaches P K Allowed cfg) :
    cfg.tasks.host.WellFrozen := by
  refine h.invariant (I := fun c => c.host.WellFrozen) ?_ ?_ ?_ ?_
  · exact fun ipc hinit _ ticks => ⟨hinit, Nat.zero_le _, fun o ho => absurd ho List.not_mem_nil⟩
  · exact fun c hc => hc.congr rfl rfl
  · exact fun c op hc => hc.run op
  · exact fun c R _ hc => hc.congr rfl rfl

/-! ## An exact retry -/

/-- The free entries of the reclaim ring. -/
def reclaimRoom (R : Region) : ℕ := 8 - R.view.reclaim.length

/-- How many frozen reclaims a retry writes. -/
def retriedCount (t : Tasks) (budget : ℕ) : ℕ :=
  min (min budget t.pendingReclaims.length) (reclaimRoom t.ipc.region)

theorem reclaimWritten_eq (t : Tasks) (frameId : UInt32) :
    (reclaimWritten t frameId).ipc = t.ipc ∧
      (reclaimWritten t frameId).pendingReclaims = t.pendingReclaims.tail := by
  obtain ⟨references, heq⟩ := clearFrameReference_eq t frameId
  unfold reclaimWritten
  rw [heq]
  exact ⟨rfl, rfl⟩

/-- The reclaim at the head of the list, with platform calls that succeed:
refused on a full ring, written on any other. -/
theorem reclaimFrame_exact (hP : P.Succeeds) (h : t.WellFrozen) (hv : t.ipc.region.Valid)
    (ho : o.Writable) :
    (reclaimFrame P t o).2.ipc.region.Valid ∧
      ((reclaimRoom t.ipc.region = 0 ∧ (reclaimFrame P t o).1 = .ipcQueueFull ∧
          reclaimRoom (reclaimFrame P t o).2.ipc.region = 0) ∨
        (0 < reclaimRoom t.ipc.region ∧ (reclaimFrame P t o).1 = .ok ∧
          reclaimRoom (reclaimFrame P t o).2.ipc.region = reclaimRoom t.ipc.region - 1)) := by
  rcases rtosShmIpcReclaimFrame_succeeds hP h.initialized hv ho.frameId ho.source ho.target
    o.reclaimReason o.epoch o.flags with ⟨hfull, hres, hbecomes⟩ | ⟨hroom, hres, hbecomes⟩
  · have hview : (reclaimFrame P t o).2.ipc.region.view = t.ipc.region.view := hbecomes.view
    refine ⟨hbecomes.valid, .inl ⟨by unfold reclaimRoom; omega, hres, ?_⟩⟩
    unfold reclaimRoom
    rw [hview]
    omega
  · have hqueues : (reclaimFrame P t o).2.ipc.region.view = _ := hbecomes.view
    refine ⟨hbecomes.valid, .inr ⟨by unfold reclaimRoom; omega, hres, ?_⟩⟩
    unfold reclaimRoom
    rw [hqueues, Queues.setReclaim_reclaim, List.length_append, List.length_singleton]
    omega

/-- **The loop of a retry**, with platform calls that succeed, writes as
many frozen reclaims as its budget and the ring allow, and changes the
state where the ring was the limit. -/
theorem retryLoop_exact (hP : P.Succeeds) (h : t.WellFrozen) (hv : t.ipc.region.Valid) (n : ℕ)
    (k : UInt32) :
    let t' := (retryLoop P K n k t).2
    t'.pendingReclaims = t.pendingReclaims.drop (retriedCount t n) ∧
      t'.ipc.region.Valid ∧
      reclaimRoom t'.ipc.region = reclaimRoom t.ipc.region - retriedCount t n ∧
      t'.state = if retriedCount t n < min n t.pendingReclaims.length then retryBlockedState t.state
        else t.state := by
  induction n generalizing t k with
  | zero => simp [retryLoop, retriedCount, hv]
  | succ n ih =>
    unfold retryLoop
    split
    · next hnil => simp [retriedCount, hnil, hv]
    next o rest hpending =>
    have ho := h.writable o (by rw [hpending]; exact List.mem_cons_self)
    have hlength : t.pendingReclaims.length = rest.length + 1 := by rw [hpending]; rfl
    obtain ⟨hvalid, hends⟩ := reclaimFrame_exact hP h hv ho
    have hkept : (reclaimFrame P t o).2.WellFrozen :=
      h.congr (reclaimFrame_served P t o).1.initialized rfl
    have hpending' : (reclaimFrame P t o).2.pendingReclaims = t.pendingReclaims := rfl
    have hstate' : (reclaimFrame P t o).2.state = t.state := rfl
    simp only
    generalize reclaimFrame P t o = r at hvalid hends hkept hpending' hstate' ⊢
    rcases hends with ⟨hfull, hres, hroom⟩ | ⟨hfree, hres, hroom⟩
    · -- the ring is full
      have hcount : retriedCount t (n + 1) = 0 := by unfold retriedCount; omega
      rw [if_pos hres, hcount, if_pos (by omega)]
      exact ⟨hpending', hvalid, hroom.trans hfull.symm, congrArg retryBlockedState hstate'⟩
    · -- the reclaim is written
      rw [if_neg (by rw [hres]; simp), if_neg (not_not.mpr hres)]
      obtain ⟨-, hstate⟩ := reclaimWritten_retried r.2 o.frameId
      obtain ⟨hipc, hrest⟩ := reclaimWritten_eq r.2 o.frameId
      rw [hpending', hpending, List.tail_cons] at hrest
      have hwritten : (reclaimWritten r.2 o.frameId).WellFrozen := by
        refine ⟨by rw [hipc]; exact hkept.initialized, ?_, ?_⟩
        · have hle := h.length
          rw [hrest]
          omega
        · rw [hrest]
          exact fun o' ho' => h.writable o' (by rw [hpending]; exact List.mem_cons_of_mem _ ho')
      have hvalid' : (reclaimWritten r.2 o.frameId).ipc.region.Valid := by
        rw [hipc]
        exact hvalid
      obtain ⟨hdrop, hends, hleft, hfinal⟩ := ih hwritten hvalid' (k + 1)
      have hcount : retriedCount t (n + 1) = retriedCount (reclaimWritten r.2 o.frameId) n + 1 := by
        unfold retriedCount
        rw [hipc, hrest, hlength, hroom]
        omega
      rw [hstate, hstate', hrest] at hfinal
      rw [hipc, hroom] at hleft
      refine ⟨?_, hends, ?_, ?_⟩
      · rw [hcount, hpending, List.drop_succ_cons]
        rw [hrest] at hdrop
        exact hdrop
      · refine hleft.trans ?_
        rw [hcount]
        omega
      · rw [hcount, hlength]
        refine hfinal.trans ?_
        congr 1
        rw [eq_iff_iff]
        omega

/-- **A retry**, with platform calls that succeed: what it writes, and the
state it leaves. -/
theorem rtosTasksRetryPendingReclaims_exact (hP : P.Succeeds) (h : t.WellFrozen)
    (hv : t.ipc.region.Valid) (budget : UInt32) :
    let t' := (rtosTasksRetryPendingReclaims P K t budget).2
    let written := retriedCount t budget.toNat
    t'.pendingReclaims = t.pendingReclaims.drop written ∧
      t'.ipc.region.Valid ∧
      reclaimRoom t'.ipc.region = reclaimRoom t.ipc.region - written ∧
      t'.state =
        if written = t.pendingReclaims.length then if t.Recovering then .recovery else .normal
        else if written < budget.toNat then retryBlockedState t.state
        else t.state := by
  obtain ⟨hdrop, hvalid, hroom, hstate⟩ := retryLoop_exact (K := K) hP h hv budget.toNat 0
  obtain ⟨hretried, -⟩ := retryLoop_retried (P := P) (K := K) t budget.toNat 0
  have hle : retriedCount t budget.toNat ≤ t.pendingReclaims.length ∧
      retriedCount t budget.toNat ≤ budget.toNat := by
    unfold retriedCount
    omega
  have hflags := Tasks.Recovering.iff_of_eq hretried.recovery
  unfold rtosTasksRetryPendingReclaims
  simp only
  generalize retryLoop P K budget.toNat 0 t = r at hdrop hvalid hroom hstate hflags ⊢
  -- the list is empty where the count has reached its length
  have hnil : r.2.pendingReclaims = [] ↔ retriedCount t budget.toNat = t.pendingReclaims.length := by
    rw [hdrop, List.drop_eq_nil_iff]
    omega
  by_cases hdone : r.2.pendingReclaims = []
  · rw [if_pos hdone, if_pos (hnil.mp hdone)]
    refine ⟨hdrop, hvalid, hroom, ?_⟩
    have hflag : (r.2.monitor.recovery.recoveryPending || r.2.monitor.recovery.recoveryActive) =
        true ↔ t.Recovering := by
      rw [Bool.or_eq_true]
      exact hflags
    by_cases hrecovering : t.Recovering
    · rw [if_pos hrecovering]
      exact if_pos (hflag.mpr hrecovering)
    · rw [if_neg hrecovering]
      exact if_neg fun hon => hrecovering (hflag.mp hon)
  · rw [if_neg hdone, if_neg fun heq => hdone (hnil.mpr heq)]
    refine ⟨hdrop, hvalid, hroom, hstate.trans ?_⟩
    have hnot : retriedCount t budget.toNat ≠ t.pendingReclaims.length :=
      fun heq => hdone (hnil.mpr heq)
    congr 1
    rw [eq_iff_iff]
    omega

end Rtos

end PutGateway
