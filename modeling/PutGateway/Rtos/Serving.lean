import PutGateway.Rtos.Control
import PutGateway.Rtos.Receiving
/-!
# Serving frames, over the whole context

Draining, scheduling and reclaiming leave the control state to the sinks,
and the router's rules alone. A retry writes frozen reclaims, and what it
leaves depends on the recovery flags once nothing is frozen.
-/

namespace PutGateway

namespace Rtos

variable {P : Platform} {K : Clock} {t t' t'' : Tasks} {c c' c'' : TasksContext}

/-! ## Serving, over the whole context -/

/-- A context serves frames. -/
structure Serves (c c' : TasksContext) : Prop where
  host : c.host.Served c'.host
  rules : c.router.SameRules c'.router
  fenced : c.router.Fenced → c'.router.Fenced

theorem Serves.refl (c : TasksContext) : Serves c c := ⟨.refl _, .refl _, id⟩

theorem Serves.trans (h : Serves c c') (h' : Serves c' c'') : Serves c c'' :=
  ⟨h.host.trans h'.host, h.rules.trans h'.rules, fun hf => h'.fenced (h.fenced hf)⟩

/-- A context whose host alone changes. -/
theorem Serves.ofHost (h : c.host.Served t) : Serves c { c with host := t } :=
  ⟨h, .refl _, id⟩

theorem rtosRouterAdapterDescriptorToInput_region (P : Platform) (shm : RtosShm) (d : Descriptor)
    (nowMs : UInt32) :
    (rtosRouterAdapterDescriptorToInput P shm d nowMs).2.2.region = shm.region ∧
      (rtosRouterAdapterDescriptorToInput P shm d nowMs).2.2.initialized = shm.initialized := by
  have hframe : (rtosShmIpcGetFrameConst P shm d).2.2.region = shm.region ∧
      (rtosShmIpcGetFrameConst P shm d).2.2.initialized = shm.initialized := by
    unfold rtosShmIpcGetFrameConst
    split
    · exact ⟨rfl, rfl⟩
    split
    · exact ⟨rfl, rfl⟩
    split
    · exact ⟨rfl, rfl⟩
    simp only
    split
    · exact ⟨rfl, rfl⟩
    · exact ⟨rfl, rfl⟩
  unfold rtosRouterAdapterDescriptorToInput
  generalize rtosShmIpcGetFrameConst P shm d = r at hframe ⊢
  obtain ⟨result, frame, shm'⟩ := r
  cases frame with
  | none => exact hframe
  | some frame => exact hframe

/-- Submitting serves, and takes and sends nothing. -/
theorem submit_serves (c : TasksContext) (input : RouteInput) :
    Serves c (rtosRouterSubmit (tasksSinks P K) c input).2 ∧
      c.host.Quiet (rtosRouterSubmit (tasksSinks P K) c input).2.host := by
  refine ⟨⟨?_, (RouterContext.SameRules.refl _).submit, fun h => h.submit input⟩, ?_⟩
  · exact (served_submit c.host input).submit (served_keep c.host) (.refl _)
  · rw [rtosRouterSubmit_reclaimSinks]
    exact (quiet_submit c.host input).submit (quiet_keep c.host) (.refl _)

theorem ReceiveStep.served (h : ReceiveStep P K t t') : t.Served t' := by
  have hkeep : ∀ ipc : RtosShm, ipc.region.header = t.ipc.region.header →
      ipc.initialized = t.ipc.initialized → t.Served { t with ipc := ipc } :=
    fun ipc hheader hinit => (Tasks.Served.refl t).congr rfl rfl rfl hheader hinit rfl rfl
  cases h with
  | count => exact (Tasks.Served.refl t).congr rfl rfl rfl rfl rfl rfl rfl
  | doorbell => exact (Tasks.Served.refl t).congr rfl rfl rfl rfl rfl rfl rfl
  | tick => exact (Tasks.Served.refl t).congr rfl rfl rfl rfl rfl rfl rfl
  | take i =>
    obtain ⟨hheader, hinit⟩ := rtosShmIpcDequeueRxDescriptor_header P t.ipc i
    exact hkeep _ hheader hinit
  | read d nowMs =>
    obtain ⟨hregion, hinit⟩ := rtosRouterAdapterDescriptorToInput_region P t.ipc d nowMs
    exact hkeep _ (congrArg Region.header hregion) hinit
  | snapshot =>
    obtain ⟨hregion, hinit⟩ := rtosShmIpcGetRxPendingSnapshot_snd P t.ipc
    exact hkeep _ (congrArg Region.header hregion) hinit
  | register d =>
    unfold registerFrameReference
    split
    · exact .refl t
    split
    · exact .refl t
    · exact (Tasks.Served.refl t).congr rfl rfl rfl rfl rfl rfl rfl
  | clear frameId => exact clearFrameReference_served (.refl t) frameId

/-- **Receiving serves.** -/
theorem receives_serves (c : TasksContext) : Receives P K (Serves c) where
  step hstep h := h.trans (.ofHost hstep.served)
  submit input h := h.trans (submit_serves _ input).1

theorem drain_serves (c : TasksContext) (budget : UInt32) :
    Serves c (rtosRouterDrain (tasksSinks P K) c budget).2 :=
  ⟨(served_keep c.host).drain budget (.refl _), (RouterContext.SameRules.refl _).drainLoop,
    fun h => h.drainLoop _ _⟩

/-- Reclaiming the queue serves, and takes and sends nothing. -/
theorem reclaimQueued_serves (c : TasksContext) (reason : ReclaimReason) (budget : UInt32) :
    Serves c (rtosRouterReclaimQueued (tasksSinks P K) c reason budget).2 ∧
      c.host.Quiet (rtosRouterReclaimQueued (tasksSinks P K) c reason budget).2.host := by
  refine ⟨⟨(served_keep c.host).reclaimQueued reason budget (.refl _),
    (RouterContext.SameRules.refl _).reclaimQueuedLoop, fun h => h.reclaimQueuedLoop _ _ _⟩, ?_⟩
  unfold rtosRouterReclaimQueued
  rw [reclaimQueuedLoop_reclaimSinks]
  exact (quiet_keep c.host).reclaimQueuedLoop (.refl _)

theorem orphanLoop_serves (t : Tasks) (budget : UInt32) (l : List (Fin 64)) (k : UInt32) :
    t.Served (orphanLoop P K budget l k t).2 ∧ t.Quiet (orphanLoop P K budget l k t).2 := by
  induction l generalizing t k with
  | nil => exact ⟨.refl t, .refl t⟩
  | cons f rest ih =>
    unfold orphanLoop
    split
    · exact ⟨.refl t, .refl t⟩
    split
    · exact ih t k
    obtain ⟨hserved, hquiet⟩ := rtosTasksReclaimSink_served P K
      (orphanOutput f (t.frameReferences f).descriptor) { t with history := t.history.countOrphan }
    have hcounted : t.Served { t with history := t.history.countOrphan } :=
      (Tasks.Served.refl t).congr rfl rfl rfl rfl rfl rfl rfl
    have hkept : t.Quiet { t with history := t.history.countOrphan } := ⟨rfl, rfl⟩
    simp only
    generalize rtosTasksReclaimSink P K (orphanOutput f (t.frameReferences f).descriptor)
      { t with history := t.history.countOrphan } = r at hserved hquiet ⊢
    split
    · exact ⟨hcounted.trans hserved, hkept.trans hquiet⟩
    · obtain ⟨hserved', hquiet'⟩ := ih r.2 (k + 1)
      exact ⟨(hcounted.trans hserved).trans hserved', (hkept.trans hquiet).trans hquiet'⟩

/-! ## Retrying -/

/-- Frozen reclaims were written, oldest first. -/
structure Tasks.Retried (t t' : Tasks) : Prop extends Tasks.Steady t t', Tasks.Quiet t t' where
  frozen : t'.pendingReclaims <:+ t.pendingReclaims

theorem Tasks.Retried.trans (h : t.Retried t') (h' : t'.Retried t'') : t.Retried t'' :=
  ⟨h.toSteady.trans h'.toSteady, h.toQuiet.trans h'.toQuiet, h'.frozen.trans h.frozen⟩

theorem clearFrameReference_eq (t : Tasks) (frameId : UInt32) :
    ∃ references, clearFrameReference t frameId = { t with frameReferences := references } := by
  unfold clearFrameReference
  split
  · exact ⟨t.frameReferences, rfl⟩
  · exact ⟨_, rfl⟩

/-- The context once a frozen reclaim has been written. -/
def reclaimWritten (t : Tasks) (frameId : UInt32) : Tasks :=
  let t := removePendingReclaim (clearFrameReference t frameId)
  { t with
    statistics := { t.statistics with
      reclaimEnqueueCount := t.statistics.reclaimEnqueueCount + 1
      pendingReclaimRetryCount := t.statistics.pendingReclaimRetryCount + 1 } }

theorem reclaimWritten_retried (t : Tasks) (frameId : UInt32) :
    t.Retried (reclaimWritten t frameId) ∧ (reclaimWritten t frameId).state = t.state := by
  obtain ⟨references, heq⟩ := clearFrameReference_eq t frameId
  unfold reclaimWritten
  rw [heq]
  exact ⟨⟨⟨rfl, rfl, rfl, rfl, rfl⟩, ⟨rfl, rfl⟩, List.tail_suffix _⟩, rfl⟩

theorem reclaimFrame_retried (P : Platform) (t : Tasks) (output : RouteOutput) :
    t.Retried (reclaimFrame P t output).2 := by
  obtain ⟨hserved, hquiet⟩ := reclaimFrame_served P t output
  exact ⟨hserved.toSteady, hquiet, List.suffix_refl _⟩

/-- The loop changes the state only where it meets a full ring with
something left to write. -/
theorem retryLoop_retried (t : Tasks) (n : ℕ) (k : UInt32) :
    t.Retried (retryLoop P K n k t).2 ∧
      ((retryLoop P K n k t).2.state = t.state ∨
        ((retryLoop P K n k t).2.pendingReclaims ≠ [] ∧
          (retryLoop P K n k t).2.state = retryBlockedState t.state)) := by
  induction n generalizing t k with
  | zero => exact ⟨⟨.refl t, .refl t, List.suffix_refl _⟩, .inl rfl⟩
  | succ n ih =>
    unfold retryLoop
    split
    · exact ⟨⟨.refl t, .refl t, List.suffix_refl _⟩, .inl rfl⟩
    next output rest hpending =>
    have hretried := reclaimFrame_retried P t output
    have hframes : (reclaimFrame P t output).2.pendingReclaims = t.pendingReclaims := rfl
    have hstate : (reclaimFrame P t output).2.state = t.state := rfl
    simp only
    generalize reclaimFrame P t output = r at hretried hframes hstate ⊢
    split
    · -- the ring is full
      refine ⟨hretried.trans ⟨⟨rfl, rfl, rfl, rfl, rfl⟩, ⟨rfl, rfl⟩, List.suffix_refl _⟩,
        .inr ⟨?_, congrArg retryBlockedState hstate⟩⟩
      have hne : r.2.pendingReclaims ≠ [] := by
        rw [hframes, hpending]
        exact List.cons_ne_nil _ _
      exact hne
    split
    · exact ⟨hretried, .inl hstate⟩
    · -- written
      obtain ⟨hwritten, hstate'⟩ := reclaimWritten_retried r.2 output.frameId
      obtain ⟨hrest, hends⟩ := ih (reclaimWritten r.2 output.frameId) (k + 1)
      rw [hstate', hstate] at hends
      exact ⟨(hretried.trans hwritten).trans hrest, hends⟩

/-- A recovery is asked for or under way. -/
def Tasks.Recovering (t : Tasks) : Prop :=
  t.monitor.recovery.recoveryPending = true ∨ t.monitor.recovery.recoveryActive = true

instance (t : Tasks) : Decidable t.Recovering :=
  inferInstanceAs (Decidable (_ ∨ _))

/-- **The ends of a retry.** Everything is written, and the tasks go on
with what the flags ask for; or something is left. -/
theorem rtosTasksRetryPendingReclaims_cases (t : Tasks) (budget : UInt32) :
    let t' := (rtosTasksRetryPendingReclaims P K t budget).2
    t.Retried t' ∧
      ((t'.pendingReclaims = [] ∧ t'.state = if t.Recovering then .recovery else .normal) ∨
        (t'.pendingReclaims ≠ [] ∧ (t'.state = t.state ∨ t'.state = retryBlockedState t.state))) := by
  obtain ⟨hretried, hstate⟩ := retryLoop_retried (P := P) (K := K) t budget.toNat 0
  unfold rtosTasksRetryPendingReclaims
  simp only
  generalize retryLoop P K budget.toNat 0 t = r at hretried hstate ⊢
  split
  · next hnil =>
    refine ⟨hretried.trans ⟨⟨rfl, rfl, rfl, rfl, rfl⟩, ⟨rfl, rfl⟩, List.suffix_refl _⟩,
      .inl ⟨hnil, ?_⟩⟩
    have hflags : r.2.monitor.recovery = t.monitor.recovery := hretried.recovery
    have hflag : (r.2.monitor.recovery.recoveryPending || r.2.monitor.recovery.recoveryActive) =
        true ↔ t.Recovering := by
      rw [hflags, Bool.or_eq_true]
      exact Iff.rfl
    by_cases hrecovering : t.Recovering
    · rw [if_pos hrecovering]
      exact if_pos (hflag.mpr hrecovering)
    · rw [if_neg hrecovering]
      exact if_neg fun h => hrecovering (hflag.mp h)
  · next hne =>
    refine ⟨hretried, .inr ⟨hne, ?_⟩⟩
    rcases hstate with hstate | ⟨-, hstate⟩
    · exact .inl hstate
    · exact .inr hstate

end Rtos

end PutGateway
