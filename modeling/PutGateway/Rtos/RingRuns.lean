import PutGateway.Rtos.RuntimeRuns
/-!
# What the ring operations keep, the tasks keep

The tasks of the RTOS reach the region through three operations only:
they take from an RX ring, and they write to a TX ring and to the reclaim
ring. A property of the region that these keep is kept by every task and
by every stage of a call, however many operations it makes.
-/

namespace PutGateway

namespace Rtos

variable {P : Platform} {K : Clock} {I : Region → Prop} {c : TasksContext} {t t' : Tasks}

/-- The ring operations of the RTOS keep a property of the region. -/
structure RingsKeep (P : Platform) (I : Region → Prop) : Prop where
  dequeueRx : ∀ (shm : RtosShm) (id : PutShmInterface), I shm.region →
    I (rtosShmIpcDequeueRxDescriptor P shm id).2.2.region
  enqueueTx : ∀ (shm : RtosShm) (id : PutShmInterface) (d : Descriptor), I shm.region →
    I (rtosShmIpcEnqueueTxDescriptor P shm id d).2.region
  reclaimFrame : ∀ (shm : RtosShm) (frameId : UInt32) (reason : ReclaimReason)
    (source target : PutShmInterface) (epoch flags : UInt32), I shm.region →
    I (rtosShmIpcReclaimFrame P shm frameId reason source target epoch flags).2.region

namespace RingsKeep

variable (hI : RingsKeep P I)

include hI

/-! ## The sinks -/

theorem txSink (h : I t.ipc.region) (output : RouteOutput) :
    I (rtosTasksTxSink P output t).2.ipc.region := by
  unfold rtosTasksTxSink
  split
  · exact h
  split
  · exact h
  split
  · exact h
  next f _ _ =>
  have hsent := hI.enqueueTx t.ipc output.targetInterface
    (fillTxDescriptor (t.frameReferences f).descriptor output) h
  simp only
  split
  · rw [clearFrameReference_ipc]
    exact hsent
  · exact hsent

theorem reclaim (h : I t.ipc.region) (output : RouteOutput) :
    I (Rtos.reclaimFrame P t output).2.ipc.region :=
  hI.reclaimFrame t.ipc output.frameId output.reclaimReason output.sourceInterface
    output.targetInterface output.epoch output.flags h

theorem reclaimSink (h : I t.ipc.region) (output : RouteOutput) :
    I (rtosTasksReclaimSink P K output t).2.ipc.region := by
  unfold rtosTasksReclaimSink
  split
  · exact h
  split
  · exact h
  split
  · exact h
  next f _ _ =>
  have hwritten := hI.reclaim h (withRxMetadata output (t.frameReferences f).descriptor)
  simp only
  split
  · rw [clearFrameReference_ipc]
    exact hwritten
  split
  · rw [storePendingReclaim_ipc]
    exact hwritten
  · exact hwritten

theorem keep : SinksKeep (tasksSinks P K) (fun _ t => I t.ipc.region) where
  perm _ h := h
  now h := h
  retry h := h
  reroute h := h
  sent h _ := hI.txSink h _
  unsent h _ := hI.txSink h _
  reclaimed h := hI.reclaimSink h _

theorem submit (input : RouteInput) :
    SubmitKeeps (tasksSinks P K) (fun _ t => I t.ipc.region) input (fun _ t => I t.ipc.region) where
  now h := h
  reclaimed h := hI.reclaimSink h _
  queued h _ := h

/-! ## The tasks -/

theorem receiveStep (hstep : ReceiveStep P K t t') (h : I t.ipc.region) : I t'.ipc.region := by
  cases hstep with
  | take i => exact hI.dequeueRx t.ipc i h
  | read d nowMs =>
    rw [(rtosRouterAdapterDescriptorToInput_region P t.ipc d nowMs).1]
    exact h
  | snapshot =>
    rw [(rtosShmIpcGetRxPendingSnapshot_snd P t.ipc).1]
    exact h
  | register d =>
    unfold registerFrameReference
    split
    · exact h
    split
    · exact h
    · exact h
  | clear frameId =>
    rw [clearFrameReference_ipc]
    exact h
  | count | doorbell | tick => exact h

theorem receives : Receives P K (fun c => I c.host.ipc.region) where
  step hstep h := hI.receiveStep hstep h
  submit input h := (hI.submit input).submit hI.keep h

theorem retryLoop (h : I t.ipc.region) (n : ℕ) (k : UInt32) :
    I (Rtos.retryLoop P K n k t).2.ipc.region := by
  induction n generalizing t k with
  | zero => exact h
  | succ n ih =>
    unfold Rtos.retryLoop
    split
    · exact h
    next output _ _ =>
    have hwritten := hI.reclaim h output
    simp only
    split
    · exact hwritten
    split
    · exact hwritten
    · refine ih ?_ _
      simp only [removePendingReclaim]
      rw [clearFrameReference_ipc]
      exact hwritten

theorem retry (h : I t.ipc.region) (budget : UInt32) :
    I (rtosTasksRetryPendingReclaims P K t budget).2.ipc.region := by
  have hlooped := hI.retryLoop (K := K) h budget.toNat 0
  unfold rtosTasksRetryPendingReclaims
  simp only
  split
  · exact hlooped
  · exact hlooped

theorem orphanLoop (h : I t.ipc.region) (budget : UInt32) (l : List (Fin 64)) (k : UInt32) :
    I (Rtos.orphanLoop P K budget l k t).2.ipc.region := by
  induction l generalizing t k with
  | nil => exact h
  | cons f rest ih =>
    unfold Rtos.orphanLoop
    split
    · exact h
    split
    · exact ih h k
    have hcounted : I ({ t with history := t.history.countOrphan } : Tasks).ipc.region := h
    have hreclaimed := hI.reclaimSink (K := K) hcounted
      (orphanOutput f (t.frameReferences f).descriptor)
    simp only
    split
    · exact hreclaimed
    · exact ih hreclaimed _

theorem recoveryTask (h : I c.host.ipc.region) (budget : UInt32) :
    I (rtosRecoveryTaskRunOnce P K c budget).2.host.ipc.region := by
  have hstart : I (startRecovery c).host.ipc.region := by
    rw [(startRecovery_frames c).1]
    exact h
  have hgiven : I (recoveredFrames P K c budget).host.ipc.region := by
    refine recoverFrames_keeps (I := fun c => I c.host.ipc.region) ?_ ?_ ?_ hstart budget
    · exact fun c budget h => hI.retry h budget
    · exact fun c budget h => hI.keep.reclaimQueuedLoop h
    · exact fun c budget h _ => hI.orphanLoop h budget _ _
  rcases rtosRecoveryTaskRunOnce_cases P K c budget with
    ⟨-, -, heq⟩ | ⟨-, ⟨-, heq⟩ | ⟨-, -, heq⟩ | ⟨-, -, -, heq⟩⟩
  · rw [heq]
    exact h
  · rw [heq]
    exact hgiven
  · rw [heq]
    exact hgiven
  · obtain ⟨-, -, -, hregion⟩ := finishRecovery_frames K (recoveredFrames P K c budget)
    rw [heq, hregion]
    exact hgiven

/-- **Every operation of the tasks** keeps what the ring operations keep. -/
theorem run (h : I c.host.ipc.region) (op : Operation) : I (op.run P K c).host.ipc.region := by
  cases op with
  | eventTask trigger =>
    rcases rtosIpcEventTaskRunOnce_cases P K c trigger with
      ⟨hnormal, -⟩ | ⟨-, t, ht, ⟨-, heq⟩ | ⟨-, heq⟩⟩
    · exact hI.receives.eventTask h hnormal trigger
    · simp only [Operation.run, heq, ht.ipc]
      exact h
    · simp only [Operation.run, heq]
      exact hI.retry (by rw [ht.ipc]; exact h) 64
  | schedulerTask budget =>
    rcases rtosRouterSchedulerTaskRunOnce_cases P K c budget with
      ⟨-, heq⟩ | ⟨-, -, heq⟩ | ⟨-, -, heq⟩
    · simp only [Operation.run, heq]
      exact hI.retry h budget
    · simp only [Operation.run, heq]
      exact h
    · simp only [Operation.run, heq]
      exact hI.keep.drain budget h
  | retryPendingReclaims budget => exact hI.retry h budget
  | heartbeatTask =>
    simp only [Operation.run, (rtosHeartbeatTaskRunOnce_snd K c).1.ipc]
    exact h
  | errorMonitorTask =>
    simp only [Operation.run, (rtosErrorMonitorTaskRunOnce_snd K c).1.ipc]
    exact h
  | recoveryTask budget => exact hI.recoveryTask h budget
  | statisticsTask => exact h
  | observeLinuxHeartbeat sequence => exact h

/-- **Every stage of a call** does. -/
theorem stage {cfg : Config} (h : I cfg.tasks.host.ipc.region) (s : Stage) :
    I (cfg.stage P K s).2.2.host.ipc.region :=
  Config.stage_keeps (I := fun c => I c.host.ipc.region) (fun _ h => h) (fun _ op h => hI.run h op) h s

end RingsKeep

end Rtos

end PutGateway
