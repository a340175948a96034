import PutGateway.Rtos.RuntimeRuns
/-!
# The books on any region

The books of the tasks are kept in their private memory, and what keeps
them in order does not look at the rings: a frame that is queued, or whose
reclaim is frozen, has its reference whatever Linux makes of the headers
of the rings. What a damaged ring can do is to leave a reference behind
that nothing holds, since the reclaim of a refused frame could not be
written; recovery is what gives such a frame back.
-/

namespace PutGateway

namespace Rtos

variable {P : Platform} {K : Clock} {t t' : Tasks} {c c' : TasksContext} {held : List Holding}
  {h : Holding} {d : Descriptor} {f : Fin 64} {output : RouteOutput}

/-! ## The sinks -/

/-- Only the references and the frozen reclaims are in the books. -/
theorem books_congr (hbooks : (t.ledger held).Books) (href : t'.frameReferences = t.frameReferences)
    (hpending : t'.pendingReclaims = t.pendingReclaims) : (t'.ledger held).Books := by
  have hledger : t'.ledger held =
      { t.ledger held with queues := t'.ipc.region.view, history := t'.history } := by
    simp only [Tasks.ledger, href, hpending]
  rw [hledger]
  exact (hbooks.withQueues _).withHistory _

/-- The first holding goes, with its reference. -/
theorem books_clear {id : UInt32} (hbooks : (t.ledger (h :: held)).Books) (hid : id = h.frameId)
    (hf : frameIndex? id = some f) : ((clearFrameReference t id).ledger held).Books := by
  rw [clearFrameReference_ledger hf]
  exact hbooks.settle rfl (hid ▸ frameIndex?_eq_some.mp hf)

theorem books_txSink {x : QueueItem} {nowMs : UInt32}
    (hbooks : (t.ledger (.item x :: held)).Books) :
    ((rtosTasksTxSink P (txOutput x nowMs) t).1 = .ok →
        ((rtosTasksTxSink P (txOutput x nowMs) t).2.ledger held).Books) ∧
      ((rtosTasksTxSink P (txOutput x nowMs) t).1 ≠ .ok →
        ((rtosTasksTxSink P (txOutput x nowMs) t).2.ledger (.item x :: held)).Books) := by
  unfold rtosTasksTxSink
  split
  · exact ⟨nofun, fun _ => hbooks⟩
  split
  · exact ⟨nofun, fun _ => hbooks⟩
  next f hf =>
  split
  · exact ⟨nofun, fun _ => hbooks⟩
  simp only
  split
  · refine ⟨fun _ => books_clear (h := .item x) ?_ rfl hf, fun hne => absurd rfl hne⟩
    exact books_congr hbooks rfl rfl
  · next hne => exact ⟨fun hok => absurd hok hne, fun _ => books_congr hbooks rfl rfl⟩

/-- Freezing the reclaim of the first holding. -/
theorem books_store (hbooks : (t.ledger (h :: held)).Books) (hid : output.frameId = h.frameId)
    (hf : h.frameId = frameIdOfIndex f) (href : (t.frameReferences f).descriptor? = some d) :
    ((storePendingReclaim K t (withRxMetadata output d)).2.ledger held).Books := by
  have hdropped : (t.ledger held).Books := hbooks.dropHeld rfl
  unfold storePendingReclaim
  split
  · exact books_congr hdropped rfl rfl
  split
  · exact books_congr hdropped rfl rfl
  · exact books_congr (t := { t with pendingReclaims := t.pendingReclaims ++ [withRxMetadata output d] })
      (hbooks.freeze rfl hid hf href) rfl rfl

/-- **Handing a frame to the reclaim sink** takes it out of what is held,
whether its reclaim is written, frozen or refused. -/
theorem books_reclaimSink (hbooks : (t.ledger (h :: held)).Books)
    (hid : output.frameId = h.frameId) :
    ((rtosTasksReclaimSink P K output t).2.ledger held).Books := by
  have hdropped : (t.ledger held).Books := hbooks.dropHeld rfl
  unfold rtosTasksReclaimSink
  split
  · exact hdropped
  split
  · exact hdropped
  next f hf =>
  split
  · exact hdropped
  next hinUse =>
  have href : (t.frameReferences f).descriptor? = some (t.frameReferences f).descriptor :=
    FrameReference.descriptor?_eq_some.mpr ⟨by simpa using hinUse, rfl⟩
  simp only
  split
  · refine books_clear (h := h) ?_ hid hf
    exact books_congr hbooks rfl rfl
  split
  · exact books_store (books_congr hbooks rfl rfl) hid (hid ▸ frameIndex?_eq_some.mp hf) href
  · exact books_congr hdropped rfl rfl

/-- The books, with a queue of items. -/
def Booked (q : List QueueItem) (t : Tasks) : Prop := (t.ledger (q.map .item)).Books

theorem booked_keep : SinksKeep (tasksSinks P K) Booked where
  perm hperm h := h.perm (hperm.map _)
  now h := books_congr h rfl rfl
  retry h := (Move.retry rfl).books h
  reroute h := (Move.reroute rfl).books h
  sent h hok := (books_txSink h).1 hok
  unsent h hne := (books_txSink h).2 hne
  reclaimed h := books_reclaimSink h rfl

theorem booked_submit (input : RouteInput) :
    SubmitKeeps (tasksSinks P K) Booked input
      (fun q t => (t.ledger (.input input :: q.map .item)).Books) where
  now h := books_congr h rfl rfl
  reclaimed h := books_reclaimSink h rfl
  queued h hvalid := (Move.enter rfl hvalid).books h

/-! ## Receiving -/

/-- What a dequeue hands over is acceptable on one of the rings, whatever
the header of the ring it comes from. -/
theorem rtosShmIpcDequeueRxDescriptor_acceptable {shm : RtosShm} {id : PutShmInterface}
    (hsome : (rtosShmIpcDequeueRxDescriptor P shm id).2.1 = some d) : ∃ i, Acceptable i d := by
  unfold rtosShmIpcDequeueRxDescriptor at hsome
  split at hsome
  · cases hsome
  split at hsome
  · cases hsome
  next i _ =>
  simp only [rtosShmDescriptorRingDequeue] at hsome
  split at hsome
  · cases hsome
  rcases RingIo.dequeue_cases P (ringConsumer (shm.rxIo i).ring.header) (shm.rxIo i)
      (fun _ : Unit => ()) (fun _ => rfl) with
    ⟨-, hnone, -⟩ | ⟨-, -, heq⟩ | ⟨-, -, -, heq⟩ | ⟨-, hcrc, hcheck, heq⟩
  · rw [hnone] at hsome
    cases hsome
  · rw [heq] at hsome
    cases hsome
  · rw [heq] at hsome
    cases hsome
  rw [heq] at hsome
  obtain rfl := Option.some.inj hsome
  have hbounds : validateDescriptorBounds (shm.rxIo i).ring.head = .ok := by
    by_contra hne
    exact hne ((if_pos hne).symm.trans hcheck)
  have hsource : isInterfaceValid (shm.rxIo i).ring.head.sourceInterface = true := by
    unfold validateDescriptorBounds at hbounds
    split at hbounds
    · cases hbounds
    next hvalid =>
    simp only [Bool.or_eq_true, Bool.not_eq_true', not_or, Bool.not_eq_false] at hvalid
    exact hvalid.1
  have hlt : (shm.rxIo i).ring.head.sourceInterface.toNat < 6 := by
    simpa [isInterfaceValid, UInt8.lt_iff_toNat_lt] using hsource
  exact ⟨⟨_, hlt⟩, by simpa [ringConsumer] using hcrc, hbounds, by simp⟩

/-- Receiving a descriptor registers it, unless its frame is registered
already. -/
theorem books_register (hbooks : (t.ledger held).Books) (hgood : ∃ i, Acceptable i d)
    (frame : FrameBlock) (nowMs : UInt32) :
    ((registerFrameReference t d).1 ≠ .ok ∧ (registerFrameReference t d).2 = t) ∨
      ((registerFrameReference t d).1 = .ok ∧
        ((registerFrameReference t d).2.ledger (.input (routeInput d frame nowMs) :: held)).Books) := by
  unfold registerFrameReference
  split
  · exact .inl ⟨by simp, rfl⟩
  next f hf =>
  split
  · exact .inl ⟨by simp, rfl⟩
  next hfree =>
  obtain ⟨i, hgood⟩ := hgood
  have href : (t.frameReferences f).descriptor? = none := by
    simp [FrameReference.descriptor?, hfree]
  have hregistered := hbooks.register hgood (frameIndex?_eq_some.mp hf) href rfl
    (Holding.of_routeInput d frame nowMs)
  refine .inr ⟨rfl, ?_⟩
  simp only [Tasks.ledger, descriptor?_update]
  exact hregistered

theorem booked_receiveDescriptor (hbooks : (ledger c).Books) (hgood : ∃ i, Acceptable i d) :
    (ledger (receiveDescriptor P K c d).2).Books := by
  have hcounted : (c.host.countRxDescriptor.ledger (c.router.queue.items.map .item)).Books :=
    books_congr hbooks rfl rfl
  unfold receiveDescriptor
  have hregister := fun frame nowMs => books_register hcounted hgood frame nowMs
  by_cases hok : (registerFrameReference c.host.countRxDescriptor d).1 = .ok
  swap
  · simp only [if_pos hok]
    obtain ⟨-, heq⟩ := (hregister default 0).resolve_right fun h => hok h.1
    rw [heq]
    exact books_congr hbooks rfl rfl
  simp only [hok, ne_eq, not_true_eq_false, if_false]
  have hregistered : ∀ frame nowMs, _ := fun frame nowMs =>
    ((hregister frame nowMs).resolve_left fun h => h.1 hok).2
  generalize (registerFrameReference c.host.countRxDescriptor d).2 = t at hregistered ⊢
  unfold rtosRouterAdapterDescriptorToInput
  split
  · next heq =>
    -- the frame cannot be read, and its registration is taken back
    split at heq
    · next shm _ =>
      obtain ⟨f, hf⟩ := hgood.choose_spec.frame
      refine books_clear (h := .input (routeInput d default 0)) ?_ rfl hf
      exact books_congr (hregistered default 0) rfl rfl
    · cases heq
  next input heq =>
  split at heq
  · cases heq
  next frame shm _ =>
  obtain rfl := Option.some.inj heq
  have hread : (({ (tasksNow K t).2 with ipc := shm } : Tasks).ledger
      (.input (routeInput d frame (tasksNow K t).1) :: c.router.queue.items.map .item)).Books :=
    books_congr (hregistered frame (tasksNow K t).1) rfl rfl
  have hdone := (booked_submit (P := P) (K := K) (routeInput d frame (tasksNow K t).1)).submit
    booked_keep (s := ⟨c.router, { (tasksNow K t).2 with ipc := shm }⟩) hread
  split
  · exact hdone
  · exact books_congr hdone rfl rfl

/-- The iterations of the event task. -/
theorem booked_iterates : Iterates P K fun c => (ledger c).Books where
  idle hstep hbooks := by
    cases hstep with
    | count => exact books_congr hbooks rfl rfl
    | doorbell => exact books_congr hbooks rfl rfl
    | snapshot => exact books_congr hbooks rfl rfl
  iteration {c i} hbooks _ := by
    unfold drainStep
    have htaken : (ledger { c with host := { c.host with
        ipc := (rtosShmIpcDequeueRxDescriptor P c.host.ipc (interfaceOfIndex i)).2.2 } }).Books :=
      books_congr hbooks rfl rfl
    simp only
    split
    · exact htaken
    split
    · exact books_congr htaken rfl rfl
    split
    · exact htaken
    · next d hsome =>
      exact booked_receiveDescriptor htaken (rtosShmIpcDequeueRxDescriptor_acceptable hsome)

/-! ## The tasks -/

/-- A frozen reclaim that is written takes its reference along. -/
theorem retryLoop_books (n : ℕ) (k : UInt32) (hbooks : (t.ledger held).Books) :
    ((retryLoop P K n k t).2.ledger held).Books := by
  induction n generalizing t k with
  | zero => exact hbooks
  | succ n ih =>
    unfold retryLoop
    split
    · exact hbooks
    next output rest hpending =>
    simp only
    split
    · exact books_congr hbooks rfl rfl
    split
    · exact books_congr hbooks rfl rfl
    refine ih _ ?_
    obtain ⟨f, d, hid, -, -⟩ := hbooks.frozen output (by
      rw [show (t.ledger held).pending = output :: rest from hpending]
      exact List.mem_cons_self)
    have hf : frameIndex? output.frameId = some f := frameIndex?_eq_some.mpr hid
    refine books_congr (t := { t with
      frameReferences := Function.update t.frameReferences f {}
      pendingReclaims := rest }) ?_ ?_ ?_
    · have hsettled := hbooks.settlePending (show (t.ledger held).pending = output :: rest from hpending)
        hid
      simp only [Tasks.ledger, descriptor?_update]
      exact hsettled
    · simp only [removePendingReclaim, clearFrameReference, hf]
      rfl
    · have hrest : t.pendingReclaims.tail = rest := by rw [hpending, List.tail_cons]
      simp only [removePendingReclaim, clearFrameReference, hf]
      exact hrest

theorem booked_retry (hbooks : (ledger c).Books) (budget : UInt32) :
    (ledger { c with host := (rtosTasksRetryPendingReclaims P K c.host budget).2 }).Books := by
  have hloop := retryLoop_books (P := P) (K := K) budget.toNat 0 hbooks
  unfold rtosTasksRetryPendingReclaims
  simp only
  split
  · exact books_congr hloop rfl rfl
  · exact hloop

/-- An orphan is held while its reclaim is written. -/
theorem orphanLoop_books (budget : UInt32) (l : List (Fin 64)) (k : UInt32)
    (hbooks : (t.ledger []).Books) : ((orphanLoop P K budget l k t).2.ledger []).Books := by
  induction l generalizing t k with
  | nil => exact hbooks
  | cons f rest ih =>
    unfold orphanLoop
    split
    · exact hbooks
    split
    · exact ih _ hbooks
    next hfree =>
    simp only [Bool.or_eq_true, Bool.not_eq_true', not_or, Bool.not_eq_false,
      pendingReclaimExists_iff, not_exists, not_and] at hfree
    have href : (t.ledger []).references f = some (t.frameReferences f).descriptor :=
      FrameReference.descriptor?_eq_some.mpr ⟨hfree.1, rfl⟩
    have hheld := (Move.orphan href hfree.2 rfl).books hbooks
    have hsink : ((rtosTasksReclaimSink P K (orphanOutput f (t.frameReferences f).descriptor)
        { t with history := t.history.countOrphan }).2.ledger []).Books :=
      books_reclaimSink (h := .orphan f) hheld rfl
    simp only
    split
    · exact hsink
    · exact ih _ hsink

theorem booked_eventTask (hbooks : (ledger c).Books) (trigger : IpcEventTrigger) :
    (ledger (rtosIpcEventTaskRunOnce P K c trigger).2).Books := by
  rcases rtosIpcEventTaskRunOnce_cases P K c trigger with
    ⟨hnormal, -⟩ | ⟨-, t, ht, ⟨-, heq⟩ | ⟨-, heq⟩⟩
  · exact booked_iterates.eventTask hbooks hnormal trigger
  · rw [heq]
    exact books_congr hbooks ht.references ht.pending
  · rw [heq]
    have ht' : (ledger { c with host := t }).Books := books_congr hbooks ht.references ht.pending
    exact booked_retry ht' 64

theorem booked_schedulerTask (hbooks : (ledger c).Books) (budget : UInt32) :
    (ledger (rtosRouterSchedulerTaskRunOnce P K c budget).2).Books := by
  unfold rtosRouterSchedulerTaskRunOnce
  split
  · exact booked_retry hbooks budget
  split
  · exact hbooks
  · exact booked_keep.drain (s := c) budget hbooks

/-- A step that keeps the queue, the references and the frozen reclaims. -/
theorem booked_congr (hbooks : (ledger c).Books) (hqueue : c'.router.queue = c.router.queue)
    (href : c'.host.frameReferences = c.host.frameReferences)
    (hpending : c'.host.pendingReclaims = c.host.pendingReclaims) : (ledger c').Books := by
  unfold ledger
  rw [hqueue]
  exact books_congr hbooks href hpending

theorem booked_recoveryTask (hbooks : (ledger c).Books) (budget : UInt32) :
    (ledger (rtosRecoveryTaskRunOnce P K c budget).2).Books := by
  obtain ⟨-, href, hpending, -⟩ := startRecovery_frames c
  have hstarted : (ledger (startRecovery c)).Books := booked_congr hbooks rfl href hpending
  have hrecovered : (ledger (recoveredFrames P K c budget)).Books := by
    refine recoverFrames_keeps (I := fun c => (ledger c).Books) ?_ ?_ ?_ hstarted budget
    · exact fun c budget hbooks => booked_retry hbooks budget
    · exact fun c budget hbooks => booked_keep.reclaimQueued (s := c) .queueFull budget hbooks
    · intro c budget hbooks hempty
      unfold ledger at hbooks ⊢
      simp only [hempty, List.map_nil] at hbooks ⊢
      exact orphanLoop_books budget (List.finRange 64) 0 hbooks
  rcases rtosRecoveryTaskRunOnce_cases P K c budget with
    ⟨-, -, heq⟩ | ⟨-, ⟨-, heq⟩ | ⟨-, -, heq⟩ | ⟨-, -, -, heq⟩⟩
  · rw [heq]
    exact hbooks
  · rw [heq]
    exact books_congr hrecovered rfl rfl
  · rw [heq]
    exact books_congr hrecovered rfl rfl
  · rw [heq]
    obtain ⟨hqueue, hpending, href, -⟩ := finishRecovery_frames K (recoveredFrames P K c budget)
    exact booked_congr hrecovered hqueue href hpending

/-- **Every operation of the tasks keeps the books**, on any region. -/
theorem booked_run (hbooks : (ledger c).Books) (op : Operation) :
    (ledger (op.run P K c)).Books := by
  have hsame : ∀ {c' : TasksContext}, c.host.SameFrames c'.host →
      c'.router.queue = c.router.queue → (ledger c').Books := fun hhost hqueue =>
    booked_congr hbooks hqueue hhost.references hhost.pending
  cases op with
  | eventTask trigger => exact booked_eventTask hbooks trigger
  | schedulerTask budget => exact booked_schedulerTask hbooks budget
  | retryPendingReclaims budget => exact booked_retry hbooks budget
  | heartbeatTask =>
    exact hsame (rtosHeartbeatTaskRunOnce_snd K c).1 (rtosHeartbeatTaskRunOnce_snd K c).2
  | errorMonitorTask =>
    exact hsame (rtosErrorMonitorTaskRunOnce_snd K c).1 (rtosErrorMonitorTaskRunOnce_snd K c).2
  | recoveryTask budget => exact booked_recoveryTask hbooks budget
  | statisticsTask => exact books_congr hbooks rfl rfl
  | observeLinuxHeartbeat sequence => exact books_congr hbooks rfl rfl

/-- **The books are in order in every run**, whatever Linux makes of the
region. -/
theorem RuntimeReaches.books {Allowed : Region → Prop} {cfg : Config}
    (h : RuntimeReaches P K Allowed cfg) : (ledger cfg.tasks).Books := by
  refine h.invariant (I := fun c => (ledger c).Books) ?_ ?_ ?_ ?_
  · intro ipc _ _ ticks
    rw [ledger_contextInit]
    exact ⟨by simp [Ledger.ids], by simp, by simp, by simp⟩
  · exact fun c hbooks => books_congr hbooks rfl rfl
  · exact fun c op hbooks => booked_run hbooks op
  · exact fun c R _ hbooks => books_congr hbooks rfl rfl

end Rtos

end PutGateway
