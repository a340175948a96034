import PutGateway.Rtos.Runtime
import PutGateway.Rtos.SupervisionSpec
/-!
# The control state of the tasks

What the operations of the tasks do to the state variable, the recovery
flags and the epochs, whatever the platform answers and whatever lies on
the rings. Serving frames leaves all of it alone, but for one thing: a
reclaim that is frozen blocks the tasks.
-/

namespace PutGateway

namespace Rtos

variable {P : Platform} {K : Clock} {t t' t'' : Tasks}

/-! ## Serving frames -/

/-- The flags, the epoch last seen and the region header stay. -/
structure Tasks.Steady (t t' : Tasks) : Prop where
  recovery : t'.monitor.recovery = t.monitor.recovery
  linuxHeartbeat : t'.monitor.linuxHeartbeat = t.monitor.linuxHeartbeat
  lastLinuxEpoch : t'.lastLinuxEpoch = t.lastLinuxEpoch
  header : t'.ipc.region.header = t.ipc.region.header
  initialized : t'.ipc.initialized = t.ipc.initialized

theorem Tasks.Steady.refl (t : Tasks) : t.Steady t := ⟨rfl, rfl, rfl, rfl, rfl⟩

theorem Tasks.Steady.trans (h : t.Steady t') (h' : t'.Steady t'') : t.Steady t'' :=
  ⟨h'.recovery.trans h.recovery, h'.linuxHeartbeat.trans h.linuxHeartbeat,
    h'.lastLinuxEpoch.trans h.lastLinuxEpoch, h'.header.trans h.header,
    h'.initialized.trans h.initialized⟩

/-- The states of a tasks context with a frozen reclaim. -/
def TasksState.IsBlocked (state : TasksState) : Prop :=
  state = .reclaimBlocked ∨ state = .degradedReclaimFull

/-- The states of a recovery under way. -/
def TasksState.IsRecovering (state : TasksState) : Prop :=
  state = .recovery ∨ state = .reclaimBlocked

theorem blockedState_isBlocked (state : TasksState) : (blockedState state).IsBlocked := by
  unfold blockedState
  split
  · exact .inl rfl
  · exact .inr rfl

theorem isRecovering_of_blockedState {state : TasksState} (h : (blockedState state).IsRecovering) :
    state.IsRecovering := by
  unfold blockedState at h
  split at h
  · next hstate => exact .inl hstate
  · rcases h with h | h <;> cases h

/-- Frames were served: the control state stays, or a reclaim was
frozen. -/
structure Tasks.Served (t t' : Tasks) : Prop extends Tasks.Steady t t' where
  state : (t'.state = t.state ∧ t'.pendingReclaims = t.pendingReclaims) ∨
    (t'.pendingReclaims ≠ [] ∧ t'.state.IsBlocked)
  recovering : t'.state.IsRecovering → t.state.IsRecovering

theorem Tasks.Served.refl (t : Tasks) : t.Served t :=
  ⟨.refl t, .inl ⟨rfl, rfl⟩, id⟩

theorem Tasks.Served.trans (h : t.Served t') (h' : t'.Served t'') : t.Served t'' := by
  refine ⟨h.toSteady.trans h'.toSteady, ?_, fun hr => h.recovering (h'.recovering hr)⟩
  rcases h'.state with ⟨hstate', hpending'⟩ | hblocked
  · rw [hstate', hpending']
    exact h.state
  · exact .inr hblocked

/-- A change of statistics, references, clock or rings. -/
theorem Tasks.Served.congr (h : t.Served t') (hrecovery : t''.monitor.recovery = t'.monitor.recovery)
    (hheartbeat : t''.monitor.linuxHeartbeat = t'.monitor.linuxHeartbeat)
    (hlast : t''.lastLinuxEpoch = t'.lastLinuxEpoch)
    (hheader : t''.ipc.region.header = t'.ipc.region.header)
    (hinit : t''.ipc.initialized = t'.ipc.initialized) (hstate : t''.state = t'.state)
    (hpending : t''.pendingReclaims = t'.pendingReclaims) : t.Served t'' :=
  h.trans ⟨⟨hrecovery, hheartbeat, hlast, hheader, hinit⟩, .inl ⟨hstate, hpending⟩,
    by rw [hstate]; exact id⟩

/-- The rings the tasks take from and send on stay. -/
structure Tasks.Quiet (t t' : Tasks) : Prop where
  rxRings : t'.ipc.region.rxRings = t.ipc.region.rxRings
  txRings : t'.ipc.region.txRings = t.ipc.region.txRings

theorem Tasks.Quiet.refl (t : Tasks) : t.Quiet t := ⟨rfl, rfl⟩

theorem Tasks.Quiet.trans (h : t.Quiet t') (h' : t'.Quiet t'') : t.Quiet t'' :=
  ⟨h'.rxRings.trans h.rxRings, h'.txRings.trans h.txRings⟩

theorem Tasks.Quiet.congr (h : t.Quiet t') (hipc : t''.ipc = t'.ipc) : t.Quiet t'' := by
  refine ⟨?_, ?_⟩
  · rw [hipc]
    exact h.rxRings
  · rw [hipc]
    exact h.txRings

/-- Quiet tasks leave what is unread on the RX rings. -/
theorem Tasks.Quiet.view_rx (h : t.Quiet t') :
    t'.ipc.region.view.rx = t.ipc.region.view.rx := by
  have hunread := congrArg (fun rings : Fin 6 → DescriptorRing => fun i => (rings i).unread) h.rxRings
  exact hunread

/-! ## The IPC -/

theorem rtosShmIpcEnqueueTxDescriptor_header (P : Platform) (shm : RtosShm) (id : PutShmInterface)
    (d : Descriptor) :
    (rtosShmIpcEnqueueTxDescriptor P shm id d).2.region.header = shm.region.header := by
  unfold rtosShmIpcEnqueueTxDescriptor
  split
  · rfl
  split
  · rfl
  split
  · rfl
  split
  · rfl
  · rfl

theorem rtosShmIpcEnqueueTxDescriptor_initialized (P : Platform) (shm : RtosShm)
    (id : PutShmInterface) (d : Descriptor) :
    (rtosShmIpcEnqueueTxDescriptor P shm id d).2.initialized = shm.initialized := by
  unfold rtosShmIpcEnqueueTxDescriptor
  split
  · rfl
  split
  · rfl
  split
  · rfl
  split
  · rfl
  · rfl

/-- A reclaim touches the reclaim ring and its pending line only. -/
theorem rtosShmIpcReclaimFrame_snd (P : Platform) (shm : RtosShm) (frameId : UInt32)
    (reason : ReclaimReason) (source target : PutShmInterface) (epoch flags : UInt32) :
    let shm' := (rtosShmIpcReclaimFrame P shm frameId reason source target epoch flags).2
    shm'.initialized = shm.initialized ∧ shm'.region.header = shm.region.header ∧
      shm'.region.rxRings = shm.region.rxRings ∧ shm'.region.txRings = shm.region.txRings := by
  simp only [rtosShmIpcReclaimFrame]
  split
  · exact ⟨rfl, rfl, rfl, rfl⟩
  split
  · exact ⟨rfl, rfl, rfl, rfl⟩
  split
  · exact ⟨rfl, rfl, rfl, rfl⟩
  · exact ⟨rfl, rfl, rfl, rfl⟩

theorem rtosShmIpcDequeueRxDescriptor_header (P : Platform) (shm : RtosShm) (id : PutShmInterface) :
    (rtosShmIpcDequeueRxDescriptor P shm id).2.2.region.header = shm.region.header ∧
      (rtosShmIpcDequeueRxDescriptor P shm id).2.2.initialized = shm.initialized := by
  unfold rtosShmIpcDequeueRxDescriptor
  split
  · exact ⟨rfl, rfl⟩
  split
  · exact ⟨rfl, rfl⟩
  · exact ⟨rfl, rfl⟩

/-! ## The sinks -/

theorem rtosMonitorRecordLatency_recovery (monitor : MonitorContext) (priority : UInt8)
    (latencyMs : UInt32) :
    (rtosMonitorRecordLatency monitor priority latencyMs).recovery = monitor.recovery ∧
      (rtosMonitorRecordLatency monitor priority latencyMs).linuxHeartbeat =
        monitor.linuxHeartbeat := by
  unfold rtosMonitorRecordLatency
  split
  · exact ⟨rfl, rfl⟩
  · exact ⟨rfl, rfl⟩

theorem clearFrameReference_served (h : t.Served t') (frameId : UInt32) :
    t.Served (clearFrameReference t' frameId) := by
  unfold clearFrameReference
  split
  · exact h
  · exact h.congr rfl rfl rfl rfl rfl rfl rfl

theorem rtosTasksTxSink_served (P : Platform) (output : RouteOutput) (t : Tasks) :
    t.Served (rtosTasksTxSink P output t).2 := by
  unfold rtosTasksTxSink
  split
  · exact .refl t
  split
  · exact .refl t
  split
  · exact .refl t
  next f _ _ =>
  simp only
  have hheader := rtosShmIpcEnqueueTxDescriptor_header P t.ipc output.targetInterface
    (fillTxDescriptor (t.frameReferences f).descriptor output)
  have hinit := rtosShmIpcEnqueueTxDescriptor_initialized P t.ipc output.targetInterface
    (fillTxDescriptor (t.frameReferences f).descriptor output)
  split
  · obtain ⟨hrecovery, hheartbeat⟩ :=
      rtosMonitorRecordLatency_recovery t.monitor output.priority output.latencyMs
    refine clearFrameReference_served ?_ _
    exact (Tasks.Served.refl t).congr hrecovery hheartbeat rfl hheader hinit rfl rfl
  · exact (Tasks.Served.refl t).congr rfl rfl rfl hheader hinit rfl rfl

theorem storePendingReclaim_served (K : Clock) (t : Tasks) (output : RouteOutput) :
    t.Served (storePendingReclaim K t output).2 := by
  have hrec : ∀ state, (blockedState state).IsRecovering → state.IsRecovering :=
    fun _ => isRecovering_of_blockedState
  unfold storePendingReclaim
  split
  · next hexists =>
    refine ⟨⟨rfl, rfl, rfl, rfl, rfl⟩, .inr ⟨?_, blockedState_isBlocked _⟩, hrec _⟩
    intro hnil
    simp [pendingReclaimExists, show t.pendingReclaims = [] from hnil] at hexists
  split
  · next hfull =>
    refine ⟨⟨rfl, rfl, rfl, rfl, rfl⟩, .inr ⟨?_, blockedState_isBlocked _⟩, hrec _⟩
    intro hnil
    simp [show t.pendingReclaims = [] from hnil, pendingReclaimCapacity] at hfull
  · refine ⟨⟨rfl, rfl, rfl, rfl, rfl⟩, .inr ⟨?_, blockedState_isBlocked _⟩, hrec _⟩
    exact List.append_ne_nil_of_right_ne_nil _ (List.cons_ne_nil _ _)

theorem reclaimFrame_served (P : Platform) (t : Tasks) (output : RouteOutput) :
    t.Served (reclaimFrame P t output).2 ∧ t.Quiet (reclaimFrame P t output).2 := by
  obtain ⟨hinit, hheader, hrx, htx⟩ := rtosShmIpcReclaimFrame_snd P t.ipc output.frameId
    output.reclaimReason output.sourceInterface output.targetInterface output.epoch output.flags
  exact ⟨(Tasks.Served.refl t).congr rfl rfl rfl hheader hinit rfl rfl, hrx, htx⟩

theorem rtosTasksReclaimSink_served (P : Platform) (K : Clock) (output : RouteOutput) (t : Tasks) :
    t.Served (rtosTasksReclaimSink P K output t).2 ∧
      t.Quiet (rtosTasksReclaimSink P K output t).2 := by
  unfold rtosTasksReclaimSink
  split
  · exact ⟨.refl t, .refl t⟩
  split
  · exact ⟨.refl t, .refl t⟩
  split
  · exact ⟨.refl t, .refl t⟩
  next f _ _ =>
  simp only
  obtain ⟨hserved, hquiet⟩ :=
    reclaimFrame_served P t (withRxMetadata output (t.frameReferences f).descriptor)
  generalize reclaimFrame P t (withRxMetadata output (t.frameReferences f).descriptor) = r
    at hserved hquiet ⊢
  split
  · refine ⟨clearFrameReference_served ?_ _, hquiet.congr clearFrameReference_ipc⟩
    exact hserved.congr rfl rfl rfl rfl rfl rfl rfl
  split
  · refine ⟨Tasks.Served.trans ?_ (storePendingReclaim_served ..),
      hquiet.congr (storePendingReclaim_ipc ..)⟩
    exact hserved.congr rfl rfl rfl rfl rfl rfl rfl
  · exact ⟨hserved, hquiet⟩

/-! ## The router over the sinks -/

/-- Whatever the router holds, its sinks serve. -/
theorem served_keep (t : Tasks) : SinksKeep (tasksSinks P K) (fun _ t' => t.Served t') where
  perm _ h := h
  now h := h.congr rfl rfl rfl rfl rfl rfl rfl
  retry h := h
  reroute h := h
  sent h _ := h.trans (rtosTasksTxSink_served ..)
  unsent h _ := h.trans (rtosTasksTxSink_served ..)
  reclaimed h := h.trans (rtosTasksReclaimSink_served ..).1

theorem served_submit (t : Tasks) (input : RouteInput) :
    SubmitKeeps (tasksSinks P K) (fun _ t' => t.Served t') input (fun _ t' => t.Served t') where
  now h := h.congr rfl rfl rfl rfl rfl rfl rfl
  reclaimed h := h.trans (rtosTasksReclaimSink_served ..).1
  queued h _ := h

/-- The sinks without the TX sink: submitting and reclaiming use no
other. -/
def reclaimSinks (P : Platform) (K : Clock) : RouterSinks Tasks :=
  { tasksSinks P K with txSink := none }

theorem rtosRouterSubmit_reclaimSinks (c : TasksContext) (input : RouteInput) :
    rtosRouterSubmit (tasksSinks P K) c input = rtosRouterSubmit (reclaimSinks P K) c input := rfl

theorem quiet_keep (t : Tasks) : SinksKeep (reclaimSinks P K) (fun _ t' => t.Quiet t') where
  perm _ h := h
  now h := h.congr rfl
  retry h := h
  reroute h := h
  sent h _ := h
  unsent h _ := h
  reclaimed h := h.trans (rtosTasksReclaimSink_served ..).2

theorem quiet_submit (t : Tasks) (input : RouteInput) :
    SubmitKeeps (reclaimSinks P K) (fun _ t' => t.Quiet t') input (fun _ t' => t.Quiet t') where
  now h := h.congr rfl
  reclaimed h := h.trans (rtosTasksReclaimSink_served ..).2
  queued h _ := h

theorem reclaimQueuedLoop_reclaimSinks (reason : ReclaimReason) (n : ℕ) (k : UInt32)
    (c : TasksContext) : reclaimQueuedLoop (tasksSinks P K) reason n k c =
      reclaimQueuedLoop (reclaimSinks P K) reason n k c := by
  induction n generalizing c k with
  | zero => rfl
  | succ n ih =>
    unfold reclaimQueuedLoop
    simp only [ih]
    rfl

/-! ## The rules of the router -/

/-- The epoch and the route table stay. -/
structure RouterContext.SameRules (router router' : RouterContext) : Prop where
  epoch : router'.currentLinuxEpoch = router.currentLinuxEpoch
  routeTable : router'.routeTable = router.routeTable

section

variable {H : Type} {S : RouterSinks H} {s : Hosted H} {router router' router'' : RouterContext}

theorem RouterContext.SameRules.refl (router : RouterContext) : router.SameRules router := ⟨rfl, rfl⟩

theorem RouterContext.SameRules.trans (h : router.SameRules router') (h' : router'.SameRules router'') :
    router.SameRules router'' :=
  ⟨h'.epoch.trans h.epoch, h'.routeTable.trans h.routeTable⟩

namespace RouterContext.SameRules

theorem reclaimItem {item : QueueItem} {reason : ReclaimReason} (h : router.SameRules s.router) :
    router.SameRules (Rtos.reclaimItem S s item reason).2.2.router := by
  simp only [Rtos.reclaimItem, emitReclaim_eq]
  exact ⟨h.epoch, h.routeTable⟩

theorem reclaimInput {input : RouteInput} {reason : ReclaimReason} (h : router.SameRules s.router) :
    router.SameRules (Rtos.reclaimInput S s input reason).2.router := by
  simp only [Rtos.reclaimInput, emitReclaim_eq]
  exact ⟨h.epoch, h.routeTable⟩

theorem transmit {nowMs : UInt32} {n : ℕ} {x : QueueItem} (h : router.SameRules s.router) :
    router.SameRules (Rtos.transmit S nowMs n x s).2.2.router := by
  induction n generalizing s x with
  | zero =>
    unfold Rtos.transmit
    simp only [emitTx_eq]
    split
    · exact ⟨h.epoch, h.routeTable⟩
    · exact reclaimItem ⟨h.epoch, h.routeTable⟩
  | succ n ih =>
    unfold Rtos.transmit
    simp only [emitTx_eq]
    split
    · exact ⟨h.epoch, h.routeTable⟩
    · exact ih ⟨h.epoch, h.routeTable⟩

theorem scheduleItem {item : QueueItem} (h : router.SameRules s.router) :
    router.SameRules (Rtos.scheduleItem S s item).2.2.router := by
  have hread : router.SameRules (⟨s.router, (S.now s.host).2⟩ : Hosted H).router := h
  rcases scheduleItem_cases S s item with ⟨-, reason, heq⟩ | ⟨x, -, heq⟩
  · rw [heq]
    exact hread.reclaimItem
  · rw [heq]
    exact hread.transmit

theorem scheduleOnce (h : router.SameRules s.router) :
    router.SameRules (rtosRouterScheduleOnce S s).2.2.router := by
  unfold rtosRouterScheduleOnce
  split
  · exact ⟨h.epoch, h.routeTable⟩
  · exact scheduleItem ⟨h.epoch, h.routeTable⟩

theorem drainLoop {n : ℕ} {k : UInt32} (h : router.SameRules s.router) :
    router.SameRules (Rtos.drainLoop S n k s).2.router := by
  induction n generalizing s k with
  | zero => exact h
  | succ n ih =>
    unfold Rtos.drainLoop
    simp only
    split
    · exact h.scheduleOnce
    · exact ih h.scheduleOnce

theorem reclaimQueuedLoop {reason : ReclaimReason} {n : ℕ} {k : UInt32}
    (h : router.SameRules s.router) :
    router.SameRules (Rtos.reclaimQueuedLoop S reason n k s).2.router := by
  induction n generalizing s k with
  | zero => exact h
  | succ n ih =>
    unfold Rtos.reclaimQueuedLoop
    split
    · exact ⟨h.epoch, h.routeTable⟩
    next item queue _ =>
    have hitem : router.SameRules (Rtos.reclaimItem S
        { s with router := { s.router with queue := queue } } item reason).2.2.router :=
      reclaimItem ⟨h.epoch, h.routeTable⟩
    simp only
    split
    · exact hitem
    · exact ih hitem

theorem enqueueInput {input : RouteInput} {target : PutShmInterface} (h : router.SameRules s.router) :
    router.SameRules (Rtos.enqueueInput S s input target).2.router := by
  unfold Rtos.enqueueInput
  have hnow : router.SameRules (S.routerNow s).2.router := h
  generalize S.routerNow s = now at hnow ⊢
  simp only
  split
  · exact hnow.reclaimInput
  generalize (rtosPriorityQueueEnqueue now.2.router.queue
    (fillQueueItem now.2.router input target now.1)) = r
  cases r.evicted with
  | none => exact ⟨hnow.epoch, hnow.routeTable⟩
  | some item =>
    simp only [Rtos.reclaimItem, emitReclaim_eq]
    exact ⟨hnow.epoch, hnow.routeTable⟩

theorem submit {input : RouteInput} (h : router.SameRules s.router) :
    router.SameRules (rtosRouterSubmit S s input).2.router := by
  unfold rtosRouterSubmit
  simp only
  have hnow : router.SameRules
      (S.routerNow { s with router := s.router.countSubmitted }).2.router := ⟨h.epoch, h.routeTable⟩
  generalize S.routerNow { s with router := s.router.countSubmitted } = r at hnow ⊢
  split
  · exact reclaimInput ⟨hnow.epoch, hnow.routeTable⟩
  split
  · exact hnow.reclaimInput
  split
  · exact hnow.reclaimInput
  split
  · exact reclaimInput ⟨hnow.epoch, hnow.routeTable⟩
  split
  · exact hnow.reclaimInput
  · exact hnow.enqueueInput

end RouterContext.SameRules

/-! ## The epoch of what is queued -/

/-- Every queued item bears the router's epoch. -/
def RouterContext.Fenced (router : RouterContext) : Prop :=
  ∀ x ∈ router.queue.items, x.epoch = router.currentLinuxEpoch

/-- Any sinks leave the epochs of the items alone. -/
theorem epoch_keep (S : RouterSinks H) (epoch : UInt32) :
    SinksKeep S (fun q _ => ∀ x ∈ q, QueueItem.epoch x = epoch) where
  perm hperm h x hx := h x (hperm.mem_iff.mpr hx)
  now h := h
  retry h := by simpa using h
  reroute h := by simpa using h
  sent h _ x hx := h x (List.mem_cons_of_mem _ hx)
  unsent h _ := h
  reclaimed h x hx := h x (List.mem_cons_of_mem _ hx)

theorem epoch_submit (S : RouterSinks H) (input : RouteInput) :
    SubmitKeeps S (fun q _ => ∀ x ∈ q, QueueItem.epoch x = input.epoch) input
      (fun q _ => ∀ x ∈ q, QueueItem.epoch x = input.epoch) where
  now h := h
  reclaimed h := h
  queued h _ := by
    intro x hx
    rcases List.mem_cons.mp hx with rfl | hx
    · rfl
    · exact h x hx

theorem RouterContext.Fenced.drainLoop (h : s.router.Fenced) (n : ℕ) (k : UInt32) :
    (drainLoop S n k s).2.router.Fenced := by
  intro x hx
  rw [((RouterContext.SameRules.refl s.router).drainLoop (S := S)).epoch]
  exact (epoch_keep S s.router.currentLinuxEpoch).drainLoop h x hx

theorem RouterContext.Fenced.reclaimQueuedLoop (h : s.router.Fenced) (reason : ReclaimReason) (n : ℕ)
    (k : UInt32) : (reclaimQueuedLoop S reason n k s).2.router.Fenced := by
  intro x hx
  rw [((RouterContext.SameRules.refl s.router).reclaimQueuedLoop (S := S)).epoch]
  exact (epoch_keep S s.router.currentLinuxEpoch).reclaimQueuedLoop h x hx

/-- An input of another epoch leaves the queue as it is. -/
theorem rtosRouterSubmit_of_epoch_ne {input : RouteInput}
    (h : input.epoch ≠ s.router.currentLinuxEpoch) :
    (rtosRouterSubmit S s input).2.router.queue = s.router.queue := by
  unfold rtosRouterSubmit
  simp only
  split
  · exact reclaimInput_queue ..
  split
  · exact reclaimInput_queue ..
  · next hepoch => exact absurd h hepoch

/-- **The router queues frames of its own epoch only.** -/
theorem RouterContext.Fenced.submit (h : s.router.Fenced) (input : RouteInput) :
    (rtosRouterSubmit S s input).2.router.Fenced := by
  intro x hx
  rw [((RouterContext.SameRules.refl s.router).submit (S := S)).epoch]
  by_cases hepoch : input.epoch = s.router.currentLinuxEpoch
  · rw [← hepoch]
    have hqueue : ∀ y ∈ s.router.queue.items, y.epoch = input.epoch := by
      rw [hepoch]
      exact h
    exact (epoch_submit S input).submit (epoch_keep S input.epoch) hqueue x hx
  · rw [rtosRouterSubmit_of_epoch_ne hepoch] at hx
    exact h x hx

end

end Rtos

end PutGateway
