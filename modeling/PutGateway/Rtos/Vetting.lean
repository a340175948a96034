import PutGateway.Rtos.Fencing
import PutGateway.Rtos.RouterLedger
import PutGateway.Rtos.Routing
/-!
# What the RTOS has checked of the frames it sends

The adapter of the router reads a frame's header once, when the frame is
received, and the router queues the frame only where the header is well
formed and agrees with the descriptor. The descriptor the RTOS sends is
put together later, from the queued item and the reference of the frame.
As long as the block does not change in between, it agrees with the
header as the received one did: `Vetting` is what holds of the queue, the
references and the TX rings, and every operation of the tasks keeps it.
-/

namespace PutGateway

/-- A descriptor that describes the frame in its block, as the RTOS
checks it, and leaves its reserved fields zero. -/
structure Descriptor.Describes (d : Descriptor) (block : FrameBlock) : Prop where
  header : Rtos.validateAnymsgHeader d block = true
  reserved0 : d.reserved0 = 0
  reserved1 : ∀ i, d.reserved1 i = 0

namespace Rtos

variable {P : Platform} {K : Clock} {t t' t'' : Tasks} {c c' : TasksContext} {q q' : List QueueItem}
  {pool : Fin 64 → FrameBlock} {d : Descriptor} {f : Fin 64} {block : FrameBlock} {x : QueueItem}

/-! ## References that go -/

/-- No reference is new. -/
def Tasks.Sheds (t t' : Tasks) : Prop :=
  ∀ f d, (t'.frameReferences f).descriptor? = some d → (t.frameReferences f).descriptor? = some d

theorem Tasks.Sheds.refl (t : Tasks) : t.Sheds t := fun _ _ h => h

theorem Tasks.Sheds.trans (h : t.Sheds t') (h' : t'.Sheds t'') : t.Sheds t'' :=
  fun f d hd => h f d (h' f d hd)

theorem Tasks.Sheds.congr (h : t.Sheds t') (href : t''.frameReferences = t'.frameReferences) :
    t.Sheds t'' := by
  intro f d hd
  rw [href] at hd
  exact h f d hd

theorem clearFrameReference_sheds (t : Tasks) (frameId : UInt32) :
    t.Sheds (clearFrameReference t frameId) := by
  unfold clearFrameReference
  split
  · exact .refl t
  next g _ =>
  intro f d hd
  by_cases hg : f = g
  · subst hg
    simp at hd
  · simpa [Function.update_of_ne hg] using hd

theorem txSink_sheds (output : RouteOutput) (t : Tasks) : t.Sheds (rtosTasksTxSink P output t).2 := by
  unfold rtosTasksTxSink
  split
  · exact .refl t
  split
  · exact .refl t
  split
  · exact .refl t
  simp only
  split
  · exact clearFrameReference_sheds _ _
  · exact .refl t

theorem reclaimSink_sheds (output : RouteOutput) (t : Tasks) :
    t.Sheds (rtosTasksReclaimSink P K output t).2 := by
  unfold rtosTasksReclaimSink
  split
  · exact .refl t
  split
  · exact .refl t
  split
  · exact .refl t
  simp only
  split
  · exact clearFrameReference_sheds _ _
  split
  · exact (Tasks.Sheds.refl t).congr (storePendingReclaim_references ..)
  · exact .refl t

theorem retryLoop_sheds (n : ℕ) (k : UInt32) (t : Tasks) : t.Sheds (retryLoop P K n k t).2 := by
  induction n generalizing t k with
  | zero => exact .refl t
  | succ n ih =>
    unfold retryLoop
    split
    · exact .refl t
    next output rest _ =>
    simp only
    split
    · exact .refl t
    split
    · exact .refl t
    · exact (clearFrameReference_sheds (reclaimFrame P t output).2 output.frameId).trans (ih _ _)

theorem retry_sheds (t : Tasks) (budget : UInt32) :
    t.Sheds (rtosTasksRetryPendingReclaims P K t budget).2 := by
  have hloop : t.Sheds (retryLoop P K budget.toNat 0 t).2 := retryLoop_sheds _ _ t
  unfold rtosTasksRetryPendingReclaims
  simp only
  split
  · exact hloop
  · exact hloop

theorem orphanLoop_sheds (budget : UInt32) (l : List (Fin 64)) (k : UInt32) (t : Tasks) :
    t.Sheds (orphanLoop P K budget l k t).2 := by
  induction l generalizing t k with
  | nil => exact .refl t
  | cons f rest ih =>
    unfold orphanLoop
    split
    · exact .refl t
    split
    · exact ih k t
    have hsink : t.Sheds (rtosTasksReclaimSink P K (orphanOutput f (t.frameReferences f).descriptor)
        { t with history := t.history.countOrphan }).2 := reclaimSink_sheds _ _
    simp only
    split
    · exact hsink
    · exact hsink.trans (ih _ _)

/-! ## Items that were checked -/

/-- An item whose frame passed the checks of the adapter: the descriptor
it came with agrees with the block, and the item with the descriptor. -/
structure QueueItem.Vetted (x : QueueItem) (block : FrameBlock) (d : Descriptor) : Prop where
  header : validateAnymsgHeader d block = true
  sourceCid : x.sourceCid = d.sourceCid
  destinationCid : x.destinationCid = d.destinationCid
  type : x.type = d.type

/-- The items of `q` were checked against the blocks `pool`, each with the
reference of its frame. -/
def Tasks.Vets (pool : Fin 64 → FrameBlock) (q : List QueueItem) (t : Tasks) : Prop :=
  ∀ x ∈ q, ∀ f d, frameIndex? x.frameId = some f → (t.frameReferences f).descriptor? = some d →
    x.Vetted (pool f) d

/-- What is unread on the TX rings describes the blocks `pool`. -/
def Tasks.Sends (pool : Fin 64 → FrameBlock) (t : Tasks) : Prop :=
  ∀ i, ∀ d ∈ t.ipc.region.view.tx i, ∀ f, frameIndex? d.frameId = some f → d.Describes (pool f)

theorem Tasks.Vets.mono (h : t.Vets pool q) (href : t.Sheds t')
    (hq : ∀ x ∈ q', ∃ y ∈ q, y.passport = x.passport) : t'.Vets pool q' := by
  intro x hx f d hf hd
  obtain ⟨y, hy, hpass⟩ := hq x hx
  have hid : y.frameId = x.frameId := congrArg Passport.frameId hpass
  obtain ⟨hheader, hsource, hdestination, htype⟩ := h y hy f d (hid ▸ hf) (href f d hd)
  exact ⟨hheader, (congrArg Passport.sourceCid hpass).symm.trans hsource,
    (congrArg Passport.destinationCid hpass).symm.trans hdestination,
    (congrArg Passport.type hpass).symm.trans htype⟩

theorem Tasks.Vets.shed (h : t.Vets pool q) (href : t.Sheds t') : t'.Vets pool q :=
  h.mono href fun x hx => ⟨x, hx, rfl⟩

theorem Tasks.Sends.congr (h : t.Sends pool) (htx : t'.ipc.region.txRings = t.ipc.region.txRings) :
    t'.Sends pool := by
  intro i d hd
  have hview : t'.ipc.region.view.tx i = t.ipc.region.view.tx i :=
    congrArg Ring.unread (congrFun htx i)
  rw [hview] at hd
  exact h i d hd

/-- The descriptor sent for an item describes the block as the received
one did. -/
theorem QueueItem.Vetted.describes (h : x.Vetted block d) (nowMs : UInt32) :
    (fillTxDescriptor d (txOutput x nowMs)).sealed.Describes block := by
  obtain ⟨hheader, hsource, hdestination, htype⟩ := h
  refine ⟨?_, rfl, fun _ => rfl⟩
  have hcid : (fillTxDescriptor d (txOutput x nowMs)).sealed.sourceCid = d.sourceCid := by
    rw [Descriptor.sourceCid_sealed]
    exact hsource
  have hdest : (fillTxDescriptor d (txOutput x nowMs)).sealed.destinationCid = d.destinationCid := by
    rw [Descriptor.destinationCid_sealed]
    exact hdestination
  have hkind : (fillTxDescriptor d (txOutput x nowMs)).sealed.type = d.type := by
    rw [Descriptor.type_sealed]
    exact htype
  have hlength : (fillTxDescriptor d (txOutput x nowMs)).sealed.frameLength = d.frameLength := by
    rw [Descriptor.frameLength_sealed]
    rfl
  rw [← hheader]
  simp only [validateAnymsgHeader, descriptorMatchesHeader, hcid, hdest, hkind, hlength]

/-- **What the TX sink sends of a checked item describes its block.** -/
theorem Tasks.Sends.txSink (h : t.Sends pool) (hvets : t.Vets pool (x :: q)) (nowMs : UInt32) :
    (rtosTasksTxSink P (txOutput x nowMs) t).2.Sends pool := by
  unfold rtosTasksTxSink
  split
  · exact h
  split
  · exact h
  next f hf =>
  split
  · exact h
  next hinUse =>
  have hvetted : x.Vetted (pool f) (t.frameReferences f).descriptor :=
    hvets x List.mem_cons_self f _ hf
      (FrameReference.descriptor?_eq_some.mpr ⟨by simpa using hinUse, rfl⟩)
  have happends := rtosShmIpcEnqueueTxDescriptor_appends (P := P) t.ipc
      (txOutput x nowMs).targetInterface
    (fillTxDescriptor (t.frameReferences f).descriptor (txOutput x nowMs))
  simp only
  generalize rtosShmIpcEnqueueTxDescriptor P t.ipc (txOutput x nowMs).targetInterface
    (fillTxDescriptor (t.frameReferences f).descriptor (txOutput x nowMs)) = r at happends ⊢
  -- what the call appends describes the frame that was vetted
  have hsent : ∀ t' : Tasks, t'.ipc = r.2 → t'.Sends pool := by
    intro t' hipc i d hd g hg
    obtain ⟨ds, hds, hof⟩ := happends i
    rw [hipc, hds] at hd
    rcases List.mem_append.mp hd with hd | hd
    · exact h i d hd g hg
    · obtain rfl := (hof d hd).1
      rw [Descriptor.frameId_sealed] at hg
      obtain rfl : f = g := Option.some.inj (Eq.trans (Eq.symm hf) hg)
      exact hvetted.describes nowMs
  split
  · exact hsent _ clearFrameReference_ipc
  · exact hsent _ rfl

/-- The sinks of the tasks, for a queue of checked items. -/
theorem vets_keep :
    SinksKeep (tasksSinks P K) (fun q t => t.Vets pool q ∧ t.Sends pool) where
  perm hperm h := ⟨fun x hx => h.1 x (hperm.mem_iff.mpr hx), h.2⟩
  now h := h
  retry {x q t n} h := by
    refine ⟨h.1.mono (.refl t) fun y hy => ?_, h.2⟩
    rcases List.mem_cons.mp hy with rfl | hy
    · exact ⟨x, List.mem_cons_self, rfl⟩
    · exact ⟨y, List.mem_cons_of_mem x hy, rfl⟩
  reroute {x q t target epoch} h := by
    refine ⟨h.1.mono (.refl t) fun y hy => ?_, h.2⟩
    rcases List.mem_cons.mp hy with rfl | hy
    · exact ⟨x, List.mem_cons_self, rfl⟩
    · exact ⟨y, List.mem_cons_of_mem x hy, rfl⟩
  sent {x q t nowMs} h _ :=
    ⟨h.1.mono (txSink_sheds _ t) fun y hy => ⟨y, List.mem_cons_of_mem x hy, rfl⟩,
      h.2.txSink h.1 nowMs⟩
  unsent {x q t nowMs} h _ := ⟨h.1.shed (txSink_sheds _ t), h.2.txSink h.1 nowMs⟩
  reclaimed {x q t nowMs reason} h :=
    ⟨h.1.mono (reclaimSink_sheds _ t) fun y hy => ⟨y, List.mem_cons_of_mem x hy, rfl⟩,
      h.2.congr (rtosTasksReclaimSink_served ..).2.txRings⟩

/-- An input that is submitted has passed the checks where it is queued. -/
theorem vets_submit (hf : frameIndex? d.frameId = some f) (nowMs : UInt32) :
    SubmitKeeps (tasksSinks P K) (fun q t => t.Vets pool q ∧ t.Sends pool)
      (routeInput d (pool f) nowMs)
      (fun q t => (t.frameReferences f).descriptor? = some d ∧ t.Vets pool q ∧ t.Sends pool) where
  now h := h
  reclaimed {q t nowMs reason} h :=
    ⟨h.2.1.shed (reclaimSink_sheds _ t), h.2.2.congr (rtosTasksReclaimSink_served ..).2.txRings⟩
  queued {q t router target nowMs} h hvalid := by
    obtain ⟨href, hvets, hsends⟩ := h
    refine ⟨fun x hx g d' hg hd' => ?_, hsends⟩
    rcases List.mem_cons.mp hx with rfl | hx
    swap
    · exact hvets x hx g d' hg hd'
    have hg' : frameIndex? d.frameId = some g := hg
    obtain rfl : f = g := Option.some.inj (hf.symm.trans hg')
    obtain rfl : d = d' := Option.some.inj (href.symm.trans hd')
    have hheader : validateAnymsgHeader d (pool f) = true := by
      simp only [inputIsInvalid, routeInput, Bool.or_eq_false_iff, Bool.not_eq_false'] at hvalid
      exact hvalid.1.1.1
    have htype : (pool f).header.type = d.type := by
      simp only [validateAnymsgHeader, descriptorMatchesHeader, Bool.and_eq_true, beq_iff_eq] at hheader
      exact hheader.1.2.2.symm
    exact ⟨hheader, rfl, rfl, htype⟩

/-! ## The tasks -/

/-- The queue, the references and the TX rings agree with the blocks. -/
structure Vetting (pool : Fin 64 → FrameBlock) (c : TasksContext) : Prop where
  queued : c.host.Vets pool c.router.queue.items
  sends : c.host.Sends pool

theorem Vetting.shed (h : Vetting pool c)
    (hqueue : ∀ x ∈ c'.router.queue.items, ∃ y ∈ c.router.queue.items, y.passport = x.passport)
    (href : c.host.Sheds c'.host)
    (htx : c'.host.ipc.region.txRings = c.host.ipc.region.txRings) : Vetting pool c' :=
  ⟨h.queued.mono href hqueue, h.sends.congr htx⟩

/-- A step on the host by which no reference is new and nothing is sent. -/
theorem Vetting.ofHost (h : Vetting pool c) (href : c.host.Sheds t)
    (htx : t.ipc.region.txRings = c.host.ipc.region.txRings) : Vetting pool { c with host := t } :=
  h.shed (fun x hx => ⟨x, hx, rfl⟩) href htx

/-- **A descriptor is received**: its frame is not queued, and it is
queued only where it passes the checks. -/
theorem Vetting.receive (h : Vetting pool c) (hbooks : (ledger c).Books)
    (hinit : c.host.ipc.initialized = true) (hpool : c.host.ipc.region.framePool = pool)
    (hbounds : validateDescriptorBounds d = .ok) : Vetting pool (receiveDescriptor P K c d).2 := by
  obtain ⟨f, hf⟩ := frameIndex?_of_bounds hbounds
  rcases receiveDescriptor_cases P K c hinit hbounds hf with
    ⟨-, heq⟩ | ⟨hfree, t, hipc, -, -, ⟨-, hrefs, heq⟩ | ⟨-, -, hrefs, heq⟩⟩
  · -- its frame is referenced already
    rw [heq]
    exact h.ofHost (.refl c.host) rfl
  · -- its frame cannot be read
    rw [heq]
    refine h.ofHost (fun g d' hd' => ?_) (by rw [hipc])
    rw [hrefs] at hd'
    by_cases hg : g = f
    · subst hg
      simp at hd'
    · simpa [Function.update_of_ne hg] using hd'
  -- it is submitted
  have hvets : t.Vets pool c.router.queue.items := by
    intro x hx g d' hg hd'
    obtain ⟨g', r, hid, href, -⟩ := hbooks.held (.item x) (List.mem_map_of_mem hx)
    obtain rfl : g = g' := by
      rw [frameIndex?_eq_some] at hg
      exact frameIdOfIndex_inj.mp (hg.symm.trans hid)
    have hne : g ≠ f := by
      rintro rfl
      rw [(FrameReference.descriptor?_eq_some.mp href).1] at hfree
      cases hfree
    rw [hrefs, Function.update_of_ne hne] at hd'
    exact h.queued x hx g d' hg hd'
  have hregistered : (t.frameReferences f).descriptor? = some d := by
    rw [hrefs, Function.update_self]
    rfl
  have hdone := (vets_submit (P := P) (K := K) hf (K c.host.ticks)).submit vets_keep
    (s := ⟨c.router, t⟩) ⟨hregistered, hvets, h.sends.congr (by rw [hipc])⟩
  rw [heq, hpool]
  simp only
  split
  · exact ⟨hdone.1, hdone.2⟩
  · exact ⟨hdone.1, hdone.2⟩

theorem Vetting.drainStep {i : Fin 6} (h : Vetting pool c) (hsound : Sound c)
    (hpool : c.host.ipc.region.framePool = pool) :
    Vetting pool (drainStep P K (interfaceOfIndex i) c).2 := by
  unfold Rtos.drainStep
  obtain ⟨hinit, hends⟩ := rtosShmIpcDequeueRxDescriptor_cases P hsound.valid hsound.initialized i
  have htx := (ReceiveStep.take (P := P) (K := K) c.host (interfaceOfIndex i)).txRings
  simp only at htx ⊢
  generalize rtosShmIpcDequeueRxDescriptor P c.host.ipc (interfaceOfIndex i) = r at hinit hends htx ⊢
  have hkeep : Vetting pool { c with host := { c.host with ipc := r.2.2 } } :=
    h.ofHost (.refl c.host) htx
  split
  · exact hkeep
  split
  · exact hkeep.ofHost (.refl _) rfl
  next hok =>
  rcases hends with ⟨hres, -⟩ | ⟨d, rest, -, hregion, ⟨-, hres, -⟩ | ⟨hgood, hsome, -⟩⟩
  · exact absurd hres hok
  · exact absurd hres hok
  · -- the head was handed over
    rw [hsome]
    exact hkeep.receive (hsound.books.withQueues r.2.2.region.view) hinit
      (hregion.framePool.trans hpool) hgood.bounds

variable {R : Region} {L : Ledger}

/-- The iterations of the event task, on the blocks of `R`. -/
theorem vetting_iterates :
    Iterates P K (fun c => ContextFollows P R L c ∧ Vetting R.framePool c) where
  idle {router t t'} hstep h := by
    obtain ⟨hregion, -, href, -, -⟩ := hstep.frames
    refine ⟨(contextFollows_iterates (K := K)).idle hstep h.1, ?_⟩
    exact h.2.ofHost ((Tasks.Sheds.refl t).congr href) (congrArg Region.txRings hregion)
  iteration h _ := ⟨h.1.drainStep, h.2.drainStep (ContextFollows.sound h.1) h.1.framePool⟩

theorem Vetting.retry (h : Vetting pool c) (budget : UInt32) :
    Vetting pool { c with host := (rtosTasksRetryPendingReclaims P K c.host budget).2 } :=
  h.ofHost (retry_sheds c.host budget) (retry_givesBack c budget).quiet.txRings

theorem Vetting.eventTask (h : Vetting pool c) (hsound : Sound c)
    (hpool : c.host.ipc.region.framePool = pool) (trigger : IpcEventTrigger) :
    Vetting pool (rtosIpcEventTaskRunOnce P K c trigger).2 := by
  rcases rtosIpcEventTaskRunOnce_cases P K c trigger with
    ⟨hnormal, -⟩ | ⟨-, t, ht, ⟨-, heq⟩ | ⟨-, heq⟩⟩
  · subst hpool
    exact (vetting_iterates.eventTask ⟨hsound.follows (P := P), h⟩ hnormal trigger).2
  · rw [heq]
    exact h.ofHost ((Tasks.Sheds.refl _).congr ht.references) ht.quiet.txRings
  · rw [heq]
    have ht' : Vetting pool { c with host := t } :=
      h.ofHost ((Tasks.Sheds.refl _).congr ht.references) ht.quiet.txRings
    exact ht'.retry 64

theorem Vetting.schedulerTask (h : Vetting pool c) (budget : UInt32) :
    Vetting pool (rtosRouterSchedulerTaskRunOnce P K c budget).2 := by
  unfold rtosRouterSchedulerTaskRunOnce
  split
  · exact h.retry budget
  split
  · exact h
  · obtain ⟨hqueued, hsends⟩ := vets_keep.drain (s := c) budget ⟨h.queued, h.sends⟩
    exact ⟨hqueued, hsends⟩

theorem Vetting.recoverFrames (h : Vetting pool c) (budget : UInt32) :
    Vetting pool (recoverFrames P K c budget).2 := by
  refine recoverFrames_keeps (I := Vetting pool) ?_ ?_ ?_ h budget
  · intro c budget h
    exact h.retry budget
  · intro c budget h
    obtain ⟨hqueued, hsends⟩ :=
      vets_keep.reclaimQueued (s := c) .queueFull budget ⟨h.queued, h.sends⟩
    exact ⟨hqueued, hsends⟩
  · intro c budget h _
    exact h.ofHost (orphanLoop_sheds _ _ _ _) (orphanLoop_serves ..).2.txRings

theorem Vetting.recoveryTask (h : Vetting pool c) (budget : UInt32) :
    Vetting pool (rtosRecoveryTaskRunOnce P K c budget).2 := by
  obtain ⟨hipc, href, -⟩ := startRecovery_frames c
  have hstarted : Vetting pool (startRecovery c) :=
    h.shed (fun x hx => ⟨x, hx, rfl⟩) ((Tasks.Sheds.refl _).congr href) (by rw [hipc])
  have hrecovered : Vetting pool (recoveredFrames P K c budget) := hstarted.recoverFrames budget
  rcases rtosRecoveryTaskRunOnce_cases P K c budget with
    ⟨-, -, heq⟩ | ⟨-, ⟨-, heq⟩ | ⟨-, -, heq⟩ | ⟨-, -, -, heq⟩⟩
  · rw [heq]
    exact h
  · rw [heq]
    exact hrecovered.ofHost (.refl _) rfl
  · rw [heq]
    exact hrecovered.ofHost (.refl _) rfl
  · rw [heq]
    obtain ⟨hqueue, -, href, hregion⟩ := finishRecovery_frames K (recoveredFrames P K c budget)
    refine hrecovered.shed (fun x hx => ⟨x, hqueue ▸ hx, rfl⟩) ((Tasks.Sheds.refl _).congr href) ?_
    exact congrArg Region.txRings hregion

/-- A task that moves no frame. -/
theorem Vetting.sameFrames (h : Vetting pool c) (hhost : c.host.SameFrames c'.host)
    (hqueue : c'.router.queue = c.router.queue) : Vetting pool c' :=
  h.shed (fun x hx => ⟨x, hqueue ▸ hx, rfl⟩) ((Tasks.Sheds.refl _).congr hhost.references)
    (by rw [hhost.ipc])

/-- The environment takes descriptors off the TX rings, and writes blocks
the RTOS does not hold. -/
theorem Vetting.environment {pool' : Fin 64 → FrameBlock} (h : Vetting pool c) {R : Region}
    (htx : ∀ i, R.view.tx i ⊆ c.host.ipc.region.view.tx i)
    (href : ∀ f d, (c.host.frameReferences f).descriptor? = some d → pool' f = pool f)
    (hsent : ∀ i, ∀ d ∈ c.host.ipc.region.view.tx i, ∀ f, frameIndex? d.frameId = some f →
      pool' f = pool f) : Vetting pool' (withRegion c R) := by
  refine ⟨fun x hx f d hf hd => ?_, fun i d hd f hf => ?_⟩
  · rw [href f d hd]
    exact h.queued x hx f d hf hd
  · rw [hsent i d (htx i hd) f hf]
    exact h.sends i d (htx i hd) f hf

/-- **Every operation of the tasks keeps what was checked.** -/
theorem Vetting.run (h : Vetting pool c) (hsound : Sound c)
    (hpool : c.host.ipc.region.framePool = pool) (op : Operation) :
    Vetting pool (op.run P K c) := by
  cases op with
  | eventTask trigger => exact h.eventTask hsound hpool trigger
  | schedulerTask budget => exact h.schedulerTask budget
  | retryPendingReclaims budget => exact h.retry budget
  | heartbeatTask =>
    exact h.sameFrames (rtosHeartbeatTaskRunOnce_snd K c).1 (rtosHeartbeatTaskRunOnce_snd K c).2
  | errorMonitorTask =>
    exact h.sameFrames (rtosErrorMonitorTaskRunOnce_snd K c).1 (rtosErrorMonitorTaskRunOnce_snd K c).2
  | recoveryTask budget => exact h.recoveryTask budget
  | statisticsTask => exact h.ofHost (.refl _) rfl
  | observeLinuxHeartbeat sequence => exact h.ofHost (.refl _) rfl

end Rtos

end PutGateway
