import PutGateway.Rtos.Ledger
import PutGateway.Rtos.Receiving
import PutGateway.Rtos.RouterSpec
import PutGateway.Rtos.Supervision
/-!
# The tasks follow the ledger

Each function of `rtos_tasks.c` that touches a frame is a sequence of
moves on the ledger of its context, for every outcome of the platform
calls it makes; with calls that succeed the sequence has no faults. The
sinks are simulated first, the router by `SinksKeep`, and the tasks by
induction on their loops.
-/

namespace PutGateway

namespace Rtos

variable {P : Platform} {K : Clock} {t t' : Tasks} {L : Ledger} {held held' : List Holding}

/-! ## Following the ledger -/

/-- The context has gone by moves from the ledger `L` to the one where
the router holds `held`, on a region whose header and blocks are those
of `R`. -/
structure Follows (P : Platform) (R : Region) (L : Ledger) (held : List Holding) (t : Tasks) :
    Prop where
  initialized : t.ipc.initialized = true
  valid : t.ipc.region.Valid
  header : t.ipc.region.header = R.header
  framePool : t.ipc.region.framePool = R.framePool
  books : (t.ledger held).Books
  moves : ∃ es, Moves L es (t.ledger held) ∧ (P.Succeeds → ∀ e ∈ es, ¬ e.IsFault)

variable {R : Region}

/-- A context between two operations follows its own ledger. -/
theorem Follows.start (hinit : t.ipc.initialized = true) (hv : t.ipc.region.Valid)
    (hbooks : (t.ledger held).Books) : Follows P t.ipc.region (t.ledger held) held t :=
  ⟨hinit, hv, rfl, rfl, hbooks, [], .refl, by simp⟩

/-- One more move. -/
theorem Follows.move {e : Event} {L' : Ledger} (h : Follows P R L held t)
    (hmove : Move (t.ledger held) e L') (hfault : P.Succeeds → ¬ e.IsFault)
    (hinit : t'.ipc.initialized = true) (hregion : t.ipc.region.Becomes t'.ipc.region L'.queues)
    (hledger : t'.ledger held' = L') : Follows P R L held' t' := by
  subst hledger
  obtain ⟨es, hes, hok⟩ := h.moves
  refine ⟨hinit, hregion.valid, hregion.header.trans h.header, hregion.framePool.trans h.framePool,
    hmove.books h.books, es ++ [e], .snoc hes hmove, fun hP e' he' => ?_⟩
  rcases List.mem_append.mp he' with he' | he'
  · exact hok hP e' he'
  · exact List.mem_singleton.mp he' ▸ hfault hP

/-- A step that changes no queue, reference or frozen reclaim. -/
theorem Follows.stay (h : Follows P R L held t) (hinit : t'.ipc.initialized = true)
    (hregion : t.ipc.region.Becomes t'.ipc.region t.ipc.region.view)
    (href : t'.frameReferences = t.frameReferences) (hpending : t'.pendingReclaims = t.pendingReclaims)
    (hhistory : t'.history = t.history) : Follows P R L held t' := by
  have hledger : t'.ledger held = t.ledger held := by
    simp only [Tasks.ledger, hregion.view, href, hpending, hhistory]
  exact ⟨hinit, hregion.valid, hregion.header.trans h.header, hregion.framePool.trans h.framePool,
    hledger ▸ h.books, hledger ▸ h.moves⟩

/-- A step that changes statistics, monitor or clock only. -/
theorem Follows.congr (h : Follows P R L held t) (hipc : t'.ipc = t.ipc)
    (href : t'.frameReferences = t.frameReferences) (hpending : t'.pendingReclaims = t.pendingReclaims)
    (hhistory : t'.history = t.history) : Follows P R L held t' :=
  h.stay (hipc ▸ h.initialized) (hipc ▸ h.valid.becomes_self) href hpending hhistory

theorem Follows.rearrange (h : Follows P R L held t) (hperm : held.Perm held') :
    Follows P R L held' t :=
  h.move (.rearrange hperm) (fun _ h => h) h.initialized h.valid.becomes_self rfl

/-! ## References -/

@[simp] theorem FrameReference.descriptor?_default : ({} : FrameReference).descriptor? = none := rfl

theorem FrameReference.descriptor?_eq_some {r : FrameReference} {d : Descriptor} :
    r.descriptor? = some d ↔ r.inUse = true ∧ r.descriptor = d := by
  unfold FrameReference.descriptor?
  split
  · next h => simp [h]
  · next h => simp [h]

theorem descriptor?_update (refs : Fin 64 → FrameReference) (f : Fin 64) (r : FrameReference) :
    (fun g => (Function.update refs f r g).descriptor?) =
      Function.update (fun g => (refs g).descriptor?) f r.descriptor? := by
  funext g
  by_cases hg : g = f
  · subst hg
    simp
  · simp [Function.update_of_ne hg]

theorem clearFrameReference_ledger {id : UInt32} {f : Fin 64} (hf : frameIndex? id = some f) :
    (clearFrameReference t id).ledger held = (t.ledger held).clear f := by
  simp only [clearFrameReference, hf, Tasks.ledger, Ledger.clear, descriptor?_update,
    FrameReference.descriptor?_default]

theorem clearFrameReference_ipc {id : UInt32} : (clearFrameReference t id).ipc = t.ipc := by
  unfold clearFrameReference
  split <;> rfl

/-- The ledger after the queues have changed. -/
theorem Tasks.ledger_of_view {q : Queues} (hview : t'.ipc.region.view = q)
    (href : t'.frameReferences = t.frameReferences) (hpending : t'.pendingReclaims = t.pendingReclaims)
    (hhistory : t'.history = t.history) : t'.ledger held = { t.ledger held with queues := q } := by
  simp only [Tasks.ledger, hview, href, hpending, hhistory]

/-! ## The TX sink -/

/-- The TX sink on a frame in use. -/
theorem rtosTasksTxSink_of_inUse {output : RouteOutput} {f : Fin 64} (hkind : output.kind = .tx)
    (hf : frameIndex? output.frameId = some f) (href : (t.frameReferences f).inUse = true) :
    rtosTasksTxSink P output t =
      let r := rtosShmIpcEnqueueTxDescriptor P t.ipc output.targetInterface
        (fillTxDescriptor (t.frameReferences f).descriptor output)
      if r.1 = .ok then
        (.ok, clearFrameReference
          { t with
            ipc := r.2
            statistics := { t.statistics with txEnqueueCount := t.statistics.txEnqueueCount + 1 }
            monitor := rtosMonitorRecordLatency t.monitor output.priority output.latencyMs }
          output.frameId)
      else (r.1, { t with ipc := r.2 }) := by
  simp [rtosTasksTxSink, hkind, hf, href]

/-- **Handing an item to the TX sink** sends it or keeps it. -/
theorem Follows.txSink {x : QueueItem} {nowMs : UInt32} (h : Follows P R L (.item x :: held) t) :
    ((rtosTasksTxSink P (txOutput x nowMs) t).1 = .ok →
      Follows P R L held (rtosTasksTxSink P (txOutput x nowMs) t).2) ∧
    ((rtosTasksTxSink P (txOutput x nowMs) t).1 ≠ .ok →
      Follows P R L (.item x :: held) (rtosTasksTxSink P (txOutput x nowMs) t).2) := by
  obtain ⟨f, d, hid, href, -⟩ := h.books.held _ List.mem_cons_self
  obtain ⟨hinUse, hd⟩ := FrameReference.descriptor?_eq_some.mp href
  have hf : frameIndex? (txOutput x nowMs).frameId = some f := frameIndex?_eq_some.mpr hid
  rw [rtosTasksTxSink_of_inUse rfl hf hinUse, hd]
  simp only
  have hcases := rtosShmIpcEnqueueTxDescriptor_cases P t.ipc (txOutput x nowMs).targetInterface
    (fillTxDescriptor d (txOutput x nowMs))
  generalize rtosShmIpcEnqueueTxDescriptor P t.ipc (txOutput x nowMs).targetInterface
    (fillTxDescriptor d (txOutput x nowMs)) = r at hcases ⊢
  obtain ⟨hinit, hends⟩ := hcases
  rw [h.initialized] at hinit
  rcases hends with ⟨hres, hregion⟩ | ⟨i, htarget, -, -, hroom, -, -, hkept, hok⟩
  · -- nothing is published
    rw [if_neg hres]
    refine ⟨fun h => absurd h hres, fun _ => h.stay hinit ?_ rfl rfl rfl⟩
    rcases hregion with hkept | ⟨i, hroom, hkept⟩
    · exact hkept.becomes h.valid
    · exact Region.becomes_stageTx h.valid (h.valid.tx_room.mp hroom) hkept
  have hlt := h.valid.tx_room.mp hroom
  have hbecomes := Region.becomes_publishTx h.valid hlt hkept
  by_cases hres : r.1 = .ok
  · -- published, and reported
    rw [if_pos hres]
    refine ⟨fun _ => ?_, fun hne => absurd rfl hne⟩
    have hmove := Move.send (L := t.ledger (.item x :: held)) nowMs rfl hf href htarget hlt
    refine h.move hmove (fun _ h => h) ?_ ?_ ?_
    · rw [clearFrameReference_ipc]
      exact hinit
    · rw [clearFrameReference_ipc]
      exact hbecomes
    · rw [clearFrameReference_ledger hf, Tasks.ledger_of_view hbecomes.view rfl rfl rfl]
      rfl
  · -- published, and reported as failed
    rw [if_neg hres]
    refine ⟨fun h => absurd h hres, fun _ => ?_⟩
    have hmove := Move.straySend (L := t.ledger (.item x :: held)) nowMs rfl hf href htarget
    refine h.move hmove (fun hP _ => hres (hok.mpr ⟨hP _, hP _, hP _⟩)) hinit hbecomes ?_
    exact Tasks.ledger_of_view hbecomes.view rfl rfl rfl

/-! ## The reclaim sink -/

theorem pendingReclaimExists_iff {id : UInt32} :
    pendingReclaimExists t id = true ↔ ∃ o ∈ t.pendingReclaims, o.frameId = id := by
  simp [pendingReclaimExists]

/-- Freezing a reclaim leaves the IPC alone. -/
theorem storePendingReclaim_ipc (K : Clock) (t : Tasks) (output : RouteOutput) :
    (storePendingReclaim K t output).2.ipc = t.ipc := by
  unfold storePendingReclaim
  split
  · rfl
  split
  · rfl
  · rfl

theorem storePendingReclaim_references (K : Clock) (t : Tasks) (output : RouteOutput) :
    (storePendingReclaim K t output).2.frameReferences = t.frameReferences := by
  unfold storePendingReclaim
  split
  · rfl
  split
  · rfl
  · rfl

/-- Freezing the reclaim of a frame takes it out of what is held. -/
theorem Follows.store {h : Holding} {output : RouteOutput} {f : Fin 64} {d : Descriptor}
    (hfollows : Follows P R L (h :: held) t) (hid : output.frameId = h.frameId)
    (hf : frameIndex? h.frameId = some f) (href : (t.ledger (h :: held)).references f = some d) :
    Follows P R L held (storePendingReclaim K t (withRxMetadata output d)).2 := by
  have hid' : (withRxMetadata output d).frameId = h.frameId := hid
  have hself := hfollows.valid.becomes_self
  unfold storePendingReclaim
  split
  · next hexists =>
    rw [pendingReclaimExists_iff, hid'] at hexists
    exact hfollows.move (.absorb rfl hexists) (fun _ h => h) hfollows.initialized hself rfl
  next hexists =>
  rw [pendingReclaimExists_iff, hid'] at hexists
  split
  · next hfull =>
    exact hfollows.move (.overflow rfl (fun o ho heq => hexists ⟨o, ho, heq⟩) hfull) (fun _ h => h)
      hfollows.initialized hself rfl
  · next hroom =>
    exact hfollows.move (.freeze rfl hid hf href (not_le.mp hroom)) (fun _ h => h)
      hfollows.initialized hself rfl

theorem Follows.abandon {h : Holding} (hfollows : Follows P R L (h :: held) t)
    (hfault : ¬ P.Succeeds) : Follows P R L held t :=
  hfollows.move (.abandon rfl) (fun hP => absurd hP hfault) hfollows.initialized
    hfollows.valid.becomes_self rfl

/-- Both interfaces of a registered descriptor are valid. -/
theorem Acceptable.interfaces {i : Fin 6} {d : Descriptor} (h : Acceptable i d) :
    isInterfaceValid d.sourceInterface = true ∧ isInterfaceValid d.targetInterface = true := by
  have hbounds := h.bounds
  unfold validateDescriptorBounds at hbounds
  split at hbounds
  · cases hbounds
  · next hvalid => simpa using hvalid

/-- What becomes of a reclaim written to the reclaim ring: it is
published and reported as such, or the ledger stays but for a stray
publication, and with calls that succeed the ring was full. -/
theorem Follows.reclaimFrame {h : Holding} {output : RouteOutput} {f : Fin 64} {d : Descriptor}
    (hfollows : Follows P R L (h :: held) t) (hid : output.frameId = h.frameId)
    (hf : frameIndex? h.frameId = some f) (href : (t.ledger (h :: held)).references f = some d) :
    let r := reclaimFrame P t (withRxMetadata output d)
    r.2.frameReferences = t.frameReferences ∧ r.2.pendingReclaims = t.pendingReclaims ∧
    r.2.history = t.history ∧
    ((r.1 = .ok ∧ Follows P R L held (clearFrameReference r.2 output.frameId)) ∨
      (r.1 ≠ .ok ∧ Follows P R L (h :: held) r.2 ∧ (P.Succeeds → r.1 = .ipcQueueFull))) := by
  have hid' : frameIndex? output.frameId = some f := hid ▸ hf
  obtain ⟨-, i, hgood⟩ := hfollows.books.references f d href
  have hlt : output.frameId < 64 := frameIndex?_lt hid'
  have hsource : isInterfaceValid d.sourceInterface.toUInt32.toUInt8 = true := by
    simpa using hgood.interfaces.1
  have htarget : isInterfaceValid d.targetInterface.toUInt32.toUInt8 = true := by
    simpa using hgood.interfaces.2
  have hcases := rtosShmIpcReclaimFrame_cases P t.ipc output.frameId output.reclaimReason
    d.sourceInterface.toUInt32 d.targetInterface.toUInt32 d.epoch d.flags
  have hsucceeds := fun hP : P.Succeeds => rtosShmIpcReclaimFrame_succeeds hP hfollows.initialized
    hfollows.valid hlt hsource htarget output.reclaimReason d.epoch d.flags
  simp only [Rtos.reclaimFrame, withRxMetadata, true_and] at hcases hsucceeds ⊢
  generalize rtosShmIpcReclaimFrame P t.ipc output.frameId output.reclaimReason
    d.sourceInterface.toUInt32 d.targetInterface.toUInt32 d.epoch d.flags = r at hcases hsucceeds ⊢
  obtain ⟨hinit, hends⟩ := hcases
  rw [hfollows.initialized] at hinit
  have hfull : P.Succeeds → r.1 ≠ .ok → r.1 = .ipcQueueFull := by
    intro hP hne
    rcases hsucceeds hP with ⟨-, hres, -⟩ | ⟨-, hres, -⟩
    · exact hres
    · exact absurd hres hne
  rcases hends with ⟨hres, hregion⟩ | ⟨-, hroom, -, -, hkept, hok⟩
  · -- nothing is published
    refine .inr ⟨hres, hfollows.stay hinit ?_ rfl rfl rfl, fun hP => hfull hP hres⟩
    rcases hregion with hkept | ⟨hroom, hkept⟩
    · exact hkept.becomes hfollows.valid
    · exact Region.becomes_stageReclaim hfollows.valid (hfollows.valid.reclaim_room.mp hroom) hkept
  have hroom' := hfollows.valid.reclaim_room.mp hroom
  have hbecomes := Region.becomes_publishReclaim hfollows.valid hroom' hkept
  by_cases hres : r.1 = .ok
  · -- published, and reported
    refine .inl ⟨hres, ?_⟩
    have hmove := Move.reclaim (L := t.ledger (h :: held)) rfl hid hf href hroom'
    refine hfollows.move hmove (fun _ h => h) ?_ ?_ ?_
    · rw [clearFrameReference_ipc]
      exact hinit
    · rw [clearFrameReference_ipc]
      exact hbecomes
    · rw [clearFrameReference_ledger hid', Tasks.ledger_of_view hbecomes.view rfl rfl rfl]
      rfl
  · -- published, and reported as failed
    refine .inr ⟨hres, ?_, fun hP => hfull hP hres⟩
    have hmove := Move.strayReclaim (L := t.ledger (h :: held)) rfl hid hf href
    refine hfollows.move hmove (fun hP _ => hres (hok.mpr ⟨hP _, hP _, hP _⟩)) hinit hbecomes ?_
    exact Tasks.ledger_of_view hbecomes.view rfl rfl rfl

/-- **Handing a frame to the reclaim sink** takes it out of what is
held. -/
theorem Follows.reclaimSink {h : Holding} {output : RouteOutput} (hkind : output.kind = .reclaim)
    (hid : output.frameId = h.frameId) (hfollows : Follows P R L (h :: held) t) :
    Follows P R L held (rtosTasksReclaimSink P K output t).2 := by
  obtain ⟨f, d, hf, href, -⟩ := hfollows.books.held _ List.mem_cons_self
  obtain ⟨hinUse, hd⟩ := FrameReference.descriptor?_eq_some.mp href
  have hf' : frameIndex? h.frameId = some f := frameIndex?_eq_some.mpr hf
  obtain ⟨href', hpending', hhistory', hends⟩ := hfollows.reclaimFrame hid hf' href
  have hsink : rtosTasksReclaimSink P K output t =
      let r := Rtos.reclaimFrame P t (withRxMetadata output d)
      if r.1 = .ok then
        (.ok, clearFrameReference
          { r.2 with
            statistics := { r.2.statistics with
              reclaimEnqueueCount := r.2.statistics.reclaimEnqueueCount + 1 } }
          output.frameId)
      else if r.1 = .ipcQueueFull then
        storePendingReclaim K
          { r.2 with
            statistics := { r.2.statistics with
              reclaimFullCount := r.2.statistics.reclaimFullCount + 1 } }
          (withRxMetadata output d)
      else (r.1, r.2) := by
    simp [rtosTasksReclaimSink, hkind, hid, hf', hinUse, hd]
  rw [hsink]
  simp only
  generalize Rtos.reclaimFrame P t (withRxMetadata output d) = r at href' hpending' hhistory' hends ⊢
  rcases hends with ⟨hres, hdone⟩ | ⟨hres, hkeep, hfull⟩
  · -- published: the reference is cleared, once more after the ring did it
    rw [if_pos hres]
    refine hdone.congr ?_ ?_ ?_ ?_
    · rw [clearFrameReference_ipc, clearFrameReference_ipc]
    · simp only [clearFrameReference, hid, hf']
    · simp only [clearFrameReference, hid, hf']
    · simp only [clearFrameReference, hid, hf']
  rw [if_neg hres]
  by_cases hstore : r.1 = .ipcQueueFull
  · -- the ring is full: the request is frozen under the reference it keeps
    rw [if_pos hstore]
    refine Follows.store (hkeep.congr rfl rfl rfl rfl) hid hf' ?_
    have hledger : r.2.ledger (h :: held) =
        { t.ledger (h :: held) with queues := r.2.ipc.region.view } :=
      Tasks.ledger_of_view rfl href' hpending' hhistory'
    exact (congrArg (fun L => Ledger.references L f) hledger).trans href
  · rw [if_neg hstore]
    -- only a failing platform call answers otherwise
    exact hkeep.abandon fun hP => hstore (hfull hP)

/-! ## The router over the tasks' sinks -/

/-- What the router holds between two operations. -/
def Queued (P : Platform) (R : Region) (L : Ledger) (q : List QueueItem) (t : Tasks) : Prop :=
  Follows P R L (q.map .item) t

/-- The sinks of the tasks account for the items they are given. -/
theorem tasksSinks_keep : SinksKeep (tasksSinks P K) (Queued P R L) where
  perm hperm h := h.rearrange (hperm.map _)
  now h := h.congr rfl rfl rfl rfl
  retry h := h.move (.retry rfl) (fun _ h => h) h.initialized h.valid.becomes_self rfl
  reroute h := h.move (.reroute rfl) (fun _ h => h) h.initialized h.valid.becomes_self rfl
  sent h := (Follows.txSink h).1
  unsent h := (Follows.txSink h).2
  reclaimed h := Follows.reclaimSink rfl rfl h

/-- An input that is being submitted is accounted for as well. -/
theorem tasksSinks_submit {input : RouteInput} :
    SubmitKeeps (tasksSinks P K) (Queued P R L) input
      (fun q t => Follows P R L (.input input :: q.map .item) t) where
  now h := h.congr rfl rfl rfl rfl
  reclaimed h := Follows.reclaimSink rfl rfl h
  queued h hvalid := h.move (.enter rfl hvalid) (fun _ h => h) h.initialized h.valid.becomes_self rfl

/-- A context follows the ledger. -/
def ContextFollows (P : Platform) (R : Region) (L : Ledger) (c : TasksContext) : Prop :=
  Queued P R L c.router.queue.items c.host

theorem ContextFollows.start {c : TasksContext} (hinit : c.host.ipc.initialized = true)
    (hv : c.host.ipc.region.Valid) (hbooks : (ledger c).Books) :
    ContextFollows P c.host.ipc.region (ledger c) c := Follows.start hinit hv hbooks

variable {c : TasksContext}

/-! ## Receiving -/

/-- An acceptable descriptor names a frame. -/
theorem Acceptable.frame {i : Fin 6} {d : Descriptor} (h : Acceptable i d) :
    ∃ f, frameIndex? d.frameId = some f := frameIndex?_of_bounds h.bounds

/-- The input of a descriptor is built where its frame can be read. -/
theorem rtosRouterAdapterDescriptorToInput_eq {shm : RtosShm} (hinit : shm.initialized = true)
    {d : Descriptor} (hbounds : validateDescriptorBounds d = .ok) {f : Fin 64}
    (hf : frameIndex? d.frameId = some f) (nowMs : UInt32) :
    (rtosRouterAdapterDescriptorToInput P shm d nowMs).2 =
      (if P.outcome shm.calls = .ok then some (routeInput d (shm.region.framePool f) nowMs) else none,
        { shm with calls := shm.calls + 1 }) := by
  rw [rtosRouterAdapterDescriptorToInput, rtosShmIpcGetFrameConst_cases hinit hbounds hf]
  by_cases h : P.outcome shm.calls = .ok <;> simp [h]

private theorem receiveDescriptor_of_read {d : Descriptor} {input : RouteInput} {ipc : RtosShm}
    (hregister : registerFrameReference c.host.countRxDescriptor d = (.ok, t))
    (hadapter : (rtosRouterAdapterDescriptorToInput P t.ipc d (K t.ticks)).2 = (some input, ipc)) :
    receiveDescriptor P K c d =
      let r := rtosRouterSubmit (tasksSinks P K)
        { c with host := { t with ipc := ipc, ticks := t.ticks + 1 } } input
      if r.1 ≠ .ok then (false, r.2)
      else (true, { r.2 with host := r.2.host.countRouteSubmit }) := by
  simp only [receiveDescriptor, hregister, tasksNow, hadapter]
  rfl

private theorem receiveDescriptor_of_unread {d : Descriptor} {ipc : RtosShm}
    (hregister : registerFrameReference c.host.countRxDescriptor d = (.ok, t))
    (hadapter : (rtosRouterAdapterDescriptorToInput P t.ipc d (K t.ticks)).2 = (none, ipc)) :
    receiveDescriptor P K c d =
      (true, { c with
        host := clearFrameReference
          ({ t with ipc := ipc, ticks := t.ticks + 1 } : Tasks).countAdapterError d.frameId }) := by
  simp only [receiveDescriptor, hregister, tasksNow, hadapter]
  rfl

/-- **The ends of the reception of a descriptor.** Its frame is referenced
already; or its frame cannot be read and its reference is removed again;
or it is submitted to the router. -/
theorem receiveDescriptor_cases (P : Platform) (K : Clock) (c : TasksContext)
    (hinit : c.host.ipc.initialized = true) {d : Descriptor}
    (hbounds : validateDescriptorBounds d = .ok) {f : Fin 64} (hf : frameIndex? d.frameId = some f) :
    ((c.host.frameReferences f).inUse = true ∧
      receiveDescriptor P K c d =
        (true, { c with host := c.host.countRxDescriptor.countInvalidDescriptor })) ∨
    ((c.host.frameReferences f).inUse = false ∧ ∃ t : Tasks,
      t.ipc = { c.host.ipc with calls := c.host.ipc.calls + 1 } ∧
      t.pendingReclaims = c.host.pendingReclaims ∧ t.history = c.host.history ∧
      ((P.outcome c.host.ipc.calls ≠ .ok ∧
          t.frameReferences = Function.update c.host.frameReferences f {} ∧
          receiveDescriptor P K c d = (true, { c with host := t })) ∨
        (P.outcome c.host.ipc.calls = .ok ∧ t.ticks = c.host.ticks + 1 ∧
          t.frameReferences =
            Function.update c.host.frameReferences f { inUse := true, descriptor := d } ∧
          let r := rtosRouterSubmit (tasksSinks P K) { c with host := t }
            (routeInput d (c.host.ipc.region.framePool f) (K c.host.ticks))
          receiveDescriptor P K c d =
            if r.1 ≠ .ok then (false, r.2)
            else (true, { r.2 with host := r.2.host.countRouteSubmit })))) := by
  have hadapter := fun nowMs => rtosRouterAdapterDescriptorToInput_eq (P := P) hinit hbounds hf nowMs
  have hrefs : c.host.countRxDescriptor.frameReferences = c.host.frameReferences := rfl
  by_cases hinUse : (c.host.frameReferences f).inUse = true
  · left
    refine ⟨hinUse, ?_⟩
    have hregister : registerFrameReference c.host.countRxDescriptor d =
        (.invalidArg, c.host.countRxDescriptor) := by
      simp [registerFrameReference, hf, hrefs, hinUse]
    simp only [receiveDescriptor, hregister]
    rfl
  right
  refine ⟨by simpa using hinUse, ?_⟩
  -- the frame is registered before its metadata is read
  obtain ⟨t, hregister, hipc, hticks, hpending, hhistory, hrefs'⟩ :
      ∃ t, registerFrameReference c.host.countRxDescriptor d = (.ok, t) ∧ t.ipc = c.host.ipc ∧
        t.ticks = c.host.ticks ∧ t.pendingReclaims = c.host.pendingReclaims ∧
        t.history = c.host.history ∧
        t.frameReferences =
          Function.update c.host.frameReferences f { inUse := true, descriptor := d } := by
    refine ⟨{ c.host.countRxDescriptor with
      frameReferences := Function.update c.host.frameReferences f
        { inUse := true, descriptor := d } }, ?_, rfl, rfl, rfl, rfl, rfl⟩
    simp [registerFrameReference, hf, hrefs, hinUse]
  have ha := hadapter (K t.ticks)
  rw [← hipc] at ha ⊢
  rw [← hticks]
  by_cases hread : P.outcome t.ipc.calls = .ok
  · rw [if_pos hread] at ha
    refine ⟨{ t with ipc := { t.ipc with calls := t.ipc.calls + 1 }, ticks := t.ticks + 1 }, rfl,
      hpending, hhistory, .inr ⟨hread, rfl, hrefs', ?_⟩⟩
    exact receiveDescriptor_of_read hregister ha
  · rw [if_neg hread] at ha
    -- an unreadable frame is counted and its registration taken back
    refine ⟨clearFrameReference ({ t with
      ipc := { t.ipc with calls := t.ipc.calls + 1 }
      ticks := t.ticks + 1 } : Tasks).countAdapterError d.frameId, clearFrameReference_ipc, ?_, ?_,
      .inl ⟨hread, ?_, receiveDescriptor_of_unread hregister ha⟩⟩
    · simp only [clearFrameReference, hf]
      exact hpending
    · simp only [clearFrameReference, hf]
      exact hhistory
    · simp only [clearFrameReference, hf, Tasks.countAdapterError, hrefs', Function.update_idem]

/-- **One descriptor, from the RX ring to the router.** -/
theorem ContextFollows.receive {i : Fin 6} {d : Descriptor} {rest : List Descriptor} {ipc : RtosShm}
    (h : ContextFollows P R L c) (hrx : c.host.ipc.region.view.rx i = d :: rest)
    (hgood : Acceptable i d) (hinit : ipc.initialized = true)
    (hregion : c.host.ipc.region.Becomes ipc.region (c.host.ipc.region.view.setRx i rest)) :
    ContextFollows P R L
      (receiveDescriptor P K { c with host := { c.host with ipc := ipc } } d).2 := by
  obtain ⟨f, hf⟩ := hgood.frame
  rcases receiveDescriptor_cases P K { c with host := { c.host with ipc := ipc } } hinit hgood.bounds hf
    with ⟨hinUse, heq⟩ | ⟨hfree, t, hipc, hpending, hhistory, hends⟩
  · -- its frame is referenced already
    rw [heq]
    have href : (ledger c).references f = some (c.host.frameReferences f).descriptor :=
      FrameReference.descriptor?_eq_some.mpr ⟨hinUse, rfl⟩
    exact Follows.move h (.duplicate hrx hgood hf href) (fun _ h => h) hinit hregion
      (Tasks.ledger_of_view hregion.view rfl rfl rfl)
  have href : (ledger c).references f = none := by
    have hfree' : (c.host.frameReferences f).inUse = false := hfree
    simp [ledger, Tasks.ledger, FrameReference.descriptor?, hfree']
  have hinit' : t.ipc.initialized = true := by rw [hipc]; exact hinit
  have hregion' : c.host.ipc.region.Becomes t.ipc.region (c.host.ipc.region.view.setRx i rest) := by
    rw [hipc]
    exact hregion
  rcases hends with ⟨hread, hrefs, heq⟩ | ⟨hread, -, hrefs, heq⟩
  · -- its frame cannot be read: the reference goes again
    rw [heq]
    refine Follows.move h (.lose hrx hgood hf href) (fun hP _ => hread (hP _)) hinit' hregion' ?_
    simp only [Tasks.ledger, hregion'.view, hpending, hhistory, hrefs, descriptor?_update,
      FrameReference.descriptor?_default]
    congr 1
    exact Function.update_eq_self_iff.mpr href.symm
  · -- it is submitted
    have hsubmitted : Follows P R L
        (.input (routeInput d (ipc.region.framePool f) (K c.host.ticks)) :: c.router.queue.items.map
          .item) t := by
      refine Follows.move h (.receive (ipc.region.framePool f) (K c.host.ticks) hrx hgood hf href)
        (fun _ h => h) hinit' hregion' ?_
      simp only [Tasks.ledger, hregion'.view, hpending, hhistory, hrefs, descriptor?_update]
      rfl
    have hdone := tasksSinks_submit.submit tasksSinks_keep (s := ⟨c.router, t⟩) (S := tasksSinks P K)
      hsubmitted
    rw [heq]
    simp only
    split
    · exact hdone
    · exact Follows.congr hdone rfl rfl rfl rfl

/-- A change of the host that no frame takes part in. -/
theorem ContextFollows.congr {c' : TasksContext} (h : ContextFollows P R L c)
    (hqueue : c'.router.queue = c.router.queue) (hipc : c'.host.ipc = c.host.ipc)
    (href : c'.host.frameReferences = c.host.frameReferences)
    (hpending : c'.host.pendingReclaims = c.host.pendingReclaims)
    (hhistory : c'.host.history = c.host.history) : ContextFollows P R L c' := by
  unfold ContextFollows
  rw [hqueue]
  exact Follows.congr h hipc href hpending hhistory

/-- **One iteration of the drain.** -/
theorem ContextFollows.drainStep {i : Fin 6} (h : ContextFollows P R L c) :
    ContextFollows P R L (drainStep P K (interfaceOfIndex i) c).2 := by
  unfold Rtos.drainStep
  obtain ⟨hinit, hends⟩ := rtosShmIpcDequeueRxDescriptor_cases P h.valid h.initialized i
  simp only
  generalize rtosShmIpcDequeueRxDescriptor P c.host.ipc (interfaceOfIndex i) = r at hinit hends ⊢
  rcases hends with ⟨hres, hnone, hstay, -⟩ | ⟨d, rest, hrx, hregion, hends⟩
  · -- nothing was taken
    have hkeep : ContextFollows P R L { c with host := { c.host with ipc := r.2.2 } } :=
      Follows.stay h hinit hstay rfl rfl rfl
    rw [if_pos hres]
    split
    · exact hkeep
    · exact hkeep.congr rfl rfl rfl rfl rfl
  rcases hends with ⟨hbad, hres, hres', -⟩ | ⟨hgood, hsome, hok⟩
  · -- the head was refused
    have hkeep : ContextFollows P R L { c with host := { c.host with ipc := r.2.2 } } :=
      Follows.move h (.refuse hrx hbad) (fun _ h => h) hinit hregion
        (Tasks.ledger_of_view hregion.view rfl rfl rfl)
    rw [if_neg hres', if_pos hres]
    exact hkeep.congr rfl rfl rfl rfl rfl
  by_cases hres : r.1 = .ok
  · -- the head was handed over
    rw [if_neg (by rw [hres]; simp), if_neg (not_not.mpr hres), hsome]
    exact h.receive hrx hgood hinit hregion
  · -- it was taken, and a call after that failed
    have hfault : ¬ P.Succeeds := fun hP => hres (hok.mpr (takeCallsSucceed_of_succeeds hP))
    have hkeep : ContextFollows P R L { c with host := { c.host with ipc := r.2.2 } } := by
      obtain ⟨f, hf⟩ := hgood.frame
      cases href : (ledger c).references f with
      | none =>
        exact Follows.move h (.lose hrx hgood hf href) (fun hP => absurd hP hfault) hinit hregion
          (Tasks.ledger_of_view hregion.view rfl rfl rfl)
      | some r =>
        exact Follows.move h (.duplicate hrx hgood hf href) (fun _ h => h) hinit hregion
          (Tasks.ledger_of_view hregion.view rfl rfl rfl)
    rw [if_pos hres]
    split
    · exact hkeep
    · exact hkeep.congr rfl rfl rfl rfl rfl

/-- What happens between iterations moves no frame. -/
theorem IdleStep.frames (h : IdleStep P t t') :
    t'.ipc.region = t.ipc.region ∧ t'.ipc.initialized = t.ipc.initialized ∧
      t'.frameReferences = t.frameReferences ∧ t'.pendingReclaims = t.pendingReclaims ∧
      t'.history = t.history := by
  cases h with
  | count => exact ⟨rfl, rfl, rfl, rfl, rfl⟩
  | doorbell => exact ⟨rfl, rfl, rfl, rfl, rfl⟩
  | snapshot =>
    obtain ⟨hregion, hinit⟩ := rtosShmIpcGetRxPendingSnapshot_snd P t.ipc
    exact ⟨hregion, hinit, rfl, rfl, rfl⟩

/-- **The event task in the normal state follows the ledger**, iteration
by iteration. -/
theorem contextFollows_iterates : Iterates P K (ContextFollows P R L) where
  idle {router t t'} hstep h := by
    obtain ⟨hregion, hinit, href, hpending, hhistory⟩ := hstep.frames
    refine Follows.stay h (hinit.trans h.initialized) ?_ href hpending hhistory
    change t.ipc.region.Becomes t'.ipc.region t.ipc.region.view
    rw [hregion]
    exact h.valid.becomes_self
  iteration h _ := h.drainStep

/-! ## Frozen reclaims -/

/-- Writing the first frozen reclaim takes it out of what is frozen, or
leaves the ledger but for a stray publication. -/
theorem Follows.reclaimFrozen {o : RouteOutput} {rest : List RouteOutput} (h : Follows P R L held t)
    (hpending : t.pendingReclaims = o :: rest) :
    let r := Rtos.reclaimFrame P t o
    ((r.1 = .ok ∧ Follows P R L held (removePendingReclaim (clearFrameReference r.2 o.frameId))) ∨
      (r.1 ≠ .ok ∧ Follows P R L held r.2)) := by
  obtain ⟨f, d, hid, href, hof⟩ := h.books.frozen o (by simp [Tasks.ledger, hpending])
  have hf : frameIndex? o.frameId = some f := frameIndex?_eq_some.mpr hid
  have hcases := rtosShmIpcReclaimFrame_cases P t.ipc o.frameId o.reclaimReason o.sourceInterface
    o.targetInterface o.epoch o.flags
  simp only [Rtos.reclaimFrame] at hcases ⊢
  generalize rtosShmIpcReclaimFrame P t.ipc o.frameId o.reclaimReason o.sourceInterface
    o.targetInterface o.epoch o.flags = r at hcases ⊢
  obtain ⟨hinit, hends⟩ := hcases
  rw [h.initialized] at hinit
  rcases hends with ⟨hres, hregion⟩ | ⟨-, hroom, -, -, hkept, hok⟩
  · -- nothing is published
    refine .inr ⟨hres, h.stay hinit ?_ rfl rfl rfl⟩
    rcases hregion with hkept | ⟨hroom, hkept⟩
    · exact hkept.becomes h.valid
    · exact Region.becomes_stageReclaim h.valid (h.valid.reclaim_room.mp hroom) hkept
  have hroom' := h.valid.reclaim_room.mp hroom
  have hbecomes := Region.becomes_publishReclaim h.valid hroom' hkept
  by_cases hres : r.1 = .ok
  · -- published, and reported
    refine .inl ⟨hres, ?_⟩
    refine h.move (.thaw hpending hf hroom') (fun _ h => h) ?_ ?_ ?_
    · simp only [removePendingReclaim, clearFrameReference_ipc]
      exact hinit
    · simp only [removePendingReclaim, clearFrameReference_ipc]
      exact hbecomes
    · simp only [removePendingReclaim, clearFrameReference, hf, Tasks.ledger, descriptor?_update,
        FrameReference.descriptor?_default, hpending, List.tail_cons, hbecomes.view]
      rfl
  · -- published, and reported as failed
    refine .inr ⟨hres, ?_⟩
    exact h.move (.strayThaw hpending) (fun hP _ => hres (hok.mpr ⟨hP _, hP _, hP _⟩)) hinit
      hbecomes (Tasks.ledger_of_view hbecomes.view rfl rfl rfl)

/-- **Retrying frozen reclaims** follows the ledger. -/
theorem Follows.retryLoop {n : ℕ} {k : UInt32} (h : Follows P R L held t) :
    Follows P R L held (retryLoop P K n k t).2 := by
  induction n generalizing t k with
  | zero => exact h
  | succ n ih =>
    unfold Rtos.retryLoop
    split
    · exact h
    next o rest hpending =>
    have hends := h.reclaimFrozen hpending
    simp only at hends ⊢
    split
    · next hfull =>
      rcases hends with ⟨hres, -⟩ | ⟨-, hkeep⟩
      · rw [hres] at hfull
        cases hfull
      · exact hkeep.congr rfl rfl rfl rfl
    split
    · next hres =>
      rcases hends with ⟨hres', -⟩ | ⟨-, hkeep⟩
      · exact absurd hres' hres
      · exact hkeep
    next hres =>
    rcases hends with ⟨-, hdone⟩ | ⟨hres', -⟩
    · exact ih (hdone.congr rfl rfl rfl rfl)
    · exact absurd hres' hres

theorem Follows.retryPendingReclaims {budget : UInt32} (h : Follows P R L held t) :
    Follows P R L held (rtosTasksRetryPendingReclaims P K t budget).2 := by
  have hloop := h.retryLoop (K := K) (n := budget.toNat) (k := 0)
  unfold rtosTasksRetryPendingReclaims
  simp only
  split
  · exact hloop.congr rfl rfl rfl rfl
  · exact hloop

theorem ContextFollows.retryPendingReclaims {budget : UInt32} (h : ContextFollows P R L c) :
    ContextFollows P R L
      { c with host := (rtosTasksRetryPendingReclaims P K c.host budget).2 } :=
  Follows.retryPendingReclaims h

/-! ## The tasks -/

/-- **The event task follows the ledger.** -/
theorem ContextFollows.eventTask {trigger : IpcEventTrigger} (h : ContextFollows P R L c) :
    ContextFollows P R L (rtosIpcEventTaskRunOnce P K c trigger).2 := by
  by_cases hnormal : c.host.state = .normal
  · exact contextFollows_iterates.eventTask h hnormal trigger
  unfold rtosIpcEventTaskRunOnce
  have hcount : ContextFollows P R L
      (if trigger = .doorbell then { c with host := c.host.countDoorbell } else c) ∧
      (if trigger = .doorbell then { c with host := c.host.countDoorbell } else c).host.state ≠
        .normal := by
    split
    · exact ⟨h.congr rfl rfl rfl rfl rfl, hnormal⟩
    · exact ⟨h, hnormal⟩
  generalize (if trigger = .doorbell then ({ c with host := c.host.countDoorbell } : TasksContext)
    else c) = c' at hcount ⊢
  obtain ⟨hcount, hnormal'⟩ := hcount
  -- blocked: only frozen reclaims are retried
  have hblocked : Follows P R L (c'.router.queue.items.map .item) c'.host.countBlockedDrain :=
    Follows.congr hcount rfl rfl rfl rfl
  simp only
  rw [if_pos hnormal']
  split
  · exact hblocked.retryPendingReclaims
  · exact hblocked

/-- **The scheduler task follows the ledger.** -/
theorem ContextFollows.schedulerTask {budget : UInt32} (h : ContextFollows P R L c) :
    ContextFollows P R L (rtosRouterSchedulerTaskRunOnce P K c budget).2 := by
  unfold rtosRouterSchedulerTaskRunOnce
  split
  · exact h.retryPendingReclaims
  split
  · exact h
  · exact tasksSinks_keep.drain budget h

end Rtos

end PutGateway
