import PutGateway.Rtos.Publication
import PutGateway.Rtos.Runs
import PutGateway.Rtos.TaskControl
/-!
# Where a received frame ends up

A frame that the event task takes off an RX ring should be in one place
afterwards: held by a reference, or published on a TX ring or on the
reclaim ring. `tally` counts the places a frame is in. An iteration of
the drain takes a frame if it consumes an acceptable descriptor whose
frame is free, and `gain` is the number of places it puts the frame in:
none where the dequeue fails after the `read_seq` store or the frame
cannot be read, two where the frame is given back by a reclaim that fails
after its publication, and one otherwise. A call is the list of its
iterations, and no frame is forgotten in it exactly if all are careful.
-/

namespace PutGateway

namespace Rtos

variable {P : Platform} {K : Clock} {t : Tasks} {c : TasksContext} {i : Fin 6} {f g : Fin 64}

/-! ## Counting places -/

/-- The number of places a frame is in. -/
def Tasks.tally (t : Tasks) (f : Fin 64) : ℕ :=
  (if (t.frameReferences f).inUse then 1 else 0) +
    ∑ i, (t.ipc.region.view.tx i).countP (fun d => d.frameId = frameIdOfIndex f) +
    t.ipc.region.view.reclaim.countP (fun d => d.frameId = frameIdOfIndex f)

/-- What the places depend on. -/
theorem Tasks.tally_congr {t' : Tasks} (href : t'.frameReferences = t.frameReferences)
    (htx : t'.ipc.region.view.tx = t.ipc.region.view.tx)
    (hreclaim : t'.ipc.region.view.reclaim = t.ipc.region.view.reclaim) (f : Fin 64) :
    t'.tally f = t.tally f := by
  rw [Tasks.tally, Tasks.tally, href, htx, hreclaim]

/-! ## One iteration of the drain -/

/-- The iteration takes the frame `f`: the head `d` of the ring is
acceptable, its frame is free, and the calls before the `read_seq` store
succeed. -/
structure Takes (P : Platform) (i : Fin 6) (c : TasksContext) (f : Fin 64) (d : Descriptor)
    (rest : List Descriptor) : Prop where
  head : c.host.ipc.region.view.rx i = d :: rest
  good : Acceptable i d
  frame : frameIndex? d.frameId = some f
  free : (c.host.frameReferences f).inUse = false
  sync : P.outcome c.host.ipc.calls = .ok
  fence : P.outcome (c.host.ipc.calls + 1) = .ok

/-! ## What becomes of the frame it takes -/

/-- `rtos_router_submit` gives the frame back at once. -/
def givesBack (router : RouterContext) (nowMs : UInt32) (input : RouteInput) : Bool :=
  inputIsInvalid input || input.epoch != router.currentLinuxEpoch ||
    rtosRouterTtlIsExpired nowMs input.receiveTimeMs input.ttl ||
    input.type == anymsgTypeEndpointToGatewayHeartbeat ||
    (rtosRouterRouteTableLookup router.routeTable input.destinationCid.b0).toOption.isNone

/-- The number of the platform call that follows a dequeue that succeeds:
the adapter's, for the frame. -/
def frameCall (shm : RtosShm) (i : Fin 6) : ℕ :=
  shm.calls + 2 + if (shm.region.view.rx i).length = 1 then 5 else 1

instance (P : Platform) (shm : RtosShm) (i : Fin 6) : Decidable (takeCallsSucceed P shm i) :=
  decidable_of_iff (P.outcome (shm.calls + 2) = .ok ∧
    ((shm.region.rxRings i).consumer.readSeq + 1 = (shm.region.rxRings i).producer.writeSeq →
      ∀ n : Fin 4, P.outcome (shm.calls + 2 + (n + 1)) = .ok)) <| by
    refine and_congr Iff.rfl (imp_congr Iff.rfl ⟨fun h n hn hn' => ?_, fun h n => ?_⟩)
    · have hcall := h ⟨n - 1, by omega⟩
      rwa [show n - 1 + 1 = n by omega] at hcall
    · exact h (n + 1) (by omega) (by omega)

/-- The frame is read: the rest of the dequeue succeeds, and the call for
the frame. -/
def FrameRead (P : Platform) (i : Fin 6) (shm : RtosShm) : Prop :=
  takeCallsSucceed P shm i ∧ P.outcome (frameCall shm i) = .ok
  deriving Decidable

/-- The frame is given back by a reclaim that fails after it is
published. -/
def GivenTwice (P : Platform) (K : Clock) (i : Fin 6) (c : TasksContext) (f : Fin 64)
    (d : Descriptor) : Prop :=
  givesBack c.router (K (c.host.ticks + 1))
      (routeInput d (c.host.ipc.region.framePool f) (K c.host.ticks)) = true ∧
    (publication P (decide (c.host.ipc.region.view.reclaim.length < 8))
      (frameCall c.host.ipc i + 1)).1 = .torn
  deriving Decidable

/-- The number of places an iteration puts the frame it takes in. -/
def gain (P : Platform) (K : Clock) (i : Fin 6) (c : TasksContext) (f : Fin 64)
    (d : Descriptor) : ℕ :=
  if FrameRead P i c.host.ipc then if GivenTwice P K i c f d then 2 else 1 else 0

/-! ## Giving a frame back -/

/-- A reference changed in one frame. -/
theorem Tasks.tally_update {t' : Tasks} {r : FrameReference} {f : Fin 64}
    (href : t'.frameReferences = Function.update t.frameReferences f r)
    (htx : t'.ipc.region.view.tx = t.ipc.region.view.tx)
    (hreclaim : t'.ipc.region.view.reclaim = t.ipc.region.view.reclaim) (g : Fin 64) :
    t'.tally g + (if g = f ∧ (t.frameReferences f).inUse = true then 1 else 0) =
      t.tally g + if g = f ∧ r.inUse = true then 1 else 0 := by
  simp only [Tasks.tally, href, htx, hreclaim]
  by_cases hg : g = f
  · subst hg
    simp only [Function.update_self, true_and]
    omega
  · simp only [Function.update_of_ne hg, hg, false_and, if_false]

/-- The reclaim sink clears the reference of its frame where its reclaim
succeeds, and no other. -/
theorem reclaimSink_references {output : RouteOutput} {f : Fin 64} (hkind : output.kind = .reclaim)
    (hf : frameIndex? output.frameId = some f) (hinUse : (t.frameReferences f).inUse = true) :
    let r := reclaimFrame P t (withRxMetadata output (t.frameReferences f).descriptor)
    (r.1 = .ok → (rtosTasksReclaimSink P K output t).2.frameReferences =
        Function.update t.frameReferences f {}) ∧
      (r.1 ≠ .ok → (rtosTasksReclaimSink P K output t).2.frameReferences = t.frameReferences) := by
  simp only [rtosTasksReclaimSink, hkind, hf, hinUse]
  simp only [ne_eq, not_true_eq_false, if_false, Bool.not_true, Bool.false_eq_true]
  constructor
  · intro hok
    rw [if_pos hok]
    simp only [clearFrameReference, hf]
    rfl
  · intro hok
    rw [if_neg hok]
    split
    · rw [storePendingReclaim_references]
      rfl
    · rfl

/-- **The reclaim sink moves the frame from its reference to the reclaim
ring**, or leaves it where it is, or does both where the reclaim fails
after its publication. -/
theorem reclaimSink_tally {output : RouteOutput} {f : Fin 64} (hkind : output.kind = .reclaim)
    (hf : frameIndex? output.frameId = some f) (hinUse : (t.frameReferences f).inUse = true)
    (hgood : Acceptable i (t.frameReferences f).descriptor) (hinit : t.ipc.initialized = true)
    (hv : t.ipc.region.Valid) :
    (rtosTasksReclaimSink P K output t).2.ipc.region.view.rx = t.ipc.region.view.rx ∧
      ∀ g, (rtosTasksReclaimSink P K output t).2.tally g =
        t.tally g + if g = f ∧ (reclaimEnding P t.ipc).1 = .torn then 1 else 0 := by
  have hsource : isInterfaceValid (t.frameReferences f).descriptor.sourceInterface.toUInt32.toUInt8 =
      true := by simpa using hgood.interfaces.1
  have htarget : isInterfaceValid (t.frameReferences f).descriptor.targetInterface.toUInt32.toUInt8 =
      true := by simpa using hgood.interfaces.2
  have hid : output.frameId = frameIdOfIndex f := frameIndex?_eq_some.mp hf
  have hnew : ∀ g, [(reclaimDescriptor output.frameId output.reclaimReason
      (t.frameReferences f).descriptor.sourceInterface.toUInt32
      (t.frameReferences f).descriptor.targetInterface.toUInt32
      (t.frameReferences f).descriptor.epoch (t.frameReferences f).descriptor.flags).sealed].countP
        (fun d => d.frameId = frameIdOfIndex g) = if g = f then 1 else 0 := by
    intro g
    have hsame : frameIdOfIndex f = frameIdOfIndex g ↔ g = f :=
      frameIdOfIndex_inj.trans eq_comm
    simp [reclaimDescriptor, hid, hsame, List.countP_singleton]
  obtain ⟨hok, -, heffect⟩ := rtosShmIpcReclaimFrame_ends P hinit hv (frameIndex?_lt hf) hsource
    htarget output.reclaimReason (t.frameReferences f).descriptor.epoch
    (t.frameReferences f).descriptor.flags
  have hipc := reclaimSink_ipc (P := P) (K := K) hkind hf hinUse
  have hrefs := reclaimSink_references (P := P) (K := K) hkind hf hinUse
  simp only [reclaimFrame, withRxMetadata] at hipc hrefs
  rw [← hipc] at heffect
  generalize (rtosTasksReclaimSink P K output t).2 = t' at heffect hrefs ⊢
  cases hending : (reclaimEnding P t.ipc).1 with
  | refused =>
    -- nothing is published and the reference stays
    rw [hending, if_pos rfl] at heffect
    replace hrefs := hrefs.2 (by rw [ne_eq, hok, hending]; decide)
    refine ⟨by rw [heffect.view], fun g => ?_⟩
    rw [if_neg (by simp), Tasks.tally_congr hrefs (by rw [heffect.view]) (by rw [heffect.view])]
    rfl
  | torn =>
    -- published, and the reference stays
    rw [hending, if_neg (by decide)] at heffect
    replace hrefs := hrefs.2 (by rw [ne_eq, hok, hending]; decide)
    refine ⟨by rw [heffect.2.view, Queues.setReclaim_rx], fun g => ?_⟩
    simp only [Tasks.tally, hrefs, heffect.2.view, Queues.setReclaim_tx, Queues.setReclaim_reclaim,
      List.countP_append, hnew, and_true]
    omega
  | done =>
    -- published, and the reference is cleared
    rw [hending, if_neg (by decide)] at heffect
    replace hrefs := hrefs.1 (by rw [hok, hending])
    refine ⟨by rw [heffect.2.view, Queues.setReclaim_rx], fun g => ?_⟩
    simp only [Tasks.tally, hrefs, heffect.2.view, Queues.setReclaim_tx, Queues.setReclaim_reclaim,
      List.countP_append, hnew]
    by_cases hg : g = f
    · subst hg
      simp only [Function.update_self, hinUse]
      simp
      omega
    · simp [hg]

/-! ## Submitting -/

variable {s : TasksContext} {input : RouteInput}

/-- **What a submission does to the tasks** where the queue has room: it
hands the frame to the reclaim sink, or reads the clock and no more. -/
theorem submit_host (hroom : s.router.queue.items.length < priorityQueueCapacity) :
    (givesBack s.router (K s.host.ticks) input = false →
      (rtosRouterSubmit (tasksSinks P K) s input).2.host =
        { s.host with ticks := s.host.ticks + 2 }) ∧
      (givesBack s.router (K s.host.ticks) input = true →
        ∃ output : RouteOutput, output.kind = .reclaim ∧ output.frameId = input.frameId ∧
          (rtosRouterSubmit (tasksSinks P K) s input).2.host =
            (rtosTasksReclaimSink P K output { s.host with ticks := s.host.ticks + 2 }).2) := by
  have hback : ∀ (s' : TasksContext) reason, s'.host = { s.host with ticks := s.host.ticks + 1 } →
      ∃ output : RouteOutput, output.kind = .reclaim ∧ output.frameId = input.frameId ∧
        (reclaimInput (tasksSinks P K) s' input reason).2.host =
          (rtosTasksReclaimSink P K output { s.host with ticks := s.host.ticks + 2 }).2 := by
    intro s' reason hs
    refine ⟨reclaimInputOutput input (K (s.host.ticks + 1)) reason, rfl, rfl, ?_⟩
    rw [reclaimInput_host, hs]
    rfl
  have hnow : (tasksSinks P K).routerNow { s with router := s.router.countSubmitted } =
      (K s.host.ticks, ⟨s.router.countSubmitted, { s.host with ticks := s.host.ticks + 1 }⟩) := rfl
  have hepoch : s.router.countSubmitted.currentLinuxEpoch = s.router.currentLinuxEpoch := rfl
  have htable : s.router.countSubmitted.routeTable = s.router.routeTable := rfl
  have hqueue : s.router.countSubmitted.queue = s.router.queue := rfl
  rw [rtosRouterSubmit, hnow]
  simp only [givesBack, hepoch, htable]
  by_cases hinvalid : inputIsInvalid input = true
  · simpa [hinvalid] using hback _ _ rfl
  by_cases hother : input.epoch ≠ s.router.currentLinuxEpoch
  · simpa [hinvalid, hother] using hback _ _ rfl
  by_cases hexpired : rtosRouterTtlIsExpired (K s.host.ticks) input.receiveTimeMs input.ttl = true
  · simpa [hinvalid, hother, hexpired] using hback _ _ rfl
  by_cases hheartbeat : input.type = anymsgTypeEndpointToGatewayHeartbeat
  · simpa [hinvalid, hother, hexpired, hheartbeat] using hback _ _ rfl
  cases hlookup : rtosRouterRouteTableLookup s.router.routeTable input.destinationCid.b0 with
  | error e => simpa [hinvalid, hother, hexpired, hheartbeat, Except.toOption] using hback _ _ rfl
  | ok target =>
    -- it is queued
    have hp : rtosPriorityQueuePriorityIsValid input.priority = true := by
      simp only [inputIsInvalid, Bool.or_eq_true, not_or] at hinvalid
      simpa [hheartbeat] using hinvalid.2
    have hqueued : (enqueueInput (tasksSinks P K)
        ⟨s.router.countSubmitted, { s.host with ticks := s.host.ticks + 1 }⟩ input target).2.host =
          { s.host with ticks := s.host.ticks + 2 } := by
      have henq := @rtosPriorityQueueEnqueue_of_room s.router.countSubmitted.queue
        (fillQueueItem s.router.countSubmitted input target (K (s.host.ticks + 1))) hp hroom
      have hnow' : (tasksSinks P K).routerNow
          ⟨s.router.countSubmitted, { s.host with ticks := s.host.ticks + 1 }⟩ =
            (K (s.host.ticks + 1), ⟨s.router.countSubmitted,
              { s.host with ticks := s.host.ticks + 2 }⟩) :=
        rfl
      rw [enqueueInput, hnow']
      simp only [henq]
      rfl
    simp only [ne_eq, not_not] at hother
    simpa [hinvalid, hother, hexpired, hheartbeat, Except.toOption] using hqueued

/-- **Where a submission leaves the frame**: where it was, and on the
reclaim ring as well if it is given back by a reclaim that fails after
its publication. -/
theorem submit_tally {f : Fin 64} (hroom : s.router.queue.items.length < priorityQueueCapacity)
    (hf : frameIndex? input.frameId = some f) (hinUse : (s.host.frameReferences f).inUse = true)
    (hgood : Acceptable i (s.host.frameReferences f).descriptor)
    (hinit : s.host.ipc.initialized = true) (hv : s.host.ipc.region.Valid) :
    (rtosRouterSubmit (tasksSinks P K) s input).2.host.ipc.region.view.rx =
        s.host.ipc.region.view.rx ∧
      ∀ g, (rtosRouterSubmit (tasksSinks P K) s input).2.host.tally g = s.host.tally g +
        if g = f ∧ givesBack s.router (K s.host.ticks) input = true ∧
          (reclaimEnding P s.host.ipc).1 = .torn then 1 else 0 := by
  obtain ⟨hqueued, hback⟩ := @submit_host P K s input hroom
  cases hgives : givesBack s.router (K s.host.ticks) input with
  | false =>
    rw [hqueued hgives]
    refine ⟨rfl, fun g => ?_⟩
    rw [if_neg (by simp)]
    exact Tasks.tally_congr rfl rfl rfl g
  | true =>
    obtain ⟨output, hkind, hid, hhost⟩ := hback hgives
    obtain ⟨hrx, htally⟩ := @reclaimSink_tally P K { s.host with ticks := s.host.ticks + 2 } i output f
      hkind (hid ▸ hf) hinUse hgood hinit hv
    rw [hhost]
    refine ⟨hrx, fun g => ?_⟩
    rw [htally]
    simp only [true_and]
    rfl

/-! ## One iteration -/

/-- While a frame is free there is room in the queue. -/
theorem Sound.queue_room (h : Sound c) {d : Descriptor} {f : Fin 64} (hgood : Acceptable i d)
    (hf : frameIndex? d.frameId = some f) (hfree : (c.host.frameReferences f).inUse = false) :
    c.router.queue.items.length < priorityQueueCapacity := by
  have href : (ledger c).references f = none := by
    simp [ledger, Tasks.ledger, FrameReference.descriptor?, hfree]
  have hbooks := h.books.register (h := .input (routeInput d (fun _ => 0) 0)) hgood
    (frameIndex?_eq_some.mp hf) href rfl (Holding.of_routeInput d _ _)
  have hle := hbooks.length_ids_le
  simp only [Ledger.ids, ledger, Tasks.ledger, List.length_append, List.length_map,
    List.length_cons] at hle
  unfold priorityQueueCapacity
  omega

/-- What becomes of a frame that has been handed over and is free: it is
not read and forgotten, or it is submitted. -/
theorem receive_tally (h : Sound c) {d : Descriptor} {f : Fin 64} (hgood : Acceptable i d)
    (hf : frameIndex? d.frameId = some f) (hfree : (c.host.frameReferences f).inUse = false) :
    (receiveDescriptor P K c d).2.host.ipc.region.view.rx = c.host.ipc.region.view.rx ∧
      ∀ g, (receiveDescriptor P K c d).2.host.tally g = c.host.tally g +
        if g = f ∧ P.outcome c.host.ipc.calls = .ok then
          if givesBack c.router (K (c.host.ticks + 1))
                (routeInput d (c.host.ipc.region.framePool f) (K c.host.ticks)) = true ∧
              (publication P (decide (c.host.ipc.region.view.reclaim.length < 8))
                (c.host.ipc.calls + 1)).1 = .torn then 2 else 1
        else 0 := by
  rcases receiveDescriptor_cases P K c h.initialized hgood.bounds hf with
    ⟨hinUse, -⟩ | ⟨-, t, hipc, -, -, hends⟩
  · rw [hfree] at hinUse
    cases hinUse
  rcases hends with ⟨hread, hrefs, heq⟩ | ⟨hread, hticks, hrefs, heq⟩
  · -- its frame cannot be read: the reference goes again
    rw [heq]
    have htally := @Tasks.tally_update c.host t _ f hrefs (by rw [hipc]) (by rw [hipc])
    refine ⟨by rw [hipc], fun g => ?_⟩
    have hg := htally g
    simp only [hfree, Bool.false_eq_true, and_false, if_false, Nat.add_zero] at hg
    rw [hg, if_neg (fun hand => hread hand.2), Nat.add_zero]
  · -- it is submitted
    have hinUse : t.frameReferences f = { inUse := true, descriptor := d } := by
      rw [hrefs, Function.update_self]
    obtain ⟨hrx, htally⟩ := @submit_tally P K i { c with host := t }
      (routeInput d (c.host.ipc.region.framePool f) (K c.host.ticks)) f
      (h.queue_room hgood hf hfree) hf (by rw [hinUse]) (by rw [hinUse]; exact hgood)
      (by rw [hipc]; exact h.initialized) (by rw [hipc]; exact h.valid)
    have hregistered := @Tasks.tally_update c.host t _ f hrefs (by rw [hipc]) (by rw [hipc])
    have hhost : (receiveDescriptor P K c d).2.host.ipc.region.view.rx =
        (rtosRouterSubmit (tasksSinks P K) { c with host := t }
          (routeInput d (c.host.ipc.region.framePool f) (K c.host.ticks))).2.host.ipc.region.view.rx ∧
        ∀ g, (receiveDescriptor P K c d).2.host.tally g =
          (rtosRouterSubmit (tasksSinks P K) { c with host := t }
            (routeInput d (c.host.ipc.region.framePool f) (K c.host.ticks))).2.host.tally g := by
      rw [heq]
      simp only
      split
      · exact ⟨rfl, fun g => rfl⟩
      · exact ⟨rfl, fun g => rfl⟩
    refine ⟨hhost.1.trans (hrx.trans (by rw [hipc])), fun g => ?_⟩
    rw [hhost.2, htally]
    have hg := hregistered g
    have hending : (reclaimEnding P t.ipc).1 =
        (publication P (decide (c.host.ipc.region.view.reclaim.length < 8))
          (c.host.ipc.calls + 1)).1 := by
      rw [hipc]
      rfl
    simp only [hfree, Bool.false_eq_true, and_false, if_false, Nat.add_zero, and_true] at hg
    simp only [hticks, hending, hread, and_true]
    rw [hg]
    by_cases hgf : g = f
    · simp only [hgf, if_true, true_and]
      split
      · rfl
      · rfl
    · simp only [hgf, if_false, false_and]

/-- A descriptor whose frame is referenced already is counted, and no
more. -/
theorem receive_referenced (h : Sound c) {d : Descriptor} {f : Fin 64} (hgood : Acceptable i d)
    (hf : frameIndex? d.frameId = some f) (hinUse : (c.host.frameReferences f).inUse = true) :
    (receiveDescriptor P K c d).2.host.ipc.region.view.rx = c.host.ipc.region.view.rx ∧
      ∀ g, (receiveDescriptor P K c d).2.host.tally g = c.host.tally g := by
  rcases receiveDescriptor_cases P K c h.initialized hgood.bounds hf with
    ⟨-, heq⟩ | ⟨hfree, -⟩
  · rw [heq]
    exact ⟨rfl, Tasks.tally_congr rfl rfl rfl⟩
  · rw [hinUse] at hfree
    cases hfree

/-- **An iteration of the drain**: it consumes nothing; or a descriptor
that is not acceptable, or whose frame is referenced already; or it takes
a frame, and puts it in `gain` places. -/
theorem drainStep_cases (h : Sound c) :
    let c' := (drainStep P K (interfaceOfIndex i) c).2
    (c'.host.ipc.region.view.rx = c.host.ipc.region.view.rx ∧ (∀ f d rest, ¬ Takes P i c f d rest) ∧
        ∀ g, c'.host.tally g = c.host.tally g) ∨
      ∃ d rest, c.host.ipc.region.view.rx i = d :: rest ∧
        c'.host.ipc.region.view.rx = Function.update c.host.ipc.region.view.rx i rest ∧
        (((Acceptable i d → ∀ f, frameIndex? d.frameId = some f →
              (c.host.frameReferences f).inUse = true) ∧
            ∀ g, c'.host.tally g = c.host.tally g) ∨
          ∃ f, Takes P i c f d rest ∧
            ∀ g, c'.host.tally g = c.host.tally g + if g = f then gain P K i c f d else 0) := by
  obtain ⟨hinit, hends⟩ := rtosShmIpcDequeueRxDescriptor_cases P h.valid h.initialized i
  have hsome := @rtosShmIpcDequeueRxDescriptor_isSome_iff c.host.ipc P h.valid h.initialized i
  have hcalls := @rtosShmIpcDequeueRxDescriptor_calls c.host.ipc P h.valid h.initialized i
  have hfails := @drainStep_of_ne_ok P K c (interfaceOfIndex i)
  have hgoes := @drainStep_of_ok P K c (interfaceOfIndex i)
  simp only
  generalize drainStep P K (interfaceOfIndex i) c = step at hfails hgoes ⊢
  generalize rtosShmIpcDequeueRxDescriptor P c.host.ipc (interfaceOfIndex i) = r at *
  rcases hends with ⟨hres, hnone, hstay, -⟩ | ⟨d, rest, hrx, hregion, hends⟩
  · -- nothing is consumed
    obtain ⟨hipc, hrefs⟩ := hfails hres
    refine .inl ⟨by rw [hipc, hstay.view], fun f d rest htakes => ?_, ?_⟩
    · have htaken := (hsome htakes.head).mpr ⟨htakes.sync, htakes.fence, htakes.good⟩
      rw [hnone] at htaken
      cases htaken
    · exact Tasks.tally_congr hrefs (by rw [hipc, hstay.view]) (by rw [hipc, hstay.view])
  refine .inr ⟨d, rest, hrx, ?_⟩
  have hrest : r.2.2.region.view.rx = Function.update c.host.ipc.region.view.rx i rest := by
    rw [hregion.view]
    rfl
  have htx : r.2.2.region.view.tx = c.host.ipc.region.view.tx := by
    rw [hregion.view]
    rfl
  have hreclaim : r.2.2.region.view.reclaim = c.host.ipc.region.view.reclaim := by
    rw [hregion.view]
    rfl
  -- what a failed dequeue leaves after the slot is consumed
  have hlost : r.1 ≠ .ok →
      step.2.host.ipc.region.view.rx = Function.update c.host.ipc.region.view.rx i rest ∧
        ∀ g, step.2.host.tally g = c.host.tally g := by
    intro hres
    obtain ⟨hipc, hrefs⟩ := hfails hres
    exact ⟨by rw [hipc, hrest], Tasks.tally_congr hrefs (by rw [hipc, htx]) (by rw [hipc, hreclaim])⟩
  rcases hends with ⟨hbad, hres, -, -⟩ | ⟨hgood, hhead, hok⟩
  · exact ⟨(hlost hres).1, .inl ⟨fun hgood => absurd hgood hbad, (hlost hres).2⟩⟩
  obtain ⟨f, hf⟩ := hgood.frame
  obtain ⟨hsync, hfence, -⟩ := (hsome hrx).mp (by rw [hhead]; rfl)
  by_cases hres : r.1 = .ok
  swap
  · -- its slot is consumed and the dequeue fails
    refine ⟨(hlost hres).1, ?_⟩
    cases hfree : (c.host.frameReferences f).inUse with
    | true =>
      refine .inl ⟨fun _ f' hf' => ?_, (hlost hres).2⟩
      obtain rfl : f = f' := Option.some.inj (hf.symm.trans hf')
      exact hfree
    | false =>
      refine .inr ⟨f, ⟨hrx, hgood, hf, hfree, hsync, hfence⟩, fun g => ?_⟩
      have hgain : gain P K i c f d = 0 := if_neg fun hread => hres (hok.mpr hread.1)
      rw [hgain, ite_self]
      exact (hlost hres).2 g
  -- it is handed over
  rw [hgoes hres hhead]
  have hsound : Sound { c with host := { c.host with ipc := r.2.2 } } :=
    ⟨hinit, hregion.valid, h.books.withQueues r.2.2.region.view⟩
  have hstart : ∀ g, ({ c.host with ipc := r.2.2 } : Tasks).tally g = c.host.tally g :=
    @Tasks.tally_congr c.host { c.host with ipc := r.2.2 } rfl htx hreclaim
  cases hfree : (c.host.frameReferences f).inUse with
  | true =>
    obtain ⟨hrx', htally⟩ := @receive_referenced P K
      { c with host := { c.host with ipc := r.2.2 } } i hsound d f hgood hf hfree
    refine ⟨hrx'.trans hrest, .inl ⟨fun _ f' hf' => ?_, fun g => (htally g).trans (hstart g)⟩⟩
    obtain rfl : f = f' := Option.some.inj (hf.symm.trans hf')
    exact hfree
  | false =>
    obtain ⟨hrx', htally⟩ := @receive_tally P K
      { c with host := { c.host with ipc := r.2.2 } } i hsound d f hgood hf hfree
    refine ⟨hrx'.trans hrest,
      .inr ⟨f, ⟨hrx, hgood, hf, hfree, hsync, hfence⟩, fun g => ?_⟩⟩
    rw [htally]
    have hcall : r.2.2.calls = frameCall c.host.ipc i := hcalls hres
    have hread : FrameRead P i c.host.ipc ↔ P.outcome (frameCall c.host.ipc i) = .ok :=
      ⟨fun hread => hread.2, fun hframe => ⟨hok.mp hres, hframe⟩⟩
    rw [hstart g, gain, if_congr hread (if_congr Iff.rfl rfl rfl) rfl]
    simp only [hregion.framePool, hreclaim, hcall]
    by_cases hg : g = f
    · simp only [hg, true_and, if_true]
      rfl
    · simp only [hg, false_and, if_false]

theorem Sound.drainStep (h : Sound c) : Sound (drainStep P K (interfaceOfIndex i) c).2 :=
  (h.follows (P := P)).drainStep.sound

/-! ## The iterations of a call -/

/-- What an iteration consumes: at most the head of the ring. -/
def consumed (P : Platform) (K : Clock) (p : Fin 6 × TasksContext) : List Descriptor :=
  takenRx p.2 (drainStep P K (interfaceOfIndex p.1) p.2).2 p.1

/-- The frame of a descriptor that is acceptable, if it is not referenced
already. -/
def freeFrame? (i : Fin 6) (c : TasksContext) (d : Descriptor) : Option (Fin 64) :=
  if Acceptable i d then
    match frameIndex? d.frameId with
    | none => none
    | some f => if (c.host.frameReferences f).inUse then none else some f
  else none

theorem freeFrame?_eq_some {i : Fin 6} {d : Descriptor} {f : Fin 64} :
    freeFrame? i c d = some f ↔ Acceptable i d ∧ frameIndex? d.frameId = some f ∧
      (c.host.frameReferences f).inUse = false := by
  unfold freeFrame?
  by_cases hgood : Acceptable i d
  swap
  · simp [hgood]
  cases hf : frameIndex? d.frameId with
  | none => simp
  | some g =>
    simp only [hgood, if_true, true_and, Option.some.injEq]
    cases hfree : (c.host.frameReferences g).inUse with
    | true =>
      constructor
      · intro h
        simp at h
      · rintro ⟨rfl, h⟩
        rw [hfree] at h
        cases h
    | false =>
      constructor
      · intro h
        obtain rfl : g = f := by simpa using h
        exact ⟨rfl, hfree⟩
      · rintro ⟨rfl, -⟩
        simp

/-- The frame an iteration takes: that of a descriptor it consumes. -/
def taken (P : Platform) (K : Clock) (p : Fin 6 × TasksContext) : List (Fin 64) :=
  (consumed P K p).filterMap (freeFrame? p.1 p.2)

/-- **The outcomes for which an iteration puts the frame it takes in one
place**: the rest of the dequeue succeeds and the frame can be read, and
a frame given back is not published by a reclaim that fails. -/
def Careful (P : Platform) (K : Clock) (p : Fin 6 × TasksContext) : Prop :=
  ∀ f d rest, Takes P p.1 p.2 f d rest → FrameRead P p.1 p.2.host.ipc ∧ ¬ GivenTwice P K p.1 p.2 f d

/-- The iterations of `drain_rx_interface`. -/
def drainPoints (P : Platform) (K : Clock) (i : Fin 6) : ℕ → TasksContext → List (Fin 6 × TasksContext)
  | 0, _ => []
  | budget + 1, c =>
    if c.host.state ≠ .normal then []
    else (i, c) :: if (drainStep P K (interfaceOfIndex i) c).1 then
      drainPoints P K i budget (drainStep P K (interfaceOfIndex i) c).2 else []

/-- The iterations of the interface loop. -/
def eventPoints (P : Platform) (K : Clock) (trigger : IpcEventTrigger) (pendingBits : UInt32) :
    List (Fin 6) → UInt32 → TasksContext → List (Fin 6 × TasksContext)
  | [], _, _ => []
  | i :: rest, processed, c =>
    let remaining := 64 - processed
    let budget := if 8 > remaining then remaining else 8
    if remaining = 0 then []
    else if trigger = .doorbell && pendingBits &&& (1 <<< UInt32.ofNat i) = 0 then
      eventPoints P K trigger pendingBits rest processed c
    else
      let r := drainRxInterface P K c (interfaceOfIndex i) budget
      drainPoints P K i budget.toNat c ++
        if r.2.host.state ≠ .normal then []
        else eventPoints P K trigger pendingBits rest (processed + r.1) r.2

/-- The iterations of `rtos_ipc_event_task_run_once`. -/
def eventTaskPoints (P : Platform) (K : Clock) (c : TasksContext) (trigger : IpcEventTrigger) :
    List (Fin 6 × TasksContext) :=
  let c := if trigger = .doorbell then { c with host := c.host.countDoorbell } else c
  if c.host.state ≠ .normal then []
  else if trigger = .doorbell then
    match rtosShmIpcGetRxPendingSnapshot P c.host.ipc with
    | (_, none, _) => []
    | (_, some bits, ipc) =>
      eventPoints P K trigger bits (List.finRange 6) 0
        { c with host := { c.host with ipc := ipc }.countPendingSnapshot }
  else eventPoints P K trigger 0 (List.finRange 6) 0 c

/-- A step that moves no frame. -/
structure Unmoved (c c' : TasksContext) : Prop where
  view : c'.host.ipc.region.view = c.host.ipc.region.view
  references : c'.host.frameReferences = c.host.frameReferences

/-- From `c` to `c'` by the iterations listed, and steps that move no
frame. -/
inductive Passes (P : Platform) (K : Clock) :
    TasksContext → List (Fin 6 × TasksContext) → TasksContext → Prop
  | done {c c' : TasksContext} (h : Unmoved c c') : Passes P K c [] c'
  | step {c c₁ c' : TasksContext} {i : Fin 6} {ps : List (Fin 6 × TasksContext)} (h : Unmoved c c₁)
      (hsound : Sound c₁) (hrest : Passes P K (drainStep P K (interfaceOfIndex i) c₁).2 ps c') :
      Passes P K c ((i, c₁) :: ps) c'

variable {c₁ c' c'' : TasksContext} {ps qs : List (Fin 6 × TasksContext)}

theorem Unmoved.refl (c : TasksContext) : Unmoved c c := ⟨rfl, rfl⟩

theorem Unmoved.trans (h : Unmoved c c') (h' : Unmoved c' c'') : Unmoved c c'' :=
  ⟨h'.view.trans h.view, h'.references.trans h.references⟩

theorem Unmoved.tally (h : Unmoved c c') (f : Fin 64) : c'.host.tally f = c.host.tally f :=
  Tasks.tally_congr h.references (by rw [h.view]) (by rw [h.view]) f

theorem Passes.after (h : Unmoved c c₁) (hpasses : Passes P K c₁ ps c') : Passes P K c ps c' := by
  cases hpasses with
  | done h' => exact .done (h.trans h')
  | step h' hsound hrest => exact .step (h.trans h') hsound hrest

theorem Passes.append (h : Passes P K c ps c') (h' : Passes P K c' qs c'') :
    Passes P K c (ps ++ qs) c'' := by
  induction h with
  | done h => exact h'.after h
  | step h hsound _ ih => exact .step h hsound (ih h')

theorem drainRxLoop_passes (h : Sound c) (n : ℕ) (k : UInt32) :
    Passes P K c (drainPoints P K i n c) (drainRxLoop P K (interfaceOfIndex i) n k c).2 := by
  induction n generalizing c k with
  | zero => exact .done (.refl c)
  | succ n ih =>
    rw [drainRxLoop_succ, drainPoints]
    by_cases hstate : c.host.state ≠ .normal
    · rw [if_pos hstate, if_pos hstate]
      exact .done (.refl c)
    rw [if_neg hstate, if_neg hstate]
    have hnext := h.drainStep (P := P) (K := K) (i := i)
    split
    · exact .step (.refl c) h (ih hnext _)
    · exact .step (.refl c) h (.done (.refl _))

theorem drainRxInterface_passes (h : Sound c) (budget : UInt32) :
    Passes P K c (drainPoints P K i budget.toNat c)
      (drainRxInterface P K c (interfaceOfIndex i) budget).2 := by
  have hloop := @drainRxLoop_passes P K c i h budget.toNat 0
  have hcount : Unmoved (drainRxLoop P K (interfaceOfIndex i) budget.toNat 0 c).2
      (drainRxInterface P K c (interfaceOfIndex i) budget).2 := ⟨rfl, rfl⟩
  simpa using hloop.append (.done hcount)

theorem eventLoop_passes (h : Sound c) (trigger : IpcEventTrigger) (bits : UInt32) (l : List (Fin 6))
    (k : UInt32) :
    Passes P K c (eventPoints P K trigger bits l k c) (eventLoop P K trigger bits l k c).2 := by
  induction l generalizing c k with
  | nil => exact .done (.refl c)
  | cons i rest ih =>
    rw [eventLoop, eventPoints]
    by_cases hdone : 64 - k = 0
    · rw [if_pos hdone, if_pos hdone]
      exact .done (.refl c)
    rw [if_neg hdone, if_neg hdone]
    by_cases hskip : (trigger = .doorbell && bits &&& (1 <<< UInt32.ofNat i) = 0) = true
    · rw [if_pos hskip, if_pos hskip]
      exact ih h _
    rw [if_neg hskip, if_neg hskip]
    have hdrain := @drainRxInterface_passes P K c i h (if 8 > 64 - k then 64 - k else 8)
    have hsound : Sound (drainRxInterface P K c (interfaceOfIndex i)
        (if 8 > 64 - k then 64 - k else 8)).2 :=
          (contextFollows_iterates.drainRxInterface (h.follows (P := P)) i _).sound
    generalize (if 8 > 64 - k then 64 - k else 8) = budget at hdrain hsound ⊢
    generalize drainRxInterface P K c (interfaceOfIndex i) budget = r at hdrain hsound ⊢
    simp only
    by_cases hstate : r.2.host.state ≠ .normal
    · rw [if_pos hstate, if_pos hstate, List.append_nil]
      exact hdrain
    · rw [if_neg hstate, if_neg hstate]
      exact hdrain.append (ih hsound _)

/-- A call goes through its iterations, or is blocked: then it has none
and takes nothing off the RX rings. -/
theorem eventTask_passes (h : Sound c) (trigger : IpcEventTrigger) :
    (eventTaskPoints P K c trigger = [] ∧
        (rtosIpcEventTaskRunOnce P K c trigger).2.host.ipc.region.view.rx =
          c.host.ipc.region.view.rx) ∨
      Passes P K c (eventTaskPoints P K c trigger) (rtosIpcEventTaskRunOnce P K c trigger).2 := by
  unfold eventTaskPoints rtosIpcEventTaskRunOnce
  have hcount : Unmoved c (if trigger = .doorbell then { c with host := c.host.countDoorbell } else c) ∧
      Sound (if trigger = .doorbell then { c with host := c.host.countDoorbell } else c) := by
    split
    · exact ⟨⟨rfl, rfl⟩, h.initialized, h.valid, h.books⟩
    · exact ⟨.refl c, h⟩
  generalize (if trigger = .doorbell then ({ c with host := c.host.countDoorbell } : TasksContext)
    else c) = c₁ at hcount ⊢
  obtain ⟨hstart, hsound⟩ := hcount
  simp only
  by_cases hblocked : c₁.host.state ≠ .normal
  · -- only frozen reclaims are retried
    rw [if_pos hblocked, if_pos hblocked]
    have hsame : ∀ t : Tasks, t.ipc = c₁.host.ipc →
        t.ipc.region.view.rx = c.host.ipc.region.view.rx := by
      intro t ht
      rw [ht, hstart.view]
    refine .inl ⟨rfl, ?_⟩
    split
    · exact (retry_givesBack (P := P) (K := K) { c₁ with host := c₁.host.countBlockedDrain }
        64).quiet.view_rx.trans (hsame _ rfl)
    · exact hsame _ rfl
  rw [if_neg hblocked, if_neg hblocked]
  by_cases hdoorbell : trigger = .doorbell
  · -- the doorbell: read the pending word first
    rw [if_pos hdoorbell, if_pos hdoorbell]
    obtain ⟨hregion, hinit⟩ := rtosShmIpcGetRxPendingSnapshot_snd P c₁.host.ipc
    generalize rtosShmIpcGetRxPendingSnapshot P c₁.host.ipc = r at hregion hinit ⊢
    obtain ⟨result, bits, ipc⟩ := r
    have hsame : ipc.region = c₁.host.ipc.region := hregion
    cases bits with
    | none =>
      refine .inl ⟨rfl, ?_⟩
      show ipc.region.view.rx = c.host.ipc.region.view.rx
      rw [hsame, hstart.view]
    | some bits =>
      right
      let read : TasksContext :=
        { c₁ with host := ({ c₁.host with ipc := ipc } : Tasks).countPendingSnapshot }
      have hread : Sound read := by
        refine ⟨hinit.trans hsound.initialized, ?_, hsound.books.withQueues ipc.region.view⟩
        show ipc.region.Valid
        rw [hsame]
        exact hsound.valid
      have hunmoved : Unmoved c₁ read := ⟨congrArg Region.view hsame, rfl⟩
      exact (@eventLoop_passes P K read hread trigger bits (List.finRange 6) 0).after
        (hstart.trans hunmoved)
  · rw [if_neg hdoorbell, if_neg hdoorbell]
    exact .inr ((eventLoop_passes hsound trigger 0 _ _).after hstart)

/-! ## What a call does -/

/-- **What an iteration takes**: nothing, and it moves no frame; or one
frame, which it puts in `gain` places. -/
theorem taken_cases (h : Sound c) :
    (∀ j, c.host.ipc.region.view.rx j = (if j = i then consumed P K (i, c) else []) ++
        (drainStep P K (interfaceOfIndex i) c).2.host.ipc.region.view.rx j) ∧
      ((taken P K (i, c) = [] ∧ (∀ f d rest, ¬ Takes P i c f d rest) ∧
          ∀ g, (drainStep P K (interfaceOfIndex i) c).2.host.tally g = c.host.tally g) ∨
        ∃ f d rest, Takes P i c f d rest ∧ taken P K (i, c) = [f] ∧
          ∀ g, (drainStep P K (interfaceOfIndex i) c).2.host.tally g =
            c.host.tally g + if g = f then gain P K i c f d else 0) := by
  rcases @drainStep_cases P K c i h with ⟨hrx, hnone, htally⟩ | ⟨d, rest, hhead, hrx, hends⟩
  · -- nothing is consumed
    have hconsumed : consumed P K (i, c) = [] := by
      simp only [consumed, takenRx, hrx, Nat.sub_self, List.take_zero]
    refine ⟨fun j => ?_, .inl ⟨?_, hnone, htally⟩⟩
    · rw [hrx, hconsumed, ite_self, List.nil_append]
    · rw [taken, hconsumed, List.filterMap_nil]
  have hconsumed : consumed P K (i, c) = [d] := by
    simp [consumed, takenRx, hrx, hhead]
  refine ⟨fun j => ?_, ?_⟩
  · rw [hrx, hconsumed]
    by_cases hj : j = i
    · subst hj
      rw [if_pos rfl, Function.update_self, hhead]
      rfl
    · rw [if_neg hj, Function.update_of_ne hj]
      rfl
  rcases hends with ⟨hbusy, htally⟩ | ⟨f, htakes, htally⟩
  · refine .inl ⟨?_, fun f d' rest' htakes => ?_, htally⟩
    · have hnone : freeFrame? i c d = none := by
        refine Option.eq_none_iff_forall_ne_some.mpr fun f hf => ?_
        obtain ⟨hgood, hframe, hfree⟩ := freeFrame?_eq_some.mp hf
        rw [hbusy hgood f hframe] at hfree
        cases hfree
      rw [taken, hconsumed, List.filterMap_cons_none hnone, List.filterMap_nil]
    · obtain rfl : d = d' := (List.cons.inj (hhead.symm.trans htakes.head)).1
      have hfree := htakes.free
      rw [hbusy htakes.good f htakes.frame] at hfree
      cases hfree
  · refine .inr ⟨f, d, rest, htakes, ?_, htally⟩
    have hsome : freeFrame? i c d = some f :=
      freeFrame?_eq_some.mpr ⟨htakes.good, htakes.frame, htakes.free⟩
    rw [taken, hconsumed, List.filterMap_cons_some hsome, List.filterMap_nil]

/-- What the iterations consume of a ring. -/
def consumedOf (P : Platform) (K : Clock) (ps : List (Fin 6 × TasksContext)) (j : Fin 6) :
    List Descriptor :=
  ps.flatMap fun p => if j = p.1 then consumed P K p else []

/-- The iterations consume all that the call does. -/
theorem Passes.rx (h : Passes P K c ps c') (j : Fin 6) :
    c.host.ipc.region.view.rx j = consumedOf P K ps j ++ c'.host.ipc.region.view.rx j := by
  induction h with
  | done h => rw [h.view]; rfl
  | step h hsound _ ih =>
    rw [← h.view, (taken_cases hsound).1 j, ih]
    simp only [consumedOf, List.flatMap_cons, List.append_assoc]

/-- A frame that no iteration takes stays in the places it is in. -/
theorem Passes.tally_of_not_taken (h : Passes P K c ps c') {f : Fin 64}
    (hf : f ∉ ps.flatMap (taken P K)) : c'.host.tally f = c.host.tally f := by
  induction h with
  | done h => exact h.tally f
  | step h hsound _ ih =>
    rw [List.flatMap_cons, List.mem_append, not_or] at hf
    rw [ih hf.2, ← h.tally f]
    rcases (taken_cases (P := P) (K := K) hsound).2 with
      ⟨-, -, htally⟩ | ⟨g, d, rest, -, htaken, htally⟩
    · exact htally f
    · have hne : f ≠ g := by
        intro heq
        exact hf.1 (by rw [htaken, heq]; exact List.mem_singleton_self g)
      rw [htally, if_neg hne, Nat.add_zero]

/-- **With careful iterations each frame taken is in one more place.** -/
theorem Passes.tally_of_careful (h : Passes P K c ps c') (hcareful : ∀ p ∈ ps, Careful P K p)
    (f : Fin 64) : c'.host.tally f = c.host.tally f + (ps.flatMap (taken P K)).count f := by
  induction h with
  | done h => exact h.tally f
  | step h hsound _ ih =>
    rw [ih fun p hp => hcareful p (List.mem_cons_of_mem _ hp), List.flatMap_cons, List.count_append,
      ← h.tally f]
    rcases (taken_cases (P := P) (K := K) hsound).2 with
      ⟨htaken, -, htally⟩ | ⟨g, d, rest, htakes, htaken, htally⟩
    · rw [htaken, htally, List.count_nil, Nat.zero_add]
    · obtain ⟨hread, honce⟩ := hcareful _ List.mem_cons_self g d rest htakes
      rw [htaken, htally, gain, if_pos hread, if_neg honce, List.count_singleton, Nat.add_assoc]
      by_cases hfg : f = g
      · simp [hfg]
      · simp [hfg, Ne.symm hfg]

/-- **Where each frame is taken once, and is then in one more place, the
iterations are careful.** -/
theorem Passes.careful_of_tally (h : Passes P K c ps c') (hnodup : (ps.flatMap (taken P K)).Nodup)
    (htally : ∀ f ∈ ps.flatMap (taken P K), c'.host.tally f = c.host.tally f + 1) :
    ∀ p ∈ ps, Careful P K p := by
  induction h with
  | done h => simp
  | @step c c₁ c' i ps h hsound hrest ih =>
    rw [List.flatMap_cons, List.nodup_append] at hnodup
    obtain ⟨-, hlater, hapart⟩ := hnodup
    have hstep := (taken_cases (P := P) (K := K) (i := i) hsound).2
    -- no frame taken later is moved by this iteration
    have hstill : ∀ f ∈ ps.flatMap (taken P K),
        (drainStep P K (interfaceOfIndex i) c₁).2.host.tally f = c.host.tally f := by
      intro f hf
      rcases hstep with ⟨-, -, hsame⟩ | ⟨g, d, rest, -, htaken, hmoved⟩
      · rw [hsame, h.tally]
      · have hne : f ≠ g := fun heq =>
          hapart g (by rw [htaken]; exact List.mem_singleton_self g) f hf heq.symm
        rw [hmoved, if_neg hne, Nat.add_zero, h.tally]
    intro p hp
    rcases List.mem_cons.mp hp with rfl | hp
    · -- this iteration
      intro f d rest htakes
      rcases hstep with ⟨-, hnone, -⟩ | ⟨g, d', rest', htakes', htaken, hmoved⟩
      · exact absurd htakes (hnone f d rest)
      obtain rfl : d' = d := (List.cons.inj (htakes'.head.symm.trans htakes.head)).1
      obtain rfl : g = f := Option.some.inj (htakes'.frame.symm.trans htakes.frame)
      have hmem : g ∈ taken P K (i, c₁) := by
        rw [htaken]
        exact List.mem_singleton_self g
      have hnot : g ∉ ps.flatMap (taken P K) := fun hg => hapart g hmem g hg rfl
      have hend := htally g (by rw [List.flatMap_cons]; exact List.mem_append_left _ hmem)
      rw [hrest.tally_of_not_taken hnot, hmoved, if_pos rfl, h.tally] at hend
      have hgain : gain P K i c₁ g d' = 1 := by omega
      by_cases hread : FrameRead P i c₁.host.ipc
      swap
      · rw [gain, if_neg hread] at hgain
        cases hgain
      refine ⟨hread, fun htwice => ?_⟩
      rw [gain, if_pos hread, if_pos htwice] at hgain
      cases hgain
    · -- a later one
      refine ih hlater (fun f hf => ?_) p hp
      rw [hstill f hf]
      exact htally f (by rw [List.flatMap_cons]; exact List.mem_append_right _ hf)

/-! ## No forgotten frame -/

/-- No frame taken in a call is forgotten: it is in as many more places as
it was taken, which is one place for a frame taken once that was in
none. -/
def NothingForgotten (P : Platform) (K : Clock) (ps : List (Fin 6 × TasksContext))
    (c c' : TasksContext) : Prop :=
  ∀ f ∈ ps.flatMap (taken P K), c'.host.tally f = c.host.tally f + (ps.flatMap (taken P K)).count f

/-- Where the platform calls succeed every iteration is careful. -/
theorem careful_of_succeeds (hP : P.Succeeds) (p : Fin 6 × TasksContext) : Careful P K p := by
  intro f d rest _
  refine ⟨⟨takeCallsSucceed_of_succeeds hP, hP _⟩, ?_⟩
  rintro ⟨-, htorn⟩
  exact (publication_torn_iff.mp htorn).2.2.2 ⟨hP _, hP _, hP _⟩

/-- **No forgotten frame, where the platform allows it.** In every context
the tasks reach, the iterations of a call consume all that it takes off
the RX rings; if all are careful, no frame is forgotten; and where no
frame is taken twice, no frame is forgotten only if all are. -/
theorem nothing_forgotten_iff {seen : Fin 6 → List Descriptor} (h : Reaches P K seen c)
    (trigger : IpcEventTrigger) :
    let c' := (Operation.eventTask trigger).run P K c
    let ps := eventTaskPoints P K c trigger
    (∀ i, takenRx c c' i = consumedOf P K ps i) ∧
      ((∀ p ∈ ps, Careful P K p) → NothingForgotten P K ps c c') ∧
      ((ps.flatMap (taken P K)).Nodup →
        (NothingForgotten P K ps c c' ↔ ∀ p ∈ ps, Careful P K p)) := by
  intro c' ps
  rcases eventTask_passes (P := P) (K := K) h.sound trigger with ⟨hblocked, hrx⟩ | hpasses
  · -- a blocked call takes nothing
    have hnil : ps = [] := hblocked
    have hrx' : c'.host.ipc.region.view.rx = c.host.ipc.region.view.rx := hrx
    rw [hnil]
    refine ⟨fun i => ?_, fun _ f hf => ?_, fun _ => ⟨fun _ p hp => ?_, fun _ f hf => ?_⟩⟩
    · rw [takenRx, hrx', Nat.sub_self, List.take_zero]
      rfl
    · cases hf
    · cases hp
    · cases hf
  have hpasses' : Passes P K c ps c' := hpasses
  have hcareful : (∀ p ∈ ps, Careful P K p) → NothingForgotten P K ps c c' :=
    fun hall f _ => hpasses'.tally_of_careful hall f
  refine ⟨fun i => ?_, hcareful, fun hnodup => ⟨fun hnothing => ?_, hcareful⟩⟩
  · rw [takenRx, hpasses'.rx i, List.length_append, Nat.add_sub_cancel]
    exact List.take_left
  · refine hpasses'.careful_of_tally hnodup fun f hf => ?_
    rw [hnothing f hf, List.count_eq_one_of_mem hnodup hf]

/-- A region with one frame on an RX ring. -/
def loneRegion : Region :=
  (Linux.formatRegion 1 1).publishRx 0
    (Linux.rxDescriptor 0 40 putShmInterfaceCan putShmInterfaceEthernet {} {} 0 0 0 1 0).sealed

/-- The tasks attached to it. -/
def loneContext : TasksContext := rtosTasksContextInit ⟨true, loneRegion, 0⟩ 0

theorem loneContext_reaches (P : Platform) (K : Clock) : Reaches P K (fun _ => []) loneContext :=
  .init rfl ((Linux.formatRegion_valid 1 1).publishRx _) 0

/-- A platform that fails where the frame is read. -/
def unreadPlatform : Platform := ⟨fun n => if n = 7 then .ipcNotifyFailed else .ok⟩

/-- A clock that stands still. -/
def stillClock : Clock := fun _ => 0

set_option maxRecDepth 100000 in
theorem lone_taken : (eventTaskPoints unreadPlatform stillClock loneContext .periodic).flatMap
    (taken unreadPlatform stillClock) = [0] := by
  decide +kernel

set_option maxRecDepth 100000 in
/-- The frame of `loneContext` is nowhere before the call, and nowhere
after it. -/
theorem lone_forgotten : ¬ NothingForgotten unreadPlatform stillClock
    (eventTaskPoints unreadPlatform stillClock loneContext .periodic) loneContext
    ((Operation.eventTask .periodic).run unreadPlatform stillClock loneContext) := by
  intro hnothing
  have hzero := hnothing 0
  have hbefore : loneContext.host.tally 0 = 0 := by decide +kernel
  have hafter : ((Operation.eventTask .periodic).run unreadPlatform stillClock
      loneContext).host.tally 0 = 0 := by decide +kernel
  rw [lone_taken, hbefore, hafter] at hzero
  have hone := hzero (List.mem_singleton_self 0)
  simp at hone

/-- Where all calls succeed, the frame of `loneContext` is not forgotten;
where its frame cannot be read, some iteration is not careful. -/
theorem nothing_forgotten_lone :
    NothingForgotten .defaultOps stillClock
      (eventTaskPoints .defaultOps stillClock loneContext .periodic)
      loneContext ((Operation.eventTask .periodic).run .defaultOps stillClock loneContext) ∧
    ¬ ∀ p ∈ eventTaskPoints unreadPlatform stillClock loneContext .periodic,
      Careful unreadPlatform stillClock p := by
  constructor
  · exact (nothing_forgotten_iff (loneContext_reaches .defaultOps stillClock) .periodic).2.1
      fun p _ => careful_of_succeeds Platform.defaultOps_succeeds p
  · intro hcareful
    have hiff := (nothing_forgotten_iff (loneContext_reaches unreadPlatform stillClock) .periodic).2.2
    refine lone_forgotten ((hiff ?_).mpr hcareful)
    rw [lone_taken]
    exact List.nodup_singleton 0

/-- **A frame that cannot be read is forgotten.** -/
theorem not_nothing_forgotten :
    ¬ ∀ (P : Platform) (K : Clock) (seen : Fin 6 → List Descriptor) (c : TasksContext),
      Reaches P K seen c → ∀ trigger, NothingForgotten P K (eventTaskPoints P K c trigger) c
        ((Operation.eventTask trigger).run P K c) := fun hholds =>
  lone_forgotten (hholds unreadPlatform stillClock _ _ (loneContext_reaches _ _) .periodic)

end Rtos

end PutGateway
