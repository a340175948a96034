import PutGateway.Rtos.Tasks
import PutGateway.Rtos.ShmSpec
/-!
# The ledger of frames on the RTOS

An abstract view of the tasks: the queues of the shared region, the
references, the frozen reclaims, and the frames the router holds, be they
queued or on their way through it. Every operation of the tasks is a
sequence of moves on the ledger, each of which takes one frame from one
place to another and is recorded as an event. A move that a failed
platform call brings about is a fault.

`Books` is what every sequence of moves keeps: no frame is held twice,
and what is held of a frame agrees with its reference. Without faults
every reference is held as well (`Balanced`).
-/

namespace PutGateway

namespace Rtos

/-! ## Ledgers -/

/-- A frame the router holds: an input being submitted, an item, or a
reference that recovery found to be held by nothing. -/
inductive Holding
  | input (input : RouteInput)
  | item (item : QueueItem)
  | orphan (frame : Fin 64)

/-- The frame id of a holding. -/
def Holding.frameId : Holding → UInt32
  | .input i => i.frameId
  | .item x => x.frameId
  | .orphan f => frameIdOfIndex f

/-- The tasks as a ledger. -/
structure Ledger where
  queues : Queues
  references : Fin 64 → Option Descriptor
  held : List Holding
  pending : List RouteOutput
  history : TasksHistory

/-- Remove a reference. -/
def Ledger.clear (L : Ledger) (f : Fin 64) : Ledger :=
  { L with references := Function.update L.references f none }

/-- The descriptor of a frame in use. -/
def FrameReference.descriptor? (r : FrameReference) : Option Descriptor :=
  if r.inUse then some r.descriptor else none

/-- The ledger of a context that holds `held`. -/
def Tasks.ledger (t : Tasks) (held : List Holding) : Ledger where
  queues := t.ipc.region.view
  references f := (t.frameReferences f).descriptor?
  held := held
  pending := t.pendingReclaims
  history := t.history

/-- The ledger of the tasks between two operations: what is held is what
is queued. -/
def ledger (c : TasksContext) : Ledger := c.host.ledger (c.router.queue.items.map .item)

/-! ## Moves -/

/-- What a move did. -/
inductive Event
  /-- No frame changed place. -/
  | arranged
  /-- A descriptor was taken off an RX ring and refused. -/
  | refused (i : Fin 6) (d : Descriptor)
  /-- A descriptor was taken off an RX ring and registered. -/
  | received (i : Fin 6) (d : Descriptor)
  /-- A descriptor was published on a TX ring, and its reference removed. -/
  | sent (i : Fin 6) (d : Descriptor)
  /-- A descriptor was published on the reclaim ring, and its reference
  removed. -/
  | reclaimed (d : ReclaimDescriptor)
  /-- A reclaim was frozen. -/
  | frozen (frameId : UInt32)
  /-- A reclaim was dropped: one of its frame was frozen already. -/
  | absorbed (frameId : UInt32)
  /-- A reclaim was refused for want of room. -/
  | overflowed (frameId : UInt32)
  /-- A reference was found that nothing holds. -/
  | orphaned (f : Fin 64)
  /-- Fault: a descriptor was taken off an RX ring and forgotten. -/
  | lost (i : Fin 6) (d : Descriptor)
  /-- Fault: a descriptor was published on a TX ring and its frame kept. -/
  | straySent (i : Fin 6) (d : Descriptor)
  /-- Fault: a descriptor was published on the reclaim ring and its frame
  kept. -/
  | strayReclaimed (d : ReclaimDescriptor)
  /-- Fault: a reclaim failed and its frame was dropped, but not its
  reference. -/
  | abandoned (frameId : UInt32)

/-- The events of failed platform calls. -/
def Event.IsFault : Event → Prop
  | .lost .. | .straySent .. | .strayReclaimed .. | .abandoned .. => True
  | _ => False

/-- The descriptor of the reclaim of a frame with reference `d`. -/
def reclaimOf (output : RouteOutput) (d : Descriptor) : ReclaimDescriptor :=
  (reclaimDescriptor output.frameId output.reclaimReason d.sourceInterface.toUInt32
    d.targetInterface.toUInt32 d.epoch d.flags).sealed

/-- The descriptor of a frozen reclaim. -/
def thawed (output : RouteOutput) : ReclaimDescriptor :=
  (reclaimDescriptor output.frameId output.reclaimReason output.sourceInterface
    output.targetInterface output.epoch output.flags).sealed

/-- One move. -/
inductive Move : Ledger → Event → Ledger → Prop
  | rearrange {L held} (hperm : L.held.Perm held) : Move L .arranged { L with held := held }
  | refuse {L i d rest} (hrx : L.queues.rx i = d :: rest) (hbad : ¬ Acceptable i d) :
      Move L (.refused i d) { L with queues := L.queues.setRx i rest }
  | duplicate {L i d rest f r} (hrx : L.queues.rx i = d :: rest) (hgood : Acceptable i d)
      (hf : frameIndex? d.frameId = some f) (href : L.references f = some r) :
      Move L (.refused i d) { L with queues := L.queues.setRx i rest }
  | receive {L i d rest f} (frame : FrameBlock) (nowMs : UInt32)
      (hrx : L.queues.rx i = d :: rest) (hgood : Acceptable i d)
      (hf : frameIndex? d.frameId = some f) (href : L.references f = none) :
      Move L (.received i d)
        { L with
          queues := L.queues.setRx i rest
          references := Function.update L.references f (some d)
          held := .input (routeInput d frame nowMs) :: L.held }
  | enter {L input rest router target nowMs} (hheld : L.held = .input input :: rest)
      (hvalid : inputIsInvalid input = false) :
      Move L .arranged { L with held := .item (fillQueueItem router input target nowMs) :: rest }
  | retry {L x rest} {n : UInt8} (hheld : L.held = .item x :: rest) :
      Move L .arranged { L with held := .item { x with retryCount := n } :: rest }
  | reroute {L x rest} {target : PutShmInterface} {epoch : UInt32} (hheld : L.held = .item x :: rest) :
      Move L .arranged
        { L with held := .item { x with targetInterface := target, routeEpochSeen := epoch } :: rest }
  | send {L x rest f d i} (nowMs : UInt32) (hheld : L.held = .item x :: rest)
      (hf : frameIndex? x.frameId = some f) (href : L.references f = some d)
      (htarget : x.targetInterface = interfaceOfIndex i) (hroom : (L.queues.tx i).length < 8) :
      Move L (.sent i (fillTxDescriptor d (txOutput x nowMs)).sealed)
        { L.clear f with
          queues := L.queues.setTx i
            (L.queues.tx i ++ [(fillTxDescriptor d (txOutput x nowMs)).sealed])
          held := rest }
  | reclaim {L h rest f d output} (hheld : L.held = h :: rest) (hid : output.frameId = h.frameId)
      (hf : frameIndex? h.frameId = some f) (href : L.references f = some d)
      (hroom : L.queues.reclaim.length < 8) :
      Move L (.reclaimed (reclaimOf output d))
        { L.clear f with
          queues := L.queues.setReclaim (L.queues.reclaim ++ [reclaimOf output d])
          held := rest }
  | freeze {L h rest f d output} (hheld : L.held = h :: rest) (hid : output.frameId = h.frameId)
      (hf : frameIndex? h.frameId = some f) (href : L.references f = some d)
      (hroom : L.pending.length < pendingReclaimCapacity) :
      Move L (.frozen h.frameId)
        { L with held := rest, pending := L.pending ++ [withRxMetadata output d] }
  | absorb {L h rest} (hheld : L.held = h :: rest)
      (hpending : ∃ o ∈ L.pending, o.frameId = h.frameId) :
      Move L (.absorbed h.frameId) { L with held := rest }
  | overflow {L h rest} (hheld : L.held = h :: rest)
      (hpending : ∀ o ∈ L.pending, o.frameId ≠ h.frameId)
      (hroom : pendingReclaimCapacity ≤ L.pending.length) :
      Move L (.overflowed h.frameId)
        { L with held := rest, history := L.history.countReclaimFull }
  | thaw {L o rest f} (hpending : L.pending = o :: rest) (hf : frameIndex? o.frameId = some f)
      (hroom : L.queues.reclaim.length < 8) :
      Move L (.reclaimed (thawed o))
        { L.clear f with
          queues := L.queues.setReclaim (L.queues.reclaim ++ [thawed o])
          pending := rest }
  | orphan {L f d} (href : L.references f = some d)
      (hpending : ∀ o ∈ L.pending, o.frameId ≠ frameIdOfIndex f) (hheld : L.held = []) :
      Move L (.orphaned f) { L with held := [.orphan f], history := L.history.countOrphan }
  | lose {L i d rest f} (hrx : L.queues.rx i = d :: rest) (hgood : Acceptable i d)
      (hf : frameIndex? d.frameId = some f) (href : L.references f = none) :
      Move L (.lost i d) { L with queues := L.queues.setRx i rest }
  | straySend {L x rest f d i} (nowMs : UInt32) (hheld : L.held = .item x :: rest)
      (hf : frameIndex? x.frameId = some f) (href : L.references f = some d)
      (htarget : x.targetInterface = interfaceOfIndex i) :
      Move L (.straySent i (fillTxDescriptor d (txOutput x nowMs)).sealed)
        { L with
          queues := L.queues.setTx i
            (L.queues.tx i ++ [(fillTxDescriptor d (txOutput x nowMs)).sealed]) }
  | strayReclaim {L h rest f d output} (hheld : L.held = h :: rest)
      (hid : output.frameId = h.frameId) (hf : frameIndex? h.frameId = some f)
      (href : L.references f = some d) :
      Move L (.strayReclaimed (reclaimOf output d))
        { L with queues := L.queues.setReclaim (L.queues.reclaim ++ [reclaimOf output d]) }
  | strayThaw {L o rest} (hpending : L.pending = o :: rest) :
      Move L (.strayReclaimed (thawed o))
        { L with queues := L.queues.setReclaim (L.queues.reclaim ++ [thawed o]) }
  | abandon {L h rest} (hheld : L.held = h :: rest) :
      Move L (.abandoned h.frameId) { L with held := rest }

/-- A sequence of moves, with its events in order. -/
inductive Moves : Ledger → List Event → Ledger → Prop
  | refl {L} : Moves L [] L
  | snoc {L L' L'' events event} (hmoves : Moves L events L') (hmove : Move L' event L'') :
      Moves L (events ++ [event]) L''

/-! ## The books -/

/-- An item that carries the routing fields of a trusted descriptor. -/
structure QueueItem.Of (x : QueueItem) (d : Descriptor) : Prop where
  source : x.sourceInterface = d.sourceInterface.toUInt32
  destinationCid : x.destinationCid = d.destinationCid
  priority : x.priority = d.priority
  epoch : x.epoch = d.epoch
  flags : x.flags = d.flags
  trusted : rtosRouterTrustIsRoutable (descriptorTrustFromFlags d) = true

/-- The source interface of an item, as a descriptor has it. -/
theorem QueueItem.Of.toUInt8_source {x : QueueItem} {d : Descriptor} (h : x.Of d) :
    x.sourceInterface.toUInt8 = d.sourceInterface := by
  rw [h.source]
  simp

/-- The descriptor made for an item with a valid target is within bounds. -/
theorem QueueItem.Of.txBounds {x : QueueItem} {d : Descriptor} {i : Fin 6} (h : x.Of d)
    (hbounds : validateDescriptorBounds d = .ok) (hframe : x.frameId = d.frameId)
    (htarget : x.targetInterface = interfaceOfIndex i) (nowMs : UInt32) :
    validateDescriptorBounds (fillTxDescriptor d (txOutput x nowMs)) = .ok := by
  simp only [validateDescriptorBounds, fillTxDescriptor, txOutput, h.toUInt8_source, htarget, hframe,
    toUInt8_interfaceOfIndex] at hbounds ⊢
  split at hbounds
  · cases hbounds
  next hifaces =>
  simp only [Bool.or_eq_true, Bool.not_eq_true', not_or, Bool.not_eq_false] at hifaces
  rw [if_neg (by simp [hifaces.1, isInterfaceValid_ofNat])]
  exact hbounds

/-- A frozen reclaim that carries the metadata of a descriptor. -/
structure RouteOutput.Of (o : RouteOutput) (d : Descriptor) : Prop where
  source : o.sourceInterface = d.sourceInterface.toUInt32
  target : o.targetInterface = d.targetInterface.toUInt32
  epoch : o.epoch = d.epoch
  flags : o.flags = d.flags

/-- What a holding keeps of the descriptor it came with. -/
def Holding.Of (h : Holding) (d : Descriptor) : Prop :=
  match h with
  | .input i => ∃ frame nowMs, i = routeInput d frame nowMs
  | .item x => x.Of d
  | .orphan _ => True

theorem Holding.of_routeInput (d : Descriptor) (frame : FrameBlock) (nowMs : UInt32) :
    (Holding.input (routeInput d frame nowMs)).Of d := ⟨frame, nowMs, rfl⟩

namespace Ledger

/-- The frames held and those whose reclaim is frozen. -/
def ids (L : Ledger) : List UInt32 :=
  L.held.map Holding.frameId ++ L.pending.map RouteOutput.frameId

/-- No frame is held twice, and what is held of a frame agrees with its
reference. -/
structure Books (L : Ledger) : Prop where
  nodup : L.ids.Nodup
  held : ∀ h ∈ L.held, ∃ f d, h.frameId = frameIdOfIndex f ∧ L.references f = some d ∧ h.Of d
  frozen : ∀ o ∈ L.pending, ∃ f d, o.frameId = frameIdOfIndex f ∧ L.references f = some d ∧ o.Of d
  references : ∀ f d, L.references f = some d → d.frameId = frameIdOfIndex f ∧ ∃ i, Acceptable i d

/-- Every reference is held. -/
def Balanced (L : Ledger) : Prop :=
  ∀ f d, L.references f = some d → frameIdOfIndex f ∈ L.ids

variable {L : Ledger} {h : Holding} {rest : List Holding} {o : RouteOutput} {f : Fin 64}

/-- What is held is referenced. -/
theorem Books.exists_of_mem_ids (hL : Books L) {id : UInt32} (hid : id ∈ L.ids) :
    ∃ f, id = frameIdOfIndex f ∧ ∃ d, L.references f = some d := by
  rcases List.mem_append.mp hid with hid | hid
  · obtain ⟨h, hh, rfl⟩ := List.mem_map.mp hid
    obtain ⟨f, d, hf, href, -⟩ := hL.held h hh
    exact ⟨f, hf, d, href⟩
  · obtain ⟨o, ho, rfl⟩ := List.mem_map.mp hid
    obtain ⟨f, d, hf, href, -⟩ := hL.frozen o ho
    exact ⟨f, hf, d, href⟩

theorem Books.withQueues (hL : Books L) (q : Queues) : Books { L with queues := q } :=
  ⟨hL.nodup, hL.held, hL.frozen, hL.references⟩

theorem Books.withHistory (hL : Books L) (h : TasksHistory) : Books { L with history := h } :=
  ⟨hL.nodup, hL.held, hL.frozen, hL.references⟩

theorem Books.perm (hL : Books L) {held : List Holding} (hperm : L.held.Perm held) :
    Books { L with held := held } :=
  ⟨((hperm.map _).append_right _).nodup_iff.mp hL.nodup,
    fun h hh => hL.held h (hperm.mem_iff.mpr hh), hL.frozen, hL.references⟩

/-- Replacing the first holding by another one of the same frame. -/
theorem Books.replace (hL : Books L) (hheld : L.held = h :: rest) {h' : Holding}
    (hid : h'.frameId = h.frameId) (hof : ∀ d, h.Of d → h'.Of d) :
    Books { L with held := h' :: rest } := by
  refine ⟨?_, ?_, hL.frozen, hL.references⟩
  · have hnodup := hL.nodup
    simpa [ids, hheld, hid] using hnodup
  · intro g hg
    rcases List.mem_cons.mp hg with rfl | hg
    · obtain ⟨f, d, hf, href, hd⟩ := hL.held h (by simp [hheld])
      exact ⟨f, d, hid.trans hf, href, hof d hd⟩
    · exact hL.held g (by simp [hheld, hg])

theorem Books.dropHeld (hL : Books L) (hheld : L.held = h :: rest) :
    Books { L with held := rest } := by
  refine ⟨?_, fun g hg => hL.held g (by simp [hheld, hg]), hL.frozen, hL.references⟩
  have hnodup := hL.nodup
  simp only [ids, hheld, List.map_cons, List.cons_append, List.nodup_cons] at hnodup
  exact hnodup.2

/-- Removing a reference nothing holds any more. -/
theorem Books.clear (hL : Books L) (hf : frameIdOfIndex f ∉ L.ids) : Books (L.clear f) := by
  refine ⟨hL.nodup, ?_, ?_, ?_⟩
  · intro g hg
    obtain ⟨f', d, hf', href, hd⟩ := hL.held g hg
    refine ⟨f', d, hf', ?_, hd⟩
    have hne : f' ≠ f := by
      rintro rfl
      exact hf (List.mem_append_left _ (List.mem_map.mpr ⟨g, hg, hf'⟩))
    simpa [Ledger.clear, Function.update_of_ne hne] using href
  · intro o ho
    obtain ⟨f', d, hf', href, hd⟩ := hL.frozen o ho
    refine ⟨f', d, hf', ?_, hd⟩
    have hne : f' ≠ f := by
      rintro rfl
      exact hf (List.mem_append_right _ (List.mem_map.mpr ⟨o, ho, hf'⟩))
    simpa [Ledger.clear, Function.update_of_ne hne] using href
  · intro f' d href
    by_cases hne : f' = f
    · subst hne
      simp [Ledger.clear] at href
    · exact hL.references f' d (by simpa [Ledger.clear, Function.update_of_ne hne] using href)

/-- Settling the first holding: it goes, and its reference with it. -/
theorem Books.settle (hL : Books L) (hheld : L.held = h :: rest) (hid : h.frameId = frameIdOfIndex f) :
    Books { L.clear f with held := rest } := by
  refine (hL.dropHeld hheld).clear ?_
  have hnodup := hL.nodup
  simp only [ids, hheld, List.map_cons, List.cons_append, List.nodup_cons, hid] at hnodup
  exact hnodup.1

/-- Settling the first frozen reclaim. -/
theorem Books.settlePending (hL : Books L) {rest : List RouteOutput} (hpending : L.pending = o :: rest)
    (hid : o.frameId = frameIdOfIndex f) : Books { L.clear f with pending := rest } := by
  have hnodup := hL.nodup
  simp only [ids, hpending, List.map_cons, List.nodup_middle, List.nodup_cons, hid] at hnodup
  have hdrop : Books { L with pending := rest } :=
    ⟨hnodup.2, hL.held, fun o' ho => hL.frozen o' (by simp [hpending, ho]), hL.references⟩
  exact hdrop.clear hnodup.1

/-- Freezing the reclaim of the first holding. -/
theorem Books.freeze (hL : Books L) (hheld : L.held = h :: rest) (hid : o.frameId = h.frameId)
    {d : Descriptor} (hf : h.frameId = frameIdOfIndex f) (href : L.references f = some d) :
    Books { L with held := rest, pending := L.pending ++ [withRxMetadata o d] } := by
  refine ⟨?_, fun g hg => hL.held g (by simp [hheld, hg]), ?_, hL.references⟩
  · have hnodup := hL.nodup
    have hperm : (h.frameId :: (rest.map Holding.frameId ++ L.pending.map RouteOutput.frameId)).Perm
        (rest.map Holding.frameId ++ (L.pending ++ [withRxMetadata o d]).map RouteOutput.frameId) := by
      have hid' : (withRxMetadata o d).frameId = h.frameId := hid
      simp only [List.map_append, List.map_cons, List.map_nil, hid', ← List.append_assoc]
      exact (List.perm_append_singleton _ _).symm
    simp only [ids, hheld, List.map_cons, List.cons_append] at hnodup
    exact hperm.nodup_iff.mp hnodup
  · intro o' ho
    rcases List.mem_append.mp ho with ho | ho
    · exact hL.frozen o' ho
    · obtain rfl := List.mem_singleton.mp ho
      exact ⟨f, d, hid.trans hf, href, rfl, rfl, rfl, rfl⟩

/-- Registering a frame and holding it. -/
theorem Books.register (hL : Books L) {d : Descriptor} {i : Fin 6} (hgood : Acceptable i d)
    (hf : d.frameId = frameIdOfIndex f) (href : L.references f = none) (hid : h.frameId = d.frameId)
    (hof : h.Of d) :
    Books { L with references := Function.update L.references f (some d), held := h :: L.held } := by
  -- the frame had no reference before
  have hkeep : ∀ f' d', L.references f' = some d' →
      Function.update L.references f (some d) f' = some d' := by
    intro f' d' h'
    have hne : f' ≠ f := by
      rintro rfl
      rw [href] at h'
      cases h'
    rwa [Function.update_of_ne hne]
  have hnew : frameIdOfIndex f ∉ L.ids := by
    intro hmem
    obtain ⟨f', hf', d', href'⟩ := hL.exists_of_mem_ids hmem
    rw [frameIdOfIndex_inj.mp hf'.symm, href] at href'
    cases href'
  refine ⟨?_, ?_, ?_, ?_⟩
  · simp only [ids, List.map_cons, List.cons_append, List.nodup_cons, hid, hf]
    exact ⟨hnew, hL.nodup⟩
  · intro g hg
    rcases List.mem_cons.mp hg with rfl | hg
    · exact ⟨f, d, hid.trans hf, Function.update_self .., hof⟩
    · obtain ⟨f', d', hf', href', hd'⟩ := hL.held g hg
      exact ⟨f', d', hf', hkeep _ _ href', hd'⟩
  · intro o ho
    obtain ⟨f', d', hf', href', hd'⟩ := hL.frozen o ho
    exact ⟨f', d', hf', hkeep _ _ href', hd'⟩
  · intro f' d' href'
    by_cases hne : f' = f
    · subst hne
      simp only [Function.update_self, Option.some.injEq] at href'
      exact href' ▸ ⟨hf, i, hgood⟩
    · exact hL.references f' d' (by simpa [Function.update_of_ne hne] using href')

end Ledger

/-- A trusted input becomes an item with the fields of its descriptor. -/
theorem QueueItem.of_fill {d : Descriptor} {frame : FrameBlock} {nowMs nowMs' : UInt32}
    {router : RouterContext} {target : PutShmInterface}
    (hvalid : inputIsInvalid (routeInput d frame nowMs) = false) :
    (fillQueueItem router (routeInput d frame nowMs) target nowMs').Of d := by
  refine ⟨rfl, rfl, rfl, rfl, rfl, ?_⟩
  simp only [inputIsInvalid, Bool.or_eq_false_iff, Bool.not_eq_false'] at hvalid
  exact hvalid.1.2

open Ledger in
/-- **Every move keeps the books.** -/
theorem Move.books {L L' : Ledger} {e : Event} (h : Move L e L') (hL : Books L) : Books L' := by
  cases h with
  | rearrange hperm => exact hL.perm hperm
  | refuse => exact hL.withQueues _
  | duplicate => exact hL.withQueues _
  | receive _ _ hrx hgood hf href =>
    exact (hL.register hgood (frameIndex?_eq_some.mp hf) href rfl
      (Holding.of_routeInput _ _ _)).withQueues _
  | enter hheld hvalid =>
    obtain ⟨f, d, -, -, frame, nowMs, rfl⟩ := hL.held _ (by rw [hheld]; exact List.mem_cons_self)
    refine hL.replace hheld rfl ?_
    rintro d' ⟨frame', nowMs', heq⟩
    rw [heq] at hvalid ⊢
    exact QueueItem.of_fill hvalid
  | retry hheld => exact hL.replace hheld rfl fun d hd => ⟨hd.1, hd.2, hd.3, hd.4, hd.5, hd.6⟩
  | reroute hheld => exact hL.replace hheld rfl fun d hd => ⟨hd.1, hd.2, hd.3, hd.4, hd.5, hd.6⟩
  | send _ hheld hf => exact (hL.settle hheld (frameIndex?_eq_some.mp hf)).withQueues _
  | reclaim hheld hid hf => exact (hL.settle hheld (frameIndex?_eq_some.mp hf)).withQueues _
  | freeze hheld hid hf href => exact hL.freeze hheld hid (frameIndex?_eq_some.mp hf) href
  | absorb hheld => exact hL.dropHeld hheld
  | overflow hheld => exact (hL.dropHeld hheld).withHistory _
  | thaw hpending hf => exact (hL.settlePending hpending (frameIndex?_eq_some.mp hf)).withQueues _
  | orphan href hpending hheld =>
    refine ⟨?_, ?_, hL.frozen, hL.references⟩
    · have hnodup := hL.nodup
      simp only [ids, hheld, List.map_nil, List.nil_append] at hnodup
      simp only [ids, List.map_cons, List.map_nil, List.cons_append, List.nil_append,
        List.nodup_cons]
      refine ⟨fun hmem => ?_, hnodup⟩
      obtain ⟨o, ho, hid⟩ := List.mem_map.mp hmem
      exact hpending o ho hid
    · intro g hg
      obtain rfl := List.mem_singleton.mp hg
      exact ⟨_, _, rfl, href, trivial⟩
  | lose => exact hL.withQueues _
  | straySend => exact hL.withQueues _
  | strayReclaim => exact hL.withQueues _
  | strayThaw => exact hL.withQueues _
  | abandon hheld => exact hL.dropHeld hheld

theorem Moves.books {L L' : Ledger} {es : List Event} (h : Moves L es L') (hL : L.Books) :
    L'.Books := by
  induction h with
  | refl => exact hL
  | snoc _ hmove ih => exact hmove.books ih

/-! ## Balance -/

namespace Ledger

variable {L : Ledger}

/-- At most 64 frames are held. -/
theorem Books.length_ids_le (hL : Books L) : L.ids.length ≤ 64 := by
  have hsub : L.ids ⊆ (List.finRange 64).map frameIdOfIndex := by
    intro id hid
    obtain ⟨f, hf, -⟩ := hL.exists_of_mem_ids hid
    exact List.mem_map.mpr ⟨f, List.mem_finRange f, hf.symm⟩
  have hle := (List.subperm_of_subset hL.nodup hsub).length_le
  simpa using hle

/-- No frame is both held and frozen. -/
theorem Books.not_frozen (hL : Books L) {h : Holding} (hh : h ∈ L.held) :
    ∀ o ∈ L.pending, o.frameId ≠ h.frameId := by
  intro o ho heq
  exact List.disjoint_of_nodup_append hL.nodup (List.mem_map_of_mem hh)
    (heq ▸ List.mem_map_of_mem ho)

/-- While a frame is held there is room to freeze its reclaim. -/
theorem Books.pending_room (hL : Books L) {h : Holding} (hh : h ∈ L.held) :
    L.pending.length < pendingReclaimCapacity := by
  have hle := hL.length_ids_le
  have hpos := List.length_pos_of_mem hh
  simp only [ids, List.length_append, List.length_map] at hle
  unfold pendingReclaimCapacity
  omega

/-- The same frames are held of the same references. -/
theorem Balanced.of_ids (hb : Balanced L) {L' : Ledger} (href : L'.references = L.references)
    (hids : L.ids ⊆ L'.ids) : Balanced L' := by
  intro f d h
  rw [href] at h
  exact hids (hb f d h)

/-- A frame and its reference go together. -/
theorem Balanced.clear (hb : Balanced L) {f : Fin 64} {L' : Ledger}
    (href : L'.references = Function.update L.references f none)
    (hids : ∀ id ∈ L.ids, id ≠ frameIdOfIndex f → id ∈ L'.ids) : Balanced L' := by
  intro f' d h
  rw [href] at h
  have hne : f' ≠ f := by
    rintro rfl
    simp at h
  rw [Function.update_of_ne hne] at h
  exact hids _ (hb f' d h) fun heq => hne (frameIdOfIndex_inj.mp heq)

end Ledger

open Ledger in
/-- **A move that is no fault keeps the balance**, finds no orphan, and
meets neither a frozen reclaim of its frame nor a full list. -/
theorem Move.balanced {L L' : Ledger} {e : Event} (h : Move L e L') (hL : Books L)
    (hb : Balanced L) (hfault : ¬ e.IsFault) : Balanced L' ∧ L'.history = L.history := by
  cases h with
  | rearrange hperm =>
    refine ⟨hb.of_ids rfl fun id hid => ?_, rfl⟩
    exact ((hperm.map _).append_right _).mem_iff.mp hid
  | refuse => exact ⟨hb.of_ids rfl fun _ hid => hid, rfl⟩
  | duplicate => exact ⟨hb.of_ids rfl fun _ hid => hid, rfl⟩
  | @receive i d rest f frame nowMs hrx hgood hf href =>
    refine ⟨fun f' d' href' => ?_, rfl⟩
    by_cases hne : f' = f
    · subst hne
      simp only [ids, List.map_cons, List.cons_append, List.mem_cons]
      exact .inl (frameIndex?_eq_some.mp hf).symm
    · simp only [Function.update_of_ne hne] at href'
      exact List.mem_cons_of_mem _ (hb f' d' href')
  | enter hheld =>
    refine ⟨hb.of_ids rfl fun id hid => ?_, rfl⟩
    simpa [ids, hheld, Holding.frameId, fillQueueItem] using hid
  | retry hheld =>
    refine ⟨hb.of_ids rfl fun id hid => ?_, rfl⟩
    simpa [ids, hheld, Holding.frameId] using hid
  | reroute hheld =>
    refine ⟨hb.of_ids rfl fun id hid => ?_, rfl⟩
    simpa [ids, hheld, Holding.frameId] using hid
  | send _ hheld hf =>
    refine ⟨hb.clear rfl fun id hid hne => ?_, rfl⟩
    simp only [ids, hheld, List.map_cons, List.cons_append, List.mem_cons] at hid
    exact hid.resolve_left fun h => hne (h.trans (frameIndex?_eq_some.mp hf))
  | reclaim hheld hid' hf =>
    refine ⟨hb.clear rfl fun id hid hne => ?_, rfl⟩
    simp only [ids, hheld, List.map_cons, List.cons_append, List.mem_cons] at hid
    exact hid.resolve_left fun h => hne (h.trans (frameIndex?_eq_some.mp hf))
  | freeze hheld hid' =>
    refine ⟨hb.of_ids rfl fun id hid => ?_, rfl⟩
    simp only [ids, hheld, List.map_cons, List.cons_append, List.mem_cons, List.mem_append] at hid
    simp only [ids, List.map_append, List.map_cons, List.map_nil, List.mem_append,
      List.mem_singleton]
    rcases hid with hid | hid | hid
    · exact .inr (.inr (hid.trans hid'.symm))
    · exact .inl hid
    · exact .inr (.inl hid)
  -- these two find what a balanced ledger does not have
  | absorb hheld hpending =>
    obtain ⟨o, ho, hid⟩ := hpending
    exact absurd hid (hL.not_frozen (by rw [hheld]; exact List.mem_cons_self) o ho)
  | overflow hheld hpending hroom =>
    exact absurd (hL.pending_room (by rw [hheld]; exact List.mem_cons_self)) (not_lt.mpr hroom)
  | thaw hpending hf =>
    refine ⟨hb.clear rfl fun id hid hne => ?_, rfl⟩
    simp only [ids, hpending, List.map_cons, List.mem_append, List.mem_cons] at hid
    rcases hid with hid | hid | hid
    · exact List.mem_append_left _ hid
    · exact absurd (hid.trans (frameIndex?_eq_some.mp hf)) hne
    · exact List.mem_append_right _ hid
  | orphan href hpending hheld =>
    have hmem := hb _ _ href
    simp only [ids, hheld, List.map_nil, List.nil_append, List.mem_map] at hmem
    obtain ⟨o, ho, hid⟩ := hmem
    exact absurd hid (hpending o ho)
  | lose => exact absurd trivial hfault
  | straySend => exact absurd trivial hfault
  | strayReclaim => exact absurd trivial hfault
  | strayThaw => exact absurd trivial hfault
  | abandon => exact absurd trivial hfault

open Ledger in
/-- **A run without faults keeps the balance**, and neither finds an
orphan nor a full list. -/
theorem Moves.balanced {L L' : Ledger} {es : List Event} (h : Moves L es L') (hL : Books L)
    (hb : Balanced L) (hfault : ∀ e ∈ es, ¬ e.IsFault) : Balanced L' ∧ L'.history = L.history := by
  induction h with
  | refl => exact ⟨hb, rfl⟩
  | snoc hmoves hmove ih =>
    obtain ⟨hb', hhistory⟩ := ih fun e he => hfault e (List.mem_append_left _ he)
    obtain ⟨hb'', hhistory'⟩ := hmove.balanced (hmoves.books hL) hb'
      (hfault _ (List.mem_append_right _ (List.mem_singleton_self _)))
    exact ⟨hb'', hhistory'.trans hhistory⟩

end Rtos

end PutGateway
