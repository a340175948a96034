import PutGateway.Linux.ShmSpec
import PutGateway.Rtos.SupervisionSpec
/-!
# Runs of the tasks

A run interleaves operations of the tasks with changes of the region by
its environment, which may put anything on any ring: what is asked of it
is that the rings keep their headers. The books hold in every state of
every run, and with platform calls that succeed they are balanced: what
is referenced is what is queued and what is frozen.
-/

namespace PutGateway

namespace Rtos

/-! ## Operations -/

/-- An operation of the tasks. -/
inductive Operation
  | eventTask (trigger : IpcEventTrigger)
  | schedulerTask (budget : UInt32)
  | retryPendingReclaims (budget : UInt32)
  | heartbeatTask
  | errorMonitorTask
  | recoveryTask (budget : UInt32)
  | statisticsTask
  | observeLinuxHeartbeat (sequence : UInt32)

/-- The context an operation leaves. -/
def Operation.run (P : Platform) (K : Clock) (c : TasksContext) : Operation → TasksContext
  | .eventTask trigger => (rtosIpcEventTaskRunOnce P K c trigger).2
  | .schedulerTask budget => (rtosRouterSchedulerTaskRunOnce P K c budget).2
  | .retryPendingReclaims budget =>
    { c with host := (rtosTasksRetryPendingReclaims P K c.host budget).2 }
  | .heartbeatTask => (rtosHeartbeatTaskRunOnce K c).2
  | .errorMonitorTask => (rtosErrorMonitorTaskRunOnce K c).2
  | .recoveryTask budget => (rtosRecoveryTaskRunOnce P K c budget).2
  | .statisticsTask => (rtosStatisticsTaskRunOnce c).2
  | .observeLinuxHeartbeat sequence =>
    { c with host := rtosTasksObserveLinuxHeartbeat K c.host sequence }

variable {P : Platform} {K : Clock} {c c' : TasksContext} {L : Ledger} {R : Region}

/-- **Every operation follows the ledger.** -/
theorem ContextFollows.run (h : ContextFollows P R L c) (op : Operation) :
    ContextFollows P R L (op.run P K c) := by
  cases op with
  | eventTask => exact h.eventTask
  | schedulerTask => exact h.schedulerTask
  | retryPendingReclaims => exact h.retryPendingReclaims
  | heartbeatTask => exact h.heartbeatTask
  | errorMonitorTask => exact h.errorMonitorTask
  | recoveryTask => exact h.recoveryTask
  | statisticsTask => exact h.statisticsTask
  | observeLinuxHeartbeat => exact h.observeLinuxHeartbeat

/-! ## Sound contexts -/

/-- A context the tasks work on: attached to a valid region, with its
books in order. -/
structure Sound (c : TasksContext) : Prop where
  initialized : c.host.ipc.initialized = true
  valid : c.host.ipc.region.Valid
  books : (ledger c).Books

theorem Sound.follows (h : Sound c) : ContextFollows P c.host.ipc.region (ledger c) c :=
  .start h.initialized h.valid h.books

theorem ContextFollows.sound (h : ContextFollows P R L c) : Sound c :=
  ⟨h.initialized, h.valid, h.books⟩

/-- **An operation is a sequence of moves on the ledger**, without faults
where the platform calls succeed, and keeps the context sound. -/
theorem Sound.run (h : Sound c) (op : Operation) :
    Sound (op.run P K c) ∧
      (op.run P K c).host.ipc.region.header = c.host.ipc.region.header ∧
      (op.run P K c).host.ipc.region.framePool = c.host.ipc.region.framePool ∧
      ∃ es, Moves (ledger c) es (ledger (op.run P K c)) ∧ (P.Succeeds → ∀ e ∈ es, ¬ e.IsFault) := by
  have hdone : ContextFollows P c.host.ipc.region (ledger c) (op.run P K c) := h.follows.run op
  exact ⟨⟨hdone.initialized, hdone.valid, hdone.books⟩, hdone.header, hdone.framePool, hdone.moves⟩

/-- The region as the environment leaves it. -/
def withRegion (c : TasksContext) (R : Region) : TasksContext :=
  { c with host := { c.host with ipc := { c.host.ipc with region := R } } }

theorem Sound.withRegion (h : Sound c) (hR : R.Valid) : Sound (withRegion c R) :=
  ⟨h.initialized, hR, h.books.withQueues R.view⟩

/-- A context just initialised holds nothing. -/
theorem ledger_contextInit (ipc : RtosShm) (ticks : ℕ) :
    ledger (rtosTasksContextInit ipc ticks) = ⟨ipc.region.view, fun _ => none, [], [], {}⟩ := rfl

theorem Sound.contextInit {ipc : RtosShm} (hinit : ipc.initialized = true) (hv : ipc.region.Valid)
    (ticks : ℕ) : Sound (rtosTasksContextInit ipc ticks) := by
  refine ⟨hinit, hv, ?_⟩
  rw [ledger_contextInit]
  exact ⟨by simp [Ledger.ids], by simp, by simp, by simp⟩

/-! ## Runs -/

/-- What an operation took off an RX ring. -/
def takenRx (c c' : TasksContext) (i : Fin 6) : List Descriptor :=
  let before := c.host.ipc.region.view.rx i
  before.take (before.length - (c'.host.ipc.region.view.rx i).length)

/-- What an operation wrote to a TX ring. -/
def writtenTx (c c' : TasksContext) (i : Fin 6) : List Descriptor :=
  (c'.host.ipc.region.view.tx i).drop (c.host.ipc.region.view.tx i).length

/-- What an operation wrote to the reclaim ring. -/
def writtenReclaim (c c' : TasksContext) : List ReclaimDescriptor :=
  c'.host.ipc.region.view.reclaim.drop c.host.ipc.region.view.reclaim.length

/-- The contexts a run reaches from an initialised one, with what the run
has taken off each RX ring. -/
inductive Reaches (P : Platform) (K : Clock) : (Fin 6 → List Descriptor) → TasksContext → Prop
  | init {ipc : RtosShm} (hinit : ipc.initialized = true) (hv : ipc.region.Valid) (ticks : ℕ) :
      Reaches P K (fun _ => []) (rtosTasksContextInit ipc ticks)
  | operation {seen c} (h : Reaches P K seen c) (op : Operation) :
      Reaches P K (fun i => seen i ++ takenRx c (op.run P K c) i) (op.run P K c)
  | environment {seen c} (h : Reaches P K seen c) {R : Region} (hR : R.Valid) :
      Reaches P K seen (withRegion c R)

variable {seen : Fin 6 → List Descriptor}

/-- **Every context a run reaches is sound.** -/
theorem Reaches.sound (h : Reaches P K seen c) : Sound c := by
  induction h with
  | init hinit hv ticks => exact .contextInit hinit hv ticks
  | operation _ op ih => exact (ih.run op).1
  | environment _ hR ih => exact ih.withRegion hR

/-! ## The bookkeeping invariant -/

/-- An operation keeps the balance of the books. -/
theorem Sound.run_balanced (hP : P.Succeeds) (h : Sound c) (hb : (ledger c).Balanced)
    (op : Operation) :
    (ledger (op.run P K c)).Balanced ∧ (op.run P K c).host.history = c.host.history := by
  obtain ⟨-, -, -, es, hmoves, hfaults⟩ := h.run (P := P) (K := K) op
  exact hmoves.balanced h.books hb (hfaults hP)

theorem Reaches.balanced (hP : P.Succeeds) (h : Reaches P K seen c) :
    (ledger c).Balanced ∧ c.host.history = {} := by
  induction h with
  | init => exact ⟨fun f d href => by simp [ledger_contextInit] at href, rfl⟩
  | operation h op ih =>
    obtain ⟨hb, hhistory⟩ := h.sound.run_balanced (K := K) hP ih.1 op
    exact ⟨hb, hhistory.trans ih.2⟩
  | environment _ _ ih => exact ⟨fun f d href => ih.1 f d href, ih.2⟩

/-- The frames with a reference in use. -/
def referencedIds (c : TasksContext) : Set UInt32 :=
  { id | ∃ f, id = frameIdOfIndex f ∧ (c.host.frameReferences f).inUse = true }

/-- The frames queued in the router. -/
def queuedIds (c : TasksContext) : List UInt32 := c.router.queue.items.map QueueItem.frameId

/-- The frames whose reclaim is frozen. -/
def pendingIds (c : TasksContext) : List UInt32 := c.host.pendingReclaims.map RouteOutput.frameId

theorem ids_ledger : (ledger c).ids = queuedIds c ++ pendingIds c := by
  simp only [Ledger.ids, ledger, Tasks.ledger, queuedIds, pendingIds, List.map_map]
  rfl

/-- **The bookkeeping invariant.** In every state of every run with
platform calls that succeed, the frames referenced are the disjoint union
of those queued and those frozen, none of them twice; at most 64 reclaims
are frozen, none was ever refused for want of room, and no orphan was
ever found. -/
theorem frame_references_partition (hP : P.Succeeds) (h : Reaches P K seen c) :
    referencedIds c = { id | id ∈ queuedIds c } ∪ { id | id ∈ pendingIds c } ∧
      (queuedIds c).Disjoint (pendingIds c) ∧ (queuedIds c).Nodup ∧ (pendingIds c).Nodup ∧
      c.host.pendingReclaims.length ≤ 64 ∧
      c.host.history.reclaimFulls = 0 ∧ c.host.history.orphans = 0 := by
  obtain ⟨hb, hhistory⟩ := h.balanced hP
  have hbooks := h.sound.books
  have hnodup := hbooks.nodup
  have hlength := hbooks.length_ids_le
  rw [ids_ledger] at hnodup hlength
  obtain ⟨hqueued, hpending, hdisjoint⟩ := List.nodup_append'.mp hnodup
  refine ⟨?_, hdisjoint, hqueued, hpending, ?_, by rw [hhistory], by rw [hhistory]⟩
  · ext id
    constructor
    · rintro ⟨f, rfl, hinUse⟩
      have hmem := hb f _ (FrameReference.descriptor?_eq_some.mpr ⟨hinUse, rfl⟩)
      rw [ids_ledger] at hmem
      exact List.mem_append.mp hmem
    · intro hmem
      have hmem' : id ∈ (ledger c).ids := by
        rw [ids_ledger]
        exact List.mem_append.mpr hmem
      obtain ⟨f, rfl, d, href⟩ := hbooks.exists_of_mem_ids hmem'
      exact ⟨f, rfl, (FrameReference.descriptor?_eq_some.mp href).1⟩
  · simp only [List.length_append, pendingIds, List.length_map] at hlength
    omega

/-! ## A region with frames -/

/-- A frame of 40 bytes to `0x40000000`, of type `0x49`. -/
def plainBlock : FrameBlock := fun i =>
  if i = 0 then 40 else if i = 8 then 0x40 else if i = 38 then 0x49 else 0

/-- An internal frame from CAN for Ethernet. -/
def plainDescriptor (frameId epoch : UInt32) : Descriptor :=
  (Linux.rxDescriptor frameId 40 putShmInterfaceCan putShmInterfaceEthernet {} { b0 := 0x40 }
    0x49 2 0 epoch 0x1F).sealed

/-- The region with descriptors on the RX ring of CAN, its pending bit set
and plain frames in the blocks. -/
def offering (R : Region) (l : List Descriptor) : Region :=
  { l.foldl (fun R d => R.publishRx 0 d) R with
    framePool := fun _ => plainBlock
    rxPendingBitmap := { R.rxPendingBitmap with bits := 1 } }

theorem offering_valid (hR : R.Valid) (l : List Descriptor) : (offering R l).Valid := by
  have hfold : ∀ l : List Descriptor, ∀ R : Region, R.Valid →
      (l.foldl (fun R d => R.publishRx 0 d) R).Valid := by
    intro l
    induction l with
    | nil => exact fun R hR => hR
    | cons d rest ih => exact fun R hR => ih _ (hR.publishRx d)
  obtain ⟨h1, h2, h3, h4, h5⟩ := hfold l R hR
  exact ⟨h1, h2, h3, h4, h5⟩

/-- The region with its reclaim ring full. -/
def congested (R : Region) : Region := (List.range 8).foldl (fun R _ => R.publishReclaim {}) R

theorem congested_valid (hR : R.Valid) : (congested R).Valid := by
  have hfold : ∀ l : List ℕ, ∀ R : Region, R.Valid →
      (l.foldl (fun R _ => R.publishReclaim {}) R).Valid := by
    intro l
    induction l with
    | nil => exact fun R hR => hR
    | cons n rest ih => exact fun R hR => ih _ (hR.publishReclaim {})
  exact hfold (List.range 8) R hR

/-- Two frames on the RX ring of CAN, the second of another epoch, and no
room for its reclaim. -/
def congestedRegion : Region :=
  offering (congested (Linux.formatRegion 1 1)) [plainDescriptor 0 1, plainDescriptor 1 2]

theorem congestedRegion_valid : congestedRegion.Valid :=
  offering_valid (congested_valid (Linux.formatRegion_valid 1 1)) _

/-- A frame of another epoch on the RX ring of CAN, and a damaged header
on the reclaim ring. -/
def strayRegion : Region :=
  let R := offering (Linux.formatRegion 1 1) [plainDescriptor 2 2]
  { R with reclaimRing := { R.reclaimRing with header := { R.reclaimRing.header with magic := 0 } } }

/-- The event task has queued the first frame and frozen the second. -/
def congestedContext : TasksContext :=
  (Operation.eventTask .periodic).run .defaultOps (fun _ => 0)
    (rtosTasksContextInit ⟨true, congestedRegion, 0⟩ 0)

set_option maxRecDepth 100000 in
/-- A frame queued and another frozen. -/
theorem frame_references_partition_congested :
    queuedIds congestedContext = [0] ∧ pendingIds congestedContext = [1] ∧
      referencedIds congestedContext =
        { id | id ∈ queuedIds congestedContext } ∪ { id | id ∈ pendingIds congestedContext } ∧
      (queuedIds congestedContext).Disjoint (pendingIds congestedContext) ∧
      (queuedIds congestedContext).Nodup ∧ (pendingIds congestedContext).Nodup ∧
      congestedContext.host.pendingReclaims.length ≤ 64 ∧
      congestedContext.host.history.reclaimFulls = 0 ∧
      congestedContext.host.history.orphans = 0 :=
  ⟨by decide +kernel, by decide +kernel,
    frame_references_partition Platform.defaultOps_succeeds
      (.operation (.init rfl congestedRegion_valid 0) (.eventTask .periodic))⟩

end Rtos

end PutGateway
