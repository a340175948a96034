import PutGateway.Rtos.Frozen
import PutGateway.Rtos.Publication
/-!
# Freezing within a call

A reclaim that meets a full reclaim ring is frozen, and nothing else
moves until it has been written. The sink that freezes it is called from
the loops of the router, though, which spend the rest of their budget
regardless. What a loop does with its budget is worked out here item by
item, and with it when a call stops at what it has frozen.
-/

namespace PutGateway

namespace Rtos

variable {P : Platform} {K : Clock} {R : Region} {L : Ledger} {held : List Holding} {t t' : Tasks}
  {x : QueueItem} {s c c' : TasksContext}

/-! ## What becomes of an item -/

/-- An item has been sent on a TX ring. -/
structure Sends (t t' : Tasks) (i : Fin 6) (ticks : ℕ) : Prop where
  pending : t'.pendingReclaims = t.pendingReclaims
  ticks : t'.ticks = t.ticks + ticks
  reclaim : reclaimRoom t'.ipc.region = reclaimRoom t.ipc.region
  tx : freeTx t' = Function.update (freeTx t) i (freeTx t i - 1)

/-- An item has been given up: its reclaim is written, or frozen where
the ring is full. -/
structure GivesUp (t t' : Tasks) (ticks : ℕ) : Prop where
  written : 0 < reclaimRoom t.ipc.region → t'.pendingReclaims = t.pendingReclaims ∧
    t'.ticks = t.ticks + ticks ∧ reclaimRoom t'.ipc.region + 1 = reclaimRoom t.ipc.region ∧
    freeTx t' = freeTx t
  frozen : reclaimRoom t.ipc.region = 0 → t'.pendingReclaims ≠ []

theorem freeTx_of_view (h : t'.ipc.region.view = t.ipc.region.view) : freeTx t' = freeTx t := by
  funext i
  unfold freeTx
  rw [h]

theorem reclaimRoom_of_view (h : t'.ipc.region.view = t.ipc.region.view) :
    reclaimRoom t'.ipc.region = reclaimRoom t.ipc.region := by
  unfold reclaimRoom
  rw [h]

/-- What was given up after a step that moved nothing. -/
theorem GivesUp.of_view {t₀ : Tasks} {ticks ticks₀ : ℕ} (h : GivesUp t t' ticks)
    (hview : t.ipc.region.view = t₀.ipc.region.view) (hpending : t.pendingReclaims = t₀.pendingReclaims)
    (hticks : t.ticks = t₀.ticks + ticks₀) : GivesUp t₀ t' (ticks₀ + ticks) := by
  have hroom := reclaimRoom_of_view hview
  refine ⟨fun hfree => ?_, fun hfull => h.frozen (hroom.trans hfull)⟩
  obtain ⟨hp, ht, hr, hx⟩ := h.written (hroom ▸ hfree)
  refine ⟨hp.trans hpending, ?_, hr.trans hroom, hx.trans (freeTx_of_view hview)⟩
  omega

/-- The descriptor made for an item that is held is within bounds. -/
theorem Follows.txBounds (h : Follows P R L (.item x :: held) t) {i : Fin 6}
    (htarget : x.targetInterface = interfaceOfIndex i) (nowMs : UInt32) :
    ∃ f d, frameIndex? x.frameId = some f ∧ (t.frameReferences f).inUse = true ∧
      (t.frameReferences f).descriptor = d ∧
      validateDescriptorBounds (fillTxDescriptor d (txOutput x nowMs)) = .ok := by
  obtain ⟨f, d, hid, href, hof⟩ := h.books.held _ List.mem_cons_self
  obtain ⟨hinUse, hd⟩ := FrameReference.descriptor?_eq_some.mp href
  obtain ⟨hdid, k, hgood⟩ := h.books.references f d href
  have hitem : x.Of d := hof
  exact ⟨f, d, frameIndex?_eq_some.mpr hid, hinUse, hd,
    hitem.txBounds hgood.bounds (Eq.trans hid hdid.symm) htarget nowMs⟩

/-- **The TX sink**, with platform calls that succeed, sends an item whose
ring has room, and leaves everything on any other. -/
theorem txSink_exact (hP : P.Succeeds) (h : Follows P R L (.item x :: held) t) (nowMs : UInt32) :
    let r := rtosTasksTxSink P (txOutput x nowMs) t
    (∃ i, x.targetInterface = interfaceOfIndex i ∧ 0 < freeTx t i ∧ r.1 = .ok ∧
        Sends t r.2 i 0) ∨
      ((∀ i, x.targetInterface = interfaceOfIndex i → freeTx t i = 0) ∧ r.1 ≠ .ok ∧
        r.2.ipc.region.view = t.ipc.region.view ∧ r.2.pendingReclaims = t.pendingReclaims ∧
        r.2.ticks = t.ticks) := by
  cases htarget : interfaceIndex? x.targetInterface with
  | none =>
    have hno : ∀ i, x.targetInterface ≠ interfaceOfIndex i := by
      intro i heq
      rw [heq, interfaceIndex?_interfaceOfIndex] at htarget
      cases htarget
    have hready : ∀ i, ¬ TxReady t x i := fun i hready => hno i hready.target
    obtain ⟨f, d, hid, href, -⟩ := h.books.held _ List.mem_cons_self
    obtain ⟨hinUse, hd⟩ := FrameReference.descriptor?_eq_some.mp href
    have hf : frameIndex? (txOutput x nowMs).frameId = some f := frameIndex?_eq_some.mpr hid
    obtain ⟨hres, hipc, -⟩ := txSink_unready (P := P) hready nowMs
    refine .inr ⟨fun i heq => absurd heq (hno i), hres, by rw [hipc], ?_⟩
    rw [rtosTasksTxSink_of_inUse rfl hf hinUse] at hres ⊢
    simp only at hres ⊢
    split at hres
    · exact absurd rfl hres
    · next hne =>
      rw [if_neg hne]
      exact ⟨rfl, rfl⟩
  | some i =>
    have hinterface := interfaceIndex?_eq_some.mp htarget
    obtain ⟨f, d, hf, hinUse, hd, hbounds⟩ := h.txBounds hinterface nowMs
    have hf' : frameIndex? (txOutput x nowMs).frameId = some f := hf
    have hsink := rtosTasksTxSink_of_inUse (P := P) rfl hf' hinUse
    have hdesc : (fillTxDescriptor d (txOutput x nowMs)).targetInterface = UInt8.ofNat i := by
      rw [← toUInt8_interfaceOfIndex, ← hinterface]
      rfl
    have hends := rtosShmIpcEnqueueTxDescriptor_succeeds hP h.initialized h.valid hdesc hbounds
    have hid : (txOutput x nowMs).targetInterface = interfaceOfIndex i := hinterface
    rw [hd, hid] at hsink
    simp only at hends hsink ⊢
    rw [hsink]
    generalize rtosShmIpcEnqueueTxDescriptor P t.ipc (interfaceOfIndex i)
      (fillTxDescriptor d (txOutput x nowMs)) = r at hends ⊢
    rcases hends with ⟨hfull, hres, hbecomes⟩ | ⟨hroom, hres, hbecomes⟩
    · -- the ring is full
      have hne : r.1 ≠ .ok := by simp [hres]
      rw [if_neg hne]
      refine .inr ⟨fun j heq => ?_, hne, hbecomes.view, rfl, rfl⟩
      have hj : j = i := Option.some.inj
        ((interfaceIndex?_eq_some.mpr heq).symm.trans htarget)
      subst hj
      unfold freeTx
      omega
    · -- the ring has room
      rw [if_pos hres]
      have hview : (clearFrameReference
          { t with
            ipc := r.2
            statistics := { t.statistics with txEnqueueCount := t.statistics.txEnqueueCount + 1 }
            monitor := rtosMonitorRecordLatency t.monitor (txOutput x nowMs).priority
              (txOutput x nowMs).latencyMs } (txOutput x nowMs).frameId).ipc = r.2 :=
        clearFrameReference_ipc
      obtain ⟨references, hclear⟩ := clearFrameReference_eq
          { t with
            ipc := r.2
            statistics := { t.statistics with txEnqueueCount := t.statistics.txEnqueueCount + 1 }
            monitor := rtosMonitorRecordLatency t.monitor (txOutput x nowMs).priority
              (txOutput x nowMs).latencyMs } (txOutput x nowMs).frameId
      have hqueues := hbecomes.view
      refine .inl ⟨i, hinterface, by unfold freeTx; omega, rfl, ?_, ?_, ?_, ?_⟩
      · rw [hclear]
      · rw [hclear]
        rfl
      · unfold reclaimRoom
        rw [hview, hqueues]
        rfl
      · funext j
        unfold freeTx
        rw [hview, hqueues, Queues.setTx_tx]
        by_cases hj : j = i
        · subst hj
          rw [if_pos rfl, Function.update_self, List.length_append, List.length_singleton]
          omega
        · rw [if_neg hj, Function.update_of_ne hj]

/-- **The reclaim sink**, with platform calls that succeed and nothing
frozen, gives a held item up. -/
theorem reclaimSink_exact (hP : P.Succeeds) (h : Follows P R L (.item x :: held) t)
    (hnil : t.pendingReclaims = []) (nowMs : UInt32) (reason : ReclaimReason) :
    let r := rtosTasksReclaimSink P K (reclaimItemOutput x nowMs reason) t
    r.1 = .ok ∧ GivesUp t r.2 0 := by
  obtain ⟨f, d, hid, href, -⟩ := h.books.held _ List.mem_cons_self
  obtain ⟨hinUse, hd⟩ := FrameReference.descriptor?_eq_some.mp href
  obtain ⟨-, i, hgood⟩ := h.books.references f d href
  have hf : frameIndex? (reclaimItemOutput x nowMs reason).frameId = some f :=
    frameIndex?_eq_some.mpr hid
  have hsource : isInterfaceValid d.sourceInterface.toUInt32.toUInt8 = true := by
    simpa using hgood.interfaces.1
  have htarget : isInterfaceValid d.targetInterface.toUInt32.toUInt8 = true := by
    simpa using hgood.interfaces.2
  have hframe : (reclaimItemOutput x nowMs reason).frameId < 64 := frameIndex?_lt hf
  have hends : (8 ≤ t.ipc.region.view.reclaim.length ∧
      (Rtos.reclaimFrame P t (withRxMetadata (reclaimItemOutput x nowMs reason) d)).1 =
        .ipcQueueFull) ∨
      (t.ipc.region.view.reclaim.length < 8 ∧
        (Rtos.reclaimFrame P t (withRxMetadata (reclaimItemOutput x nowMs reason) d)).1 = .ok ∧
        ∃ r, (Rtos.reclaimFrame P t
          (withRxMetadata (reclaimItemOutput x nowMs reason) d)).2.ipc.region.view =
            t.ipc.region.view.setReclaim (t.ipc.region.view.reclaim ++ [r])) := by
    rcases rtosShmIpcReclaimFrame_succeeds hP h.initialized h.valid hframe hsource htarget
      reason d.epoch d.flags with ⟨hfull, hres, -⟩ | ⟨hroom, hres, hbecomes⟩
    · exact .inl ⟨hfull, hres⟩
    · exact .inr ⟨hroom, hres, _, hbecomes.view⟩
  have hpending : (Rtos.reclaimFrame P t
      (withRxMetadata (reclaimItemOutput x nowMs reason) d)).2.pendingReclaims = [] := hnil
  have hticks : (Rtos.reclaimFrame P t
      (withRxMetadata (reclaimItemOutput x nowMs reason) d)).2.ticks = t.ticks := rfl
  have hkind : (reclaimItemOutput x nowMs reason).kind = .reclaim := rfl
  unfold rtosTasksReclaimSink
  rw [if_neg (not_not.mpr hkind)]
  simp only [hf, hinUse, hd, Bool.not_true, Bool.false_eq_true, if_false]
  generalize Rtos.reclaimFrame P t (withRxMetadata (reclaimItemOutput x nowMs reason) d) = r
    at hends hpending hticks ⊢
  rcases hends with ⟨hfull, hres⟩ | ⟨hroom, hres, d', hview⟩
  · -- the ring is full, and the list of frozen reclaims is empty
    rw [if_neg (by rw [hres]; simp), if_pos hres]
    unfold storePendingReclaim pendingReclaimExists pendingReclaimCapacity
    simp only [hpending]
    refine ⟨rfl, fun hfree => ?_, fun _ => by simp [recordReclaimBlocked, tasksNow]⟩
    unfold reclaimRoom at hfree
    omega
  · -- the reclaim is written
    rw [if_pos hres]
    obtain ⟨references, hclear⟩ := clearFrameReference_eq
        { r.2 with
          statistics := { r.2.statistics with
            reclaimEnqueueCount := r.2.statistics.reclaimEnqueueCount + 1 } }
        (reclaimItemOutput x nowMs reason).frameId
    rw [hclear]
    refine ⟨rfl, fun _ => ⟨hpending.trans hnil.symm, hticks, ?_, ?_⟩, fun hfull => ?_⟩
    · unfold reclaimRoom
      simp only
      rw [hview, Queues.setReclaim_reclaim, List.length_append, List.length_singleton]
      omega
    · funext j
      unfold freeTx
      simp only
      rw [hview]
      rfl
    · unfold reclaimRoom at hfull
      omega

/-- The router gives a held item up. -/
theorem reclaimItem_exact (hP : P.Succeeds) (h : Follows P R L (.item x :: held) s.host)
    (hnil : s.host.pendingReclaims = []) (reason : ReclaimReason) :
    let r := reclaimItem (tasksSinks P K) s x reason
    r.1 = .ok ∧ GivesUp s.host r.2.2.host 1 := by
  have htick : Follows P R L (.item x :: held) (tasksNow K s.host).2 := h.congr rfl rfl rfl rfl
  obtain ⟨hres, hgives⟩ := reclaimSink_exact (K := K) hP htick hnil (tasksNow K s.host).1 reason
  exact ⟨hres, hgives.of_view rfl rfl rfl⟩

/-- The retries of an item: it is sent by the first, or given up after the
last. -/
theorem transmit_exact (hP : P.Succeeds) (h : Follows P R L (.item x :: held) s.host)
    (hnil : s.host.pendingReclaims = []) (nowMs : UInt32) (retries : ℕ) :
    let r := transmit (tasksSinks P K) nowMs retries x s
    r.1 = .ok ∧
      ((∃ i, x.targetInterface = interfaceOfIndex i ∧ 0 < freeTx s.host i ∧
          Sends s.host r.2.2.host i 0) ∨
        ((∀ i, x.targetInterface = interfaceOfIndex i → freeTx s.host i = 0) ∧
          GivesUp s.host r.2.2.host 1)) := by
  induction retries generalizing s x with
  | zero =>
    have hkept : (rtosTasksTxSink P (txOutput x nowMs) s.host).1 ≠ .ok →
        Follows P R L (.item x :: held) (rtosTasksTxSink P (txOutput x nowMs) s.host).2 :=
      (Follows.txSink h).2
    unfold transmit
    simp only [emitTx_tasks]
    rcases txSink_exact hP h nowMs with
      ⟨i, htarget, hfree, hres, hsends⟩ | ⟨hnone, hres, hview, hpending, hticks⟩
    · rw [if_pos hres]
      exact ⟨rfl, .inl ⟨i, htarget, hfree, hsends⟩⟩
    · rw [if_neg hres]
      obtain ⟨hok, hgives⟩ := reclaimItem_exact (K := K)
        (s := { s with host := (rtosTasksTxSink P (txOutput x nowMs) s.host).2 }) hP (hkept hres)
        (hpending.trans hnil) .queueFull
      exact ⟨hok, .inr ⟨hnone, hgives.of_view hview hpending hticks⟩⟩
  | succ retries ih =>
    have hkept : (rtosTasksTxSink P (txOutput x nowMs) s.host).1 ≠ .ok →
        Follows P R L (.item x :: held) (rtosTasksTxSink P (txOutput x nowMs) s.host).2 :=
      (Follows.txSink h).2
    unfold transmit
    simp only [emitTx_tasks]
    rcases txSink_exact hP h nowMs with
      ⟨i, htarget, hfree, hres, hsends⟩ | ⟨hnone, hres, hview, hpending, hticks⟩
    · rw [if_pos hres]
      exact ⟨rfl, .inl ⟨i, htarget, hfree, hsends⟩⟩
    · rw [if_neg hres]
      -- the ring is as full at the next attempt
      have hretry : Follows P R L (.item { x with retryCount := x.retryCount + 1 } :: held)
          (rtosTasksTxSink P (txOutput x nowMs) s.host).2 :=
        (hkept hres).move (.retry rfl) (fun _ h => h) (hkept hres).initialized
          (hkept hres).valid.becomes_self rfl
      have hfree := freeTx_of_view hview
      obtain ⟨hok, ⟨i, htarget, hroom, -⟩ | ⟨-, hgives⟩⟩ := ih
        (x := { x with retryCount := x.retryCount + 1 })
        (s := { s with
          host := (rtosTasksTxSink P (txOutput x nowMs) s.host).2
          router := { s.router with
            statistics := { s.router.statistics with
              txRetryCount := s.router.statistics.txRetryCount + 1 } } })
        hretry (hpending.trans hnil)
      · exfalso
        have hzero := hnone i htarget
        simp only at hroom
        rw [hfree, hzero] at hroom
        exact Nat.lt_irrefl 0 hroom
      · exact ⟨hok, .inr ⟨hnone, hgives.of_view hview hpending hticks⟩⟩

/-! ## The items a scheduler gives up -/

/-- The ring the scheduler sends an item on, with these free entries: none
where it gives the item up. -/
def sentTo? (table : RouteTable) (nowMs : UInt32) (free : Fin 6 → ℕ) (x : QueueItem) :
    Option (Fin 6) :=
  if rtosRouterTtlIsExpired nowMs x.receiveTimeMs x.ttl then none
  else
    let target? : Option PutShmInterface :=
      if x.routeEpochSeen ≠ table.activeRouteEpoch then
        (rtosRouterRouteTableLookup table x.destinationCid.b0).toOption
      else some x.targetInterface
    match target?.bind interfaceIndex? with
    | none => none
    | some i => if 0 < free i then some i else none

/-- How many of the next `n` items the scheduler gives up: expired, without
a route, or for a full ring. -/
def givenUp (K : Clock) (table : RouteTable) : ℕ → PriorityQueue → ℕ → (Fin 6 → ℕ) → ℕ
  | 0, _, _, _ => 0
  | n + 1, queue, ticks, free =>
    match rtosPriorityQueueDequeue queue with
    | (_, none, _) => 0
    | (_, some x, queue) =>
      match sentTo? table (K ticks) free x with
      | some i => givenUp K table n queue (ticks + 1) (Function.update free i (free i - 1))
      | none => givenUp K table n queue (ticks + 2) free + 1

/-- **An item that is scheduled**, with platform calls that succeed and
nothing frozen, is sent or given up as `sentTo?` says. -/
theorem scheduleItem_exact (hP : P.Succeeds) (h : Follows P R L (.item x :: held) s.host)
    (hnil : s.host.pendingReclaims = []) :
    let r := scheduleItem (tasksSinks P K) s x
    r.1 = .ok ∧
      match sentTo? s.router.routeTable (K s.host.ticks) (freeTx s.host) x with
      | some i => Sends s.host r.2.2.host i 1
      | none => GivesUp s.host r.2.2.host 2 := by
  have htick : Follows P R L (.item x :: held) (tasksNow K s.host).2 := h.congr rfl rfl rfl rfl
  have hgive : ∀ reason, (reclaimItem (tasksSinks P K) ⟨s.router, (tasksNow K s.host).2⟩ x reason).1 =
      .ok ∧ GivesUp s.host
        (reclaimItem (tasksSinks P K) ⟨s.router, (tasksNow K s.host).2⟩ x reason).2.2.host 2 := by
    intro reason
    obtain ⟨hok, hgives⟩ := reclaimItem_exact (K := K) (s := ⟨s.router, (tasksNow K s.host).2⟩) hP
      htick hnil reason
    exact ⟨hok, hgives.of_view rfl rfl rfl⟩
  -- the transmission of the item, with the target it has by then
  have hsend : ∀ (y : QueueItem) (n : ℕ),
      Follows P R L (.item y :: held) (tasksNow K s.host).2 →
      let r := transmit (tasksSinks P K) (K s.host.ticks) n y ⟨s.router, (tasksNow K s.host).2⟩
      r.1 = .ok ∧
        match (match interfaceIndex? y.targetInterface with
          | none => none
          | some i => if 0 < freeTx s.host i then some i else none : Option (Fin 6)) with
        | some i => Sends s.host r.2.2.host i 1
        | none => GivesUp s.host r.2.2.host 2 := by
    intro y n hy
    obtain ⟨hok, ⟨i, htarget, hfree, hsends⟩ | ⟨hnone, hgives⟩⟩ := transmit_exact (K := K)
      (s := ⟨s.router, (tasksNow K s.host).2⟩) hP hy hnil (K s.host.ticks) n
    · have hfree' : 0 < freeTx s.host i := hfree
      rw [htarget, interfaceIndex?_interfaceOfIndex]
      simp only
      rw [if_pos hfree']
      exact ⟨hok, hsends.pending, hsends.ticks, hsends.reclaim, hsends.tx⟩
    · have hgives' : GivesUp s.host (transmit (tasksSinks P K) (K s.host.ticks) n y
          ⟨s.router, (tasksNow K s.host).2⟩).2.2.host 2 := hgives.of_view rfl rfl rfl
      refine ⟨hok, ?_⟩
      cases htarget : interfaceIndex? y.targetInterface with
      | none => exact hgives'
      | some i =>
        have hzero : freeTx s.host i = 0 := hnone i (interfaceIndex?_eq_some.mp htarget)
        simp only
        rw [if_neg (by omega)]
        exact hgives'
  unfold Rtos.scheduleItem sentTo?
  have hnow : (tasksSinks P K).routerNow s = (K s.host.ticks, ⟨s.router, (tasksNow K s.host).2⟩) := rfl
  rw [hnow]
  simp only
  split
  · exact hgive .ttlExpired
  split
  · -- the route table has changed since the item was queued
    cases hlookup : rtosRouterRouteTableLookup s.router.routeTable x.destinationCid.b0 with
    | error e => exact hgive .noRoute
    | ok target =>
      refine hsend _ _ ?_
      exact htick.move (.reroute rfl) (fun _ h => h) htick.initialized htick.valid.becomes_self rfl
  · exact hsend x _ htick

/-- **A step of the scheduler** that finds an item. -/
theorem scheduleOnce_exact (hP : P.Succeeds) (h : ContextFollows P R L c)
    (hnil : c.host.pendingReclaims = []) {queue : PriorityQueue}
    (hperm : (x :: queue.items).Perm c.router.queue.items)
    (heq : rtosRouterScheduleOnce (tasksSinks P K) c =
      let r := scheduleItem (tasksSinks P K) { c with router := { c.router with queue := queue } } x
      (r.1, some r.2.1, r.2.2)) :
    let r := rtosRouterScheduleOnce (tasksSinks P K) c
    r.1 = .ok ∧ r.2.2.router.queue = queue ∧ r.2.2.router.routeTable = c.router.routeTable ∧
      ContextFollows P R L r.2.2 ∧
      match sentTo? c.router.routeTable (K c.host.ticks) (freeTx c.host) x with
      | some i => Sends c.host r.2.2.host i 1
      | none => GivesUp c.host r.2.2.host 2 := by
  have hfollows : ContextFollows P R L (rtosRouterScheduleOnce (tasksSinks P K) c).2.2 :=
    tasksSinks_keep.scheduleOnce h
  have hrules := (RouterContext.SameRules.refl c.router).scheduleOnce (S := tasksSinks P K)
  have hitem : Follows P R L (.item x :: queue.items.map .item) c.host := by
    have hperm' : (c.router.queue.items.map Holding.item).Perm
        (.item x :: queue.items.map Holding.item) := (hperm.map Holding.item).symm
    exact h.rearrange hperm'
  have hkept := (tasksSinks_keep (P := P) (K := K) (R := R) (L := L)).scheduleItem
    (s := { c with router := { c.router with queue := queue } }) (q := queue.items) hitem
  obtain ⟨hok, hends⟩ := scheduleItem_exact (K := K)
    (s := { c with router := { c.router with queue := queue } }) hP hitem hnil
  rw [heq] at hfollows hrules ⊢
  exact ⟨hok, hkept.2, hrules.routeTable, hfollows, hends⟩

/-! ## Resting -/

/-- Nothing moves: no RX descriptor is taken, no item leaves the queue, and
no more is frozen. -/
structure Rests (c c' : TasksContext) : Prop where
  rx : c'.host.ipc.region.view.rx = c.host.ipc.region.view.rx
  queue : c'.router.queue.items = c.router.queue.items
  pending : c'.host.pendingReclaims.length ≤ c.host.pendingReclaims.length

theorem Rests.refl (c : TasksContext) : Rests c c := ⟨rfl, rfl, le_refl _⟩

/-- Of the contexts a call goes through: from one with something frozen on
nothing moves, until all that is frozen has been written. -/
def StaysFrozen (f : ℕ → TasksContext) : Prop :=
  ∀ k m, k ≤ m → (∀ j, k ≤ j → j ≤ m → (f j).host.pendingReclaims ≠ []) → Rests (f k) (f m)

variable {f g : ℕ → TasksContext}

/-- A context with nothing frozen at the start makes no difference. -/
theorem staysFrozen_succ (h : (f 0).host.pendingReclaims = []) (hnext : ∀ k, f (k + 1) = g k) :
    StaysFrozen f ↔ StaysFrozen g := by
  constructor
  · intro hf k m hkm hfrozen
    have hrests := hf (k + 1) (m + 1) (by omega) fun j hj hj' => by
      obtain ⟨i, rfl⟩ : ∃ i, j = i + 1 := ⟨j - 1, by omega⟩
      rw [hnext]
      exact hfrozen i (by omega) (by omega)
    rwa [hnext, hnext] at hrests
  · intro hg k m hkm hfrozen
    cases k with
    | zero => exact absurd h (hfrozen 0 (le_refl _) hkm)
    | succ k =>
      obtain ⟨i, rfl⟩ : ∃ i, m = i + 1 := ⟨m - 1, by omega⟩
      rw [hnext, hnext]
      refine hg k i (by omega) fun j hj hj' => ?_
      rw [← hnext]
      exact hfrozen (j + 1) (by omega) (by omega)

/-- A loop that has frozen something rests if and only if its budget or
the queue ends there. -/
theorem staysFrozen_frozen {n : ℕ} (hfrozen : (g 0).host.pendingReclaims ≠ [])
    (hends : n = 0 ∨ (g 0).router.queue.items = [] → ∀ k, g k = g 0)
    (hgoes : n ≠ 0 → (g 0).router.queue.items ≠ [] → (g 1).host.pendingReclaims ≠ [] ∧
      (g 1).router.queue.items.length < (g 0).router.queue.items.length) :
    StaysFrozen g ↔ min n (g 0).router.queue.items.length = 0 := by
  by_cases hstop : n = 0 ∨ (g 0).router.queue.items = []
  · refine iff_of_true (fun k m _ _ => ?_) ?_
    · rw [hends hstop k, hends hstop m]
      exact .refl _
    · rcases hstop with rfl | hnil
      · exact Nat.zero_min _
      · rw [hnil]
        exact Nat.min_zero _
  · obtain ⟨hn, hqueue⟩ := not_or.mp hstop
    obtain ⟨hfrozen', htaken⟩ := hgoes hn hqueue
    have hlength := List.length_pos_iff.mpr hqueue
    refine iff_of_false (fun hstays => ?_) (by omega)
    have hrests := hstays 0 1 (by omega) fun j _ hj => by
      rcases Nat.le_one_iff_eq_zero_or_eq_one.mp hj with rfl | rfl
      · exact hfrozen
      · exact hfrozen'
    rw [hrests.queue] at htaken
    exact Nat.lt_irrefl _ htaken

/-! ## The loops of the router -/

/-- What is frozen stays frozen in the sinks. -/
theorem frozen_keep :
    SinksKeep (tasksSinks P K) (fun _ t => t.pendingReclaims ≠ []) where
  perm _ h := h
  now h := h
  retry h := h
  reroute h := h
  sent {x q t nowMs} h _ := by
    have hpending := rtosTasksTxSink_pending (P := P) (txOutput x nowMs) t
    exact fun hnil => h (hpending.symm.trans hnil)
  unsent {x q t nowMs} h _ := by
    have hpending := rtosTasksTxSink_pending (P := P) (txOutput x nowMs) t
    exact fun hnil => h (hpending.symm.trans hnil)
  reclaimed {x q t nowMs reason} h := by
    have hprefix := rtosTasksReclaimSink_pending (P := P) (K := K)
      (reclaimItemOutput x nowMs reason) t
    intro hnil
    rw [RouterSinks.reclaim] at hnil
    exact h (List.prefix_nil.mp (hnil ▸ hprefix))

/-- A step of the scheduler takes an item off a queue that has one. -/
theorem scheduleOnce_takes (h : c.router.queue.items ≠ []) :
    (rtosRouterScheduleOnce (tasksSinks P K) c).2.2.router.queue.items.length <
      c.router.queue.items.length := by
  have hany : SinksKeep (tasksSinks P K) (fun _ _ => True) := by
    constructor
    all_goals intros; trivial
  rcases rtosRouterScheduleOnce_cases (tasksSinks P K) c with ⟨-, hnil⟩ | ⟨x, queue, hperm, -, heq⟩
  · exact absurd hnil h
  rw [heq]
  have hqueue := (hany.scheduleItem (s := { c with router := { c.router with queue := queue } })
    (q := queue.items) (x := x) trivial).2
  have hlength := hperm.length_eq
  simp only at hqueue hlength ⊢
  rw [hqueue, ← hlength]
  exact Nat.lt_succ_self _

/-- On an empty queue the scheduler does nothing. -/
theorem drainLoop_nil (h : c.router.queue.items = []) (n : ℕ) (k : UInt32) :
    (drainLoop (tasksSinks P K) n k c).2 = c := by
  cases n with
  | zero => rfl
  | succ n =>
    rcases rtosRouterScheduleOnce_cases (tasksSinks P K) c with ⟨heq, -⟩ | ⟨x, queue, hperm, -, -⟩
    · unfold drainLoop
      rw [heq]
      rfl
    · rw [h] at hperm
      exact absurd (List.Perm.length_eq hperm) (by simp)

/-- **When a drain stops at what it has frozen**, with platform calls that
succeed and nothing frozen before: where the items it gives up short of
its last fit into the reclaim ring. -/
theorem drain_staysFrozen_iff (hP : P.Succeeds) (h : ContextFollows P R L c)
    (hnil : c.host.pendingReclaims = []) (n : ℕ) (start : UInt32) :
    StaysFrozen (fun k => (drainLoop (tasksSinks P K) (min k n) start c).2) ↔
      givenUp K c.router.routeTable (min n c.router.queue.items.length - 1) c.router.queue
        c.host.ticks (freeTx c.host) ≤ reclaimRoom c.host.ipc.region := by
  induction n generalizing c start with
  | zero =>
    rw [Nat.zero_min]
    refine iff_of_true (fun k m hkm hfrozen => ?_) (Nat.zero_le _)
    have hfirst := hfrozen k (le_refl _) hkm
    simp only [Nat.min_zero, drainLoop] at hfirst
    exact absurd hnil hfirst
  | succ n ih =>
    rcases rtosRouterScheduleOnce_cases (tasksSinks P K) c with
      ⟨-, hempty⟩ | ⟨x, queue, hperm, hqueue, heq⟩
    · -- the queue is empty
      rw [hempty, List.length_nil, Nat.min_zero]
      refine iff_of_true (fun k m _ hfrozen => ?_) (Nat.zero_le _)
      have hfirst := hfrozen k (le_refl _) (by omega)
      simp only [drainLoop_nil hempty] at hfirst
      exact absurd hnil hfirst
    obtain ⟨hok, hrest, htable, hfollows, hends⟩ := scheduleOnce_exact (K := K) hP h hnil hperm heq
    have hlength : c.router.queue.items.length = queue.items.length + 1 := hperm.length_eq.symm
    have hunfold : ∀ k, (drainLoop (tasksSinks P K) (min (k + 1) (n + 1)) start c).2 =
        (drainLoop (tasksSinks P K) (min k n) (start + 1)
          (rtosRouterScheduleOnce (tasksSinks P K) c).2.2).2 := by
      intro k
      rw [Nat.succ_min_succ, drainLoop, if_neg (not_not.mpr hok)]
    have hstart : (drainLoop (tasksSinks P K) (min 0 (n + 1)) start c).2.host.pendingReclaims = [] := by
      rw [Nat.zero_min]
      exact hnil
    rw [staysFrozen_succ hstart hunfold, hlength, Nat.succ_min_succ, Nat.succ_sub_one]
    have hcount : givenUp K c.router.routeTable (min n queue.items.length) c.router.queue
        c.host.ticks (freeTx c.host) =
        if min n queue.items.length = 0 then 0
        else match sentTo? c.router.routeTable (K c.host.ticks) (freeTx c.host) x with
          | some i => givenUp K c.router.routeTable (min n queue.items.length - 1) queue
              (c.host.ticks + 1) (Function.update (freeTx c.host) i (freeTx c.host i - 1))
          | none => givenUp K c.router.routeTable (min n queue.items.length - 1) queue
              (c.host.ticks + 2) (freeTx c.host) + 1 := by
      cases hmin : min n queue.items.length with
      | zero => rfl
      | succ m =>
        rw [givenUp, hqueue]
        rfl
    rw [hcount]
    generalize rtosRouterScheduleOnce (tasksSinks P K) c = r at hok hrest htable hfollows hends
    cases hsent : sentTo? c.router.routeTable (K c.host.ticks) (freeTx c.host) x with
    | some i =>
      -- the item is sent
      rw [hsent] at hends
      have hends : Sends c.host r.2.2.host i 1 := hends
      rw [ih hfollows (hends.pending.trans hnil) (start + 1), htable, hrest, hends.ticks, hends.tx,
        hends.reclaim]
      by_cases hzero : min n queue.items.length = 0
      · rw [hzero, if_pos rfl]
        exact iff_of_true (Nat.zero_le _) (Nat.zero_le _)
      · rw [if_neg hzero]
    | none =>
      rw [hsent] at hends
      have hends : GivesUp c.host r.2.2.host 2 := hends
      by_cases hroom : reclaimRoom c.host.ipc.region = 0
      · -- the item is given up, and frozen
        have hfrozen := hends.frozen hroom
        have hgoes := staysFrozen_frozen (n := n)
          (g := fun k => (drainLoop (tasksSinks P K) (min k n) (start + 1) r.2.2).2)
          (by rw [Nat.zero_min]; exact hfrozen) ?_ ?_
        · simp only [Nat.zero_min, drainLoop] at hgoes
          rw [hgoes, hrest, hroom]
          by_cases hzero : min n queue.items.length = 0
          · rw [if_pos hzero]
            exact iff_of_true hzero (le_refl _)
          · rw [if_neg hzero]
            exact iff_of_false hzero (by simp)
        · intro hstop k
          simp only [Nat.zero_min, drainLoop] at hstop ⊢
          rcases hstop with rfl | hempty
          · rw [Nat.min_zero]
            rfl
          · exact drainLoop_nil hempty _ _
        · intro hn hmore
          simp only [Nat.zero_min, drainLoop] at hmore ⊢
          have hone : min 1 n = 1 := by omega
          rw [hone, drainLoop]
          have hkept := (frozen_keep (P := P) (K := K)).scheduleOnce (s := r.2.2) hfrozen
          have htakes := scheduleOnce_takes (P := P) (K := K) hmore
          split
          · exact ⟨hkept, htakes⟩
          · exact ⟨hkept, htakes⟩
      · -- the item is given up, and its reclaim written
        obtain ⟨hpending, hticks, hspent, hfree⟩ := hends.written (by omega)
        rw [ih hfollows (hpending.trans hnil) (start + 1), htable, hrest, hticks, hfree]
        by_cases hzero : min n queue.items.length = 0
        · rw [hzero, if_pos rfl]
          exact iff_of_true (Nat.zero_le _) (Nat.zero_le _)
        · rw [if_neg hzero]
          simp only
          omega

/-- On an empty queue there is nothing to reclaim. -/
theorem reclaimQueuedLoop_nil (h : c.router.queue.items = []) (reason : ReclaimReason) (n : ℕ)
    (k : UInt32) : (reclaimQueuedLoop (tasksSinks P K) reason n k c).2 = c := by
  cases n with
  | zero => rfl
  | succ n =>
    rcases reclaimQueuedLoop_cases (tasksSinks P K) reason n k c with
      ⟨heq, -⟩ | ⟨x, queue, hperm, -, -⟩
    · rw [heq]
    · rw [h] at hperm
      exact absurd (List.Perm.length_eq hperm) (by simp)

/-- **When reclaiming the queue stops at what it has frozen**, with
platform calls that succeed and nothing frozen before: where all but the
last item it takes fit into the reclaim ring. -/
theorem reclaimQueued_staysFrozen_iff (hP : P.Succeeds) (h : ContextFollows P R L c)
    (hnil : c.host.pendingReclaims = []) (reason : ReclaimReason) (n : ℕ) (start : UInt32) :
    StaysFrozen (fun k => (reclaimQueuedLoop (tasksSinks P K) reason (min k n) start c).2) ↔
      min n c.router.queue.items.length ≤ reclaimRoom c.host.ipc.region + 1 := by
  induction n generalizing c start with
  | zero =>
    rw [Nat.zero_min]
    refine iff_of_true (fun k m hkm hfrozen => ?_) (Nat.zero_le _)
    have hfirst := hfrozen k (le_refl _) hkm
    simp only [Nat.min_zero, reclaimQueuedLoop] at hfirst
    exact absurd hnil hfirst
  | succ n ih =>
    rcases rtosPriorityQueueDequeue_cases c.router.queue with
      ⟨-, hempty⟩ | ⟨x, queue, hqueue, hperm⟩
    · -- the queue is empty
      rw [hempty, List.length_nil, Nat.min_zero]
      refine iff_of_true (fun k m hkm hfrozen => ?_) (Nat.zero_le _)
      have hfirst := hfrozen k (le_refl _) hkm
      simp only [reclaimQueuedLoop_nil hempty] at hfirst
      exact absurd hnil hfirst
    have hlength : c.router.queue.items.length = queue.items.length + 1 := hperm.length_eq.symm
    have hitem : Follows P R L (.item x :: queue.items.map .item) c.host := by
      have hperm' : (c.router.queue.items.map Holding.item).Perm
          (.item x :: queue.items.map Holding.item) := (hperm.map Holding.item).symm
      exact h.rearrange hperm'
    obtain ⟨hok, hends⟩ := reclaimItem_exact (K := K)
      (s := { c with router := { c.router with queue := queue } }) hP hitem hnil reason
    have hfollows := (tasksSinks_keep (P := P) (K := K) (R := R) (L := L)).reclaimItem
      (s := { c with router := { c.router with queue := queue } }) (q := queue.items) reason hitem
    have hrest := reclaimItem_queue (S := tasksSinks P K)
      { c with router := { c.router with queue := queue } } x reason
    have hunfold : ∀ k, (reclaimQueuedLoop (tasksSinks P K) reason (min (k + 1) (n + 1)) start c).2 =
        (reclaimQueuedLoop (tasksSinks P K) reason (min k n) (start + 1)
          (reclaimItem (tasksSinks P K) { c with router := { c.router with queue := queue } } x
            reason).2.2).2 := by
      intro k
      rw [Nat.succ_min_succ, reclaimQueuedLoop, hqueue]
      simp only
      rw [if_neg (not_not.mpr hok)]
    have hstart : (reclaimQueuedLoop (tasksSinks P K) reason (min 0 (n + 1)) start
        c).2.host.pendingReclaims = [] := by
      rw [Nat.zero_min]
      exact hnil
    rw [staysFrozen_succ hstart hunfold, hlength, Nat.succ_min_succ]
    generalize reclaimItem (tasksSinks P K) { c with router := { c.router with queue := queue } } x
      reason = r at hok hends hfollows hrest
    have hrest : r.2.2.router.queue = queue := hrest
    have hends : GivesUp c.host r.2.2.host 1 := hends
    have hcontext : ContextFollows P R L r.2.2 := by
      unfold ContextFollows
      rw [hrest]
      exact hfollows
    by_cases hroom : reclaimRoom c.host.ipc.region = 0
    · -- the item is frozen
      have hfrozen := hends.frozen hroom
      have hgoes := staysFrozen_frozen (n := n)
        (g := fun k => (reclaimQueuedLoop (tasksSinks P K) reason (min k n) (start + 1) r.2.2).2)
        (by rw [Nat.zero_min]; exact hfrozen) ?_ ?_
      · simp only [Nat.zero_min, reclaimQueuedLoop] at hgoes
        rw [hgoes, hrest, hroom]
        omega
      · intro hstop k
        simp only [Nat.zero_min, reclaimQueuedLoop] at hstop ⊢
        rcases hstop with rfl | hempty
        · rw [Nat.min_zero]
          rfl
        · exact reclaimQueuedLoop_nil hempty _ _ _
      · intro hn hmore
        simp only [Nat.zero_min, reclaimQueuedLoop] at hmore ⊢
        have hone : min 1 n = 1 := by omega
        rw [hone]
        rcases reclaimQueuedLoop_cases (tasksSinks P K) reason 0 (start + 1) r.2.2 with
          ⟨-, hnone⟩ | ⟨y, queue', hperm, -, heq⟩
        · exact absurd hnone hmore
        rw [heq]
        have hkept := (frozen_keep (P := P) (K := K)).reclaimItem
          (s := { r.2.2 with router := { r.2.2.router with queue := queue' } }) (x := y)
          (q := queue'.items) reason hfrozen
        have hqueue' := reclaimItem_queue (S := tasksSinks P K)
          { r.2.2 with router := { r.2.2.router with queue := queue' } } y reason
        have htaken := hperm.length_eq
        simp only [List.length_cons] at htaken hqueue' ⊢
        split
        · rw [hqueue']
          exact ⟨hkept, by omega⟩
        · simp only [reclaimQueuedLoop]
          rw [hqueue']
          exact ⟨hkept, by omega⟩
    · -- the reclaim is written
      obtain ⟨hpending, -, hspent, -⟩ := hends.written (by omega)
      rw [ih hcontext (hpending.trans hnil) (start + 1), hrest]
      omega

end Rtos

end PutGateway
