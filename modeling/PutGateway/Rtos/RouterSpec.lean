import PutGateway.Rtos.RouterCore
/-!
# What the router does with the frames it holds

The router moves frames between its queue and its sinks. For a predicate
`Held q h`, read as "the router holds the items `q` and the state behind
its sinks is `h`", `SinksKeep` says what the sinks have to do for each
item they are given, and the theorems here say what the operations of the
router then do: whatever holds of the queue before an operation holds of
it after, through every retry, eviction and drop.
-/

namespace PutGateway

namespace Rtos

variable {H : Type} {S : RouterSinks H}

/-! ## The sinks as functions -/

/-- The TX sink, where there is one. -/
def RouterSinks.tx (S : RouterSinks H) (output : RouteOutput) (h : H) : UnifiedError × H :=
  match S.txSink with
  | none => (.ok, h)
  | some sink => sink output h

/-- The reclaim sink, where there is one. -/
def RouterSinks.reclaim (S : RouterSinks H) (output : RouteOutput) (h : H) : UnifiedError × H :=
  match S.reclaimSink with
  | none => (.ok, h)
  | some sink => sink output h

theorem emitTx_eq (s : Hosted H) (output : RouteOutput) :
    emitTx S s output = ((S.tx output s.host).1, { s with host := (S.tx output s.host).2 }) := by
  unfold emitTx RouterSinks.tx
  cases S.txSink <;> rfl

theorem emitReclaim_eq (s : Hosted H) (output : RouteOutput) :
    emitReclaim S s output = ((S.reclaim output s.host).1,
      ⟨s.router.recordReclaimStat output.reclaimReason, (S.reclaim output s.host).2⟩) := by
  unfold emitReclaim RouterSinks.reclaim
  cases S.reclaimSink <;> rfl

/-- Reclaiming an item: read the time, hand the output to the sink. -/
theorem reclaimItem_host (s : Hosted H) (item : QueueItem) (reason : ReclaimReason) :
    (reclaimItem S s item reason).2.2.host =
      (S.reclaim (reclaimItemOutput item (S.now s.host).1 reason) (S.now s.host).2).2 := by
  simp only [reclaimItem, emitReclaim_eq, RouterSinks.routerNow]

theorem reclaimItem_queue (s : Hosted H) (item : QueueItem) (reason : ReclaimReason) :
    (reclaimItem S s item reason).2.2.router.queue = s.router.queue := by
  simp only [reclaimItem, emitReclaim_eq]
  rfl

theorem reclaimInput_host (s : Hosted H) (input : RouteInput) (reason : ReclaimReason) :
    (reclaimInput S s input reason).2.host =
      (S.reclaim (reclaimInputOutput input (S.now s.host).1 reason) (S.now s.host).2).2 := by
  simp only [reclaimInput, emitReclaim_eq, RouterSinks.routerNow]

theorem reclaimInput_queue (s : Hosted H) (input : RouteInput) (reason : ReclaimReason) :
    (reclaimInput S s input reason).2.router.queue = s.router.queue := by
  simp only [reclaimInput, emitReclaim_eq]
  rfl

/-! ## What a scheduler step does with its item -/

/-- What a scheduler step transmits of an item it has taken off the queue:
nothing where it has expired or has no route any more, else the item,
with its route looked up again where the table has changed. -/
def plannedItem (table : RouteTable) (nowMs : UInt32) (item : QueueItem) : Option QueueItem :=
  if rtosRouterTtlIsExpired nowMs item.receiveTimeMs item.ttl then none
  else if item.routeEpochSeen ≠ table.activeRouteEpoch then
    match rtosRouterRouteTableLookup table item.destinationCid.b0 with
    | .error _ => none
    | .ok targetInterface =>
      some
        { item with
          targetInterface := targetInterface
          routeEpochSeen := table.activeRouteEpoch }
  else some item

/-- An item that is taken off the queue is reclaimed or transmitted, as
planned. -/
theorem scheduleItem_cases (S : RouterSinks H) (s : Hosted H) (item : QueueItem) :
    (plannedItem s.router.routeTable (S.now s.host).1 item = none ∧ ∃ reason,
      scheduleItem S s item = reclaimItem S ⟨s.router, (S.now s.host).2⟩ item reason) ∨
    ∃ x, plannedItem s.router.routeTable (S.now s.host).1 item = some x ∧
      scheduleItem S s item = transmit S (S.now s.host).1
        (retryLimit x.priority - x.retryCount.toNat) x ⟨s.router, (S.now s.host).2⟩ := by
  by_cases hexpired : rtosRouterTtlIsExpired (S.now s.host).1 item.receiveTimeMs item.ttl = true
  · exact .inl ⟨if_pos hexpired, .ttlExpired, if_pos hexpired⟩
  by_cases hseen : item.routeEpochSeen ≠ s.router.routeTable.activeRouteEpoch
  swap
  · exact .inr ⟨item, (if_neg hexpired).trans (if_neg hseen),
      (if_neg hexpired).trans (if_neg hseen)⟩
  cases hlookup : rtosRouterRouteTableLookup s.router.routeTable item.destinationCid.b0 with
  | error e =>
    refine .inl ⟨?_, .noRoute, ?_⟩
    · simp [plannedItem, hexpired, hseen, hlookup]
    · simp [scheduleItem, RouterSinks.routerNow, hexpired, hseen, hlookup]
  | ok target =>
    let rerouted : QueueItem :=
      { item with
        targetInterface := target
        routeEpochSeen := s.router.routeTable.activeRouteEpoch }
    refine .inr ⟨rerouted, ?_, ?_⟩
    · simp [plannedItem, hexpired, hseen, hlookup, rerouted]
    · simp [scheduleItem, RouterSinks.routerNow, hexpired, hseen, hlookup, rerouted]

/-! ## What the sinks have to do -/

/-- The sinks account for every item they are given: a transmitted item
leaves what the router holds, one that could not be transmitted stays,
and a reclaimed item leaves it. -/
structure SinksKeep (S : RouterSinks H) (Held : List QueueItem → H → Prop) : Prop where
  perm : ∀ {q q' h}, q.Perm q' → Held q h → Held q' h
  now : ∀ {q h}, Held q h → Held q (S.now h).2
  retry : ∀ {x q h} {n : UInt8}, Held (x :: q) h → Held ({ x with retryCount := n } :: q) h
  reroute : ∀ {x q h} {target : PutShmInterface} {epoch : UInt32}, Held (x :: q) h →
    Held ({ x with targetInterface := target, routeEpochSeen := epoch } :: q) h
  sent : ∀ {x q h} {nowMs : UInt32}, Held (x :: q) h → (S.tx (txOutput x nowMs) h).1 = .ok →
    Held q (S.tx (txOutput x nowMs) h).2
  unsent : ∀ {x q h} {nowMs : UInt32}, Held (x :: q) h → (S.tx (txOutput x nowMs) h).1 ≠ .ok →
    Held (x :: q) (S.tx (txOutput x nowMs) h).2
  reclaimed : ∀ {x q h} {nowMs : UInt32} {reason : ReclaimReason}, Held (x :: q) h →
    Held q (S.reclaim (reclaimItemOutput x nowMs reason) h).2

/-- A submitted input is reclaimed at once, or it passes the checks and
becomes an item. -/
structure SubmitKeeps (S : RouterSinks H) (Held : List QueueItem → H → Prop) (input : RouteInput)
    (Submitted : List QueueItem → H → Prop) : Prop where
  now : ∀ {q h}, Submitted q h → Submitted q (S.now h).2
  reclaimed : ∀ {q h} {nowMs : UInt32} {reason : ReclaimReason}, Submitted q h →
    Held q (S.reclaim (reclaimInputOutput input nowMs reason) h).2
  queued : ∀ {q h} {router : RouterContext} {target : PutShmInterface} {nowMs : UInt32},
    Submitted q h → inputIsInvalid input = false →
      Held (fillQueueItem router input target nowMs :: q) h

variable {Held Submitted : List QueueItem → H → Prop} {s : Hosted H} {q : List QueueItem}

/-! ## Scheduling -/

theorem SinksKeep.reclaimItem (hS : SinksKeep S Held) {x : QueueItem} (reason : ReclaimReason)
    (h : Held (x :: q) s.host) : Held q (reclaimItem S s x reason).2.2.host := by
  rw [reclaimItem_host]
  exact hS.reclaimed (hS.now h)

/-- **An item that is transmitted, with retries, or reclaimed after them
is accounted for.** -/
theorem SinksKeep.transmit (hS : SinksKeep S Held) {nowMs : UInt32} {n : ℕ} {x : QueueItem}
    (h : Held (x :: q) s.host) :
    Held q (transmit S nowMs n x s).2.2.host ∧
      (transmit S nowMs n x s).2.2.router.queue = s.router.queue := by
  induction n generalizing s x with
  | zero =>
    unfold Rtos.transmit
    simp only [emitTx_eq]
    split
    · next hok => exact ⟨hS.sent h hok, rfl⟩
    · next hne =>
      refine ⟨hS.reclaimItem _ ?_, reclaimItem_queue ..⟩
      exact hS.unsent h hne
  | succ n ih =>
    unfold Rtos.transmit
    simp only [emitTx_eq]
    split
    · next hok => exact ⟨hS.sent h hok, rfl⟩
    · next hne => exact ih (hS.retry (hS.unsent h hne))

theorem SinksKeep.scheduleItem (hS : SinksKeep S Held) {x : QueueItem} (h : Held (x :: q) s.host) :
    Held q (scheduleItem S s x).2.2.host ∧
      (scheduleItem S s x).2.2.router.queue = s.router.queue := by
  have hnow : Held (x :: q) (S.routerNow s).2.host := hS.now h
  unfold Rtos.scheduleItem
  simp only
  split
  · exact ⟨hS.reclaimItem _ hnow, reclaimItem_queue ..⟩
  split
  · split
    · exact ⟨hS.reclaimItem _ hnow, reclaimItem_queue ..⟩
    · exact hS.transmit (hS.reroute hnow)
  · exact hS.transmit hnow

/-- **One scheduler step** finds the queue empty, or schedules the item it
takes off. -/
theorem rtosRouterScheduleOnce_cases (S : RouterSinks H) (s : Hosted H) :
    (rtosRouterScheduleOnce S s = (.ipcQueueEmpty, none, s) ∧ s.router.queue.items = []) ∨
    ∃ x queue, (x :: queue.items).Perm s.router.queue.items ∧
      rtosPriorityQueueDequeue s.router.queue = (.ok, some x, queue) ∧
      rtosRouterScheduleOnce S s =
        let r := scheduleItem S { s with router := { s.router with queue := queue } } x
        (r.1, some r.2.1, r.2.2) := by
  unfold rtosRouterScheduleOnce
  rcases rtosPriorityQueueDequeue_cases s.router.queue with ⟨heq, hnil⟩ | ⟨x, queue, heq, hperm⟩
  · rw [heq]
    exact .inl ⟨rfl, hnil⟩
  · rw [heq]
    exact .inr ⟨x, queue, hperm, rfl, rfl⟩

/-- One turn of the loop that reclaims the queue finds it empty, or
reclaims the item it takes off. -/
theorem reclaimQueuedLoop_cases (S : RouterSinks H) (reason : ReclaimReason) (n : ℕ) (k : UInt32)
    (s : Hosted H) :
    (reclaimQueuedLoop S reason (n + 1) k s = (k, s) ∧ s.router.queue.items = []) ∨
    ∃ x queue, (x :: queue.items).Perm s.router.queue.items ∧
      rtosPriorityQueueDequeue s.router.queue = (.ok, some x, queue) ∧
      reclaimQueuedLoop S reason (n + 1) k s =
        let r := reclaimItem S { s with router := { s.router with queue := queue } } x reason
        if r.1 ≠ .ok then (k, r.2.2) else reclaimQueuedLoop S reason n (k + 1) r.2.2 := by
  rw [reclaimQueuedLoop]
  rcases rtosPriorityQueueDequeue_cases s.router.queue with ⟨heq, hnil⟩ | ⟨x, queue, heq, hperm⟩
  · rw [heq]
    exact .inl ⟨rfl, hnil⟩
  · rw [heq]
    exact .inr ⟨x, queue, hperm, rfl, rfl⟩

/-- **One scheduler step accounts for the item it takes.** -/
theorem SinksKeep.scheduleOnce (hS : SinksKeep S Held) (h : Held s.router.queue.items s.host) :
    Held (rtosRouterScheduleOnce S s).2.2.router.queue.items
      (rtosRouterScheduleOnce S s).2.2.host := by
  rcases rtosRouterScheduleOnce_cases S s with ⟨heq, -⟩ | ⟨x, queue, hperm, -, heq⟩
  · rw [heq]
    exact h
  · obtain ⟨hheld, hqueue⟩ := hS.scheduleItem
      (s := { s with router := { s.router with queue := queue } }) (hS.perm hperm.symm h)
    rw [heq]
    simp only
    rwa [hqueue]

theorem SinksKeep.drainLoop (hS : SinksKeep S Held) {n : ℕ} {k : UInt32}
    (h : Held s.router.queue.items s.host) :
    Held (drainLoop S n k s).2.router.queue.items (drainLoop S n k s).2.host := by
  induction n generalizing s k with
  | zero => exact h
  | succ n ih =>
    unfold Rtos.drainLoop
    simp only
    split
    · exact hS.scheduleOnce h
    · exact ih (hS.scheduleOnce h)

/-- Draining the queue accounts for every item it takes. -/
theorem SinksKeep.drain (hS : SinksKeep S Held) (budget : UInt32)
    (h : Held s.router.queue.items s.host) :
    Held (rtosRouterDrain S s budget).2.router.queue.items (rtosRouterDrain S s budget).2.host :=
  hS.drainLoop h

theorem SinksKeep.reclaimQueuedLoop (hS : SinksKeep S Held) {reason : ReclaimReason} {n : ℕ}
    {k : UInt32} (h : Held s.router.queue.items s.host) :
    Held (reclaimQueuedLoop S reason n k s).2.router.queue.items
      (reclaimQueuedLoop S reason n k s).2.host := by
  induction n generalizing s k with
  | zero => exact h
  | succ n ih =>
    rcases reclaimQueuedLoop_cases S reason n k s with ⟨heq, -⟩ | ⟨x, queue, hperm, -, heq⟩
    · rw [heq]
      exact h
    · have hheld : Held queue.items
          (Rtos.reclaimItem S { s with router := { s.router with queue := queue } } x
            reason).2.2.host :=
        hS.reclaimItem _ (hS.perm hperm.symm h)
      have hqueue := reclaimItem_queue (S := S) { s with router := { s.router with queue := queue } } x
        reason
      rw [← show _ = queue.items from congrArg PriorityQueue.items hqueue] at hheld
      rw [heq]
      simp only
      split
      · exact hheld
      · exact ih hheld

/-- Reclaiming the queue accounts for every item it takes. -/
theorem SinksKeep.reclaimQueued (hS : SinksKeep S Held) (reason : ReclaimReason) (budget : UInt32)
    (h : Held s.router.queue.items s.host) :
    Held (rtosRouterReclaimQueued S s reason budget).2.router.queue.items
      (rtosRouterReclaimQueued S s reason budget).2.host :=
  hS.reclaimQueuedLoop h

/-! ## Submitting -/

theorem SubmitKeeps.reclaimInput {input : RouteInput} (hI : SubmitKeeps S Held input Submitted)
    (reason : ReclaimReason) (h : Submitted s.router.queue.items s.host) :
    Held (reclaimInput S s input reason).2.router.queue.items
      (reclaimInput S s input reason).2.host := by
  rw [reclaimInput_host, reclaimInput_queue]
  exact hI.reclaimed (hI.now h)

theorem SubmitKeeps.enqueueInput {input : RouteInput} (hS : SinksKeep S Held)
    (hI : SubmitKeeps S Held input Submitted) {target : PutShmInterface}
    (hvalid : inputIsInvalid input = false) (h : Submitted s.router.queue.items s.host) :
    Held (enqueueInput S s input target).2.router.queue.items
      (enqueueInput S s input target).2.host := by
  have hnow : Submitted (S.routerNow s).2.router.queue.items (S.routerNow s).2.host := hI.now h
  unfold Rtos.enqueueInput
  simp only
  generalize (S.routerNow s).2 = s' at hnow ⊢
  rcases rtosPriorityQueueEnqueue_cases s'.router.queue
      (fillQueueItem s'.router input target (S.routerNow s).1) with
    ⟨hres, -, -⟩ | ⟨hres, hev, hitems⟩ | ⟨hres, e, hev, hperm⟩
  · -- the queue refuses the item
    rw [if_pos hres]
    exact hI.reclaimInput _ hnow
  · -- there was room
    rw [if_neg (not_not.mpr hres), hev]
    simp only
    rw [hitems]
    exact hS.perm (List.perm_append_singleton _ _).symm (hI.queued hnow hvalid)
  · -- another item made room
    rw [if_neg (not_not.mpr hres), hev]
    simp only [reclaimItem_queue]
    refine hS.reclaimItem _ (hS.perm (hperm.trans (List.perm_append_singleton _ _)).symm ?_)
    exact hI.queued hnow hvalid

/-- **A submitted input is accounted for.** -/
theorem SubmitKeeps.submit {input : RouteInput} (hS : SinksKeep S Held)
    (hI : SubmitKeeps S Held input Submitted) (h : Submitted s.router.queue.items s.host) :
    Held (rtosRouterSubmit S s input).2.router.queue.items (rtosRouterSubmit S s input).2.host := by
  unfold rtosRouterSubmit
  simp only
  have hnow : Submitted (S.routerNow { s with router := s.router.countSubmitted }).2.router.queue.items
      (S.routerNow { s with router := s.router.countSubmitted }).2.host := hI.now h
  generalize S.routerNow { s with router := s.router.countSubmitted } = r at hnow ⊢
  split
  · exact hI.reclaimInput _ hnow
  next hvalid =>
  split
  · exact hI.reclaimInput _ hnow
  split
  · exact hI.reclaimInput _ hnow
  split
  · exact hI.reclaimInput _ hnow
  split
  · exact hI.reclaimInput _ hnow
  · exact hI.enqueueInput hS (by simpa using hvalid) hnow

end Rtos

end PutGateway
