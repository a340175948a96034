import PutGateway.Rtos.RouterSpec
/-!
# Where the router sends frames

A queued item carries the interface that the route table named when the
item was queued, and the epoch of that table. A scheduler step looks the
route up again where the table's epoch is another one by then.

`RouteRules` is what a predicate of queued items has to satisfy to bear a
predicate of TX outputs while one table stays installed; `Routed` is the
state such a router is in, and every operation of the router but the
installation of a table keeps it.
-/

namespace PutGateway

namespace Rtos

variable {H : Type} {S : RouterSinks H}

/-- The table names the interface for a destination. -/
def RouteTable.Names (table : RouteTable) (destinationCid : Cid) (target : PutShmInterface) : Prop :=
  rtosRouterRouteTableLookup table destinationCid.b0 = .ok target

/-- An item queued under the epoch of the table goes where the table
sends it. -/
def OnRoute (table : RouteTable) (x : QueueItem) : Prop :=
  x.routeEpochSeen = table.activeRouteEpoch → table.Names x.destinationCid x.targetInterface

/-- With one table installed, an item that is queued is `Good`, and what
is transmitted of a `Good` item makes `Out` outputs. -/
structure RouteRules (table : RouteTable) (Good : QueueItem → Prop) (Out : RouteOutput → Prop) :
    Prop where
  filled : ∀ {router : RouterContext} {input : RouteInput} {target : PutShmInterface}
    {nowMs : UInt32}, router.routeTable = table → table.Names input.destinationCid target →
    Good (fillQueueItem router input target nowMs)
  planned : ∀ {x y : QueueItem} {nowMs readMs : UInt32} {n : UInt8}, Good x →
    plannedItem table nowMs x = some y → Out (txOutput { y with retryCount := n } readMs)

/-- What the sinks do with the outputs they may be handed keeps `P`. -/
structure SinksPreserve (S : RouterSinks H) (Out : RouteOutput → Prop) (P : H → Prop) : Prop where
  now : ∀ {h}, P h → P (S.now h).2
  tx : ∀ {h output}, Out output → P h → P (S.tx output h).2
  reclaim : ∀ {h output}, P h → P (S.reclaim output h).2

/-- A router with the table installed, its queue and what is behind its
sinks. -/
structure Routed (table : RouteTable) (Good : QueueItem → Prop) (P : H → Prop) (s : Hosted H) :
    Prop where
  table : s.router.routeTable = table
  items : ∀ x ∈ s.router.queue.items, Good x
  host : P s.host

variable {table : RouteTable} {Good : QueueItem → Prop} {Out : RouteOutput → Prop} {P : H → Prop}
  {s : Hosted H}

/-- **Items on their route make outputs on their route.** -/
theorem onRoute_rules (table : RouteTable) :
    RouteRules table (OnRoute table) fun o => table.Names o.destinationCid o.targetInterface where
  filled _ hnames _ := hnames
  planned := by
    intro x y nowMs readMs n hx hy
    unfold plannedItem at hy
    split at hy
    · cases hy
    split at hy
    · -- the table has changed: the route is looked up again
      split at hy
      · cases hy
      · next target hlookup =>
        obtain rfl := Option.some.inj hy
        exact hlookup
    · next hseen =>
      obtain rfl := Option.some.inj hy
      exact hx (not_not.mp hseen)

/-! ## The operations -/

theorem Routed.congr (h : Routed table Good P s) {s' : Hosted H}
    (htable : s'.router.routeTable = s.router.routeTable)
    (hqueue : s'.router.queue = s.router.queue) (hhost : P s'.host) : Routed table Good P s' :=
  ⟨htable.trans h.table, hqueue ▸ h.items, hhost⟩

theorem reclaimItem_routeTable (s : Hosted H) (item : QueueItem) (reason : ReclaimReason) :
    (reclaimItem S s item reason).2.2.router.routeTable = s.router.routeTable := by
  simp only [reclaimItem, emitReclaim_eq]
  rfl

theorem reclaimInput_routeTable (s : Hosted H) (input : RouteInput) (reason : ReclaimReason) :
    (reclaimInput S s input reason).2.router.routeTable = s.router.routeTable := by
  simp only [reclaimInput, emitReclaim_eq]
  rfl

theorem Routed.reclaimItem (hS : SinksPreserve S Out P) (h : Routed table Good P s) (x : QueueItem)
    (reason : ReclaimReason) : Routed table Good P (reclaimItem S s x reason).2.2 := by
  refine h.congr (reclaimItem_routeTable ..) (reclaimItem_queue ..) ?_
  rw [reclaimItem_host]
  exact hS.reclaim (hS.now h.host)

theorem Routed.reclaimInput (hS : SinksPreserve S Out P) (h : Routed table Good P s)
    (input : RouteInput) (reason : ReclaimReason) :
    Routed table Good P (reclaimInput S s input reason).2 := by
  refine h.congr (reclaimInput_routeTable ..) (reclaimInput_queue ..) ?_
  rw [reclaimInput_host]
  exact hS.reclaim (hS.now h.host)

theorem Routed.transmit (hS : SinksPreserve S Out P) {nowMs : UInt32} {n : ℕ} {x : QueueItem}
    (h : Routed table Good P s) (hx : ∀ k : UInt8, Out (txOutput { x with retryCount := k } nowMs)) :
    Routed table Good P (transmit S nowMs n x s).2.2 := by
  induction n generalizing s x with
  | zero =>
    have hsent : P (S.tx (txOutput x nowMs) s.host).2 := hS.tx (hx x.retryCount) h.host
    unfold Rtos.transmit
    simp only [emitTx_eq]
    split
    · exact h.congr rfl rfl hsent
    · refine Routed.reclaimItem hS ?_ x _
      exact h.congr rfl rfl hsent
  | succ n ih =>
    have hsent : P (S.tx (txOutput x nowMs) s.host).2 := hS.tx (hx x.retryCount) h.host
    unfold Rtos.transmit
    simp only [emitTx_eq]
    split
    · exact h.congr rfl rfl hsent
    · exact ih (h.congr rfl rfl hsent) hx

theorem Routed.scheduleItem (hR : RouteRules table Good Out) (hS : SinksPreserve S Out P)
    {x : QueueItem} (h : Routed table Good P s) (hx : Good x) :
    Routed table Good P (scheduleItem S s x).2.2 := by
  have hread : Routed table Good P ⟨s.router, (S.now s.host).2⟩ := h.congr rfl rfl (hS.now h.host)
  rcases scheduleItem_cases S s x with ⟨-, reason, heq⟩ | ⟨y, hplanned, heq⟩
  · rw [heq]
    exact hread.reclaimItem hS x reason
  · rw [h.table] at hplanned
    rw [heq]
    exact hread.transmit hS fun k => hR.planned hx hplanned

/-- **One scheduler step.** -/
theorem Routed.scheduleOnce (hR : RouteRules table Good Out) (hS : SinksPreserve S Out P)
    (h : Routed table Good P s) : Routed table Good P (rtosRouterScheduleOnce S s).2.2 := by
  rcases rtosRouterScheduleOnce_cases S s with ⟨heq, -⟩ | ⟨x, queue, hperm, -, heq⟩
  · rw [heq]
    exact h
  · rw [heq]
    have hgood : ∀ y ∈ x :: queue.items, Good y := fun y hy => h.items y (hperm.mem_iff.mp hy)
    have htaken : Routed table Good P { s with router := { s.router with queue := queue } } :=
      ⟨h.table, fun y hy => hgood y (List.mem_cons_of_mem x hy), h.host⟩
    exact htaken.scheduleItem hR hS (hgood x List.mem_cons_self)

theorem Routed.drainLoop (hR : RouteRules table Good Out) (hS : SinksPreserve S Out P) {n : ℕ}
    {k : UInt32} (h : Routed table Good P s) : Routed table Good P (drainLoop S n k s).2 := by
  induction n generalizing s k with
  | zero => exact h
  | succ n ih =>
    unfold Rtos.drainLoop
    simp only
    split
    · exact h.scheduleOnce hR hS
    · exact ih (h.scheduleOnce hR hS)

theorem Routed.drain (hR : RouteRules table Good Out) (hS : SinksPreserve S Out P)
    (h : Routed table Good P s) (budget : UInt32) :
    Routed table Good P (rtosRouterDrain S s budget).2 :=
  h.drainLoop hR hS

theorem Routed.reclaimQueuedLoop (hS : SinksPreserve S Out P) {reason : ReclaimReason} {n : ℕ}
    {k : UInt32} (h : Routed table Good P s) :
    Routed table Good P (reclaimQueuedLoop S reason n k s).2 := by
  induction n generalizing s k with
  | zero => exact h
  | succ n ih =>
    rcases reclaimQueuedLoop_cases S reason n k s with ⟨heq, -⟩ | ⟨x, queue, hperm, -, heq⟩
    · rw [heq]
      exact h
    · rw [heq]
      have htaken : Routed table Good P { s with router := { s.router with queue := queue } } :=
        ⟨h.table, fun y hy => h.items y (hperm.mem_iff.mp (List.mem_cons_of_mem x hy)), h.host⟩
      simp only
      split
      · exact htaken.reclaimItem hS x reason
      · exact ih (htaken.reclaimItem hS x reason)

theorem Routed.reclaimQueued (hS : SinksPreserve S Out P) (h : Routed table Good P s)
    (reason : ReclaimReason) (budget : UInt32) :
    Routed table Good P (rtosRouterReclaimQueued S s reason budget).2 :=
  h.reclaimQueuedLoop hS

theorem Routed.enqueueInput (hR : RouteRules table Good Out) (hS : SinksPreserve S Out P)
    {input : RouteInput} {target : PutShmInterface} (h : Routed table Good P s)
    (hnames : table.Names input.destinationCid target) :
    Routed table Good P (enqueueInput S s input target).2 := by
  have hread : Routed table Good P (S.routerNow s).2 := h.congr rfl rfl (hS.now h.host)
  unfold Rtos.enqueueInput
  simp only
  generalize (S.routerNow s).2 = s' at hread ⊢
  generalize (S.routerNow s).1 = nowMs
  have hgood : Good (fillQueueItem s'.router input target nowMs) := hR.filled hread.table hnames
  rcases rtosPriorityQueueEnqueue_cases s'.router.queue
      (fillQueueItem s'.router input target nowMs) with
    ⟨hres, -, -⟩ | ⟨hres, hev, hitems⟩ | ⟨hres, e, hev, hperm⟩
  · -- the queue refuses the item
    rw [if_pos hres]
    exact hread.reclaimInput hS input _
  · -- there was room
    rw [if_neg (not_not.mpr hres), hev]
    refine ⟨hread.table, ?_, hread.host⟩
    intro x hx
    simp only [hitems, List.mem_append, List.mem_singleton] at hx
    rcases hx with hx | rfl
    · exact hread.items x hx
    · exact hgood
  · -- another item made room
    rw [if_neg (not_not.mpr hres), hev]
    have hkept : ∀ x ∈ (rtosPriorityQueueEnqueue s'.router.queue
        (fillQueueItem s'.router input target nowMs)).queue.items, Good x := by
      intro x hx
      rcases List.mem_append.mp (hperm.mem_iff.mp (List.mem_cons_of_mem e hx)) with hx | hx
      · exact hread.items x hx
      · obtain rfl := List.mem_singleton.mp hx
        exact hgood
    let counted : Hosted H :=
      { s' with
        router := { s'.router with
          queue := (rtosPriorityQueueEnqueue s'.router.queue
            (fillQueueItem s'.router input target nowMs)).queue
          statistics := { s'.router.statistics with
            queueEvictedCount := s'.router.statistics.queueEvictedCount + 1 } } }
    have hcounted : Routed table Good P counted := ⟨hread.table, hkept, hread.host⟩
    have hdone : Routed table Good P (Rtos.reclaimItem S counted e .queueFull).2.2 :=
      hcounted.reclaimItem hS e .queueFull
    exact hdone.congr rfl rfl hdone.host

/-- **One submission.** -/
theorem Routed.submit (hR : RouteRules table Good Out) (hS : SinksPreserve S Out P)
    (h : Routed table Good P s) (input : RouteInput) :
    Routed table Good P (rtosRouterSubmit S s input).2 := by
  unfold rtosRouterSubmit
  simp only
  have hread : Routed table Good P
      (S.routerNow { s with router := s.router.countSubmitted }).2 := by
    refine h.congr rfl rfl ?_
    exact hS.now h.host
  generalize S.routerNow { s with router := s.router.countSubmitted } = r at hread ⊢
  split
  · refine Routed.reclaimInput hS ?_ input _
    exact hread.congr rfl rfl hread.host
  split
  · exact hread.reclaimInput hS input _
  split
  · exact hread.reclaimInput hS input _
  split
  · refine Routed.reclaimInput hS ?_ input _
    exact hread.congr rfl rfl hread.host
  split
  · exact hread.reclaimInput hS input _
  · next target hlookup =>
    rw [hread.table] at hlookup
    exact hread.enqueueInput hR hS hlookup

end Rtos

end PutGateway
