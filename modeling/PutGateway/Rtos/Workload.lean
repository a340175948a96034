import PutGateway.Rtos.FrozenRuns
import PutGateway.Rtos.Recovery
/-!
# The work ahead

Every frame the RTOS has yet to move on is work: a descriptor to take, an
item to settle, a frozen reclaim to write, an entry for Linux to take.
No move without a fault adds to it, and one that moves a frame takes off
it. So an operation of the tasks that leaves the work as it was has left
every queue as it was.
-/

namespace PutGateway

namespace Rtos

/-! ## The weight of a ledger -/

namespace Ledger

/-- The work on the frames the RTOS has taken. -/
def work (L : Ledger) : ℕ :=
  3 * L.held.length + 2 * L.pending.length + ∑ i, (L.queues.tx i).length + L.queues.reclaim.length

/-- The work on all frames: what lies on the RX rings is to be taken
first. -/
def weight (L : Ledger) : ℕ := 4 * ∑ i, (L.queues.rx i).length + L.work

/-- The frames taken are where they were. -/
structure Still (L L' : Ledger) : Prop where
  tx : L'.queues.tx = L.queues.tx
  reclaim : L'.queues.reclaim = L.queues.reclaim
  pending : L'.pending = L.pending
  held : L'.held.length = L.held.length

variable {L L' L'' : Ledger}

theorem Still.refl (L : Ledger) : L.Still L := ⟨rfl, rfl, rfl, rfl⟩

theorem Still.trans (h : L.Still L') (h' : L'.Still L'') : L.Still L'' :=
  ⟨h'.tx.trans h.tx, h'.reclaim.trans h.reclaim, h'.pending.trans h.pending, h'.held.trans h.held⟩

theorem Still.work (h : L.Still L') : L'.work = L.work := by
  unfold Ledger.work
  rw [h.tx, h.reclaim, h.pending, h.held]

theorem Still.weight (h : L.Still L') (hrx : L'.queues.rx = L.queues.rx) : L'.weight = L.weight := by
  simp only [Ledger.weight, h.work, hrx]

/-- Replacing one of the rings changes the total by its length. -/
theorem sum_length_update {α : Type} (l : Fin 6 → List α) (i : Fin 6) (a : List α) :
    ∑ j, (Function.update l i a j).length + (l i).length = ∑ j, (l j).length + a.length := by
  have hbefore := Finset.add_sum_erase Finset.univ (fun j => (l j).length) (Finset.mem_univ i)
  have hafter := Finset.add_sum_erase Finset.univ (fun j => (Function.update l i a j).length)
    (Finset.mem_univ i)
  have hrest : ∑ j ∈ Finset.univ.erase i, (Function.update l i a j).length =
      ∑ j ∈ Finset.univ.erase i, (l j).length := by
    refine Finset.sum_congr rfl fun j hj => ?_
    rw [Function.update_of_ne (Finset.ne_of_mem_erase hj)]
  simp only [Function.update_self] at hafter
  omega

end Ledger

open Ledger

variable {L L' : Ledger} {e : Event} {es : List Event} {q : Queues} {i : Fin 6}

/-! ## Moves -/

theorem sum_setRx (l : List Descriptor) :
    ∑ j, ((q.setRx i l).rx j).length + (q.rx i).length = ∑ j, (q.rx j).length + l.length :=
  sum_length_update q.rx i l

theorem sum_setTx (l : List Descriptor) :
    ∑ j, ((q.setTx i l).tx j).length + (q.tx i).length = ∑ j, (q.tx j).length + l.length :=
  sum_length_update q.tx i l

/-- **A move takes off the work**, unless it only rearranges. -/
theorem Move.weight (h : Move L e L') (hb : Balanced L) (hfault : ¬ e.IsFault) :
    L'.weight < L.weight ∨ (L.Still L' ∧ L'.queues.rx = L.queues.rx) := by
  have htake : ∀ {i d rest}, L.queues.rx i = d :: rest →
      ∑ j, ((L.queues.setRx i rest).rx j).length + 1 = ∑ j, (L.queues.rx j).length := by
    intro i d rest hrx
    have hsum := sum_setRx (q := L.queues) (i := i) rest
    rw [hrx, List.length_cons] at hsum
    omega
  cases h with
  | rearrange hperm => exact .inr ⟨⟨rfl, rfl, rfl, hperm.length_eq.symm⟩, rfl⟩
  | enter hheld => exact .inr ⟨⟨rfl, rfl, rfl, by simp [hheld]⟩, rfl⟩
  | retry hheld => exact .inr ⟨⟨rfl, rfl, rfl, by simp [hheld]⟩, rfl⟩
  | reroute hheld => exact .inr ⟨⟨rfl, rfl, rfl, by simp [hheld]⟩, rfl⟩
  | refuse hrx =>
    have hsum := htake hrx
    left
    simp only [Ledger.weight, Ledger.work, Queues.setRx] at hsum ⊢
    omega
  | duplicate hrx =>
    have hsum := htake hrx
    left
    simp only [Ledger.weight, Ledger.work, Queues.setRx] at hsum ⊢
    omega
  | receive frame nowMs hrx =>
    have hsum := htake hrx
    left
    simp only [Ledger.weight, Ledger.work, Queues.setRx, List.length_cons] at hsum ⊢
    omega
  | @send x rest f d i nowMs hheld =>
    have hsum := sum_setTx (q := L.queues) (i := i)
      (L.queues.tx i ++ [(fillTxDescriptor d (txOutput x nowMs)).sealed])
    left
    simp only [List.length_append, List.length_singleton] at hsum
    simp only [Ledger.weight, Ledger.work, Ledger.clear, Queues.setTx, hheld, List.length_cons]
      at hsum ⊢
    omega
  | reclaim hheld =>
    left
    simp only [Ledger.weight, Ledger.work, Ledger.clear, Queues.setReclaim, hheld,
      List.length_append, List.length_cons, List.length_nil]
    omega
  | freeze hheld =>
    left
    simp only [Ledger.weight, Ledger.work, hheld, List.length_append, List.length_cons,
      List.length_nil]
    omega
  | absorb hheld =>
    left
    simp only [Ledger.weight, Ledger.work, hheld, List.length_cons]
    omega
  | overflow hheld =>
    left
    simp only [Ledger.weight, Ledger.work, hheld, List.length_cons]
    omega
  | thaw hpending =>
    left
    simp only [Ledger.weight, Ledger.work, Ledger.clear, Queues.setReclaim, hpending,
      List.length_append, List.length_cons, List.length_nil]
    omega
  | orphan href hpending hheld =>
    -- a balanced ledger has no orphan
    have hmem := hb _ _ href
    simp only [ids, hheld, List.map_nil, List.nil_append, List.mem_map] at hmem
    obtain ⟨o, ho, hid⟩ := hmem
    exact absurd hid (hpending o ho)
  | lose => exact absurd trivial hfault
  | straySend => exact absurd trivial hfault
  | strayReclaim => exact absurd trivial hfault
  | strayThaw => exact absurd trivial hfault
  | abandon => exact absurd trivial hfault

/-- **A sequence of moves takes off the work**, or leaves every frame
where it was. -/
theorem Moves.weight (h : Moves L es L') (hL : Books L) (hb : Balanced L)
    (hfault : ∀ e ∈ es, ¬ e.IsFault) :
    L'.weight < L.weight ∨ (L.Still L' ∧ L'.queues.rx = L.queues.rx) := by
  induction h with
  | refl => exact .inr ⟨.refl _, rfl⟩
  | snoc hmoves hmove ih =>
    have hfault' := fun e he => hfault e (List.mem_append_left _ he)
    have hlast := hmove.weight (hmoves.balanced hL hb hfault').1
      (hfault _ (List.mem_append_right _ (List.mem_singleton_self _)))
    rcases ih hfault' with hless | ⟨hstill, hrx⟩
    · rcases hlast with hless' | ⟨hstill', hrx'⟩
      · exact .inl (hless'.trans hless)
      · refine .inl ?_
        simp only [Ledger.weight, hstill'.work, hrx'] at hless ⊢
        exact hless
    · rcases hlast with hless' | ⟨hstill', hrx'⟩
      · refine .inl ?_
        simp only [Ledger.weight, hstill.work, hrx] at hless' ⊢
        exact hless'
      · exact .inr ⟨hstill.trans hstill', hrx'.trans hrx⟩

/-! ## The tasks -/

variable {P : Platform} {K : Clock} {R : Region} {c : TasksContext}

/-- Whatever follows a ledger without faults leaves no more work. -/
theorem ContextFollows.weight (hP : P.Succeeds) (h : ContextFollows P R L c) (hL : L.Books)
    (hb : L.Balanced) :
    (ledger c).weight < L.weight ∨ (L.Still (ledger c) ∧ (ledger c).queues.rx = L.queues.rx) := by
  obtain ⟨es, hmoves, hfaults⟩ := h.moves
  exact hmoves.weight hL hb (hfaults hP)

theorem ContextFollows.balanced (hP : P.Succeeds) (h : ContextFollows P R L c) (hL : L.Books)
    (hb : L.Balanced) : (ledger c).Balanced := by
  obtain ⟨es, hmoves, hfaults⟩ := h.moves
  exact (hmoves.balanced hL hb (hfaults hP)).1

/-! ### The event task -/

/-- What is left of an RX ring by an iteration that finds a descriptor. -/
theorem drainStep_takes (hP : P.Succeeds) (h : ContextFollows P R L c) {d : Descriptor}
    {rest : List Descriptor} (hrx : c.host.ipc.region.view.rx i = d :: rest) :
    (drainStep P K (interfaceOfIndex i) c).2.host.ipc.region.view.rx i = rest := by
  obtain ⟨hinit, hends⟩ := rtosShmIpcDequeueRxDescriptor_cases P h.valid h.initialized i
  unfold drainStep
  simp only
  generalize rtosShmIpcDequeueRxDescriptor P c.host.ipc (interfaceOfIndex i) = r at hinit hends ⊢
  rcases hends with ⟨-, -, -, hempty⟩ | ⟨d', rest', hrx', hregion, hends⟩
  · rw [(hempty hP).1] at hrx
    cases hrx
  obtain ⟨rfl, rfl⟩ := List.cons.inj (hrx.symm.trans hrx')
  have htaken : r.2.2.region.view.rx i = rest := by
    rw [hregion.view]
    simp [Queues.setRx]
  rcases hends with ⟨-, hres, hres', -⟩ | ⟨hgood, hsome, hok⟩
  · rw [if_neg hres', if_pos hres]
    exact htaken
  rw [if_neg (by rw [hok.mpr (takeCallsSucceed_of_succeeds hP)]; simp),
    if_neg (not_not.mpr (hok.mpr (takeCallsSucceed_of_succeeds hP))), hsome]
  obtain ⟨f, hf⟩ := hgood.frame
  rcases receiveDescriptor_cases P K { c with host := { c.host with ipc := r.2.2 } } hinit
      hgood.bounds hf with ⟨-, heq⟩ | ⟨-, t, hipc, -, -, ⟨hfail, -⟩ | ⟨-, -, -, heq⟩⟩
  · simp only [heq]
    exact htaken
  · exact absurd (hP _) hfail
  · -- submitting a frame touches no RX ring
    have hquiet := (submit_serves (P := P) (K := K)
      { c with host := t } (routeInput d (r.2.2.region.framePool f) (K c.host.ticks))).2
    have hleft := congrFun hquiet.view_rx i
    rw [show ({ c with host := t } : TasksContext).host.ipc.region.view.rx i = rest by
      rw [hipc]; exact htaken] at hleft
    simp only [heq]
    split
    · exact hleft
    · exact hleft

/-- Once work is done, the iterations that follow do not undo it. -/
theorem lessened_iterates (hP : P.Succeeds) (hL : L.Books) (hb : L.Balanced) :
    Iterates P K (fun c => ContextFollows P R L c ∧ (ledger c).weight < L.weight) where
  idle {router t t'} hstep h := by
    obtain ⟨hregion, -, href, hpending, hhistory⟩ := hstep.frames
    refine ⟨(contextFollows_iterates (K := K)).idle hstep h.1, ?_⟩
    have hledger : ledger ⟨router, t'⟩ = ledger ⟨router, t⟩ := by
      simp only [ledger, Tasks.ledger, hregion, href, hpending, hhistory]
    rw [hledger]
    exact h.2
  iteration {c i} h hnormal := by
    refine ⟨contextFollows_iterates.iteration h.1 hnormal, ?_⟩
    have hstart : ContextFollows P c.host.ipc.region (ledger c) c :=
      .start h.1.initialized h.1.valid h.1.books
    rcases (contextFollows_iterates.iteration (K := K) (i := i) hstart hnormal).weight hP h.1.books
        (h.1.balanced hP hL hb) with hless | ⟨hstill, hrx⟩
    · exact hless.trans h.2
    · have hsame := hstill.work
      simp only [Ledger.weight, hsame, hrx]
      exact h.2

/-- **The drain of an interface that has a descriptor** does work. -/
theorem drainRxInterface_lessens (hP : P.Succeeds) (h : ContextFollows P R L c) (hL : L.Books)
    (hb : L.Balanced) (hnormal : c.host.state = .normal)
    (hsame : (ledger c).queues.rx = L.queues.rx) (hrx : c.host.ipc.region.view.rx i ≠ [])
    {budget : UInt32} (hbudget : budget ≠ 0) :
    ContextFollows P R L (drainRxInterface P K c (interfaceOfIndex i) budget).2 ∧
      (ledger (drainRxInterface P K c (interfaceOfIndex i) budget).2).weight < L.weight := by
  obtain ⟨d, rest, hrest⟩ := List.exists_cons_of_ne_nil hrx
  have htakes := drainStep_takes (K := K) hP h hrest
  have hstep : ContextFollows P R L (drainStep P K (interfaceOfIndex i) c).2 :=
    contextFollows_iterates.iteration h hnormal
  -- the iteration has changed the ring, so it has done work
  have hless : (ledger (drainStep P K (interfaceOfIndex i) c).2).weight < L.weight := by
    refine (hstep.weight hP hL hb).resolve_right fun hstill => ?_
    have hring := congrFun (hstill.2.trans hsame.symm) i
    have hbefore : (ledger c).queues.rx i = d :: rest := hrest
    have hafter : (ledger (drainStep P K (interfaceOfIndex i) c).2).queues.rx i = rest := htakes
    rw [hbefore, hafter] at hring
    exact List.cons_ne_self d rest hring.symm
  have hkeep := lessened_iterates (K := K) (R := R) hP hL hb
  obtain ⟨n, hn⟩ : ∃ n, budget.toNat = n + 1 := by
    refine Nat.exists_eq_succ_of_ne_zero fun hzero => hbudget ?_
    rw [← UInt32.toNat_inj]
    exact hzero
  have hloop : ContextFollows P R L (drainRxLoop P K (interfaceOfIndex i) budget.toNat 0 c).2 ∧
      (ledger (drainRxLoop P K (interfaceOfIndex i) budget.toNat 0 c).2).weight < L.weight := by
    rw [hn, drainRxLoop_succ, if_neg (not_not.mpr hnormal)]
    split
    · exact hkeep.drainRxLoop ⟨hstep, hless⟩ i n _
    · exact ⟨hstep, hless⟩
  exact hkeep.idle (.count (drainRxLoop P K (interfaceOfIndex i) budget.toNat 0 c).2.host _) hloop

/-- The drain of an interface that has none. -/
theorem drainRxInterface_empty (hP : P.Succeeds) (h : ContextFollows P R L c)
    (hnormal : c.host.state = .normal) (hrx : c.host.ipc.region.view.rx i = []) (budget : UInt32) :
    let r := drainRxInterface P K c (interfaceOfIndex i) budget
    r.1 = 0 ∧ r.2.host.state = .normal ∧ r.2.host.ipc.region.view = c.host.ipc.region.view := by
  obtain ⟨-, hends⟩ := rtosShmIpcDequeueRxDescriptor_cases P h.valid h.initialized i
  unfold drainRxInterface
  cases budget.toNat with
  | zero => simp [drainRxLoop, hnormal]
  | succ n =>
    unfold drainRxLoop
    simp only [if_neg (not_not.mpr hnormal)]
    rcases hends with ⟨-, -, hstay, hempty⟩ | ⟨d, rest, hsome, -⟩
    · simp only [(hempty hP).2, if_true]
      exact ⟨trivial, hnormal, hstay.view⟩
    · rw [hrx] at hsome
      cases hsome

/-- **The interface loop** does work where one of its interfaces has a
descriptor. -/
theorem eventLoop_lessens (hP : P.Succeeds) (hL : L.Books) (hb : L.Balanced) {l : List (Fin 6)}
    (hi : i ∈ l) {k : UInt32} (hk : 64 - k ≠ 0) (h : ContextFollows P R L c)
    (hnormal : c.host.state = .normal) (hsame : (ledger c).queues.rx = L.queues.rx)
    (hrx : L.queues.rx i ≠ []) :
    (ledger (eventLoop P K .periodic 0 l k c).2).weight < L.weight := by
  have hkeep := lessened_iterates (K := K) (R := R) hP hL hb
  have hbudget : (if 8 > 64 - k then 64 - k else 8) ≠ 0 := by
    split
    · exact hk
    · decide
  induction l generalizing c with
  | nil => exact absurd hi List.not_mem_nil
  | cons j rest ih =>
    have hdrain : ¬ (IpcEventTrigger.periodic = .doorbell && (0 : UInt32) &&&
        (1 <<< UInt32.ofNat j) = 0) = true := by simp
    rw [eventLoop, if_neg hk, if_neg hdrain]
    by_cases hempty : c.host.ipc.region.view.rx j = []
    · obtain ⟨hnone, hstill, hview⟩ := drainRxInterface_empty (K := K) hP h hnormal hempty
        (if 8 > 64 - k then 64 - k else 8)
      have hfollows : ContextFollows P R L (drainRxInterface P K c (interfaceOfIndex j)
          (if 8 > 64 - k then 64 - k else 8)).2 := contextFollows_iterates.drainRxInterface h j _
      have hsame' := (congrArg Queues.rx hview).trans hsame
      have hj : i ≠ j := by
        rintro rfl
        exact hrx ((congrFun hsame i).symm.trans hempty)
      generalize drainRxInterface P K c (interfaceOfIndex j) (if 8 > 64 - k then 64 - k else 8) = r
        at hnone hstill hfollows hsame' ⊢
      simp only
      rw [if_neg (not_not.mpr hstill), hnone, UInt32.add_zero]
      exact ih ((List.mem_cons.mp hi).resolve_left hj) hfollows hstill hsame'
    · have hdone := drainRxInterface_lessens (K := K) hP h hL hb hnormal hsame hempty hbudget
      generalize drainRxInterface P K c (interfaceOfIndex j) (if 8 > 64 - k then 64 - k else 8) = r
        at hdone ⊢
      simp only
      split
      · exact hdone.2
      · exact (hkeep.eventLoop hdone .periodic 0 rest _).2

/-- **The event task on a periodic call** does work where an RX ring has a
descriptor. -/
theorem eventTask_lessens (hP : P.Succeeds) (h : Sound c) (hb : (ledger c).Balanced)
    (hnormal : c.host.state = .normal) (hrx : c.host.ipc.region.view.rx i ≠ []) :
    (ledger (rtosIpcEventTaskRunOnce P K c .periodic).2).weight < (ledger c).weight := by
  have hloop := eventLoop_lessens (K := K) hP h.books hb (List.mem_finRange i)
    (k := 0) (by decide) h.follows hnormal rfl hrx
  unfold rtosIpcEventTaskRunOnce
  simp only [reduceCtorEq, if_false, hnormal, ne_eq, not_true_eq_false]
  exact hloop

/-! ### The scheduler, the retry and the recovery -/

section

variable {H : Type} {S : RouterSinks H} {s : Hosted H}

/-- Any sinks leave a queue no longer. -/
theorem length_keep (S : RouterSinks H) (N : ℕ) : SinksKeep S (fun q _ => q.length ≤ N) where
  perm hperm h := by rwa [← hperm.length_eq]
  now h := h
  retry h := h
  reroute h := h
  sent h _ := (Nat.le_succ _).trans h
  unsent h _ := h
  reclaimed h := (Nat.le_succ _).trans h

/-- The reclaim of queued items takes one off a queue that has one. -/
theorem reclaimQueuedLoop_takes (h : s.router.queue.items ≠ []) (reason : ReclaimReason) (n : ℕ)
    (k : UInt32) :
    (reclaimQueuedLoop S reason (n + 1) k s).2.router.queue.items.length <
      s.router.queue.items.length := by
  rcases reclaimQueuedLoop_cases S reason n k s with ⟨-, hnil⟩ | ⟨x, queue, hperm, -, heq⟩
  · exact absurd hnil h
  have hlength := hperm.length_eq
  rw [List.length_cons] at hlength
  rw [heq, ← hlength]
  have hqueue := reclaimItem_queue (S := S)
    { s with router := { s.router with queue := queue } } x reason
  have hle : (reclaimItem S { s with router := { s.router with queue := queue } } x
      reason).2.2.router.queue.items.length ≤ queue.items.length := by rw [hqueue]
  generalize reclaimItem S { s with router := { s.router with queue := queue } } x reason = r
    at hle ⊢
  simp only
  split
  · exact Nat.lt_succ_of_le hle
  · exact Nat.lt_succ_of_le ((length_keep S queue.items.length).reclaimQueuedLoop hle)

end

/-- The drain of the router takes an item off a queue that has one. -/
theorem drainLoop_takes (h : c.router.queue.items ≠ []) (n : ℕ) (k : UInt32) :
    (drainLoop (tasksSinks P K) (n + 1) k c).2.router.queue.items.length <
      c.router.queue.items.length := by
  have htakes := scheduleOnce_takes (P := P) (K := K) h
  rw [drainLoop]
  generalize rtosRouterScheduleOnce (tasksSinks P K) c = r at htakes ⊢
  split
  · exact htakes
  · exact lt_of_le_of_lt
      ((length_keep (tasksSinks P K) r.2.2.router.queue.items.length).drainLoop (le_refl _)) htakes

theorem exists_succ_of_ne_zero {budget : UInt32} (h : budget ≠ 0) : ∃ n, budget.toNat = n + 1 := by
  refine Nat.exists_eq_succ_of_ne_zero fun hzero => h ?_
  rw [← UInt32.toNat_inj]
  exact hzero

/-- What is held between two operations is what is queued. -/
theorem length_held_ledger : (ledger c).held.length = c.router.queue.items.length := by
  simp [ledger, Tasks.ledger]

/-- **A scheduler with an item** does work. -/
theorem schedulerTask_lessens (hP : P.Succeeds) (h : Sound c) (hb : (ledger c).Balanced)
    (hnormal : c.host.state = .normal) (hpending : c.host.pendingReclaims = [])
    (hqueue : c.router.queue.items ≠ []) {budget : UInt32} (hbudget : budget ≠ 0) :
    (ledger (rtosRouterSchedulerTaskRunOnce P K c budget).2).weight < (ledger c).weight := by
  have hfollows : ContextFollows P c.host.ipc.region (ledger c)
      (rtosRouterSchedulerTaskRunOnce P K c budget).2 := h.follows.schedulerTask
  refine (hfollows.weight hP h.books hb).resolve_right fun hstill => ?_
  have hheld := hstill.1.held
  rw [length_held_ledger, length_held_ledger] at hheld
  rcases rtosRouterSchedulerTaskRunOnce_cases P K c budget with
    ⟨hne, -⟩ | ⟨-, hne, -⟩ | ⟨-, -, heq⟩
  · exact hne hpending
  · exact hne hnormal
  · obtain ⟨n, hn⟩ := exists_succ_of_ne_zero hbudget
    rw [heq, rtosRouterDrain, hn] at hheld
    have htakes := drainLoop_takes (P := P) (K := K) hqueue n 0
    omega

/-- **A retry with something to write and room for it** does work. -/
theorem retry_lessens (hP : P.Succeeds) (h : Sound c) (hb : (ledger c).Balanced)
    (hfrozen : c.host.WellFrozen) (hpending : c.host.pendingReclaims ≠ [])
    (hroom : c.host.ipc.region.view.reclaim = []) {budget : UInt32} (hbudget : budget ≠ 0) :
    (ledger { c with host := (rtosTasksRetryPendingReclaims P K c.host budget).2 }).weight <
      (ledger c).weight := by
  have hfollows : ContextFollows P c.host.ipc.region (ledger c)
      { c with host := (rtosTasksRetryPendingReclaims P K c.host budget).2 } :=
    h.follows.retryPendingReclaims
  refine (hfollows.weight hP h.books hb).resolve_right fun hstill => ?_
  obtain ⟨hdrop, -⟩ := rtosTasksRetryPendingReclaims_exact (K := K) hP hfrozen h.valid budget
  have hpending' : (rtosTasksRetryPendingReclaims P K c.host budget).2.pendingReclaims =
      c.host.pendingReclaims := hstill.1.pending
  have hlength := congrArg List.length (hdrop.symm.trans hpending')
  obtain ⟨n, hn⟩ := exists_succ_of_ne_zero hbudget
  have hpos := List.length_pos_iff.mpr hpending
  simp only [List.length_drop, retriedCount, reclaimRoom, hroom, List.length_nil, hn] at hlength
  omega

/-- A recovery with nothing frozen and something queued takes it off. -/
theorem recoverFrames_takes (hP : P.Succeeds) (h : ContextFollows P R L c) (hL : L.Books)
    (hb : L.Balanced) (hpending : c.host.pendingReclaims = []) (hqueue : c.router.queue.items ≠ [])
    {budget : UInt32} (hbudget : budget ≠ 0) :
    (recoverFrames P K c budget).2.router.queue.items.length < c.router.queue.items.length := by
  obtain ⟨n, hn⟩ := exists_succ_of_ne_zero hbudget
  rw [recoverFrames_thawed hP h hL hb budget (by rw [if_pos hpending]) hpending, hpending,
    List.length_nil, Nat.sub_zero, hn]
  exact reclaimQueuedLoop_takes hqueue _ _ _

/-- **The recovery task with nothing frozen** does work, or comes back to
the normal state. -/
theorem recoveryTask_lessens (hP : P.Succeeds) (h : Sound c) (hb : (ledger c).Balanced)
    (hintact : Intact c.host.ipc.region) (hstate : c.host.state = .recovery)
    (hpending : c.host.pendingReclaims = []) {budget : UInt32} (hbudget : budget ≠ 0) :
    (ledger (rtosRecoveryTaskRunOnce P K c budget).2).weight < (ledger c).weight ∨
      (rtosRecoveryTaskRunOnce P K c budget).2.host.state = .normal := by
  have hfollows : ContextFollows P c.host.ipc.region (ledger c)
      (rtosRecoveryTaskRunOnce P K c budget).2 := h.follows.recoveryTask
  obtain ⟨hipc, href, hfrozen, -, -⟩ := startRecovery_frames c
  have hstarted := startRecovery_follows h.follows (P := P)
  have hsame : (ledger (startRecovery c)) = ledger c := by
    unfold startRecovery
    simp only
    split
    · rfl
    · rfl
  by_cases hqueue : c.router.queue.items = []
  · -- nothing is held, so the recovery is over
    right
    have hnone : (recoveredFrames P K c budget) = startRecovery c := by
      unfold recoveredFrames
      rw [recoverFrames_thawed hP hstarted h.books hb budget
        (by rw [if_pos (hfrozen.trans hpending)]) (hfrozen.trans hpending)]
      exact reclaimQueuedLoop_nil (c := startRecovery c) hqueue _ _ _
    have hunclaimed : unclaimedFrameReferenceExists (startRecovery c).host = false := by
      unfold unclaimedFrameReferenceExists
      rw [List.any_eq_false]
      intro f _
      rw [href, no_reference hb hqueue hpending f]
      simp
    rcases rtosRecoveryTaskRunOnce_cases P K c budget with
      ⟨hne, -⟩ | ⟨-, ⟨hblocked, -⟩ | ⟨-, hmore, -⟩ | ⟨-, -, -, heq⟩⟩
    · exact absurd hstate hne
    · rw [hnone] at hblocked
      rcases hblocked with hne | hblocked
      · exact absurd (hfrozen.trans hpending) hne
      · rw [(startRecovery_frames c).2.2.2.2] at hblocked
        cases hblocked
    · rw [hnone] at hmore
      rcases hmore with hne | hmore
      · exact absurd hqueue hne
      · rw [hunclaimed] at hmore
        cases hmore
    · rw [heq, hnone]
      rcases finishRecovery_cases K (startRecovery c) with ⟨hfail, -⟩ | ⟨-, hnormal, -⟩
      · exact absurd (Intact.attach (by rw [hipc]; exact hintact)) hfail
      · exact hnormal
  · left
    refine (hfollows.weight hP h.books hb).resolve_right fun hstill => ?_
    have hheld := hstill.1.held
    rw [length_held_ledger, length_held_ledger] at hheld
    have htakes := recoverFrames_takes (K := K) hP hstarted h.books hb (hfrozen.trans hpending)
      hqueue hbudget
    have hleft : (rtosRecoveryTaskRunOnce P K c budget).2.router.queue.items =
        (recoverFrames P K (startRecovery c) budget).2.router.queue.items := by
      rcases rtosRecoveryTaskRunOnce_cases P K c budget with
        ⟨hne, -⟩ | ⟨-, ⟨-, heq⟩ | ⟨-, -, heq⟩ | ⟨-, -, -, heq⟩⟩
      · exact absurd hstate hne
      · rw [heq]
        rfl
      · rw [heq]
        rfl
      · rw [heq]
        exact congrArg PriorityQueue.items (finishRecovery_frames K _).1
    have hstart : (startRecovery c).router.queue.items = c.router.queue.items := rfl
    rw [hleft] at hheld
    rw [hstart] at htakes
    omega

end Rtos

end PutGateway
