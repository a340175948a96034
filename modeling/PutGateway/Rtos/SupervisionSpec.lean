import PutGateway.Rtos.TasksSpec
/-!
# Supervision follows the ledger

The heartbeat, error monitor and statistics tasks move no frame: they
write monitor, clock and state only. Recovery does: its three stages are
followed move by move, the last of them with an orphan for every
reference that nothing holds.
-/

namespace PutGateway

namespace Rtos

variable {P : Platform} {K : Clock} {t t' t'' : Tasks} {L : Ledger} {R : Region} {c c' : TasksContext}

/-! ## Tasks that move no frame -/

/-- The same region, references and frozen reclaims. -/
structure Tasks.SameFrames (t t' : Tasks) : Prop where
  ipc : t'.ipc = t.ipc
  references : t'.frameReferences = t.frameReferences
  pending : t'.pendingReclaims = t.pendingReclaims
  history : t'.history = t.history

theorem Tasks.SameFrames.trans (h : t.SameFrames t') (h' : t'.SameFrames t'') : t.SameFrames t'' :=
  ⟨h'.ipc.trans h.ipc, h'.references.trans h.references, h'.pending.trans h.pending,
    h'.history.trans h.history⟩

theorem ContextFollows.sameFrames (h : ContextFollows P R L c) (hhost : c.host.SameFrames c'.host)
    (hqueue : c'.router.queue = c.router.queue) : ContextFollows P R L c' :=
  h.congr hqueue hhost.ipc hhost.references hhost.pending hhost.history

theorem ContextFollows.statisticsTask (h : ContextFollows P R L c) :
    ContextFollows P R L (rtosStatisticsTaskRunOnce c).2 := h.congr rfl rfl rfl rfl rfl

theorem ContextFollows.observeLinuxHeartbeat {sequence : UInt32} (h : ContextFollows P R L c) :
    ContextFollows P R L { c with host := rtosTasksObserveLinuxHeartbeat K c.host sequence } :=
  h.congr rfl rfl rfl rfl rfl

theorem rtosHeartbeatTaskRunOnce_snd (K : Clock) (c : TasksContext) :
    c.host.SameFrames (rtosHeartbeatTaskRunOnce K c).2.host ∧
      (rtosHeartbeatTaskRunOnce K c).2.router.queue = c.router.queue := by
  unfold rtosHeartbeatTaskRunOnce
  simp only
  generalize rtosMonitorPollLinuxHeartbeat _ _ = polled
  generalize rtosEndpointHeartbeatScanTimeouts _ _ = scanned
  generalize (if scanned.1 > 0 then _ else polled.2) = monitor
  by_cases hdegrade : (polled.1 = .globalDegraded && (tasksNow K c.host).2.state = .normal) = true
  · rw [if_pos hdegrade]
    split
    · exact ⟨⟨rfl, rfl, rfl, rfl⟩, rfl⟩
    · exact ⟨⟨rfl, rfl, rfl, rfl⟩, rfl⟩
  · rw [if_neg hdegrade]
    split
    · exact ⟨⟨rfl, rfl, rfl, rfl⟩, rfl⟩
    · exact ⟨⟨rfl, rfl, rfl, rfl⟩, rfl⟩

theorem ContextFollows.heartbeatTask (h : ContextFollows P R L c) :
    ContextFollows P R L (rtosHeartbeatTaskRunOnce K c).2 :=
  h.sameFrames (rtosHeartbeatTaskRunOnce_snd K c).1 (rtosHeartbeatTaskRunOnce_snd K c).2

theorem watchRings_snd (nowMs : UInt32) (l : List (Fin 6)) (stuck : Bool × Bool) (t : Tasks) :
    t.SameFrames (watchRings nowMs l stuck t).2 := by
  induction l generalizing stuck t with
  | nil => exact ⟨rfl, rfl, rfl, rfl⟩
  | cons i rest ih =>
    rw [watchRings]
    refine Tasks.SameFrames.trans ?_ (ih _ _)
    exact ⟨rfl, rfl, rfl, rfl⟩

theorem watchPending_snd (nowMs : UInt32) (t : Tasks) : t.SameFrames (watchPending nowMs t).2 := by
  unfold watchPending
  simp only
  split
  · exact ⟨rfl, rfl, rfl, rfl⟩
  split
  · exact ⟨rfl, rfl, rfl, rfl⟩
  · exact ⟨rfl, rfl, rfl, rfl⟩

theorem watchStuck_sameFrames (nowMs : UInt32) (t : Tasks) : t.SameFrames (watchStuck nowMs t) := by
  have hrings := watchRings_snd nowMs (List.finRange 6) (false, false) t
  have hpending := watchPending_snd nowMs (watchRings nowMs (List.finRange 6) (false, false) t).2
  exact (hrings.trans hpending).trans ⟨rfl, rfl, rfl, rfl⟩

theorem noticeEpoch_snd (t : Tasks) : t.SameFrames (noticeEpoch t).2 := by
  unfold noticeEpoch
  simp only
  split
  · exact ⟨rfl, rfl, rfl, rfl⟩
  · exact ⟨rfl, rfl, rfl, rfl⟩

theorem rtosErrorMonitorTaskRunOnce_snd (K : Clock) (c : TasksContext) :
    c.host.SameFrames (rtosErrorMonitorTaskRunOnce K c).2.host ∧
      (rtosErrorMonitorTaskRunOnce K c).2.router.queue = c.router.queue := by
  unfold rtosErrorMonitorTaskRunOnce
  simp only
  split
  · exact ⟨⟨rfl, rfl, rfl, rfl⟩, rfl⟩
  split
  · exact ⟨⟨rfl, rfl, rfl, rfl⟩, rfl⟩
  have hnow : c.host.SameFrames (tasksNow K c.host).2 := ⟨rfl, rfl, rfl, rfl⟩
  have hwatched := (hnow.trans (noticeEpoch_snd _)).trans
    (watchStuck_sameFrames (tasksNow K c.host).1 _)
  exact ⟨hwatched.trans ⟨rfl, rfl, rfl, rfl⟩, rfl⟩

theorem ContextFollows.errorMonitorTask (h : ContextFollows P R L c) :
    ContextFollows P R L (rtosErrorMonitorTaskRunOnce K c).2 :=
  h.sameFrames (rtosErrorMonitorTaskRunOnce_snd K c).1 (rtosErrorMonitorTaskRunOnce_snd K c).2

/-! ## Recovery -/

/-- **Reclaiming orphans follows the ledger** of a router that holds
nothing. -/
theorem Follows.orphanLoop {budget : UInt32} {l : List (Fin 64)} {k : UInt32}
    (h : Follows P R L [] t) : Follows P R L [] (orphanLoop P K budget l k t).2 := by
  induction l generalizing t k with
  | nil => exact h
  | cons f rest ih =>
    unfold Rtos.orphanLoop
    split
    · exact h
    split
    · exact ih h
    · next hfound =>
      simp only [Bool.or_eq_true, Bool.not_eq_true', not_or, Bool.not_eq_false, Bool.not_eq_true]
        at hfound
      obtain ⟨hinUse, hpending⟩ := hfound
      have href : (t.ledger []).references f = some (t.frameReferences f).descriptor :=
        FrameReference.descriptor?_eq_some.mpr ⟨hinUse, rfl⟩
      have hnone : ∀ o ∈ (t.ledger []).pending, o.frameId ≠ frameIdOfIndex f := by
        intro o ho heq
        exact absurd (pendingReclaimExists_iff.mpr ⟨o, ho, heq⟩) (by rw [hpending]; decide)
      have horphan : Follows P R L [.orphan f] { t with history := t.history.countOrphan } :=
        h.move (.orphan href hnone rfl) (fun _ h => h) h.initialized h.valid.becomes_self rfl
      have hdone : Follows P R L []
          (rtosTasksReclaimSink P K (orphanOutput f (t.frameReferences f).descriptor)
            { t with history := t.history.countOrphan }).2 :=
        Follows.reclaimSink rfl rfl horphan
      simp only
      split
      · exact hdone
      · exact ih hdone

/-- An empty queue is counted as such. -/
theorem rtosRouterGetQueuedCount_eq_zero_iff {router : RouterContext} :
    rtosRouterGetQueuedCount router = 0 ↔ router.queue.items = [] := by
  have hbound : router.queue.items.length ≤ 64 := router.queue.bounded
  unfold rtosRouterGetQueuedCount
  rw [← UInt32.toNat_inj, UInt32.toNat_ofNat', ← List.length_eq_zero_iff, UInt32.toNat_zero]
  omega

/-- **What the three stages of the recovery keep, it keeps**: retrying,
reclaiming the queue, and reclaiming the orphans of an empty queue. -/
theorem recoverFrames_keeps {I : TasksContext → Prop}
    (hretry : ∀ c budget, I c →
      I { c with host := (rtosTasksRetryPendingReclaims P K c.host budget).2 })
    (hqueued : ∀ c budget, I c → I (rtosRouterReclaimQueued (tasksSinks P K) c .queueFull budget).2)
    (horphans : ∀ c budget, I c → c.router.queue.items = [] →
      I { c with host := (reclaimOrphanFrameReferences P K c.host budget).2 })
    (h : I c) (budget : UInt32) : I (recoverFrames P K c budget).2 := by
  unfold recoverFrames
  have hretried : I
      (if (budget > 0 && c.host.pendingReclaims != []) = true then
        let r := rtosTasksRetryPendingReclaims P K c.host budget
        (r.1, { c with host := r.2 })
      else ((0 : UInt32), c)).2 := by
    split
    · exact hretry c budget h
    · exact h
  simp only at hretried ⊢
  generalize (if (budget > 0 && c.host.pendingReclaims != []) = true then
    ((rtosTasksRetryPendingReclaims P K c.host budget).1,
      ({ c with host := (rtosTasksRetryPendingReclaims P K c.host budget).2 } : TasksContext))
    else ((0 : UInt32), c)) = retried at hretried ⊢
  generalize (if (budget > 0 && c.host.pendingReclaims != []) = true then
    budgetLeft retried.1 budget else budget) = remaining
  have hreclaimed : I
      (if (remaining > 0 && retried.2.host.pendingReclaims == []) = true then
        let r := rtosRouterReclaimQueued (tasksSinks P K) retried.2 .queueFull remaining
        (retried.1 + r.1, r.2)
      else (retried.1, retried.2)).2 := by
    split
    · exact hqueued _ _ hretried
    · exact hretried
  simp only at hreclaimed
  generalize (if (remaining > 0 && retried.2.host.pendingReclaims == []) = true then
    (retried.1 + (rtosRouterReclaimQueued (tasksSinks P K) retried.2 .queueFull remaining).1,
      (rtosRouterReclaimQueued (tasksSinks P K) retried.2 .queueFull remaining).2)
    else (retried.1, retried.2)) = reclaimed at hreclaimed ⊢
  generalize (if (remaining > 0 && retried.2.host.pendingReclaims == []) = true then
    budgetLeft reclaimed.1 budget else remaining) = remaining
  split
  · next hguard =>
    simp only [Bool.and_eq_true, decide_eq_true_eq, rtosRouterGetQueuedCount_eq_zero_iff] at hguard
    exact horphans _ _ hreclaimed hguard.1.2
  · exact hreclaimed

/-- **The stages of the recovery follow the ledger.** -/
theorem ContextFollows.recoverFrames {budget : UInt32} (h : ContextFollows P R L c) :
    ContextFollows P R L (recoverFrames P K c budget).2 := by
  refine recoverFrames_keeps (I := ContextFollows P R L) ?_ ?_ ?_ h budget
  · exact fun c budget h => h.retryPendingReclaims
  · exact fun c budget h => tasksSinks_keep.reclaimQueued .queueFull budget h
  · intro c budget h hempty
    have hitems := h
    unfold ContextFollows Queued at hitems
    rw [hempty] at hitems
    have hdone : Follows P R L (c.router.queue.items.map .item)
        (reclaimOrphanFrameReferences P K c.host budget).2 := by
      rw [hempty]
      exact hitems.orphanLoop
    exact hdone

/-- Setting a route table leaves the queue. -/
theorem rtosRouterSetRouteTable_queue {router : RouterContext} {table : RouteTable} :
    (rtosRouterSetRouteTable router table).2.queue = router.queue := by
  unfold rtosRouterSetRouteTable
  split_ifs <;> rfl

/-- The end of a recovery moves no frame. -/
theorem finishRecovery_snd (K : Clock) (c : TasksContext) (hinit : c.host.ipc.initialized = true) :
    c.host.SameFrames (finishRecovery K c).host ∧
      (finishRecovery K c).router.queue = c.router.queue := by
  unfold finishRecovery
  simp only [rtosShmIpcAttach_snd hinit]
  split
  · exact ⟨⟨rfl, rfl, rfl, rfl⟩, rfl⟩
  · have hqueue : ∀ router : RouterContext,
        (if router.routeTable.valid = true then router
          else (rtosRouterSetRouteTable router rtosRouterRouteTableDefault).2).queue =
            router.queue := by
      intro router
      split
      · rfl
      · exact rtosRouterSetRouteTable_queue
    exact ⟨⟨rfl, rfl, rfl, rfl⟩, hqueue _⟩

/-- **The recovery task follows the ledger.** -/
theorem ContextFollows.recoveryTask {budget : UInt32} (h : ContextFollows P R L c) :
    ContextFollows P R L (rtosRecoveryTaskRunOnce P K c budget).2 := by
  unfold rtosRecoveryTaskRunOnce
  simp only
  split
  · exact h
  have hstarted : ContextFollows P R L
      { c with
        host :=
          if ({ c.host with state := .recovery } : Tasks).monitor.recovery.recoveryActive = true then
            { c.host with state := .recovery }
          else
            { c.host with
              state := .recovery
              monitor := rtosMonitorMarkRecoveryStarted c.host.monitor } } := by
    split
    · exact h.congr rfl rfl rfl rfl rfl
    · exact h.congr rfl rfl rfl rfl rfl
  have hdone : ContextFollows P R L (Rtos.recoverFrames P K _ budget).2 := hstarted.recoverFrames
  generalize Rtos.recoverFrames P K _ budget = r at hdone ⊢
  split
  · exact hdone.congr rfl rfl rfl rfl rfl
  split
  · exact hdone.congr rfl rfl rfl rfl rfl
  · obtain ⟨hhost, hqueue⟩ := finishRecovery_snd K r.2 hdone.initialized
    exact hdone.sameFrames hhost hqueue

end Rtos

end PutGateway
