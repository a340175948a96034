import PutGateway.Rtos.Freezing
import PutGateway.Rtos.Returning
/-!
# What is frozen stays where it is

A task that starts with something frozen retries it and moves nothing
else until all of it is written. Within a call, the event task stops at
the first reclaim it freezes; the scheduler and the recovery go on with
what their budget still allows. `course` is what a task goes through as
its budget is spent, and `freeze_holds_iff` says when nothing moves past
a frozen reclaim.
-/

namespace PutGateway

namespace Rtos

variable {P : Platform} {K : Clock} {R : Region} {L : Ledger} {t t' : Tasks} {c c' c'' : TasksContext}
  {f g : ℕ → TasksContext}

/-! ## Contexts alike -/

/-- The same RX rings, the same queue, the same frozen reclaims. -/
structure Alike (c c' : TasksContext) : Prop where
  rx : c'.host.ipc.region.view.rx = c.host.ipc.region.view.rx
  queue : c'.router.queue.items = c.router.queue.items
  pending : c'.host.pendingReclaims = c.host.pendingReclaims

theorem Alike.refl (c : TasksContext) : Alike c c := ⟨rfl, rfl, rfl⟩

theorem Alike.symm (h : Alike c c') : Alike c' c := ⟨h.rx.symm, h.queue.symm, h.pending.symm⟩

theorem Rests.alike {d d' : TasksContext} (h : Rests c c') (hc : Alike c d) (hc' : Alike c' d') :
    Rests d d' := by
  refine ⟨(hc'.rx.trans h.rx).trans hc.rx.symm, (hc'.queue.trans h.queue).trans hc.queue.symm, ?_⟩
  rw [hc'.pending, hc.pending]
  exact h.pending

/-- Runs that are alike stay frozen alike. -/
theorem StaysFrozen.alike (h : ∀ k, Alike (f k) (g k)) (hf : StaysFrozen f) : StaysFrozen g := by
  intro k m hkm hfrozen
  refine (hf k m hkm fun j hj hj' => ?_).alike (h k) (h m)
  rw [← (h j).pending]
  exact hfrozen j hj hj'

theorem staysFrozen_congr (h : ∀ k, Alike (f k) (g k)) : StaysFrozen f ↔ StaysFrozen g :=
  ⟨StaysFrozen.alike h, StaysFrozen.alike fun k => (h k).symm⟩

/-- A run at rest up to where nothing is frozen. -/
theorem staysFrozen_add {p : ℕ} (hbefore : ∀ k m, k ≤ m → m < p → Rests (f k) (f m))
    (hthawed : (f p).host.pendingReclaims = []) (hafter : ∀ k, Alike (f (p + k)) (g k)) :
    StaysFrozen f ↔ StaysFrozen g := by
  constructor
  · intro hf k m hkm hfrozen
    refine (hf (p + k) (p + m) (by omega) fun j hj hj' => ?_).alike (hafter k) (hafter m)
    obtain ⟨i, rfl⟩ : ∃ i, j = p + i := ⟨j - p, by omega⟩
    rw [← (hafter i).pending]
    exact hfrozen i (by omega) (by omega)
  · intro hg k m hkm hfrozen
    by_cases hk : p ≤ k
    · obtain ⟨i, rfl⟩ : ∃ i, k = p + i := ⟨k - p, by omega⟩
      obtain ⟨j, rfl⟩ : ∃ j, m = p + j := ⟨m - p, by omega⟩
      refine (hg i j (by omega) fun n hn hn' => ?_).alike (hafter i).symm (hafter j).symm
      rw [(hafter n).pending]
      exact hfrozen (p + n) (by omega) (by omega)
    · by_cases hm : m < p
      · exact hbefore k m hkm hm
      · exact absurd hthawed (hfrozen p (by omega) (by omega))

/-! ## Retrying -/

/-- With a larger budget a retry rests at what a smaller one leaves. -/
theorem retry_rests (hP : P.Succeeds) (h : c.host.WellFrozen) (hv : c.host.ipc.region.Valid)
    {budget budget' : UInt32} (hle : budget ≤ budget') :
    Rests { c with host := (rtosTasksRetryPendingReclaims P K c.host budget).2 }
      { c with host := (rtosTasksRetryPendingReclaims P K c.host budget').2 } := by
  have hquiet := (retry_givesBack (P := P) (K := K) c budget).quiet
  have hquiet' := (retry_givesBack (P := P) (K := K) c budget').quiet
  obtain ⟨hdrop, -⟩ := rtosTasksRetryPendingReclaims_exact (K := K) hP h hv budget
  obtain ⟨hdrop', -⟩ := rtosTasksRetryPendingReclaims_exact (K := K) hP h hv budget'
  have hcount := UInt32.le_iff_toNat_le.mp hle
  refine ⟨hquiet'.view_rx.trans hquiet.view_rx.symm, rfl, ?_⟩
  simp only [hdrop, hdrop', List.length_drop, retriedCount]
  omega

/-- A retry takes nothing and leaves the queue. -/
theorem rests_retry (hP : P.Succeeds) (h : c.host.WellFrozen) (hv : c.host.ipc.region.Valid)
    (budget : UInt32) :
    Rests c { c with host := (rtosTasksRetryPendingReclaims P K c.host budget).2 } := by
  have hquiet := (retry_givesBack (P := P) (K := K) c budget).quiet
  obtain ⟨hdrop, -⟩ := rtosTasksRetryPendingReclaims_exact (K := K) hP h hv budget
  refine ⟨hquiet.view_rx, rfl, ?_⟩
  simp only [hdrop, List.length_drop]
  omega

/-- A budget larger than what is frozen makes no difference. -/
theorem retryLoop_of_done {n n' : ℕ} {k : UInt32} (hle : n ≤ n')
    (hdone : (retryLoop P K n k t).2.pendingReclaims = []) :
    retryLoop P K n' k t = retryLoop P K n k t := by
  induction n generalizing t k n' with
  | zero =>
    have hnil : t.pendingReclaims = [] := hdone
    cases n' with
    | zero => rfl
    | succ n' =>
      unfold retryLoop
      rw [hnil]
  | succ n ih =>
    obtain ⟨m, rfl⟩ : ∃ m, n' = m + 1 := ⟨n' - 1, by omega⟩
    unfold retryLoop at hdone ⊢
    split
    · rfl
    next output rest hpending =>
    rw [hpending] at hdone
    simp only at hdone ⊢
    split
    · rfl
    split
    · rfl
    · next hfull hok =>
      rw [if_neg hfull, if_neg hok] at hdone
      exact ih (by omega) hdone

/-! ## A budget cut short -/

/-- A budget cut to `k`. -/
def cutBudget (budget : UInt32) (k : ℕ) : UInt32 := UInt32.ofNat (min k budget.toNat)

@[simp] theorem toNat_cutBudget (budget : UInt32) (k : ℕ) :
    (cutBudget budget k).toNat = min k budget.toNat := by
  have hlt := budget.toNat_lt
  unfold cutBudget
  rw [UInt32.toNat_ofNat']
  exact Nat.mod_eq_of_lt (by omega)

theorem cutBudget_mono {budget : UInt32} {k m : ℕ} (h : k ≤ m) :
    cutBudget budget k ≤ cutBudget budget m := by
  rw [UInt32.le_iff_toNat_le, toNat_cutBudget, toNat_cutBudget]
  omega

/-! ## The scheduler -/

/-- **When the scheduler stops at what it has frozen.** -/
theorem scheduler_staysFrozen_iff (hP : P.Succeeds) (h : ContextFollows P R L c)
    (hfrozen : c.host.WellFrozen) (budget : UInt32) :
    StaysFrozen (fun k => (rtosRouterSchedulerTaskRunOnce P K c (cutBudget budget k)).2) ↔
      (c.host.pendingReclaims = [] → c.host.state = .normal →
        givenUp K c.router.routeTable (min budget.toNat c.router.queue.items.length - 1)
          c.router.queue c.host.ticks (freeTx c.host) ≤ reclaimRoom c.host.ipc.region) := by
  by_cases hpending : c.host.pendingReclaims = []
  swap
  · refine iff_of_true (fun k m hkm _ => ?_) (fun hnil => absurd hnil hpending)
    unfold rtosRouterSchedulerTaskRunOnce
    simp only [if_pos hpending]
    exact retry_rests hP hfrozen h.valid (cutBudget_mono hkm)
  by_cases hnormal : c.host.state = .normal
  swap
  · refine iff_of_true (fun k m _ _ => ?_) (fun _ hn => absurd hn hnormal)
    unfold rtosRouterSchedulerTaskRunOnce
    simp only [if_neg (not_not.mpr hpending), if_pos hnormal]
    exact .refl _
  have hrun : (fun k => (rtosRouterSchedulerTaskRunOnce P K c (cutBudget budget k)).2) =
      fun k => (drainLoop (tasksSinks P K) (min k budget.toNat) 0 c).2 := by
    funext k
    unfold rtosRouterSchedulerTaskRunOnce rtosRouterDrain
    rw [if_neg (not_not.mpr hpending), if_neg (not_not.mpr hnormal), toNat_cutBudget]
  rw [hrun, drain_staysFrozen_iff hP h hpending]
  exact ⟨fun hle _ _ => hle, fun hle => hle hpending hnormal⟩

/-! ## The recovery -/

/-- With nothing queued, frozen or unheld there is no orphan. -/
theorem orphanLoop_none (budget : UInt32) (l : List (Fin 64)) (k : UInt32)
    (h : ∀ f, (t.frameReferences f).inUse = false) : (orphanLoop P K budget l k t).2 = t := by
  induction l with
  | nil => rfl
  | cons f rest ih =>
    unfold orphanLoop
    split
    · rfl
    · rw [h f, Bool.not_false, Bool.true_or, if_pos rfl]
      exact ih

/-- Where nothing is queued or frozen, a balanced context holds nothing. -/
theorem ContextFollows.no_reference (hP : P.Succeeds) (h : ContextFollows P R L c) (hL : L.Books)
    (hb : L.Balanced) (hqueue : c.router.queue.items = []) (hpending : c.host.pendingReclaims = [])
    (f : Fin 64) : (c.host.frameReferences f).inUse = false := by
  obtain ⟨es, hmoves, hfaults⟩ := h.moves
  have hbalanced := (hmoves.balanced hL hb (hfaults hP)).1
  by_contra hinUse
  rw [Bool.not_eq_false] at hinUse
  have hid := hbalanced f (c.host.frameReferences f).descriptor
    (FrameReference.descriptor?_eq_some.mpr ⟨hinUse, rfl⟩)
  simp [Ledger.ids, Tasks.ledger, hqueue, hpending] at hid

/-- What a recovery does once nothing is frozen any more: it works off the
queue, and finds no orphan after it. -/
private theorem recoverFrames_tail (hP : P.Succeeds) (h : ContextFollows P R L c) (hL : L.Books)
    (hb : L.Balanced) (hpending : c.host.pendingReclaims = []) (retried remaining budget : UInt32) :
    let queued : UInt32 × TasksContext :=
      if remaining > 0 && c.host.pendingReclaims == [] then
        let r := rtosRouterReclaimQueued (tasksSinks P K) c .queueFull remaining
        (retried + r.1, r.2)
      else (retried, c)
    let left := if remaining > 0 && c.host.pendingReclaims == [] then budgetLeft queued.1 budget
      else remaining
    (if left > 0 && rtosRouterGetQueuedCount queued.2.router = 0 &&
        queued.2.host.pendingReclaims == [] then
      let r := reclaimOrphanFrameReferences P K queued.2.host left
      (queued.1 + r.1, ({ queued.2 with host := r.2 } : TasksContext))
    else (queued.1, queued.2)).2 =
      (reclaimQueuedLoop (tasksSinks P K) .queueFull remaining.toNat 0 c).2 := by
  intro queued left
  -- a budget of 0 takes nothing off the queue either
  have hqueued : queued.2 = (reclaimQueuedLoop (tasksSinks P K) .queueFull remaining.toNat 0 c).2 := by
    by_cases hmore : remaining > 0
    · have hguard : (remaining > 0 && c.host.pendingReclaims == []) = true := by
        simp [hmore, hpending]
      have heq : queued = if (remaining > 0 && c.host.pendingReclaims == []) = true then
          let r := rtosRouterReclaimQueued (tasksSinks P K) c .queueFull remaining
          (retried + r.1, r.2)
        else (retried, c) := rfl
      rw [heq, if_pos hguard]
      rfl
    · have hzero : remaining = 0 := by
        have hle := UInt32.not_lt.mp hmore
        rw [← UInt32.toNat_inj]
        rw [UInt32.le_iff_toNat_le] at hle
        simpa using hle
      have heq : queued = if (remaining > 0 && c.host.pendingReclaims == []) = true then
          let r := rtosRouterReclaimQueued (tasksSinks P K) c .queueFull remaining
          (retried + r.1, r.2)
        else (retried, c) := rfl
      rw [heq, if_neg (by simp [hzero]), hzero]
      rfl
  have hfollows : ContextFollows P R L queued.2 := by
    rw [hqueued]
    exact tasksSinks_keep.reclaimQueued .queueFull remaining h
  rw [← hqueued]
  split
  · next hguard =>
    simp only [Bool.and_eq_true, decide_eq_true_eq, rtosRouterGetQueuedCount_eq_zero_iff,
      beq_iff_eq] at hguard
    -- nothing is queued or frozen, so no reference is an orphan
    have hnone := hfollows.no_reference hP hL hb hguard.1.2 hguard.2
    have hkept := orphanLoop_none (P := P) (K := K) left (List.finRange 64) 0 hnone
    simp only [reclaimOrphanFrameReferences, hkept]
  · rfl

/-- **What a recovery gives back** once what was frozen is written: what
its budget still reaches of the queue. -/
theorem recoverFrames_thawed (hP : P.Succeeds) (h : ContextFollows P R L c) (hL : L.Books)
    (hb : L.Balanced) (budget : UInt32) {c₁ : TasksContext}
    (hretry : c₁ = if c.host.pendingReclaims = [] then c
      else { c with host := (rtosTasksRetryPendingReclaims P K c.host budget).2 })
    (hpending : c₁.host.pendingReclaims = []) :
    (recoverFrames P K c budget).2 =
      (reclaimQueuedLoop (tasksSinks P K) .queueFull
        (budget.toNat - c.host.pendingReclaims.length) 0 c₁).2 := by
  by_cases hnil : c.host.pendingReclaims = []
  · rw [if_pos hnil] at hretry
    subst hretry
    have htail := recoverFrames_tail (K := K) hP h hL hb hpending 0 budget budget
    have hguard : ¬ (budget > 0 && c₁.host.pendingReclaims != []) = true := by simp [hnil]
    rw [hnil, List.length_nil, Nat.sub_zero]
    unfold recoverFrames
    simp only [if_neg hguard] at htail ⊢
    exact htail
  · rw [if_neg hnil] at hretry
    subst hretry
    have hfollows : ContextFollows P R L
        { c with host := (rtosTasksRetryPendingReclaims P K c.host budget).2 } :=
      h.retryPendingReclaims
    obtain ⟨w, hle, hcount, -, hlength, -⟩ := retry_counts (P := P) (K := K) c.host budget
    rw [hpending, List.length_nil, Nat.zero_add] at hlength
    -- what was frozen has been written, so there was a budget
    have hpos : 0 < c.host.pendingReclaims.length := List.length_pos_iff.mpr hnil
    have hbudget : budget > 0 := by
      rw [gt_iff_lt, UInt32.lt_iff_toNat_lt]
      simp only [UInt32.toNat_zero]
      omega
    have hguard : (budget > 0 && c.host.pendingReclaims != []) = true := by simp [hbudget, hnil]
    have htail := recoverFrames_tail (K := K) hP hfollows hL hb hpending
      (rtosTasksRetryPendingReclaims P K c.host budget).1
      (budgetLeft (rtosTasksRetryPendingReclaims P K c.host budget).1 budget) budget
    rw [toNat_budgetLeft (by omega), hcount, ← hlength] at htail
    unfold recoverFrames
    simp only [if_pos hguard] at htail ⊢
    exact htail

/-- While something is frozen a recovery only retries. -/
theorem recoverFrames_stuck (budget : UInt32)
    (hpending : (rtosTasksRetryPendingReclaims P K c.host budget).2.pendingReclaims ≠ [])
    (hfrozen : c.host.pendingReclaims ≠ []) :
    (recoverFrames P K c budget).2 =
      { c with host := (rtosTasksRetryPendingReclaims P K c.host budget).2 } := by
  -- a retry with no budget is skipped, and would change nothing
  have hzero : budget = 0 →
      (rtosTasksRetryPendingReclaims P K c.host budget).2 = c.host := by
    rintro rfl
    have hloop : retryLoop P K (0 : UInt32).toNat 0 c.host = (0, c.host) := rfl
    unfold rtosTasksRetryPendingReclaims
    rw [hloop]
    simp only
    rw [if_neg hfrozen]
  have hretried : (if (budget > 0 && c.host.pendingReclaims != []) = true then
        let r := rtosTasksRetryPendingReclaims P K c.host budget
        (r.1, ({ c with host := r.2 } : TasksContext))
      else ((0 : UInt32), c)).2 =
      { c with host := (rtosTasksRetryPendingReclaims P K c.host budget).2 } := by
    split
    · rfl
    · next hguard =>
      have hnone : budget = 0 := by
        by_contra hne
        have hpos : budget > 0 := UInt32.pos_iff_ne_zero.mpr hne
        exact hguard (by simp [hpos, hfrozen])
      rw [hzero hnone]
  unfold recoverFrames
  simp only at hretried ⊢
  generalize (if (budget > 0 && c.host.pendingReclaims != []) = true then
    ((rtosTasksRetryPendingReclaims P K c.host budget).1,
      ({ c with host := (rtosTasksRetryPendingReclaims P K c.host budget).2 } : TasksContext))
    else ((0 : UInt32), c)) = retried at hretried ⊢
  have hstuck : (retried.2.host.pendingReclaims == []) = false := by
    rw [hretried]
    simpa using hpending
  simp only [hstuck, Bool.and_false, Bool.false_eq_true, if_false]
  exact hretried

/-- A recovery moves what its stages move. -/
theorem recoveryTask_alike (budget : UInt32) (hruns : c.host.state = .recovery ∨ c.host.Recovering) :
    Alike (recoverFrames P K (startRecovery c) budget).2
      (rtosRecoveryTaskRunOnce P K c budget).2 := by
  rcases rtosRecoveryTaskRunOnce_cases P K c budget with
    ⟨hstate, hrecovering, -⟩ | ⟨-, ⟨-, heq⟩ | ⟨-, -, heq⟩ | ⟨-, -, -, heq⟩⟩
  · exact absurd hruns (not_or.mpr ⟨hstate, hrecovering⟩)
  · rw [heq]
    exact ⟨rfl, rfl, rfl⟩
  · rw [heq]
    exact ⟨rfl, rfl, rfl⟩
  · rw [heq]
    obtain ⟨hqueue, hpending, -, hregion⟩ := finishRecovery_frames K (recoveredFrames P K c budget)
    exact ⟨congrArg (fun R : Region => R.view.rx) hregion, congrArg PriorityQueue.items hqueue,
      hpending⟩

/-- A retry that gets to the end of what is frozen: budgets from there on
leave the same. -/
theorem retry_thaws (hP : P.Succeeds) (h : ContextFollows P R L c) (hfrozen : c.host.WellFrozen)
    {budget : UInt32} (hbudget : c.host.pendingReclaims.length ≤ budget.toNat)
    (hroom : c.host.pendingReclaims.length ≤ reclaimRoom c.host.ipc.region) :
    ∃ c₁ : TasksContext,
      (∀ k, c₁ = if c.host.pendingReclaims = [] then c else
        { c with
          host := (rtosTasksRetryPendingReclaims P K c.host
            (cutBudget budget (c.host.pendingReclaims.length + k))).2 }) ∧
      c₁.host.pendingReclaims = [] ∧ c₁.router.queue = c.router.queue ∧
      reclaimRoom c₁.host.ipc.region =
        reclaimRoom c.host.ipc.region - c.host.pendingReclaims.length ∧
      ContextFollows P R L c₁ := by
  generalize hlength : c.host.pendingReclaims.length = p at hbudget hroom ⊢
  by_cases hnil : c.host.pendingReclaims = []
  · have hzero : p = 0 := by rw [← hlength, hnil, List.length_nil]
    exact ⟨c, fun k => by rw [if_pos hnil], hnil, rfl, by rw [hzero, Nat.sub_zero], h⟩
  · have hcut : (cutBudget budget p).toNat = p := by
      rw [toNat_cutBudget]
      omega
    have hcount : retriedCount c.host p = p := by
      unfold retriedCount
      omega
    obtain ⟨hdrop, -, hleft', -⟩ := rtosTasksRetryPendingReclaims_exact (K := K) hP hfrozen h.valid
      (cutBudget budget p)
    rw [hcut, hcount] at hdrop hleft'
    rw [← hlength, List.drop_length, hlength] at hdrop
    refine ⟨{ c with
      host := (rtosTasksRetryPendingReclaims P K c.host (cutBudget budget p)).2 }, fun k => ?_,
      hdrop, rfl, hleft', h.retryPendingReclaims⟩
    rw [if_neg hnil]
    congr 1
    -- a longer budget finds nothing more to retry
    have hdone : (retryLoop P K (cutBudget budget p).toNat 0 c.host).2.pendingReclaims = [] := by
      have hnil' := hdrop
      unfold rtosTasksRetryPendingReclaims at hnil'
      simp only at hnil'
      split at hnil'
      · next hnil'' => exact hnil''
      · exact hnil'
    unfold rtosTasksRetryPendingReclaims
    rw [retryLoop_of_done (UInt32.le_iff_toNat_le.mp (cutBudget_mono (Nat.le_add_right p k))) hdone]

/-- A recovery whose budget is what is frozen leaves nothing frozen, where
there is room. -/
theorem recoverFrames_thaws (hP : P.Succeeds) (h : ContextFollows P R L c) (hL : L.Books)
    (hb : L.Balanced) (hfrozen : c.host.WellFrozen) {budget : UInt32}
    (hbudget : c.host.pendingReclaims.length ≤ budget.toNat)
    (hroom : c.host.pendingReclaims.length ≤ reclaimRoom c.host.ipc.region) :
    (recoverFrames P K c (cutBudget budget c.host.pendingReclaims.length)).2.host.pendingReclaims =
      [] := by
  obtain ⟨c₁, hc₁, hpending, -⟩ := retry_thaws (K := K) hP h hfrozen hbudget hroom
  have hnone : (cutBudget budget c.host.pendingReclaims.length).toNat -
      c.host.pendingReclaims.length = 0 := by
    rw [toNat_cutBudget]
    omega
  have hstart := hc₁ 0
  rw [Nat.add_zero] at hstart
  rw [recoverFrames_thawed hP h hL hb _ hstart hpending, hnone]
  exact hpending

/-- **When the stages of a recovery stop at what they have frozen.** -/
theorem recoverFrames_staysFrozen_iff (hP : P.Succeeds) (h : ContextFollows P R L c) (hL : L.Books)
    (hb : L.Balanced) (hfrozen : c.host.WellFrozen) (budget : UInt32) :
    StaysFrozen (fun k => (recoverFrames P K c (cutBudget budget k)).2) ↔
      (c.host.pendingReclaims.length ≤ budget.toNat →
        c.host.pendingReclaims.length ≤ reclaimRoom c.host.ipc.region →
        min (budget.toNat - c.host.pendingReclaims.length) c.router.queue.items.length ≤
          reclaimRoom c.host.ipc.region - c.host.pendingReclaims.length + 1) := by
  -- what a retry leaves frozen, as its budget grows
  have hretry : ∀ k, (rtosTasksRetryPendingReclaims P K c.host
      (cutBudget budget k)).2.pendingReclaims =
        c.host.pendingReclaims.drop (retriedCount c.host (min k budget.toNat)) := by
    intro k
    obtain ⟨hdrop, -⟩ := rtosTasksRetryPendingReclaims_exact (K := K) hP hfrozen h.valid
      (cutBudget budget k)
    rw [toNat_cutBudget] at hdrop
    exact hdrop
  have hleft : ∀ k, retriedCount c.host (min k budget.toNat) < c.host.pendingReclaims.length →
      (recoverFrames P K c (cutBudget budget k)).2 =
        { c with host := (rtosTasksRetryPendingReclaims P K c.host (cutBudget budget k)).2 } := by
    intro k hlt
    refine recoverFrames_stuck _ ?_ ?_
    · rw [hretry, ← List.length_pos_iff, List.length_drop]
      omega
    · rw [← List.length_pos_iff]
      omega
  by_cases hdone : c.host.pendingReclaims.length ≤ budget.toNat ∧
      c.host.pendingReclaims.length ≤ reclaimRoom c.host.ipc.region
  swap
  · -- the retry does not get to the end
    refine iff_of_true (fun k m hkm _ => ?_) fun h1 h2 => absurd ⟨h1, h2⟩ hdone
    have hshort : ∀ k, retriedCount c.host (min k budget.toNat) < c.host.pendingReclaims.length := by
      intro k
      unfold retriedCount
      omega
    simp only [hleft k (hshort k), hleft m (hshort m)]
    exact retry_rests hP hfrozen h.valid (cutBudget_mono hkm)
  obtain ⟨hbudget, hroom⟩ := hdone
  have hrests : ∀ k m, k ≤ m → m < c.host.pendingReclaims.length →
      Rests (recoverFrames P K c (cutBudget budget k)).2
        (recoverFrames P K c (cutBudget budget m)).2 := by
    intro k m hkm hm
    rw [hleft k (by unfold retriedCount; omega), hleft m (by unfold retriedCount; omega)]
    exact retry_rests hP hfrozen h.valid (cutBudget_mono hkm)
  have hthawed := recoverFrames_thaws (K := K) hP h hL hb hfrozen hbudget hroom
  obtain ⟨c₁, hc₁, hpending, hqueue, hspent, hfollows⟩ :=
    retry_thaws (K := K) hP h hfrozen hbudget hroom
  generalize hlength : c.host.pendingReclaims.length = p at hbudget hroom hrests hthawed hc₁ hspent
  have hafter : ∀ k, (recoverFrames P K c (cutBudget budget (p + k))).2 =
      (reclaimQueuedLoop (tasksSinks P K) .queueFull (min k (budget.toNat - p)) 0 c₁).2 := by
    intro k
    have hcount : min (p + k) budget.toNat - p = min k (budget.toNat - p) := by omega
    rw [recoverFrames_thawed hP h hL hb _ (hc₁ k) hpending, toNat_cutBudget, hlength, hcount]
  rw [staysFrozen_add hrests hthawed fun k => by rw [hafter k]; exact Alike.refl _,
    reclaimQueued_staysFrozen_iff hP hfollows hpending, hqueue, hspent]
  exact ⟨fun hle _ _ => hle, fun hle => hle hbudget hroom⟩

/-- The start of a recovery moves nothing. -/
theorem startRecovery_follows (h : ContextFollows P R L c) :
    ContextFollows P R L (startRecovery c) := by
  obtain ⟨hipc, href, hpending, -, -⟩ := startRecovery_frames c
  have hhistory : (startRecovery c).host.history = c.host.history := by
    unfold startRecovery
    simp only
    split
    · rfl
    · rfl
  have hstart : Follows P R L (c.router.queue.items.map .item) (startRecovery c).host :=
    Follows.congr h hipc href hpending hhistory
  exact hstart

/-- A recovery that is not asked for does nothing. -/
theorem rtosRecoveryTaskRunOnce_of_not (hruns : ¬ (c.host.state = .recovery ∨ c.host.Recovering))
    (budget : UInt32) : (rtosRecoveryTaskRunOnce P K c budget).2 = c := by
  rcases rtosRecoveryTaskRunOnce_cases P K c budget with ⟨-, -, heq⟩ | ⟨hruns', -⟩
  · exact heq
  · exact absurd hruns' hruns

/-- **When a recovery stops at what it has frozen.** -/
theorem recovery_staysFrozen_iff (hP : P.Succeeds) (h : ContextFollows P R L c) (hL : L.Books)
    (hb : L.Balanced) (hfrozen : c.host.WellFrozen) (budget : UInt32) :
    StaysFrozen (fun k => (rtosRecoveryTaskRunOnce P K c (cutBudget budget k)).2) ↔
      (c.host.state = .recovery ∨ c.host.Recovering →
        c.host.pendingReclaims.length ≤ budget.toNat →
        c.host.pendingReclaims.length ≤ reclaimRoom c.host.ipc.region →
        min (budget.toNat - c.host.pendingReclaims.length) c.router.queue.items.length ≤
          reclaimRoom c.host.ipc.region - c.host.pendingReclaims.length + 1) := by
  by_cases hruns : c.host.state = .recovery ∨ c.host.Recovering
  swap
  · refine iff_of_true (fun k m _ _ => ?_) fun hruns' => absurd hruns' hruns
    simp only [rtosRecoveryTaskRunOnce_of_not hruns]
    exact .refl c
  obtain ⟨hipc, -, hpending, -, -⟩ := startRecovery_frames c
  have hwell : (startRecovery c).host.WellFrozen := hfrozen.congr (by rw [hipc]) hpending
  rw [← staysFrozen_congr fun k => recoveryTask_alike (cutBudget budget k) hruns,
    recoverFrames_staysFrozen_iff hP (startRecovery_follows h) hL hb hwell, hpending, hipc]
  have hqueue : (startRecovery c).router.queue = c.router.queue := rfl
  rw [hqueue]
  exact ⟨fun hle _ => hle, fun hle => hle hruns⟩

/-- A recovery that has something frozen at every point moves nothing. -/
theorem recovery_rests (hP : P.Succeeds) (h : ContextFollows P R L c) (hL : L.Books)
    (hb : L.Balanced) (hfrozen : c.host.WellFrozen) (budget : UInt32)
    (hstart : c.host.pendingReclaims ≠ [])
    (hall : ∀ k, (rtosRecoveryTaskRunOnce P K c (cutBudget budget k)).2.host.pendingReclaims ≠ []) :
    Rests c (rtosRecoveryTaskRunOnce P K c budget).2 := by
  by_cases hruns : c.host.state = .recovery ∨ c.host.Recovering
  swap
  · rw [rtosRecoveryTaskRunOnce_of_not hruns]
    exact .refl c
  obtain ⟨hipc, -, hpending, -, -⟩ := startRecovery_frames c
  have hfollows : ContextFollows P R L (startRecovery c) := startRecovery_follows h
  have hwell : (startRecovery c).host.WellFrozen := hfrozen.congr (by rw [hipc]) hpending
  have hsame : Alike c (startRecovery c) := ⟨by rw [hipc], rfl, hpending⟩
  refine Rests.alike ?_ hsame.symm (recoveryTask_alike budget hruns)
  have hfrozen' : (startRecovery c).host.pendingReclaims ≠ [] := by
    rw [hpending]
    exact hstart
  have hleft : (rtosTasksRetryPendingReclaims P K (startRecovery c).host budget).2.pendingReclaims ≠
      [] := by
    intro hnil
    obtain ⟨hdrop, -⟩ := rtosTasksRetryPendingReclaims_exact (K := K) hP hwell hfollows.valid budget
    rw [hdrop, List.drop_eq_nil_iff] at hnil
    unfold retriedCount at hnil
    -- a budget that is just enough leaves nothing frozen
    have hthaws := recoverFrames_thaws (K := K) hP hfollows hL hb hwell
      (show _ ≤ budget.toNat by omega) (by omega)
    have halike := recoveryTask_alike (P := P) (K := K)
      (cutBudget budget (startRecovery c).host.pendingReclaims.length) hruns
    exact hall _ (halike.pending.trans hthaws)
  rw [recoverFrames_stuck budget hleft hfrozen']
  exact rests_retry hP hwell hfollows.valid budget

/-! ## The event task -/

/-- The drain of an interface counts what it takes. -/
theorem drainRxLoop_count (i : PutShmInterface) (n : ℕ) (k : UInt32) (c : TasksContext) :
    ∃ m ≤ n, (drainRxLoop P K i n k c).1 = k + UInt32.ofNat m := by
  have hnone : k = k + UInt32.ofNat 0 := (UInt32.add_zero k).symm
  have hnext : ∀ m, k + 1 + UInt32.ofNat m = k + UInt32.ofNat (m + 1) := by
    intro m
    rw [UInt32.add_assoc, UInt32.add_comm 1, UInt32.ofNat_add]
    rfl
  induction n generalizing k c with
  | zero => exact ⟨0, le_refl _, hnone⟩
  | succ n ih =>
    have hmore : ∀ c, ∃ m ≤ n + 1, (drainRxLoop P K i n (k + 1) c).1 = k + UInt32.ofNat m := by
      intro c
      obtain ⟨m, hle, hcount⟩ := ih (k + 1) c (UInt32.add_zero _).symm fun m => by
        rw [UInt32.add_assoc, UInt32.add_comm 1, UInt32.ofNat_add]
        rfl
      exact ⟨m + 1, by omega, hcount.trans (hnext m)⟩
    unfold drainRxLoop
    split
    · exact ⟨0, by omega, hnone⟩
    simp only
    split
    · exact ⟨0, by omega, hnone⟩
    split
    · exact hmore _
    split
    · exact ⟨0, by omega, hnone⟩
    split
    · exact hmore _
    · exact ⟨1, by omega, rfl⟩

/-- A drain that has not used its budget up, or has left the normal state,
is as far as it gets. -/
theorem drainRxLoop_of_done {i : PutShmInterface} {n n' : ℕ} {k : UInt32} (hle : n ≤ n')
    (hdone : (drainRxLoop P K i n k c).2.host.state ≠ .normal ∨
      (drainRxLoop P K i n k c).1 ≠ k + UInt32.ofNat n) :
    drainRxLoop P K i n' k c = drainRxLoop P K i n k c := by
  induction n generalizing c k n' with
  | zero =>
    have hstate : c.host.state ≠ .normal := by
      rcases hdone with hstate | hcount
      · exact hstate
      · exact absurd (UInt32.add_zero k).symm hcount
    cases n' with
    | zero => rfl
    | succ n' =>
      unfold drainRxLoop
      rw [if_pos hstate]
  | succ n ih =>
    obtain ⟨m, rfl⟩ : ∃ m, n' = m + 1 := ⟨n' - 1, by omega⟩
    -- one more descriptor, and one less to go
    have hcount : ∀ r : UInt32, r ≠ k + UInt32.ofNat (n + 1) → r ≠ k + 1 + UInt32.ofNat n := by
      intro r hr heq
      refine hr (heq.trans ?_)
      rw [UInt32.add_assoc, UInt32.add_comm 1, UInt32.ofNat_add]
      rfl
    unfold drainRxLoop at hdone ⊢
    split
    · rfl
    next hnormal =>
    rw [if_neg hnormal] at hdone
    simp only at hdone ⊢
    split
    · rfl
    next hempty =>
    rw [if_neg hempty] at hdone
    split
    · next herror =>
      rw [if_pos herror] at hdone
      exact ih (by omega) (hdone.imp id (hcount _))
    next hok =>
    rw [if_neg hok] at hdone
    split
    · rfl
    next d hd =>
    rw [hd] at hdone
    simp only at hdone
    split
    · next hgoes =>
      rw [if_pos hgoes] at hdone
      exact ih (by omega) (hdone.imp id (hcount _))
    · rfl

/-- The budget of an interface, out of what is left of the budget of the
task. -/
private theorem toNat_interfaceBudget {p : UInt32} (hp : p.toNat ≤ 64) :
    (if 8 > 64 - p then 64 - p else 8 : UInt32).toNat = min 8 (64 - p.toNat) := by
  have hleft : (64 - p).toNat = 64 - p.toNat :=
    UInt32.toNat_sub_of_le 64 p (UInt32.le_iff_toNat_le.mpr hp)
  have hcases : (8 > 64 - p) ↔ 64 - p.toNat < 8 := by
    rw [gt_iff_lt, UInt32.lt_iff_toNat_lt, hleft]
    rfl
  split
  · next h =>
    have hlt := hcases.mp h
    rw [hleft]
    omega
  · next h =>
    have hge := hcases.not.mp h
    have height : (8 : UInt32).toNat = 8 := rfl
    rw [height]
    omega

theorem eventLoop_spent (trigger : IpcEventTrigger) (bits : UInt32) (l : List (Fin 6))
    (c : TasksContext) : eventLoop P K trigger bits l 64 c = (64, c) := by
  cases l with
  | nil => rfl
  | cons i rest =>
    rw [eventLoop]
    exact if_pos (UInt32.sub_self 64)

/-- Where not all of the budget is spent, some is left. -/
private theorem budget_left {p : UInt32} (hp : p.toNat < 64) : ¬ (64 - p = 0) := by
  intro heq
  have hsub : (64 - p).toNat = 64 - p.toNat :=
    UInt32.toNat_sub_of_le 64 p (UInt32.le_iff_toNat_le.mpr (Nat.le_of_lt hp))
  rw [heq, UInt32.toNat_zero] at hsub
  omega

/-- **An interface under two budgets** is drained alike, unless the smaller
one is used up in the normal state. -/
theorem drainRxInterface_budgets (id : PutShmInterface) {d d' : UInt32} (hle : d.toNat ≤ d'.toNat) :
    drainRxInterface P K c id d' = drainRxInterface P K c id d ∨
      d.toNat < d'.toNat ∧ (drainRxInterface P K c id d).1 = d ∧
        (drainRxInterface P K c id d).2.host.state = .normal := by
  unfold drainRxInterface
  by_cases hdone : (drainRxLoop P K id d.toNat 0 c).2.host.state ≠ .normal ∨
      (drainRxLoop P K id d.toNat 0 c).1 ≠ 0 + UInt32.ofNat d.toNat
  · rw [drainRxLoop_of_done hle hdone]
    exact .inl rfl
  obtain ⟨hends, hall⟩ := not_or.mp hdone
  rw [not_not, UInt32.zero_add, UInt32.ofNat_toNat] at hall
  rcases Nat.lt_or_ge d.toNat d'.toNat with hlt | hge
  · exact .inr ⟨hlt, hall, not_not.mp hends⟩
  · rw [UInt32.toNat_inj.mp (Nat.le_antisymm hge hle)]
    exact .inl rfl

/-- **The loop over the interfaces** stops where it leaves the normal
state, whatever more its budget allows. -/
theorem eventLoop_of_frozen {trigger : IpcEventTrigger} {bits : UInt32} {l : List (Fin 6)}
    {p p' : UInt32} (hnormal : c.host.state = .normal) (hp : p.toNat ≤ 64) (hle : p'.toNat ≤ p.toNat)
    (hfrozen : (eventLoop P K trigger bits l p c).2.host.state ≠ .normal) :
    (eventLoop P K trigger bits l p' c).2 = (eventLoop P K trigger bits l p c).2 := by
  induction l generalizing c p p' with
  | nil => rfl
  | cons i rest ih =>
    by_cases hspent : p = 64
    · rw [hspent, eventLoop_spent] at hfrozen
      exact absurd hnormal hfrozen
    have hp64 : p.toNat ≠ 64 := fun h => hspent (UInt32.toNat_inj.mp h)
    rw [eventLoop] at hfrozen
    rw [eventLoop, eventLoop]
    simp only at hfrozen ⊢
    rw [if_neg (budget_left (p := p) (by omega))] at hfrozen
    rw [if_neg (budget_left (p := p) (by omega)), if_neg (budget_left (p := p') (by omega))]
    by_cases hskip : (trigger = .doorbell && bits &&& (1 <<< UInt32.ofNat i) = 0) = true
    · rw [if_pos hskip] at hfrozen
      rw [if_pos hskip, if_pos hskip]
      exact ih hnormal hp hle hfrozen
    rw [if_neg hskip] at hfrozen
    rw [if_neg hskip, if_neg hskip]
    have hbudget := toNat_interfaceBudget hp
    have hbudget' := toNat_interfaceBudget (p := p') (by omega)
    generalize (if 8 > 64 - p then 64 - p else 8 : UInt32) = d at hbudget hfrozen ⊢
    generalize (if 8 > 64 - p' then 64 - p' else 8 : UInt32) = d' at hbudget' ⊢
    rcases drainRxInterface_budgets (P := P) (K := K) (c := c) (interfaceOfIndex i)
      (show d.toNat ≤ d'.toNat by omega) with hsame | ⟨hmore, hall, hends⟩
    · -- the interface is drained alike
      rw [hsame]
      by_cases hstops : (drainRxInterface P K c (interfaceOfIndex i) d).2.host.state ≠ .normal
      · rw [if_pos hstops, if_pos hstops]
      · rw [if_neg hstops] at hfrozen
        rw [if_neg hstops, if_neg hstops]
        obtain ⟨m, hm, hcount⟩ := drainRxLoop_count (P := P) (K := K) (interfaceOfIndex i) d.toNat 0 c
        have hone : (drainRxInterface P K c (interfaceOfIndex i) d).1 = UInt32.ofNat m :=
          hcount.trans (UInt32.zero_add _)
        rw [hone] at hfrozen ⊢
        have hsum : ∀ q : UInt32, q.toNat ≤ 64 - m → (q + UInt32.ofNat m).toNat = q.toNat + m := by
          intro q hq
          rw [UInt32.toNat_add, UInt32.toNat_ofNat']
          omega
        refine ih (not_not.mp hstops) ?_ ?_ hfrozen
        · rw [hsum p (by omega)]
          omega
        · rw [hsum p (by omega), hsum p' (by omega)]
          omega
    · -- the smaller budget has been used up, and it was the last of the task's
      exfalso
      have hend : p + (drainRxInterface P K c (interfaceOfIndex i) d).1 = 64 := by
        rw [hall, ← UInt32.toNat_inj, UInt32.toNat_add]
        have hsize : (64 : UInt32).toNat = 64 := rfl
        rw [hsize]
        omega
      rw [if_neg (not_not.mpr hends), hend, eventLoop_spent] at hfrozen
      exact hfrozen hends

/-- `rtos_ipc_event_task_run_once` with this much of its budget of 64
spent. -/
def eventTaskWithin (P : Platform) (K : Clock) (c : TasksContext) (trigger : IpcEventTrigger)
    (processed : UInt32) : UInt32 × TasksContext :=
  let c := if trigger = .doorbell then { c with host := c.host.countDoorbell } else c
  if c.host.state ≠ .normal then
    let t := c.host.countBlockedDrain
    if t.pendingReclaims ≠ [] then
      let r := rtosTasksRetryPendingReclaims P K t 64
      (r.1, { c with host := r.2 })
    else (0, { c with host := t })
  else if trigger = .doorbell then
    match rtosShmIpcGetRxPendingSnapshot P c.host.ipc with
    | (_, none, ipc) => (0, { c with host := { c.host with ipc := ipc } })
    | (_, some bits, ipc) =>
      eventLoop P K trigger bits (List.finRange 6) processed
        { c with host := { c.host with ipc := ipc }.countPendingSnapshot }
  else eventLoop P K trigger 0 (List.finRange 6) processed c

theorem eventTaskWithin_zero (c : TasksContext) (trigger : IpcEventTrigger) :
    eventTaskWithin P K c trigger 0 = rtosIpcEventTaskRunOnce P K c trigger := rfl

/-- The event task in the normal state: it drains nothing, or goes over
the interfaces from some context on. -/
theorem eventTaskWithin_normal (hnormal : c.host.state = .normal) (trigger : IpcEventTrigger) :
    ∃ c₁, Serves c c₁ ∧ c₁.host.state = .normal ∧
      ((∀ processed, (eventTaskWithin P K c trigger processed).2 = c₁) ∨
        ∃ bits, ∀ processed, (eventTaskWithin P K c trigger processed).2 =
          (eventLoop P K trigger bits (List.finRange 6) processed c₁).2) := by
  have hserves := receives_serves (P := P) (K := K) c
  have hcounted :
      Serves c (if trigger = .doorbell then { c with host := c.host.countDoorbell } else c) ∧
      (if trigger = .doorbell then { c with host := c.host.countDoorbell } else c).host.state =
        .normal := by
    split
    · exact ⟨hserves.step (.doorbell c.host) (.refl c), hnormal⟩
    · exact ⟨.refl c, hnormal⟩
  unfold eventTaskWithin
  generalize (if trigger = .doorbell then ({ c with host := c.host.countDoorbell } : TasksContext)
    else c) = c' at hcounted ⊢
  obtain ⟨hc', hnormal'⟩ := hcounted
  simp only
  simp only [if_neg (not_not.mpr hnormal')]
  by_cases hbell : trigger = .doorbell
  swap
  · simp only [if_neg hbell]
    exact ⟨c', hc', hnormal', .inr ⟨0, fun _ => rfl⟩⟩
  simp only [if_pos hbell]
  have hread : Serves c
      ⟨c'.router, { c'.host with ipc := (rtosShmIpcGetRxPendingSnapshot P c'.host.ipc).2.2 }⟩ :=
    hserves.step (.snapshot c'.host) hc'
  generalize rtosShmIpcGetRxPendingSnapshot P c'.host.ipc = r at hread ⊢
  obtain ⟨result, _ | bits, ipc⟩ := r
  · exact ⟨_, hread, hnormal', .inl fun _ => rfl⟩
  · have hcount : Serves c
        ⟨c'.router, ({ c'.host with ipc := ipc } : Tasks).countPendingSnapshot⟩ :=
      hserves.step (.count { c'.host with ipc := ipc } _) hread
    exact ⟨_, hcount, hnormal', .inr ⟨bits, fun _ => rfl⟩⟩

/-- **The event task stops** at the first reclaim it freezes. -/
theorem eventTaskWithin_of_frozen (h : Governed c) (hnormal : c.host.state = .normal)
    {trigger : IpcEventTrigger} {p p' : UInt32} (hp : p.toNat ≤ 64) (hle : p'.toNat ≤ p.toNat)
    (hfrozen : (eventTaskWithin P K c trigger p).2.host.pendingReclaims ≠ []) :
    (eventTaskWithin P K c trigger p').2 = (eventTaskWithin P K c trigger p).2 := by
  obtain ⟨c₁, hserves, hstart, hall | ⟨bits, hloop⟩⟩ :=
    eventTaskWithin_normal (P := P) (K := K) hnormal trigger
  · rw [hall, hall]
  rw [hloop] at hfrozen
  rw [hloop, hloop]
  refine eventLoop_of_frozen hstart hp hle fun hends => hfrozen ?_
  have hgoverned : Governed (eventLoop P K trigger bits (List.finRange 6) p c₁).2 :=
    h.serves ((receives_serves c).iterates.eventLoop hserves trigger bits _ p)
  exact hgoverned.idle hends

/-- With something frozen the event task takes nothing. -/
theorem eventTaskWithin_of_ne (hP : P.Succeeds) (h : c.host.WellFrozen)
    (hv : c.host.ipc.region.Valid) (hnormal : c.host.state ≠ .normal) (trigger : IpcEventTrigger) :
    ∃ c', Rests c c' ∧ ∀ processed, (eventTaskWithin P K c trigger processed).2 = c' := by
  have hcounted : ∃ t, c.host.SameFrames t ∧ t.state = c.host.state ∧
      (if trigger = .doorbell then { c with host := c.host.countDoorbell } else c) =
        { c with host := t } := by
    split
    · exact ⟨c.host.countDoorbell, ⟨rfl, rfl, rfl, rfl⟩, rfl, rfl⟩
    · exact ⟨c.host, ⟨rfl, rfl, rfl, rfl⟩, rfl, rfl⟩
  obtain ⟨t, ht, hstate, heq⟩ := hcounted
  have hblocked : c.host.SameFrames t.countBlockedDrain :=
    ⟨ht.ipc, ht.references, ht.pending, ht.history⟩
  have hwell : t.countBlockedDrain.WellFrozen := h.sameFrames hblocked
  have hvalid : t.countBlockedDrain.ipc.region.Valid := by
    rw [hblocked.ipc]
    exact hv
  have hsame : Rests c { c with host := t.countBlockedDrain } :=
    ⟨by rw [hblocked.ipc], rfl, by rw [hblocked.pending]⟩
  unfold eventTaskWithin
  rw [heq]
  simp only
  have hblocked' : t.state ≠ .normal := fun h => hnormal (hstate.symm.trans h)
  simp only [if_pos hblocked']
  split
  · have hretry := rests_retry (K := K) (c := { c with host := t.countBlockedDrain }) hP hwell hvalid 64
    refine ⟨_, ⟨hretry.rx.trans hsame.rx, hretry.queue.trans hsame.queue,
      hretry.pending.trans hsame.pending⟩, fun _ => rfl⟩
  · exact ⟨_, hsame, fun _ => rfl⟩

/-! ## Every task step -/

/-- What an operation goes through: where it starts, and what it leaves
after so much of its budget. -/
def Operation.course (P : Platform) (K : Clock) (c : TasksContext) : Operation → ℕ → TasksContext
  | .schedulerTask budget, k => (rtosRouterSchedulerTaskRunOnce P K c (cutBudget budget k)).2
  | .recoveryTask budget, k => (rtosRecoveryTaskRunOnce P K c (cutBudget budget k)).2
  | .retryPendingReclaims budget, k =>
    { c with host := (rtosTasksRetryPendingReclaims P K c.host (cutBudget budget k)).2 }
  | _, 0 => c
  | .eventTask trigger, k + 1 => (eventTaskWithin P K c trigger (64 - UInt32.ofNat (min k 64))).2
  | op, _ + 1 => op.run P K c

/-- The course of an operation ends with what the operation leaves. -/
theorem Operation.course_ends (op : Operation) (c : TasksContext) {k : ℕ} (hk : 2 ^ 32 ≤ k) :
    op.course P K c k = op.run P K c := by
  obtain ⟨n, rfl⟩ : ∃ n, k = n + 1 := ⟨k - 1, by omega⟩
  have hcut : ∀ budget : UInt32, cutBudget budget (n + 1) = budget := by
    intro budget
    have hlt := budget.toNat_lt
    rw [← UInt32.toNat_inj, toNat_cutBudget]
    omega
  cases op with
  | schedulerTask budget => simp only [course, run, hcut]
  | recoveryTask budget => simp only [course, run, hcut]
  | retryPendingReclaims budget => simp only [course, run, hcut]
  | eventTask trigger =>
    have hall : min n 64 = 64 := by omega
    simp only [course, run, hall]
    rfl
  | heartbeatTask => rfl
  | errorMonitorTask => rfl
  | statisticsTask => rfl
  | observeLinuxHeartbeat => rfl

/-- An operation moves nothing past a frozen reclaim: always, but for a
scheduler that gives up more items short of its last than the reclaim
ring has room for, and a recovery that takes more items short of its last
than there is room for when what was frozen has been written. -/
def FreezeFits (K : Clock) (c : TasksContext) : Operation → Prop
  | .schedulerTask budget =>
    c.host.pendingReclaims = [] → c.host.state = .normal →
      givenUp K c.router.routeTable (min budget.toNat c.router.queue.items.length - 1)
        c.router.queue c.host.ticks (freeTx c.host) ≤ reclaimRoom c.host.ipc.region
  | .recoveryTask budget =>
    c.host.state = .recovery ∨ c.host.Recovering →
      c.host.pendingReclaims.length ≤ budget.toNat →
      c.host.pendingReclaims.length ≤ reclaimRoom c.host.ipc.region →
      min (budget.toNat - c.host.pendingReclaims.length) c.router.queue.items.length ≤
        reclaimRoom c.host.ipc.region - c.host.pendingReclaims.length + 1
  | _ => True

instance (K : Clock) (c : TasksContext) : (op : Operation) → Decidable (FreezeFits K c op)
  | .schedulerTask _ => inferInstanceAs (Decidable (_ → _ → _))
  | .recoveryTask _ => inferInstanceAs (Decidable (_ → _ → _ → _))
  | .eventTask _ => inferInstanceAs (Decidable True)
  | .retryPendingReclaims _ => inferInstanceAs (Decidable True)
  | .heartbeatTask => inferInstanceAs (Decidable True)
  | .errorMonitorTask => inferInstanceAs (Decidable True)
  | .statisticsTask => inferInstanceAs (Decidable True)
  | .observeLinuxHeartbeat _ => inferInstanceAs (Decidable True)

variable {seen : Fin 6 → List Descriptor}

theorem Reaches.governed (h : Reaches P K seen c) : Governed c := by
  induction h with
  | init _ _ ticks => exact Governed.contextInit _ ticks
  | operation _ op ih => exact ih.run op
  | environment _ _ ih => exact ih.withIpc _

theorem Reaches.wellFrozen (h : Reaches P K seen c) : c.host.WellFrozen := by
  induction h with
  | init hinit _ ticks => exact ⟨hinit, Nat.zero_le _, fun o ho => absurd ho List.not_mem_nil⟩
  | operation _ op ih => exact ih.run op
  | environment _ _ ih => exact ih.congr rfl rfl

/-- A step that moves no frame, at two points. -/
theorem staysFrozen_two {c' : TasksContext} (hstart : f 0 = c) (hends : ∀ k, f (k + 1) = c')
    (hrests : Rests c c') : StaysFrozen f := by
  intro k m hkm _
  cases k with
  | zero =>
    cases m with
    | zero => exact .refl _
    | succ m =>
      rw [hstart, hends]
      exact hrests
  | succ k =>
    obtain ⟨i, rfl⟩ : ∃ i, m = i + 1 := ⟨m - 1, by omega⟩
    rw [hends, hends]
    exact .refl _

/-! ## While something is frozen -/

/-- `c'` is reached from `c` with something frozen all along. -/
inductive Lasts (P : Platform) (K : Clock) (c : TasksContext) : TasksContext → Prop
  | start : Lasts P K c c
  | operation {c' : TasksContext} (h : Lasts P K c c') (op : Operation)
    (hstart : c'.host.pendingReclaims ≠ [])
      (hall : ∀ k, (op.course P K c' k).host.pendingReclaims ≠ []) : Lasts P K c (op.run P K c')
  | environment {c' : TasksContext} (h : Lasts P K c c') {R : Region} (hR : R.Valid) :
      Lasts P K c (withRegion c' R)

/-- A task that moves no frame moves nothing. -/
theorem Rests.of_sameFrames (hsame : c.host.SameFrames c'.host)
    (hqueue : c'.router.queue = c.router.queue) : Rests c c' :=
  ⟨by rw [hsame.ipc], by rw [hqueue], by rw [hsame.pending]⟩

/-- The budget a point of the event task starts from. -/
theorem toNat_spent (k : ℕ) : (64 - UInt32.ofNat (min k 64)).toNat = 64 - min k 64 := by
  have hsmall : (UInt32.ofNat (min k 64)).toNat = min k 64 := by
    rw [UInt32.toNat_ofNat']
    omega
  have hle : UInt32.ofNat (min k 64) ≤ 64 := by
    rw [UInt32.le_iff_toNat_le, hsmall]
    exact Nat.min_le_right _ _
  rw [UInt32.toNat_sub_of_le 64 _ hle, hsmall]
  rfl

/-- **The event task stops at what it has frozen**: it takes nothing off an
RX ring where something is frozen before, and ends with what it freezes. -/
theorem Reaches.eventTask_staysFrozen (hP : P.Succeeds) (h : Reaches P K seen c)
    (trigger : IpcEventTrigger) : StaysFrozen ((Operation.eventTask trigger).course P K c) := by
  by_cases hnormal : c.host.state = .normal
  swap
  · obtain ⟨c', hrests, hall⟩ :=
      eventTaskWithin_of_ne (K := K) hP h.wellFrozen h.sound.valid hnormal trigger
    exact staysFrozen_two rfl (fun k => hall _) hrests
  have hstart : ((Operation.eventTask trigger).course P K c 0).host.pendingReclaims = [] :=
    h.governed.idle hnormal
  rw [staysFrozen_succ hstart fun k => rfl]
  intro k m hkm hfrozen
  have hp : (64 - UInt32.ofNat (min k 64)).toNat ≤ 64 := by
    rw [toNat_spent]
    omega
  have hgrows : (64 - UInt32.ofNat (min m 64)).toNat ≤ (64 - UInt32.ofNat (min k 64)).toNat := by
    rw [toNat_spent, toNat_spent]
    omega
  have heq := eventTaskWithin_of_frozen h.governed hnormal hp hgrows (hfrozen k (le_refl _) hkm)
  simp only [Operation.course]
  rw [heq]
  exact .refl _

/-- An operation that has something frozen at every point moves nothing. -/
theorem Reaches.rests_of_frozen (hP : P.Succeeds) (h : Reaches P K seen c) (op : Operation)
    (hstart : c.host.pendingReclaims ≠ [])
    (hall : ∀ k, (op.course P K c k).host.pendingReclaims ≠ []) : Rests c (op.run P K c) := by
  have hsound := h.sound
  have hbalanced := (h.balanced hP).1
  have hwell := h.wellFrozen
  cases op with
  | schedulerTask budget =>
    simp only [Operation.run]
    unfold rtosRouterSchedulerTaskRunOnce
    simp only [if_pos hstart]
    exact rests_retry hP hwell hsound.valid budget
  | recoveryTask budget =>
    exact recovery_rests hP hsound.follows hsound.books hbalanced hwell budget hstart hall
  | retryPendingReclaims budget => exact rests_retry hP hwell hsound.valid budget
  | eventTask trigger =>
    have hnormal : c.host.state ≠ .normal := fun hnormal => hstart (h.governed.idle hnormal)
    obtain ⟨c', hrests, hall'⟩ := eventTaskWithin_of_ne (K := K) hP hwell hsound.valid hnormal trigger
    simp only [Operation.run]
    rw [← eventTaskWithin_zero, hall' 0]
    exact hrests
  | heartbeatTask =>
    have hsame := rtosHeartbeatTaskRunOnce_snd K c
    exact .of_sameFrames hsame.1 hsame.2
  | errorMonitorTask =>
    have hsame := rtosErrorMonitorTaskRunOnce_snd K c
    exact .of_sameFrames hsame.1 hsame.2
  | statisticsTask => exact .of_sameFrames ⟨rfl, rfl, rfl, rfl⟩ rfl
  | observeLinuxHeartbeat sequence => exact .of_sameFrames ⟨rfl, rfl, rfl, rfl⟩ rfl

/-- **A run that has something frozen all along** takes nothing off the RX
rings, leaves the queue as it is and freezes no more. -/
theorem Lasts.rests (hP : P.Succeeds) (h : Reaches P K seen c) (hl : Lasts P K c c') :
    Reaches P K seen c' ∧ c'.router.queue.items = c.router.queue.items ∧
      c'.host.pendingReclaims.length ≤ c.host.pendingReclaims.length := by
  induction hl with
  | start => exact ⟨h, rfl, le_refl _⟩
  | @operation c' _ op hstart hall ih =>
    obtain ⟨hreaches, hqueue, hpending⟩ := ih
    have hrests := hreaches.rests_of_frozen hP op hstart hall
    have hnone : ∀ i, takenRx c' (op.run P K c') i = [] := by
      intro i
      have hrx := congrFun hrests.rx i
      unfold takenRx
      simp only [hrx, Nat.sub_self, List.take_zero]
    have hseen : (fun i => seen i ++ takenRx c' (op.run P K c') i) = seen := by
      funext i
      rw [hnone i, List.append_nil]
    have hnext := hreaches.operation op
    rw [hseen] at hnext
    exact ⟨hnext, hrests.queue.trans hqueue, hrests.pending.trans hpending⟩
  | environment _ hR ih =>
    obtain ⟨hreaches, hqueue, hpending⟩ := ih
    exact ⟨hreaches.environment hR, hqueue, hpending⟩

/-- **Exactly when nothing moves past a frozen reclaim.** With platform
calls that succeed, in every context a run reaches and for every task
step with any budget: from the first point of its course at which
something is frozen on, and as long as something is, no RX descriptor is
taken, no item leaves the queue and no more is frozen, if and only if the
operation fits. From one operation to the next the freeze lasts in any
case, whatever the environment puts on the rings. -/
theorem freeze_holds_iff (hP : P.Succeeds) (h : Reaches P K seen c) :
    (∀ op : Operation, StaysFrozen (op.course P K c) ↔ FreezeFits K c op) ∧
      ∀ c', Lasts P K c c' → Reaches P K seen c' ∧
        c'.router.queue.items = c.router.queue.items ∧
        c'.host.pendingReclaims.length ≤ c.host.pendingReclaims.length := by
  refine ⟨fun op => ?_, fun c' hl => hl.rests hP h⟩
  have hsound := h.sound
  have hbalanced := (h.balanced hP).1
  have hwell := h.wellFrozen
  cases op with
  | schedulerTask budget => exact scheduler_staysFrozen_iff hP hsound.follows hwell budget
  | recoveryTask budget =>
    exact recovery_staysFrozen_iff hP hsound.follows hsound.books hbalanced hwell budget
  | retryPendingReclaims budget =>
    refine iff_of_true (fun k m hkm _ => ?_) trivial
    exact retry_rests hP hwell hsound.valid (cutBudget_mono hkm)
  | eventTask trigger => exact iff_of_true (h.eventTask_staysFrozen hP trigger) trivial
  | heartbeatTask =>
    have hsame := rtosHeartbeatTaskRunOnce_snd K c
    exact iff_of_true (staysFrozen_two rfl (fun _ => rfl) (.of_sameFrames hsame.1 hsame.2)) trivial
  | errorMonitorTask =>
    have hsame := rtosErrorMonitorTaskRunOnce_snd K c
    exact iff_of_true (staysFrozen_two rfl (fun _ => rfl) (.of_sameFrames hsame.1 hsame.2)) trivial
  | statisticsTask =>
    exact iff_of_true
      (staysFrozen_two rfl (fun _ => rfl) (.of_sameFrames ⟨rfl, rfl, rfl, rfl⟩ rfl)) trivial
  | observeLinuxHeartbeat sequence =>
    exact iff_of_true
      (staysFrozen_two rfl (fun _ => rfl) (.of_sameFrames ⟨rfl, rfl, rfl, rfl⟩ rfl)) trivial

/-! ## Two frozen reclaims -/

/-- A clock that goes on by 100 ms at each reading. -/
def tenthsClock : Clock := fun n => UInt32.ofNat (100 * n)

/-- An internal frame from CAN for Ethernet that may wait 255 ms. -/
def shortLived (frameId : UInt32) : Descriptor :=
  (Linux.rxDescriptor frameId 40 putShmInterfaceCan putShmInterfaceEthernet {} { b0 := 0x40 }
    0x49 2 255 1 0x1F).sealed

/-- A region with a full reclaim ring and two frames on an RX ring. -/
def fullRegion : Region :=
  let full := (List.range 8).foldl (fun R _ => R.publishReclaim {}) (Linux.formatRegion 1 1)
  { (full.publishRx 0 (shortLived 0)).publishRx 0 (shortLived 1) with framePool := fun _ => plainBlock }

theorem fullRegion_valid : fullRegion.Valid := by
  have hfull := congested_valid (Linux.formatRegion_valid 1 1)
  have h := (hfull.publishRx (i := 0) (shortLived 0)).publishRx (i := 0) (shortLived 1)
  exact h.withFramePool _

/-- The event task has queued both frames of `fullRegion`. -/
def fullContext : TasksContext :=
  (Operation.eventTask .periodic).run .defaultOps tenthsClock
    (rtosTasksContextInit ⟨true, fullRegion, 0⟩ 0)

theorem fullContext_reaches : ∃ seen, Reaches .defaultOps tenthsClock seen fullContext :=
  ⟨_, (Reaches.init rfl fullRegion_valid 0).operation (.eventTask .periodic)⟩

set_option maxRecDepth 100000 in
/-- **A scheduler goes on past what it has frozen**: of two frames that
have expired it freezes the first, and then the second. -/
theorem not_freeze_holds :
    ¬ ∀ (P : Platform) (K : Clock) (seen : Fin 6 → List Descriptor) (c : TasksContext), P.Succeeds →
      Reaches P K seen c → ∀ op : Operation, StaysFrozen (op.course P K c) := by
  intro hholds
  obtain ⟨seen, hreaches⟩ := fullContext_reaches
  have hstays := hholds .defaultOps tenthsClock seen fullContext Platform.defaultOps_succeeds hreaches
    (.schedulerTask 16)
  have hone : ((Operation.schedulerTask 16).course .defaultOps tenthsClock fullContext
      1).host.pendingReclaims.length = 1 := by
    decide +kernel
  have htwo : ((Operation.schedulerTask 16).course .defaultOps tenthsClock fullContext
      2).host.pendingReclaims.length = 2 := by
    decide +kernel
  have hfrozen : ∀ j, 1 ≤ j → j ≤ 2 →
      ((Operation.schedulerTask 16).course .defaultOps tenthsClock fullContext
        j).host.pendingReclaims ≠ [] := by
    intro j hj hj'
    have hcases : j = 1 ∨ j = 2 := by omega
    intro hnil
    rcases hcases with rfl | rfl
    · rw [hnil] at hone
      cases hone
    · rw [hnil] at htwo
      cases htwo
  have hrests := (hstays 1 2 (by decide) hfrozen).pending
  omega

set_option maxRecDepth 100000 in
/-- With a budget of one item, the scheduler of `fullContext` stops. -/
theorem freeze_holds_full :
    StaysFrozen ((Operation.schedulerTask 1).course .defaultOps tenthsClock fullContext) ∧
      ¬ StaysFrozen ((Operation.schedulerTask 2).course .defaultOps tenthsClock fullContext) := by
  obtain ⟨seen, hreaches⟩ := fullContext_reaches
  have hiff := (freeze_holds_iff Platform.defaultOps_succeeds hreaches).1
  refine ⟨(hiff (.schedulerTask 1)).mpr (by decide +kernel), fun hstays => ?_⟩
  exact absurd ((hiff (.schedulerTask 2)).mp hstays) (by decide +kernel)

end Rtos

end PutGateway
