import PutGateway.Rtos.Frozen
/-!
# What giving frames back costs

Whatever lies in the region and whatever the platform answers: the tasks
drop a reference in a retry or a recovery only once its reclaim is
written, so that every reference that goes takes one entry of the budget
and one free entry of the reclaim ring.
-/

namespace PutGateway

namespace Rtos

variable {P : Platform} {K : Clock} {t t' t'' : Tasks} {c c' : TasksContext} {k k' : ℕ}

/-! ## Counting references -/

/-- How many frames have a reference in use. -/
def heldCount (t : Tasks) : ℕ :=
  (Finset.univ.filter fun f => (t.frameReferences f).inUse = true).card

theorem heldCount_congr (h : t'.frameReferences = t.frameReferences) : heldCount t' = heldCount t := by
  unfold heldCount
  rw [h]

theorem heldCount_clearFrameReference (t : Tasks) (frameId : UInt32) :
    heldCount t ≤ heldCount (clearFrameReference t frameId) + 1 := by
  unfold clearFrameReference
  split
  · omega
  next g _ =>
  unfold heldCount
  refine le_trans (Finset.card_le_card ?_) (Finset.card_insert_le g _)
  intro f hf
  rw [Finset.mem_filter] at hf
  rw [Finset.mem_insert, Finset.mem_filter]
  by_cases hg : f = g
  · exact .inl hg
  · refine .inr ⟨Finset.mem_univ f, ?_⟩
    simp only [Function.update_of_ne hg]
    exact hf.2

theorem heldCount_eq_zero (h : ∀ f, (t.frameReferences f).inUse = false) : heldCount t = 0 := by
  unfold heldCount
  rw [Finset.card_eq_zero, Finset.filter_eq_empty_iff]
  intro f _
  rw [h f]
  decide

/-! ## The reclaim ring -/

theorem validateReclaimRing_congr {ring ring' : ReclaimRing} (hheader : ring'.header = ring.header)
    (hdepth : ring'.producer.depth = ring.producer.depth)
    (hsize : ring'.producer.descriptorSize = ring.producer.descriptorSize) :
    validateReclaimRing ring' = validateReclaimRing ring := by
  unfold validateReclaimRing
  rw [hheader, hdepth, hsize]

/-- A write to the reclaim ring takes a free entry. -/
theorem rtosShmIpcReclaimFrame_room (P : Platform) (shm : RtosShm) (frameId : UInt32)
    (reason : ReclaimReason) (source target : PutShmInterface) (epoch flags : UInt32) :
    let r := rtosShmIpcReclaimFrame P shm frameId reason source target epoch flags
    validateReclaimRing r.2.region.reclaimRing = validateReclaimRing shm.region.reclaimRing ∧
      reclaimRoom r.2.region ≤ reclaimRoom shm.region ∧
      (r.1 = .ok → reclaimRoom r.2.region + 1 ≤ reclaimRoom shm.region) := by
  simp only [rtosShmIpcReclaimFrame]
  split
  · exact ⟨rfl, le_refl _, fun h => by cases h⟩
  split
  · exact ⟨rfl, le_refl _, fun h => by cases h⟩
  split
  · exact ⟨rfl, le_refl _, fun h => by cases h⟩
  next hchecks =>
  have hdepth : Ring.DepthOk shm.region.reclaimRing :=
    (validateReclaimRing_eq_ok_iff.mp (not_not.mp hchecks)).depthOk
  have hsame : ∀ {ring ring' : ReclaimRing}, ring.Kept ring' →
      validateReclaimRing ring' = validateReclaimRing ring ∧ ring'.unread = ring.unread := by
    intro ring ring' hk
    exact ⟨validateReclaimRing_congr hk.header hk.depth hk.descriptorSize, hk.unread⟩
  generalize (reclaimDescriptor frameId reason source target epoch flags).sealed = d
  rcases publishOn_cases P 1 d shm.reclaimIo with ⟨hne, hk | ⟨hused, hk⟩⟩ | ⟨hused, -, -, hk, -⟩
  · -- nothing was written
    obtain ⟨hchecks', hunread'⟩ := hsame hk
    refine ⟨hchecks', ?_, fun h => absurd h hne⟩
    have hlength := congrArg List.length hunread'
    change 8 - (publishOn P 1 d shm.reclaimIo).2.ring.unread.length ≤ _
    rw [hlength]
    exact le_refl _
  · -- the slot was written and the ring left
    obtain ⟨hchecks', hunread'⟩ := hsame hk
    have hstaged := Ring.unread_stage (d := d) hdepth (hdepth.used_lt_iff.mp hused)
    refine ⟨hchecks'.trans (validateReclaimRing_congr rfl rfl rfl), ?_, fun h => absurd h hne⟩
    have hlength := congrArg List.length (hunread'.trans hstaged)
    change 8 - (publishOn P 1 d shm.reclaimIo).2.ring.unread.length ≤ _
    rw [hlength]
    exact le_refl _
  · -- the reclaim was published
    obtain ⟨hchecks', hunread'⟩ := hsame hk
    have hlt := hdepth.used_lt_iff.mp hused
    have hpublished := Ring.unread_publish (d := d) hdepth hlt
    have hlength := congrArg List.length (hunread'.trans hpublished)
    rw [List.length_append, List.length_singleton] at hlength
    have hless : 8 - (publishOn P 1 d shm.reclaimIo).2.ring.unread.length + 1 ≤
        8 - shm.region.reclaimRing.unread.length := by
      rw [hlength]
      omega
    exact ⟨hchecks'.trans (validateReclaimRing_congr rfl rfl rfl),
      (Nat.le_succ _).trans hless, fun _ => hless⟩

/-! ## Frames given back -/

/-- At most `k` references are gone, each for a free entry of the reclaim
ring, whose header stays. -/
structure Returned (t t' : Tasks) (k : ℕ) : Prop where
  held : heldCount t ≤ heldCount t' + k
  spent : heldCount t + reclaimRoom t'.ipc.region ≤ heldCount t' + reclaimRoom t.ipc.region
  room : reclaimRoom t'.ipc.region ≤ reclaimRoom t.ipc.region
  checks : validateReclaimRing t'.ipc.region.reclaimRing =
    validateReclaimRing t.ipc.region.reclaimRing

theorem Returned.refl (t : Tasks) : Returned t t 0 := ⟨le_refl _, le_refl _, le_refl _, rfl⟩

theorem Returned.trans (h : Returned t t' k) (h' : Returned t' t'' k') :
    Returned t t'' (k + k') := by
  obtain ⟨hheld, hspent, hroom, hchecks⟩ := h
  obtain ⟨hheld', hspent', hroom', hchecks'⟩ := h'
  exact ⟨by omega, by omega, by omega, hchecks'.trans hchecks⟩

theorem Returned.mono (h : Returned t t' k) (hk : k ≤ k') : Returned t t' k' :=
  ⟨h.held.trans (by omega), h.spent, h.room, h.checks⟩

/-- A change of neither references nor rings. -/
theorem Returned.congr (h : Returned t t' k) (href : t''.frameReferences = t'.frameReferences)
    (hipc : t''.ipc = t'.ipc) : Returned t t'' k := by
  refine ⟨?_, ?_, ?_, ?_⟩
  · rw [heldCount_congr href]
    exact h.held
  · rw [heldCount_congr href, hipc]
    exact h.spent
  · rw [hipc]
    exact h.room
  · rw [hipc]
    exact h.checks

/-- Writing a reclaim keeps the references; a reclaim that is written
takes a free entry. -/
theorem reclaimFrame_returned (P : Platform) (t : Tasks) (output : RouteOutput) :
    Returned t (reclaimFrame P t output).2 0 ∧
      ((reclaimFrame P t output).1 = .ok →
        reclaimRoom (reclaimFrame P t output).2.ipc.region + 1 ≤ reclaimRoom t.ipc.region) := by
  obtain ⟨hchecks, hroom, hok⟩ := rtosShmIpcReclaimFrame_room P t.ipc output.frameId
    output.reclaimReason output.sourceInterface output.targetInterface output.epoch output.flags
  have hheld : heldCount (reclaimFrame P t output).2 = heldCount t := heldCount_congr rfl
  refine ⟨⟨by omega, ?_, hroom, hchecks⟩, hok⟩
  rw [hheld]
  exact Nat.add_le_add_left hroom _

/-- A reference whose reclaim has been written may go. -/
theorem Returned.clear {frameId : UInt32} (h : Returned t t' 0)
    (hroom : reclaimRoom t'.ipc.region + 1 ≤ reclaimRoom t.ipc.region)
    (heq : heldCount t' = heldCount t) : Returned t (clearFrameReference t' frameId) 1 := by
  have hheld := heldCount_clearFrameReference t' frameId
  have hipc : (clearFrameReference t' frameId).ipc = t'.ipc := clearFrameReference_ipc
  refine ⟨by omega, ?_, ?_, ?_⟩
  · rw [hipc]
    omega
  · rw [hipc]
    exact h.room
  · rw [hipc]
    exact h.checks

/-- **The reclaim sink** removes a reference for an entry of the ring, and
only where it succeeds. -/
theorem rtosTasksReclaimSink_returned (P : Platform) (K : Clock) (output : RouteOutput) (t : Tasks) :
    Returned t (rtosTasksReclaimSink P K output t).2 1 ∧
      ((rtosTasksReclaimSink P K output t).1 ≠ .ok →
        Returned t (rtosTasksReclaimSink P K output t).2 0) := by
  have hnone : Returned t t 1 ∧ ((UnifiedError.invalidArg : UnifiedError) ≠ .ok → Returned t t 0) :=
    ⟨(Returned.refl t).mono (by omega), fun _ => .refl t⟩
  unfold rtosTasksReclaimSink
  split
  · exact hnone
  split
  · exact hnone
  split
  · exact hnone
  next f _ _ =>
  obtain ⟨hreturned, hok⟩ :=
    reclaimFrame_returned P t (withRxMetadata output (t.frameReferences f).descriptor)
  have hheld : heldCount (reclaimFrame P t
      (withRxMetadata output (t.frameReferences f).descriptor)).2 = heldCount t := heldCount_congr rfl
  simp only
  generalize reclaimFrame P t (withRxMetadata output (t.frameReferences f).descriptor) = r
    at hreturned hok hheld ⊢
  -- written: the reference goes
  split
  · next hwritten =>
    refine ⟨Returned.clear ?_ (hok hwritten) ?_, fun hne => absurd rfl hne⟩
    · exact hreturned.congr rfl rfl
    · exact hheld
  -- not written: the reclaim is frozen, with its reference
  split
  · have hstored : Returned t (storePendingReclaim K
        { r.2 with
          statistics := { r.2.statistics with
            reclaimFullCount := r.2.statistics.reclaimFullCount + 1 } }
        (withRxMetadata output (t.frameReferences f).descriptor)).2 0 :=
      hreturned.congr (storePendingReclaim_references ..) (storePendingReclaim_ipc ..)
    exact ⟨hstored.mono (by omega), fun _ => hstored⟩
  · exact ⟨hreturned.mono (by omega), fun _ => hreturned⟩

/-! ## Loops -/

/-- A loop that counts from `k` on has counted `n` frames, and dropped at
most as many references. -/
structure Counts (t : Tasks) (k : UInt32) (r : UInt32) (t' : Tasks) (n : ℕ) : Prop where
  count : r = k + UInt32.ofNat n
  returned : Returned t t' n

theorem Counts.refl (t : Tasks) (k : UInt32) : Counts t k k t 0 :=
  ⟨(UInt32.add_zero k).symm, .refl t⟩

/-- One frame more. -/
theorem Counts.succ {start r : UInt32} {n : ℕ} (h : Returned t t' 1)
    (h' : Counts t' (start + 1) r t'' n) : Counts t start r t'' (n + 1) := by
  refine ⟨?_, (h.trans h'.returned).mono (by omega)⟩
  rw [h'.count, UInt32.add_assoc, UInt32.add_comm 1, UInt32.ofNat_add]
  rfl

/-- **The loop of a retry** drops the references of the reclaims it
writes. -/
theorem retryLoop_counts (t : Tasks) (n : ℕ) (start : UInt32) :
    ∃ w ≤ n, Counts t start (retryLoop P K n start t).1 (retryLoop P K n start t).2 w ∧
      t.pendingReclaims.length = (retryLoop P K n start t).2.pendingReclaims.length + w ∧
      w + reclaimRoom (retryLoop P K n start t).2.ipc.region ≤ reclaimRoom t.ipc.region := by
  induction n generalizing t start with
  | zero => exact ⟨0, le_refl _, .refl t start, rfl, by simp [retryLoop]⟩
  | succ n ih =>
    unfold retryLoop
    split
    · exact ⟨0, Nat.zero_le _, .refl t start, rfl, le_of_eq (Nat.zero_add _)⟩
    next output rest hpending =>
    obtain ⟨hreturned, hok⟩ := reclaimFrame_returned P t output
    have hpending' : (reclaimFrame P t output).2.pendingReclaims = t.pendingReclaims := rfl
    have hheld : heldCount (reclaimFrame P t output).2 = heldCount t := heldCount_congr rfl
    simp only
    generalize reclaimFrame P t output = r at hreturned hok hpending' hheld ⊢
    split
    · -- the ring is full
      refine ⟨0, Nat.zero_le _, ⟨(UInt32.add_zero start).symm, hreturned.congr rfl rfl⟩, ?_, ?_⟩
      · exact congrArg List.length hpending'.symm
      · have hroom := hreturned.room
        rw [Nat.zero_add]
        exact hroom
    split
    · refine ⟨0, Nat.zero_le _, ⟨(UInt32.add_zero start).symm, hreturned⟩, ?_, ?_⟩
      · exact congrArg List.length hpending'.symm
      · have hroom := hreturned.room
        rw [Nat.zero_add]
        exact hroom
    · -- the reclaim is written
      next _ hwritten =>
      have hspent := hok (not_not.mp hwritten)
      obtain ⟨hipc, htail⟩ := reclaimWritten_eq r.2 output.frameId
      have hcleared : Returned t (reclaimWritten r.2 output.frameId) 1 :=
        (hreturned.clear hspent hheld).congr rfl (hipc.trans clearFrameReference_ipc.symm)
      obtain ⟨w, hle, hcounts, hlength, hroom⟩ := ih (reclaimWritten r.2 output.frameId) (start + 1)
      refine ⟨w + 1, by omega, hcounts.succ hcleared, ?_, ?_⟩
      · rw [htail, hpending', hpending, List.tail_cons] at hlength
        rw [hpending, List.length_cons, hlength]
        rfl
      · rw [hipc] at hroom
        refine le_trans ?_ hspent
        have hstep := Nat.add_le_add_right hroom 1
        refine le_trans (le_of_eq ?_) hstep
        exact Nat.add_right_comm w 1 _

/-- **Reclaiming the queue** drops the references of the items it counts. -/
theorem reclaimQueuedLoop_counts (c : TasksContext) (reason : ReclaimReason) (n : ℕ)
    (start : UInt32) :
    ∃ w ≤ n, Counts c.host start (reclaimQueuedLoop (tasksSinks P K) reason n start c).1
      (reclaimQueuedLoop (tasksSinks P K) reason n start c).2.host w := by
  induction n generalizing c start with
  | zero => exact ⟨0, le_refl _, .refl c.host start⟩
  | succ n ih =>
    unfold reclaimQueuedLoop
    split
    · exact ⟨0, Nat.zero_le _, .refl c.host start⟩
    next item queue _ =>
    have hitem : ∀ c : TasksContext,
        Returned c.host (reclaimItem (tasksSinks P K) c item reason).2.2.host 1 ∧
          ((reclaimItem (tasksSinks P K) c item reason).1 ≠ .ok →
            Returned c.host (reclaimItem (tasksSinks P K) c item reason).2.2.host 0) := by
      intro c
      obtain ⟨hone, hnone⟩ := rtosTasksReclaimSink_returned P K
        (reclaimItemOutput item (tasksNow K c.host).1 reason) (tasksNow K c.host).2
      have htick : Returned c.host (tasksNow K c.host).2 0 := (Returned.refl c.host).congr rfl rfl
      exact ⟨(htick.trans hone).mono (by omega), fun hne => htick.trans (hnone hne)⟩
    obtain ⟨hone, hnone⟩ := hitem { c with router := { c.router with queue := queue } }
    simp only
    generalize reclaimItem (tasksSinks P K) { c with router := { c.router with queue := queue } }
      item reason = r at hone hnone ⊢
    split
    · next hne => exact ⟨0, Nat.zero_le _, (UInt32.add_zero start).symm, hnone hne⟩
    · obtain ⟨w, hle, hcounts⟩ := ih r.2.2 (start + 1)
      exact ⟨w + 1, by omega, hcounts.succ hone⟩

/-- **Reclaiming orphans** drops no more references than its budget. -/
theorem orphanLoop_returned (t : Tasks) (budget : UInt32) (l : List (Fin 64)) (start : UInt32)
    (hstart : start ≤ budget) :
    Returned t (orphanLoop P K budget l start t).2 (budget.toNat - start.toNat) := by
  induction l generalizing t start with
  | nil => exact (Returned.refl t).mono (Nat.zero_le _)
  | cons f rest ih =>
    unfold orphanLoop
    split
    · exact (Returned.refl t).mono (Nat.zero_le _)
    next hmore =>
    split
    · exact ih t start hstart
    obtain ⟨hone, hnone⟩ := rtosTasksReclaimSink_returned P K
      (orphanOutput f (t.frameReferences f).descriptor) { t with history := t.history.countOrphan }
    have hcounted : Returned t { t with history := t.history.countOrphan } 0 :=
      (Returned.refl t).congr rfl rfl
    simp only
    generalize rtosTasksReclaimSink P K (orphanOutput f (t.frameReferences f).descriptor)
      { t with history := t.history.countOrphan } = r at hone hnone ⊢
    split
    · next hne => exact (hcounted.trans (hnone hne)).mono (Nat.zero_le _)
    · -- the count does not wrap round: it is under the budget
      have hlt : start.toNat < budget.toNat :=
        UInt32.lt_iff_toNat_lt.mp (UInt32.not_le.mp hmore)
      have hsucc : (start + 1).toNat = start.toNat + 1 := by
        rw [UInt32.toNat_add]
        have hbudget := budget.toNat_lt
        simp only [UInt32.reduceToNat]
        omega
      have hnext := ih r.2 (start + 1) (UInt32.le_iff_toNat_le.mpr (by omega))
      rw [hsucc] at hnext
      exact ((hcounted.trans hone).trans hnext).mono (by omega)

/-- What is left of a budget. -/
theorem toNat_budgetLeft {processed budget : UInt32} (h : processed.toNat ≤ budget.toNat) :
    (budgetLeft processed budget).toNat = budget.toNat - processed.toNat := by
  unfold budgetLeft
  split
  · next hge =>
    have hle := UInt32.le_iff_toNat_le.mp hge
    have hzero : budget.toNat - processed.toNat = 0 := by omega
    rw [hzero]
    rfl
  · exact UInt32.toNat_sub_of_le _ _ (UInt32.le_iff_toNat_le.mpr h)

/-- What a loop that starts at zero has counted. -/
theorem Counts.toNat {r : UInt32} {n : ℕ} {budget : UInt32} (h : Counts t 0 r t' n)
    (hle : n ≤ budget.toNat) : r.toNat = n := by
  have hbudget := budget.toNat_lt
  have hsize : n < UInt32.size := by
    unfold UInt32.size
    omega
  rw [h.count, UInt32.zero_add]
  exact UInt32.toNat_ofNat_of_lt' hsize

/-- **A retry** drops the references of the reclaims it writes. -/
theorem retry_counts (t : Tasks) (budget : UInt32) :
    ∃ w ≤ budget.toNat, (rtosTasksRetryPendingReclaims P K t budget).1.toNat = w ∧
      Returned t (rtosTasksRetryPendingReclaims P K t budget).2 w ∧
      t.pendingReclaims.length =
        (rtosTasksRetryPendingReclaims P K t budget).2.pendingReclaims.length + w ∧
      w + reclaimRoom (rtosTasksRetryPendingReclaims P K t budget).2.ipc.region ≤
        reclaimRoom t.ipc.region := by
  obtain ⟨w, hle, hcounts, hlength, hroom⟩ := retryLoop_counts (P := P) (K := K) t budget.toNat 0
  refine ⟨w, hle, ?_⟩
  have hcount := hcounts.toNat hle
  unfold rtosTasksRetryPendingReclaims
  simp only
  generalize retryLoop P K budget.toNat 0 t = r at hcounts hlength hroom hcount ⊢
  split
  · exact ⟨hcount, hcounts.returned.congr rfl rfl, hlength, hroom⟩
  · exact ⟨hcount, hcounts.returned, hlength, hroom⟩

/-- **The stages of a recovery** drop no more references than its budget,
each for a free entry of the reclaim ring. -/
theorem recoverFrames_returned (c : TasksContext) (budget : UInt32) :
    Returned c.host (recoverFrames P K c budget).2.host budget.toNat := by
  unfold recoverFrames
  -- what is frozen
  have hretried : ∃ w ≤ budget.toNat,
      (if (budget > 0 && c.host.pendingReclaims != []) = true then
        let r := rtosTasksRetryPendingReclaims P K c.host budget
        (r.1, { c with host := r.2 })
      else ((0 : UInt32), c)).1.toNat = w ∧
      Returned c.host (if (budget > 0 && c.host.pendingReclaims != []) = true then
        let r := rtosTasksRetryPendingReclaims P K c.host budget
        (r.1, { c with host := r.2 })
      else ((0 : UInt32), c)).2.host w ∧
      (if (budget > 0 && c.host.pendingReclaims != []) = true then budgetLeft
        (if (budget > 0 && c.host.pendingReclaims != []) = true then
          let r := rtosTasksRetryPendingReclaims P K c.host budget
          (r.1, { c with host := r.2 })
        else ((0 : UInt32), c)).1 budget else budget).toNat = budget.toNat - w := by
    split
    · obtain ⟨w, hle, hcount, hreturned, -⟩ := retry_counts (P := P) (K := K) c.host budget
      refine ⟨w, hle, hcount, hreturned, ?_⟩
      rw [toNat_budgetLeft (by rw [hcount]; exact hle), hcount]
    · exact ⟨0, Nat.zero_le _, rfl, .refl _, rfl⟩
  simp only at hretried ⊢
  obtain ⟨w, hle, hcount, hreturned, hleft⟩ := hretried
  generalize (if (budget > 0 && c.host.pendingReclaims != []) = true then
    ((rtosTasksRetryPendingReclaims P K c.host budget).1,
      ({ c with host := (rtosTasksRetryPendingReclaims P K c.host budget).2 } : TasksContext))
    else ((0 : UInt32), c)) = retried at hcount hreturned hleft ⊢
  generalize (if (budget > 0 && c.host.pendingReclaims != []) = true then
    budgetLeft retried.1 budget else budget) = remaining at hleft ⊢
  -- what is queued
  have hqueued : ∃ w' ≤ budget.toNat - w,
      Returned retried.2.host (if (remaining > 0 && retried.2.host.pendingReclaims == []) = true then
        let r := rtosRouterReclaimQueued (tasksSinks P K) retried.2 .queueFull remaining
        (retried.1 + r.1, r.2)
      else (retried.1, retried.2)).2.host w' ∧
      (if (remaining > 0 && retried.2.host.pendingReclaims == []) = true then budgetLeft
        (if (remaining > 0 && retried.2.host.pendingReclaims == []) = true then
          let r := rtosRouterReclaimQueued (tasksSinks P K) retried.2 .queueFull remaining
          (retried.1 + r.1, r.2)
        else (retried.1, retried.2)).1 budget else remaining).toNat = budget.toNat - w - w' := by
    split
    · obtain ⟨w', hle', hcounts'⟩ := reclaimQueuedLoop_counts (P := P) (K := K) retried.2 .queueFull
        remaining.toNat 0
      have hcount' := hcounts'.toNat hle'
      rw [hleft] at hle'
      have hsum : (retried.1 + (rtosRouterReclaimQueued (tasksSinks P K) retried.2 .queueFull
          remaining).1).toNat = w + w' := by
        have hbudget := budget.toNat_lt
        unfold rtosRouterReclaimQueued
        rw [UInt32.toNat_add, hcount, hcount']
        omega
      refine ⟨w', hle', hcounts'.returned, ?_⟩
      rw [toNat_budgetLeft (by rw [hsum]; omega), hsum]
      omega
    · exact ⟨0, Nat.zero_le _, .refl _, hleft⟩
  simp only at hqueued
  obtain ⟨w', hle', hreturned', hleft'⟩ := hqueued
  generalize (if (remaining > 0 && retried.2.host.pendingReclaims == []) = true then
    (retried.1 + (rtosRouterReclaimQueued (tasksSinks P K) retried.2 .queueFull remaining).1,
      (rtosRouterReclaimQueued (tasksSinks P K) retried.2 .queueFull remaining).2)
    else (retried.1, retried.2)) = queued at hreturned' hleft' ⊢
  generalize (if (remaining > 0 && retried.2.host.pendingReclaims == []) = true then
    budgetLeft queued.1 budget else remaining) = remaining at hleft' ⊢
  have hqueued := hreturned.trans hreturned'
  split
  · -- what is only referenced
    have horphans := orphanLoop_returned (P := P) (K := K) queued.2.host remaining
      (List.finRange 64) 0 (UInt32.le_iff_toNat_le.mpr (Nat.zero_le _))
    rw [hleft'] at horphans
    exact (hqueued.trans horphans).mono (by simp only [UInt32.toNat_zero]; omega)
  · exact hqueued.mono (by omega)

end Rtos

end PutGateway
