import PutGateway.Rtos.Resumption
import PutGateway.Rtos.Returning
/-!
# The gate of a degraded Linux

When the heartbeat of Linux stops, the tasks leave the normal state, and
outside of it nothing is taken and nothing sent. The state variable comes
back to normal, though, where a retry writes the last frozen reclaim, or
a recovery gives back the last frame: neither looks at the heartbeat. In
a run in which neither happens the gate stays shut.
-/

namespace PutGateway

namespace Rtos

variable {P : Platform} {K : Clock} {t t' : Tasks} {c c' : TasksContext} {runtime : Runtime}

/-! ## Attaching -/

private theorem validateRings_congr {R R' : Region} (hrx : R'.rxRings = R.rxRings)
    (htx : R'.txRings = R.txRings) (l : List (Fin 6)) : validateRings R' l = validateRings R l := by
  induction l with
  | nil => rfl
  | cons i rest ih =>
    unfold validateRings
    rw [hrx, htx, ih]

/-- Attaching looks at headers only. -/
theorem rtosShmIpcAttach_congr {shm shm' : RtosShm} (hheader : shm'.region.header = shm.region.header)
    (hrx : shm'.region.rxRings = shm.region.rxRings) (htx : shm'.region.txRings = shm.region.txRings)
    (hreclaim : validateReclaimRing shm'.region.reclaimRing =
      validateReclaimRing shm.region.reclaimRing) :
    (rtosShmIpcAttach shm').1 = (rtosShmIpcAttach shm).1 := by
  unfold rtosShmIpcAttach
  simp only [hheader, validateRings_congr hrx htx, hreclaim]
  split_ifs
  · rfl
  · rfl
  · rfl
  · rfl

/-! ## What opens the gate -/

/-- The preflight of a call notices a damaged header or a new epoch. -/
def notices (P : Platform) (c : TasksContext) : Bool :=
  P.outcome c.host.ipc.calls = .ok && (!shmRegionHeaderIsValid c.host.ipc.region ||
    c.host.ipc.region.header.linuxEpoch ≠ c.host.lastLinuxEpoch)

/-- The state a call goes on with after its preflight. -/
def enteredState (P : Platform) (c : TasksContext) : TasksState :=
  if notices P c then if monitorAccepts c.host.ipc.region then .recovery else .degraded
  else c.host.state

theorem enteredState_ne_normal (h : c.host.state ≠ .normal) : enteredState P c ≠ .normal := by
  unfold enteredState
  split
  · split
    · simp
    · simp
  · exact h

/-- A recovery is asked for or under way after the preflight. -/
def EntersRecovering (P : Platform) (c : TasksContext) : Prop :=
  notices P c = true ∨ c.host.Recovering

/-- The state variable may come back to normal before the scheduler: a
retry outside a recovery can write all that is frozen, or a recovery can
give back all that is held. -/
def Opens (P : Platform) (runtime : Runtime) : Prop :=
  let c := runtime.tasks
  let state := enteredState P c
  let frozen := c.host.pendingReclaims.length
  let room := reclaimRoom c.host.ipc.region
  let budget := runtime.recoveryBudget.toNat
  (¬ EntersRecovering P c ∧ frozen ≤ room ∧
      (state = .degradedReclaimFull ∨ state = .degraded ∧ frozen ≠ 0)) ∨
    (state = .recovery ∧ heldCount c.host ≤ budget ∧ heldCount c.host ≤ room ∧
      (rtosShmIpcAttach c.host.ipc).1 = .ok) ∨
    (EntersRecovering P c ∧ (state = .reclaimBlocked ∨ state = .degradedReclaimFull) ∧
      frozen ≤ budget ∧ frozen ≤ room ∧ heldCount c.host ≤ frozen + budget ∧
      heldCount c.host ≤ room ∧ (rtosShmIpcAttach c.host.ipc).1 = .ok)

instance (P : Platform) (c : TasksContext) : Decidable (EntersRecovering P c) :=
  inferInstanceAs (Decidable (_ ∨ _))

instance (P : Platform) (runtime : Runtime) : Decidable (Opens P runtime) :=
  inferInstanceAs (Decidable (_ ∨ _ ∨ _))

/-! ## The preflight -/

/-- What the preflight leaves. -/
structure Entered (P : Platform) (c c' : TasksContext) : Prop where
  state : c'.host.state = enteredState P c
  recovering : c'.host.Recovering ↔ EntersRecovering P c
  pending : c'.host.pendingReclaims = c.host.pendingReclaims
  references : c'.host.frameReferences = c.host.frameReferences
  region : c'.host.ipc.region = c.host.ipc.region
  governed : Governed c'

/-- **The preflight** touches no frame, and leaves the state it enters the
call with. -/
theorem preflight_entered (h : Governed c) :
    Entered P c (preflightBeforeRxDrain P K c).2.2 := by
  have hcalled : Governed (Config.called c) := h.withIpc _
  have hkept : notices P c = false → Entered P c (Config.called c) := by
    intro hnot
    refine ⟨?_, ?_, rfl, rfl, rfl, hcalled⟩
    · unfold enteredState
      rw [hnot]
      rfl
    · unfold EntersRecovering
      rw [hnot]
      exact ⟨.inr, fun hr => hr.resolve_left (by decide)⟩
  rcases Config.preflightBeforeRxDrain_cases P K c with
    ⟨hfail, heq⟩ | ⟨hok, hheader, hepoch, heq⟩ | ⟨hok, hneeds, heq⟩
  · rw [heq]
    exact hkept (by simp [notices, hfail])
  · rw [heq]
    exact hkept (by simp [notices, hheader, hepoch])
  rw [heq]
  have hnotices : notices P c = true := by
    unfold notices
    rcases hneeds with hbad | hnew
    · simp [hok, hbad]
    · simp [hok, hnew]
  have hstate : enteredState P c =
      if monitorAccepts c.host.ipc.region then .recovery else .degraded := by
    unfold enteredState
    rw [hnotices]
    rfl
  have hregion : (Config.called c).host.ipc.region = c.host.ipc.region := rfl
  obtain ⟨hframes, -⟩ := rtosErrorMonitorTaskRunOnce_snd K (Config.called c)
  have hgoverned := hcalled.errorMonitorTask (K := K)
  have hentered : ∀ state, (rtosErrorMonitorTaskRunOnce K (Config.called c)).2.host.state = state →
      enteredState P c = state →
      (rtosErrorMonitorTaskRunOnce K (Config.called c)).2.host.monitor.recovery.recoveryPending = true →
      Entered P c (rtosErrorMonitorTaskRunOnce K (Config.called c)).2 := by
    intro state hleft hentered hask
    refine ⟨hleft.trans hentered.symm, ?_, hframes.pending, hframes.references, ?_, hgoverned⟩
    · exact iff_of_true (.inl hask) (.inl hnotices)
    · rw [hframes.ipc]
      rfl
  obtain ⟨-, -, ⟨hbad, hleft, hask, -⟩ | ⟨haccepts, -, hleft, hask, -⟩ | ⟨haccepts, hsame, -⟩⟩ :=
    rtosErrorMonitorTaskRunOnce_control K (Config.called c)
  · rw [hregion] at hbad
    exact hentered _ hleft (by rw [hstate, hbad]; rfl) hask
  · rw [hregion] at haccepts
    exact hentered _ hleft (by rw [hstate, haccepts]; rfl) hask
  · -- the header is right and the epoch known
    exfalso
    rcases hneeds with hbad | hnew
    · rw [hregion, monitorAccepts, hbad] at haccepts
      cases haccepts
    · exact hnew hsame

/-! ## A recovery that ends -/

/-- **A recovery that ends** had a budget and a reclaim ring for all that
was held, and a region to attach to. -/
theorem rtosRecoveryTaskRunOnce_normal {budget : UInt32} (hstate : c.host.state = .recovery)
    (hends : (rtosRecoveryTaskRunOnce P K c budget).2.host.state = .normal) :
    heldCount c.host ≤ budget.toNat ∧ heldCount c.host ≤ reclaimRoom c.host.ipc.region ∧
      (rtosShmIpcAttach c.host.ipc).1 = .ok := by
  rcases rtosRecoveryTaskRunOnce_cases P K c budget with
    ⟨hne, -, -⟩ | ⟨-, ⟨-, heq⟩ | ⟨-, -, heq⟩ | ⟨hpending, -, hclaimed, heq⟩⟩
  · exact absurd hstate hne
  · rw [heq] at hends
    cases hends
  · rw [heq] at hends
    cases hends
  rw [heq] at hends
  have hattach : (rtosShmIpcAttach (recoveredFrames P K c budget).host.ipc).1 = .ok := by
    rcases finishRecovery_cases K (recoveredFrames P K c budget) with
      ⟨-, -, -, -, hdegraded⟩ | ⟨hattach, -⟩
    · rw [hends] at hdegraded
      cases hdegraded
    · exact hattach
  obtain ⟨hipc, href, -, -, -⟩ := startRecovery_frames c
  have hstart : Returned c.host (startRecovery c).host 0 := (Returned.refl c.host).congr href hipc
  have hreturned := hstart.trans
    (recoverFrames_returned (P := P) (K := K) (startRecovery c) budget)
  have hgives := recoverFrames_givesBack (P := P) (K := K) (startRecovery c) budget
  have hnone : heldCount (recoveredFrames P K c budget).host = 0 := by
    refine heldCount_eq_zero fun f => ?_
    unfold unclaimedFrameReferenceExists at hclaimed
    rw [List.any_eq_false] at hclaimed
    have hf := hclaimed f (List.mem_finRange f)
    simpa [pendingReclaimExists, hpending] using hf
  have hheld := hreturned.held
  have hspent := hreturned.spent
  unfold recoveredFrames at hnone
  rw [hnone] at hheld hspent
  refine ⟨by omega, by omega, ?_⟩
  rw [← hattach]
  refine (rtosShmIpcAttach_congr ?_ ?_ ?_ hreturned.checks).symm
  · exact hgives.steady.header.trans (by rw [hipc])
  · exact hgives.quiet.rxRings.trans (by rw [hipc])
  · exact hgives.quiet.txRings.trans (by rw [hipc])

/-! ## Before the drain -/

/-- A retry leaves the normal state only with everything written, and the
ring had room for it. -/
theorem retry_ends (t : Tasks) (budget : UInt32) :
    let t' := (rtosTasksRetryPendingReclaims P K t budget).2
    (t'.pendingReclaims = [] ∧ t.pendingReclaims.length ≤ budget.toNat ∧
        t.pendingReclaims.length + reclaimRoom t'.ipc.region ≤ reclaimRoom t.ipc.region ∧
        Returned t t' t.pendingReclaims.length ∧
        t'.state = if t.Recovering then .recovery else .normal) ∨
      (t'.pendingReclaims ≠ [] ∧ (t'.state = t.state ∨ t'.state = retryBlockedState t.state) ∧
        t.pendingReclaims.length + reclaimRoom t'.ipc.region ≤
          t'.pendingReclaims.length + reclaimRoom t.ipc.region) := by
  obtain ⟨w, hle, -, hreturned, hlength, hroom⟩ := retry_counts (P := P) (K := K) t budget
  obtain ⟨-, ⟨hnil, hstate⟩ | ⟨hne, hstate⟩⟩ :=
    rtosTasksRetryPendingReclaims_cases (P := P) (K := K) t budget
  · rw [hnil, List.length_nil, Nat.zero_add] at hlength
    subst hlength
    exact .inl ⟨hnil, hle, hroom, hreturned, hstate⟩
  · exact .inr ⟨hne, hstate, by omega⟩

/-- The tasks when the drain begins: not normal, and outside a recovery
with no more room for what is frozen than there was. -/
structure Waits (P : Platform) (runtime : Runtime) (c : TasksContext) : Prop where
  state : c.host.state ≠ .normal
  quiet : runtime.tasks.host.Quiet c.host
  idle : ¬ c.host.Recovering → c.host.pendingReclaims ≠ [] →
    reclaimRoom c.host.ipc.region < c.host.pendingReclaims.length

theorem recoverFirst_of_ne {budget : UInt32} (h : c.host.state ≠ .recovery) :
    (recoverFirst P K budget c).2 = c := by
  unfold recoverFirst
  rw [stateNeedsRecoveryFirst, if_neg (by simpa using h)]

/-- A recovery that does not come back to normal stays asked for. -/
theorem recovering_of_recoveryTask {budget : UInt32} (h : Governed c)
    (hstate : c.host.state = .recovery)
    (hends : (rtosRecoveryTaskRunOnce P K c budget).2.host.state ≠ .normal) :
    (rtosRecoveryTaskRunOnce P K c budget).2.host.Recovering := by
  have hgoverned := h.recoveryTask (P := P) (K := K) budget
  rcases rtosRecoveryTaskRunOnce_cases P K c budget with
    ⟨hne, -, -⟩ | ⟨-, ⟨-, heq⟩ | ⟨-, -, heq⟩ | ⟨-, -, -, heq⟩⟩
  · exact absurd hstate hne
  · refine hgoverned.recovering ?_
    rw [heq]
    exact .inr rfl
  · refine hgoverned.recovering ?_
    rw [heq]
    exact .inl rfl
  · rw [heq] at hends ⊢
    rcases finishRecovery_cases K (recoveredFrames P K c budget) with
      ⟨-, -, hrecovery, -, -⟩ | ⟨-, hnormal, -⟩
    · have hgives := recoverFrames_givesBack (P := P) (K := K) (startRecovery c) budget
      refine .inr ?_
      rw [hrecovery]
      unfold recoveredFrames
      rw [hgives.steady.recovery]
      exact startRecovery_recoveryActive c
    · exact absurd hnormal hends

/-- A recovery that comes first, and cannot end, leaves the tasks
waiting. -/
theorem waits_recoverFirst {budget : UInt32} (h : Governed c)
    (hquiet : runtime.tasks.host.Quiet c.host) (hstate : c.host.state = .recovery)
    (hfails : ¬ (heldCount c.host ≤ budget.toNat ∧ heldCount c.host ≤ reclaimRoom c.host.ipc.region ∧
      (rtosShmIpcAttach c.host.ipc).1 = .ok)) :
    Waits P runtime (recoverFirst P K budget c).2 := by
  have hrun : (recoverFirst P K budget c).2 = (rtosRecoveryTaskRunOnce P K c budget).2 := by
    unfold recoverFirst
    rw [stateNeedsRecoveryFirst, if_pos (by simpa using hstate)]
  rw [hrun]
  have hends : (rtosRecoveryTaskRunOnce P K c budget).2.host.state ≠ .normal :=
    fun hends => hfails (rtosRecoveryTaskRunOnce_normal hstate hends)
  refine ⟨hends, hquiet.trans (rtosRecoveryTaskRunOnce_quiet ..), fun hr => absurd ?_ hr⟩
  exact recovering_of_recoveryTask h hstate hends

/-- The states in which nothing comes before the drain. -/
theorem waits_degraded (hquiet : runtime.tasks.host.Quiet c.host) (hnormal : c.host.state ≠ .normal)
    (hrecovery : c.host.state ≠ .recovery)
    (hneeds : ¬ stateNeedsReclaimRetryFirst c.host.state = true)
    (hidle : ¬ (¬ c.host.Recovering ∧
      c.host.pendingReclaims.length ≤ reclaimRoom c.host.ipc.region ∧
      (c.host.state = .degradedReclaimFull ∨
        c.host.state = .degraded ∧ c.host.pendingReclaims.length ≠ 0))) :
    Waits P runtime c := by
  refine ⟨hnormal, hquiet, fun hr hne => ?_⟩
  by_contra hroom
  refine hidle ⟨hr, not_lt.mp hroom, .inr ⟨?_, fun hzero => hne (List.length_eq_zero_iff.mp hzero)⟩⟩
  cases hcases : c.host.state with
  | normal => exact absurd hcases hnormal
  | degraded => rfl
  | degradedReclaimFull => simp [stateNeedsReclaimRetryFirst, hcases] at hneeds
  | reclaimBlocked => simp [stateNeedsReclaimRetryFirst, hcases] at hneeds
  | recovery => exact absurd hcases hrecovery

/-- A retry that comes first: either it writes all that is frozen and a
recovery that cannot end follows, or it leaves more than there is room
for. -/
theorem waits_retryFirst {budget : UInt32} (h : Governed c)
    (hquiet : runtime.tasks.host.Quiet c.host)
    (hblocked : c.host.state = .reclaimBlocked ∨ c.host.state = .degradedReclaimFull)
    (hidle : ¬ (¬ c.host.Recovering ∧
      c.host.pendingReclaims.length ≤ reclaimRoom c.host.ipc.region ∧
      (c.host.state = .degradedReclaimFull ∨
        c.host.state = .degraded ∧ c.host.pendingReclaims.length ≠ 0)))
    (hretried : ¬ (c.host.Recovering ∧
      (c.host.state = .reclaimBlocked ∨ c.host.state = .degradedReclaimFull) ∧
      c.host.pendingReclaims.length ≤ budget.toNat ∧
      c.host.pendingReclaims.length ≤ reclaimRoom c.host.ipc.region ∧
      heldCount c.host ≤ c.host.pendingReclaims.length + budget.toNat ∧
      heldCount c.host ≤ reclaimRoom c.host.ipc.region ∧
      (rtosShmIpcAttach c.host.ipc).1 = .ok)) :
    Waits P runtime (recoverFirst P K budget
      { c with host := (rtosTasksRetryPendingReclaims P K c.host budget).2 }).2 := by
  have hidle' : ¬ c.host.Recovering → c.host.state = .degradedReclaimFull := by
    intro hr
    refine hblocked.resolve_left fun hstate => hr (h.recovering ?_)
    exact .inr hstate
  have hretry := (rtosTasksRetryPendingReclaims_cases (P := P) (K := K) c.host budget).1
  have hgoverned := h.retry (P := P) (K := K) budget
  have hflags := Tasks.Recovering.iff_of_eq hretry.recovery
  have hquiet' := hquiet.trans hretry.toQuiet
  have hheader := hretry.header
  have hrx := hretry.rxRings
  have htx := hretry.txRings
  rcases retry_ends (P := P) (K := K) c.host budget with
    ⟨hnil, hbudget, hroom, hreturned, hstate⟩ | ⟨hne, hstate, hroom⟩
  · by_cases hr : c.host.Recovering
    swap
    · exact absurd ⟨hr, by omega, .inl (hidle' hr)⟩ hidle
    rw [if_pos hr] at hstate
    generalize (rtosTasksRetryPendingReclaims P K c.host budget).2 = t at *
    refine waits_recoverFirst hgoverned hquiet' hstate fun hfits => ?_
    obtain ⟨hbudget', hroom', hok⟩ := hfits
    have hheld' := hreturned.held
    have hspent := hreturned.spent
    have hattached : (rtosShmIpcAttach t.ipc).1 = (rtosShmIpcAttach c.host.ipc).1 :=
      rtosShmIpcAttach_congr hheader hrx htx hreturned.checks
    simp only at hbudget' hroom' hok
    exact hretried ⟨hr, hblocked, hbudget, by omega, by omega, by omega, hattached ▸ hok⟩
  · generalize (rtosTasksRetryPendingReclaims P K c.host budget).2 = t at *
    have hstate' : t.state = .reclaimBlocked ∨ t.state = .degradedReclaimFull := by
      rcases hstate with heq | heq
      · rw [heq]
        exact hblocked
      · rw [heq]
        rcases retryBlockedState_cases c.host.state with ⟨-, hb⟩ | ⟨-, hb⟩
        · exact .inl hb
        · exact .inr hb
    have hnot : t.state ≠ .normal ∧ t.state ≠ .recovery := by
      rcases hstate' with heq | heq
      · simp [heq]
      · simp [heq]
    rw [recoverFirst_of_ne (show ({ c with host := t } : TasksContext).host.state ≠ .recovery from hnot.2)]
    refine ⟨hnot.1, hquiet', fun hr _ => ?_⟩
    have hr' : ¬ c.host.Recovering := fun h => hr (hflags.mpr h)
    by_contra hfits
    rw [not_lt] at hfits
    simp only at hfits
    exact hidle ⟨hr', by omega, .inl (hidle' hr')⟩

/-- **Where the gate is not opened**, the tasks wait when the drain
begins. -/
theorem waits_of_not_opens (h : Governed runtime.tasks) (hstate : runtime.tasks.host.state ≠ .normal)
    (hclosed : ¬ Opens P runtime) :
    Waits P runtime (recoverFirst P K runtime.recoveryBudget
      (retryFirst P K runtime.recoveryBudget (preflightBeforeRxDrain P K runtime.tasks).2.2).2).2 := by
  have hentered := preflight_entered (P := P) (K := K) h
  have hquiet : runtime.tasks.host.Quiet (preflightBeforeRxDrain P K runtime.tasks).2.2.host :=
    ⟨congrArg Region.rxRings hentered.region, congrArg Region.txRings hentered.region⟩
  unfold Opens at hclosed
  simp only [not_or] at hclosed
  obtain ⟨hidle, hrecovery, hretried⟩ := hclosed
  have hnormal := enteredState_ne_normal (P := P) hstate
  -- what the call enters with is what its preflight leaves
  have hheld : heldCount (preflightBeforeRxDrain P K runtime.tasks).2.2.host =
      heldCount runtime.tasks.host := heldCount_congr hentered.references
  have hattach : (rtosShmIpcAttach (preflightBeforeRxDrain P K runtime.tasks).2.2.host.ipc).1 =
      (rtosShmIpcAttach runtime.tasks.host.ipc).1 := by
    refine rtosShmIpcAttach_congr ?_ ?_ ?_ ?_
    · rw [hentered.region]
    · rw [hentered.region]
    · rw [hentered.region]
    · rw [hentered.region]
  rw [← hentered.state] at hnormal hidle hrecovery hretried
  rw [← hentered.recovering, ← hentered.pending, ← hentered.region] at hidle hretried
  rw [← hheld, ← hattach, ← hentered.region] at hrecovery
  rw [← hheld, ← hattach] at hretried
  have hgoverned := hentered.governed
  generalize (preflightBeforeRxDrain P K runtime.tasks).2.2 = c at *
  unfold retryFirst
  by_cases hneeds : stateNeedsReclaimRetryFirst c.host.state = true
  · -- a retry comes first
    rw [if_pos hneeds]
    have hblocked : c.host.state = .reclaimBlocked ∨ c.host.state = .degradedReclaimFull := by
      simpa [stateNeedsReclaimRetryFirst] using hneeds
    exact waits_retryFirst hgoverned hquiet hblocked hidle hretried
  rw [if_neg hneeds]
  by_cases hstate : c.host.state = .recovery
  · exact waits_recoverFirst hgoverned hquiet hstate fun hfits => hrecovery ⟨hstate, hfits⟩
  · rw [recoverFirst_of_ne hstate]
    exact waits_degraded hquiet hnormal hstate hneeds hidle

/-! ## The drain and the scheduler -/

/-- **Tasks that wait** take nothing in the drain, and after it are still
not normal or hold something frozen. -/
theorem Waits.drain (h : Waits P runtime c) (rxDrainAllowed : Bool) (trigger : RuntimeTrigger) :
    let c' := (drainAllowed P K rxDrainAllowed trigger c).2
    runtime.tasks.host.Quiet c'.host ∧
      (c'.host.state ≠ .normal ∨ c'.host.pendingReclaims ≠ []) := by
  intro c'
  have hskip : c' = c ∨ c' = (rtosIpcEventTaskRunOnce P K c (mapIpcTrigger trigger)).2 := by
    have heq : c' = (drainAllowed P K rxDrainAllowed trigger c).2 := rfl
    rw [heq]
    unfold drainAllowed
    split
    · exact .inr rfl
    · exact .inl rfl
  rcases hskip with hsame | hrun
  · rw [hsame]
    exact ⟨h.quiet, .inl h.state⟩
  rw [hrun]
  rcases rtosIpcEventTaskRunOnce_cases P K c (mapIpcTrigger trigger) with
    ⟨hnormal, -⟩ | ⟨-, t, ht, ⟨-, heq⟩ | ⟨hpending, heq⟩⟩
  · exact absurd hnormal h.state
  · rw [heq]
    refine ⟨h.quiet.trans ht.quiet, .inl ?_⟩
    rw [ht.state]
    exact h.state
  -- the event task retries what is frozen
  rw [heq]
  have hretry := (rtosTasksRetryPendingReclaims_cases (P := P) (K := K) t 64).1
  refine ⟨(h.quiet.trans ht.quiet).trans hretry.toQuiet, ?_⟩
  rcases retry_ends (P := P) (K := K) t 64 with ⟨-, -, hroom, -, hstate⟩ | ⟨hne, -, -⟩
  · refine .inl ?_
    rw [hstate]
    by_cases hr : t.Recovering
    · rw [if_pos hr]
      simp
    · have hlow := h.idle (fun hc => hr ((Tasks.Recovering.iff_of_eq ht.recovery).mpr hc)) hpending
      rw [← ht.ipc, ← ht.pending] at hlow
      omega
  · exact .inr hne

/-- **The scheduler sends nothing** outside the normal state, and nothing
as long as something is frozen. -/
theorem rtosRouterSchedulerTaskRunOnce_quiet (budget : UInt32)
    (h : c.host.state ≠ .normal ∨ c.host.pendingReclaims ≠ []) :
    c.host.Quiet (rtosRouterSchedulerTaskRunOnce P K c budget).2.host := by
  rcases rtosRouterSchedulerTaskRunOnce_cases P K c budget with
    ⟨-, heq⟩ | ⟨-, -, heq⟩ | ⟨hnil, hnormal, -⟩
  · rw [heq]
    exact (retry_givesBack c budget).quiet
  · rw [heq]
    exact .refl _
  · exact absurd h (not_or.mpr ⟨not_not.mpr hnormal, not_not.mpr hnil⟩)

/-- The supervision takes and sends nothing. -/
theorem supervise_quiet (budget : UInt32) (trigger : RuntimeTrigger) (c : TasksContext) :
    c.host.Quiet (supervise P K budget trigger c).2.host := by
  unfold supervise
  split
  swap
  · exact .refl _
  have hheartbeat : c.host.Quiet (rtosHeartbeatTaskRunOnce K c).2.host :=
    (Tasks.Quiet.refl _).congr (rtosHeartbeatTaskRunOnce_snd K c).1.ipc
  have hmonitor : c.host.Quiet
      (rtosErrorMonitorTaskRunOnce K (rtosHeartbeatTaskRunOnce K c).2).2.host :=
    hheartbeat.congr (rtosErrorMonitorTaskRunOnce_snd K _).1.ipc
  have hrecovered : (rtosErrorMonitorTaskRunOnce K (rtosHeartbeatTaskRunOnce K c).2).2.host.Quiet
      (recoverFirst P K budget
        (rtosErrorMonitorTaskRunOnce K (rtosHeartbeatTaskRunOnce K c).2).2).2.host := by
    unfold recoverFirst
    split
    · exact rtosRecoveryTaskRunOnce_quiet ..
    · exact .refl _
  exact hmonitor.trans hrecovered

/-- **A call whose gate is not opened** takes nothing and sends nothing. -/
theorem rtosRuntimeRunOnce_quiet (h : Governed runtime.tasks)
    (hstate : runtime.tasks.host.state ≠ .normal) (hclosed : ¬ Opens P runtime)
    (trigger : RuntimeTrigger) (ackResult : UnifiedError) :
    runtime.tasks.host.Quiet (rtosRuntimeRunOnce P K runtime trigger ackResult).2.tasks.host := by
  unfold rtosRuntimeRunOnce
  split
  · exact .refl _
  have htasks : (runtime.countRun trigger ackResult).tasks = runtime.tasks := by
    unfold Runtime.countRun
    split
    · rfl
    · rfl
  have hbudget : (runtime.countRun trigger ackResult).recoveryBudget = runtime.recoveryBudget := by
    unfold Runtime.countRun
    split
    · rfl
    · rfl
  simp only [htasks, hbudget]
  have hwaits := waits_of_not_opens (P := P) (K := K) h hstate hclosed
  have hdrained := hwaits.drain (K := K) (preflightBeforeRxDrain P K runtime.tasks).2.1 trigger
  simp only at hdrained
  obtain ⟨hquiet, hgate⟩ := hdrained
  have hscheduled := hquiet.trans (rtosRouterSchedulerTaskRunOnce_quiet (P := P) (K := K)
    (runtime.countRun trigger ackResult).schedulerBudget hgate)
  have hsupervised := hscheduled.trans
    (supervise_quiet (P := P) (K := K) runtime.recoveryBudget trigger _)
  exact hsupervised.congr rfl

/-! ## Runs whose gate stays closed -/

/-- A retry with this budget can write all that is frozen, outside a
recovery. -/
def RetryCompletes (t : Tasks) (budget : UInt32) : Prop :=
  ¬ t.Recovering ∧ t.pendingReclaims.length ≤ budget.toNat ∧
    t.pendingReclaims.length ≤ reclaimRoom t.ipc.region

/-- A recovery with this budget can give back all that is held and attach
to the region. -/
def RecoveryCompletes (t : Tasks) (budget : UInt32) : Prop :=
  heldCount t ≤ budget.toNat ∧ heldCount t ≤ reclaimRoom t.ipc.region ∧
    (rtosShmIpcAttach t.ipc).1 = .ok

/-- The stages that bring the state variable back to normal. -/
def Completes (cfg : Config) : Stage → Prop
  | .retry =>
    stateNeedsReclaimRetryFirst cfg.tasks.host.state = true ∧
      RetryCompletes cfg.tasks.host cfg.runtime.recoveryBudget
  | .event => cfg.tasks.host.pendingReclaims ≠ [] ∧ RetryCompletes cfg.tasks.host 64
  | .scheduler =>
    cfg.tasks.host.pendingReclaims ≠ [] ∧
      RetryCompletes cfg.tasks.host cfg.runtime.schedulerBudget
  | .recovery | .supervision =>
    cfg.tasks.host.state = .recovery ∧
      RecoveryCompletes cfg.tasks.host cfg.runtime.recoveryBudget
  | _ => False

/-- The heartbeat of Linux has stopped for good: `GLOBAL_DEGRADED`. -/
def Tasks.GlobalDegraded (t : Tasks) : Prop := t.monitor.linuxHeartbeat.state = .globalDegraded

/-- The configurations of the runs in which, as long as the heartbeat of
Linux has stopped, no retry outside a recovery can write all that is
frozen and no recovery can give back all that is held. -/
inductive GatedReaches (P : Platform) (K : Clock) (Allowed : Region → Prop) : Config → Prop
  | init {region : Region} {ticks : ℕ} {schedulerBudget recoveryBudget : UInt32} {runtime : Runtime}
      (hregion : Allowed region)
      (hinit : rtosRuntimeInit region ticks schedulerBudget recoveryBudget = .ok runtime) :
      GatedReaches P K Allowed { runtime := runtime }
  | call {cfg} (h : GatedReaches P K Allowed cfg) (hidle : cfg.left = []) (trigger : RuntimeTrigger)
      (ackResult : UnifiedError) : GatedReaches P K Allowed (cfg.begin trigger ackResult)
  | stage {cfg s rest} (h : GatedReaches P K Allowed cfg) (hleft : cfg.left = s :: rest)
      (hgate : cfg.tasks.host.GlobalDegraded → ¬ Completes cfg s) :
      GatedReaches P K Allowed (cfg.advance P K s rest)
  | observe {cfg} (h : GatedReaches P K Allowed cfg) (hidle : cfg.left = []) (sequence : UInt32) :
      GatedReaches P K Allowed (cfg.observe K sequence)
  | environment {cfg} {R : Region} (h : GatedReaches P K Allowed cfg) (hR : Allowed R)
      (hheader : cfg.left ≠ [] → R.header = cfg.tasks.host.ipc.region.header) :
      GatedReaches P K Allowed (cfg.withRegion R)

variable {cfg : Config} {Allowed : Region → Prop}

theorem GatedReaches.reaches (h : GatedReaches P K Allowed cfg) : RuntimeReaches P K Allowed cfg := by
  induction h with
  | init hregion hinit => exact .init hregion hinit
  | call _ hidle trigger ackResult ih => exact .call ih hidle trigger ackResult
  | stage _ hleft _ ih => exact .stage ih hleft
  | observe _ hidle sequence ih => exact .observe ih hidle sequence
  | environment _ hR hheader ih => exact .environment ih hR hheader

/-- The gate of the state variable: shut as long as the heartbeat of Linux
has stopped. -/
def Tasks.Shut (t : Tasks) : Prop := t.GlobalDegraded → t.state ≠ .normal

theorem Tasks.Shut.congr (h : t.Shut)
    (hheartbeat : t'.monitor.linuxHeartbeat = t.monitor.linuxHeartbeat)
    (hstate : t'.state = t.state) : t'.Shut := by
  intro hdegraded
  unfold GlobalDegraded at hdegraded
  rw [hheartbeat] at hdegraded
  rw [hstate]
  exact h hdegraded

theorem Tasks.Shut.retry (h : t.Shut) {budget : UInt32}
    (hgate : t.GlobalDegraded → ¬ RetryCompletes t budget) :
    (rtosTasksRetryPendingReclaims P K t budget).2.Shut := by
  have hkept := (rtosTasksRetryPendingReclaims_cases (P := P) (K := K) t budget).1.linuxHeartbeat
  intro hdegraded
  unfold GlobalDegraded at hdegraded
  rw [hkept] at hdegraded
  rcases retry_ends (P := P) (K := K) t budget with
    ⟨-, hbudget, hroom, -, hstate⟩ | ⟨-, hstate | hstate, -⟩
  · rw [hstate]
    by_cases hr : t.Recovering
    · rw [if_pos hr]
      simp
    · exact absurd ⟨hr, hbudget, by omega⟩ (hgate hdegraded)
  · rw [hstate]
    exact h hdegraded
  · rw [hstate]
    rcases retryBlockedState_cases t.state with ⟨-, hb⟩ | ⟨-, hb⟩
    · rw [hb]
      simp
    · rw [hb]
      simp

theorem Tasks.Shut.errorMonitorTask (h : c.host.Shut) :
    (rtosErrorMonitorTaskRunOnce K c).2.host.Shut := by
  have hkept := rtosErrorMonitorTaskRunOnce_linuxHeartbeat K c
  obtain ⟨-, -, ⟨-, hstate, -⟩ | ⟨-, -, hstate, -⟩ | ⟨-, -, hsame⟩⟩ :=
    rtosErrorMonitorTaskRunOnce_control K c
  · exact fun _ => by simp [hstate]
  · exact fun _ => by simp [hstate]
  · exact h.congr hkept hsame.state

/-- **The heartbeat task** shuts the gate when it finds that the heartbeat
of Linux has stopped. -/
theorem Tasks.Shut.heartbeatTask (h : c.host.Shut) : (rtosHeartbeatTaskRunOnce K c).2.host.Shut := by
  have hpolled : ∀ (monitor : MonitorContext) (nowMs : UInt32),
      (rtosMonitorPollLinuxHeartbeat monitor nowMs).2.linuxHeartbeat.state = .globalDegraded →
      (rtosMonitorPollLinuxHeartbeat monitor nowMs).1 = .globalDegraded ∨
        monitor.linuxHeartbeat.state = .globalDegraded := by
    intro monitor nowMs
    unfold rtosMonitorPollLinuxHeartbeat
    simp only
    split
    · exact .inr
    · refine fun hpolled => .inl ?_
      revert hpolled
      split_ifs
      all_goals exact id
  have hstate : (tasksNow K c.host).2.state = c.host.state := rfl
  intro hdegraded
  unfold GlobalDegraded at hdegraded
  unfold rtosHeartbeatTaskRunOnce at hdegraded ⊢
  simp only at hdegraded ⊢
  have hends := hpolled (rtosMonitorTickRtosHeartbeat (tasksNow K c.host).2.monitor)
    (tasksNow K c.host).1
  generalize rtosMonitorPollLinuxHeartbeat _ _ = polled at hends hdegraded ⊢
  generalize rtosEndpointHeartbeatScanTimeouts _ _ = scanned at hdegraded ⊢
  -- what the poll says is what the monitor then holds
  have hmonitor : (if scanned.1 > 0 then
      rtosMonitorRecordError polled.2 .endpointHeartbeat (tasksNow K c.host).1
      else polled.2).linuxHeartbeat = polled.2.linuxHeartbeat := by
    split
    · rfl
    · rfl
  generalize (if scanned.1 > 0 then _ else polled.2) = monitor at hmonitor hdegraded ⊢
  by_cases hdegrade : (polled.1 = .globalDegraded && (tasksNow K c.host).2.state = .normal) = true
  · rw [if_pos hdegrade]
    split
    · simp
    · simp
  rw [if_neg hdegrade] at hdegraded ⊢
  split
  · simp
  next hask =>
  rw [if_neg hask] at hdegraded
  simp only at hdegraded ⊢
  rw [hmonitor] at hdegraded
  rw [hstate]
  intro hnormal
  rcases hends hdegraded with hnow | hbefore
  · exact hdegrade (by rw [hnow, hstate, hnormal]; rfl)
  · exact h hbefore hnormal

theorem Tasks.Shut.recoverFirst (h : c.host.Shut) {budget : UInt32}
    (hgate : c.host.GlobalDegraded → ¬ (c.host.state = .recovery ∧ RecoveryCompletes c.host budget)) :
    (recoverFirst P K budget c).2.host.Shut := by
  unfold Rtos.recoverFirst
  split
  swap
  · exact h
  next hneeds =>
  have hstate : c.host.state = .recovery := by simpa [stateNeedsRecoveryFirst] using hneeds
  intro hdegraded hends
  unfold GlobalDegraded at hdegraded
  rw [rtosRecoveryTaskRunOnce_linuxHeartbeat] at hdegraded
  exact hgate hdegraded ⟨hstate, rtosRecoveryTaskRunOnce_normal hstate hends⟩

/-- **A stage keeps the gate shut** unless it completes a retry or a
recovery. -/
theorem Tasks.Shut.stage (h : cfg.tasks.host.Shut) {s : Stage}
    (hgate : cfg.tasks.host.GlobalDegraded → ¬ Completes cfg s) :
    (cfg.stage P K s).2.2.host.Shut := by
  cases s with
  | preflight =>
    have hcalled : (Config.called cfg.tasks).host.Shut := h.congr rfl rfl
    rcases Config.preflightBeforeRxDrain_cases P K cfg.tasks with
      ⟨-, heq⟩ | ⟨-, -, -, heq⟩ | ⟨-, -, heq⟩
    · simp only [Config.stage, heq]
      exact hcalled
    · simp only [Config.stage, heq]
      exact hcalled
    · simp only [Config.stage, heq]
      exact hcalled.errorMonitorTask
  | retry =>
    simp only [Config.stage]
    unfold retryFirst
    split
    · next hneeds => exact h.retry fun hdegraded hcompletes => hgate hdegraded ⟨hneeds, hcompletes⟩
    · exact h
  | recovery => exact h.recoverFirst hgate
  | supervision => exact h.recoverFirst hgate
  | event =>
    simp only [Config.stage]
    unfold drainAllowed
    split
    swap
    · exact h
    rcases rtosIpcEventTaskRunOnce_cases P K cfg.tasks (mapIpcTrigger cfg.trigger) with
      ⟨hnormal, hserves⟩ | ⟨-, t, ht, ⟨-, heq⟩ | ⟨hpending, heq⟩⟩
    · -- the drain takes place in the normal state only
      intro hdegraded
      unfold GlobalDegraded at hdegraded
      rw [hserves.host.linuxHeartbeat] at hdegraded
      exact absurd hnormal (h hdegraded)
    · rw [heq]
      exact h.congr ht.linuxHeartbeat ht.state
    · rw [heq]
      refine (h.congr ht.linuxHeartbeat ht.state).retry fun hdegraded hcompletes => ?_
      unfold RetryCompletes at hcompletes
      rw [ht.pending, ht.ipc, Tasks.Recovering.iff_of_eq ht.recovery] at hcompletes
      unfold GlobalDegraded at hdegraded
      rw [ht.linuxHeartbeat] at hdegraded
      exact hgate hdegraded ⟨hpending, hcompletes⟩
  | scheduler =>
    simp only [Config.stage]
    rcases rtosRouterSchedulerTaskRunOnce_cases P K cfg.tasks cfg.runtime.schedulerBudget with
      ⟨hpending, heq⟩ | ⟨-, -, heq⟩ | ⟨-, hnormal, heq⟩
    · rw [heq]
      exact h.retry fun hdegraded hcompletes => hgate hdegraded ⟨hpending, hcompletes⟩
    · rw [heq]
      exact h
    · rw [heq]
      have hserves := drain_serves (P := P) (K := K) cfg.tasks cfg.runtime.schedulerBudget
      intro hdegraded
      unfold GlobalDegraded at hdegraded
      rw [hserves.host.linuxHeartbeat] at hdegraded
      exact absurd hnormal (h hdegraded)
  | heartbeat => exact h.heartbeatTask
  | monitor => exact h.errorMonitorTask
  | statistics => exact h.congr rfl rfl

/-- **The gate stays shut** in a run whose stages keep it shut. -/
theorem GatedReaches.shut (h : GatedReaches P K Allowed cfg) : cfg.tasks.host.Shut := by
  induction h with
  | @init region ticks schedulerBudget recoveryBudget runtime hregion hstart =>
    unfold rtosRuntimeInit at hstart
    simp only at hstart
    split at hstart
    · cases hstart
    obtain rfl := Except.ok.inj hstart
    intro hdegraded
    cases hdegraded
  | call _ _ trigger ackResult ih =>
    rw [Config.begin_tasks]
    exact ih
  | stage _ _ hgate ih => exact ih.stage hgate
  | @observe cfg _ _ sequence ih =>
    intro hdegraded
    unfold Tasks.GlobalDegraded Config.observe Config.tasks rtosTasksObserveLinuxHeartbeat
      rtosMonitorObserveLinuxHeartbeat at hdegraded
    simp only at hdegraded
    split at hdegraded
    · cases hdegraded
    split at hdegraded
    · exact ih hdegraded
    split at hdegraded
    · cases hdegraded
    · cases hdegraded
  | environment _ _ _ ih => exact ih

/-- A stage that starts outside the normal state takes and sends nothing. -/
theorem Config.stage_quiet_of_ne (h : cfg.tasks.host.state ≠ .normal) (s : Stage) :
    cfg.tasks.host.Quiet (cfg.stage P K s).2.2.host := by
  by_cases hevent : s = .event
  · subst hevent
    simp only [Config.stage]
    unfold drainAllowed
    split
    swap
    · exact .refl _
    rcases rtosIpcEventTaskRunOnce_cases P K cfg.tasks (mapIpcTrigger cfg.trigger) with
      ⟨hnormal, -⟩ | ⟨-, t, ht, ⟨-, heq⟩ | ⟨-, heq⟩⟩
    · exact absurd hnormal h
    · rw [heq]
      exact ht.quiet
    · rw [heq]
      have hretry := (rtosTasksRetryPendingReclaims_cases (P := P) (K := K) t 64).1
      exact ht.quiet.trans hretry.toQuiet
  by_cases hscheduler : s = .scheduler
  · subst hscheduler
    exact rtosRouterSchedulerTaskRunOnce_quiet _ (.inl h)
  · exact Config.stage_quiet P K cfg hevent hscheduler

/-- Quiet tasks have taken and sent nothing. -/
theorem Tasks.Quiet.nothing (h : c.host.Quiet c'.host) (i : Fin 6) :
    takenRx c c' i = [] ∧ writtenTx c c' i = [] := by
  have hrx : c'.host.ipc.region.view.rx i = c.host.ipc.region.view.rx i := by
    simp only [Region.view, h.rxRings]
  have htx : c'.host.ipc.region.view.tx i = c.host.ipc.region.view.tx i := by
    simp only [Region.view, h.txRings]
  refine ⟨?_, ?_⟩
  · unfold takenRx
    simp only
    rw [hrx, Nat.sub_self, List.take_zero]
  · unfold writtenTx
    rw [htx, List.drop_length]

/-- **The gate of a stopped heartbeat.** In a run in which no retry and no
recovery completes while the heartbeat of Linux has stopped: the tasks
are not normal then, the stage gone through next takes and sends nothing,
and so does a call as a whole that does not complete one either, whatever
its clock and its platform calls return. -/
theorem degraded_gate (h : GatedReaches P K Allowed cfg)
    (hdegraded : cfg.tasks.host.GlobalDegraded) :
    cfg.tasks.host.state ≠ .normal ∧
    (∀ s rest, cfg.left = s :: rest → ∀ i,
      takenRx cfg.tasks (cfg.advance P K s rest).tasks i = [] ∧
        writtenTx cfg.tasks (cfg.advance P K s rest).tasks i = []) ∧
    (cfg.left = [] → ¬ Opens P cfg.runtime → ∀ trigger ackResult i,
      takenRx cfg.tasks (rtosRuntimeRunOnce P K cfg.runtime trigger ackResult).2.tasks i = [] ∧
        writtenTx cfg.tasks (rtosRuntimeRunOnce P K cfg.runtime trigger ackResult).2.tasks i =
          []) := by
  have hstate : cfg.tasks.host.state ≠ .normal := h.shut hdegraded
  refine ⟨hstate, fun s rest _ i => ?_, fun _ hclosed trigger ackResult i => ?_⟩
  · have hquiet : cfg.tasks.host.Quiet (cfg.advance P K s rest).tasks.host :=
      Config.stage_quiet_of_ne hstate s
    exact hquiet.nothing i
  · have hquiet := rtosRuntimeRunOnce_quiet (P := P) (K := K) h.reaches.governed hstate hclosed
      trigger ackResult
    exact hquiet.nothing i

/-! ## A gate that opens -/

instance (t : Tasks) (budget : UInt32) : Decidable (RetryCompletes t budget) :=
  inferInstanceAs (Decidable (_ ∧ _ ∧ _))

instance (t : Tasks) (budget : UInt32) : Decidable (RecoveryCompletes t budget) :=
  inferInstanceAs (Decidable (_ ∧ _ ∧ _))

instance (cfg : Config) : (s : Stage) → Decidable (Completes cfg s)
  | .retry => inferInstanceAs (Decidable (_ ∧ _))
  | .event => inferInstanceAs (Decidable (_ ∧ _))
  | .scheduler => inferInstanceAs (Decidable (_ ∧ _))
  | .recovery => inferInstanceAs (Decidable (_ ∧ _))
  | .supervision => inferInstanceAs (Decidable (_ ∧ _))
  | .preflight => inferInstanceAs (Decidable False)
  | .heartbeat => inferInstanceAs (Decidable False)
  | .monitor => inferInstanceAs (Decidable False)
  | .statistics => inferInstanceAs (Decidable False)

instance (t : Tasks) : Decidable t.GlobalDegraded := inferInstanceAs (Decidable (_ = _))

/-- Stages that complete nothing while the heartbeat has stopped. -/
def Config.KeepsGate (P : Platform) (K : Clock) : List Stage → Config → Prop
  | [], _ => True
  | s :: rest, cfg =>
    (cfg.tasks.host.GlobalDegraded → ¬ Completes cfg s) ∧
      Config.KeepsGate P K rest (cfg.advance P K s rest)

instance Config.decidableKeepsGate (P : Platform) (K : Clock) :
    (l : List Stage) → (cfg : Config) → Decidable (cfg.KeepsGate P K l)
  | [], _ => inferInstanceAs (Decidable True)
  | s :: rest, cfg =>
    have := Config.decidableKeepsGate P K rest (cfg.advance P K s rest)
    inferInstanceAs (Decidable (_ ∧ _))

theorem GatedReaches.finish {l : List Stage} (h : GatedReaches P K Allowed cfg)
    (hleft : cfg.left = l) (hgate : cfg.KeepsGate P K l) :
    GatedReaches P K Allowed (cfg.finish P K l) := by
  induction l generalizing cfg with
  | nil => exact h
  | cons s rest ih => exact ih (h.stage hleft hgate.1) rfl hgate.2

/-- A clock that goes on by a second at each reading. -/
def secondsClock : Clock := fun n => UInt32.ofNat (1000 * n)

/-- Linux has sent one heartbeat, and a periodic call has found a second
later that none has followed. -/
def degradedConfig : Config :=
  ((idleConfig.observe secondsClock 1).begin .periodic .ok).finish .defaultOps secondsClock
    (stages .periodic)

/-- Linux has formatted the region anew, with a frame in an RX ring, and
has sent no heartbeat since. -/
def restartedConfig : Config :=
  degradedConfig.withRegion ((Linux.formatRegion 2 1).publishRx 0
    (Linux.rxDescriptor 1 40 putShmInterfaceCan putShmInterfaceEthernet ⟨0, 0, 0, 1⟩ ⟨0, 0, 1, 0⟩
      3 2 0 2 0).sealed)

set_option maxRecDepth 100000 in
/-- **The gate of a stopped heartbeat opens** where a recovery ends. -/
theorem not_degraded_gate :
    ¬ ∀ (P : Platform) (K : Clock) (cfg : Config), RuntimeReaches P K (fun _ => True) cfg →
      cfg.left = [] → cfg.tasks.host.GlobalDegraded → ∀ trigger ackResult i,
      takenRx cfg.tasks (rtosRuntimeRunOnce P K cfg.runtime trigger ackResult).2.tasks i = [] ∧
        writtenTx cfg.tasks (rtosRuntimeRunOnce P K cfg.runtime trigger ackResult).2.tasks i = [] := by
  intro hshut
  have hidle : RuntimeReaches .defaultOps secondsClock (fun _ => True) idleConfig :=
    idleConfig_reaches
  have hdegraded := ((hidle.observe rfl 1).call rfl .periodic .ok).finish rfl
  have hreach : RuntimeReaches .defaultOps secondsClock (fun _ => True) restartedConfig :=
    hdegraded.environment trivial fun hleft => absurd (by decide +kernel) hleft
  have htaken := (hshut .defaultOps secondsClock restartedConfig hreach (by decide +kernel)
    (by decide +kernel) .periodic .ok 0).1
  have hone : (takenRx restartedConfig.tasks (rtosRuntimeRunOnce .defaultOps secondsClock
      restartedConfig.runtime .periodic .ok).2.tasks 0).length = 1 := by
    decide +kernel
  rw [htaken] at hone
  cases hone

/-- A frame of the epoch the tasks know comes while the heartbeat has
stopped. -/
def waitingConfig : Config :=
  degradedConfig.withRegion (offering (Linux.formatRegion 1 1) [plainDescriptor 0 1])

set_option maxRecDepth 100000 in
/-- As long as no heartbeat follows, the frame stays on its ring. -/
theorem degraded_gate_silent :
    (waitingConfig.tasks.host.ipc.region.view.rx 0).length = 1 ∧
    waitingConfig.tasks.host.state ≠ .normal ∧ ∀ trigger ackResult i,
      takenRx waitingConfig.tasks (rtosRuntimeRunOnce .defaultOps secondsClock
        waitingConfig.runtime trigger ackResult).2.tasks i = [] ∧
      writtenTx waitingConfig.tasks (rtosRuntimeRunOnce .defaultOps secondsClock
        waitingConfig.runtime trigger ackResult).2.tasks i = [] := by
  have hidle : GatedReaches .defaultOps secondsClock (fun _ => True) idleConfig :=
    .init trivial idleConfig_init
  have hcall := (hidle.observe rfl 1).call rfl .periodic .ok
  have hdegraded : GatedReaches .defaultOps secondsClock (fun _ => True) degradedConfig :=
    hcall.finish rfl (by decide +kernel)
  have hwaiting : GatedReaches .defaultOps secondsClock (fun _ => True) waitingConfig :=
    hdegraded.environment trivial fun hleft => absurd (by decide +kernel) hleft
  have h := degraded_gate hwaiting (by decide +kernel)
  exact ⟨by decide +kernel, h.1, h.2.2 (by decide +kernel) (by decide +kernel)⟩

end Rtos

end PutGateway
