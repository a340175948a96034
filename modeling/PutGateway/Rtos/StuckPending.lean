import PutGateway.Lib.Lasting
import PutGateway.Linux.ShmIpc
import PutGateway.Rtos.TaskControl
/-!
# The error PENDING_STUCK

`rtos_error_monitor_task_run_once` times three pending words: how long
each has been non-zero, poll after poll. The three timers are updated in
one expression, joined by `||`. Where the first word has been non-zero for
300 ms the timers of the other two are left as they are, and where the
second has, that of the third. A word that changes between zero and
non-zero at such a poll has its timer wrong from then on, and the error is
recorded without reason or missed later.

A run is a list of polls, newest first, with anything done to the tasks
between two of them but for the three timers (`Polled`). Where no word
changes unseen and the region passes its checks, the timers are right
after every poll, and so is the error (`Polled.exact`).
-/

namespace PutGateway

namespace Rtos

open Lasting

variable {K : Clock} {monitor : MonitorContext} {reason reason' : MonitorError} {nowMs : UInt32}

/-! ## Error bits -/

/-- An error is recorded. -/
def MonitorContext.hasError (monitor : MonitorContext) (reason : MonitorError) : Bool :=
  monitor.errorState.errorBits &&& reason.bit != 0

theorem MonitorError.bit_and_bit (reason reason' : MonitorError) :
    reason.bit &&& reason'.bit = if reason = reason' then reason.bit else 0 := by
  cases reason <;> cases reason' <;> decide

theorem MonitorError.not_bit_and_bit (reason reason' : MonitorError) :
    ~~~reason.bit &&& reason'.bit = if reason = reason' then 0 else reason'.bit := by
  cases reason <;> cases reason' <;> decide

theorem MonitorError.bit_ne_zero (reason : MonitorError) : reason.bit ≠ 0 := by
  cases reason <;> decide

theorem hasError_recordError :
    (rtosMonitorRecordError monitor reason nowMs).hasError reason' =
      (decide (reason = reason') || monitor.hasError reason') := by
  have hbits : (monitor.errorState.errorBits ||| reason.bit) &&& reason'.bit =
      (monitor.errorState.errorBits &&& reason'.bit) ||| (reason.bit &&& reason'.bit) :=
    UInt32.toBitVec_inj.mp BitVec.and_or_distrib_right
  show ((monitor.errorState.errorBits ||| reason.bit) &&& reason'.bit != 0) = _
  rw [hbits, MonitorError.bit_and_bit]
  by_cases h : reason = reason'
  · simp [h, MonitorError.bit_ne_zero]
  · simp [h, MonitorContext.hasError]

theorem hasError_clearError :
    (rtosMonitorClearError monitor reason).hasError reason' =
      (!decide (reason = reason') && monitor.hasError reason') := by
  show (monitor.errorState.errorBits &&& ~~~reason.bit &&& reason'.bit != 0) = _
  rw [UInt32.and_assoc, MonitorError.not_bit_and_bit]
  by_cases h : reason = reason'
  · simp [h]
  · simp [h, MonitorContext.hasError]

/-! ## One timer -/

/-- A timer holds the time from which on its word was non-zero, and zero
where there is none. -/
def Times (sinceMs : UInt32) (observed : List (ℕ × Bool)) : Prop :=
  sinceMs.toNat = (since observed).getD 0

section Timer

variable {sinceMs : UInt32} {active : Bool} {old : List (ℕ × Bool)}

/-- The times of the observations of a word are not zero. -/
theorem since_pos (hpos : ∀ o ∈ old, o.1 ≠ 0) {s : ℕ} (h : since old = some s) : s ≠ 0 := by
  obtain ⟨o, ho, rfl⟩ := exists_of_since h
  exact hpos o ho

/-- A check that sees the word as it was before finds its timer right. -/
theorem Times.unchanged (h : Times sinceMs old)
    (hsame : active = (old.head?.map Prod.snd).getD false) (hpos : ∀ o ∈ old, o.1 ≠ 0) (now : ℕ) :
    Times sinceMs ((now, active) :: old) := by
  unfold Times at h ⊢
  cases active with
  | false =>
    -- zero then and now
    cases old with
    | nil => exact h
    | cons o old =>
      obtain ⟨t, seen⟩ := o
      simp only [List.head?_cons, Option.map_some, Option.getD_some] at hsame
      subst hsame
      exact h
  | true =>
    cases old with
    | nil => simp at hsame
    | cons o old =>
      obtain ⟨t, seen⟩ := o
      simp only [List.head?_cons, Option.map_some, Option.getD_some] at hsame
      subst hsame
      rw [h, since_cons_true, since_cons_true]
      rfl

/-- **A check of a timer.** It answers whether the word has been non-zero
for 300 ms, and leaves the timer right. -/
theorem Times.check (h : Times sinceMs old)
    (htime : InTime ((nowMs.toNat, active) :: old)) (hpos : ∀ o ∈ old, o.1 ≠ 0)
    (monitor : MonitorContext) (reason : MonitorError) :
    ((updateStuckMonitor monitor active sinceMs reason nowMs).1 = true ↔
      LastsFor 300 nowMs.toNat ((nowMs.toNat, active) :: old)) ∧
    Times (updateStuckMonitor monitor active sinceMs reason nowMs).2.1
      ((nowMs.toNat, active) :: old) := by
  rw [lasting_iff htime]
  unfold updateStuckMonitor Times at *
  cases active with
  | false => simp
  | true =>
    have h300 : (300 : UInt32).toNat = 300 := rfl
    -- the time from which the word has been non-zero
    have hsince : (if sinceMs = 0 then nowMs else sinceMs).toNat = (since old).getD nowMs.toNat ∧
        (if sinceMs = 0 then nowMs else sinceMs) ≤ nowMs := by
      cases hs : since old with
      | none =>
        rw [hs, Option.getD_none] at h
        have hzero : sinceMs = 0 := UInt32.toNat_inj.mp h
        rw [if_pos hzero]
        exact ⟨rfl, UInt32.le_refl _⟩
      | some s =>
        rw [hs, Option.getD_some] at h
        have hne : sinceMs ≠ 0 := by
          rintro rfl
          exact since_pos hpos hs h.symm
        obtain ⟨o, ho, hos⟩ := exists_of_since hs
        have hle := (List.pairwise_cons.mp htime).1 o ho
        rw [if_neg hne, Option.getD_some, UInt32.le_iff_toNat_le]
        exact ⟨h, by omega⟩
    generalize (if sinceMs = 0 then nowMs else sinceMs) = start at hsince
    obtain ⟨hstart, hle⟩ := hsince
    have hiff : nowMs - start ≥ 300 ↔ start.toNat + 300 ≤ nowMs.toNat := by
      rw [ge_iff_le, UInt32.le_iff_toNat_le, UInt32.toNat_sub_of_le _ _ hle, h300]
      rw [UInt32.le_iff_toNat_le] at hle
      omega
    simp only [Bool.not_true, Bool.false_eq_true, if_false, since_cons_true, Option.some.injEq,
      exists_eq_left', Option.getD_some]
    rw [← hstart, ← hiff]
    split
    · next hlasts => exact ⟨iff_of_true rfl hlasts, rfl⟩
    · next hshort => exact ⟨iff_of_false Bool.false_ne_true hshort, rfl⟩

end Timer

/-! ## Polls -/

/-- The three pending words of the region. -/
inductive PendingWord
  | rx
  | tx
  | reclaim
  deriving DecidableEq

/-- The word as it stands in the region. -/
def Tasks.pendingBits (t : Tasks) : PendingWord → UInt32
  | .rx => t.ipc.region.rxPendingBitmap.bits
  | .tx => t.ipc.region.txPendingBitmap.bits
  | .reclaim => t.ipc.region.reclaimPending.bits

/-- The timer of a word. -/
def Tasks.sinceMs (t : Tasks) : PendingWord → UInt32
  | .rx => t.rxPendingSinceMs
  | .tx => t.txPendingSinceMs
  | .reclaim => t.reclaimPendingSinceMs

/-- What a poll of the error monitor finds: the time, which words are not
zero, and whether the region passes the checks of its headers. -/
structure Poll where
  nowMs : UInt32
  nonzero : PendingWord → Bool
  accepted : Bool

/-- The poll made by `rtos_error_monitor_task_run_once`. -/
def Tasks.polled (K : Clock) (t : Tasks) : Poll where
  nowMs := (tasksNow K t).1
  nonzero w := t.pendingBits w != 0
  accepted := monitorAccepts t.ipc.region

/-- What polls, newest first, have seen of a word. -/
def seen (w : PendingWord) (polls : List Poll) : List (ℕ × Bool) :=
  polls.map fun p => (p.nowMs.toNat, p.nonzero w)

/-- Whether a word was non-zero at the last poll. -/
def before (w : PendingWord) (polls : List Poll) : Bool :=
  (polls.head?.map fun p => p.nonzero w).getD false

/-- A word has been non-zero, poll after poll, for 300 ms. -/
def StuckAt (w : PendingWord) (p : Poll) (old : List Poll) : Prop :=
  LastsFor 300 p.nowMs.toNat (seen w (p :: old))

/-- Polls at times that are not zero and do not decrease. -/
structure Timed (polls : List Poll) : Prop where
  inTime : polls.Pairwise fun newer older => older.nowMs ≤ newer.nowMs
  nonzero : ∀ p ∈ polls, p.nowMs ≠ 0

/-- **No change goes unseen at a poll.** The region passes its checks, and
a word whose timer is left out is zero or non-zero as it was. -/
structure Poll.Undisturbed (p : Poll) (old : List Poll) : Prop where
  accepted : p.accepted = true
  rx : StuckAt .rx p old → p.nonzero .tx = before .tx old ∧ p.nonzero .reclaim = before .reclaim old
  tx : StuckAt .tx p old → p.nonzero .reclaim = before .reclaim old

/-- No change goes unseen at any of some polls. -/
def Undisturbed : List Poll → Prop
  | [] => True
  | p :: old => p.Undisturbed old ∧ Undisturbed old

section Polls

variable {polls old : List Poll} {p : Poll} {w : PendingWord} {t t' : Tasks}

theorem seen_inTime (h : Timed polls) (w : PendingWord) : InTime (seen w polls) := by
  refine List.pairwise_map.mpr (h.inTime.imp fun hle => ?_)
  exact UInt32.le_iff_toNat_le.mp hle

theorem seen_pos (h : Timed polls) (w : PendingWord) : ∀ o ∈ seen w polls, o.1 ≠ 0 := by
  intro o ho hzero
  obtain ⟨p, hp, rfl⟩ := List.mem_map.mp ho
  exact h.nonzero p hp (UInt32.toNat_inj.mp hzero)

theorem before_eq (w : PendingWord) (polls : List Poll) :
    before w polls = ((seen w polls).head?.map Prod.snd).getD false := by
  cases polls with
  | nil => rfl
  | cons p old => rfl

theorem Timed.tail (h : Timed (p :: old)) : Timed old :=
  ⟨(List.pairwise_cons.mp h.inTime).2, fun q hq => h.nonzero q (List.mem_cons_of_mem _ hq)⟩

/-- The timers of the tasks are right. -/
def Tasks.Timing (t : Tasks) (polls : List Poll) : Prop := ∀ w, Times (t.sinceMs w) (seen w polls)

theorem updateStuckMonitor_hasError {active : Bool} {sinceMs : UInt32}
    (h : (updateStuckMonitor monitor active sinceMs reason nowMs).1 = true) :
    (updateStuckMonitor monitor active sinceMs reason nowMs).2.2.hasError reason = true := by
  unfold updateStuckMonitor at h ⊢
  cases active with
  | false => cases h
  | true =>
    simp only [Bool.not_true, Bool.false_eq_true, if_false] at h ⊢
    generalize (if sinceMs = 0 then nowMs else sinceMs) = start at h ⊢
    by_cases hlasts : nowMs - start ≥ 300
    · rw [if_pos hlasts, hasError_recordError]
      simp
    · rw [if_neg hlasts] at h
      cases h

/-- A timer that is looked at is right afterwards. -/
theorem checked (ht : Timed (p :: old)) (hright : Times (t.sinceMs w) (seen w old))
    (monitor : MonitorContext) (reason : MonitorError) :
    ((updateStuckMonitor monitor (p.nonzero w) (t.sinceMs w) reason p.nowMs).1 = true ↔
      StuckAt w p old) ∧
    Times (updateStuckMonitor monitor (p.nonzero w) (t.sinceMs w) reason p.nowMs).2.1
      (seen w (p :: old)) :=
  hright.check (seen_inTime ht w) (seen_pos ht.tail w) monitor reason

/-- A timer that is left out is right where its word is as it was. -/
theorem leftOut (ht : Timed (p :: old)) (hright : Times (t.sinceMs w) (seen w old))
    (hsame : p.nonzero w = before w old) : Times (t.sinceMs w) (seen w (p :: old)) :=
  hright.unchanged (hsame.trans (before_eq w old)) (seen_pos ht.tail w) _

/-- **The three timers.** Where they are right before, the answer is right;
where no change goes unseen, they are right after. -/
theorem watchPending_timing (ht : Timed (p :: old)) (hright : t.Timing old)
    (hbits : ∀ w, (t.pendingBits w != 0) = p.nonzero w) :
    ((watchPending p.nowMs t).1 = true ↔ ∃ w, StuckAt w p old) ∧
      (p.Undisturbed old → (watchPending p.nowMs t).2.Timing (p :: old)) ∧
      ((watchPending p.nowMs t).1 = true →
        (watchPending p.nowMs t).2.monitor.hasError .pendingStuck = true) := by
  have hrx := checked ht (hright .rx) t.monitor .pendingStuck
  have hrxError := @updateStuckMonitor_hasError t.monitor .pendingStuck p.nowMs (p.nonzero .rx)
    (t.sinceMs .rx)
  rw [← hbits .rx] at hrx hrxError
  simp only [Tasks.pendingBits, Tasks.sinceMs] at hrx hrxError
  unfold watchPending
  simp only
  generalize updateStuckMonitor t.monitor (t.ipc.region.rxPendingBitmap.bits != 0)
    t.rxPendingSinceMs .pendingStuck p.nowMs = rx at hrx hrxError ⊢
  by_cases hrxStuck : rx.1 = true
  · -- RX is stuck: the other two timers are left out
    rw [if_pos hrxStuck]
    have hstuck := hrx.1.mp hrxStuck
    refine ⟨iff_of_true rfl ⟨.rx, hstuck⟩, fun hu w => ?_, fun _ => hrxError hrxStuck⟩
    cases w with
    | rx => exact hrx.2
    | tx => exact leftOut ht (hright .tx) (hu.rx hstuck).1
    | reclaim => exact leftOut ht (hright .reclaim) (hu.rx hstuck).2
  rw [if_neg hrxStuck]
  have hrxNot : ¬ StuckAt .rx p old := fun h => hrxStuck (hrx.1.mpr h)
  have htx := checked ht (hright .tx) rx.2.2 .pendingStuck
  have htxError := @updateStuckMonitor_hasError rx.2.2 .pendingStuck p.nowMs (p.nonzero .tx)
    (t.sinceMs .tx)
  rw [← hbits .tx] at htx htxError
  simp only [Tasks.pendingBits, Tasks.sinceMs] at htx htxError
  generalize updateStuckMonitor rx.2.2 (t.ipc.region.txPendingBitmap.bits != 0)
    t.txPendingSinceMs .pendingStuck p.nowMs = tx at htx htxError ⊢
  by_cases htxStuck : tx.1 = true
  · -- TX is stuck: the timer of reclaims is left out
    rw [if_pos htxStuck]
    have hstuck := htx.1.mp htxStuck
    refine ⟨iff_of_true rfl ⟨.tx, hstuck⟩, fun hu w => ?_, fun _ => htxError htxStuck⟩
    cases w with
    | rx => exact hrx.2
    | tx => exact htx.2
    | reclaim => exact leftOut ht (hright .reclaim) (hu.tx hstuck)
  rw [if_neg htxStuck]
  have htxNot : ¬ StuckAt .tx p old := fun h => htxStuck (htx.1.mpr h)
  have hreclaim := checked ht (hright .reclaim) tx.2.2 .pendingStuck
  have hreclaimError := @updateStuckMonitor_hasError tx.2.2 .pendingStuck p.nowMs
    (p.nonzero .reclaim) (t.sinceMs .reclaim)
  rw [← hbits .reclaim] at hreclaim hreclaimError
  simp only [Tasks.pendingBits, Tasks.sinceMs] at hreclaim hreclaimError
  generalize updateStuckMonitor tx.2.2 (t.ipc.region.reclaimPending.bits != 0)
    t.reclaimPendingSinceMs .pendingStuck p.nowMs = reclaim at hreclaim hreclaimError ⊢
  refine ⟨⟨fun h => ⟨.reclaim, hreclaim.1.mp h⟩, ?_⟩, fun _ w => ?_, hreclaimError⟩
  · rintro ⟨w, hw⟩
    cases w with
    | rx => exact absurd hw hrxNot
    | tx => exact absurd hw htxNot
    | reclaim => exact hreclaim.1.mpr hw
  · cases w with
    | rx => exact hrx.2
    | tx => exact htx.2
    | reclaim => exact hreclaim.2

/-! ### The rest of a poll -/

/-- Two states of the tasks with the same pending words and timers. -/
structure Tasks.SamePending (t t' : Tasks) : Prop where
  bits : ∀ w, t'.pendingBits w = t.pendingBits w
  since : ∀ w, t'.sinceMs w = t.sinceMs w

theorem Tasks.SamePending.trans {t'' : Tasks} (h : t.SamePending t') (h' : t'.SamePending t'') :
    t.SamePending t'' :=
  ⟨fun w => (h'.bits w).trans (h.bits w), fun w => (h'.since w).trans (h.since w)⟩

theorem watchRings_samePending (nowMs : UInt32) (l : List (Fin 6)) (stuck : Bool × Bool) (t : Tasks) :
    t.SamePending (watchRings nowMs l stuck t).2 := by
  induction l generalizing stuck t with
  | nil => exact ⟨fun _ => rfl, fun _ => rfl⟩
  | cons i rest ih =>
    rw [watchRings]
    refine Tasks.SamePending.trans ?_ (ih _ _)
    exact ⟨fun w => by cases w <;> rfl, fun w => by cases w <;> rfl⟩

theorem noticeEpoch_samePending (t : Tasks) : t.SamePending (noticeEpoch t).2 := by
  unfold noticeEpoch
  simp only
  split
  · exact ⟨fun w => by cases w <;> rfl, fun w => by cases w <;> rfl⟩
  · exact ⟨fun w => by cases w <;> rfl, fun w => by cases w <;> rfl⟩

/-- Another condition that lasts does not touch the error. -/
theorem updateStuckMonitor_hasError_of_ne (h : reason ≠ .pendingStuck) (active : Bool)
    (sinceMs : UInt32) :
    (updateStuckMonitor monitor active sinceMs reason nowMs).2.2.hasError .pendingStuck =
      monitor.hasError .pendingStuck := by
  have hrecord : (rtosMonitorRecordError monitor reason nowMs).hasError .pendingStuck =
      monitor.hasError .pendingStuck := by
    rw [hasError_recordError, decide_eq_false h, Bool.false_or]
  unfold updateStuckMonitor
  simp only
  split
  · rfl
  split_ifs
  · exact hrecord
  · rfl
  · exact hrecord
  · rfl

/-- **The stuck checks**, for the pending words: the timers are those of
the three checks, and the error is what they answer. -/
theorem watchStuck_pending (nowMs : UInt32) (t : Tasks) :
    ∃ t' : Tasks, t.SamePending t' ∧
      (∀ w, (watchStuck nowMs t).sinceMs w = (watchPending nowMs t').2.sinceMs w) ∧
      (((watchPending nowMs t').1 = true →
          (watchPending nowMs t').2.monitor.hasError .pendingStuck = true) →
        (watchStuck nowMs t).monitor.hasError .pendingStuck = (watchPending nowMs t').1) := by
  have hsame := watchRings_samePending nowMs (List.finRange 6) (false, false) t
  refine ⟨_, hsame, fun w => ?_, fun herror => ?_⟩
  · unfold watchStuck
    cases w <;> rfl
  unfold watchStuck
  simp only
  generalize watchRings nowMs (List.finRange 6) (false, false) t = rings at herror ⊢
  generalize watchPending nowMs rings.2 = pending at herror ⊢
  have hkept := @updateStuckMonitor_hasError_of_ne pending.2.monitor .reclaimBlocked nowMs
    (by decide) (pending.2.pendingReclaims != [] || pending.2.ipc.region.reclaimRing.used ≥ 8)
    pending.2.reclaimBlockedSinceMs
  generalize updateStuckMonitor pending.2.monitor _ _ _ _ = reclaim at hkept ⊢
  -- clearing another error does not touch this one
  have hclear : ∀ (b : Prop) [Decidable b] (m : MonitorContext) (reason : MonitorError),
      reason ≠ .pendingStuck →
        (if b then m else rtosMonitorClearError m reason).hasError .pendingStuck =
          m.hasError .pendingStuck := by
    intro b _ m reason hne
    split
    · rfl
    · rw [hasError_clearError, decide_eq_false hne, Bool.not_false, Bool.true_and]
  have hrings := hclear (rings.1.2 = true) _ .txRingFull (by decide) |>.trans
    (hclear (rings.1.1 = true) reclaim.2.2 .rxBacklog (by decide))
  generalize (if rings.1.2 = true then _ else rtosMonitorClearError _ .txRingFull) = cleared
    at hrings ⊢
  have hpending : (if pending.1 = true then cleared
      else rtosMonitorClearError cleared .pendingStuck).hasError .pendingStuck = pending.1 := by
    by_cases hstuck : pending.1 = true
    · rw [if_pos hstuck, hrings, hkept, herror hstuck, hstuck]
    · rw [if_neg hstuck, hasError_clearError]
      simpa using hstuck
  generalize (if pending.1 = true then cleared else _) = settled at hpending ⊢
  split
  · rw [hasError_clearError, ← hpending]
    simp
  · exact hpending

/-- **A poll** of a region that passes its checks. -/
theorem rtosErrorMonitorTaskRunOnce_pending {c : TasksContext} {polls : List Poll}
    (ht : Timed (c.host.polled K :: polls)) (hright : c.host.Timing polls)
    (haccepted : monitorAccepts c.host.ipc.region = true) :
    ((rtosErrorMonitorTaskRunOnce K c).2.host.monitor.hasError .pendingStuck = true ↔
      ∃ w, StuckAt w (c.host.polled K) polls) ∧
    ((c.host.polled K).Undisturbed polls →
      (rtosErrorMonitorTaskRunOnce K c).2.host.Timing (c.host.polled K :: polls)) := by
  have haccepts : shmRegionHeaderIsValid c.host.ipc.region = true ∧
      shmRingHeadersAreValid c.host.ipc.region = true := by
    simpa [monitorAccepts] using haccepted
  have hnow : c.host.SamePending (tasksNow K c.host).2 :=
    ⟨fun w => by cases w <;> rfl, fun w => by cases w <;> rfl⟩
  obtain ⟨t, hsame, hsince, herror⟩ := watchStuck_pending (tasksNow K c.host).1
    (noticeEpoch (tasksNow K c.host).2).2
  have hall := (hnow.trans (noticeEpoch_samePending _)).trans hsame
  have hpending := @watchPending_timing polls (c.host.polled K) t ht
    (fun w => by rw [hall.since w]; exact hright w) (fun w => by rw [hall.bits w]; rfl)
  change ((watchPending (tasksNow K c.host).1 t).1 = true ↔ _) ∧ (_ →
    (watchPending (tasksNow K c.host).1 t).2.Timing _) ∧ _ at hpending
  obtain ⟨hanswer, htiming, hrecorded⟩ := hpending
  have hbit := herror hrecorded
  unfold rtosErrorMonitorTaskRunOnce
  simp only
  rw [if_neg (by rw [show (tasksNow K c.host).2.ipc.region = c.host.ipc.region from rfl,
      haccepts.1]; decide),
    if_neg (by rw [show (tasksNow K c.host).2.ipc.region = c.host.ipc.region from rfl,
      haccepts.2]; decide)]
  generalize watchStuck (tasksNow K c.host).1 (noticeEpoch (tasksNow K c.host).2).2 = watched
    at hsince hbit ⊢
  have hcounters : (watchCounters (tasksNow K c.host).1
    { c with host := watched }).host.monitor.hasError
      .pendingStuck = watched.monitor.hasError .pendingStuck := by
    -- the errors counters lead to are others
    have hrecord : ∀ (b : Prop) [Decidable b] (m : MonitorContext) (reason : MonitorError),
        reason ≠ .pendingStuck →
          (if b then rtosMonitorRecordError m reason (tasksNow K c.host).1 else m).hasError
            .pendingStuck = m.hasError .pendingStuck := by
      intro b _ m reason hne
      split
      · rw [hasError_recordError, decide_eq_false hne, Bool.false_or]
      · rfl
    unfold watchCounters
    simp only
    exact (hrecord _ _ .routeDrops (by decide)).trans (hrecord _ _ .mailboxNotify (by decide))
  refine ⟨?_, fun hu w => ?_⟩
  · have hstatistics : ∀ c : TasksContext, (rtosStatisticsTaskRunOnce c).2.host.monitor.hasError
        .pendingStuck = c.host.monitor.hasError .pendingStuck := fun _ => rfl
    rw [hstatistics, hcounters, hbit]
    exact hanswer
  · have hlast : (rtosStatisticsTaskRunOnce
        (watchCounters (tasksNow K c.host).1 { c with host := watched })).2.host.sinceMs w =
        watched.sinceMs w := by
      cases w <;> rfl
    rw [hlast, hsince w]
    exact htiming hu w

/-! ### Runs -/

/-- Polls, newest first, and the context they leave. Between two of them
anything may be done to it, but for the three timers, which no other
function sets. -/
inductive Polled (K : Clock) : List Poll → TasksContext → Prop
  | start {c : TasksContext} (h : ∀ w, c.host.sinceMs w = 0) : Polled K [] c
  | poll {polls : List Poll} {c c' : TasksContext} (h : Polled K polls c)
      (hkept : ∀ w, c'.host.sinceMs w = c.host.sinceMs w) :
      Polled K (c'.host.polled K :: polls) (rtosErrorMonitorTaskRunOnce K c').2

/-- **The timers are right along a run** in which no change goes unseen. -/
theorem Polled.timing {c : TasksContext} (h : Polled K polls c) (ht : Timed polls)
    (hu : Undisturbed polls) : c.host.Timing polls := by
  induction h with
  | start h => exact fun w => by rw [h w]; rfl
  | @poll polls c c' h hkept ih =>
    have hright : c'.host.Timing polls := fun w => by
      rw [hkept w]
      exact ih ht.tail hu.2 w
    exact (rtosErrorMonitorTaskRunOnce_pending ht hright hu.1.accepted).2 hu.1

/-- **PENDING_STUCK is exact where no change goes unseen.** After such
polls the error is recorded exactly where one of the three words has been
non-zero at every poll for 300 ms, and each timer holds the time from
which its own word has been non-zero, whatever the others did. -/
theorem Polled.exact {c : TasksContext} (h : Polled K polls c) (ht : Timed polls)
    (hu : Undisturbed polls) :
    (∀ p old, polls = p :: old →
      (c.host.monitor.hasError .pendingStuck = true ↔ ∃ w, StuckAt w p old)) ∧
    ∀ w, (c.host.sinceMs w).toNat = (since (seen w polls)).getD 0 := by
  refine ⟨?_, h.timing ht hu⟩
  rintro p old rfl
  cases h with
  | @poll polls c c' h hkept =>
    have hright : c'.host.Timing old := fun w => by
      rw [hkept w]
      exact h.timing ht.tail hu.2 w
    exact (rtosErrorMonitorTaskRunOnce_pending ht hright hu.1.accepted).1

end Polls

/-! ### Two runs -/

/-- A context with a time and pending words. -/
def TasksContext.showing (c : TasksContext) (time : ℕ) (rx tx : UInt32) : TasksContext :=
  { c with
    host := { c.host with
      ticks := time
      ipc := { c.host.ipc with
        region := { c.host.ipc.region with
          rxPendingBitmap := { c.host.ipc.region.rxPendingBitmap with bits := rx }
          txPendingBitmap := { c.host.ipc.region.txPendingBitmap with bits := tx } } } } }

/-- The tasks after a start, on a formatted region. -/
def startedTasks : TasksContext :=
  ⟨rtosRouterInit, { ipc := ⟨true, Linux.formatRegion 1 1, 0⟩, lastLinuxEpoch := 1 }⟩

/-- A poll at a time with pending words. -/
def polledAt (c : TasksContext) (time : ℕ) (rx tx : UInt32) : TasksContext :=
  (rtosErrorMonitorTaskRunOnce UInt32.ofNat (c.showing time rx tx)).2

/-- What that poll finds. -/
def found (c : TasksContext) (time : ℕ) (rx tx : UInt32) : Poll :=
  (c.showing time rx tx).host.polled UInt32.ofNat

theorem Polled.at {polls : List Poll} {c : TasksContext} (h : Polled UInt32.ofNat polls c)
    (time : ℕ) (rx tx : UInt32) :
    Polled UInt32.ofNat (found c time rx tx :: polls) (polledAt c time rx tx) :=
  .poll h fun w => by cases w <;> rfl

theorem polled_start : Polled UInt32.ofNat [] startedTasks := .start fun w => by cases w <;> rfl

/-- TX has been non-zero for 300 ms, and nothing else has ever been. -/
theorem polled_tx_stuck :
    (polledAt (polledAt startedTasks 1 0 1) 301 0 1).host.monitor.hasError .pendingStuck = true := by
  have hrun := (polled_start.at 1 0 1).at 301 0 1
  have htimed : Timed [found (polledAt startedTasks 1 0 1) 301 0 1, found startedTasks 1 0 1] :=
    ⟨by decide, by decide⟩
  have hrx : ∀ (c : TasksContext) time old, ¬ StuckAt .rx (found c time 0 1) old :=
    fun _ _ _ => not_lastsFor_false
  have hfirst : ¬ StuckAt .tx (found startedTasks 1 0 1) [] := by
    intro h
    rcases lastsFor_true.mp h with hd | hnil
    · exact absurd hd (by decide)
    · exact not_lastsFor_nil hnil
  have hundisturbed : Undisturbed
      [found (polledAt startedTasks 1 0 1) 301 0 1, found startedTasks 1 0 1] :=
    ⟨⟨by decide +kernel, fun h => absurd h (hrx _ _ _), fun _ => by decide +kernel⟩,
      ⟨by decide +kernel, fun h => absurd h (hrx _ _ _), fun h => absurd h hfirst⟩, trivial⟩
  refine ((hrun.exact htimed hundisturbed).1 _ _ rfl).mpr ⟨.tx, ?_⟩
  exact ⟨[(301, true)], 1, [], rfl, by decide, by decide⟩

/-- **A false alarm.** TX is zero at a poll at which RX is stuck, and
non-zero at the next, one millisecond later. RX is zero there, and no word
has been non-zero at both. -/
theorem not_polled_exact :
    ¬ ∀ (K : Clock) (p : Poll) (old : List Poll) (c : TasksContext), Polled K (p :: old) c →
      Timed (p :: old) → (∀ q ∈ p :: old, q.accepted = true) →
      (c.host.monitor.hasError .pendingStuck = true ↔ ∃ w, StuckAt w p old) := by
  intro h
  have hrun := ((polled_start.at 1 1 1).at 301 1 0).at 302 0 1
  have htimed : Timed [found (polledAt (polledAt startedTasks 1 1 1) 301 1 0) 302 0 1,
      found (polledAt startedTasks 1 1 1) 301 1 0, found startedTasks 1 1 1] :=
    ⟨by decide, by decide⟩
  obtain ⟨w, hw⟩ := (h _ _ _ _ hrun htimed (by decide +kernel)).mp (by decide +kernel)
  obtain ⟨s, hs, hd⟩ := (lasting_iff (seen_inTime htimed w)).mp hw
  cases w with
  | rx => cases hs
  | tx =>
    obtain rfl := Option.some.inj hs
    exact absurd hd (by decide)
  | reclaim => cases hs

end Rtos

end PutGateway
