import PutGateway.System.Draining
/-!
# Liveness

A run is fair where Linux keeps polling the rings it takes from, as long
as they hold something, and the RTOS keeps being called and goes through
its calls. The heartbeat of
Linux beats where new ones keep being observed. In a fair run with a
beating heartbeat the RTOS is in the normal state again and again; and
where no more is committed, every frame in flight comes back to Linux.
-/

namespace PutGateway

namespace System

open Linux Rtos Progress Filter

variable {P Q : Platform} {K : Clock} {r : Run (Machine.step P Q K)} {M N n k : ℕ} {s e : Stage}

/-! ## Fair runs -/

/-- Both cores keep doing their part. A TX ring that is empty need not be
polled. -/
structure Fair (r : Run (Machine.step P Q K)) : Prop where
  tx : ∀ i, ∃ᶠ n in atTop, r.action n = .linux (.dequeueTxDescriptor (interfaceOfIndex i)) ∨
    (r.state n).tasks.ipc.region.view.tx i = []
  reclaim : ∃ᶠ n in atTop, r.action n = .linux .dequeueReclaimDescriptor
  calls : ∃ᶠ n in atTop, (r.state n).rtos.left = [] ∧
    ∃ ackResult, r.action n = .call .periodic ackResult
  stages : ∃ᶠ n in atTop, r.action n = .stage

/-- New heartbeats keep being observed, and the age of the last one does
not fall from one poll to the next. -/
structure Beating (r : Run (Machine.step P Q K)) : Prop where
  fresh : ∃ᶠ n in atTop, (r.state n).rtos.left = [] ∧ ∃ sequence, r.action n = .observe sequence ∧
    sequence ≠ (r.state n).tasks.monitor.linuxHeartbeat.lastSequence
  ages : ∀ n, r.action n = .stage → (r.state n).rtos.left.head? = some .heartbeat →
    (r.state n).tasks.Ages K

/-- A periodic call goes through a stage. -/
structure GoesThrough (r : Run (Machine.step P Q K)) (s : Stage) (n : ℕ) : Prop where
  action : r.action n = .stage
  left : ∃ rest, (r.state n).rtos.left = s :: rest
  trigger : (r.state n).rtos.trigger = .periodic

theorem left_next (n : ℕ) :
    (r.state (n + 1)).rtos.left = (r.action n).left (r.state n).rtos.left := by
  rw [r.next]
  exact left_step _

/-- The trigger of a call stays while the call lasts. -/
theorem trigger_next (hleft : (r.state n).rtos.left ≠ []) :
    (r.state (n + 1)).rtos.trigger = (r.state n).rtos.trigger := by
  rw [r.next]
  cases r.action n with
  | linux op => rfl
  | call trigger ackResult => simp only [Machine.step, hleft, if_false]
  | stage =>
    simp only [Machine.step]
    split
    · rfl
    · rfl
  | observe sequence => simp only [Machine.step, hleft, if_false]

/-- The stages left are the last ones of the call. -/
theorem left_suffix (hstart : PoweredUp (r.state 0)) (n : ℕ) :
    (r.state n).rtos.left <:+ stages (r.state n).rtos.trigger := by
  induction n with
  | zero =>
    have hidle : ∀ {m : Machine}, PoweredUp m → m.rtos.left = [] := fun h => by
      cases h
      rfl
    rw [hidle hstart]
    exact List.nil_suffix
  | succ n ih =>
    by_cases hleft : (r.state n).rtos.left = []
    swap
    · rw [trigger_next hleft, left_next]
      cases r.action n with
      | linux op => exact ih
      | call trigger ackResult =>
        simp only [Action.left, hleft, if_false]
        exact ih
      | stage => exact (List.tail_suffix _).trans ih
      | observe sequence => exact ih
    · cases haction : r.action n with
      | call trigger ackResult =>
        rw [r.next, haction, step_call hleft]
        exact List.suffix_refl _
      | linux op =>
        rw [left_next, haction, Action.left, hleft]
        exact List.nil_suffix
      | stage =>
        rw [left_next, haction, Action.left, hleft]
        exact List.nil_suffix
      | observe sequence =>
        rw [left_next, haction, Action.left, hleft]
        exact List.nil_suffix

/-- A call under way goes on. -/
theorem Fair.goesOn (h : Fair r) {left : List Stage} (hne : left ≠ [])
    (hleft : (r.state N).rtos.left = left) (htrigger : (r.state N).rtos.trigger = .periodic) :
    ∃ n, N ≤ n ∧ ((r.state n).rtos.left = left ∧ (r.state n).rtos.trigger = .periodic) ∧
      r.action n = .stage := by
  refine awaits h.stages ⟨hleft, htrigger⟩ fun n _ ⟨hleft', htrigger'⟩ hother => ?_
  have hne' : (r.state n).rtos.left ≠ [] := by rwa [hleft']
  rw [left_next, trigger_next hne']
  refine ⟨?_, htrigger'⟩
  cases haction : r.action n with
  | stage => exact absurd haction hother
  | call trigger ackResult =>
    rw [Action.left, if_neg hne']
    exact hleft'
  | linux | observe => exact hleft'

/-- A call gets to each of the stages it has left. -/
theorem Fair.reaches (h : Fair r) {before rest : List Stage}
    (hleft : (r.state N).rtos.left = before ++ s :: rest)
    (htrigger : (r.state N).rtos.trigger = .periodic) : ∃ n, N ≤ n ∧ GoesThrough r s n := by
  induction before generalizing N with
  | nil =>
    obtain ⟨n, hn, ⟨hleft', htrigger'⟩, haction⟩ := h.goesOn (by simp) hleft htrigger
    exact ⟨n, hn, haction, ⟨rest, hleft'⟩, htrigger'⟩
  | cons x before ih =>
    obtain ⟨n, hn, ⟨hleft', htrigger'⟩, haction⟩ := h.goesOn (by simp) hleft htrigger
    have hne : (r.state n).rtos.left ≠ [] := by simp [hleft']
    obtain ⟨k, hk, hthrough⟩ := ih (N := n + 1)
      (by rw [left_next, haction, Action.left, hleft']; rfl) (by rw [trigger_next hne, htrigger'])
    exact ⟨k, by omega, hthrough⟩

/-- **Every stage of a periodic call comes again and again.** -/
theorem Fair.recurs (h : Fair r) (hs : s ∈ Rtos.stages .periodic) : ∃ᶠ n in atTop, GoesThrough r s n := by
  rw [frequently_atTop]
  intro N
  obtain ⟨n, hn, hidle, ackResult, haction⟩ := frequently_atTop.mp h.calls N
  obtain ⟨before, rest, hsplit⟩ := List.append_of_mem hs
  have hbegun : r.state (n + 1) =
      { r.state n with rtos := (r.state n).rtos.begin .periodic ackResult } := by
    rw [r.next, haction, step_call hidle]
  have hleft : (r.state (n + 1)).rtos.left = before ++ s :: rest := by
    rw [hbegun]
    exact hsplit
  obtain ⟨k, hk, hthrough⟩ := h.reaches hleft (by rw [hbegun]; rfl)
  exact ⟨k, by omega, hthrough⟩

/-! ## When nothing moves any more -/

/-- From `M` on no step moves a frame that the RTOS has taken. -/
def Calm (r : Run (Machine.step P Q K)) (M : ℕ) : Prop :=
  ∀ n, M ≤ n → (r.state n).ledger.Still (r.state (n + 1)).ledger

theorem Calm.still (h : Calm r M) (hn : M ≤ n) (hk : n ≤ k) :
    (r.state n).ledger.Still (r.state k).ledger := by
  induction k, hk using Nat.le_induction with
  | base => exact .refl _
  | succ k hnk ih => exact ih.trans (h k (hn.trans hnk))

/-- A rank that falls or leaves every frame where it was comes to rest. -/
theorem calm_of_rank (rank : Machine → ℕ)
    (hstill : ∀ n, N ≤ n → rank (r.state (n + 1)) < rank (r.state n) ∨
      ((r.state n).ledger.Still (r.state (n + 1)).ledger ∧
        rank (r.state (n + 1)) = rank (r.state n))) :
    ∃ M, N ≤ M ∧ Calm r M ∧ ∀ n, M ≤ n → rank (r.state n) = rank (r.state M) := by
  obtain ⟨M, hM, hconst⟩ := settles (fun n => rank (r.state n)) fun n hn =>
    (hstill n hn).elim Nat.le_of_lt fun h => h.2.le
  refine ⟨M, hM, fun n hn => ?_, hconst⟩
  rcases hstill n (hM.trans hn) with hless | ⟨h, -⟩
  · have hsame := (hconst (n + 1) (by omega)).trans (hconst n hn).symm
    omega
  · exact h

section

variable (hP : P.Succeeds) (hQ : Q.Succeeds) (hstart : PoweredUp (r.state 0)) (hfair : Fair r)
  (hcalm : Calm r M)

include hP hQ hstart hfair hcalm

/-- Linux has emptied the TX rings. -/
theorem Calm.tx (hn : M ≤ n) (i : Fin 6) : (r.state n).ledger.queues.tx i = [] := by
  obtain ⟨k, hk, hpolled⟩ := frequently_atTop.mp (hfair.tx i) n
  rw [← (hcalm.still hn hk).tx]
  rcases hpolled with haction | hempty
  · have hstill := hcalm k (hn.trans hk)
    rw [r.next, haction] at hstill
    exact (sane_of_run hQ r hstart k).dequeueTx_still hP hstill
  · exact hempty

/-- Linux has emptied the reclaim ring. -/
theorem Calm.reclaim (hn : M ≤ n) : (r.state n).ledger.queues.reclaim = [] := by
  obtain ⟨k, hk, haction⟩ := frequently_atTop.mp hfair.reclaim n
  have hstill := hcalm k (hn.trans hk)
  rw [r.next, haction] at hstill
  rw [← (hcalm.still hn hk).reclaim]
  exact (sane_of_run hQ r hstart k).dequeueReclaim_still hP hstill

/-- The RTOS has written every frozen reclaim. -/
theorem Calm.pending (hn : M ≤ n) : (r.state n).tasks.pendingReclaims = [] := by
  obtain ⟨k, hk, hthrough⟩ := frequently_atTop.mp (hfair.recurs (s := .scheduler) (by decide)) n
  obtain ⟨rest, hleft⟩ := hthrough.left
  have hstill := hcalm k (hn.trans hk)
  rw [r.next, hthrough.action, step_stage hleft] at hstill
  have hempty := (sane_of_run hQ r hstart k).scheduler_still hQ
    (Calm.reclaim hP hQ hstart hfair hcalm (hn.trans hk)) hstill
  have hpending : (r.state k).ledger.pending = (r.state n).ledger.pending :=
    (hcalm.still hn hk).pending
  exact hpending.symm.trans hempty

/-- What a stage makes of the state. -/
theorem Calm.idles (hn : M ≤ n) (haction : r.action n = .stage) {rest : List Stage}
    (hleft : (r.state n).rtos.left = s :: rest) :
    (r.state n).tasks.IdlesTo (r.state (n + 1)).tasks s := by
  have hsane := sane_of_run hQ r hstart n
  have hstill := hcalm n hn
  have hpending := Calm.pending hP hQ hstart hfair hcalm hn
  rw [r.next, haction, step_stage hleft] at hstill ⊢
  exact Config.stage_idles hQ hsane.sound (hsane.balanced hQ) hsane.intact hsane.epoch
    hsane.recoveryBudget hpending hstill

end

/-- Only a stage changes the state of the tasks, and nothing but a stage
takes a request for recovery back. -/
theorem state_next (haction : r.action n ≠ .stage) :
    (r.state (n + 1)).tasks.state = (r.state n).tasks.state ∧
      ((r.state n).tasks.monitor.recovery.recoveryPending = true →
        (r.state (n + 1)).tasks.monitor.recovery.recoveryPending = true) := by
  rw [r.next]
  cases ha : r.action n with
  | linux op => exact ⟨rfl, id⟩
  | stage => exact absurd ha haction
  | call trigger ackResult =>
    simp only [Machine.step]
    split
    · simp only [Machine.tasks, Config.begin_tasks]
      exact ⟨trivial, id⟩
    · exact ⟨rfl, id⟩
  | observe sequence =>
    simp only [Machine.step]
    split
    swap
    · exact ⟨rfl, id⟩
    refine ⟨rfl, fun hasked => ?_⟩
    have hmonitor : ((r.state n).rtos.observe K sequence).tasks.host.monitor =
        rtosMonitorObserveLinuxHeartbeat (r.state n).tasks.monitor sequence
          (K (r.state n).tasks.ticks) := rfl
    simp only [Machine.tasks] at hasked ⊢
    rw [hmonitor]
    rcases rtosMonitorObserveLinuxHeartbeat_cases (r.state n).tasks.monitor sequence
      (K (r.state n).tasks.ticks) with ⟨-, -, heq⟩ | ⟨-, -, -, -, ⟨-, -, hask⟩ | ⟨-, heq⟩⟩
    · rw [heq]
      exact hasked
    · exact hask
    · rw [heq]
      exact hasked

/-- Degraded tasks of a run with a beating heartbeat are degraded for a
reason. -/
theorem missing_of_run (hQ : Q.Succeeds) (hstart : PoweredUp (r.state 0)) (hbeating : Beating r)
    (n : ℕ) : (r.state n).tasks.Missing := by
  induction n with
  | zero =>
    have hboot : ∀ {m : Machine}, PoweredUp m → m.tasks.Missing := fun h => by
      obtain ⟨shm, linuxEpoch, rtosEpoch, hinit⟩ := h
      have hruntime := rtosRuntimeInit_format hinit
      subst hruntime
      exact .contextInit _ _
    exact hboot hstart
  | succ n ih =>
    have hsane := sane_of_run hQ r hstart n
    have hages := hbeating.ages n
    rw [r.next]
    cases haction : r.action n with
    | linux op => exact ih.congr rfl fun hdegraded => ⟨hdegraded, rfl⟩
    | call trigger ackResult =>
      simp only [Machine.step]
      split
      · simp only [Machine.tasks, Config.begin_tasks]
        exact ih
      · exact ih
    | observe sequence =>
      simp only [Machine.step]
      split
      · exact (ih.observe sequence).1
      · exact ih
    | stage =>
      cases hleft : (r.state n).rtos.left with
      | nil =>
        simp only [Machine.step, hleft]
        exact ih
      | cons s rest =>
        rw [step_stage hleft]
        refine Config.stage_missing hQ ih hsane.sound hsane.intact hsane.epoch s fun hs => ?_
        exact hages haction (by rw [hleft, hs]; rfl)

/-! ## Coming back to the normal state -/

section

variable (hP : P.Succeeds) (hQ : Q.Succeeds) (hstart : PoweredUp (r.state 0)) (hfair : Fair r)
  (hcalm : Calm r M) (hnot : ∀ n, M ≤ n → (r.state n).tasks.state ≠ .normal)

include hP hQ hstart hfair hcalm hnot

/-- Where the normal state never comes, tasks stay as they are or go into
recovery. -/
theorem state_of_never_normal (hn : M ≤ n) :
    (r.state (n + 1)).tasks.state = (r.state n).tasks.state ∨
      (r.state (n + 1)).tasks.state = .recovery := by
  by_cases haction : r.action n = .stage
  swap
  · exact .inl (state_next haction).1
  cases hleft : (r.state n).rtos.left with
  | nil =>
    left
    rw [r.next, haction]
    simp only [Machine.step, hleft]
  | cons s rest =>
    have hidles := Calm.idles hP hQ hstart hfair hcalm hn haction hleft
    rcases hidles.of_ne_normal (hnot n hn) with hsame | hrecovery | hnormal
    · exact .inl hsame
    · exact .inr hrecovery
    · exact absurd hnormal (hnot (n + 1) (by omega))

/-- A recovery would end at its next stage. -/
theorem ne_recovery_of_never_normal (hn : M ≤ n) : (r.state n).tasks.state ≠ .recovery := by
  intro hrecovery
  obtain ⟨k, hk, hstate, hthrough⟩ := awaits (I := fun k => (r.state k).tasks.state = .recovery)
    (hfair.recurs (s := .recovery) (by decide)) hrecovery fun k hk hstate _ =>
      (state_of_never_normal hP hQ hstart hfair hcalm hnot (hn.trans hk)).elim
        (fun hsame => hsame.trans hstate) id
  obtain ⟨rest, hleft⟩ := hthrough.left
  have hidles := Calm.idles hP hQ hstart hfair hcalm (hn.trans hk) hthrough.action hleft
  have hnormal : (r.state (k + 1)).tasks.state = .normal := by
    simp only [Tasks.IdlesTo, hstate, if_true] at hidles
    exact hidles
  exact hnot (k + 1) (by omega) hnormal

theorem state_eq_of_never_normal (hn : M ≤ n) (hk : n ≤ k) :
    (r.state k).tasks.state = (r.state n).tasks.state := by
  induction k, hk using Nat.le_induction with
  | base => rfl
  | succ k hnk ih =>
    refine Eq.trans ?_ ih
    exact (state_of_never_normal hP hQ hstart hfair hcalm hnot (hn.trans hnk)).resolve_right
      (ne_recovery_of_never_normal hP hQ hstart hfair hcalm hnot (by omega))

/-- Blocked tasks would leave their state at their next retry. -/
theorem degraded_of_never_normal (hn : M ≤ n) : (r.state n).tasks.state = .degraded := by
  obtain ⟨k, hk, hthrough⟩ := frequently_atTop.mp (hfair.recurs (s := .retry) (by decide)) n
  obtain ⟨rest, hleft⟩ := hthrough.left
  have hidles := Calm.idles hP hQ hstart hfair hcalm (hn.trans hk) hthrough.action hleft
  have hsame := state_eq_of_never_normal hP hQ hstart hfair hcalm hnot hn hk
  have hnormal := hnot (k + 1) (by omega)
  have hrecovery := ne_recovery_of_never_normal hP hQ hstart hfair hcalm hnot
    (n := k + 1) (by omega)
  simp only [Tasks.IdlesTo] at hidles
  -- a retry with nothing frozen ends in one of the two other states
  have hneeds : stateNeedsReclaimRetryFirst (r.state n).tasks.state = false := by
    by_contra hneeds
    rw [Bool.not_eq_false] at hneeds
    rw [hsame, if_pos hneeds] at hidles
    split at hidles
    · exact hrecovery hidles
    · exact hnormal hidles
  have hnormal' := hnot n hn
  have hrecovery' := ne_recovery_of_never_normal hP hQ hstart hfair hcalm hnot hn
  cases hstate : (r.state n).tasks.state with
  | degraded => rfl
  | normal => exact absurd hstate hnormal'
  | recovery => exact absurd hstate hrecovery'
  | degradedReclaimFull | reclaimBlocked =>
    rw [hstate] at hneeds
    cases hneeds

/-- A recovery that was asked for would begin at the next heartbeat
stage. -/
theorem unasked_of_never_normal (hn : M ≤ n) :
    (r.state n).tasks.monitor.recovery.recoveryPending = false := by
  by_contra hasked
  rw [Bool.not_eq_false] at hasked
  obtain ⟨k, hk, hstill, hthrough⟩ := awaits
    (I := fun k => (r.state k).tasks.monitor.recovery.recoveryPending = true)
    (hfair.recurs (s := .heartbeat) (by decide)) hasked fun k hk hstill _ => by
      by_cases haction : r.action k = .stage
      swap
      · exact (state_next haction).2 hstill
      cases hleft : (r.state k).rtos.left with
      | nil =>
        rw [r.next, haction]
        simp only [Machine.step, hleft]
        exact hstill
      | cons s rest =>
        have hsane := sane_of_run hQ r hstart k
        have hkept := Config.stage_recovery (K := K) hQ hsane.intact hsane.epoch
          (ne_recovery_of_never_normal hP hQ hstart hfair hcalm hnot (hn.trans hk)) s
        rw [r.next, haction, step_stage hleft]
        exact (congrArg Recovery.recoveryPending hkept).trans hstill
  obtain ⟨rest, hleft⟩ := hthrough.left
  have hidles := Calm.idles hP hQ hstart hfair hcalm (hn.trans hk) hthrough.action hleft
  rcases hidles with ⟨-, hrecovery⟩ | ⟨hunasked, -⟩
  · exact ne_recovery_of_never_normal hP hQ hstart hfair hcalm hnot (by omega) hrecovery
  · rw [hstill] at hunasked
    cases hunasked

end

/-- Outside the normal state the machine comes to rest. -/
theorem calm_of_never_normal (hQ : Q.Succeeds) (hstart : PoweredUp (r.state 0))
    (hnot : ∀ n, N ≤ n → (r.state n).tasks.state ≠ .normal) : ∃ M, N ≤ M ∧ Calm r M := by
  obtain ⟨M, hM, hcalm, -⟩ := calm_of_rank (r := r) (N := N) (fun m => m.ledger.work)
    fun n hn => by
      have hstep := (sane_of_run hQ r hstart n).step_work hQ (P := P) (hnot n hn) (r.action n)
      rw [← r.next] at hstep
      exact hstep.imp_right fun hstill => ⟨hstill, hstill.work⟩
  exact ⟨M, hM, hcalm⟩

/-- The RTOS is in the normal state again and again. -/
theorem normal_recurs (hP : P.Succeeds) (hQ : Q.Succeeds) (hstart : PoweredUp (r.state 0))
    (hfair : Fair r) (hbeating : Beating r) : ∃ᶠ n in atTop, (r.state n).tasks.state = .normal := by
  rw [frequently_atTop]
  by_contra hnever
  push Not at hnever
  obtain ⟨N, hN⟩ := hnever
  obtain ⟨M, hM, hcalm⟩ := calm_of_never_normal hQ hstart hN
  have hnot : ∀ n, M ≤ n → (r.state n).tasks.state ≠ .normal := fun n hn => hN n (hM.trans hn)
  -- the next new heartbeat asks for a recovery, which is never asked for
  obtain ⟨n, hn, hidle, sequence, haction, hnew⟩ := frequently_atTop.mp hbeating.fresh M
  have hasked := ((missing_of_run hQ hstart hbeating n).observe (K := K) sequence).2
    (degraded_of_never_normal hP hQ hstart hfair hcalm hnot hn) hnew
  have hunasked := unasked_of_never_normal hP hQ hstart hfair hcalm hnot (n := n + 1) (by omega)
  rw [r.next, haction, step_observe hidle] at hunasked
  exact absurd (hasked.symm.trans hunasked) (by decide)

/-! ## Serving in the normal state -/

/-- The tasks are normal, and the call under way comes to `e` before its
heartbeat stage. -/
structure Ahead (e : Stage) (m : Machine) : Prop where
  normal : m.tasks.state = .normal
  before : .heartbeat ∈ m.rtos.left → e ∈ m.rtos.left

/-- Before the drain or after the supervision, the drain comes before the
next heartbeat stage. -/
theorem ahead_of_suffix {trigger : RuntimeTrigger} {rest : List Stage}
    (h : (s :: rest) <:+ stages trigger) (he : e = .event ∨ e = .scheduler)
    (hs : s = .retry ∨ s = .recovery ∨ s = .supervision) (hbeat : .heartbeat ∈ rest) : e ∈ rest := by
  rw [← List.mem_tails] at h
  cases trigger with
  | doorbell =>
    rcases he with rfl | rfl
    · rcases hs with rfl | rfl | rfl <;> simp_all [stages]
    · rcases hs with rfl | rfl | rfl <;> simp_all [stages]
  | periodic =>
    rcases he with rfl | rfl
    · rcases hs with rfl | rfl | rfl <;> simp_all [stages]
    · rcases hs with rfl | rfl | rfl <;> simp_all [stages]

/-- After the heartbeat stage there is no drain left. -/
theorem not_mem_of_heartbeat {trigger : RuntimeTrigger} {rest : List Stage}
    (h : (.heartbeat :: rest) <:+ stages trigger) (he : e = .event ∨ e = .scheduler) :
    e ∉ .heartbeat :: rest := by
  rw [← List.mem_tails] at h
  cases trigger with
  | doorbell => simp [stages] at h
  | periodic =>
    simp only [stages, List.tails, List.mem_cons, List.cons.injEq, reduceCtorEq, false_and, true_and,
      List.not_mem_nil, or_false, false_or] at h
    subst h
    rcases he with rfl | rfl <;> decide

section

variable (hP : P.Succeeds) (hQ : Q.Succeeds) (hstart : PoweredUp (r.state 0)) (hfair : Fair r)
  (hcalm : Calm r M) (he : e = .event ∨ e = .scheduler)

include hP hQ hstart hfair hcalm he

/-- Tasks come back to the normal state ahead of the drain. -/
theorem ahead_of_becomes (hn : M ≤ n) (hnot : (r.state n).tasks.state ≠ .normal)
    (hnormal : (r.state (n + 1)).tasks.state = .normal) : Ahead e (r.state (n + 1)) := by
  refine ⟨hnormal, fun hbeat => ?_⟩
  by_cases haction : r.action n = .stage
  swap
  · exact absurd ((state_next haction).1.symm.trans hnormal) hnot
  cases hleft : (r.state n).rtos.left with
  | nil =>
    rw [r.next, haction] at hnormal
    simp only [Machine.step, hleft] at hnormal
    exact absurd hnormal hnot
  | cons s rest =>
    have hidles := Calm.idles hP hQ hstart hfair hcalm hn haction hleft
    have hsuffix := left_suffix hstart n
    rw [left_next, haction, hleft, Action.left, List.tail_cons] at hbeat ⊢
    rw [hleft] at hsuffix
    exact ahead_of_suffix hsuffix he (hidles.becomes_normal hnot hnormal) hbeat

/-- They stay ahead of it until a periodic call comes to it. -/
theorem ahead_next (hn : M ≤ n) (h : Ahead e (r.state n)) (hnot : ¬ GoesThrough r e n) :
    Ahead e (r.state (n + 1)) := by
  by_cases haction : r.action n = .stage
  swap
  · refine ⟨(state_next haction).1.trans h.normal, fun hbeat => ?_⟩
    rw [left_next] at hbeat ⊢
    cases ha : r.action n with
    | stage => exact absurd ha haction
    | linux op =>
      rw [ha] at hbeat
      exact h.before hbeat
    | observe sequence =>
      rw [ha] at hbeat
      exact h.before hbeat
    | call trigger ackResult =>
      rw [ha] at hbeat
      simp only [Action.left] at hbeat ⊢
      split
      · cases trigger with
        | doorbell => rcases he with rfl | rfl <;> decide
        | periodic => rcases he with rfl | rfl <;> decide
      · next hne =>
        rw [if_neg hne] at hbeat
        exact h.before hbeat
  cases hleft : (r.state n).rtos.left with
  | nil =>
    rw [r.next, haction]
    simp only [Machine.step, hleft]
    exact h
  | cons s rest =>
    have hidles := Calm.idles hP hQ hstart hfair hcalm hn haction hleft
    have hsuffix := left_suffix hstart n
    have hbefore := h.before
    rw [hleft] at hsuffix hbefore
    have hs : s ≠ .heartbeat := by
      rintro rfl
      exact not_mem_of_heartbeat hsuffix he (hbefore List.mem_cons_self)
    refine ⟨hidles.stays_normal h.normal hs, fun hbeat => ?_⟩
    rw [left_next, haction, hleft, Action.left, List.tail_cons] at hbeat ⊢
    rcases List.mem_cons.mp (hbefore (List.mem_cons_of_mem s hbeat)) with rfl | hrest
    swap
    · exact hrest
    -- a doorbell call has no heartbeat stage
    cases htrigger : (r.state n).rtos.trigger with
    | periodic => exact absurd ⟨haction, ⟨rest, hleft⟩, htrigger⟩ hnot
    | doorbell =>
      rw [htrigger] at hsuffix
      have hmem : Stage.heartbeat ∈ stages .doorbell :=
        hsuffix.subset (List.mem_cons_of_mem _ hbeat)
      exact absurd hmem (by decide)

/-- **A periodic call comes to its drain in the normal state** again and
again. -/
theorem serves_normal (hrecurs : ∃ᶠ n in atTop, (r.state n).tasks.state = .normal) (hn : M ≤ n) :
    ∃ k, n ≤ k ∧ GoesThrough r e k ∧ (r.state k).tasks.state = .normal := by
  have hes : e ∈ stages .periodic := by rcases he with rfl | rfl <;> decide
  by_cases halways : ∃ k, n ≤ k ∧ ∀ j, k ≤ j → (r.state j).tasks.state = .normal
  · obtain ⟨k, hk, hall⟩ := halways
    obtain ⟨j, hj, hthrough⟩ := frequently_atTop.mp (hfair.recurs hes) k
    exact ⟨j, hk.trans hj, hthrough, hall j hj⟩
  · -- some time later the tasks leave the normal state and come back to it
    push Not at halways
    obtain ⟨a, ha, hnot⟩ := halways n (le_refl n)
    obtain ⟨b, hb, hnormal⟩ := frequently_atTop.mp hrecurs a
    obtain ⟨k, hk, hbefore, hafter⟩ : ∃ k, a ≤ k ∧ (r.state k).tasks.state ≠ .normal ∧
        (r.state (k + 1)).tasks.state = .normal := by
      by_contra hnone
      push Not at hnone
      have hall : ∀ k, a ≤ k → (r.state k).tasks.state ≠ .normal := fun k hk => by
        induction k, hk using Nat.le_induction with
        | base => exact hnot
        | succ k hk ih => exact hnone k hk ih
      exact hall b hb hnormal
    obtain ⟨j, hj, hahead, hthrough⟩ := awaits (I := fun j => Ahead e (r.state j))
      (hfair.recurs hes) (ahead_of_becomes hP hQ hstart hfair hcalm he (by omega) hbefore hafter)
      fun j hj hI hother => ahead_next hP hQ hstart hfair hcalm he (by omega) hI hother
    exact ⟨j, by omega, hthrough, hahead.normal⟩

end

/-! ## Every frame comes back -/

section

variable (hP : P.Succeeds) (hQ : Q.Succeeds) (hstart : PoweredUp (r.state 0)) (hfair : Fair r)
  (hcalm : Calm r M) (hrecurs : ∃ᶠ n in atTop, (r.state n).tasks.state = .normal)
  (hrest : ∀ n, M ≤ n → (r.state n).ledger.weight = (r.state M).ledger.weight)

include hP hQ hstart hfair hcalm hrecurs hrest

/-- The RTOS has emptied the RX rings. -/
theorem rx_of_calm (i : Fin 6) : ∃ k, M ≤ k ∧ (r.state k).ledger.queues.rx i = [] := by
  obtain ⟨k, hk, hthrough, hnormal⟩ := serves_normal (e := .event) hP hQ hstart hfair hcalm
    (.inl rfl) hrecurs (le_refl M)
  refine ⟨k, hk, ?_⟩
  by_contra hne
  obtain ⟨rest, hleft⟩ := hthrough.left
  have hsane := sane_of_run hQ r hstart k
  have hsuffix := left_suffix hstart k
  rw [hleft, hthrough.trigger, ← List.mem_tails] at hsuffix
  have hallowed : (r.state k).rtos.allowed = true := by
    refine hsane.allowed (by simp [hleft]) ?_
    simp only [stages, List.tails, List.mem_cons, List.cons.injEq, reduceCtorEq, false_and, true_and,
      List.not_mem_nil, or_false, false_or] at hsuffix
    rw [hleft, hsuffix]
    decide
  have hnormal' : (r.state k).rtos.tasks.host.state = .normal := hnormal
  have hevent : ((r.state k).rtos.stage Q K .event).2.2 =
      (rtosIpcEventTaskRunOnce Q K (r.state k).rtos.tasks .periodic).2 := by
    simp only [Config.stage]
    unfold drainAllowed
    simp [hallowed, hnormal', hthrough.trigger, mapIpcTrigger]
  have hless := eventTask_lessens (K := K) hQ hsane.sound (hsane.balanced hQ) hnormal' hne
  rw [← hevent] at hless
  have hafter := hrest (k + 1) (by omega)
  rw [r.next, hthrough.action, step_stage hleft] at hafter
  exact absurd (hafter.trans (hrest k hk).symm) (Nat.ne_of_lt hless)

/-- The RTOS has emptied its queue. -/
theorem queue_of_calm (hn : M ≤ n) : (r.state n).rtos.tasks.router.queue.items = [] := by
  obtain ⟨k, hk, hthrough, hnormal⟩ := serves_normal (e := .scheduler) hP hQ hstart hfair hcalm
    (.inr rfl) hrecurs hn
  have hheld := (hcalm.still hn hk).held
  simp only [Machine.ledger, length_held_ledger] at hheld
  rw [← List.length_eq_zero_iff, ← hheld, List.length_eq_zero_iff]
  by_contra hne
  obtain ⟨rest, hleft⟩ := hthrough.left
  have hsane := sane_of_run hQ r hstart k
  have hpending := Calm.pending hP hQ hstart hfair hcalm (n := k) (by omega)
  have hless := schedulerTask_lessens (K := K) hQ hsane.sound (hsane.balanced hQ) hnormal hpending
    hne hsane.schedulerBudget
  have hafter := hrest (k + 1) (by omega)
  rw [r.next, hthrough.action, step_stage hleft] at hafter
  exact absurd (hafter.trans (hrest k (by omega)).symm) (Nat.ne_of_lt hless)

end

/-- A frame that is nowhere between the cores is with Linux. -/
theorem Exclusive.settled {g : Gateway} (h : Exclusive g) {f : Fin 64}
    (hflight : flightPlaces g.rtos f = []) : ∃ p, places g f = [p] ∧ ¬ p.InFlight := by
  obtain ⟨p, hp, -⟩ := h.places_eq f
  rcases h.linuxPlaces_cases f with ⟨-, hnone⟩ | ⟨-, p', hp', hout⟩
  · rw [places, hnone, hflight] at hp
    cases hp
  · refine ⟨p', ?_, hout⟩
    rw [places, hp', hflight, List.append_nil]

/-- From some time on the machine is calm, and no RX ring changes. -/
theorem calm_of_no_commits (hQ : Q.Succeeds) (hstart : PoweredUp (r.state 0))
    (hquiet : ∀ n, N ≤ n → ¬ (r.action n).Commits) :
    ∃ M, N ≤ M ∧ Calm r M ∧
      (∀ n, M ≤ n → (r.state n).ledger.weight = (r.state M).ledger.weight) ∧
      ∀ n, M ≤ n → (r.state (n + 1)).ledger.queues.rx = (r.state n).ledger.queues.rx := by
  have hstep : ∀ n, N ≤ n → (r.state (n + 1)).ledger.weight < (r.state n).ledger.weight ∨
      ((r.state n).ledger.Still (r.state (n + 1)).ledger ∧
        (r.state (n + 1)).ledger.queues.rx = (r.state n).ledger.queues.rx) := fun n hn => by
    have hstep := (sane_of_run hQ r hstart n).step_weight hQ (P := P) (hquiet n hn)
    rwa [← r.next] at hstep
  obtain ⟨M, hM, hcalm, hrest⟩ := calm_of_rank (r := r) (N := N) (fun m => m.ledger.weight)
    fun n hn => (hstep n hn).imp_right fun ⟨hstill, hrx⟩ => ⟨hstill, hstill.weight hrx⟩
  refine ⟨M, hM, hcalm, hrest, fun n hn => ?_⟩
  rcases hstep n (hM.trans hn) with hless | ⟨-, hrx⟩
  · exact absurd ((hrest (n + 1) (by omega)).trans (hrest n hn).symm) (Nat.ne_of_lt hless)
  · exact hrx

/-- **Every frame in flight comes back to Linux**, once no more is
committed: from some time on each of the 64 frames is in one place, and
none of the rings nor a reference of the RTOS is that place. -/
theorem frames_come_back (hP : P.Succeeds) (hQ : Q.Succeeds) (hstart : PoweredUp (r.state 0))
    (hfair : Fair r) (hbeating : Beating r) (hquiet : ∀ᶠ n in atTop, ¬ (r.action n).Commits) :
    ∀ᶠ n in atTop, ∀ f, ∃ p, places (r.state n).gateway f = [p] ∧ ¬ p.InFlight := by
  obtain ⟨N, hN⟩ := eventually_atTop.mp hquiet
  obtain ⟨M, -, hcalm, hrest, hrx⟩ := calm_of_no_commits hQ hstart hN
  have hrecurs := normal_recurs hP hQ hstart hfair hbeating
  rw [eventually_atTop]
  refine ⟨M, fun n hn f => (sane_of_run hQ r hstart n).exclusive.settled ?_⟩
  have hunread : ∀ i, (r.state n).ledger.queues.rx i = [] := fun i => by
    obtain ⟨k, hk, hempty⟩ := rx_of_calm hP hQ hstart hfair hcalm hrecurs hrest i
    have hall : ∀ j, M ≤ j → (r.state j).ledger.queues.rx = (r.state M).ledger.queues.rx := by
      intro j hj
      induction j, hj using Nat.le_induction with
      | base => rfl
      | succ j hj ih => exact (hrx j hj).trans ih
    rw [hall n hn, ← hall k hk]
    exact hempty
  have htx : ∀ i, (r.state n).ledger.queues.tx i = [] := fun i =>
    Calm.tx hP hQ hstart hfair hcalm hn i
  have hreclaim : (r.state n).ledger.queues.reclaim = [] :=
    Calm.reclaim hP hQ hstart hfair hcalm hn
  have hqueue := queue_of_calm hP hQ hstart hfair hcalm hrecurs hrest hn
  have hpending := Calm.pending hP hQ hstart hfair hcalm hn
  have hreference := no_reference ((sane_of_run hQ r hstart n).balanced hQ) hqueue hpending f
  have hviewRx : ∀ i, (r.state n).rtos.tasks.host.ipc.region.view.rx i = [] := hunread
  have hviewTx : ∀ i, (r.state n).rtos.tasks.host.ipc.region.view.tx i = [] := htx
  have hviewReclaim : (r.state n).rtos.tasks.host.ipc.region.view.reclaim = [] := hreclaim
  simp [flightPlaces, Machine.gateway, hviewRx, hviewTx, hviewReclaim, hreference]

/-! ## A clock that stands still -/

/-- A machine just powered up. -/
def idleMachine : Machine :=
  let formatted := (linuxShmIpcFormatRegion ⟨{}, formatRegion 1 1, 0⟩ 1 1).2
  ⟨formatted.ipc, formatted.calls, idleConfig⟩

theorem idleMachine_poweredUp : PoweredUp idleMachine :=
  .intro ⟨{}, formatRegion 1 1, 0⟩ 1 1 idleConfig_init

/-- On a clock that stands still every heartbeat is of age 0. -/
theorem ageless_of_run {r : Run (Machine.step P Q fun _ => 0)} (hQ : Q.Succeeds)
    (hstart : PoweredUp (r.state 0))
    (hfirst : (r.state 0).tasks.monitor.linuxHeartbeat.unchangedTimeMs = 0 ∧
      (r.state 0).tasks.monitor.linuxHeartbeat.lastUpdateTimeMs = 0) (n : ℕ) :
    (r.state n).tasks.monitor.linuxHeartbeat.unchangedTimeMs = 0 ∧
      (r.state n).tasks.monitor.linuxHeartbeat.lastUpdateTimeMs = 0 := by
  induction n with
  | zero => exact hfirst
  | succ n ih =>
    have hsane := sane_of_run hQ r hstart n
    rw [r.next]
    cases haction : r.action n with
    | linux op => exact ih
    | call trigger ackResult =>
      simp only [Machine.step]
      split
      · simp only [Machine.tasks, Config.begin_tasks]
        exact ih
      · exact ih
    | observe sequence =>
      simp only [Machine.step]
      split
      swap
      · exact ih
      rcases rtosMonitorObserveLinuxHeartbeat_cases (r.state n).tasks.monitor sequence 0 with
        ⟨-, -, heq⟩ | ⟨-, -, hage, hlast, -⟩
      · have hlh := congrArg MonitorContext.linuxHeartbeat heq
        rw [← hlh] at ih
        exact ih
      · exact ⟨hage, hlast⟩
    | stage =>
      cases hleft : (r.state n).rtos.left with
      | nil =>
        simp only [Machine.step, hleft]
        exact ih
      | cons s rest =>
        rw [step_stage hleft]
        by_cases hs : s = .heartbeat
        · subst hs
          obtain ⟨hlast, hage⟩ := rtosHeartbeatTaskRunOnce_age (fun _ => 0) (r.state n).rtos.tasks
          refine ⟨?_, hlast.trans ih.2⟩
          rcases hage with hage | hage
          · exact hage.trans ih.1
          · refine hage.trans ?_
            have hzero : (r.state n).rtos.tasks.host.monitor.linuxHeartbeat.lastUpdateTimeMs = 0 :=
              ih.2
            rw [hzero]
            rfl
        · have hkept := Config.stage_linuxHeartbeat (K := fun _ => 0) hQ hsane.intact hsane.epoch hs
          have hlh : ((r.state n).rtos.stage Q (fun _ => 0) s).2.2.host.monitor.linuxHeartbeat =
              (r.state n).tasks.monitor.linuxHeartbeat := hkept
          rw [← hlh] at ih
          exact ih

end System

end PutGateway
