import PutGateway.System.Machine
import PutGateway.Rtos.Idling
/-!
# The machine drains

Liveness of the whole system. Where Linux keeps polling the rings it
takes from, the runtime keeps being called and the heartbeat of Linux
keeps coming, the RTOS comes back to the normal state again and again;
and once nothing more is committed, every frame in flight comes back to
Linux.
-/

namespace PutGateway

namespace System

open Linux Rtos Progress Filter

variable {P Q : Platform} {K : Clock} {m : Machine}

/-- The ledger of a machine. -/
def Machine.ledger (m : Machine) : Ledger := Rtos.ledger m.rtos.tasks

/-! ## What a step does to the work -/

/-- Linux hands a frame to the RTOS. -/
def Action.Commits : Action → Prop
  | .linux (.frameCommitRx _) | .linux (.enqueueRxDescriptor _ _) => True
  | _ => False

/-- Linux takes off the work of the RTOS only. -/
theorem poolMove_work {b : Option Descriptor} {p p' : Pool} {L : Ledger} {q' : Queues}
    (h : PoolMove b p L.queues p' q') :
    ({ L with queues := q' } : Ledger).work < L.work ∨ L.Still { L with queues := q' } := by
  have htake : ∀ {i d rest}, L.queues.tx i = d :: rest →
      ∑ j, ((L.queues.setTx i rest).tx j).length + 1 = ∑ j, (L.queues.tx j).length := by
    intro i d rest htx
    have hsum := sum_setTx (q := L.queues) (i := i) rest
    rw [htx, List.length_cons] at hsum
    omega
  cases h with
  | idle => exact .inr ⟨rfl, rfl, rfl, rfl⟩
  | claim => exact .inr ⟨rfl, rfl, rfl, rfl⟩
  | publish => exact .inr ⟨rfl, rfl, rfl, rfl⟩
  | release => exact .inr ⟨rfl, rfl, rfl, rfl⟩
  | dropTx htx =>
    have hsum := htake htx
    left
    simp only [Ledger.work, Queues.setTx] at hsum ⊢
    omega
  | takeTx htx =>
    have hsum := htake htx
    left
    simp only [Ledger.work, Queues.setTx] at hsum ⊢
    omega
  | dropReclaim hr =>
    left
    simp only [Ledger.work, Queues.setReclaim, hr, List.length_cons]
    omega
  | takeReclaim hr =>
    left
    simp only [Ledger.work, Queues.setReclaim, hr, List.length_cons]
    omega

/-- An operation that publishes nothing leaves the RX rings. -/
theorem poolMove_rx {p p' : Pool} {q q' : Queues} (h : PoolMove none p q p' q') : q'.rx = q.rx := by
  cases h with
  | publish hb => cases hb
  | _ => rfl

theorem descriptor?_of_not_commits {op : Linux.Operation} (h : ¬ (Action.linux op).Commits) :
    op.descriptor? = none := by
  cases op with
  | frameCommitRx => exact absurd trivial h
  | enqueueRxDescriptor => exact absurd trivial h
  | _ => rfl

/-- A call begun and a heartbeat observed move no frame. -/
theorem ledger_step {a : Action} (hlinux : ∀ op, a ≠ .linux op) (hstage : a ≠ .stage) :
    (m.step P Q K a).ledger = m.ledger := by
  cases a with
  | linux op => exact absurd rfl (hlinux op)
  | stage => exact absurd rfl hstage
  | call trigger ackResult =>
    simp only [Machine.step, Machine.ledger]
    split
    · rw [Config.begin_tasks]
    · rfl
  | observe sequence =>
    simp only [Machine.step]
    split
    · rfl
    · rfl

/-- A stage takes off the work, or leaves every frame where it was. -/
theorem Sane.stage_weight (h : Sane Q K m) (hQ : Q.Succeeds) (s : Stage) :
    (Rtos.ledger (m.rtos.stage Q K s).2.2).weight < m.ledger.weight ∨
      (m.ledger.Still (Rtos.ledger (m.rtos.stage Q K s).2.2) ∧
        (Rtos.ledger (m.rtos.stage Q K s).2.2).queues.rx = m.ledger.queues.rx) := by
  obtain ⟨es, hmoves, hfaults⟩ := h.sound.stage (K := K) hQ s
  exact hmoves.weight h.sound.books (h.balanced hQ) hfaults

/-- **No step but a commit adds to the work**, and one that takes nothing
off it leaves every frame where it was. -/
theorem Sane.step_weight (h : Sane Q K m) (hQ : Q.Succeeds) {a : Action} (ha : ¬ a.Commits) :
    (m.step P Q K a).ledger.weight < m.ledger.weight ∨
      (m.ledger.Still (m.step P Q K a).ledger ∧
        (m.step P Q K a).ledger.queues.rx = m.ledger.queues.rx) := by
  cases a with
  | linux op =>
    have hmoved : Moved op.descriptor? m.gateway.shm (op.run P m.gateway.shm) :=
      op.moved P h.sound.valid
    have hmove := hmoved.move
    rw [descriptor?_of_not_commits ha] at hmove
    have hrx := poolMove_rx hmove
    rcases poolMove_work (L := m.ledger) hmove with hless | hstill
    · left
      have hunread : (m.step P Q K (.linux op)).ledger.queues.rx = m.ledger.queues.rx := hrx
      have hwork : (m.step P Q K (.linux op)).ledger.work < m.ledger.work := hless
      simp only [Ledger.weight, hunread]
      omega
    · exact .inr ⟨hstill, hrx⟩
  | stage =>
    cases hleft : m.rtos.left with
    | nil =>
      simp only [Machine.step, hleft]
      exact .inr ⟨.refl _, trivial⟩
    | cons s rest =>
      rw [step_stage hleft]
      exact h.stage_weight hQ s
  | call trigger ackResult =>
    rw [ledger_step (by simp) (by simp)]
    exact .inr ⟨.refl _, rfl⟩
  | observe sequence =>
    rw [ledger_step (by simp) (by simp)]
    exact .inr ⟨.refl _, rfl⟩

/-- Outside the normal state the RTOS takes nothing off an RX ring. -/
theorem stage_quiet_of_ne {cfg : Config} (hnot : cfg.tasks.host.state ≠ .normal) (s : Stage) :
    (cfg.stage Q K s).2.2.host.ipc.region.view.rx = cfg.tasks.host.ipc.region.view.rx := by
  refine Tasks.Quiet.view_rx ?_
  cases s with
  | event =>
    simp only [Config.stage]
    unfold drainAllowed
    split
    swap
    · exact .refl _
    rcases rtosIpcEventTaskRunOnce_cases Q K cfg.tasks (mapIpcTrigger cfg.trigger) with
      ⟨hnormal, -⟩ | ⟨-, t, ht, ⟨-, heq⟩ | ⟨-, heq⟩⟩
    · exact absurd hnormal hnot
    · rw [heq]
      exact ht.quiet
    · rw [heq]
      exact ht.quiet.trans (rtosTasksRetryPendingReclaims_cases (P := Q) (K := K) t 64).1.toQuiet
  | scheduler =>
    exact rtosRouterSchedulerTaskRunOnce_quiet cfg.runtime.schedulerBudget (.inl hnot)
  | _ => exact Config.stage_quiet Q K cfg (by simp) (by simp)

/-- **Outside the normal state no step adds to the work** on the frames
the RTOS has taken, commits included. -/
theorem Sane.step_work (h : Sane Q K m) (hQ : Q.Succeeds) (hnot : m.tasks.state ≠ .normal)
    (a : Action) :
    (m.step P Q K a).ledger.work < m.ledger.work ∨ m.ledger.Still (m.step P Q K a).ledger := by
  cases a with
  | linux op =>
    have hmoved : Moved op.descriptor? m.gateway.shm (op.run P m.gateway.shm) :=
      op.moved P h.sound.valid
    exact poolMove_work (L := m.ledger) hmoved.move
  | stage =>
    cases hleft : m.rtos.left with
    | nil =>
      simp only [Machine.step, hleft]
      exact .inr (.refl _)
    | cons s rest =>
      rw [step_stage hleft]
      have hrx : (Rtos.ledger (m.rtos.stage Q K s).2.2).queues.rx = m.ledger.queues.rx :=
        stage_quiet_of_ne hnot s
      rcases h.stage_weight hQ s with hless | ⟨hstill, -⟩
      · left
        simp only [Ledger.weight, hrx] at hless
        have hwork : (Rtos.ledger (m.rtos.stage Q K s).2.2).work < m.ledger.work := by omega
        exact hwork
      · exact .inr hstill
  | call trigger ackResult =>
    rw [ledger_step (by simp) (by simp)]
    exact .inr (.refl _)
  | observe sequence =>
    rw [ledger_step (by simp) (by simp)]
    exact .inr (.refl _)

/-! ## Steps that move no frame -/

/-- A dequeue by Linux takes an entry off a TX ring that has one. -/
theorem Sane.dequeueTx_still (h : Sane Q K m) (hP : P.Succeeds) {i : Fin 6}
    (hstill : m.ledger.Still
      (m.step P Q K (.linux (.dequeueTxDescriptor (interfaceOfIndex i)))).ledger) :
    m.ledger.queues.tx i = [] := by
  have hvalid : m.gateway.shm.region.Valid := h.sound.valid
  have hinit : m.gateway.shm.ipc.initialized = true := h.exclusive.owned.initialized
  rcases linuxShmDequeueTxDescriptor_cases P hvalid hinit i with
    ⟨-, -, -, -, hempty⟩ | ⟨d, rest, htx, hregion, -⟩
  · exact (hempty hP).1
  · -- the ring without its head is no longer the ring
    have hbefore : m.ledger.queues.tx i = d :: rest := htx
    have hafter : (m.step P Q K
        (.linux (.dequeueTxDescriptor (interfaceOfIndex i)))).ledger.queues.tx i = rest := by
      have hview := congrArg (fun q => q.tx i) hregion.view
      simp only [Queues.setTx, Function.update_self] at hview
      exact hview
    have hsame := congrFun hstill.tx i
    rw [hbefore, hafter] at hsame
    exact absurd hsame.symm (List.cons_ne_self d rest)

theorem Sane.dequeueReclaim_still (h : Sane Q K m) (hP : P.Succeeds)
    (hstill : m.ledger.Still (m.step P Q K (.linux .dequeueReclaimDescriptor)).ledger) :
    m.ledger.queues.reclaim = [] := by
  have hvalid : m.gateway.shm.region.Valid := h.sound.valid
  have hinit : m.gateway.shm.ipc.initialized = true := h.exclusive.owned.initialized
  rcases linuxShmDequeueReclaimDescriptor_cases P hvalid hinit with
    ⟨-, -, -, -, hempty⟩ | ⟨d, rest, hr, hregion, -⟩
  · exact (hempty hP).1
  · have hbefore : m.ledger.queues.reclaim = d :: rest := hr
    have hafter : (m.step P Q K (.linux .dequeueReclaimDescriptor)).ledger.queues.reclaim = rest :=
      congrArg Queues.reclaim hregion.view
    have hsame := hstill.reclaim
    rw [hbefore, hafter] at hsame
    exact absurd hsame.symm (List.cons_ne_self d rest)

/-- A scheduler stage writes a frozen reclaim where the ring is empty. -/
theorem Sane.scheduler_still (h : Sane Q K m) (hQ : Q.Succeeds) (hroom : m.ledger.queues.reclaim = [])
    (hstill : m.ledger.Still (Rtos.ledger (m.rtos.stage Q K .scheduler).2.2)) :
    m.ledger.pending = [] := by
  by_contra hne
  have hpending : m.rtos.tasks.host.pendingReclaims ≠ [] := hne
  have hless := retry_lessens (K := K) hQ h.sound (h.balanced hQ) h.frozen hpending hroom
    h.schedulerBudget
  have hstage : (m.rtos.stage Q K .scheduler).2.2 =
      { m.rtos.tasks with host := (rtosTasksRetryPendingReclaims Q K m.rtos.tasks.host
        m.rtos.runtime.schedulerBudget).2 } := by
    simp only [Config.stage]
    unfold rtosRouterSchedulerTaskRunOnce
    rw [if_pos (by simpa using hpending)]
  have hrx : (Rtos.ledger (m.rtos.stage Q K .scheduler).2.2).queues.rx = m.ledger.queues.rx := by
    rw [hstage]
    exact (retry_givesBack m.rtos.tasks m.rtos.runtime.schedulerBudget).quiet.view_rx
  rw [← hstage] at hless
  exact absurd (hstill.weight hrx) (Nat.ne_of_lt hless)

end System

end PutGateway
