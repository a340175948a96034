import Mathlib.Order.Filter.Finite
import PutGateway.System.EgressLiveness
/-!
# Every frame comes home

A frame that the RTOS has sent back on a TX ring is with the worker that
took it, until that releases it. So where the manager serves and Linux
commits no more, every frame is in the end free, or with the thread that
has allocated it.
-/

namespace PutGateway

namespace Linux

variable {P : Platform} {shm : LinuxShm} {p p' : Pool} {q q' : Queues} {b : Option Descriptor}
  {f : Fin 64}

/-! ## Frames taken off a TX ring -/

/-- A move that takes nothing off a TX ring makes no frame ready to be
sent. -/
theorem PoolMove.txReady (h : PoolMove b p q p' q') (htx : q'.tx = q.tx)
    (hafter : (p'.frames f).state = .txReady) : (p.frames f).state = .txReady := by
  have hput : ∀ {g m}, m.state ≠ .txReady → ((p.put g m).frames f).state = .txReady →
      (p.frames f).state = .txReady := by
    intro g m hm hready
    by_cases hf : f = g
    · subst hf
      simp only [Pool.put, Function.update_self] at hready
      exact absurd hready hm
    · simpa only [Pool.put, Function.update_of_ne hf] using hready
  cases h with
  | idle | dropTx | dropReclaim => exact hafter
  | claim i _ hm => exact hput (by simp [hm]) hafter
  | publish => exact hput (by simp) hafter
  | release | takeReclaim => exact hput (by simp) hafter
  | @takeTx i d rest g hring =>
    have hi := congrFun htx i
    simp only [Queues.setTx, Function.update_self, hring] at hi
    exact absurd hi.symm (List.cons_ne_self d rest)

/-- Only a worker's operation takes from the TX rings. -/
theorem Operation.view_tx (P : Platform) (hv : shm.region.Valid) {op : Operation}
    (hop : ∀ id, op ≠ .dequeueTxDescriptor id) :
    (op.run P shm).region.view.tx = shm.region.view.tx := by
  cases op with
  | setInterfaceQuota | frameAlloc | frameRelease => rfl
  | fillFrame => rfl
  | dequeueTxDescriptor id => exact absurd rfl (hop id)
  | frameCommitRx c =>
    rcases linuxShmFrameCommitRx_cases P shm c with
      ⟨-, -, hkept | ⟨i, hroom, hkept⟩⟩ | ⟨-, i, f, -, -, -, -, -, -, -, hroom, hkept, -⟩
    · exact congrArg Queues.tx (hkept.becomes hv).view
    · exact congrArg Queues.tx (Region.becomes_stageRx hv (hv.rx_room.mp hroom) hkept).view
    · have hview := congrArg Queues.tx
        (Region.becomes_publishRx hv (hv.rx_room.mp hroom) hkept).view
      exact hview
  | enqueueRxDescriptor id d =>
    rcases linuxShmEnqueueRxDescriptor_cases P shm id d with
      ⟨-, -, hkept | ⟨i, hroom, hkept⟩⟩ | ⟨-, i, f, -, -, -, -, -, -, -, hroom, hkept, -⟩
    · exact congrArg Queues.tx (hkept.becomes hv).view
    · exact congrArg Queues.tx (Region.becomes_stageRx hv (hv.rx_room.mp hroom) hkept).view
    · have hview := congrArg Queues.tx
        (Region.becomes_publishRx hv (hv.rx_room.mp hroom) hkept).view
      exact hview
  | dequeueReclaimDescriptor =>
    by_cases hinit : shm.ipc.initialized = true
    swap
    · have heq : Operation.dequeueReclaimDescriptor.run P shm = shm := by
        simp [Operation.run, linuxShmDequeueReclaimDescriptor, hinit]
      rw [heq]
    rcases linuxShmDequeueReclaimDescriptor_cases P hv hinit with
      ⟨-, -, -, hregion, -⟩ | ⟨d, rest, -, hregion, -⟩
    · exact congrArg Queues.tx hregion.view
    · have hview := congrArg Queues.tx hregion.view
      exact hview

/-- An operation that takes nothing off a TX ring makes no frame ready to
be sent. -/
theorem Operation.txReady (P : Platform) (hv : shm.region.Valid) {op : Operation}
    (hop : ∀ id, op ≠ .dequeueTxDescriptor id)
    (hafter : ((op.run P shm).ipc.frames f).state = .txReady) :
    (shm.ipc.frames f).state = .txReady := by
  have hmoved : Moved op.descriptor? shm (op.run P shm) := op.moved P hv
  exact hmoved.move.txReady (op.view_tx P hv hop) hafter

end Linux

namespace System

open Linux Rtos Progress Signal Filter

variable {A : Type} {P Q : Platform} {K : Clock} {config : EgressManagerConfig A}
  {r : Run (Threads.step P Q K config)} {s : Threads A} {M N n k : ℕ} {i j : Fin 6} {f : Fin 64}

namespace Threads

/-! ## Who holds a frame -/

/-- The worker has the frame in hand. -/
def Holds (s : Threads A) (i : Fin 6) (f : Fin 64) : Prop :=
  ∃ left descriptor, (s.worker i).signal.place = .working (.holding left descriptor) ∧
    frameIndex? descriptor.frameId = some f

/-- **Every frame that was taken off a TX ring is held** by a worker. -/
def Held (s : Threads A) : Prop :=
  ∀ f, (s.machine.linux.frames f).state = .txReady → ∃ i, s.Holds i f

/-- The step of a worker that has taken a frame. -/
theorem workerStep_holding (w : EgressWorkerContext A) {left : ℕ} {descriptor : Descriptor}
    (hplace : (s.worker i).signal.place = .working (.holding left descriptor)) :
    (s.workerStep P w i).machine.linux =
      (linuxShmFrameRelease s.machine.linux descriptor.frameId ReclaimReason.none.code).2 := by
  unfold workerStep
  simp only [hplace, did, egressGive, egressFrame_shm, Machine.withShm]
  rfl

/-- What a worker takes is what the ring gave. -/
theorem egressTake_ok (w : EgressWorkerContext A) (e : EgressState A)
    (hok : (linuxShmDequeueTxDescriptor P e.shm w.interfaceId).1 = .ok) :
    (egressTake P w e).1 =
      .frame ((linuxShmDequeueTxDescriptor P e.shm w.interfaceId).2.1.getD {}) := by
  unfold egressTake
  simp [hok]

/-- The step of a worker that takes the next one. A frame that becomes
ready to be sent is the one it then holds. -/
theorem workerStep_taking (hP : P.Succeeds) (hv : s.machine.gateway.shm.region.Valid)
    (hinit : s.machine.gateway.shm.ipc.initialized = true) {left : ℕ}
    (hplace : (s.worker i).signal.place = .working (.turning (left + 1)))
    (hafter : ((s.workerStep P (config.workerContext i) i).machine.linux.frames f).state = .txReady) :
    (s.machine.linux.frames f).state = .txReady ∨
      (s.workerStep P (config.workerContext i) i).Holds i f := by
  have hcases := linuxShmDequeueTxDescriptor_cases P hv hinit i
  have hok' := egressTake_ok (P := P) (config.workerContext i) (s.egress i)
  have hshm := egressTake_shm (P := P) (config.workerContext i) (s.egress i)
  rw [workerStep_turning _ hplace] at hafter ⊢
  have hafter' : ((linuxShmDequeueTxDescriptor P s.machine.gateway.shm
      (interfaceOfIndex i)).2.2.ipc.frames f).state = .txReady := by
    rw [← hafter]
    exact congrArg (fun shm => (shm.ipc.frames f).state) hshm.symm
  have hok : (linuxShmDequeueTxDescriptor P s.machine.gateway.shm (interfaceOfIndex i)).1 = .ok →
      (egressTake P (config.workerContext i) (s.egress i)).1 = .frame
        ((linuxShmDequeueTxDescriptor P s.machine.gateway.shm
          (interfaceOfIndex i)).2.1.getD {}) := hok'
  simp only at hcases
  generalize linuxShmDequeueTxDescriptor P s.machine.gateway.shm (interfaceOfIndex i) = t
    at hcases hafter' hok
  have hkept : t.2.2.ipc.pool = s.machine.gateway.shm.ipc.pool →
      (s.machine.linux.frames f).state = .txReady := fun hpool =>
    (congrArg (fun pool => (pool.frames f).state) hpool).symm.trans hafter'
  rcases hcases with ⟨-, -, hpool, -⟩ | ⟨d, rest, -, -, ⟨-, -, -, -, hpool⟩ |
    ⟨hgood, hsome, hpool, hres⟩⟩
  · exact .inl (hkept hpool)
  · exact .inl (hkept hpool)
  · obtain ⟨g, htakes⟩ := txAccepted_iff.mp hgood
    by_cases hf : f = g
    · right
      refine ⟨left, d, ?_, hf ▸ htakes.frame⟩
      simp only [did, Function.update_self, hok (hres hP), hsome, Option.getD_some, Taken.place]
    · left
      have hstate := congrArg (fun pool => (pool.frames f).state)
        (hpool.trans (LinuxShmIpc.pool_markTxReady htakes.frame))
      simp only [Pool.put, Function.update_of_ne hf] at hstate
      exact hstate.symm.trans hafter'

/-- A step takes off a TX ring where a worker has turns left. -/
theorem act_takes {a : ThreadAction} (ha : ¬ a.TakesTx) :
    (∃ i left, a = .worker i ∧ (s.worker i).threadStarted = true ∧
      (s.worker i).signal.place = .working (.turning (left + 1))) ∨
      ∀ id, s.act a ≠ .linux (.dequeueTxDescriptor id) := by
  have hpause : ∀ id, s.machine.pause ≠ .linux (.dequeueTxDescriptor id) := by
    intro id
    unfold Machine.pause
    split
    · simp
    · simp
  cases a with
  | startle i => exact .inr hpause
  | main created => exact .inr hpause
  | other a =>
    right
    intro id hact
    simp only [act] at hact
    subst hact
    exact ha trivial
  | manager =>
    right
    intro id
    simp only [act]
    split
    swap
    · exact hpause id
    split
    · simp
    · exact hpause id
  | worker i =>
    by_cases hstarted : (s.worker i).threadStarted = true
    swap
    · right
      intro id
      simp only [act, hstarted]
      exact hpause id
    cases hplace : (s.worker i).signal.place with
    | looking | asleep | ended =>
      right
      intro id
      simp only [act, hstarted, hplace, if_true]
      exact hpause id
    | working work =>
      cases work with
      | holding left descriptor =>
        right
        intro id
        simp [act, hstarted, hplace]
      | turning left =>
        cases left with
        | succ left => exact .inl ⟨i, left, rfl, hstarted, hplace⟩
        | zero =>
          right
          intro id
          simp only [act, hstarted, hplace, if_true]
          exact hpause id

/-- To the machine, nothing else makes a frame ready to be sent. -/
theorem txReady_step {m : Machine} (hsane : Sane Q K m) {a : Action}
    (ha : ∀ id, a ≠ .linux (.dequeueTxDescriptor id))
    (hafter : ((m.step P Q K a).linux.frames f).state = .txReady) :
    (m.linux.frames f).state = .txReady := by
  cases a with
  | linux op =>
    have hv : m.gateway.shm.region.Valid := hsane.sound.valid
    exact op.txReady P hv (fun id hop => ha id (congrArg Action.linux hop)) hafter
  | call trigger ackResult =>
    simp only [Machine.step] at hafter
    split at hafter
    · exact hafter
    · exact hafter
  | stage =>
    simp only [Machine.step] at hafter
    split at hafter
    · exact hafter
    · exact hafter
  | observe sequence =>
    simp only [Machine.step] at hafter
    split at hafter
    · exact hafter
    · exact hafter

/-- A worker that holds a frame gives it back in its next step. -/
theorem workerStep_gives (hsane : Sane Q K s.machine) (w : EgressWorkerContext A)
    (hholds : s.Holds i f) (hready : (s.machine.linux.frames f).state = .txReady) :
    ((s.workerStep P w i).machine.linux.frames f).state ≠ .txReady := by
  obtain ⟨left, d, hplace, hd⟩ := hholds
  have hinit : s.machine.linux.initialized = true := hsane.exclusive.owned.initialized
  have hbit : s.machine.linux.isAllocated f = true ↔ (s.machine.linux.frames f).state ≠ .free :=
    hsane.exclusive.owned.bit f
  have halloc := hbit.mpr (by rw [hready]; decide)
  rw [workerStep_holding w hplace, linuxShmFrameRelease_of_releasable hinit hd halloc
    (.inr (.inl hready))]
  have hdischarged : (s.machine.linux.discharge f ReclaimReason.none.code).pool =
      s.machine.linux.pool.discharge f := LinuxShmIpc.pool_discharge
  have hpool := congrArg (fun pool => (pool.frames f).state) hdischarged
  simp only [Pool.discharge, Pool.put, Function.update_self] at hpool
  exact hpool.trans_ne (by decide)

/-- **A step keeps every frame that was taken in somebody's hands.** -/
theorem Held.step (h : s.Held) (hP : P.Succeeds) (hsane : Sane Q K s.machine) (hs : Arranged s)
    {a : ThreadAction} (ha : ¬ a.TakesTx) : (s.step P Q K config a).Held := by
  intro f hafter
  have hbefore : (s.machine.linux.frames f).state = .txReady ∨
      ∃ i, (s.step P Q K config a).Holds i f := by
    rcases act_takes (s := s) ha with ⟨i, left, rfl, hstarted, hplace⟩ | hact
    · simp only [Threads.step, hstarted, if_true] at hafter ⊢
      exact (workerStep_taking hP hsane.sound.valid hsane.exclusive.owned.initialized hplace
        hafter).imp_right fun hholds => ⟨i, hholds⟩
    · rw [step_machine] at hafter
      exact .inl (txReady_step hsane hact hafter)
  rcases hbefore with hbefore | hholds
  swap
  · exact hholds
  -- whoever held it goes on holding it, or gives it back
  obtain ⟨i, hholds⟩ := h f hbefore
  by_cases hown : a = .worker i ∧ (s.worker i).threadStarted = true
  · obtain ⟨rfl, hstarted⟩ := hown
    simp only [Threads.step, hstarted, if_true] at hafter
    exact absurd hafter (workerStep_gives hsane _ hholds hbefore)
  · obtain ⟨left, d, hplace, hd⟩ := hholds
    exact ⟨i, left, d, (step_others hs hown).working.mpr hplace, hd⟩

/-- A machine just powered up has nothing ready to be sent. -/
theorem Initial.held (h : s.Initial) : s.Held := by
  intro f hready
  have hnone : ∀ {m : Machine}, PoweredUp m → (m.linux.frames f).state ≠ .txReady := fun h => by
    cases h
    simp [linuxShmIpcFormatRegion, resetLocalState]
  exact absurd hready (hnone h.machine)

/-! ## Runs -/

/-- The worker has a frame in hand. -/
def Holding (s : Threads A) (i : Fin 6) : Prop :=
  ∃ left descriptor, (s.worker i).signal.place = .working (.holding left descriptor)

section

variable (hP : P.Succeeds) (hQ : Q.Succeeds) (hstart : (r.state 0).Initial)

include hP hQ hstart

/-- Every frame that was taken is held, throughout. -/
theorem held_of_run (hothers : ∀ n, ¬ (r.action n).TakesTx) (n : ℕ) : (r.state n).Held := by
  induction n with
  | zero => exact hstart.held
  | succ n ih =>
    have hsane : Sane Q K (r.state n).machine := sane_of_run hQ (machineRun r) hstart.machine n
    rw [r.next]
    exact ih.step hP hsane (arranged_of_run r hstart n) (hothers n)

/-- With its ring empty a worker takes no frame. -/
theorem not_holding_next (hempty : (r.state n).machine.tasks.ipc.region.view.tx i = [])
    (h : ¬ (r.state n).Holding i) : ¬ (r.state (n + 1)).Holding i := by
  rintro ⟨left, d, hplace⟩
  by_cases hown : Owns r i n
  swap
  · exact h ⟨left, d, (others_step hstart hown).working.mp hplace⟩
  have hstep := owns_step hown
  cases hbefore : ((r.state n).worker i).signal.place with
  | asleep | ended | looking =>
    generalize ((r.state (n + 1)).worker i).signal = signal at hstep hplace
    cases hstep with
    | look =>
      unfold State.look at hplace
      split at hplace
      · simp only at hplace
        split at hplace
        · cases hplace
        · cases hplace
      · cases hplace
    | work hworking => rw [hbefore] at hworking; cases hworking
    | finish hworking => rw [hbefore] at hworking; cases hworking
    | idle => rw [hbefore] at hplace; cases hplace
  | working work =>
    cases work with
    | holding left' d' => exact h ⟨left', d', hbefore⟩
    | turning left' =>
      rw [r.next, hown.1] at hplace
      simp only [step, hown.2, if_true] at hplace
      cases left' with
      | zero =>
        simp only [workerStep, hbefore, go, Function.update_self] at hplace
        cases hplace
      | succ left' =>
        rw [workerStep_turning _ hbefore] at hplace
        have hsane : Sane Q K (r.state n).machine := sane_of_run hQ (machineRun r) hstart.machine n
        have hinit : (r.state n).machine.gateway.shm.ipc.initialized = true :=
          hsane.exclusive.owned.initialized
        have hnone : (egressTake P (config.workerContext i) ((r.state n).egress i)).1 = .empty := by
          rcases linuxShmDequeueTxDescriptor_cases P hsane.sound.valid hinit i with
            ⟨-, -, -, -, hres⟩ | ⟨d', rest, htx, -⟩
          · have hres' : (linuxShmDequeueTxDescriptor P ((r.state n).egress i).shm
                (config.workerContext i).interfaceId).1 = .ipcQueueEmpty := (hres hP).2
            unfold egressTake
            simp only [hres', if_true]
          · have hnil : (r.state n).machine.gateway.shm.region.view.tx i = [] := hempty
            rw [htx] at hnil
            cases hnil
        simp only [did, Function.update_self, hnone, Taken.place] at hplace
        cases hplace

/-- Once its ring stays empty a worker ends up with nothing in hand. -/
theorem lets_go (hscheduled : Scheduled r) (hserving : Serving r M)
    (hempty : ∀ n, M ≤ n → (r.state n).machine.tasks.ipc.region.view.tx i = []) :
    ∃ L, M ≤ L ∧ ∀ n, L ≤ n → ¬ (r.state n).Holding i := by
  obtain ⟨L, hL, hfree⟩ : ∃ L, M ≤ L ∧ ¬ (r.state L).Holding i := by
    by_contra hnever
    push Not at hnever
    obtain ⟨left, d, hplace⟩ := hnever M (le_refl M)
    obtain ⟨k, hk, haction, hplace'⟩ := works hstart hscheduled hserving (le_refl M) hplace
    obtain ⟨left', d', hafter⟩ := hnever (k + 1) (by omega)
    have hstarted := ((serving_flags hstart hserving hk).2.2 i).1
    rw [r.next, haction] at hafter
    simp only [step, hstarted, if_true, workerStep, hplace', did, Function.update_self] at hafter
    cases hafter
  refine ⟨L, hL, fun n hn => ?_⟩
  induction n, hn using Nat.le_induction with
  | base => exact hfree
  | succ n hn ih => exact not_holding_next hP hQ hstart (hempty n (hL.trans hn)) ih

end

end Threads

end System

end PutGateway
