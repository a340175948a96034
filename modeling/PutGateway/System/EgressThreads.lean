import PutGateway.Linux.EgressManager
import PutGateway.Linux.Releasing
import PutGateway.System.PendingBits
/-!
# The threads of the egress manager

The manager and its six workers run beside each other and beside
everything else the machine does. A step of a thread is a critical
section on its mutex, or one operation on the shared memory with what the
thread does about it; steps of all threads, of both cores and of the
thread that starts and stops the manager interleave freely.

To the machine a step of a thread is an action of Linux, or none
(`Threads.step_machine`).
-/

namespace PutGateway

namespace System

open Linux Rtos Progress Signal

/-! ## Setting up -/

/-- `egress_manager_config_t`, less what the threads share. -/
structure EgressManagerConfig (A : Type) where
  adapters : Fin 6 → Option (PhysicalInterfaceAdapter A)
  enabled : Fin 6 → Bool
  workerBudget : UInt32
  periodicDrainMs : UInt32

variable {A : Type}

/-- The context `egress_manager_start` gives to the worker of an
interface. -/
def EgressManagerConfig.workerContext (config : EgressManagerConfig A) (i : Fin 6) :
    EgressWorkerContext A where
  interfaceId := interfaceOfIndex i
  adapter := config.adapters i
  enabled := config.enabled i
  budget := if config.workerBudget = 0 then egressWorkerDefaultBudget else config.workerBudget

/-! ## States -/

/-- What a worker has in hand: so many turns of its drain, or a frame it
has taken and the turns that come after it. -/
inductive Work
  | turning (left : ℕ)
  | holding (left : ℕ) (descriptor : Descriptor)

/-- How much that is. -/
def Work.size : Work → ℕ
  | .turning left => 2 * left
  | .holding left _ => 2 * left + 1

/-- `egress_worker_thread_t`: its flags and where it is, and what its
drains work on besides the shared memory. -/
structure WorkerThread (A : Type) where
  threadStarted : Bool := false
  signal : Signal.State Work := {}
  adapterCtx : A
  collector : Option (List StatusEvent)
  result : EgressWorkerDrainResult := {}

/-- Where the manager thread is. -/
inductive ManagerPc
  /-- Take the snapshot with the pending bits. -/
  | polling
  /-- Wake the worker of the next interface, where its bit is set. -/
  | waking (pendingBits : UInt32) (i : ℕ)
  /-- Take the next reclaim. -/
  | draining
  /-- Count the round and refresh the status. -/
  | recording
  /-- Look at the flag, and sleep. -/
  | waiting
  /-- In `pthread_cond_timedwait`. -/
  | asleep
  | ended

/-- `egress_manager_t`, less its workers: what its thread does, counts and
tells the collector. -/
structure ManagerThread where
  threadStarted : Bool := false
  stopRequested : Bool := false
  pc : ManagerPc := .polling
  periodicDrainCount : UInt64 := 0
  recorded : List (StatusModuleId × String × UnifiedError) := []
  refreshed : Option LinuxShmIpcSnapshot := none

/-- Where the thread is that starts the manager, and stops it. -/
inductive MainPc
  /-- `egress_manager_start`: create the next thread, the manager last. -/
  | creating (i : ℕ)
  | serving
  /-- `egress_manager_stop`: ask each thread to end, the manager first. -/
  | askingManager
  | askingWorker (i : ℕ)
  /-- Then join them. -/
  | joiningManager
  | joiningWorker (i : ℕ)
  | stopped
  deriving DecidableEq

/-- The machine and the threads. -/
structure Threads (A : Type) where
  machine : Machine
  manager : ManagerThread
  worker : Fin 6 → WorkerThread A
  main : MainPc

/-- Whose step it is. -/
inductive ThreadAction
  /-- An action of the RTOS, or an operation of another thread of Linux. -/
  | other (a : Action)
  | manager
  | worker (i : Fin 6)
  /-- A worker wakes up for no reason. -/
  | startle (i : Fin 6)
  /-- Creating a thread succeeds or not. -/
  | main (created : Bool)

/-! ## A worker -/

/-- What becomes of the first half of a turn. -/
inductive Taken
  | empty
  | failed
  | frame (descriptor : Descriptor)

variable {P Q : Platform} {K : Clock} {config : EgressManagerConfig A} {s : Threads A} {i j : Fin 6}

/-- Where the worker is after it, with so many turns left. -/
def Taken.place (left : ℕ) : Taken → Signal.Place Work
  | .empty => .looking
  | .failed => .working (.turning left)
  | .frame descriptor => .working (.holding left descriptor)

/-- The first half of a turn of a drain: take a descriptor. -/
def egressTake (P : Platform) (w : EgressWorkerContext A) (e : EgressState A) :
    Taken × EgressState A :=
  let r := linuxShmDequeueTxDescriptor P e.shm w.interfaceId
  let e := { e with shm := r.2.2 }
  if r.1 = .ipcQueueEmpty then (.empty, e)
  else if r.1 ≠ .ok then
    (.failed, { e with
      result := { e.result with
        ipcErrors := e.result.ipcErrors + 1 } }.recordError "egress_ipc_dequeue" r.1)
  else
    (.frame (r.2.1.getD {}),
      { e with result := { e.result with dequeued := e.result.dequeued + 1 } })

/-- The second half: what is done with the frame. -/
def egressGive (w : EgressWorkerContext A) (e : EgressState A) (descriptor : Descriptor) :
    EgressState A :=
  egressFrame w e descriptor (e.shm.frameOf descriptor)

/-- **A turn is its two halves.** -/
theorem egressTurn_eq (w : EgressWorkerContext A) (e : EgressState A) :
    egressTurn P w e =
      match egressTake P w e with
      | (.empty, e) => (false, e)
      | (.failed, e) => (true, e)
      | (.frame descriptor, e) => (true, egressGive w e descriptor) := by
  simp only [egressTurn, egressTake, egressGive]
  by_cases hempty : (linuxShmDequeueTxDescriptor P e.shm w.interfaceId).1 = .ipcQueueEmpty
  · rw [if_pos hempty, if_pos hempty]
  rw [if_neg hempty, if_neg hempty]
  by_cases hfailed : (linuxShmDequeueTxDescriptor P e.shm w.interfaceId).1 ≠ .ok
  · rw [if_pos hfailed, if_pos hfailed]
  · rw [if_neg hfailed, if_neg hfailed]

namespace Threads

/-- What a worker works on. -/
def egress (s : Threads A) (i : Fin 6) : EgressState A :=
  ⟨s.machine.gateway.shm, (s.worker i).adapterCtx, (s.worker i).collector, (s.worker i).result⟩

/-- The worker goes to another place. -/
def go (s : Threads A) (i : Fin 6) (place : Signal.Place Work) : Threads A :=
  { s with
    worker := Function.update s.worker i
      { s.worker i with signal := { (s.worker i).signal with place := place } } }

/-- The worker has done something with what it works on, and goes on. -/
def did (s : Threads A) (i : Fin 6) (e : EgressState A) (place : Signal.Place Work) : Threads A :=
  { s with
    machine := s.machine.withShm e.shm
    worker := Function.update s.worker i
      { s.worker i with
        signal := { (s.worker i).signal with place := place }
        adapterCtx := e.adapterCtx
        collector := e.collector
        result := e.result } }

/-- The flags of a worker change, and its place with them. -/
def flag (s : Threads A) (i : Fin 6) (f : Signal.State Work → Signal.State Work) : Threads A :=
  { s with
    worker := Function.update s.worker i { s.worker i with signal := f (s.worker i).signal } }

/-- The next step of `egress_worker_thread_main`. A drain that begins
starts its counts anew. -/
def workerStep (P : Platform) (w : EgressWorkerContext A) (i : Fin 6) (s : Threads A) : Threads A :=
  match (s.worker i).signal.place with
  | .asleep | .ended => s
  | .looking =>
    let looked := s.flag i fun signal => signal.look (.turning w.turns)
    { looked with
      worker := Function.update looked.worker i { looked.worker i with result := {} } }
  | .working (.turning 0) => s.go i .looking
  | .working (.turning (left + 1)) =>
    match egressTake P w (s.egress i) with
    | (.empty, e) => s.did i e .looking
    | (.failed, e) => s.did i e (.working (.turning left))
    | (.frame descriptor, e) => s.did i e (.working (.holding left descriptor))
  | .working (.holding left descriptor) =>
    s.did i (egressGive w (s.egress i) descriptor) (.working (.turning left))

/-! ## The manager -/

/-- The snapshot the manager takes. -/
def stats (s : Threads A) : LinuxShmIpcSnapshot :=
  linuxShmIpcGetStats s.machine.linux s.machine.tasks.ipc.region s.manager.periodicDrainCount

/-- The manager goes to another place. -/
def manage (s : Threads A) (pc : ManagerPc) : Threads A :=
  { s with manager := { s.manager with pc := pc } }

/-- The manager has made a round of `egress_manager_drain_reclaim_once`. -/
def drained (s : Threads A) (r : UnifiedError × Option ReclaimDescriptor × LinuxShm) : Threads A :=
  let s := { s with machine := s.machine.withShm r.2.2 }
  if r.1 = .ipcQueueEmpty then s.manage .recording
  else if r.1 ≠ .ok then
    { s with
      manager := { s.manager with
        pc := .recording
        recorded := s.manager.recorded ++ [recordReclaimError r.1] } }
  else s

/-- `linux_shm_ipc_record_periodic_drain` and `refresh_ipc_status`. -/
def refresh (s : Threads A) : Threads A :=
  let s :=
    { s with
      manager := { s.manager with
        periodicDrainCount :=
          linuxShmIpcRecordPeriodicDrain s.machine.linux s.manager.periodicDrainCount } }
  { s with manager := { s.manager with refreshed := some s.stats } }

/-- The next step of `egress_manager_thread_main`. The timed wait ends by
a signal, for no reason or after the period: the model does not tell. -/
def managerStep (P : Platform) (s : Threads A) : Threads A :=
  match s.manager.pc with
  | .polling => s.manage (.waking s.stats.txPendingBits 0)
  | .waking pendingBits k =>
    if h : k < 6 then
      let woken :=
        if pendingBits &&& (1 <<< UInt32.ofNat k) ≠ 0 then s.flag ⟨k, h⟩ Signal.State.ask else s
      woken.manage (.waking pendingBits (k + 1))
    else s.manage .draining
  | .draining => s.drained (linuxShmDequeueReclaimDescriptor P s.machine.gateway.shm)
  | .recording => s.refresh.manage .waiting
  | .waiting => s.manage (if s.manager.stopRequested then .ended else .asleep)
  | .asleep => s.manage (if s.manager.stopRequested then .ended else .polling)
  | .ended => s

/-! ## Starting and stopping -/

/-- The next step of the thread that calls `egress_manager_start` and
`egress_manager_stop`. A thread that cannot be created leads to the stop.
A join waits for a thread that was created. -/
def mainStep (created : Bool) (s : Threads A) : Threads A :=
  match s.main with
  | .creating k =>
    if !created then { s with main := .askingManager }
    else if h : k < 6 then
      { s with
        worker := Function.update s.worker ⟨k, h⟩
          { s.worker ⟨k, h⟩ with threadStarted := true, signal := {} }
        main := .creating (k + 1) }
    else { s with manager := { s.manager with threadStarted := true }, main := .serving }
  | .serving => { s with main := .askingManager }
  | .askingManager =>
    { s with manager := { s.manager with stopRequested := true }, main := .askingWorker 0 }
  | .askingWorker k =>
    if h : k < 6 then { s.flag ⟨k, h⟩ Signal.State.halt with main := .askingWorker (k + 1) }
    else { s with main := .joiningManager }
  | .joiningManager =>
    if !s.manager.threadStarted then { s with main := .joiningWorker 0 }
    else
      match s.manager.pc with
      | .ended =>
        { s with manager := { s.manager with threadStarted := false }, main := .joiningWorker 0 }
      | _ => s
  | .joiningWorker k =>
    if h : k < 6 then
      if !(s.worker ⟨k, h⟩).threadStarted then { s with main := .joiningWorker (k + 1) }
      else
        match (s.worker ⟨k, h⟩).signal.place with
        | .ended =>
          { s with
            worker := Function.update s.worker ⟨k, h⟩
              { s.worker ⟨k, h⟩ with threadStarted := false }
            main := .joiningWorker (k + 1) }
        | _ => s
    else { s with manager := { s.manager with refreshed := some s.stats }, main := .stopped }
  | .stopped => s

/-! ## All of them -/

/-- The next state. -/
def step (P Q : Platform) (K : Clock) (config : EgressManagerConfig A) (s : Threads A) :
    ThreadAction → Threads A
  | .other a => { s with machine := s.machine.step P Q K a }
  | .manager => if s.manager.threadStarted then s.managerStep P else s
  | .worker i => if (s.worker i).threadStarted then s.workerStep P (config.workerContext i) i else s
  | .startle i => s.flag i Signal.State.signal
  | .main created => s.mainStep created

/-- Before `egress_manager_start`, on a machine just powered up. -/
structure Initial (s : Threads A) : Prop where
  machine : PoweredUp s.machine
  manager : s.manager = {}
  unstarted : ∀ i, (s.worker i).threadStarted = false
  signal : ∀ i, (s.worker i).signal = {}
  main : s.main = .creating 0

end Threads

/-! ## What the machine sees -/

/-- An action that changes nothing. -/
def Machine.pause (m : Machine) : Action := if m.rtos.left = [] then .stage else .observe 0

theorem step_pause (m : Machine) : m.step P Q K m.pause = m := by
  unfold Machine.pause
  split
  · next hleft => simp only [Machine.step, hleft]
  · next hleft => simp only [Machine.step, hleft, if_false]

namespace Threads

/-- What a step of a thread is to the machine. -/
def act (s : Threads A) : ThreadAction → Action
  | .other a => a
  | .manager =>
    if s.manager.threadStarted then
      match s.manager.pc with
      | .draining => .linux .dequeueReclaimDescriptor
      | _ => s.machine.pause
    else s.machine.pause
  | .worker i =>
    if (s.worker i).threadStarted then
      match (s.worker i).signal.place with
      | .working (.turning (_ + 1)) => .linux (.dequeueTxDescriptor (interfaceOfIndex i))
      | .working (.holding _ descriptor) =>
        .linux (.frameRelease descriptor.frameId ReclaimReason.none.code)
      | _ => s.machine.pause
    else s.machine.pause
  | .startle _ | .main _ => s.machine.pause

theorem egressTake_shm (w : EgressWorkerContext A) (e : EgressState A) :
    (egressTake P w e).2.shm = (Linux.Operation.dequeueTxDescriptor w.interfaceId).run P e.shm := by
  unfold egressTake
  simp only
  split
  · rfl
  split
  · rfl
  · rfl

/-- The first half of a turn, in one thread. -/
theorem workerStep_turning (w : EgressWorkerContext A) {left : ℕ}
    (hplace : (s.worker i).signal.place = .working (.turning (left + 1))) :
    s.workerStep P w i =
      s.did i (egressTake P w (s.egress i)).2 ((egressTake P w (s.egress i)).1.place left) := by
  unfold workerStep
  simp only [hplace]
  generalize egressTake P w (s.egress i) = t
  obtain ⟨taken, e⟩ := t
  cases taken with
  | empty => rfl
  | failed => rfl
  | frame descriptor => rfl

theorem drained_machine (r : UnifiedError × Option ReclaimDescriptor × LinuxShm) :
    (s.drained r).machine = s.machine.withShm r.2.2 := by
  unfold drained
  simp only
  split
  · rfl
  split
  · rfl
  · rfl

/-- Starting and stopping leaves the machine. -/
theorem mainStep_machine (created : Bool) : (s.mainStep created).machine = s.machine := by
  unfold mainStep
  split
  · split
    · rfl
    split
    · rfl
    · rfl
  · rfl
  · rfl
  · split
    · rfl
    · rfl
  · split
    · rfl
    split
    · rfl
    · rfl
  · split
    · split
      · rfl
      split
      · rfl
      · rfl
    · rfl
  · rfl

/-- **A step of a thread is an action of the machine.** -/
theorem step_machine (a : ThreadAction) :
    (s.step P Q K config a).machine = s.machine.step P Q K (s.act a) := by
  cases a with
  | other a => rfl
  | startle i => exact (step_pause _).symm
  | main created => exact (mainStep_machine created).trans (step_pause _).symm
  | manager =>
    simp only [step, act]
    split
    swap
    · exact (step_pause _).symm
    unfold managerStep
    cases hpc : s.manager.pc with
    | draining => exact drained_machine _
    | waking pendingBits k =>
      refine Eq.trans ?_ (step_pause _).symm
      simp only [manage]
      split
      · split
        · rfl
        · rfl
      · rfl
    | polling | recording | waiting | asleep | ended => exact (step_pause _).symm
  | worker i =>
    simp only [step, act]
    split
    swap
    · exact (step_pause _).symm
    cases hplace : (s.worker i).signal.place with
    | looking | asleep | ended =>
      unfold workerStep
      simp only [hplace]
      exact (step_pause _).symm
    | working w =>
      cases w with
      | holding left descriptor =>
        unfold workerStep
        simp only [hplace]
        exact congrArg s.machine.withShm (egressFrame_shm _ (s.egress i) descriptor _)
      | turning left =>
        cases left with
        | zero =>
          unfold workerStep
          simp only [hplace]
          exact (step_pause _).symm
        | succ left =>
          rw [workerStep_turning _ hplace]
          exact congrArg s.machine.withShm
            (egressTake_shm (P := P) (config.workerContext i) (s.egress i))

/-- A run of the threads, as the machine sees it. -/
def machineRun (r : Run (step P Q K config)) : Run (Machine.step P Q K) where
  state n := (r.state n).machine
  action n := (r.state n).act (r.action n)
  next n := by rw [r.next, step_machine]

end Threads

end System

end PutGateway
