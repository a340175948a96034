import PutGateway.System.Places
import PutGateway.Rtos.Resumption
import PutGateway.Lib.Progress
/-!
# The running machine

The two cores as they are driven: Linux takes one operation after the
other, and the RTOS goes through the calls of its runtime, stage by
stage, with the operations of Linux in between. A run goes on for ever.
-/

namespace PutGateway

namespace System

open Linux Rtos Progress

/-! ## States and actions -/

/-- The private context of Linux, and the runtime of the RTOS between two
calls or in the course of one. The region is the one the tasks are bound
to. -/
structure Machine where
  linux : LinuxShmIpc
  linuxCalls : ℕ
  rtos : Config

namespace Machine

/-- The machine without the course of the call. -/
def gateway (m : Machine) : Gateway := ⟨m.linux, m.linuxCalls, m.rtos.tasks⟩

/-- The tasks of the RTOS. -/
def tasks (m : Machine) : Tasks := m.rtos.tasks.host

/-- The machine after an operation of Linux. -/
def withShm (m : Machine) (shm : LinuxShm) : Machine :=
  ⟨shm.ipc, shm.calls, m.rtos.withRegion shm.region⟩

end Machine

/-- What one of the cores does next. -/
inductive Action
  | linux (op : Linux.Operation)
  /-- The RTOS begins a call of its runtime. -/
  | call (trigger : RuntimeTrigger) (ackResult : UnifiedError)
  /-- The RTOS goes through the next stage of its call. -/
  | stage
  /-- The RTOS observes the heartbeat of Linux. -/
  | observe (sequence : UInt32)

/-- One action. In the course of a call the RTOS begins no other one, and
between two calls there is no stage to go through. -/
def Machine.step (P Q : Platform) (K : Clock) (m : Machine) : Action → Machine
  | .linux op => m.withShm (op.run P m.gateway.shm)
  | .call trigger ackResult =>
    if m.rtos.left = [] then { m with rtos := m.rtos.begin trigger ackResult } else m
  | .stage =>
    match m.rtos.left with
    | [] => m
    | s :: rest => { m with rtos := m.rtos.advance Q K s rest }
  | .observe sequence =>
    if m.rtos.left = [] then { m with rtos := m.rtos.observe K sequence } else m

/-- A machine just powered up: Linux has formatted the region, and the
runtime of the RTOS has initialised itself on it. -/
inductive PoweredUp : Machine → Prop
  | intro (shm : LinuxShm) (linuxEpoch rtosEpoch : UInt32) {ticks : ℕ}
      {schedulerBudget recoveryBudget : UInt32} {runtime : Runtime}
      (hinit : rtosRuntimeInit (formatRegion linuxEpoch rtosEpoch) ticks schedulerBudget
        recoveryBudget = .ok runtime) :
      PoweredUp ⟨(linuxShmIpcFormatRegion shm linuxEpoch rtosEpoch).2.ipc,
        (linuxShmIpcFormatRegion shm linuxEpoch rtosEpoch).2.calls, { runtime := runtime }⟩

variable {P Q : Platform} {K : Clock} {m : Machine}

/-! ## The stages left -/

/-- What an action makes of the stages left. -/
def Action.left (left : List Stage) : Action → List Stage
  | .linux _ | .observe _ => left
  | .call trigger _ => if left = [] then stages trigger else left
  | .stage => left.tail

theorem left_step (a : Action) : (m.step P Q K a).rtos.left = a.left m.rtos.left := by
  cases a with
  | linux op => rfl
  | call trigger ackResult =>
    simp only [Machine.step, Action.left]
    split
    · rfl
    · rfl
  | stage =>
    simp only [Machine.step, Action.left]
    split
    · next hnil => rw [hnil, List.tail_nil]
    · next s rest hleft =>
      rw [hleft]
      rfl
  | observe sequence =>
    simp only [Machine.step, Action.left]
    split
    · rfl
    · rfl

/-- A stage in the course of a call. -/
theorem step_stage {s : Stage} {rest : List Stage} (hleft : m.rtos.left = s :: rest) :
    m.step P Q K .stage = { m with rtos := m.rtos.advance Q K s rest } := by
  simp only [Machine.step, hleft]

theorem step_call (hleft : m.rtos.left = []) (trigger : RuntimeTrigger) (ackResult : UnifiedError) :
    m.step P Q K (.call trigger ackResult) = { m with rtos := m.rtos.begin trigger ackResult } := by
  simp only [Machine.step, hleft, if_true]

theorem step_observe (hleft : m.rtos.left = []) (sequence : UInt32) :
    m.step P Q K (.observe sequence) = { m with rtos := m.rtos.observe K sequence } := by
  simp only [Machine.step, hleft, if_true]

/-! ## The invariant -/

/-- The machine is sane: it is a run of the runtime in the environment
that Linux makes, every frame has one owner, the epoch of the region is
known, the budgets are positive, and once the preflight of a call is over
the drain is allowed. -/
structure Sane (Q : Platform) (K : Clock) (m : Machine) : Prop where
  reaches : RuntimeReaches Q K Intact m.rtos
  exclusive : Exclusive m.gateway
  epoch : m.tasks.ipc.region.header.linuxEpoch = m.tasks.lastLinuxEpoch
  schedulerBudget : m.rtos.runtime.schedulerBudget ≠ 0
  recoveryBudget : m.rtos.runtime.recoveryBudget ≠ 0
  allowed : m.rtos.left ≠ [] → .preflight ∉ m.rtos.left → m.rtos.allowed = true

theorem Sane.intact (h : Sane Q K m) : Intact m.tasks.ipc.region := h.reaches.intact

theorem Sane.frozen (h : Sane Q K m) : m.tasks.WellFrozen := h.reaches.wellFrozen

theorem Sane.sound (h : Sane Q K m) : Sound m.rtos.tasks := h.exclusive.sound

theorem Sane.balanced (h : Sane Q K m) (hQ : Q.Succeeds) : (ledger m.rtos.tasks).Balanced :=
  (h.reaches.mono fun _ hR => hR.valid).sound.2 hQ

theorem resolveBudget_ne_zero (configured : UInt32) : resolveBudget configured 16 ≠ 0 := by
  unfold resolveBudget
  split
  · decide
  · assumption

theorem formatRegion_intact (linuxEpoch rtosEpoch : UInt32) :
    Intact (formatRegion linuxEpoch rtosEpoch) := ⟨formatRegion_valid linuxEpoch rtosEpoch, rfl⟩

theorem rtosRuntimeInit_format {linuxEpoch rtosEpoch : UInt32} {ticks : ℕ}
    {schedulerBudget recoveryBudget : UInt32} {runtime : Runtime}
    (hinit : rtosRuntimeInit (formatRegion linuxEpoch rtosEpoch) ticks schedulerBudget
      recoveryBudget = .ok runtime) :
    runtime =
      { tasks := rtosTasksContextInit ⟨true, formatRegion linuxEpoch rtosEpoch, 0⟩ ticks
        initialized := true
        schedulerBudget := resolveBudget schedulerBudget 16
        recoveryBudget := resolveBudget recoveryBudget 16 } := by
  have hattach : rtosShmIpcAttach ⟨false, formatRegion linuxEpoch rtosEpoch, 0⟩ =
      (.ok, ⟨true, formatRegion linuxEpoch rtosEpoch, 0⟩) :=
    rtosShmIpcAttach_of_valid rfl (formatRegion_valid linuxEpoch rtosEpoch)
  unfold rtosRuntimeInit at hinit
  rw [hattach] at hinit
  exact (Except.ok.inj hinit).symm

theorem PoweredUp.sane (h : PoweredUp m) : Sane Q K m := by
  obtain ⟨shm, linuxEpoch, rtosEpoch, hinit⟩ := h
  refine ⟨.init (formatRegion_intact linuxEpoch rtosEpoch) hinit, ?_, ?_, ?_, ?_,
    fun hleft => absurd rfl hleft⟩
  · -- the gateway of `boot`, but for the ticks of the clock
    obtain ⟨hsound, howned, hnamed⟩ := exclusive_boot linuxEpoch rtosEpoch shm
    have hruntime := rtosRuntimeInit_format hinit
    rw [boot_rtos] at howned hnamed
    subst hruntime
    exact ⟨.contextInit rfl (formatRegion_valid linuxEpoch rtosEpoch) _, howned, hnamed⟩
  · have hruntime := rtosRuntimeInit_format hinit
    subst hruntime
    rfl
  · have hruntime := rtosRuntimeInit_format hinit
    subst hruntime
    exact resolveBudget_ne_zero _
  · have hruntime := rtosRuntimeInit_format hinit
    subst hruntime
    exact resolveBudget_ne_zero _

/-! ## What a step keeps -/

/-- A stage leaves an epoch that is known. -/
theorem stage_lastLinuxEpoch {cfg : Config}
    (hepoch : cfg.tasks.host.ipc.region.header.linuxEpoch = cfg.tasks.host.lastLinuxEpoch)
    (hintact : Intact cfg.tasks.host.ipc.region) (hQ : Q.Succeeds) (s : Stage) :
    (cfg.stage Q K s).2.2.host.lastLinuxEpoch = cfg.tasks.host.lastLinuxEpoch := by
  have hrecover : (recoverFirst Q K cfg.runtime.recoveryBudget cfg.tasks).2.host.lastLinuxEpoch =
      cfg.tasks.host.lastLinuxEpoch := by
    unfold recoverFirst
    split
    · exact (rtosRecoveryTaskRunOnce_epoch Q K cfg.tasks _).2.elim id fun h => h.trans hepoch
    · rfl
  cases s with
  | preflight =>
    simp only [Config.stage, preflight_of_epoch hQ hintact hepoch]
    rfl
  | retry =>
    simp only [Config.stage]
    unfold retryFirst
    split
    · exact (retry_givesBack cfg.tasks cfg.runtime.recoveryBudget).steady.lastLinuxEpoch
    · rfl
  | recovery => exact hrecover
  | supervision => exact hrecover
  | event =>
    simp only [Config.stage]
    unfold drainAllowed
    split
    swap
    · rfl
    rcases rtosIpcEventTaskRunOnce_cases Q K cfg.tasks (mapIpcTrigger cfg.trigger) with
      ⟨-, hserves⟩ | ⟨-, t, ht, ⟨-, heq⟩ | ⟨-, heq⟩⟩
    · exact hserves.host.lastLinuxEpoch
    · rw [heq]
      exact ht.lastLinuxEpoch
    · rw [heq]
      exact (retry_givesBack { cfg.tasks with host := t } 64).steady.lastLinuxEpoch.trans
        ht.lastLinuxEpoch
  | scheduler =>
    simp only [Config.stage]
    rcases rtosRouterSchedulerTaskRunOnce_cases Q K cfg.tasks cfg.runtime.schedulerBudget with
      ⟨-, heq⟩ | ⟨-, -, heq⟩ | ⟨-, -, heq⟩
    · rw [heq]
      exact (retry_givesBack cfg.tasks cfg.runtime.schedulerBudget).steady.lastLinuxEpoch
    · rw [heq]
    · rw [heq]
      exact (drain_serves cfg.tasks cfg.runtime.schedulerBudget).host.lastLinuxEpoch
  | heartbeat => exact (rtosHeartbeatTaskRunOnce_control K cfg.tasks).2.2.1
  | monitor =>
    obtain ⟨-, -, ⟨-, -, -, hlast⟩ | ⟨-, hnew, -⟩ | ⟨-, -, hsame⟩⟩ :=
      rtosErrorMonitorTaskRunOnce_control K cfg.tasks
    · exact hlast
    · exact absurd hepoch hnew
    · exact hsame.lastLinuxEpoch
  | statistics => rfl

theorem Exclusive.called {g : Gateway} (h : Exclusive g) :
    Exclusive { g with rtos := Config.called g.rtos } :=
  ⟨⟨h.sound.initialized, h.sound.valid, h.sound.books⟩, h.owned, h.named⟩

/-- A stage keeps ownership exclusive. -/
theorem Exclusive.stage {linux : LinuxShmIpc} {calls : ℕ} {cfg : Config} (hQ : Q.Succeeds)
    (h : Exclusive ⟨linux, calls, cfg.tasks⟩) (s : Stage) :
    Exclusive ⟨linux, calls, (cfg.stage Q K s).2.2⟩ :=
  Config.stage_keeps (I := fun c => Exclusive ⟨linux, calls, c⟩) (fun _ hc => hc.called)
    (fun _ op hc => hc.rtos hQ op) h s

theorem begin_budgets (cfg : Config) (trigger : RuntimeTrigger) (ackResult : UnifiedError) :
    (cfg.begin trigger ackResult).runtime.schedulerBudget = cfg.runtime.schedulerBudget ∧
      (cfg.begin trigger ackResult).runtime.recoveryBudget = cfg.runtime.recoveryBudget := by
  unfold Config.begin Runtime.countRun
  split
  · exact ⟨rfl, rfl⟩
  · exact ⟨rfl, rfl⟩

/-- The preflight of a sane machine allows the drain. -/
theorem Sane.preflight (h : Sane Q K m) (hQ : Q.Succeeds) :
    m.rtos.stage Q K .preflight = (0, true, Config.called m.rtos.tasks) :=
  preflight_of_epoch hQ h.intact h.epoch

/-- **A sane machine stays sane**, whatever its cores do. -/
theorem Sane.step (h : Sane Q K m) (hQ : Q.Succeeds) (a : Action) : Sane Q K (m.step P Q K a) := by
  cases a with
  | linux op =>
    have hmoved : Moved op.descriptor? m.gateway.shm (op.run P m.gateway.shm) :=
      op.moved P h.sound.valid
    have hheader : (op.run P m.gateway.shm).region.header = m.tasks.ipc.region.header := hmoved.header
    refine ⟨h.reaches.environment ⟨hmoved.valid, ?_⟩ fun _ => hheader, h.exclusive.linux op, ?_,
      h.schedulerBudget, h.recoveryBudget, h.allowed⟩
    · rw [hheader]
      exact h.intact.header
    · exact (congrArg RegionHeader.linuxEpoch hheader).trans h.epoch
  | call trigger ackResult =>
    by_cases hidle : m.rtos.left = []
    swap
    · simp only [Machine.step, hidle, if_false]
      exact h
    rw [step_call hidle]
    have htasks := Config.begin_tasks m.rtos trigger ackResult
    obtain ⟨hscheduler, hrecovery⟩ := begin_budgets m.rtos trigger ackResult
    refine ⟨h.reaches.call hidle trigger ackResult, ?_, ?_, ?_, ?_, fun _ hnot => ?_⟩
    · simp only [Machine.gateway, htasks]
      exact h.exclusive
    · simp only [Machine.tasks, htasks]
      exact h.epoch
    · simp only [hscheduler]
      exact h.schedulerBudget
    · simp only [hrecovery]
      exact h.recoveryBudget
    · -- a call begins with its preflight
      cases trigger <;> exact absurd List.mem_cons_self hnot
  | stage =>
    cases hleft : m.rtos.left with
    | nil =>
      simp only [Machine.step, hleft]
      exact h
    | cons s rest =>
    rw [step_stage hleft]
    refine ⟨h.reaches.stage hleft, h.exclusive.stage hQ s, ?_, h.schedulerBudget,
      h.recoveryBudget, fun hrest hnot => ?_⟩
    · have hheader := Config.stage_header Q K m.rtos s
      have hlast := stage_lastLinuxEpoch (K := K) h.epoch h.intact hQ s
      exact (congrArg RegionHeader.linuxEpoch hheader).trans (h.epoch.trans hlast.symm)
    · by_cases hs : s = .preflight
      · subst hs
        exact congrArg (fun r => r.2.1) (h.preflight hQ)
      · have hallowed : (m.rtos.stage Q K s).2.1 = m.rtos.allowed := by
          cases s with
          | preflight => exact absurd rfl hs
          | _ => rfl
        refine hallowed.trans (h.allowed (by simp [hleft]) ?_)
        rw [hleft, List.mem_cons]
        exact not_or.mpr ⟨fun heq => hs heq.symm, hnot⟩
  | observe sequence =>
    by_cases hidle : m.rtos.left = []
    swap
    · simp only [Machine.step, hidle, if_false]
      exact h
    rw [step_observe hidle]
    exact ⟨h.reaches.observe hidle sequence, h.exclusive.rtos hQ (.observeLinuxHeartbeat sequence),
      h.epoch, h.schedulerBudget, h.recoveryBudget, fun hleft => absurd hidle hleft⟩

/-- **Every machine of a run is sane.** -/
theorem sane_of_run (hQ : Q.Succeeds) (r : Run (Machine.step P Q K)) (hstart : PoweredUp (r.state 0))
    (n : ℕ) : Sane Q K (r.state n) :=
  r.always hstart.sane (fun _ a h => h.step hQ a) n

end System

end PutGateway
