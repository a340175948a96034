import PutGateway.Rtos.Governance
/-!
# Runs of the runtime

A call of the runtime goes through stages, one for each block of
`rtos_runtime_run_once`. A run interleaves calls, stage by stage, with
heartbeats of Linux that are observed between two calls, and with changes
of the region by Linux: anything its environment allows, but the region
header stays while a call is under way.
-/

namespace PutGateway

namespace Rtos

variable {P : Platform} {K : Clock}

/-! ## Stages -/

/-- The blocks of `rtos_runtime_run_once`. -/
inductive Stage
  | preflight
  | retry
  | recovery
  | event
  | scheduler
  | heartbeat
  | monitor
  | supervision
  | statistics
  deriving DecidableEq

/-- The stages of a call. -/
def stages : RuntimeTrigger → List Stage
  | .doorbell => [.preflight, .retry, .recovery, .event, .scheduler, .statistics]
  | .periodic =>
    [.preflight, .retry, .recovery, .event, .scheduler, .heartbeat, .monitor, .supervision,
      .statistics]

/-- A runtime, between two calls or in the course of one: the trigger of
the call, whether the preflight allows the drain, the actions so far and
the stages left. -/
structure Config where
  runtime : Runtime
  trigger : RuntimeTrigger := .doorbell
  allowed : Bool := false
  processed : UInt32 := 0
  left : List Stage := []

namespace Config

/-- The context of the tasks. -/
def tasks (cfg : Config) : TasksContext := cfg.runtime.tasks

/-- A stage of the call under way: its actions, whether the drain is
allowed after it, and the context it leaves. -/
def stage (P : Platform) (K : Clock) (cfg : Config) : Stage → UInt32 × Bool × TasksContext
  | .preflight => preflightBeforeRxDrain P K cfg.tasks
  | .retry =>
    let r := retryFirst P K cfg.runtime.recoveryBudget cfg.tasks
    (r.1, cfg.allowed, r.2)
  | .recovery | .supervision =>
    let r := recoverFirst P K cfg.runtime.recoveryBudget cfg.tasks
    (r.1, cfg.allowed, r.2)
  | .event =>
    let r := drainAllowed P K cfg.allowed cfg.trigger cfg.tasks
    (r.1, cfg.allowed, r.2)
  | .scheduler =>
    let r := rtosRouterSchedulerTaskRunOnce P K cfg.tasks cfg.runtime.schedulerBudget
    (r.1, cfg.allowed, r.2)
  | .heartbeat =>
    let r := rtosHeartbeatTaskRunOnce K cfg.tasks
    (r.1, cfg.allowed, r.2)
  | .monitor =>
    let r := rtosErrorMonitorTaskRunOnce K cfg.tasks
    (r.1, cfg.allowed, r.2)
  | .statistics => (0, cfg.allowed, (rtosStatisticsTaskRunOnce cfg.tasks).2)

/-- Begin a call. -/
def begin (cfg : Config) (trigger : RuntimeTrigger) (ackResult : UnifiedError) : Config where
  runtime := cfg.runtime.countRun trigger ackResult
  trigger := trigger
  left := stages trigger

/-- Go through a stage; the last one ends the call. -/
def advance (P : Platform) (K : Clock) (cfg : Config) (s : Stage) (rest : List Stage) : Config :=
  let r := cfg.stage P K s
  let processed := cfg.processed + r.1
  { cfg with
    runtime := { cfg.runtime with
      tasks := r.2.2
      lastProcessedCount :=
        if rest = [] then processed else cfg.runtime.lastProcessedCount }
    allowed := r.2.1
    processed := processed
    left := rest }

/-- Observe a heartbeat of Linux. -/
def observe (K : Clock) (cfg : Config) (sequence : UInt32) : Config :=
  { cfg with
    runtime := { cfg.runtime with
      tasks := { cfg.tasks with host := rtosTasksObserveLinuxHeartbeat K cfg.tasks.host sequence } } }

/-- The region as Linux leaves it. -/
def withRegion (cfg : Config) (R : Region) : Config :=
  { cfg with runtime := { cfg.runtime with tasks := Rtos.withRegion cfg.tasks R } }

/-- Go through all the stages left. -/
def finish (P : Platform) (K : Clock) : List Stage → Config → Config
  | [], cfg => cfg
  | s :: rest, cfg => finish P K rest (cfg.advance P K s rest)

/-- After the stages left, none are. -/
theorem finish_left {cfg : Config} {l : List Stage} (h : cfg.left = l) :
    (finish P K l cfg).left = [] := by
  induction l generalizing cfg with
  | nil => exact h
  | cons s rest ih => exact ih rfl

/-- Beginning a call counts it, and touches no frame. -/
theorem begin_tasks (cfg : Config) (trigger : RuntimeTrigger) (ackResult : UnifiedError) :
    (cfg.begin trigger ackResult).tasks = cfg.tasks := by
  unfold begin Runtime.countRun tasks
  split
  · rfl
  · rfl

/-- **A call is its stages**, one after the other. -/
theorem finish_begin (cfg : Config) (trigger : RuntimeTrigger) (ackResult : UnifiedError)
    (hinit : cfg.runtime.initialized = true) :
    (finish P K (stages trigger) (cfg.begin trigger ackResult)).runtime =
      (rtosRuntimeRunOnce P K cfg.runtime trigger ackResult).2 := by
  unfold rtosRuntimeRunOnce
  rw [hinit]
  cases trigger with
  | doorbell => simp [finish, stages, advance, begin, stage, tasks, supervise]
  | periodic => simp [finish, stages, advance, begin, stage, tasks, supervise, UInt32.add_assoc]

/-! ## What a stage does to the context -/

/-- A context after a platform call that touches no ring. -/
def called (c : TasksContext) : TasksContext :=
  { c with host := { c.host with ipc := { c.host.ipc with calls := c.host.ipc.calls + 1 } } }

theorem regionNeedsPreflight_eq (P : Platform) (c : TasksContext) :
    regionNeedsPreflight P c =
      (P.outcome c.host.ipc.calls,
        P.outcome c.host.ipc.calls ≠ .ok || !shmRegionHeaderIsValid c.host.ipc.region ||
          c.host.ipc.region.header.linuxEpoch ≠ c.host.lastLinuxEpoch,
        called c) := by
  have hvalid : (c.host.ipc.region.header.magic ≠ putShmRegionMagic ||
      c.host.ipc.region.header.version ≠ putShmIpcVersion ||
      c.host.ipc.region.header.headerSize ≠ putShmHeaderSize ||
      c.host.ipc.region.header.regionSize ≠ putShmRegionSize) =
        !shmRegionHeaderIsValid c.host.ipc.region := by
    simp [shmRegionHeaderIsValid, Bool.beq_eq_decide_eq]
  have heq : regionNeedsPreflight P c =
      if P.outcome c.host.ipc.calls ≠ .ok then (P.outcome c.host.ipc.calls, true, called c)
      else if c.host.ipc.region.header.magic ≠ putShmRegionMagic ||
          c.host.ipc.region.header.version ≠ putShmIpcVersion ||
          c.host.ipc.region.header.headerSize ≠ putShmHeaderSize ||
          c.host.ipc.region.header.regionSize ≠ putShmRegionSize then (.ok, true, called c)
      else if c.host.ipc.region.header.linuxEpoch ≠ c.host.lastLinuxEpoch then (.ok, true, called c)
      else (.ok, false, called c) := rfl
  rw [heq]
  by_cases hok : P.outcome c.host.ipc.calls = .ok
  swap
  · rw [if_pos hok]
    simp [hok]
  rw [if_neg (not_not.mpr hok)]
  cases hheader : shmRegionHeaderIsValid c.host.ipc.region with
  | false =>
    rw [if_pos (hvalid.trans (by rw [hheader]; rfl))]
    simp [hok]
  | true =>
    rw [if_neg (by rw [hvalid, hheader]; decide)]
    by_cases hepoch : c.host.ipc.region.header.linuxEpoch = c.host.lastLinuxEpoch
    · simp [hok, hepoch]
    · simp [hok, hepoch]

/-- **The ends of the preflight.** The header could not be synchronised;
or it is the one the tasks know; or the error monitor looks at it. -/
theorem preflightBeforeRxDrain_cases (P : Platform) (K : Clock) (c : TasksContext) :
    (P.outcome c.host.ipc.calls ≠ .ok ∧
        preflightBeforeRxDrain P K c = (0, false, called c)) ∨
      (P.outcome c.host.ipc.calls = .ok ∧ shmRegionHeaderIsValid c.host.ipc.region = true ∧
        c.host.ipc.region.header.linuxEpoch = c.host.lastLinuxEpoch ∧
        preflightBeforeRxDrain P K c = (0, true, called c)) ∨
      (P.outcome c.host.ipc.calls = .ok ∧
        (shmRegionHeaderIsValid c.host.ipc.region = false ∨
          c.host.ipc.region.header.linuxEpoch ≠ c.host.lastLinuxEpoch) ∧
        (preflightBeforeRxDrain P K c).2 =
          (true, (rtosErrorMonitorTaskRunOnce K (called c)).2)) := by
  unfold preflightBeforeRxDrain
  rw [regionNeedsPreflight_eq]
  by_cases hok : P.outcome c.host.ipc.calls = .ok
  swap
  · exact .inl ⟨hok, by simp [hok]⟩
  cases hheader : shmRegionHeaderIsValid c.host.ipc.region with
  | false => exact .inr (.inr ⟨hok, .inl rfl, by simp [hok]⟩)
  | true =>
    by_cases hepoch : c.host.ipc.region.header.linuxEpoch = c.host.lastLinuxEpoch
    · exact .inr (.inl ⟨hok, rfl, hepoch, by simp [hok, hepoch]⟩)
    · exact .inr (.inr ⟨hok, .inr hepoch, by simp [hok, hepoch]⟩)

/-- **A stage is an operation, or none**, after a platform call or not. -/
theorem stage_cases (P : Platform) (K : Clock) (cfg : Config) (s : Stage) :
    (cfg.stage P K s).2.2 = cfg.tasks ∨ (cfg.stage P K s).2.2 = called cfg.tasks ∨
      ∃ op : Operation, (cfg.stage P K s).2.2 = op.run P K cfg.tasks ∨
        (cfg.stage P K s).2.2 = op.run P K (called cfg.tasks) := by
  have hrecover : (recoverFirst P K cfg.runtime.recoveryBudget cfg.tasks).2 = cfg.tasks ∨
      (recoverFirst P K cfg.runtime.recoveryBudget cfg.tasks).2 =
        (Operation.recoveryTask cfg.runtime.recoveryBudget).run P K cfg.tasks := by
    unfold recoverFirst
    split
    · exact .inr rfl
    · exact .inl rfl
  cases s with
  | preflight =>
    rcases preflightBeforeRxDrain_cases P K cfg.tasks with
      ⟨-, heq⟩ | ⟨-, -, -, heq⟩ | ⟨-, -, heq⟩
    · exact .inr (.inl (by simp only [stage, heq]))
    · exact .inr (.inl (by simp only [stage, heq]))
    · exact .inr (.inr ⟨.errorMonitorTask, .inr (by simp only [stage, heq, Operation.run])⟩)
  | retry =>
    have hretry : (retryFirst P K cfg.runtime.recoveryBudget cfg.tasks).2 = cfg.tasks ∨
        (retryFirst P K cfg.runtime.recoveryBudget cfg.tasks).2 =
          (Operation.retryPendingReclaims cfg.runtime.recoveryBudget).run P K cfg.tasks := by
      unfold retryFirst
      split
      · exact .inr rfl
      · exact .inl rfl
    exact hretry.imp id fun h => .inr ⟨_, .inl h⟩
  | recovery => exact hrecover.imp id fun h => .inr ⟨_, .inl h⟩
  | supervision => exact hrecover.imp id fun h => .inr ⟨_, .inl h⟩
  | event =>
    have hdrain : (drainAllowed P K cfg.allowed cfg.trigger cfg.tasks).2 = cfg.tasks ∨
        (drainAllowed P K cfg.allowed cfg.trigger cfg.tasks).2 =
          (Operation.eventTask (mapIpcTrigger cfg.trigger)).run P K cfg.tasks := by
      unfold drainAllowed
      split
      · exact .inr rfl
      · exact .inl rfl
    exact hdrain.imp id fun h => .inr ⟨_, .inl h⟩
  | scheduler => exact .inr (.inr ⟨.schedulerTask _, .inl rfl⟩)
  | heartbeat => exact .inr (.inr ⟨.heartbeatTask, .inl rfl⟩)
  | monitor => exact .inr (.inr ⟨.errorMonitorTask, .inl rfl⟩)
  | statistics => exact .inr (.inr ⟨.statisticsTask, .inl rfl⟩)

/-- What operations and platform calls keep, every stage keeps. -/
theorem stage_keeps {I : TasksContext → Prop} (hcalled : ∀ c, I c → I (called c))
    (hop : ∀ c (op : Operation), I c → I (op.run P K c)) {cfg : Config} (h : I cfg.tasks) (s : Stage) :
    I (cfg.stage P K s).2.2 := by
  rcases stage_cases P K cfg s with heq | heq | ⟨op, heq | heq⟩
  · rw [heq]
    exact h
  · rw [heq]
    exact hcalled _ h
  · rw [heq]
    exact hop _ op h
  · rw [heq]
    exact hop _ op (hcalled _ h)

/-- **What each stage takes and sends.** Only the event task takes, and
only the scheduler sends. -/
theorem stage_quiet (P : Platform) (K : Clock) (cfg : Config) {s : Stage} (hevent : s ≠ .event)
    (hscheduler : s ≠ .scheduler) : cfg.tasks.host.Quiet (cfg.stage P K s).2.2.host := by
  have hrecover : cfg.tasks.host.Quiet
      (recoverFirst P K cfg.runtime.recoveryBudget cfg.tasks).2.host := by
    unfold recoverFirst
    split
    · exact rtosRecoveryTaskRunOnce_quiet ..
    · exact .refl _
  have hmonitor : ∀ c : TasksContext, c.host.Quiet (rtosErrorMonitorTaskRunOnce K c).2.host :=
    fun c => (Tasks.Quiet.refl _).congr (rtosErrorMonitorTaskRunOnce_snd K c).1.ipc
  have hcalled : cfg.tasks.host.Quiet (called cfg.tasks).host := ⟨rfl, rfl⟩
  cases s with
  | event => exact absurd rfl hevent
  | scheduler => exact absurd rfl hscheduler
  | preflight =>
    rcases preflightBeforeRxDrain_cases P K cfg.tasks with
      ⟨-, heq⟩ | ⟨-, -, -, heq⟩ | ⟨-, -, heq⟩
    · simp only [stage, heq]
      exact hcalled
    · simp only [stage, heq]
      exact hcalled
    · simp only [stage, heq]
      exact hcalled.trans (hmonitor _)
  | retry =>
    simp only [stage]
    unfold retryFirst
    split
    · exact (retry_givesBack cfg.tasks cfg.runtime.recoveryBudget).quiet
    · exact .refl _
  | recovery => exact hrecover
  | supervision => exact hrecover
  | heartbeat => exact (Tasks.Quiet.refl _).congr (rtosHeartbeatTaskRunOnce_snd K cfg.tasks).1.ipc
  | monitor => exact hmonitor _
  | statistics => exact ⟨rfl, rfl⟩

/-- The header is the same after a stage. -/
theorem stage_header (P : Platform) (K : Clock) (cfg : Config) (s : Stage) :
    (cfg.stage P K s).2.2.host.ipc.region.header = cfg.tasks.host.ipc.region.header := by
  have hof : ∀ {c c' : TasksContext}, c'.host.ipc = c.host.ipc →
      c'.host.ipc.region.header = c.host.ipc.region.header :=
    fun hipc => congrArg (fun ipc : RtosShm => ipc.region.header) hipc
  have hrecover : (recoverFirst P K cfg.runtime.recoveryBudget cfg.tasks).2.host.ipc.region.header =
      cfg.tasks.host.ipc.region.header := by
    unfold recoverFirst
    split
    · exact (rtosRecoveryTaskRunOnce_epoch ..).1
    · rfl
  cases s with
  | preflight =>
    rcases preflightBeforeRxDrain_cases P K cfg.tasks with
      ⟨-, heq⟩ | ⟨-, -, -, heq⟩ | ⟨-, -, heq⟩
    · simp only [stage, heq]
      rfl
    · simp only [stage, heq]
      rfl
    · simp only [stage, heq]
      have hkept := hof (rtosErrorMonitorTaskRunOnce_snd K (called cfg.tasks)).1.ipc
      exact hkept
  | retry =>
    simp only [stage]
    unfold retryFirst
    split
    · exact (retry_givesBack cfg.tasks cfg.runtime.recoveryBudget).steady.header
    · rfl
  | recovery => exact hrecover
  | supervision => exact hrecover
  | event =>
    simp only [stage]
    unfold drainAllowed
    split
    swap
    · rfl
    rcases rtosIpcEventTaskRunOnce_cases P K cfg.tasks (mapIpcTrigger cfg.trigger) with
      ⟨-, hserves⟩ | ⟨-, t, ht, ⟨-, heq⟩ | ⟨-, heq⟩⟩
    · exact hserves.host.header
    · rw [heq]
      exact ht.steady.header
    · rw [heq]
      exact (retry_givesBack { cfg.tasks with host := t } 64).steady.header.trans ht.steady.header
  | scheduler =>
    simp only [stage]
    rcases rtosRouterSchedulerTaskRunOnce_cases P K cfg.tasks cfg.runtime.schedulerBudget with
      ⟨-, heq⟩ | ⟨-, -, heq⟩ | ⟨-, -, heq⟩
    · rw [heq]
      exact (retry_givesBack cfg.tasks cfg.runtime.schedulerBudget).steady.header
    · rw [heq]
    · rw [heq]
      exact (drain_serves cfg.tasks cfg.runtime.schedulerBudget).host.header
  | heartbeat => exact hof (rtosHeartbeatTaskRunOnce_snd K cfg.tasks).1.ipc
  | monitor => exact hof (rtosErrorMonitorTaskRunOnce_snd K cfg.tasks).1.ipc
  | statistics => rfl

end Config

/-! ## Runs -/

/-- The configurations the runs reach in an environment that leaves
regions as `Allowed` only. -/
inductive RuntimeReaches (P : Platform) (K : Clock) (Allowed : Region → Prop) : Config → Prop
  | init {region : Region} {ticks : ℕ} {schedulerBudget recoveryBudget : UInt32} {runtime : Runtime}
      (hregion : Allowed region)
      (hinit : rtosRuntimeInit region ticks schedulerBudget recoveryBudget = .ok runtime) :
      RuntimeReaches P K Allowed { runtime := runtime }
  | call {cfg} (h : RuntimeReaches P K Allowed cfg) (hidle : cfg.left = []) (trigger : RuntimeTrigger)
      (ackResult : UnifiedError) : RuntimeReaches P K Allowed (cfg.begin trigger ackResult)
  | stage {cfg s rest} (h : RuntimeReaches P K Allowed cfg) (hleft : cfg.left = s :: rest) :
      RuntimeReaches P K Allowed (cfg.advance P K s rest)
  | observe {cfg} (h : RuntimeReaches P K Allowed cfg) (hidle : cfg.left = []) (sequence : UInt32) :
      RuntimeReaches P K Allowed (cfg.observe K sequence)
  | environment {cfg} {R : Region} (h : RuntimeReaches P K Allowed cfg) (hR : Allowed R)
      (hheader : cfg.left ≠ [] → R.header = cfg.tasks.host.ipc.region.header) :
      RuntimeReaches P K Allowed (cfg.withRegion R)

variable {Allowed : Region → Prop} {cfg : Config}

/-- **What holds at the start and what every operation and the environment
keep holds in every run.** -/
theorem RuntimeReaches.invariant {I : TasksContext → Prop}
    (hinit : ∀ ipc : RtosShm, ipc.initialized = true → Allowed ipc.region → ∀ ticks,
      I (rtosTasksContextInit ipc ticks))
    (hcalled : ∀ c, I c → I (Config.called c))
    (hop : ∀ c (op : Operation), I c → I (op.run P K c))
    (henv : ∀ c R, Allowed R → I c → I (withRegion c R))
    (h : RuntimeReaches P K Allowed cfg) : I cfg.tasks := by
  induction h with
  | @init region ticks schedulerBudget recoveryBudget runtime hregion hstart =>
    have hkept := rtosShmIpcAttach_region ⟨false, region, 0⟩
    unfold rtosRuntimeInit at hstart
    simp only at hstart
    split at hstart
    · cases hstart
    next hattached =>
    have hready : (rtosShmIpcAttach ⟨false, region, 0⟩).2.initialized = true :=
      rtosShmIpcAttach_initialized _ (not_not.mp hattached)
    obtain rfl := Except.ok.inj hstart
    exact hinit _ hready (hkept.symm ▸ hregion) ticks
  | call _ _ trigger ackResult ih =>
    rw [Config.begin_tasks]
    exact ih
  | stage _ _ ih => exact Config.stage_keeps hcalled hop ih _
  | observe _ _ sequence ih => exact hop _ (.observeLinuxHeartbeat sequence) ih
  | environment _ hR _ ih => exact henv _ _ hR ih

/-- What runs reach in an environment, they reach in one that allows more. -/
theorem RuntimeReaches.mono {Allowed' : Region → Prop} (hmono : ∀ R, Allowed R → Allowed' R)
    (h : RuntimeReaches P K Allowed cfg) : RuntimeReaches P K Allowed' cfg := by
  induction h with
  | init hregion hinit => exact .init (hmono _ hregion) hinit
  | call _ hidle trigger ackResult ih => exact ih.call hidle trigger ackResult
  | stage _ hleft ih => exact ih.stage hleft
  | observe _ hidle sequence ih => exact ih.observe hidle sequence
  | environment _ hR hheader ih => exact ih.environment (hmono _ hR) hheader

/-- Going through all the stages left. -/
theorem RuntimeReaches.finish {l : List Stage} (h : RuntimeReaches P K Allowed cfg)
    (hleft : cfg.left = l) : RuntimeReaches P K Allowed (cfg.finish P K l) := by
  induction l generalizing cfg with
  | nil => exact h
  | cons s rest ih => exact ih (h.stage hleft) rfl

/-- The stages left are the last ones of the call. -/
theorem RuntimeReaches.left_suffix (h : RuntimeReaches P K Allowed cfg) :
    cfg.left <:+ stages cfg.trigger := by
  induction h with
  | init => exact List.nil_suffix
  | call => exact List.suffix_refl _
  | stage _ hleft ih =>
    rw [hleft] at ih
    exact (List.suffix_cons _ _).trans ih
  | observe _ _ _ ih => exact ih
  | environment _ _ _ ih => exact ih

theorem RuntimeReaches.governed (h : RuntimeReaches P K Allowed cfg) : Governed cfg.tasks :=
  h.invariant (fun ipc _ _ ticks => .contextInit ipc ticks) (fun _ hc => hc.withIpc _)
    (fun _ op hc => hc.run op) fun _ _ _ hc => hc.withIpc _

/-- With rings that keep their headers, the books are in order throughout,
and balanced where the platform calls succeed. -/
theorem RuntimeReaches.sound (h : RuntimeReaches P K Region.Valid cfg) :
    Sound cfg.tasks ∧ (P.Succeeds → (ledger cfg.tasks).Balanced) := by
  refine h.invariant (I := fun c => Sound c ∧ (P.Succeeds → (ledger c).Balanced)) ?_ ?_ ?_ ?_
  · intro ipc hinit hv ticks
    exact ⟨.contextInit hinit hv ticks, fun _ f d href => by simp [ledger_contextInit] at href⟩
  · rintro c ⟨⟨hinit, hv, hbooks⟩, hbalanced⟩
    exact ⟨⟨hinit, hv, hbooks⟩, hbalanced⟩
  · rintro c op ⟨hsound, hbalanced⟩
    exact ⟨(hsound.run op).1, fun hP => (hsound.run_balanced hP (hbalanced hP) op).1⟩
  · rintro c R hR ⟨hsound, hbalanced⟩
    exact ⟨hsound.withRegion hR, fun hP f d href => hbalanced hP f d href⟩

/-! ## The runtime on a formatted region -/

/-- The runtime on the region Linux has formatted. -/
def idleConfig : Config where
  runtime :=
    { tasks := rtosTasksContextInit ⟨true, Linux.formatRegion 1 1, 0⟩ 0
      initialized := true
      schedulerBudget := 16
      recoveryBudget := 16 }

theorem idleConfig_init : rtosRuntimeInit (Linux.formatRegion 1 1) 0 0 0 = .ok idleConfig.runtime := by
  have hattach : rtosShmIpcAttach ⟨false, Linux.formatRegion 1 1, 0⟩ =
      (.ok, ⟨true, Linux.formatRegion 1 1, 0⟩) :=
    rtosShmIpcAttach_of_valid (by decide +kernel) (Linux.formatRegion_valid 1 1)
  unfold rtosRuntimeInit
  rw [hattach]
  rfl

theorem idleConfig_reaches : RuntimeReaches P K (fun _ => True) idleConfig :=
  .init trivial idleConfig_init

end Rtos

end PutGateway
