import PutGateway.System.Ownership
/-!
# The two cores on one region

The whole system: Linux's private context, the tasks of the RTOS and the
region between them. A step is one whole operation of either core; a run
is any sequence of steps. Linux may also start again, by formatting the
region or by attaching to it as it is.
-/

namespace PutGateway

namespace System

open Linux Rtos

/-! ## States and steps -/

/-- The two cores. The region is the one the tasks are bound to. -/
structure Gateway where
  linux : LinuxShmIpc
  linuxCalls : ℕ
  rtos : TasksContext

/-- What an operation of Linux works on. -/
def Gateway.shm (g : Gateway) : LinuxShm := ⟨g.linux, g.rtos.host.ipc.region, g.linuxCalls⟩

/-- The region of the two cores. -/
def Gateway.region (g : Gateway) : Region := g.rtos.host.ipc.region

/-- The gateway after an operation of Linux. -/
def Gateway.withShm (g : Gateway) (shm : LinuxShm) : Gateway :=
  ⟨shm.ipc, shm.calls, withRegion g.rtos shm.region⟩

/-- A step of the system. -/
inductive Step
  | linux (op : Linux.Operation)
  | rtos (op : Rtos.Operation)
  | restart (r : Restart)

/-- `P` is the platform of Linux, `Q` that of the RTOS and `K` its clock. -/
def Step.run (P Q : Platform) (K : Clock) (g : Gateway) : Step → Gateway
  | .linux op => g.withShm (op.run P g.shm)
  | .rtos op => { g with rtos := op.run Q K g.rtos }
  | .restart r => g.withShm (r.run g.shm)

/-- A start of both cores: Linux formats the region, the RTOS attaches to
it and initialises its tasks. -/
def boot (linuxEpoch rtosEpoch : UInt32) (shm : LinuxShm) : Gateway :=
  let formatted := (linuxShmIpcFormatRegion shm linuxEpoch rtosEpoch).2
  let attached := (rtosShmIpcAttach { region := formatted.region, initialized := false, calls := 0 }).2
  ⟨formatted.ipc, formatted.calls, rtosTasksContextInit attached 0⟩

/-- The states a run reaches from `g` by steps that are allowed where
they are taken. -/
inductive Reachable (P Q : Platform) (K : Clock) (allowed : Gateway → Step → Prop) (g : Gateway) :
    Gateway → Prop
  | start : Reachable P Q K allowed g g
  | step {g'} (h : Reachable P Q K allowed g g') (s : Step) (hs : allowed g' s) :
      Reachable P Q K allowed g (s.run P Q K g')

variable {P Q : Platform} {K : Clock} {g g' : Gateway} {allowed allowed' : Gateway → Step → Prop}

/-- What holds at the start and survives every allowed step holds in
every reachable state. -/
theorem Reachable.invariant {I : Gateway → Prop} (h : Reachable P Q K allowed g g') (hstart : I g)
    (hstep : ∀ g s, I g → allowed g s → I (s.run P Q K g)) : I g' := by
  induction h with
  | start => exact hstart
  | step _ s hs ih => exact hstep _ s ih hs

/-- The steps of a list are allowed where they are taken. -/
def AllowedRun (P Q : Platform) (K : Clock) (allowed : Gateway → Step → Prop) :
    Gateway → List Step → Prop
  | _, [] => True
  | g, s :: rest => allowed g s ∧ AllowedRun P Q K allowed (s.run P Q K g) rest

instance AllowedRun.decidable [∀ g s, Decidable (allowed g s)] :
    ∀ g l, Decidable (AllowedRun P Q K allowed g l)
  | _, [] => inferInstanceAs (Decidable True)
  | g, s :: rest =>
    have : Decidable (AllowedRun P Q K allowed (s.run P Q K g) rest) := decidable _ rest
    inferInstanceAs (Decidable (allowed g s ∧ AllowedRun P Q K allowed (s.run P Q K g) rest))

/-- A list of allowed steps leads to a reachable state. -/
theorem Reachable.foldl {l : List Step} (h : Reachable P Q K allowed g g')
    (hl : AllowedRun P Q K allowed g' l) : Reachable P Q K allowed g (l.foldl (Step.run P Q K) g') := by
  induction l generalizing g' with
  | nil => exact h
  | cons s rest ih => exact ih (h.step s hl.1) hl.2

/-- The steps of a system that does not start again. -/
def Step.running : Step → Prop
  | .restart _ => False
  | _ => True

instance : (s : Step) → Decidable s.running
  | .linux _ => inferInstanceAs (Decidable True)
  | .rtos _ => inferInstanceAs (Decidable True)
  | .restart _ => inferInstanceAs (Decidable False)

/-! ## The start -/

theorem ledger_withRegion (c : TasksContext) (R : Region) :
    ledger (withRegion c R) = { ledger c with queues := R.view } := rfl

theorem boot_rtos (linuxEpoch rtosEpoch : UInt32) (shm : LinuxShm) :
    (boot linuxEpoch rtosEpoch shm).rtos =
      rtosTasksContextInit ⟨true, formatRegion linuxEpoch rtosEpoch, 0⟩ 0 := by
  have hattach : rtosShmIpcAttach ⟨false, formatRegion linuxEpoch rtosEpoch, 0⟩ =
      (.ok, ⟨true, formatRegion linuxEpoch rtosEpoch, 0⟩) :=
    rtosShmIpcAttach_of_valid rfl (formatRegion_valid linuxEpoch rtosEpoch)
  simp only [boot, linuxShmIpcFormatRegion, hattach]

theorem boot_linux (linuxEpoch rtosEpoch : UInt32) (shm : LinuxShm) :
    (boot linuxEpoch rtosEpoch shm).linux.pool = Pool.fresh := rfl

/-- **A run of the system is a run of the tasks** in the environment that
Linux makes. -/
theorem Reachable.rtos {linuxEpoch rtosEpoch : UInt32} {shm : LinuxShm}
    (h : Reachable P Q K allowed (boot linuxEpoch rtosEpoch shm) g) :
    ∃ seen, Reaches Q K seen g.rtos := by
  induction h with
  | start =>
    rw [boot_rtos]
    exact ⟨_, .init rfl (formatRegion_valid linuxEpoch rtosEpoch) 0⟩
  | @step g _ s _ ih =>
    obtain ⟨seen, hreaches⟩ := ih
    have hvalid := hreaches.sound.valid
    cases s with
    | linux op => exact ⟨_, hreaches.environment (op.moved P hvalid).valid⟩
    | rtos op => exact ⟨_, hreaches.operation op⟩
    | restart r => exact ⟨_, hreaches.environment (r.valid hvalid)⟩

/-! ## Exclusive ownership -/

/-- Both cores are in order, every frame has one owner, and every
descriptor for Linux names a frame. -/
structure Exclusive (g : Gateway) : Prop where
  sound : Sound g.rtos
  owned : Owned g.linux.pool (ledger g.rtos)
  named : AllNamed (ledger g.rtos)

theorem exclusive_boot (linuxEpoch rtosEpoch : UInt32) (shm : LinuxShm) :
    Exclusive (boot linuxEpoch rtosEpoch shm) := by
  have hview := formatRegion_view linuxEpoch rtosEpoch
  have hledger : ledger (boot linuxEpoch rtosEpoch shm).rtos =
      ⟨⟨fun _ => [], fun _ => [], []⟩, fun _ => none, [], [], {}⟩ := by
    rw [boot_rtos, ledger_contextInit, hview]
  refine ⟨?_, ?_, ?_⟩
  · rw [boot_rtos]
    exact .contextInit rfl (formatRegion_valid linuxEpoch rtosEpoch) 0
  · rw [boot_linux, hledger]
    exact .fresh fun f => by simp [inFlight, named]
  · rw [hledger]
    exact ⟨by simp, by simp⟩

/-- **The operations of the RTOS keep ownership exclusive.** -/
theorem Owned.rtos {p : Pool} {c : TasksContext} (h : Owned p (ledger c)) (hc : Sound c)
    (hQ : Q.Succeeds) (op : Rtos.Operation) : Owned p (ledger (op.run Q K c)) := by
  obtain ⟨-, -, -, es, hmoves, hfaults⟩ := hc.run (P := Q) (K := K) op
  exact h.moves hmoves hc.books (hfaults hQ)

theorem Exclusive.rtos (h : Exclusive g) (hQ : Q.Succeeds) (op : Rtos.Operation) :
    Exclusive { g with rtos := op.run Q K g.rtos } := by
  obtain ⟨hsound, -, -, es, hmoves, -⟩ := h.sound.run (P := Q) (K := K) op
  obtain ⟨taken, hdescends⟩ := hmoves.descends h.sound.books
  exact ⟨hsound, h.owned.rtos h.sound hQ op, h.named.descends h.sound.books hdescends⟩

/-- **The operations of Linux keep ownership exclusive**, whatever the
platform calls return. -/
theorem Exclusive.linux (h : Exclusive g) (op : Linux.Operation) :
    Exclusive (g.withShm (op.run P g.shm)) := by
  have hmoved : Moved op.descriptor? g.shm (op.run P g.shm) := op.moved P h.sound.valid
  exact ⟨h.sound.withRegion hmoved.valid, h.owned.poolMove hmoved.move,
    h.named.poolMove hmoved.move⟩

/-- **Every step keeps ownership exclusive**, as long as neither core
starts again. -/
theorem Exclusive.step (h : Exclusive g) (hQ : Q.Succeeds) {s : Step} (hs : s.running) :
    Exclusive (s.run P Q K g) := by
  cases s with
  | linux op => exact h.linux op
  | rtos op => exact h.rtos hQ op
  | restart => exact hs.elim

/-! ## A sample frame -/

/-- A frame for the Ethernet interface: 40 bytes to `0x40000000`, of type
`0x49`. -/
def sampleBlock : FrameBlock := fun i =>
  if i = 0 then 40 else if i = 8 then 0x40 else if i = 38 then 0x49 else 0

/-- Its commit from the CAN interface, trusted, into block 0. -/
def sampleCommit (epoch : UInt32) : Commit where
  frameId := 0
  frameLength := 40
  source := 0
  target := 1
  sourceCid := {}
  destinationCid := { b0 := 0x40 }
  type := 0x49
  priority := 2
  ttl := 0
  epoch := epoch
  flags := 0x1F

end System

end PutGateway
