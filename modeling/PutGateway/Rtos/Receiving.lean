import PutGateway.Rtos.Tasks
/-!
# What receiving keeps

The event task in the normal state goes through iterations, each of which
takes a descriptor off an RX ring, registers it, reads its frame and
submits it to the router. A property of the context that an iteration
keeps, and the counting between iterations, the whole task keeps: the
loops over budget and interfaces are gone through once, here. `Receives`
asks the same of the steps an iteration consists of.
-/

namespace PutGateway

namespace Rtos

variable {P : Platform} {K : Clock} {I : TasksContext → Prop} {c : TasksContext}

/-! ## One iteration of the drain -/

/-- The body of the loop of `drain_rx_interface`: whether the loop goes
on, and the context. -/
def drainStep (P : Platform) (K : Clock) (interfaceId : PutShmInterface) (c : TasksContext) :
    Bool × TasksContext :=
  let r := rtosShmIpcDequeueRxDescriptor P c.host.ipc interfaceId
  let c := { c with host := { c.host with ipc := r.2.2 } }
  if r.1 = .ipcQueueEmpty then (false, c)
  else if r.1 ≠ .ok then (true, { c with host := c.host.countDequeueError })
  else match r.2.1 with
    | none => (false, c)
    | some descriptor => receiveDescriptor P K c descriptor

/-- The loop is its body, over and over. -/
theorem drainRxLoop_succ (interfaceId : PutShmInterface) (n : ℕ) (k : UInt32) (c : TasksContext) :
    (drainRxLoop P K interfaceId (n + 1) k c).2 =
      if c.host.state ≠ .normal then c
      else if (drainStep P K interfaceId c).1 then
        (drainRxLoop P K interfaceId n (k + 1) (drainStep P K interfaceId c).2).2
      else (drainStep P K interfaceId c).2 := by
  rw [drainRxLoop, drainStep]
  by_cases hstate : c.host.state ≠ .normal
  · rw [if_pos hstate, if_pos hstate]
  rw [if_neg hstate, if_neg hstate]
  simp only
  generalize rtosShmIpcDequeueRxDescriptor P c.host.ipc interfaceId = r
  by_cases hempty : r.1 = .ipcQueueEmpty
  · simp only [if_pos hempty, Bool.false_eq_true, if_false]
  simp only [if_neg hempty]
  by_cases hok : r.1 ≠ .ok
  · simp only [if_pos hok, if_true]
  simp only [if_neg hok]
  cases r.2.1 with
  | none => simp only [Bool.false_eq_true, if_false]
  | some d =>
    simp only
    split
    · rfl
    · rfl

/-- An iteration whose dequeue fails changes counters only, but for what
the dequeue did. -/
theorem drainStep_of_ne_ok (id : PutShmInterface)
    (hne : (rtosShmIpcDequeueRxDescriptor P c.host.ipc id).1 ≠ .ok) :
    (drainStep P K id c).2.host.ipc = (rtosShmIpcDequeueRxDescriptor P c.host.ipc id).2.2 ∧
      (drainStep P K id c).2.host.frameReferences = c.host.frameReferences := by
  simp only [drainStep, if_pos hne]
  split
  · exact ⟨rfl, rfl⟩
  · exact ⟨rfl, rfl⟩

/-- One whose dequeue succeeds goes on with the descriptor. -/
theorem drainStep_of_ok (id : PutShmInterface) {d : Descriptor}
    (hok : (rtosShmIpcDequeueRxDescriptor P c.host.ipc id).1 = .ok)
    (hsome : (rtosShmIpcDequeueRxDescriptor P c.host.ipc id).2.1 = some d) :
    drainStep P K id c = receiveDescriptor P K
      { c with host := { c.host with ipc := (rtosShmIpcDequeueRxDescriptor P c.host.ipc id).2.2 } }
        d := by
  simp only [drainStep, hok, hsome]
  rfl

/-! ## What iterations keep -/

/-- What the event task does to the host between iterations. -/
inductive IdleStep (P : Platform) : Tasks → Tasks → Prop
  | count (t : Tasks) (statistics : TasksStatistics) :
      IdleStep P t { t with statistics := statistics }
  | doorbell (t : Tasks) : IdleStep P t t.countDoorbell
  | snapshot (t : Tasks) :
      IdleStep P t { t with ipc := (rtosShmIpcGetRxPendingSnapshot P t.ipc).2.2 }

/-- The iterations of the event task, and what it does between them, keep
a property of the context. -/
structure Iterates (P : Platform) (K : Clock) (I : TasksContext → Prop) : Prop where
  idle : ∀ {router : RouterContext} {t t' : Tasks}, IdleStep P t t' → I ⟨router, t⟩ → I ⟨router, t'⟩
  iteration : ∀ {c : TasksContext} {i : Fin 6}, I c → c.host.state = .normal →
    I (drainStep P K (interfaceOfIndex i) c).2

namespace Iterates

theorem drainRxLoop (hI : Iterates P K I) (h : I c) (i : Fin 6) (n : ℕ) (k : UInt32) :
    I (drainRxLoop P K (interfaceOfIndex i) n k c).2 := by
  induction n generalizing c k with
  | zero => exact h
  | succ n ih =>
    rw [drainRxLoop_succ]
    by_cases hnormal : c.host.state = .normal
    · rw [if_neg (not_not.mpr hnormal)]
      have hnext : I (drainStep P K (interfaceOfIndex i) c).2 := hI.iteration h hnormal
      split
      · exact ih hnext _
      · exact hnext
    · rw [if_pos hnormal]
      exact h

theorem drainRxInterface (hI : Iterates P K I) (h : I c) (i : Fin 6) (budget : UInt32) :
    I (drainRxInterface P K c (interfaceOfIndex i) budget).2 :=
  hI.idle (.count (Rtos.drainRxLoop P K (interfaceOfIndex i) budget.toNat 0 c).2.host _)
    (hI.drainRxLoop h i budget.toNat 0)

theorem eventLoop (hI : Iterates P K I) (h : I c) (trigger : IpcEventTrigger) (bits : UInt32)
    (l : List (Fin 6)) (k : UInt32) : I (eventLoop P K trigger bits l k c).2 := by
  induction l generalizing c k with
  | nil => exact h
  | cons i rest ih =>
    rw [Rtos.eventLoop]
    by_cases hdone : 64 - k = 0
    · rw [if_pos hdone]
      exact h
    rw [if_neg hdone]
    by_cases hskip : (trigger = .doorbell && bits &&& (1 <<< UInt32.ofNat i) = 0) = true
    · rw [if_pos hskip]
      exact ih h k
    rw [if_neg hskip]
    have hdrained := hI.drainRxInterface h i (if 8 > 64 - k then 64 - k else 8)
    generalize Rtos.drainRxInterface P K c (interfaceOfIndex i)
      (if 8 > 64 - k then 64 - k else 8) = r at hdrained ⊢
    simp only
    split
    · exact hdrained
    · exact ih hdrained _

/-- **The event task in the normal state** keeps what its iterations
keep. -/
theorem eventTask (hI : Iterates P K I) (h : I c) (hnormal : c.host.state = .normal)
    (trigger : IpcEventTrigger) : I (rtosIpcEventTaskRunOnce P K c trigger).2 := by
  have hcounted : I (if trigger = .doorbell then { c with host := c.host.countDoorbell } else c) ∧
      (if trigger = .doorbell then { c with host := c.host.countDoorbell } else c).host.state =
        .normal := by
    split
    · exact ⟨hI.idle (.doorbell c.host) h, hnormal⟩
    · exact ⟨h, hnormal⟩
  unfold rtosIpcEventTaskRunOnce
  generalize (if trigger = .doorbell then ({ c with host := c.host.countDoorbell } : TasksContext)
    else c) = c' at hcounted ⊢
  obtain ⟨hc', hnormal'⟩ := hcounted
  simp only
  rw [if_neg (not_not.mpr hnormal')]
  split
  · have hread := hI.idle (.snapshot c'.host) hc'
    split
    · next result ipc heq =>
      rw [heq] at hread
      exact hread
    · next result bits ipc heq =>
      rw [heq] at hread
      exact hI.eventLoop (hI.idle (.count { c'.host with ipc := ipc } _) hread) _ _ _ _
  · exact hI.eventLoop hc' _ _ _ _

end Iterates

/-! ## What the steps of an iteration keep -/

/-- A step of the event task on the host. -/
inductive ReceiveStep (P : Platform) (K : Clock) : Tasks → Tasks → Prop
  | count (t : Tasks) (statistics : TasksStatistics) :
      ReceiveStep P K t { t with statistics := statistics }
  | doorbell (t : Tasks) : ReceiveStep P K t t.countDoorbell
  | tick (t : Tasks) : ReceiveStep P K t (tasksNow K t).2
  | take (t : Tasks) (i : PutShmInterface) :
      ReceiveStep P K t { t with ipc := (rtosShmIpcDequeueRxDescriptor P t.ipc i).2.2 }
  | read (t : Tasks) (d : Descriptor) (nowMs : UInt32) :
      ReceiveStep P K t
        { t with ipc := (rtosRouterAdapterDescriptorToInput P t.ipc d nowMs).2.2 }
  | snapshot (t : Tasks) :
      ReceiveStep P K t { t with ipc := (rtosShmIpcGetRxPendingSnapshot P t.ipc).2.2 }
  | register (t : Tasks) (d : Descriptor) : ReceiveStep P K t (registerFrameReference t d).2
  | clear (t : Tasks) (frameId : UInt32) : ReceiveStep P K t (clearFrameReference t frameId)

/-- The steps of the event task keep a property of the context. -/
structure Receives (P : Platform) (K : Clock) (I : TasksContext → Prop) : Prop where
  step : ∀ {router : RouterContext} {t t' : Tasks}, ReceiveStep P K t t' → I ⟨router, t⟩ →
    I ⟨router, t'⟩
  submit : ∀ {c : TasksContext} (input : RouteInput), I c →
    I (rtosRouterSubmit (tasksSinks P K) c input).2

namespace Receives

theorem receiveDescriptor (hI : Receives P K I) (h : I c) (d : Descriptor) :
    I (receiveDescriptor P K c d).2 := by
  unfold Rtos.receiveDescriptor
  have hcounted : I ⟨c.router, c.host.countRxDescriptor⟩ := hI.step (.count c.host _) h
  have hregistered := hI.step (.register _ d) hcounted
  generalize registerFrameReference c.host.countRxDescriptor d = r at hregistered ⊢
  simp only
  split
  · exact hI.step (.count r.2 _) hregistered
  have hread := hI.step (.read _ d (tasksNow K r.2).1) (hI.step (.tick r.2) hregistered)
  generalize rtosRouterAdapterDescriptorToInput P (tasksNow K r.2).2.ipc d (tasksNow K r.2).1 = a
    at hread ⊢
  split
  · have hcounted : I ⟨c.router, ({ (tasksNow K r.2).2
      with ipc := a.2.2 } : Tasks).countAdapterError⟩ :=
      hI.step (.count { (tasksNow K r.2).2 with ipc := a.2.2 } _) hread
    exact hI.step (.clear _ _) hcounted
  next input _ =>
  have hsubmitted := hI.submit input hread
  split
  · exact hsubmitted
  · exact hI.step (.count (rtosRouterSubmit (tasksSinks P K) _ input).2.host _) hsubmitted

/-- An iteration is its steps. -/
theorem iterates (hI : Receives P K I) : Iterates P K I where
  idle hstep h := by
    cases hstep with
    | count statistics => exact hI.step (.count _ statistics) h
    | doorbell => exact hI.step (.doorbell _) h
    | snapshot => exact hI.step (.snapshot _) h
  iteration {c i} h _ := by
    unfold drainStep
    have htaken := hI.step (.take c.host (interfaceOfIndex i)) h
    simp only
    generalize rtosShmIpcDequeueRxDescriptor P c.host.ipc (interfaceOfIndex i) = r at htaken ⊢
    split
    · exact htaken
    split
    · exact hI.step (.count { c.host with ipc := r.2.2 } _) htaken
    split
    · exact htaken
    · next d _ => exact hI.receiveDescriptor htaken d

/-- **The event task in the normal state** keeps what its steps keep. -/
theorem eventTask (hI : Receives P K I) (h : I c) (hnormal : c.host.state = .normal)
    (trigger : IpcEventTrigger) : I (rtosIpcEventTaskRunOnce P K c trigger).2 :=
  hI.iterates.eventTask h hnormal trigger

end Receives

end Rtos

end PutGateway
