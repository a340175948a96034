import PutGateway.Rtos.Fencing
import PutGateway.Rtos.Routing
/-!
# The TX rings follow the route table

The tasks install a route table when they are initialised, and recovery
installs the default one only where there is none. `RoutedTasks` says of
a context that one table is installed, that what is queued goes where it
sends it, and that what is unread on the TX rings went there: every
operation of the tasks keeps it.
-/

namespace PutGateway

namespace Rtos

variable {P : Platform} {K : Clock} {t t' : Tasks} {c c' : TasksContext} {table : RouteTable}

/-- What is unread on a TX ring is where the table sends it. -/
def Tasks.SendsOn (table : RouteTable) (t : Tasks) : Prop :=
  ∀ i, ∀ d ∈ t.ipc.region.view.tx i, table.Names d.destinationCid (interfaceOfIndex i)

theorem Tasks.SendsOn.congr (h : t.SendsOn table)
    (htx : t'.ipc.region.txRings = t.ipc.region.txRings) : t'.SendsOn table := by
  intro i d hd
  have hview : t'.ipc.region.view.tx i = t.ipc.region.view.tx i :=
    congrArg Ring.unread (congrFun htx i)
  rw [hview] at hd
  exact h i d hd

/-- **The sinks of the tasks**, for outputs on their route. -/
theorem sendsOn_preserve (table : RouteTable) :
    SinksPreserve (tasksSinks P K) (fun o => table.Names o.destinationCid o.targetInterface)
      (Tasks.SendsOn table) where
  now h := h
  reclaim h := h.congr (rtosTasksReclaimSink_served ..).2.txRings
  tx {t output} hnames h := by
    change (rtosTasksTxSink P output t).2.SendsOn table
    unfold rtosTasksTxSink
    split
    · exact h
    split
    · exact h
    next f _ =>
    split
    · exact h
    have happends := rtosShmIpcEnqueueTxDescriptor_appends (P := P) t.ipc output.targetInterface
      (fillTxDescriptor (t.frameReferences f).descriptor output)
    simp only
    generalize rtosShmIpcEnqueueTxDescriptor P t.ipc output.targetInterface
      (fillTxDescriptor (t.frameReferences f).descriptor output) = r at happends ⊢
    have hsent : ∀ t' : Tasks, t'.ipc = r.2 → t'.SendsOn table := by
      intro t' hipc i d hd
      obtain ⟨ds, hds, hof⟩ := happends i
      rw [hipc, hds] at hd
      rcases List.mem_append.mp hd with hd | hd
      · exact h i d hd
      · obtain ⟨rfl, htarget⟩ := hof d hd
        rw [Descriptor.destinationCid_sealed, ← htarget]
        exact hnames
    split
    · exact hsent _ clearFrameReference_ipc
    · exact hsent _ rfl

/-- The tasks with a table installed. -/
def RoutedTasks (table : RouteTable) (c : TasksContext) : Prop :=
  Routed table (OnRoute table) (Tasks.SendsOn table) c

theorem RoutedTasks.contextInit (ipc : RtosShm) (ticks : ℕ)
    (hempty : ∀ i, ipc.region.view.tx i = []) :
    RoutedTasks rtosRouterRouteTableDefault (rtosTasksContextInit ipc ticks) := by
  refine ⟨rfl, fun x hx => absurd hx List.not_mem_nil, fun i d hd => ?_⟩
  have hd' : d ∈ ipc.region.view.tx i := hd
  rw [hempty i] at hd'
  cases hd'

/-- A step that leaves the table, the queue and the TX rings. -/
theorem RoutedTasks.steady (h : RoutedTasks table c)
    (htable : c'.router.routeTable = c.router.routeTable)
    (hqueue : c'.router.queue = c.router.queue)
    (htx : c'.host.ipc.region.txRings = c.host.ipc.region.txRings) : RoutedTasks table c' :=
  h.congr htable hqueue (h.host.congr htx)

/-- The steps of the event task. -/
theorem routedTasks_receives (table : RouteTable) : Receives P K (RoutedTasks table) where
  step hstep h := h.steady rfl rfl hstep.txRings
  submit input h := h.submit (onRoute_rules table) (sendsOn_preserve table) input

theorem RoutedTasks.retry (h : RoutedTasks table c) (budget : UInt32) :
    RoutedTasks table { c with host := (rtosTasksRetryPendingReclaims P K c.host budget).2 } :=
  h.steady rfl rfl (retry_givesBack c budget).quiet.txRings

theorem RoutedTasks.eventTask (h : RoutedTasks table c) (trigger : IpcEventTrigger) :
    RoutedTasks table (rtosIpcEventTaskRunOnce P K c trigger).2 := by
  rcases rtosIpcEventTaskRunOnce_cases P K c trigger with
    ⟨hnormal, -⟩ | ⟨-, t, ht, ⟨-, heq⟩ | ⟨-, heq⟩⟩
  · exact (routedTasks_receives table).eventTask h hnormal trigger
  · rw [heq]
    exact h.steady rfl rfl ht.quiet.txRings
  · rw [heq]
    have ht' : RoutedTasks table { c with host := t } := h.steady rfl rfl ht.quiet.txRings
    exact ht'.retry 64

theorem RoutedTasks.schedulerTask (h : RoutedTasks table c) (budget : UInt32) :
    RoutedTasks table (rtosRouterSchedulerTaskRunOnce P K c budget).2 := by
  unfold rtosRouterSchedulerTaskRunOnce
  split
  · exact h.retry budget
  split
  · exact h
  · have hdrained := Routed.drain (onRoute_rules table)
      (sendsOn_preserve (P := P) (K := K) table) h budget
    exact RoutedTasks.steady hdrained rfl rfl rfl

theorem RoutedTasks.recoverFrames (h : RoutedTasks table c) (budget : UInt32) :
    RoutedTasks table (recoverFrames P K c budget).2 := by
  refine recoverFrames_keeps (I := RoutedTasks table) ?_ ?_ ?_ h budget
  · intro c budget h
    exact h.retry budget
  · intro c budget h
    exact Routed.reclaimQueued (sendsOn_preserve (P := P) (K := K) table) h .queueFull budget
  · intro c budget h _
    exact h.steady rfl rfl (orphanLoop_serves ..).2.txRings

/-- Recovery installs a table only where there is none. -/
theorem finishRecovery_routeTable (hvalid : c.router.routeTable.valid = true) :
    (finishRecovery K c).router.routeTable = c.router.routeTable := by
  unfold finishRecovery
  simp only
  split
  · rfl
  · simp only [rtosStatisticsTaskRunOnce]
    split
    · rfl
    · next hnone => exact absurd hvalid hnone

theorem RoutedTasks.recoveryTask (h : RoutedTasks table c) (hvalid : table.valid = true)
    (budget : UInt32) : RoutedTasks table (rtosRecoveryTaskRunOnce P K c budget).2 := by
  have hstarted : RoutedTasks table (startRecovery c) :=
    h.steady rfl rfl (by rw [(startRecovery_frames c).1])
  have hrecovered : RoutedTasks table (recoveredFrames P K c budget) := hstarted.recoverFrames budget
  rcases rtosRecoveryTaskRunOnce_cases P K c budget with
    ⟨-, -, heq⟩ | ⟨-, ⟨-, heq⟩ | ⟨-, -, heq⟩ | ⟨-, -, -, heq⟩⟩
  · rw [heq]
    exact h
  · rw [heq]
    exact hrecovered.steady rfl rfl rfl
  · rw [heq]
    exact hrecovered.steady rfl rfl rfl
  · rw [heq]
    obtain ⟨hqueue, -, -, hregion⟩ := finishRecovery_frames K (recoveredFrames P K c budget)
    have hkept : (recoveredFrames P K c budget).router.routeTable.valid = true := by
      rw [hrecovered.table]
      exact hvalid
    exact hrecovered.steady (finishRecovery_routeTable hkept) hqueue (congrArg Region.txRings hregion)

theorem RoutedTasks.environment (h : RoutedTasks table c) {R : Region}
    (htx : ∀ i, R.view.tx i ⊆ c.host.ipc.region.view.tx i) : RoutedTasks table (withRegion c R) :=
  ⟨h.table, h.items, fun i d hd => h.host i d (htx i hd)⟩

/-- **Every operation of the tasks keeps the table**, and sends by it. -/
theorem RoutedTasks.run (h : RoutedTasks table c) (hvalid : table.valid = true) (op : Operation) :
    RoutedTasks table (op.run P K c) := by
  cases op with
  | eventTask trigger => exact h.eventTask trigger
  | schedulerTask budget => exact h.schedulerTask budget
  | retryPendingReclaims budget => exact h.retry budget
  | heartbeatTask =>
    obtain ⟨hhost, hqueue⟩ := rtosHeartbeatTaskRunOnce_snd K c
    exact h.steady (rtosHeartbeatTaskRunOnce_control K c).1.routeTable hqueue
      (congrArg (fun s => s.region.txRings) hhost.ipc)
  | errorMonitorTask =>
    have hrouter := (rtosErrorMonitorTaskRunOnce_control K c).1
    obtain ⟨hhost, hqueue⟩ := rtosErrorMonitorTaskRunOnce_snd K c
    exact h.steady (congrArg RouterContext.routeTable hrouter) hqueue
      (congrArg (fun s => s.region.txRings) hhost.ipc)
  | recoveryTask budget => exact h.recoveryTask hvalid budget
  | statisticsTask => exact h.steady rfl rfl rfl
  | observeLinuxHeartbeat sequence => exact h.steady rfl rfl rfl

end Rtos

end PutGateway
