import PutGateway.Rtos.RouterLedger
import PutGateway.Rtos.Routing
/-!
# Route table updates

`rtos_router_set_route_table` checks that a table is valid and that its
CRC, where it has one, is right; it looks at neither the version nor the
epoch, nor at how wide the targets are.

`routeTable_updates` is what holds of every run in which each table that
is installed is no older than the one before, and sends the items queued
under its own epoch where they are already going. `targets_lt_six_iff`
says of which tables no run lets a target out of range into the queue or
to the TX sink.
-/

namespace PutGateway

namespace Rtos

variable {H : Type} {S : RouterSinks H}

/-! ## Installing a table -/

/-- The tables that `rtos_router_set_route_table` installs. -/
def RouteTable.Installs (table : RouteTable) : Prop :=
  table.valid = true ∧ rtosRouterRouteTableCrcIsValid table = true

instance (table : RouteTable) : Decidable table.Installs :=
  inferInstanceAs (Decidable (_ ∧ _))

/-- **A table is installed or refused**, and the queue stays. -/
theorem rtosRouterSetRouteTable_cases (router : RouterContext) (table : RouteTable) :
    (table.Installs ∧
      rtosRouterSetRouteTable router table = (.ok, { router with routeTable := table })) ∨
    (¬ table.Installs ∧ (rtosRouterSetRouteTable router table).1 ≠ .ok ∧
      (rtosRouterSetRouteTable router table).2.routeTable = router.routeTable ∧
      (rtosRouterSetRouteTable router table).2.queue = router.queue) := by
  unfold rtosRouterSetRouteTable RouteTable.Installs
  cases table.valid with
  | false => exact .inr ⟨by simp, by simp, rfl, rfl⟩
  | true =>
    cases rtosRouterRouteTableCrcIsValid table with
    | false => exact .inr ⟨by simp, by simp, rfl, rfl⟩
    | true => exact .inl ⟨⟨rfl, rfl⟩, rfl⟩

/-- A relation between the states around every call of a run. -/
def EachCall (S : RouterSinks H) (R : RouterCall → Hosted H → Hosted H → Prop) :
    List RouterCall → Hosted H → Prop
  | [], _ => True
  | call :: calls, s => R call s (call.run S s) ∧ EachCall S R calls (call.run S s)

/-! ## The update law -/

/-- What was logged past `log` are TX outputs on the routes of the table,
and reclaims. -/
def SentOnRoute (table : RouteTable) (log : List Emission) (j : Journal H) : Prop :=
  ∃ new, j.log = log ++ new ∧ ∀ o result now, Emission.tx o result now ∈ new →
    table.Names o.destinationCid o.targetInterface

theorem SentOnRoute.snoc {table : RouteTable} {log : List Emission} {j j' : Journal H} {e : Emission}
    (h : SentOnRoute table log j) (hlog : j'.log = j.log ++ [e])
    (he : ∀ o result now, e = .tx o result now → table.Names o.destinationCid o.targetInterface) :
    SentOnRoute table log j' := by
  obtain ⟨new, hnew, hroute⟩ := h
  refine ⟨new ++ [e], by rw [hlog, hnew, List.append_assoc], ?_⟩
  intro o result now ho
  rcases List.mem_append.mp ho with ho | ho
  · exact hroute o result now ho
  · exact he o result now (List.mem_singleton.mp ho).symm

theorem sentOnRoute_preserve (S : RouterSinks H) (table : RouteTable) (log : List Emission) :
    SinksPreserve S.journal (fun o => table.Names o.destinationCid o.targetInterface)
      (SentOnRoute table log) where
  now h := h
  tx hout h := h.snoc rfl fun o result now heq => by
    injection heq with ho
    rw [← ho]
    exact hout
  reclaim h := h.snoc rfl fun o result now heq => by cases heq

/-- Items go where the installed table sends them. -/
def QueueOnRoute (s : Hosted H) : Prop :=
  ∀ x ∈ s.router.queue.items, OnRoute s.router.routeTable x

/-- A table that is installed is no older than the one before, and sends
the items queued under its epoch where they are going. -/
def Timely (call : RouterCall) (s _ : Hosted H) : Prop :=
  ∀ table, call = .setRouteTable table → table.Installs →
    s.router.routeTable.routeVersion ≤ table.routeVersion ∧
      ∀ x ∈ s.router.queue.items, OnRoute table x

/-- **The update law**, from before a call to after it. -/
structure UpdateLaw (call : RouterCall) (s s' : Hosted (Journal H)) : Prop where
  /-- A rejected table leaves the installed one. -/
  rejected : ∀ table, call = .setRouteTable table →
    (rtosRouterSetRouteTable s.router table).1 ≠ .ok → s'.router.routeTable = s.router.routeTable
  /-- The version does not decrease. -/
  version : s.router.routeTable.routeVersion ≤ s'.router.routeTable.routeVersion
  /-- Every TX output goes where the installed table sends it. -/
  routed : SentOnRoute s'.router.routeTable s.host.log s'.host

/-- The calls other than the installation of a table keep it, and items
and outputs on its routes. -/
theorem QueueOnRoute.routed {s : Hosted (Journal H)} (h : QueueOnRoute s) (call : RouterCall)
    (hcall : ∀ table, call ≠ .setRouteTable table) :
    Routed s.router.routeTable (OnRoute s.router.routeTable)
      (SentOnRoute s.router.routeTable s.host.log) (call.run S.journal s) := by
  have hR := onRoute_rules s.router.routeTable
  have hS := sentOnRoute_preserve S s.router.routeTable s.host.log
  have h0 : Routed s.router.routeTable (OnRoute s.router.routeTable)
      (SentOnRoute s.router.routeTable s.host.log) s := by
    refine ⟨rfl, h, [], by rw [List.append_nil], ?_⟩
    intro o result now ho
    cases ho
  cases call with
  | submit input => exact h0.submit hR hS input
  | scheduleOnce => exact h0.scheduleOnce hR hS
  | drain budget => exact h0.drain hR hS budget
  | reclaimQueued reason budget => exact h0.reclaimQueued hS reason budget
  | setLinuxEpoch linuxEpoch => exact h0.congr rfl rfl h0.host
  | setRouteTable table => exact absurd rfl (hcall table)

/-- **One call.** -/
theorem QueueOnRoute.call {s : Hosted (Journal H)} (h : QueueOnRoute s) {call : RouterCall}
    (ht : Timely call s (call.run S.journal s)) :
    UpdateLaw call s (call.run S.journal s) ∧ QueueOnRoute (call.run S.journal s) := by
  by_cases hset : ∃ table, call = .setRouteTable table
  · obtain ⟨table, rfl⟩ := hset
    -- nothing is logged
    have hnothing : ∀ table', SentOnRoute table' s.host.log s.host := by
      intro table'
      refine ⟨[], (List.append_nil _).symm, ?_⟩
      intro o result now ho
      cases ho
    have hrun : (RouterCall.setRouteTable table).run S.journal s =
        { s with router := (rtosRouterSetRouteTable s.router table).2 } := rfl
    rw [hrun]
    rcases rtosRouterSetRouteTable_cases s.router table with ⟨hin, heq⟩ | ⟨-, -, htable, hqueue⟩
    · obtain ⟨hversion, hitems⟩ := ht table rfl hin
      rw [heq]
      refine ⟨⟨?_, hversion, hnothing table⟩, hitems⟩
      intro table' htable' hrefused
      obtain rfl := RouterCall.setRouteTable.inj htable'
      rw [heq] at hrefused
      exact absurd rfl hrefused
    · refine ⟨⟨fun _ _ _ => htable, ?_, ?_⟩, ?_⟩
      · exact UInt32.le_of_eq (congrArg RouteTable.routeVersion htable).symm
      · exact hnothing _
      · intro x hx
        simp only [hqueue] at hx
        simp only [htable]
        exact h x hx
  · have hcall : ∀ table, call ≠ .setRouteTable table := fun table heq => hset ⟨table, heq⟩
    obtain ⟨htable, hitems, hsent⟩ := h.routed (S := S) call hcall
    refine ⟨⟨?_, ?_, ?_⟩, ?_⟩
    · intro table heq
      exact absurd heq (hcall table)
    · rw [htable]
      exact UInt32.le_refl _
    · rw [htable]
      exact hsent
    · unfold QueueOnRoute
      rw [htable]
      exact hitems

theorem QueueOnRoute.run {s : Hosted (Journal H)} (h : QueueOnRoute s) {calls : List RouterCall}
    (ht : EachCall S.journal Timely calls s) : EachCall S.journal UpdateLaw calls s := by
  induction calls generalizing s with
  | nil => trivial
  | cons call calls ih =>
    obtain ⟨hcall, hrest⟩ := ht
    obtain ⟨hlaw, hnext⟩ := h.call hcall
    exact ⟨hlaw, ih hnext hrest⟩

/-- Sinks that take everything, and a clock that stands still. -/
def quietSinks : RouterSinks Unit := ⟨none, none, fun h => (0, h)⟩

/-- A frame for an address of a segment's first byte. -/
def inputFor (firstByte : UInt8) : RouteInput where
  frameId := 0
  sourceInterface := putShmInterfaceCan
  sourceCid := ⟨0x20, 0, 0, 0⟩
  destinationCid := ⟨firstByte, 0, 0, 0⟩
  type := 1
  priority := 0
  ttl := 0
  trust := .authOk
  epoch := 1
  flags := 0
  receiveTimeMs := 0
  frameLocalTime := 0
  anymsgHeaderValid := true

/-- The default routes, of another version and epoch, with CAN addresses
sent to an interface. -/
def sampleTable (routeVersion activeRouteEpoch : UInt32) (canTarget : PutShmInterface) :
    RouteTable where
  routeVersion := routeVersion
  activeRouteEpoch := activeRouteEpoch
  valid := true
  cidSegmentTargets
    | .can => canTarget
    | segment => rtosRouterRouteTableDefault.cidSegmentTargets segment

/-- No target of an address that is routed is out of range with low eight
bits that are in range. -/
def RouteTable.TargetsFit (table : RouteTable) : Prop :=
  ∀ segment, segment ≠ .reservedLow → segment ≠ .reservedHigh →
    interfaceIsValid (table.cidSegmentTargets segment) = true → table.cidSegmentTargets segment < 6

/-- Every target in the queue or handed to the TX sink is an index. -/
structure TargetsInRange (s : Hosted (Journal H)) : Prop where
  queued : ∀ x ∈ s.router.queue.items, x.targetInterface < 6
  sent : ∀ o result now, Emission.tx o result now ∈ s.host.log → o.targetInterface < 6

theorem RouteTable.Names.lookup {table : RouteTable} {cid : Cid} {target : PutShmInterface}
    (h : table.Names cid target) :
    anymsgCidSegmentFromFirstByte cid.b0 ≠ .reservedLow ∧
      anymsgCidSegmentFromFirstByte cid.b0 ≠ .reservedHigh ∧
      interfaceIsValid (table.cidSegmentTargets (anymsgCidSegmentFromFirstByte cid.b0)) = true ∧
      target = table.cidSegmentTargets (anymsgCidSegmentFromFirstByte cid.b0) := by
  unfold RouteTable.Names rtosRouterRouteTableLookup at h
  simp only at h
  split at h
  · cases h
  split at h
  · cases h
  next hreserved =>
  split at h
  · cases h
  next hvalid =>
  simp only [Bool.or_eq_true, decide_eq_true_eq, not_or] at hreserved
  exact ⟨hreserved.1, hreserved.2, by simpa using hvalid, (Except.ok.inj h).symm⟩

/-- Where the targets fit, so does every interface the table names. -/
theorem RouteTable.TargetsFit.lt {table : RouteTable} (h : table.TargetsFit) {cid : Cid}
    {target : PutShmInterface} (hnames : table.Names cid target) : target < 6 := by
  obtain ⟨hlow, hhigh, hvalid, rfl⟩ := hnames.lookup
  exact h _ hlow hhigh hvalid

theorem targetsFit_rules {table : RouteTable} (h : table.TargetsFit) :
    RouteRules table (fun x => x.targetInterface < 6) fun o => o.targetInterface < 6 where
  filled _ hnames := h.lt hnames
  planned := by
    intro x y nowMs readMs n hx hy
    unfold plannedItem at hy
    split at hy
    · cases hy
    split at hy
    · split at hy
      · cases hy
      · next target hlookup =>
        obtain rfl := Option.some.inj hy
        exact h.lt (show table.Names x.destinationCid target from hlookup)
    · obtain rfl := Option.some.inj hy
      exact hx

/-- The TX outputs in a log are in range. -/
def SentInRange (j : Journal H) : Prop :=
  ∀ o result now, Emission.tx o result now ∈ j.log → o.targetInterface < 6

theorem sentInRange_preserve (S : RouterSinks H) :
    SinksPreserve S.journal (fun o => o.targetInterface < 6) SentInRange where
  now h := h
  tx hout h := by
    intro o result now ho
    rcases List.mem_append.mp ho with ho | ho
    · exact h o result now ho
    · injection List.mem_singleton.mp ho with heq
      rw [heq]
      exact hout
  reclaim h := by
    intro o result now ho
    rcases List.mem_append.mp ho with ho | ho
    · exact h o result now ho
    · cases List.mem_singleton.mp ho

/-- **One call**, which may install only tables whose targets fit. -/
theorem TargetsInRange.run {s : Hosted (Journal H)} (h : TargetsInRange s)
    (hfit : s.router.routeTable.TargetsFit) {call : RouterCall}
    (hcall : ∀ table, call = .setRouteTable table → table.Installs → table.TargetsFit) :
    TargetsInRange (call.run S.journal s) ∧ (call.run S.journal s).router.routeTable.TargetsFit := by
  have hR := targetsFit_rules hfit
  have hS := sentInRange_preserve S
  have h0 : Routed s.router.routeTable (fun x => x.targetInterface < 6) SentInRange s :=
    ⟨rfl, h.queued, h.sent⟩
  have hdone : ∀ {s' : Hosted (Journal H)},
      Routed s.router.routeTable (fun x => x.targetInterface < 6) SentInRange s' →
      TargetsInRange s' ∧ s'.router.routeTable.TargetsFit := by
    intro s' h'
    refine ⟨⟨h'.items, h'.host⟩, ?_⟩
    rw [h'.table]
    exact hfit
  cases call with
  | submit input => exact hdone (h0.submit hR hS input)
  | scheduleOnce => exact hdone (h0.scheduleOnce hR hS)
  | drain budget => exact hdone (h0.drain hR hS budget)
  | reclaimQueued reason budget => exact hdone (h0.reclaimQueued hS reason budget)
  | setLinuxEpoch linuxEpoch => exact hdone (h0.congr rfl rfl h0.host)
  | setRouteTable table =>
    have hrun : (RouterCall.setRouteTable table).run S.journal s =
        { s with router := (rtosRouterSetRouteTable s.router table).2 } := rfl
    rw [hrun]
    rcases rtosRouterSetRouteTable_cases s.router table with ⟨hin, heq⟩ | ⟨-, -, htable, hqueue⟩
    · rw [heq]
      exact ⟨⟨h.queued, h.sent⟩, hcall table rfl hin⟩
    · exact hdone (h0.congr htable hqueue h0.host)

theorem TargetsInRange.runCalls {s : Hosted (Journal H)} (h : TargetsInRange s)
    (hfit : s.router.routeTable.TargetsFit) {calls : List RouterCall}
    (hcalls : ∀ table, .setRouteTable table ∈ calls → table.Installs → table.TargetsFit) :
    TargetsInRange (runCalls S.journal calls s) := by
  induction calls generalizing s with
  | nil => exact h
  | cons call calls ih =>
    have hcall : ∀ table, call = .setRouteTable table → table.Installs → table.TargetsFit := by
      intro table heq
      exact hcalls table (heq ▸ List.mem_cons_self)
    obtain ⟨hnext, hfit'⟩ := h.run (S := S) hfit hcall
    exact ih hnext hfit' fun table ht => hcalls table (List.mem_cons_of_mem call ht)

theorem default_targetsFit : rtosRouterRouteTableDefault.TargetsFit := by
  intro segment
  cases segment <;> decide

/-- A first byte of a segment's addresses. -/
def sampleByte : AnymsgCidSegment → UInt8
  | .reservedLow => 0
  | .can => 0x20
  | .ethernet => 0x40
  | .wifi => 0x60
  | .bluetooth => 0x80
  | .fourG => 0xA0
  | .rs485 => 0xC0
  | .reservedHigh => 0xE0

theorem segment_sampleByte (segment : AnymsgCidSegment) :
    anymsgCidSegmentFromFirstByte (sampleByte segment) = segment := by
  cases segment <;> decide

/-- An input that passes the checks is queued where there is room. -/
theorem enqueueInput_room (s : Hosted H) {input : RouteInput} (target : PutShmInterface)
    (hp : rtosPriorityQueuePriorityIsValid input.priority = true)
    (hroom : s.router.queue.items.length < priorityQueueCapacity) :
    (enqueueInput S s input target).2.router.queue.items =
      s.router.queue.items ++ [fillQueueItem s.router input target (S.now s.host).1] := by
  have henq := @rtosPriorityQueueEnqueue_of_room s.router.queue
    (fillQueueItem s.router input target (S.now s.host).1) hp hroom
  unfold enqueueInput
  simp only [RouterSinks.routerNow, henq]
  rfl

/-- An input that no check stops goes to the route its table has. -/
theorem submit_enqueues (s : Hosted H) {input : RouteInput} {target : PutShmInterface}
    (hvalid : inputIsInvalid input = false) (hepoch : input.epoch = s.router.currentLinuxEpoch)
    (httl : ∀ now, rtosRouterTtlIsExpired now input.receiveTimeMs input.ttl = false)
    (htype : input.type ≠ anymsgTypeEndpointToGatewayHeartbeat)
    (hlookup : rtosRouterRouteTableLookup s.router.routeTable input.destinationCid.b0 = .ok target) :
    rtosRouterSubmit S s input =
      enqueueInput S (S.routerNow { s with router := s.router.countSubmitted }).2 input target := by
  have hrouter : (S.routerNow { s with router := s.router.countSubmitted }).2.router =
      s.router.countSubmitted :=
    rfl
  have hcounted : s.router.countSubmitted.currentLinuxEpoch = s.router.currentLinuxEpoch := rfl
  have htable : s.router.countSubmitted.routeTable = s.router.routeTable := rfl
  rw [rtosRouterSubmit]
  simp only [hrouter, hcounted, htable, hvalid, ← hepoch, httl, htype, hlookup, ne_eq,
    not_true_eq_false, Bool.false_eq_true, if_false]

/-- A router that was initialised, with another table, queues a frame for
the interface the table names. -/
theorem submit_queued {table : RouteTable} {firstByte : UInt8} {target : PutShmInterface} {host : H}
    (hlookup : rtosRouterRouteTableLookup table firstByte = .ok target) :
    ∃ x ∈ (rtosRouterSubmit S ⟨{ rtosRouterInit with routeTable := table }, host⟩
      (inputFor firstByte)).2.router.queue.items, x.targetInterface = target := by
  have hvalid : inputIsInvalid (inputFor firstByte) = false := rfl
  have httl : ∀ now, rtosRouterTtlIsExpired now (inputFor firstByte).receiveTimeMs
      (inputFor firstByte).ttl = false :=
    fun _ => rfl
  have htype : (inputFor firstByte).type ≠ anymsgTypeEndpointToGatewayHeartbeat := by
    show (1 : UInt8) ≠ anymsgTypeEndpointToGatewayHeartbeat
    decide
  let s : Hosted H := ⟨{ rtosRouterInit with routeTable := table }, host⟩
  let counted : Hosted H := (S.routerNow { s with router := s.router.countSubmitted }).2
  have hempty : counted.router.queue.items = [] := rfl
  have hroom : counted.router.queue.items.length < priorityQueueCapacity := by
    rw [hempty]
    exact Nat.zero_lt_succ 63
  rw [submit_enqueues s hvalid rfl httl htype hlookup, enqueueInput_room counted target rfl hroom]
  exact ⟨_, List.mem_append_right _ List.mem_cons_self, rfl⟩

/-- **Every target is an index exactly if the tables' targets fit.** For
a set of tables: no run that installs tables of the set puts a target
beyond the interfaces into the queue or hands it to the TX sink, exactly
if the targets of each table of the set that can be installed fit. -/
theorem targets_lt_six_iff (S : RouterSinks H) (host : H) (tables : Set RouteTable) :
    (∀ calls, (∀ table, .setRouteTable table ∈ calls → table ∈ tables) →
      TargetsInRange (runCalls S.journal calls (Journal.start host))) ↔
    ∀ table ∈ tables, table.Installs → table.TargetsFit := by
  constructor
  · intro h table htable hin segment hlow hhigh hvalid
    -- install the table and submit a frame to the segment
    have hlookup : rtosRouterRouteTableLookup table (sampleByte segment) =
        .ok (table.cidSegmentTargets segment) := by
      unfold rtosRouterRouteTableLookup
      simp [segment_sampleByte, hin.1, hlow, hhigh, hvalid]
    have hset : rtosRouterSetRouteTable rtosRouterInit table =
        (.ok, { rtosRouterInit with routeTable := table }) := by
      rcases rtosRouterSetRouteTable_cases rtosRouterInit table with ⟨-, heq⟩ | ⟨hnot, -⟩
      · exact heq
      · exact absurd hin hnot
    have hrun := (h [.setRouteTable table, .submit (inputFor (sampleByte segment))] (by
      intro table' hmem
      simp only [List.mem_cons, RouterCall.setRouteTable.injEq, reduceCtorEq, List.not_mem_nil,
        or_false] at hmem
      rw [hmem]
      exact htable)).queued
    simp only [Rtos.runCalls, RouterCall.run, Journal.start, hset] at hrun
    obtain ⟨x, hx, htarget⟩ := @submit_queued _ S.journal _ _ _ ⟨host, 0, []⟩ hlookup
    rw [← htarget]
    exact hrun x hx
  · intro h calls hcalls
    have htable : (Journal.start host).router.routeTable = rtosRouterRouteTableDefault := rfl
    have hfit : (Journal.start host).router.routeTable.TargetsFit := by
      rw [htable]
      exact default_targetsFit
    have hstart : TargetsInRange (Journal.start host) := by
      constructor
      · intro x hx
        cases hx
      · intro o result now ho
        cases ho
    exact hstart.runCalls hfit fun table hmem hin => h table (hcalls table hmem) hin

/-- **A target that only looks valid**: 0x100, in a table that is
installed, is queued. -/
theorem wide_target_queued :
    ¬ ∀ calls, TargetsInRange (runCalls quietSinks.journal calls (Journal.start ())) := by
  intro h
  have hqueued := (h [.setRouteTable (sampleTable 2 2 0x100), .submit (inputFor 0x20)]).queued
  exact absurd hqueued (by decide +kernel)

end Rtos

end PutGateway
