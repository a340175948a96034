import PutGateway.System.Cores
/-!
# Where a frame is

The places a frame can be in, read off the state of the two cores: the
bitmap and the records of Linux, the unread slots of the thirteen rings,
and the references of the RTOS. While both cores run and their platform
calls succeed, every frame is in exactly one of them.
-/

namespace PutGateway

namespace System

open Linux Rtos

/-- A place for a frame. -/
inductive Place
  | free
  | allocated
  | txReady
  | rxRing (i : Fin 6)
  | reference
  | txRing (i : Fin 6)
  | reclaimRing
  deriving DecidableEq, Repr

/-- Linux has handed the frame to the RTOS. -/
def Place.InFlight : Place → Prop
  | .free | .allocated | .txReady => False
  | _ => True

/-- What Linux's private context says of a frame it has not handed over. -/
def linuxPlaces (ipc : LinuxShmIpc) (f : Fin 64) : List Place :=
  if !ipc.isAllocated f then [.free]
  else match (ipc.frames f).state with
    | .allocated => [.allocated]
    | .txReady => [.txReady]
    | _ => []

/-- The unread slots and the reference that name a frame. -/
def flightPlaces (c : TasksContext) (f : Fin 64) : List Place :=
  let q := c.host.ipc.region.view
  let names (d : Descriptor) : Bool := d.frameId == frameIdOfIndex f
  ((List.finRange 6).flatMap fun i => ((q.rx i).filter names).map fun _ => .rxRing i) ++
    ((List.finRange 6).flatMap fun i => ((q.tx i).filter names).map fun _ => .txRing i) ++
    ((q.reclaim.filter (·.frameId == frameIdOfIndex f)).map fun _ => .reclaimRing) ++
    if (c.host.frameReferences f).inUse then [.reference] else []

/-- Every place a frame is in. -/
def places (g : Gateway) (f : Fin 64) : List Place := linuxPlaces g.linux f ++ flightPlaces g.rtos f

variable {g g' : Gateway} {f : Fin 64} {P Q : Platform} {K : Clock}

/-! ## Exactly one place -/

private theorem sum_eq (l : Fin 6 → List Descriptor) (b : Descriptor → Bool) (place : Fin 6 → Place) :
    ((List.finRange 6).flatMap fun i => ((l i).filter b).map fun _ => place i).length =
      ∑ i, (l i).countP b := by
  rw [List.length_flatMap, Fin.sum_univ_def]
  simp only [List.length_map, List.countP_eq_length_filter]

theorem length_flightPlaces (c : TasksContext) (f : Fin 64) :
    (flightPlaces c f).length = inFlight (ledger c) f := by
  have hreference : (if (c.host.frameReferences f).inUse = true then [Place.reference] else []).length =
      if ((ledger c).references f).isSome = true then 1 else 0 := by
    simp only [ledger, Tasks.ledger, FrameReference.descriptor?]
    by_cases h : (c.host.frameReferences f).inUse = true <;> simp [h]
  simp only [flightPlaces, inFlight, named, List.length_append, sum_eq, hreference]
  rw [List.length_map, List.countP_eq_length_filter]
  rfl

theorem inFlight_of_mem_flightPlaces {c : TasksContext} {p : Place} (h : p ∈ flightPlaces c f) :
    p.InFlight := by
  simp only [flightPlaces, List.mem_append, List.mem_flatMap, List.mem_map] at h
  rcases h with ((⟨i, -, d, -, rfl⟩ | ⟨i, -, d, -, rfl⟩) | ⟨d, -, rfl⟩) | h
  · trivial
  · trivial
  · trivial
  · split at h
    · rw [List.mem_singleton.mp h]
      trivial
    · cases h

/-- Linux's record of a frame that has one owner. -/
theorem Exclusive.linuxPlaces_cases (h : Exclusive g) (f : Fin 64) :
    ((g.linux.frames f).state = .rxQueued ∧ linuxPlaces g.linux f = []) ∨
    (g.linux.frames f).state ≠ .rxQueued ∧ ∃ p, linuxPlaces g.linux f = [p] ∧ ¬ p.InFlight := by
  have hbit : g.linux.isAllocated f = true ↔ (g.linux.frames f).state ≠ .free := h.owned.bit f
  have hsettled : (g.linux.frames f).state ≠ .pendingReclaim := h.owned.settled f
  unfold linuxPlaces
  cases hstate : (g.linux.frames f).state with
  | free =>
    have hfree : g.linux.isAllocated f = false := by
      by_contra hne
      exact hbit.mp (by simpa using hne) hstate
    exact .inr ⟨by decide, .free, by simp [hfree], id⟩
  | allocated =>
    have halloc := hbit.mpr (by rw [hstate]; decide)
    exact .inr ⟨by decide, .allocated, by simp [halloc], id⟩
  | rxQueued =>
    have halloc := hbit.mpr (by rw [hstate]; decide)
    exact .inl ⟨rfl, by simp [halloc]⟩
  | pendingReclaim => exact absurd hstate hsettled
  | txReady =>
    have halloc := hbit.mpr (by rw [hstate]; decide)
    exact .inr ⟨by decide, .txReady, by simp [halloc], id⟩

/-- A frame with one owner is in one place, and in flight where Linux has
queued it. -/
theorem Exclusive.places_eq (h : Exclusive g) (f : Fin 64) :
    ∃ p, places g f = [p] ∧ (p.InFlight ↔ (g.linux.frames f).state = .rxQueued) := by
  have hcount : inFlight (ledger g.rtos) f =
      if (g.linux.frames f).state = .rxQueued then 1 else 0 := h.owned.count f
  rw [← length_flightPlaces] at hcount
  rcases h.linuxPlaces_cases f with ⟨hstate, hlinux⟩ | ⟨hstate, p, hlinux, hp⟩
  · rw [if_pos hstate] at hcount
    obtain ⟨p, hflight⟩ := List.length_eq_one_iff.mp hcount
    refine ⟨p, by simp [places, hlinux, hflight], ?_⟩
    simp only [hstate, iff_true]
    exact inFlight_of_mem_flightPlaces (c := g.rtos) (f := f) (by simp [hflight])
  · rw [if_neg hstate] at hcount
    have hflight := List.length_eq_zero_iff.mp hcount
    exact ⟨p, by simp [places, hlinux, hflight], by simp [hp, hstate]⟩

/-! ## What the operations of Linux do with a frame -/

/-- **The dequeue operations of Linux refuse nothing.** -/
theorem Exclusive.dequeueTx (h : Exclusive g) (hP : P.Succeeds) (i : Fin 6) :
    (linuxShmDequeueTxDescriptor P g.shm (interfaceOfIndex i)).1 = .ok ∨
      (linuxShmDequeueTxDescriptor P g.shm (interfaceOfIndex i)).1 = .ipcQueueEmpty := by
  have hvalid : g.shm.region.Valid := h.sound.valid
  have hinit : g.shm.ipc.initialized = true := h.owned.initialized
  rcases linuxShmDequeueTxDescriptor_cases P hvalid hinit i with
    ⟨-, -, -, -, hempty⟩ | ⟨d, rest, htx, -, hends⟩
  · exact .inr (hempty hP).2
  rcases hends with ⟨hbad, -⟩ | ⟨-, -, -, hok⟩
  · have hmem : d ∈ (ledger g.rtos).queues.tx i := by
      rw [show (ledger g.rtos).queues.tx i = d :: rest from htx]
      exact List.mem_cons_self
    obtain ⟨f, hf⟩ := h.named.tx i d hmem
    exact absurd (txAccepted_iff.mpr ⟨f, h.owned.takesTx hmem hf⟩) hbad
  · exact .inl (hok hP)

theorem Exclusive.dequeueReclaim (h : Exclusive g) (hP : P.Succeeds) :
    (linuxShmDequeueReclaimDescriptor P g.shm).1 = .ok ∨
      (linuxShmDequeueReclaimDescriptor P g.shm).1 = .ipcQueueEmpty := by
  have hvalid : g.shm.region.Valid := h.sound.valid
  have hinit : g.shm.ipc.initialized = true := h.owned.initialized
  rcases linuxShmDequeueReclaimDescriptor_cases P hvalid hinit with
    ⟨-, -, -, -, hempty⟩ | ⟨d, rest, hr, -, hends⟩
  · exact .inr (hempty hP).2
  rcases hends with ⟨hbad, -⟩ | ⟨-, -, -, hok⟩
  · have hmem : d ∈ (ledger g.rtos).queues.reclaim := by
      rw [show (ledger g.rtos).queues.reclaim = d :: rest from hr]
      exact List.mem_cons_self
    obtain ⟨f, hf⟩ := h.named.reclaim d hmem
    exact absurd (reclaimAccepted_iff.mpr ⟨f, h.owned.takesReclaim hmem hf⟩) hbad
  · exact .inl (hok hP)

/-- A frame Linux allocates was free. -/
theorem Exclusive.frameAlloc (h : Exclusive g) {source : PutShmInterface}
    (halloc : (linuxShmFrameAlloc g.linux source).2.1 = some f) : places g f = [.free] := by
  rcases linuxShmFrameAlloc_cases g.linux source with ⟨-, hnone, -⟩ | ⟨i, k, -, -, hfree, -, heq⟩
  · rw [hnone] at halloc
    cases halloc
  · rw [heq] at halloc
    obtain rfl : k = f := Option.some.inj halloc
    obtain ⟨p, hp, -⟩ := h.places_eq k
    have hlinux : linuxPlaces g.linux k = [.free] := by simp [linuxPlaces, hfree]
    simp only [places, hlinux, List.singleton_append, List.cons.injEq, true_and] at hp ⊢
    exact hp.2

/-- **A frame is freed from three places only**: by a release from those
Linux holds it in, and on the word of the RTOS from the reclaim ring. -/
theorem Exclusive.freed (h : Exclusive g) {op : Linux.Operation}
    (hbefore : g.linux.isAllocated f = true) (hafter : (op.run P g.shm).ipc.isAllocated f = false) :
    places g f = [.allocated] ∨ places g f = [.txReady] ∨ places g f = [.reclaimRing] := by
  have hmoved : Moved op.descriptor? g.shm (op.run P g.shm) := op.moved P h.sound.valid
  obtain ⟨p, hp, -⟩ := h.places_eq f
  have hmem : ∀ p' ∈ places g f, places g f = [p'] := by
    rw [hp]
    rintro p' hp'
    rw [List.mem_singleton.mp hp']
  rcases hmoved.move.freed hbefore hafter with hrelease | ⟨d, rest, hr, htakes⟩
  · have hbit : g.linux.isAllocated f = true := hbefore
    rcases hrelease with hs | hs | hs | hs
    · have hs' : (g.linux.frames f).state = .allocated := hs
      exact .inl (hmem _ (by simp [places, linuxPlaces, hbit, hs']))
    · have hs' : (g.linux.frames f).state = .txReady := hs
      exact .inr (.inl (hmem _ (by simp [places, linuxPlaces, hbit, hs'])))
    · exact absurd hs (h.owned.settled f)
    · exact absurd ((h.owned.unmarked f).symm.trans hs) (by decide)
  · have hr' : g.rtos.host.ipc.region.view.reclaim = d :: rest := hr
    have hid := frameIndex?_eq_some.mp htakes.frame
    refine .inr (.inr (hmem _ ?_))
    simp [places, flightPlaces, hr', hid]

/-! ## The whole system -/

/-- **Exclusive frame ownership.** In every state of every run of the two
cores from a fresh start, with platform calls that succeed: each frame is
in exactly one place, which is on the RTOS or in a ring where and only
where Linux has it queued; Linux refuses no descriptor of the RTOS; what
it allocates was free; and what becomes free was held by Linux or given
back through the reclaim ring. -/
theorem exclusive_frame_ownership {linuxEpoch rtosEpoch : UInt32} {shm : LinuxShm}
    (hP : P.Succeeds) (hQ : Q.Succeeds)
    (h : Reachable P Q K (fun _ s => s.running) (boot linuxEpoch rtosEpoch shm) g) :
    (∀ f, ∃ p, places g f = [p] ∧ (p.InFlight ↔ (g.linux.frames f).state = .rxQueued)) ∧
    (∀ i, (linuxShmDequeueTxDescriptor P g.shm (interfaceOfIndex i)).1 = .ok ∨
      (linuxShmDequeueTxDescriptor P g.shm (interfaceOfIndex i)).1 = .ipcQueueEmpty) ∧
    ((linuxShmDequeueReclaimDescriptor P g.shm).1 = .ok ∨
      (linuxShmDequeueReclaimDescriptor P g.shm).1 = .ipcQueueEmpty) ∧
    (∀ source f, (linuxShmFrameAlloc g.linux source).2.1 = some f → places g f = [.free]) ∧
    ∀ (op : Linux.Operation) f, g.linux.isAllocated f = true →
      (op.run P g.shm).ipc.isAllocated f = false →
      places g f = [.allocated] ∨ places g f = [.txReady] ∨ places g f = [.reclaimRing] := by
  have hexclusive : Exclusive g :=
    h.invariant (exclusive_boot linuxEpoch rtosEpoch shm) fun _ _ hg hs => hg.step hQ hs
  exact ⟨hexclusive.places_eq, hexclusive.dequeueTx hP, hexclusive.dequeueReclaim hP,
    fun _ _ => hexclusive.frameAlloc, fun _ _ => hexclusive.freed⟩

/-- Two frames from the CAN interface, of which only block 0 holds what a
route accepts. It goes out over Ethernet and Linux releases it; block 1
is refused by the RTOS and comes back on the reclaim ring. -/
def journey : List Step :=
  [.linux (.frameAlloc 0), .linux (.frameAlloc 0), .linux (.fillFrame 0 sampleBlock),
    .linux (.frameCommitRx (sampleCommit 1)),
    .linux (.frameCommitRx { sampleCommit 1 with frameId := 1 }), .rtos (.eventTask .periodic),
    .rtos (.schedulerTask 64), .linux (.dequeueTxDescriptor 1), .linux (.frameRelease 0 0),
    .linux .dequeueReclaimDescriptor]

/-- The state after the first steps of it. -/
def travelled (l : List Step) : Gateway :=
  l.foldl (Step.run .defaultOps .defaultOps fun _ => 0) (boot 1 1 ⟨{}, formatRegion 0 0, 0⟩)

set_option maxRecDepth 1000000 in
/-- The two frames from place to place, one at a time throughout. -/
theorem exclusive_frame_ownership_journey :
    (journey.inits.map fun l => places (travelled l) 0) =
      [[.free], [.allocated], [.allocated], [.allocated], [.rxRing 0], [.rxRing 0], [.reference],
        [.txRing 1], [.txReady], [.free], [.free]] ∧
    (journey.inits.map fun l => places (travelled l) 1) =
      [[.free], [.free], [.allocated], [.allocated], [.allocated], [.rxRing 0], [.reclaimRing],
        [.reclaimRing], [.reclaimRing], [.reclaimRing], [.free]] ∧
    ∀ l ∈ journey.inits, ∀ f, ∃ p, places (travelled l) f = [p] ∧
      (p.InFlight ↔ ((travelled l).linux.frames f).state = .rxQueued) := by
  refine ⟨by decide +kernel, by decide +kernel, fun l hl => ?_⟩
  have hallowed : ∀ l ∈ journey.inits, AllowedRun .defaultOps .defaultOps (fun _ => 0)
      (fun _ s => s.running) (boot 1 1 ⟨{}, formatRegion 0 0, 0⟩) l := by
    decide +kernel
  exact (exclusive_frame_ownership Platform.defaultOps_succeeds Platform.defaultOps_succeeds
    (Reachable.start.foldl (hallowed l hl))).1

end System

end PutGateway
