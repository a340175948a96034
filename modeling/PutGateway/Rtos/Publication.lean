import Mathlib.Algebra.BigOperators.Fin
import Mathlib.Algebra.BigOperators.Group.Finset.Basic
import PutGateway.Linux.ShmSpec
import PutGateway.Rtos.TasksSpec
/-!
# Publications under failing platform calls

A producer of the RTOS makes five fallible platform calls. The
`write_seq` store comes after the second, and a failure of the last three
is reported as a failure of the publication. The caller then tries again,
and reclaims the frame in the end. `publication` says how a publication
ends from the outcomes of its calls; what the operations of the ring and
the scheduler do is read off it.
-/

namespace PutGateway

namespace Rtos

/-! ## One publication -/

/-- How a publication ends. -/
inductive Ending
  /-- It fails before the `write_seq` store. -/
  | refused
  /-- It fails after it. -/
  | torn
  | done
  deriving DecidableEq, Repr

/-- The end of a publication on a ring with or without room, whose first
platform call is number `n`, and the number of the call after its last.
The calls for the doorbell of a publication that is done are not counted. -/
def publication (P : Platform) (room : Bool) (n : ℕ) : Ending × ℕ :=
  if P.outcome n ≠ .ok then (.refused, n + 1)
  else if !room || P.outcome (n + 1) ≠ .ok then (.refused, n + 2)
  else if P.outcome (n + 2) ≠ .ok then (.torn, n + 3)
  else if P.outcome (n + 3) ≠ .ok then (.torn, n + 4)
  else if P.outcome (n + 4) ≠ .ok then (.torn, n + 5)
  else (.done, n + 5)

variable {P : Platform} {K : Clock} {n : ℕ} {room : Bool}

/-- A publication is torn where its ring has room, its first two calls
succeed, and one of the next three fails. -/
theorem publication_torn_iff :
    (publication P room n).1 = .torn ↔
      room = true ∧ P.outcome n = .ok ∧ P.outcome (n + 1) = .ok ∧
        ¬ (P.outcome (n + 2) = .ok ∧ P.outcome (n + 3) = .ok ∧ P.outcome (n + 4) = .ok) := by
  unfold publication
  by_cases h0 : P.outcome n = .ok
  swap
  · simp [h0]
  by_cases hroom : room = true
  swap
  · simp [h0, hroom]
  by_cases h1 : P.outcome (n + 1) = .ok
  swap
  · simp [h0, hroom, h1]
  by_cases h2 : P.outcome (n + 2) = .ok
  swap
  · simp [h0, hroom, h1, h2]
  by_cases h3 : P.outcome (n + 3) = .ok
  swap
  · simp [h0, hroom, h1, h2, h3]
  by_cases h4 : P.outcome (n + 4) = .ok <;> simp [h0, hroom, h1, h2, h3, h4]

/-- A ring without room refuses. -/
theorem publication_full : (publication P false n).1 = .refused := by
  unfold publication
  by_cases h0 : P.outcome n = .ok <;> simp [h0]

/-- An operation that returns `e` after call number `calls` ends as
`ending` says, with one effect where it is refused and another where it
is not. -/
structure Ends (ending : Ending × ℕ) (e : UnifiedError) (calls : ℕ) (refused published : Prop) :
    Prop where
  ok : e = .ok ↔ ending.1 = .done
  calls : e ≠ .ok → calls = ending.2
  effect : if ending.1 = .refused then refused else published

section

variable {e : UnifiedError} {m : ℕ} {refused refused' published published' : Prop}
  {ending : Ending × ℕ}

theorem Ends.of_refused (he : e ≠ .ok) (hm : m = n) (h : refused) :
    Ends (.refused, n) e m refused published :=
  ⟨by simp [he], fun _ => hm, by simpa using h⟩

theorem Ends.of_torn (he : e ≠ .ok) (hm : m = n) (h : published) :
    Ends (.torn, n) e m refused published :=
  ⟨by simp [he], fun _ => hm, by simpa using h⟩

theorem Ends.of_done (he : e = .ok) (h : published) : Ends (.done, n) e m refused published :=
  ⟨by simp [he], fun hne => absurd he hne, by simpa using h⟩

theorem Ends.imp (h : Ends ending e m refused published) (hr : refused → refused')
    (hp : published → published') : Ends ending e m refused' published' := by
  refine ⟨h.ok, h.calls, ?_⟩
  have heffect := h.effect
  by_cases hending : ending.1 = .refused
  · rw [if_pos hending] at heffect ⊢
    exact hr heffect
  · rw [if_neg hending] at heffect ⊢
    exact hp heffect

end

section

variable {D : Type} {bit : UInt32} {d : D}

/-- The number of the call after an announcement that fails. -/
theorem announce_calls (P : Platform) (bit : UInt32) (w : Bool) (io : RingIo D Unit)
    (hfail : (announce P bit w io).1 ≠ .ok) :
    (announce P bit w io).2.calls =
      if P.outcome io.calls ≠ .ok then io.calls + 1
      else if P.outcome (io.calls + 1) ≠ .ok then io.calls + 2 else io.calls + 3 := by
  obtain ⟨-, hok⟩ := announce_spec P bit w io
  rw [ne_eq, hok] at hfail
  unfold announce
  by_cases h0 : P.outcome io.calls = .ok
  swap
  · rw [andThen_of_ne h0, if_pos h0]
    simp [RingIo.cacheOp, h0]
  rw [RingIo.cacheOp_of_ok _ _ h0, andThen_ok, if_neg (not_not.mpr h0)]
  by_cases h1 : P.outcome (io.calls + 1) = .ok
  swap
  · simp [RingIo.setPendingBit, RingIo.atomicOp, RingIo.call, andThen, h1]
  have h2 : P.outcome (io.calls + 1 + 1) ≠ .ok := fun h2 => hfail ⟨h0, h1, h2⟩
  simp [RingIo.setPendingBit, RingIo.atomicOp, RingIo.call, andThen, h1, h2]

/-- An announcement whose first call is number `n` ends as the last three
calls of a publication do. -/
private theorem announce_ends {wasEmpty : Bool} {io : RingIo D Unit} (h0 : P.outcome n = .ok)
    (h1 : P.outcome (n + 1) = .ok) (hn : io.calls = n + 2) :
    Ends (publication P true n) (announce P bit wasEmpty io).1 (announce P bit wasEmpty io).2.calls
      False (Ring.Kept io.ring (announce P bit wasEmpty io).2.ring) := by
  obtain ⟨hkept, hok⟩ := announce_spec P bit wasEmpty io
  have hcalls := announce_calls P bit wasEmpty io
  rw [hn] at hok hcalls
  by_cases h2 : P.outcome (n + 2) = .ok
  swap
  · have hending : publication P true n = (.torn, n + 3) := by simp [publication, h0, h1, h2]
    have hne : (announce P bit wasEmpty io).1 ≠ .ok := fun h => h2 (hok.mp h).1
    rw [hending]
    exact .of_torn hne (by rw [hcalls hne, if_pos h2]) hkept
  by_cases h3 : P.outcome (n + 3) = .ok
  swap
  · have hending : publication P true n = (.torn, n + 4) := by simp [publication, h0, h1, h2, h3]
    have hne : (announce P bit wasEmpty io).1 ≠ .ok := fun h => h3 (hok.mp h).2.1
    rw [hending]
    exact .of_torn hne (by rw [hcalls hne, if_neg (not_not.mpr h2), if_pos h3]) hkept
  by_cases h4 : P.outcome (n + 4) = .ok
  swap
  · have hending : publication P true n = (.torn, n + 5) := by simp [publication, h0, h1, h2, h3, h4]
    have hne : (announce P bit wasEmpty io).1 ≠ .ok := fun h => h4 (hok.mp h).2.2
    rw [hending]
    refine .of_torn hne ?_ hkept
    rw [hcalls hne, if_neg (not_not.mpr h2), if_neg (not_not.mpr h3)]
  · have hending : publication P true n = (.done, n + 5) := by simp [publication, h0, h1, h2, h3, h4]
    rw [hending]
    exact .of_done (hok.mpr ⟨h2, h3, h4⟩) hkept

/-- **A publication on a ring ends as its platform calls say.** -/
theorem publishOn_ends (P : Platform) (bit : UInt32) (d : D) (io : RingIo D Unit) :
    Ends (publication P (io.ring.used < io.ring.producer.depth) io.calls) (publishOn P bit d io).1
      (publishOn P bit d io).2.calls
      (Ring.Kept io.ring (publishOn P bit d io).2.ring ∨
        io.ring.used < io.ring.producer.depth ∧
          Ring.Kept (io.ring.stage d) (publishOn P bit d io).2.ring)
      (io.ring.used < io.ring.producer.depth ∧
        Ring.Kept (io.ring.publish d) (publishOn P bit d io).2.ring) := by
  unfold publishOn
  by_cases h0 : P.outcome io.calls = .ok
  swap
  · -- the consumer line could not be read
    have hending (room : Bool) : publication P room io.calls = (.refused, io.calls + 1) := by
      simp [publication, h0]
    have hrun : io.enqueue P id id (fun _ => id) (announce P bit) d = io.cacheOp P id :=
      andThen_of_ne h0
    rw [hending, hrun]
    exact .of_refused h0 RingIo.cacheOp_calls (.inl (.of_eq RingIo.cacheOp_ring))
  by_cases hused : io.ring.used < io.ring.producer.depth
  swap
  · -- the ring is full
    have hending : publication P (io.ring.used < io.ring.producer.depth) io.calls =
        (.refused, io.calls + 2) := by simp [publication, h0, hused]
    have hrun : io.enqueue P id id (fun _ => id) (announce P bit) d =
        ({ io with calls := io.calls + 1 } : RingIo D Unit).dropNewest P id id := by
      rw [RingIo.enqueue, RingIo.cacheOp_of_ok _ _ h0, andThen_ok]
      exact if_pos (UInt32.not_lt.mp hused)
    rw [hending, hrun]
    refine .of_refused (by simp [RingIo.dropNewest]) RingIo.cacheOp_calls (.inl ?_)
    rw [RingIo.dropNewest, RingIo.cacheOp_ring]
    exact Ring.kept_producer rfl rfl rfl
  have hstep : io.enqueue P id id (fun _ => id) (announce P bit) d =
      andThen ((({ io with calls := io.calls + 1 } : RingIo D Unit).writeSlot d).cacheOp P id)
        fun io' => announce P bit (io.ring.producer.writeSeq == io.ring.consumer.readSeq)
          (io'.storeWriteSeq id) := by
    rw [RingIo.enqueue, RingIo.cacheOp_of_ok _ _ h0, andThen_ok]
    exact if_neg (UInt32.not_le.mpr hused)
  by_cases h1 : P.outcome (io.calls + 1) = .ok
  swap
  · -- the slot could not be flushed
    have hending : publication P (io.ring.used < io.ring.producer.depth) io.calls =
        (.refused, io.calls + 2) := by simp [publication, h0, hused, h1]
    have hrun : io.enqueue P id id (fun _ => id) (announce P bit) d =
        (({ io with calls := io.calls + 1 } : RingIo D Unit).writeSlot d).cacheOp P id := by
      rw [hstep]
      exact andThen_of_ne h1
    rw [hending, hrun]
    refine .of_refused h1 RingIo.cacheOp_calls (.inr ⟨hused, ?_⟩)
    rw [RingIo.cacheOp_ring]
    exact ⟨rfl, rfl, rfl, rfl, rfl, rfl⟩
  -- the entry is published, and the rest is the announcement's
  have hrun : io.enqueue P id id (fun _ => id) (announce P bit) d =
      announce P bit (io.ring.producer.writeSeq == io.ring.consumer.readSeq)
        (io.published (fun _ => id) d) := by
    rw [hstep, RingIo.cacheOp_of_ok
      (({ io with calls := io.calls + 1 } : RingIo D Unit).writeSlot d) _ h1, andThen_ok]
    rfl
  rw [hrun, decide_eq_true hused]
  refine (announce_ends h0 h1 rfl).imp False.elim fun hkept => ⟨hused, ?_⟩
  exact RingIo.published_kept.trans hkept

end

/-! ## The two producers -/

variable {shm : RtosShm} {i : Fin 6}

/-- The end of a TX publication on ring `i`. -/
def txEnding (P : Platform) (shm : RtosShm) (i : Fin 6) : Ending × ℕ :=
  publication P ((shm.region.view.tx i).length < 8) shm.calls

/-- The end of a reclaim. -/
def reclaimEnding (P : Platform) (shm : RtosShm) : Ending × ℕ :=
  publication P (shm.region.view.reclaim.length < 8) shm.calls

theorem rtosShmIpcEnqueueTxDescriptor_ends (P : Platform) (hinit : shm.initialized = true)
    (hv : shm.region.Valid) {d : Descriptor} (htarget : d.targetInterface = UInt8.ofNat i)
    (hbounds : validateDescriptorBounds d = .ok) :
    let r := rtosShmIpcEnqueueTxDescriptor P shm (interfaceOfIndex i) d
    Ends (txEnding P shm i) r.1 r.2.calls (shm.region.Becomes r.2.region shm.region.view)
      ((shm.region.view.tx i).length < 8 ∧ shm.region.Becomes r.2.region
        (shm.region.view.setTx i (shm.region.view.tx i ++ [d.sealed]))) := by
  have hends := publishOn_ends P (1 <<< (UInt8.ofNat i).toUInt32) d.sealed (shm.txIo i)
  have hroom : decide ((shm.txIo i).ring.used < (shm.txIo i).ring.producer.depth) =
      decide ((shm.region.view.tx i).length < 8) := decide_eq_decide.mpr hv.tx_room
  rw [hroom] at hends
  simp only [rtosShmIpcEnqueueTxDescriptor_eq hinit hv htarget hbounds]
  refine hends.imp ?_ ?_
  · rintro (hkept | ⟨hused, hkept⟩)
    · exact (Region.kept_setTx hkept).becomes hv
    · exact Region.becomes_stageTx hv (hv.tx_room.mp hused) (Region.setTx_kept hkept)
  · rintro ⟨hused, hkept⟩
    have hlt := hv.tx_room.mp hused
    exact ⟨hlt, Region.becomes_publishTx hv hlt (Region.setTx_kept hkept)⟩

theorem rtosShmIpcReclaimFrame_ends (P : Platform) (hinit : shm.initialized = true)
    (hv : shm.region.Valid) {frameId : UInt32} (hframe : frameId < 64) {source target : PutShmInterface}
    (hsource : isInterfaceValid source.toUInt8 = true)
    (htarget : isInterfaceValid target.toUInt8 = true)
    (reason : ReclaimReason) (epoch flags : UInt32) :
    let r := rtosShmIpcReclaimFrame P shm frameId reason source target epoch flags
    Ends (reclaimEnding P shm) r.1 r.2.calls (shm.region.Becomes r.2.region shm.region.view)
      (shm.region.view.reclaim.length < 8 ∧
        shm.region.Becomes r.2.region (shm.region.view.setReclaim (shm.region.view.reclaim ++
          [(reclaimDescriptor frameId reason source target epoch flags).sealed]))) := by
  have hends := publishOn_ends P 1
    (reclaimDescriptor frameId reason source target epoch flags).sealed shm.reclaimIo
  have hroom : decide (shm.reclaimIo.ring.used < shm.reclaimIo.ring.producer.depth) =
      decide (shm.region.view.reclaim.length < 8) := decide_eq_decide.mpr hv.reclaim_room
  rw [hroom] at hends
  simp only [rtosShmIpcReclaimFrame_eq hinit hv hframe hsource htarget]
  refine hends.imp ?_ ?_
  · rintro (hkept | ⟨hused, hkept⟩)
    · exact (Region.setReclaim_kept hkept).becomes hv
    · exact Region.becomes_stageReclaim hv (hv.reclaim_room.mp hused) (Region.setReclaim_kept hkept)
  · rintro ⟨hused, hkept⟩
    have hlt := hv.reclaim_room.mp hused
    exact ⟨hlt, Region.becomes_publishReclaim hv hlt (Region.setReclaim_kept hkept)⟩

/-! ## The two sinks -/

/-- The entries unread on the rings the RTOS writes. -/
def outstanding (q : Queues) : ℕ := ∑ i, (q.tx i).length + q.reclaim.length

theorem outstanding_setTx {q : Queues} {d : Descriptor} :
    outstanding (q.setTx i (q.tx i ++ [d])) = outstanding q + 1 := by
  have hlength : ∀ j, ((q.setTx i (q.tx i ++ [d])).tx j).length =
      (q.tx j).length + if j = i then 1 else 0 := by
    intro j
    rw [Queues.setTx_tx]
    by_cases hj : j = i
    · rw [if_pos hj, if_pos hj, hj, List.length_append, List.length_singleton]
    · rw [if_neg hj, if_neg hj, Nat.add_zero]
  simp only [outstanding, hlength, Queues.setTx_reclaim, Finset.sum_add_distrib,
    Finset.sum_ite_eq', Finset.mem_univ, if_true]
  omega

theorem outstanding_setReclaim {q : Queues} {d : ReclaimDescriptor} :
    outstanding (q.setReclaim (q.reclaim ++ [d])) = outstanding q + 1 := by
  simp only [outstanding, Queues.setReclaim, List.length_append, List.length_singleton]
  omega

/-- The tasks are attached to a valid region. -/
structure Bound (t : Tasks) : Prop where
  initialized : t.ipc.initialized = true
  valid : t.ipc.region.Valid

/-- What the TX sink asks of an item: its frame has a reference, and the
descriptor made from it is within bounds and has the target `i`. -/
structure TxReady (t : Tasks) (x : QueueItem) (i : Fin 6) : Prop where
  target : x.targetInterface = interfaceOfIndex i
  frame : ∃ f, frameIndex? x.frameId = some f ∧ (t.frameReferences f).inUse = true ∧
    validateDescriptorBounds (fillTxDescriptor (t.frameReferences f).descriptor (txOutput x 0)) = .ok

/-- What the reclaim sink asks of an item: its frame has a reference with
valid interfaces. -/
def ReclaimReady (t : Tasks) (x : QueueItem) : Prop :=
  ∃ f, frameIndex? x.frameId = some f ∧ (t.frameReferences f).inUse = true ∧
    isInterfaceValid (t.frameReferences f).descriptor.sourceInterface = true ∧
    isInterfaceValid (t.frameReferences f).descriptor.targetInterface = true

instance (t : Tasks) (x : QueueItem) : Decidable (ReclaimReady t x) :=
  inferInstanceAs (Decidable (∃ f, frameIndex? x.frameId = some f ∧
    (t.frameReferences f).inUse = true ∧
    isInterfaceValid (t.frameReferences f).descriptor.sourceInterface = true ∧
    isInterfaceValid (t.frameReferences f).descriptor.targetInterface = true))

variable {t : Tasks} {x : QueueItem} {nowMs : UInt32}

/-- What the TX sink returns and leaves of the IPC is what the enqueue
does. -/
theorem txSink_enqueue (P : Platform) (t : Tasks) (output : RouteOutput) {f : Fin 64}
    (hkind : output.kind = .tx)
    (hf : frameIndex? output.frameId = some f) (hinUse : (t.frameReferences f).inUse = true) :
    let r := rtosShmIpcEnqueueTxDescriptor P t.ipc output.targetInterface
      (fillTxDescriptor (t.frameReferences f).descriptor output)
    (rtosTasksTxSink P output t).1 = r.1 ∧ (rtosTasksTxSink P output t).2.ipc = r.2 ∧
      (r.1 ≠ .ok → (rtosTasksTxSink P output t).2.frameReferences = t.frameReferences) := by
  rw [rtosTasksTxSink_of_inUse hkind hf hinUse]
  simp only
  split
  · next hok => exact ⟨hok.symm, clearFrameReference_ipc, fun hne => absurd hok hne⟩
  · exact ⟨rfl, rfl, fun _ => rfl⟩

/-- **A TX attempt on an item that is ready** is one publication. One that
fails keeps the references. -/
theorem txSink_ends (P : Platform) (hb : Bound t) (hready : TxReady t x i) (nowMs : UInt32) :
    let r := rtosTasksTxSink P (txOutput x nowMs) t
    Bound r.2 ∧ (r.1 ≠ .ok → r.2.frameReferences = t.frameReferences) ∧
      Ends (txEnding P t.ipc i) r.1 r.2.ipc.calls
        (r.2.ipc.region.view = t.ipc.region.view)
        ((t.ipc.region.view.tx i).length < 8 ∧ ∃ d, r.2.ipc.region.view =
          t.ipc.region.view.setTx i (t.ipc.region.view.tx i ++ [d])) := by
  obtain ⟨htarget, f, hf, hinUse, hbounds⟩ := hready
  have hid : (txOutput x nowMs).targetInterface = interfaceOfIndex i := htarget
  have hdesc : (fillTxDescriptor (t.frameReferences f).descriptor (txOutput x nowMs)).targetInterface =
      UInt8.ofNat i := by
    rw [← toUInt8_interfaceOfIndex, ← htarget]
    rfl
  obtain ⟨hres, hipc, hreferences⟩ := txSink_enqueue P t (txOutput x nowMs) rfl hf hinUse
  have hinit := (rtosShmIpcEnqueueTxDescriptor_cases P t.ipc (interfaceOfIndex i)
    (fillTxDescriptor (t.frameReferences f).descriptor (txOutput x nowMs))).1.trans hb.initialized
  have hends := rtosShmIpcEnqueueTxDescriptor_ends P hb.initialized hb.valid hdesc hbounds
  rw [hid] at hres hipc hreferences
  simp only [hres, hipc]
  generalize rtosShmIpcEnqueueTxDescriptor P t.ipc (interfaceOfIndex i)
    (fillTxDescriptor (t.frameReferences f).descriptor (txOutput x nowMs)) = r at *
  have hvalid : r.2.region.Valid := by
    have heffect := hends.effect
    split at heffect
    · exact heffect.valid
    · exact heffect.2.valid
  refine ⟨⟨?_, ?_⟩, hreferences, hends.imp (·.view) fun h => ⟨h.1, _, h.2.view⟩⟩
  · rw [hipc]
    exact hinit
  · rw [hipc]
    exact hvalid

/-- An item that is not ready is refused without a platform call. -/
theorem txSink_unready (hready : ∀ i, ¬ TxReady t x i) (nowMs : UInt32) :
    let r := rtosTasksTxSink P (txOutput x nowMs) t
    r.1 ≠ .ok ∧ r.2.ipc = t.ipc ∧ r.2.frameReferences = t.frameReferences := by
  cases hf : frameIndex? (txOutput x nowMs).frameId with
  | none => simp [rtosTasksTxSink, txOutput, show frameIndex? x.frameId = none from hf]
  | some f =>
    by_cases hinUse : (t.frameReferences f).inUse = true
    swap
    · simp [rtosTasksTxSink, txOutput, show frameIndex? x.frameId = some f from hf, hinUse]
    obtain ⟨hres, hipc, hreferences⟩ := txSink_enqueue P t (txOutput x nowMs) rfl hf hinUse
    -- the reference is there, so the target or the bounds are refused
    have hrefused : ∀ r, r = rtosShmIpcEnqueueTxDescriptor P t.ipc (txOutput x nowMs).targetInterface
        (fillTxDescriptor (t.frameReferences f).descriptor (txOutput x nowMs)) →
        r.1 ≠ .ok ∧ r.2 = t.ipc := by
      rintro r rfl
      cases hi : interfaceIndex? (txOutput x nowMs).targetInterface with
      | none =>
        by_cases hinit : t.ipc.initialized = true <;> simp [rtosShmIpcEnqueueTxDescriptor, hinit, hi]
      | some i =>
        have htarget := interfaceIndex?_eq_some.mp hi
        have hbounds : ¬ ((fillTxDescriptor (t.frameReferences f).descriptor
              (txOutput x nowMs)).targetInterface = UInt8.ofNat i ∧
            validateDescriptorBounds (fillTxDescriptor (t.frameReferences f).descriptor
              (txOutput x nowMs)) = .ok) :=
          fun h => hready i ⟨htarget, f, hf, hinUse, h.2⟩
        obtain ⟨hne, -, hshm⟩ := rtosShmIpcEnqueueTxDescriptor_refuses P t.ipc hbounds
        rw [htarget]
        exact ⟨hne, hshm⟩
    obtain ⟨hne, hshm⟩ := hrefused _ rfl
    rw [← hres] at hne
    exact ⟨hne, hipc.trans hshm, hreferences (hres ▸ hne)⟩

/-- What the reclaim sink leaves of the IPC is what the reclaim does. -/
theorem reclaimSink_ipc {output : RouteOutput} {f : Fin 64} (hkind : output.kind = .reclaim)
    (hf : frameIndex? output.frameId = some f) (hinUse : (t.frameReferences f).inUse = true) :
    let o := withRxMetadata output (t.frameReferences f).descriptor
    (rtosTasksReclaimSink P K output t).2.ipc =
      (rtosShmIpcReclaimFrame P t.ipc output.frameId output.reclaimReason o.sourceInterface
        o.targetInterface o.epoch o.flags).2 := by
  simp only [rtosTasksReclaimSink, hkind, hf, hinUse]
  simp only [ne_eq, not_true_eq_false, if_false, Bool.not_true, Bool.false_eq_true]
  split
  · exact clearFrameReference_ipc
  split
  · exact storePendingReclaim_ipc _ _ _
  · rfl

/-- Whether a reclaim of an item is written: the sink takes it and the
ring has room. -/
def reclaimOpens (t : Tasks) (x : QueueItem) : Bool :=
  decide (ReclaimReady t x ∧ t.ipc.region.view.reclaim.length < 8)

/-- **A reclaim of an item** is one publication at most. -/
theorem reclaimSink_outstanding (hb : Bound t) (nowMs : UInt32) (reason : ReclaimReason) :
    outstanding (rtosTasksReclaimSink P K (reclaimItemOutput x nowMs reason) t).2.ipc.region.view =
      outstanding t.ipc.region.view +
        if (publication P (reclaimOpens t x) t.ipc.calls).1 = .refused then 0 else 1 := by
  cases hf : frameIndex? (reclaimItemOutput x nowMs reason).frameId with
  | none =>
    have hunready : ¬ ReclaimReady t x := by
      rintro ⟨f, hf', -⟩
      cases hf.symm.trans hf'
    simp [rtosTasksReclaimSink, reclaimItemOutput, show frameIndex? x.frameId = none from hf,
      reclaimOpens, hunready, publication_full]
  | some f =>
    have hf' : frameIndex? x.frameId = some f := hf
    by_cases hinUse : (t.frameReferences f).inUse = true
    swap
    · have hunready : ¬ ReclaimReady t x := by
        rintro ⟨g, hg, hinUse', -⟩
        obtain rfl : f = g := Option.some.inj (hf'.symm.trans hg)
        exact hinUse hinUse'
      simp [rtosTasksReclaimSink, reclaimItemOutput, hf', hinUse, reclaimOpens, hunready,
        publication_full]
    rw [reclaimSink_ipc rfl hf hinUse]
    generalize hsource : (withRxMetadata (reclaimItemOutput x nowMs reason)
      (t.frameReferences f).descriptor).sourceInterface = source
    generalize htarget : (withRxMetadata (reclaimItemOutput x nowMs reason)
      (t.frameReferences f).descriptor).targetInterface = target
    have hready : ReclaimReady t x ↔ isInterfaceValid source.toUInt8 = true ∧
        isInterfaceValid target.toUInt8 = true := by
      simp only [ReclaimReady, hf', Option.some.injEq, exists_eq_left', hinUse, true_and, ← hsource,
        ← htarget, withRxMetadata, UInt8.toUInt8_toUInt32]
    by_cases hopen : isInterfaceValid source.toUInt8 = true ∧ isInterfaceValid target.toUInt8 = true
    · have hframe : (reclaimItemOutput x nowMs reason).frameId < 64 := frameIndex?_lt hf
      have hends := rtosShmIpcReclaimFrame_ends P hb.initialized hb.valid hframe hopen.1 hopen.2
        reason (withRxMetadata (reclaimItemOutput x nowMs reason)
          (t.frameReferences f).descriptor).epoch
        (withRxMetadata (reclaimItemOutput x nowMs reason) (t.frameReferences f).descriptor).flags
      have hending : publication P (reclaimOpens t x) t.ipc.calls = reclaimEnding P t.ipc := by
        simp only [reclaimOpens, hready, hopen, true_and, and_self]
        rfl
      rw [hending]
      have heffect := hends.effect
      split at heffect
      · next hrefused =>
        rw [if_pos hrefused]
        exact congrArg outstanding heffect.view
      · next hstored =>
        rw [if_neg hstored]
        exact (congrArg outstanding heffect.2.view).trans outstanding_setReclaim
    · -- an interface is not valid
      have hunready : ¬ ReclaimReady t x := hready.not.mpr hopen
      have hrefused : ¬ ((reclaimItemOutput x nowMs reason).frameId < 64 ∧
          isInterfaceValid source.toUInt8 = true ∧ isInterfaceValid target.toUInt8 = true) :=
        fun h => hopen h.2
      obtain ⟨-, -, hshm⟩ := rtosShmIpcReclaimFrame_refuses P t.ipc hrefused reason
        (withRxMetadata (reclaimItemOutput x nowMs reason) (t.frameReferences f).descriptor).epoch
        (withRxMetadata (reclaimItemOutput x nowMs reason) (t.frameReferences f).descriptor).flags
      refine (congrArg (fun shm : RtosShm => outstanding shm.region.view) hshm).trans ?_
      simp [reclaimOpens, hunready, publication_full]

/-! ## One scheduler step -/

/-- Some attempt of a transmission with `retries` retries, or the reclaim
after them, gets to its `write_seq` store. The ring has `free` slots, the
first platform call is number `n`, and `opens` says whether a reclaim is
written. -/
def TransmitStores (P : Platform) (opens : Bool) : (retries free n : ℕ) → Prop
  | 0, free, n =>
    match publication P (0 < free) n with
    | (.refused, m) => (publication P opens m).1 ≠ .refused
    | _ => True
  | retries + 1, free, n =>
    match publication P (0 < free) n with
    | (.refused, m) => TransmitStores P opens retries free m
    | _ => True

/-- An attempt of a transmission fails after its `write_seq` store, and a
later attempt, or the reclaim after them, gets to its own. -/
def TransmitRepeats (P : Platform) (opens : Bool) : (retries free n : ℕ) → Prop
  | 0, free, n =>
    match publication P (0 < free) n with
    | (.torn, m) => (publication P opens m).1 ≠ .refused
    | _ => False
  | retries + 1, free, n =>
    match publication P (0 < free) n with
    | (.refused, m) => TransmitRepeats P opens retries free m
    | (.torn, m) => TransmitStores P opens retries (free - 1) m
    | (.done, _) => False

/-- The free slots of a TX ring. -/
def freeTx (t : Tasks) (i : Fin 6) : ℕ := 8 - (t.ipc.region.view.tx i).length

variable {s : TasksContext} {opens : Bool} {retries free : ℕ}

/-- What a transmission leaves outstanding, as `TransmitStores` and
`TransmitRepeats` have it. -/
structure Accounts (P : Platform) (opens : Bool) (retries free n before after : ℕ) : Prop where
  grows : before ≤ after
  stores : before < after ↔ TransmitStores P opens retries free n
  repeats : before + 1 < after ↔ TransmitRepeats P opens retries free n

/-- A reclaim of an item by the router. -/
theorem reclaimItem_outstanding (hb : Bound s.host) (reason : ReclaimReason) :
    outstanding (reclaimItem (tasksSinks P K) s x reason).2.2.host.ipc.region.view =
      outstanding s.host.ipc.region.view +
        if (publication P (reclaimOpens s.host x) s.host.ipc.calls).1 = .refused then 0 else 1 := by
  have hb' : Bound (tasksNow K s.host).2 := ⟨hb.initialized, hb.valid⟩
  rw [reclaimItem_host]
  exact reclaimSink_outstanding hb' (tasksNow K s.host).1 reason

theorem reclaimItem_outstanding_le (hb : Bound s.host) (reason : ReclaimReason) :
    outstanding (reclaimItem (tasksSinks P K) s x reason).2.2.host.ipc.region.view ≤
      outstanding s.host.ipc.region.view + 1 := by
  rw [reclaimItem_outstanding hb]
  split <;> omega

/-- A retry is ready where the attempt before it was. -/
theorem TxReady.retry {t' : Tasks} {k : UInt8} (h : TxReady t' { x with retryCount := k } i)
    (hreferences : t'.frameReferences = t.frameReferences) : TxReady t x i := by
  obtain ⟨htarget, hframe⟩ := h
  rw [hreferences] at hframe
  exact ⟨htarget, hframe⟩

theorem emitTx_tasks (output : RouteOutput) :
    emitTx (tasksSinks P K) s output = ((rtosTasksTxSink P output s.host).1,
      { s with host := (rtosTasksTxSink P output s.host).2 }) := emitTx_eq s output

/-- A transmission with nothing to transmit is a reclaim. -/
theorem transmit_unready (hb : Bound s.host) (hready : ∀ i, ¬ TxReady s.host x i) (nowMs : UInt32)
    (retries : ℕ) :
    outstanding (transmit (tasksSinks P K) nowMs retries x s).2.2.host.ipc.region.view ≤
      outstanding s.host.ipc.region.view + 1 := by
  induction retries generalizing s x with
  | zero =>
    obtain ⟨hres, hipc, -⟩ := txSink_unready (P := P) hready nowMs
    have hb' : Bound (rtosTasksTxSink P (txOutput x nowMs) s.host).2 :=
      ⟨hipc ▸ hb.initialized, hipc ▸ hb.valid⟩
    unfold transmit
    simp only [emitTx_tasks]
    rw [if_neg hres]
    refine (reclaimItem_outstanding_le hb' .queueFull).trans ?_
    rw [hipc]
  | succ retries ih =>
    obtain ⟨hres, hipc, hreferences⟩ := txSink_unready (P := P) hready nowMs
    have hb' : Bound (rtosTasksTxSink P (txOutput x nowMs) s.host).2 :=
      ⟨hipc ▸ hb.initialized, hipc ▸ hb.valid⟩
    unfold transmit
    simp only [emitTx_tasks]
    rw [if_neg hres]
    refine (ih hb' fun i h => hready i (h.retry hreferences)).trans ?_
    rw [hipc]

/-- What a TX attempt that fails leaves for the next. -/
structure Retryable (t t' : Tasks) : Prop where
  bound : Bound t'
  references : t'.frameReferences = t.frameReferences
  reclaim : t'.ipc.region.view.reclaim = t.ipc.region.view.reclaim

theorem Retryable.ready {t' : Tasks} {k : UInt8} (h : Retryable t t') (hready : TxReady t x i) :
    TxReady t' { x with retryCount := k } i := by
  obtain ⟨htarget, hframe⟩ := hready
  rw [← h.references] at hframe
  exact ⟨htarget, hframe⟩

theorem Retryable.reclaimOpens_eq {t' : Tasks} {k : UInt8} (h : Retryable t t') :
    reclaimOpens t' { x with retryCount := k } = reclaimOpens t x := by
  have hready : ReclaimReady t' { x with retryCount := k } ↔ ReclaimReady t x := by
    simp only [ReclaimReady, h.references]
  refine decide_eq_decide.mpr ?_
  rw [hready, h.reclaim]

/-- **The ends of a TX attempt on an item that is ready.** -/
theorem txSink_cases (P : Platform) (hb : Bound t) (hready : TxReady t x i) (nowMs : UInt32) :
    let r := rtosTasksTxSink P (txOutput x nowMs) t
    let ending := publication P (0 < freeTx t i) t.ipc.calls
    (ending.1 = .done ∧ r.1 = .ok ∧
      outstanding r.2.ipc.region.view = outstanding t.ipc.region.view + 1) ∨
    (ending = (.torn, r.2.ipc.calls) ∧ r.1 ≠ .ok ∧ Retryable t r.2 ∧
      freeTx r.2 i = freeTx t i - 1 ∧
      outstanding r.2.ipc.region.view = outstanding t.ipc.region.view + 1) ∨
    (ending = (.refused, r.2.ipc.calls) ∧ r.1 ≠ .ok ∧ Retryable t r.2 ∧ freeTx r.2 i = freeTx t i ∧
      outstanding r.2.ipc.region.view = outstanding t.ipc.region.view) := by
  obtain ⟨hb', hreferences, hends⟩ := txSink_ends P hb hready nowMs
  have hroom : decide (0 < freeTx t i) = decide ((t.ipc.region.view.tx i).length < 8) := by
    refine decide_eq_decide.mpr ?_
    unfold freeTx
    omega
  -- the room for the publication is that of the TX ring
  have hending : publication P (0 < freeTx t i) t.ipc.calls = txEnding P t.ipc i := by
    rw [hroom]
    rfl
  simp only [hending]
  generalize rtosTasksTxSink P (txOutput x nowMs) t = r at *
  obtain ⟨hok, hcalls, heffect⟩ := hends
  generalize txEnding P t.ipc i = ending at *
  obtain ⟨kind, m⟩ := ending
  cases kind with
  | refused =>
    have hview : r.2.ipc.region.view = t.ipc.region.view := heffect
    have hne : r.1 ≠ .ok := by simp [hok]
    refine .inr (.inr ⟨Prod.ext rfl (hcalls hne).symm, hne, ⟨hb', hreferences hne, ?_⟩, ?_, ?_⟩)
    · rw [hview]
    · rw [freeTx, hview]
      rfl
    · rw [hview]
  | torn =>
    obtain ⟨-, d, hview⟩ := heffect
    have hne : r.1 ≠ .ok := by simp [hok]
    refine .inr (.inl ⟨Prod.ext rfl (hcalls hne).symm, hne, ⟨hb', hreferences hne, ?_⟩, ?_, ?_⟩)
    · rw [hview, Queues.setTx_reclaim]
    · simp only [freeTx, hview, Queues.setTx_tx_same, List.length_append, List.length_singleton]
      omega
    · rw [hview]
      exact outstanding_setTx
  | done =>
    obtain ⟨-, d, hview⟩ := heffect
    refine .inl ⟨rfl, hok.mpr rfl, ?_⟩
    rw [hview]
    exact outstanding_setTx

/-- A reclaim after the last attempt, which has left `k` entries. -/
private theorem accounts_reclaim {k before after m : ℕ}
    (hafter : after = k + if (publication P opens m).1 = .refused then 0 else 1)
    (hcases : (publication P (0 < free) n = (.torn, m) ∧ k = before + 1) ∨
      (publication P (0 < free) n = (.refused, m) ∧ k = before)) :
    Accounts P opens 0 free n before after := by
  -- a reclaim that is refused stores nothing; one that is torn stores its entry
  by_cases hrefused : (publication P opens m).1 = .refused
  · rw [if_pos hrefused] at hafter
    rcases hcases with ⟨hending, rfl⟩ | ⟨hending, rfl⟩
    · refine ⟨by omega, ?_, ?_⟩
      · simp only [TransmitStores, hending, iff_true]
        omega
      · simp only [TransmitRepeats, hending, hrefused, ne_eq, not_true_eq_false, iff_false]
        omega
    · refine ⟨by omega, ?_, ?_⟩
      · simp only [TransmitStores, hending, hrefused, ne_eq, not_true_eq_false, iff_false]
        omega
      · simp only [TransmitRepeats, hending, iff_false]
        omega
  · rw [if_neg hrefused] at hafter
    rcases hcases with ⟨hending, rfl⟩ | ⟨hending, rfl⟩
    · refine ⟨by omega, ?_, ?_⟩
      · simp only [TransmitStores, hending, iff_true]
        omega
      · simp only [TransmitRepeats, hending, hrefused, ne_eq, not_false_eq_true, iff_true]
        omega
    · refine ⟨by omega, ?_, ?_⟩
      · simp only [TransmitStores, hending, hrefused, ne_eq, not_false_eq_true, iff_true]
        omega
      · simp only [TransmitRepeats, hending, iff_false]
        omega

/-- An attempt that is done ends the transmission. -/
private theorem accounts_done {before : ℕ} (hending : (publication P (0 < free) n).1 = .done) :
    Accounts P opens retries free n before (before + 1) := by
  generalize hpublication : publication P (0 < free) n = ending at hending
  obtain ⟨kind, m⟩ := ending
  obtain rfl : kind = .done := hending
  cases retries with
  | zero => exact ⟨by omega, by simp [TransmitStores, hpublication],
    by simp [TransmitRepeats, hpublication]⟩
  | succ => exact ⟨by omega, by simp [TransmitStores, hpublication],
    by simp [TransmitRepeats, hpublication]⟩

/-- After an attempt that is torn, what is stored is stored again. -/
private theorem accounts_torn {before after m : ℕ}
    (hending : publication P (0 < free) n = (.torn, m))
    (h : Accounts P opens retries (free - 1) m (before + 1) after) :
    Accounts P opens (retries + 1) free n before after := by
  have hgrows := h.grows
  refine ⟨by omega, ?_, ?_⟩
  · simp only [TransmitStores, hending, iff_true]
    omega
  · simp only [TransmitRepeats, hending]
    exact h.stores

/-- An attempt that is refused leaves everything to the rest. -/
private theorem accounts_refused {before after m : ℕ}
    (hending : publication P (0 < free) n = (.refused, m))
    (h : Accounts P opens retries free m before after) :
    Accounts P opens (retries + 1) free n before after := by
  refine ⟨h.grows, ?_, ?_⟩
  · simp only [TransmitStores, hending]
    exact h.stores
  · simp only [TransmitRepeats, hending]
    exact h.repeats

/-- **A transmission accounts for what it stores**, by induction on its
retries. -/
theorem transmit_accounts (hb : Bound s.host) (hready : TxReady s.host x i) (nowMs : UInt32)
    (retries : ℕ) :
    Accounts P (reclaimOpens s.host x) retries (freeTx s.host i) s.host.ipc.calls
      (outstanding s.host.ipc.region.view)
      (outstanding (transmit (tasksSinks P K) nowMs retries x s).2.2.host.ipc.region.view) := by
  induction retries generalizing s x with
  | zero =>
    unfold transmit
    simp only [emitTx_tasks]
    rcases txSink_cases P hb hready nowMs with
      ⟨hending, hok, hstored⟩ | ⟨hending, hne, hretry, -, hstored⟩ | ⟨hending, hne, hretry, -, hstored⟩
    · rw [if_pos hok, hstored]
      exact accounts_done hending
    all_goals
      -- no attempt is left: the item is reclaimed
      rw [if_neg hne]
      have hafter := reclaimItem_outstanding (P := P) (K := K) (x := x)
        (s := { s with host := (rtosTasksTxSink P (txOutput x nowMs) s.host).2 }) hretry.bound
        .queueFull
      rw [show reclaimOpens _ x = reclaimOpens s.host x from hretry.reclaimOpens_eq
        (k := x.retryCount)] at hafter
    · exact accounts_reclaim hafter (.inl ⟨hending, hstored⟩)
    · exact accounts_reclaim hafter (.inr ⟨hending, hstored⟩)
  | succ retries ih =>
    unfold transmit
    simp only [emitTx_tasks]
    rcases txSink_cases P hb hready nowMs with
      ⟨hending, hok, hstored⟩ | ⟨hending, hne, hretry, hfree, hstored⟩ |
        ⟨hending, hne, hretry, hfree, hstored⟩
    · rw [if_pos hok, hstored]
      exact accounts_done hending
    · -- torn: whatever is stored from here on is a second time
      rw [if_neg hne]
      have hrest (router : RouterContext) :=
        ih (s := ⟨router, (rtosTasksTxSink P (txOutput x nowMs) s.host).2⟩)
          (x := { x with retryCount := x.retryCount + 1 }) hretry.bound (hretry.ready hready)
      simp only [hretry.reclaimOpens_eq, hfree, hstored] at hrest
      exact accounts_torn hending (hrest _)
    · -- refused: the account is that of the rest
      rw [if_neg hne]
      have hrest (router : RouterContext) :=
        ih (s := ⟨router, (rtosTasksTxSink P (txOutput x nowMs) s.host).2⟩)
          (x := { x with retryCount := x.retryCount + 1 }) hretry.bound (hretry.ready hready)
      simp only [hretry.reclaimOpens_eq, hfree, hstored] at hrest
      exact accounts_refused hending (hrest _)

/-- The item a scheduler step transmits, where it transmits one. -/
def transmittedItem (K : Clock) (s : TasksContext) : Option QueueItem :=
  (rtosPriorityQueueDequeue s.router.queue).2.1.bind
    (plannedItem s.router.routeTable (K s.host.ticks))

/-- In a scheduler step a TX attempt fails after its `write_seq` store,
and a later attempt or the reclaim gets to its own. -/
def ScheduleRepeats (P : Platform) (K : Clock) (s : TasksContext) : Prop :=
  ∃ x i, transmittedItem K s = some x ∧ TxReady s.host x i ∧
    TransmitRepeats P (reclaimOpens s.host x) (retryLimit x.priority - x.retryCount.toNat)
      (freeTx s.host i) s.host.ipc.calls

/-- A transmission publishes twice where it repeats. -/
theorem transmit_outstanding (hb : Bound s.host) (nowMs : UInt32) (retries : ℕ) (x : QueueItem) :
    outstanding (transmit (tasksSinks P K) nowMs retries x s).2.2.host.ipc.region.view ≤
        outstanding s.host.ipc.region.view + 1 ↔
      ¬ ∃ i, TxReady s.host x i ∧ TransmitRepeats P (reclaimOpens s.host x) retries
        (freeTx s.host i) s.host.ipc.calls := by
  by_cases hready : ∃ i, TxReady s.host x i
  · obtain ⟨i, hready⟩ := hready
    have haccounts := transmit_accounts (P := P) (K := K) hb hready nowMs retries
    rw [← not_lt, haccounts.repeats]
    refine not_congr ⟨fun h => ⟨i, hready, h⟩, ?_⟩
    rintro ⟨j, hj, h⟩
    have hij := congrArg interfaceIndex? (hready.target.symm.trans hj.target)
    simp only [interfaceIndex?_interfaceOfIndex, Option.some.injEq] at hij
    exact hij ▸ h
  · have hunready := not_exists.mp hready
    refine iff_of_true (transmit_unready hb hunready nowMs retries) ?_
    rintro ⟨i, hi, -⟩
    exact hunready i hi

/-- The clock is read before a transmission, which changes nothing the
transmission depends on. -/
private theorem transmit_outstanding_now (hb : Bound s.host) (router : RouterContext)
    (nowMs : UInt32) (retries : ℕ) (x : QueueItem) :
    outstanding (transmit (tasksSinks P K) nowMs retries x
        ⟨router, (tasksNow K s.host).2⟩).2.2.host.ipc.region.view ≤
        outstanding s.host.ipc.region.view + 1 ↔
      ¬ ∃ i, TxReady s.host x i ∧ TransmitRepeats P (reclaimOpens s.host x) retries
        (freeTx s.host i) s.host.ipc.calls := by
  have hnow : Retryable s.host (tasksNow K s.host).2 := ⟨⟨hb.initialized, hb.valid⟩, rfl, rfl⟩
  have hready (i : Fin 6) : TxReady (tasksNow K s.host).2 x i ↔ TxReady s.host x i :=
    ⟨fun h => TxReady.retry (k := x.retryCount) h rfl, fun h => hnow.ready (k := x.retryCount) h⟩
  have hopens : reclaimOpens (tasksNow K s.host).2 x = reclaimOpens s.host x :=
    hnow.reclaimOpens_eq (k := x.retryCount)
  have htransmit := transmit_outstanding (P := P) (K := K) (s := ⟨router, (tasksNow K s.host).2⟩)
    hnow.bound nowMs retries x
  simp only [hready, hopens] at htransmit
  exact htransmit

/-- **A scheduler step publishes twice exactly where it repeats.** -/
theorem scheduleOnce_outstanding (P : Platform) (K : Clock) (hb : Bound s.host) :
    outstanding (rtosRouterScheduleOnce (tasksSinks P K) s).2.2.host.ipc.region.view ≤
        outstanding s.host.ipc.region.view + 1 ↔ ¬ ScheduleRepeats P K s := by
  unfold rtosRouterScheduleOnce ScheduleRepeats transmittedItem
  generalize rtosPriorityQueueDequeue s.router.queue = r
  obtain ⟨result, item, queue⟩ := r
  cases item with
  | none => simp
  | some item =>
    have hnow : Bound (tasksNow K s.host).2 := ⟨hb.initialized, hb.valid⟩
    rcases scheduleItem_cases (tasksSinks P K)
        { s with router := { s.router with queue := queue } } item with
      ⟨hplanned, reason, hrun⟩ | ⟨x, hplanned, hrun⟩
    · have hplanned' : plannedItem s.router.routeTable (K s.host.ticks) item = none := hplanned
      simp only [hrun, Option.bind_some, hplanned']
      exact iff_of_true (reclaimItem_outstanding_le hnow reason) (by simp)
    · have hplanned' : plannedItem s.router.routeTable (K s.host.ticks) item = some x := hplanned
      simp only [hrun, Option.bind_some, hplanned', Option.some.injEq, exists_and_left,
        exists_eq_left']
      exact transmit_outstanding_now hb _ _ _ x

/-! ## When a publication is atomic -/

/-- No descriptor has been published: the `write_seq` of every ring the
RTOS writes is as before. -/
structure StoresNothing (R R' : Region) : Prop where
  tx : ∀ i, (R'.txRings i).producer.writeSeq = (R.txRings i).producer.writeSeq
  reclaim : R'.reclaimRing.producer.writeSeq = R.reclaimRing.producer.writeSeq

theorem StoresNothing.of_kept {R R' : Region} (h : R.Kept R') : StoresNothing R R' :=
  ⟨fun i => (h.tx i).writeSeq, h.reclaim.writeSeq⟩

theorem StoresNothing.trans {R R' R'' : Region} (h : StoresNothing R R') (h' : StoresNothing R' R'') :
    StoresNothing R R'' :=
  ⟨fun i => (h'.tx i).trans (h.tx i), h'.reclaim.trans h.reclaim⟩

theorem storesNothing_stageTx {R : Region} {d : Descriptor} : StoresNothing R (R.stageTx i d) := by
  refine ⟨fun j => ?_, rfl⟩
  by_cases hj : j = i
  · subst hj
    simp [Region.stageTx, Region.setTx, Ring.stage]
  · simp [Region.stageTx, Region.setTx, Function.update_of_ne hj]

theorem not_storesNothing_publishTx {R R' : Region} {d : Descriptor}
    (h : (R.publishTx i d).Kept R') : ¬ StoresNothing R R' := by
  intro hnothing
  have hstored : (R'.txRings i).producer.writeSeq = (R.txRings i).producer.writeSeq + 1 := by
    rw [(h.tx i).writeSeq]
    simp [Region.publishTx, Region.setTx, Ring.publish]
  rw [hnothing.tx i] at hstored
  simp at hstored

theorem not_storesNothing_publishReclaim {R R' : Region} {d : ReclaimDescriptor}
    (h : (R.publishReclaim d).Kept R') : ¬ StoresNothing R R' := by
  intro hnothing
  have hstored : R'.reclaimRing.producer.writeSeq = R.reclaimRing.producer.writeSeq + 1 :=
    h.reclaim.writeSeq
  rw [hnothing.reclaim] at hstored
  simp at hstored

/-- A TX descriptor that passes its checks meets a torn publication. -/
def TxTorn (P : Platform) (shm : RtosShm) (id : PutShmInterface) (d : Descriptor) : Prop :=
  ∃ i, id = interfaceOfIndex i ∧ d.targetInterface = UInt8.ofNat i.val ∧
    validateDescriptorBounds d = .ok ∧ (txEnding P shm i).1 = .torn

/-- A reclaim that passes its checks meets a torn publication. -/
def ReclaimTorn (P : Platform) (shm : RtosShm) (frameId : UInt32) (source target : PutShmInterface) :
    Prop :=
  frameId < 64 ∧ isInterfaceValid source.toUInt8 = true ∧ isInterfaceValid target.toUInt8 = true ∧
    (reclaimEnding P shm).1 = .torn

theorem enqueueTx_storesNothing_iff (P : Platform) (hinit : shm.initialized = true)
    (hv : shm.region.Valid) (id : PutShmInterface) (d : Descriptor) :
    let r := rtosShmIpcEnqueueTxDescriptor P shm id d
    (r.1 ≠ .ok → StoresNothing shm.region r.2.region) ↔ ¬ TxTorn P shm id d := by
  have hcases := rtosShmIpcEnqueueTxDescriptor_cases P shm id d
  constructor
  · rintro hnothing ⟨i, rfl, htarget, hbounds, htorn⟩
    have hends := rtosShmIpcEnqueueTxDescriptor_ends P hinit hv htarget hbounds
    have hne := hends.ok.not.mpr (by rw [htorn]; simp)
    have heffect := hends.effect
    rw [htorn, if_neg (by simp)] at heffect
    rcases hcases.2 with ⟨-, hkept⟩ | ⟨j, -, -, -, -, -, -, hkept, -⟩
    · -- the entry is on the ring
      have hview : (rtosShmIpcEnqueueTxDescriptor P shm (interfaceOfIndex i) d).2.region.view =
          shm.region.view := by
        rcases hkept with hkept | ⟨j, hroom, hkept⟩
        · exact hkept.view
        · exact (Region.becomes_stageTx hv (hv.tx_room.mp hroom) hkept).view
      have hgrown := congrArg outstanding (hview.symm.trans heffect.2.view)
      rw [outstanding_setTx] at hgrown
      omega
    · exact not_storesNothing_publishTx hkept (hnothing hne)
  · intro hwhole hne
    rcases hcases.2 with ⟨-, hkept | ⟨i, -, hkept⟩⟩ | ⟨i, hid, htarget, hbounds, hroom, h0, h1, -, hok⟩
    · exact .of_kept hkept
    · exact storesNothing_stageTx.trans (.of_kept hkept)
    · rw [ne_eq, hok] at hne
      rw [hid, toUInt8_interfaceOfIndex] at htarget
      have hlt := decide_eq_true (hv.tx_room.mp hroom)
      exact absurd ⟨i, hid, htarget, hbounds, publication_torn_iff.mpr ⟨hlt, h0, h1, hne⟩⟩ hwhole

theorem reclaimFrame_storesNothing_iff (P : Platform) (hinit : shm.initialized = true)
    (hv : shm.region.Valid) (frameId : UInt32) (reason : ReclaimReason)
    (source target : PutShmInterface) (epoch flags : UInt32) :
    let r := rtosShmIpcReclaimFrame P shm frameId reason source target epoch flags
    (r.1 ≠ .ok → StoresNothing shm.region r.2.region) ↔
      ¬ ReclaimTorn P shm frameId source target := by
  have hcases := rtosShmIpcReclaimFrame_cases P shm frameId reason source target epoch flags
  constructor
  · rintro hnothing ⟨hframe, hsource, htarget, htorn⟩
    have hends := rtosShmIpcReclaimFrame_ends P hinit hv hframe hsource htarget reason epoch flags
    have hne := hends.ok.not.mpr (by rw [htorn]; simp)
    have heffect := hends.effect
    rw [htorn, if_neg (by simp)] at heffect
    rcases hcases.2 with ⟨-, hkept⟩ | ⟨-, -, -, -, hkept, -⟩
    · have hview : (rtosShmIpcReclaimFrame P shm frameId reason source target epoch
          flags).2.region.view = shm.region.view := by
        rcases hkept with hkept | ⟨hroom, hkept⟩
        · exact hkept.view
        · exact (Region.becomes_stageReclaim hv (hv.reclaim_room.mp hroom) hkept).view
      have hgrown := congrArg outstanding (hview.symm.trans heffect.2.view)
      rw [outstanding_setReclaim] at hgrown
      omega
    · exact not_storesNothing_publishReclaim hkept (hnothing hne)
  · intro hwhole hne
    by_cases hready : frameId < 64 ∧ isInterfaceValid source.toUInt8 = true ∧
        isInterfaceValid target.toUInt8 = true
    swap
    · -- refused at once
      obtain ⟨-, -, hshm⟩ := rtosShmIpcReclaimFrame_refuses P shm hready reason epoch flags
      rw [hshm]
      exact .of_kept (.refl _)
    rcases hcases.2 with ⟨-, hkept | ⟨-, hkept⟩⟩ | ⟨-, hroom, h0, h1, -, hok⟩
    · exact .of_kept hkept
    · exact ⟨fun i => (hkept.tx i).writeSeq, hkept.reclaim.writeSeq⟩
    · rw [ne_eq, hok] at hne
      have hlt := decide_eq_true (hv.reclaim_room.mp hroom)
      have htorn := publication_torn_iff.mpr ⟨hlt, h0, h1, hne⟩
      exact absurd ⟨hready.1, hready.2.1, hready.2.2, htorn⟩ hwhole

/-- A publication that is not reported has not happened, and a scheduler
step publishes its frame once at most. -/
structure PublishesAtomically (P : Platform) (K : Clock) (s : TasksContext) : Prop where
  tx : ∀ id d, let r := rtosShmIpcEnqueueTxDescriptor P s.host.ipc id d
    r.1 ≠ .ok → StoresNothing s.host.ipc.region r.2.region
  reclaim : ∀ frameId reason source target epoch flags,
    let r := rtosShmIpcReclaimFrame P s.host.ipc frameId reason source target epoch flags
    r.1 ≠ .ok → StoresNothing s.host.ipc.region r.2.region
  once : outstanding (rtosRouterScheduleOnce (tasksSinks P K) s).2.2.host.ipc.region.view ≤
    outstanding s.host.ipc.region.view + 1

/-- **When publications are atomic.** For every state of the rings, every
descriptor and all outcomes of the platform calls: a TX enqueue and a
reclaim that fail have published nothing if and only if their publication
is not torn, that is, no call fails after their `write_seq` store; and a
scheduler step publishes its frame once at most if and only if no TX
attempt of it is torn and followed by another `write_seq` store, of a
later attempt or of the reclaim. -/
theorem publishes_atomically_iff (P : Platform) (K : Clock) {s : TasksContext} (hb : Bound s.host) :
    (∀ id d, let r := rtosShmIpcEnqueueTxDescriptor P s.host.ipc id d
      (r.1 ≠ .ok → StoresNothing s.host.ipc.region r.2.region) ↔ ¬ TxTorn P s.host.ipc id d) ∧
    (∀ frameId reason source target epoch flags,
      let r := rtosShmIpcReclaimFrame P s.host.ipc frameId reason source target epoch flags
      (r.1 ≠ .ok → StoresNothing s.host.ipc.region r.2.region) ↔
        ¬ ReclaimTorn P s.host.ipc frameId source target) ∧
    (outstanding (rtosRouterScheduleOnce (tasksSinks P K) s).2.2.host.ipc.region.view ≤
        outstanding s.host.ipc.region.view + 1 ↔ ¬ ScheduleRepeats P K s) :=
  ⟨enqueueTx_storesNothing_iff P hb.initialized hb.valid,
    reclaimFrame_storesNothing_iff P hb.initialized hb.valid, scheduleOnce_outstanding P K hb⟩

/-- A platform whose fifth call fails, which is the second atomic
operation of a first publication. -/
def tornPlatform : Platform := ⟨fun n => if n = 4 then .ipcNotifyFailed else .ok⟩

/-- One frame in the queue, on a formatted region. -/
def tornContext : TasksContext where
  router :=
    { rtosRouterInit with
      queue := (rtosPriorityQueueEnqueue rtosPriorityQueueInit
        { frameId := 0
          sourceInterface := 0
          targetInterface := 1
          sourceCid := {}
          destinationCid := { b0 := 0x40 }
          type := 0x49
          priority := 2
          ttl := 0
          retryCount := 0
          epoch := 1
          flags := 0x1F
          receiveTimeMs := 0
          enqueueTimeMs := 0
          routeEpochSeen := 1
          frameLocalTime := 0 }).queue }
  host :=
    { ipc := ⟨true, Linux.formatRegion 1 1, 0⟩
      frameReferences := Function.update (fun _ => {}) 0
        { inUse := true
          descriptor :=
            { frameLength := 40, sourceInterface := 0, targetInterface := 1, priority := 2,
              type := 0x49, epoch := 1, flags := 0x1F } } }

theorem tornContext_bound : Bound tornContext.host := ⟨rfl, Linux.formatRegion_valid 1 1⟩

/-- The scheduler step that meets the failing call. -/
theorem publishes_atomically_iff_torn :
    outstanding (rtosRouterScheduleOnce (tasksSinks tornPlatform fun _ => 0)
        tornContext).2.2.host.ipc.region.view ≤ outstanding tornContext.host.ipc.region.view + 1 ↔
      ¬ ScheduleRepeats tornPlatform (fun _ => 0) tornContext :=
  (publishes_atomically_iff tornPlatform (fun _ => 0) tornContext_bound).2.2

set_option maxRecDepth 100000 in
/-- **A failure after the store is retried**: the frame is on the TX ring
twice. -/
theorem not_publishes_atomically :
    ¬ ∀ (P : Platform) (K : Clock) (s : TasksContext), Bound s.host → PublishesAtomically P K s := by
  intro hclaim
  have honce := (hclaim tornPlatform (fun _ => 0) tornContext tornContext_bound).once
  exact absurd honce (by decide +kernel)

end Rtos

end PutGateway
