import PutGateway.Linux.EgressWorker
import PutGateway.Linux.ShmSpec
/-!
# Egress gives its frames back

A frame the egress worker takes off its TX ring is released on every path
of the loop body, but for one. The dequeue marks the frame and stores
`read_seq` before its last platform calls; where one of these fails it
reports the failure, and the worker, which sees an error and no
descriptor, goes on without releasing the frame. Nobody holds it then.
Exactly these turns leak a frame.
-/

namespace PutGateway

namespace Linux

variable {A : Type} {P : Platform} {w : EgressWorkerContext A} {s : EgressState A}
  {shm : LinuxShm} {i : Fin 6} {f : Fin 64}

instance (i : Fin 6) (ipc : LinuxShmIpc) (d : Descriptor) : Decidable (TxAccepted i ipc d) :=
  decidable_of_iff (descriptorCrc d = d.descriptorCrc16 ∧
    checkTxDescriptor (interfaceOfIndex i) ipc d = .ok) ⟨fun h => ⟨h.1, h.2⟩, fun h => ⟨h.1, h.2⟩⟩

/-! ## Taking a descriptor -/

/-- The dequeue from TX ring `i` reaches a valid descriptor and takes its
slot. -/
structure LinuxShm.TakesValid (P : Platform) (shm : LinuxShm) (i : Fin 6) : Prop where
  initialized : shm.ipc.initialized = true
  ring : validateDescriptorRing (shm.region.txRings i) .tx (UInt8.ofNat i) .rtosToLinux = .ok
  unread : (shm.region.txRings i).producer.writeSeq ≠ (shm.region.txRings i).consumer.readSeq
  valid : TxAccepted i shm.ipc (shm.region.txRings i).head
  calls : ∀ n < 3, P.outcome (shm.calls + n) = .ok

/-- The calls after the `read_seq` store of that dequeue. -/
def LinuxShm.consumes (P : Platform) (shm : LinuxShm) (i : Fin 6) : Prop :=
  RingIo.consumeSucceeds P (shm.calls + 3) (shm.region.txRings i)

/-- **A valid descriptor that is taken waits for egress**, and is handed
over where the calls that follow succeed. -/
theorem dequeueTx_of_takesValid (h : shm.TakesValid P i) :
    let r := linuxShmDequeueTxDescriptor P shm (interfaceOfIndex i)
    r.2.1 = some (shm.region.txRings i).head ∧
      (r.2.2.region.txRings i).consumer.readSeq = (shm.region.txRings i).consumer.readSeq + 1 ∧
      r.2.2.ipc.pool = (shm.ipc.markTxReady (shm.region.txRings i).head).pool ∧
      (r.1 = .ok ↔ shm.consumes P i) := by
  have hrun : linuxShmDequeueTxDescriptor P shm (interfaceOfIndex i) =
      let r := (shm.txIo i).dequeue P (txConsumer (interfaceOfIndex i))
      (r.1, r.2.1, shm.setTxIo i r.2.2) := by
    simp [linuxShmDequeueTxDescriptor, h.initialized, toUInt8_interfaceOfIndex, h.ring]
  simp only [hrun]
  have hsome := (RingIo.dequeue_isSome_iff P (txConsumer (interfaceOfIndex i)) (shm.txIo i)).mpr
    ⟨h.calls, h.unread, beq_iff_eq.mpr h.valid.crc, h.valid.check⟩
  rcases RingIo.dequeue_ends P (txConsumer (interfaceOfIndex i)) (shm.txIo i) rfl
      (fun _ _ => checkTxDescriptor_ne_empty) LinuxShmIpc.pool (fun _ => rfl) (fun _ => rfl)
      (fun _ => rfl) with
    ⟨-, hnone, -⟩ | ⟨-, hk, ⟨-, -, -, hnone, -⟩ | ⟨-, hhead, hpool, hok⟩⟩
  · simp [hnone] at hsome
  · simp [hnone] at hsome
  · refine ⟨hhead, ?_, hpool, hok⟩
    refine Eq.trans ?_ hk.readSeq
    simp [LinuxShm.setTxIo]

/-- **Otherwise no frame changes hands**: nothing is taken, or what is
taken is not valid. -/
theorem dequeueTx_of_not_takesValid (h : ¬ shm.TakesValid P i) :
    let r := linuxShmDequeueTxDescriptor P shm (interfaceOfIndex i)
    r.1 ≠ .ok ∧ r.2.2.ipc.pool = shm.ipc.pool ∧
      ((r.2.2.region.txRings i).consumer.readSeq = (shm.region.txRings i).consumer.readSeq ∨
        ¬ TxAccepted i shm.ipc (shm.region.txRings i).head) := by
  by_cases hinit : shm.ipc.initialized = true
  swap
  · simp [linuxShmDequeueTxDescriptor, hinit]
  by_cases hring : validateDescriptorRing (shm.region.txRings i) .tx (UInt8.ofNat i) .rtosToLinux = .ok
  swap
  · simp [linuxShmDequeueTxDescriptor, hinit, toUInt8_interfaceOfIndex, hring]
  have hrun : linuxShmDequeueTxDescriptor P shm (interfaceOfIndex i) =
      let r := (shm.txIo i).dequeue P (txConsumer (interfaceOfIndex i))
      (r.1, r.2.1, shm.setTxIo i r.2.2) := by
    simp [linuxShmDequeueTxDescriptor, hinit, toUInt8_interfaceOfIndex, hring]
  simp only [hrun]
  rcases RingIo.dequeue_ends P (txConsumer (interfaceOfIndex i)) (shm.txIo i) rfl
      (fun _ _ => checkTxDescriptor_ne_empty) LinuxShmIpc.pool (fun _ => rfl) (fun _ => rfl)
      (fun _ => rfl) with
    ⟨hres, -, hk, hpool, -⟩ | ⟨-, -, ⟨hbad, hres, -, -, hpool⟩ | ⟨hgood, hhead, -⟩⟩
  · refine ⟨hres, hpool, .inl ?_⟩
    refine Eq.trans ?_ hk.readSeq
    simp [LinuxShm.setTxIo]
  · exact ⟨hres, hpool, .inr fun hacc => hbad ⟨beq_iff_eq.mpr hacc.crc, hacc.check⟩⟩
  · -- a head that is handed over was valid, and its calls succeeded
    obtain ⟨hcalls, hne, -⟩ :=
      (RingIo.dequeue_isSome_iff P (txConsumer (interfaceOfIndex i)) (shm.txIo i)).mp (by simp [hhead])
    exact absurd ⟨hinit, hring, hne, ⟨beq_iff_eq.mp hgood.1, hgood.2⟩, hcalls⟩ h

/-! ## One turn of the loop -/

/-- Whatever the adapter does, a frame that was handed over is released. -/
theorem egressFrame_shm (w : EgressWorkerContext A) (s : EgressState A) (d : Descriptor)
    (frame : FrameBlock) :
    (egressFrame w s d frame).shm =
      { s.shm with ipc := (linuxShmFrameRelease s.shm.ipc d.frameId ReclaimReason.none.code).2 } := by
  have hrelease : ∀ t : EgressState A, t.shm = s.shm → (t.releaseFrame d).shm =
      { s.shm with ipc := (linuxShmFrameRelease s.shm.ipc d.frameId ReclaimReason.none.code).2 } := by
    intro t ht
    rw [← ht]
    simp only [EgressState.releaseFrame]
    split <;> rfl
  have hfailure : ∀ (t : EgressState A) adapter, (t.recordSendFailure adapter).shm = t.shm := by
    intro t adapter
    unfold EgressState.recordSendFailure
    split
    · rfl
    split
    · split <;> rfl
    · rfl
  simp only [egressFrame]
  split
  · exact hrelease _ rfl
  split
  · exact hrelease _ rfl
  split
  · exact hrelease _ rfl
  next adapter _ =>
  split
  · exact hrelease _ rfl
  · exact hrelease _ (hfailure _ adapter)

/-- A turn releases what the dequeue hands over. -/
theorem egressTurn_shm (P : Platform) (w : EgressWorkerContext A) (s : EgressState A) :
    let r := linuxShmDequeueTxDescriptor P s.shm w.interfaceId
    (egressTurn P w s).2.shm =
      if r.1 = .ok then
        { r.2.2 with ipc :=
          (linuxShmFrameRelease r.2.2.ipc (r.2.1.getD {}).frameId ReclaimReason.none.code).2 }
      else r.2.2 := by
  intro r
  simp only [egressTurn]
  change (if r.1 = .ipcQueueEmpty then _ else _ : Bool × EgressState A).2.shm = _
  by_cases hempty : r.1 = .ipcQueueEmpty
  · rw [if_pos hempty, if_neg (by simp [hempty])]
  rw [if_neg hempty]
  by_cases hok : r.1 = .ok
  · rw [if_neg (not_not.mpr hok), if_pos hok]
    exact egressFrame_shm ..
  · rw [if_pos hok, if_neg hok]
    rfl

/-- The frame of the valid descriptor a turn takes off TX ring `i`. -/
def takenIn (i : Fin 6) (t : LinuxShm × LinuxShm) : Option (Fin 64) :=
  let ring := t.1.region.txRings i
  if (t.2.region.txRings i).consumer.readSeq ≠ ring.consumer.readSeq ∧ TxAccepted i t.1.ipc ring.head
  then frameIndex? ring.head.frameId else none

/-- The frames a turn gives back to the pool. -/
def freedIn (t : LinuxShm × LinuxShm) : List (Fin 64) :=
  (List.finRange 64).filter fun f => t.1.ipc.isAllocated f && !t.2.ipc.isAllocated f

/-- What a turn does to the frames: it takes a valid descriptor and frees
its frame; or it takes one and leaves the frame waiting; or no frame
changes hands. -/
inductive TurnEnd (P : Platform) (i : Fin 6) (t : LinuxShm × LinuxShm) : Prop
  | released (f : Fin 64) (htakes : t.1.TakesValid P i) (hconsumes : t.1.consumes P i)
      (htaken : takenIn i t = some f) (hqueued : (t.1.ipc.frames f).state = .rxQueued)
      (hfreed : freedIn t = [f])
      (hframes : t.2.ipc.frames = Function.update t.1.ipc.frames f {})
  | leaked (f : Fin 64) (htakes : t.1.TakesValid P i) (hconsumes : ¬ t.1.consumes P i)
      (htaken : takenIn i t = some f) (hqueued : (t.1.ipc.frames f).state = .rxQueued)
      (hfreed : freedIn t = [])
      (hframes : t.2.ipc.frames =
        Function.update t.1.ipc.frames f { t.1.ipc.frames f with state := .txReady })
  | idle (htakes : ¬ t.1.TakesValid P i) (htaken : takenIn i t = none) (hfreed : freedIn t = [])
      (hframes : t.2.ipc.frames = t.1.ipc.frames)

theorem freedIn_of_pool_eq {t : LinuxShm × LinuxShm}
    (h : ∀ f, t.2.ipc.isAllocated f = t.1.ipc.isAllocated f) : freedIn t = [] := by
  simp [freedIn, h]

theorem freedIn_of_discharge {t : LinuxShm × LinuxShm} (halloc : t.1.ipc.isAllocated f = true)
    (h : ∀ g, t.2.ipc.isAllocated g = (t.1.ipc.isAllocated g && !decide (f = g))) :
    freedIn t = [f] := by
  have hfreed : ∀ g, (t.1.ipc.isAllocated g && !t.2.ipc.isAllocated g) = (g == f) := by
    intro g
    rw [h]
    by_cases hg : f = g
    · subst hg
      simp [halloc]
    · cases t.1.ipc.isAllocated g <;> simp [hg, Ne.symm hg]
  simp only [freedIn, hfreed]
  rw [List.filter_beq, List.count_eq_one_of_mem (List.nodup_finRange 64) (List.mem_finRange f)]
  rfl

/-- **A turn ends in one of three ways.** -/
theorem egressTurn_end (P : Platform) (w : EgressWorkerContext A)
    (hi : w.interfaceId = interfaceOfIndex i)
    (s : EgressState A) : TurnEnd P i (s.shm, (egressTurn P w s).2.shm) := by
  have hturn := egressTurn_shm P w s
  simp only [hi] at hturn
  by_cases htakes : s.shm.TakesValid P i
  swap
  · -- no valid descriptor is taken
    obtain ⟨hres, hpool, hread⟩ := dequeueTx_of_not_takesValid htakes
    rw [if_neg hres] at hturn
    refine .idle htakes ?_ (freedIn_of_pool_eq fun f => ?_) ?_
    · simp only [takenIn, hturn]
      rw [if_neg]
      rintro ⟨hchanged, hvalid⟩
      rcases hread with hsame | hbad
      · exact hchanged hsame
      · exact hbad hvalid
    · exact hturn ▸ congrArg (Pool.isAllocated · f) hpool
    · exact hturn ▸ congrArg Pool.frames hpool
  obtain ⟨hhead, hread, hpool, hok⟩ := dequeueTx_of_takesValid htakes
  obtain ⟨-, -, f, hf, hqueued⟩ := checkTxDescriptor_eq_ok_iff.mp htakes.valid.check
  rw [LinuxShmIpc.pool_markTxReady hf] at hpool
  generalize linuxShmDequeueTxDescriptor P s.shm (interfaceOfIndex i) = r at hturn hhead hread hpool hok
  have hchanged : (r.2.2.region.txRings i).consumer.readSeq ≠
      (s.shm.region.txRings i).consumer.readSeq := by
    rw [hread]
    simp
  have halloc : ∀ g, r.2.2.ipc.isAllocated g = s.shm.ipc.isAllocated g :=
    fun g => congrArg (Pool.isAllocated · g) hpool
  have hframes : r.2.2.ipc.frames =
      Function.update s.shm.ipc.frames f { s.shm.ipc.frames f with state := .txReady } :=
    congrArg Pool.frames hpool
  by_cases hconsumes : s.shm.consumes P i
  · -- the descriptor is handed over, so its frame is released
    rw [if_pos (hok.mpr hconsumes), hhead, Option.getD_some,
      linuxShmFrameRelease_of_releasable ((congrArg Pool.initialized hpool).trans htakes.initialized) hf
        ((halloc f).trans hqueued.allocated) (.inr (.inl (by rw [hframes]; simp)))] at hturn
    have hdischarge : (r.2.2.ipc.discharge f ReclaimReason.none.code).pool =
        r.2.2.ipc.pool.discharge f :=
      LinuxShmIpc.pool_discharge
    refine .released f htakes hconsumes ?_ hqueued.state
      (freedIn_of_discharge hqueued.allocated fun g => ?_) ?_
    · simp only [takenIn, hturn]
      exact (if_pos ⟨hchanged, htakes.valid⟩).trans hf
    · have hbit := congrArg (Pool.isAllocated · g) hdischarge
      simp only [Pool.isAllocated_discharge] at hbit
      rw [hturn]
      exact hbit.trans (by rw [LinuxShmIpc.isAllocated_pool, halloc])
    · have hgone := congrArg Pool.frames hdischarge
      rw [hturn]
      refine hgone.trans ?_
      change Function.update r.2.2.ipc.frames f {} = _
      rw [hframes, Function.update_idem]
  · -- the dequeue reports a failure, and the frame stays as it marked it
    rw [if_neg fun h => hconsumes (hok.mp h)] at hturn
    refine .leaked f htakes hconsumes ?_ hqueued.state (freedIn_of_pool_eq fun g => ?_) ?_
    · simp only [takenIn, hturn]
      exact (if_pos ⟨hchanged, htakes.valid⟩).trans hf
    · rw [hturn]
      exact halloc g
    · rw [hturn]
      exact hframes

/-! ## A whole drain -/

/-- The turns of a drain, each with what it starts from and leaves. -/
def egressSteps (P : Platform) (w : EgressWorkerContext A) :
    ℕ → EgressState A → List (LinuxShm × LinuxShm)
  | 0, _ => []
  | n + 1, s =>
    let r := egressTurn P w s
    (s.shm, r.2.shm) :: if r.1 then egressSteps P w n r.2 else []

/-- The turns of `egress_worker_drain_once`. -/
def drainSteps (P : Platform) (w : EgressWorkerContext A) (s : EgressState A) :
    List (LinuxShm × LinuxShm) :=
  egressSteps P w w.turns { s with result := {} }

/-- **Every frame a drain of TX ring `i` takes is released, once.** The
frames of the valid descriptors it takes are those it gives back, in this
order, and each is taken once; and no frame waits for egress that did not
before. -/
structure ReleasesEveryFrame (P : Platform) (w : EgressWorkerContext A) (i : Fin 6)
    (s : EgressState A) : Prop where
  once : (drainSteps P w s).flatMap freedIn = (drainSteps P w s).filterMap (takenIn i)
  distinct : ((drainSteps P w s).filterMap (takenIn i)).Nodup
  ready : ∀ f, ((egressWorkerDrainOnce P w s).2.shm.ipc.frames f).state = .txReady →
    (s.shm.ipc.frames f).state = .txReady

/-- A frame that is with the RTOS after a turn was so before. -/
theorem TurnEnd.rxQueued {t : LinuxShm × LinuxShm} (h : TurnEnd P i t)
    (hf : (t.2.ipc.frames f).state = .rxQueued) : (t.1.ipc.frames f).state = .rxQueued := by
  cases h with
  | released g _ _ _ hqueued _ hframes =>
    rw [hframes, Function.update_apply] at hf
    split at hf
    · cases hf
    · exact hf
  | leaked g _ _ _ hqueued _ hframes =>
    rw [hframes, Function.update_apply] at hf
    split at hf
    · cases hf
    · exact hf
  | idle _ _ _ hframes => rwa [hframes] at hf

/-- A frame that waits before a turn is not one the turn takes. -/
theorem TurnEnd.stays {t : LinuxShm × LinuxShm} (h : TurnEnd P i t)
    (hf : (t.1.ipc.frames f).state = .txReady) : (t.2.ipc.frames f).state = .txReady := by
  have hother : ∀ g, (t.1.ipc.frames g).state = .rxQueued → f ≠ g := by
    rintro g hg rfl
    rw [hf] at hg
    cases hg
  cases h with
  | released g _ _ _ hqueued _ hframes =>
    rwa [hframes, Function.update_of_ne (hother g hqueued)]
  | leaked g _ _ _ hqueued _ hframes =>
    rwa [hframes, Function.update_of_ne (hother g hqueued)]
  | idle _ _ _ hframes => rwa [hframes]

/-- A frame a turn takes was with the RTOS, and is so no longer. -/
theorem TurnEnd.taken {t : LinuxShm × LinuxShm} (h : TurnEnd P i t) (hf : takenIn i t = some f) :
    (t.1.ipc.frames f).state = .rxQueued ∧ (t.2.ipc.frames f).state ≠ .rxQueued := by
  cases h with
  | released g _ _ htaken hqueued _ hframes =>
    obtain rfl := Option.some.inj (htaken.symm.trans hf)
    rw [hframes, Function.update_self]
    exact ⟨hqueued, by simp⟩
  | leaked g _ _ htaken hqueued _ hframes =>
    obtain rfl := Option.some.inj (htaken.symm.trans hf)
    rw [hframes, Function.update_self]
    exact ⟨hqueued, by simp⟩
  | idle _ htaken _ _ =>
    rw [htaken] at hf
    cases hf

section

variable (hi : w.interfaceId = interfaceOfIndex i)
include hi

/-- The frames a drain takes were with the RTOS when it began. -/
theorem rxQueued_of_taken (n : ℕ) :
    ∀ s : EgressState A, f ∈ (egressSteps P w n s).filterMap (takenIn i) →
      (s.shm.ipc.frames f).state = .rxQueued := by
  induction n with
  | zero =>
    intro s hf
    simp [egressSteps] at hf
  | succ n ih =>
    intro s hf
    have hend := egressTurn_end P w hi s
    obtain ⟨t, ht, htf⟩ := List.mem_filterMap.mp hf
    rcases List.mem_cons.mp ht with rfl | ht
    · exact (hend.taken htf).1
    · -- a later turn: what it takes, this turn has left alone
      apply hend.rxQueued
      split at ht
      · exact ih _ (List.mem_filterMap.mpr ⟨t, ht, htf⟩)
      · simp at ht

/-- No frame is taken twice. -/
theorem taken_nodup (n : ℕ) :
    ∀ s : EgressState A, ((egressSteps P w n s).filterMap (takenIn i)).Nodup := by
  induction n with
  | zero =>
    intro s
    simp [egressSteps]
  | succ n ih =>
    intro s
    have hend := egressTurn_end P w hi s
    have hrest : ((if (egressTurn P w s).1 then egressSteps P w n (egressTurn P w s).2
        else []).filterMap (takenIn i)).Nodup := by
      split
      · exact ih _
      · simp
    simp only [egressSteps, List.filterMap_cons]
    split
    · exact hrest
    next f hf =>
    refine List.nodup_cons.mpr ⟨fun hagain => ?_, hrest⟩
    split at hagain
    · exact (hend.taken hf).2 (rxQueued_of_taken hi n _ hagain)
    · simp at hagain

/-- A frame that waits for egress goes on waiting. -/
theorem txReady_stays (n : ℕ) :
    ∀ s : EgressState A, (s.shm.ipc.frames f).state = .txReady →
      ((egressTurns P w n s).shm.ipc.frames f).state = .txReady := by
  induction n with
  | zero => exact fun s hf => hf
  | succ n ih =>
    intro s hf
    have hnext := (egressTurn_end P w hi s).stays hf
    simp only [egressTurns]
    split
    · exact ih _ hnext
    · exact hnext

/-- **A turn whose last calls fail leaves its frame waiting.** -/
theorem leaves_txReady (n : ℕ) :
    ∀ s : EgressState A, (∃ t ∈ egressSteps P w n s, t.1.TakesValid P i ∧ ¬ t.1.consumes P i) →
      ∃ f, (s.shm.ipc.frames f).state = .rxQueued ∧
        ((egressTurns P w n s).shm.ipc.frames f).state = .txReady := by
  induction n with
  | zero =>
    rintro s ⟨t, ht, -⟩
    simp [egressSteps] at ht
  | succ n ih =>
    rintro s ⟨t, ht, htakes, hfails⟩
    have hend := egressTurn_end P w hi s
    rcases List.mem_cons.mp ht with rfl | ht
    · -- this turn: the frame it marks keeps waiting to the end
      cases hend with
      | released _ _ hconsumes => exact absurd hconsumes hfails
      | idle hno => exact absurd htakes hno
      | leaked f _ _ _ hqueued _ hframes =>
        have hmarked : ((egressTurn P w s).2.shm.ipc.frames f).state = .txReady := by
          rw [hframes, Function.update_self]
        refine ⟨f, hqueued, ?_⟩
        simp only [egressTurns]
        split
        · exact txReady_stays hi n _ hmarked
        · exact hmarked
    · -- a later turn
      split at ht
      next hon =>
        obtain ⟨f, hqueued, hready⟩ := ih _ ⟨t, ht, htakes, hfails⟩
        refine ⟨f, hend.rxQueued hqueued, ?_⟩
        simp only [egressTurns, hon]
        exact hready
      · simp at ht

/-- A drain whose last calls succeed gives back what it takes. -/
theorem freed_eq_taken (n : ℕ) :
    ∀ s : EgressState A,
      (∀ t ∈ egressSteps P w n s, t.1.TakesValid P i → t.1.consumes P i) →
      (egressSteps P w n s).flatMap freedIn = (egressSteps P w n s).filterMap (takenIn i) ∧
        ∀ f, ((egressTurns P w n s).shm.ipc.frames f).state = .txReady →
          (s.shm.ipc.frames f).state = .txReady := by
  induction n with
  | zero => exact fun s _ => ⟨rfl, fun f hf => hf⟩
  | succ n ih =>
    intro s hconsumes
    have hend := egressTurn_end P w hi s
    -- the later turns, if there are any, satisfy the statement
    have hrest : (if (egressTurn P w s).1 then egressSteps P w n (egressTurn P w s).2
          else []).flatMap freedIn =
        (if (egressTurn P w s).1 then egressSteps P w n (egressTurn P w s).2
          else []).filterMap (takenIn i) ∧
        ∀ f, ((egressTurns P w (n + 1) s).shm.ipc.frames f).state = .txReady →
          ((egressTurn P w s).2.shm.ipc.frames f).state = .txReady := by
      simp only [egressTurns]
      split
      next hon =>
        refine ih _ fun t ht => hconsumes t (List.mem_cons.mpr (.inr ?_))
        rw [if_pos hon]
        exact ht
      · exact ⟨rfl, fun f hf => hf⟩
    simp only [egressSteps, List.flatMap_cons, List.filterMap_cons]
    cases hend with
    | released f _ _ htaken hqueued hfreed hframes =>
      rw [htaken, hfreed, hrest.1]
      refine ⟨rfl, fun g hg => ?_⟩
      have hnext := hrest.2 g hg
      rw [hframes, Function.update_apply] at hnext
      split at hnext
      · cases hnext
      · exact hnext
    | leaked f htakes hfails =>
      -- a turn that leaks took a descriptor it did not consume
      exact absurd (hconsumes _ (List.mem_cons.mpr (.inl rfl)) htakes) hfails
    | idle _ htaken hfreed hframes =>
      rw [htaken, hfreed, hrest.1]
      refine ⟨rfl, fun g hg => ?_⟩
      have hnext := hrest.2 g hg
      rwa [hframes] at hnext

end

/-! ## When egress leaks -/

theorem egressWorkerDrainOnce_eq (hi : w.interfaceId = interfaceOfIndex i) :
    egressWorkerDrainOnce P w s = (.ok, egressTurns P w w.turns { s with result := {} }) := by
  have hvalid : ∀ i : Fin 6, ¬ interfaceOfIndex i ≥ 6 := by decide
  rw [egressWorkerDrainOnce, hi, if_neg (hvalid i)]

/-- **Egress releases every frame exactly where no turn that takes a valid
descriptor has a platform call fail after the `read_seq` store**, whatever
is in the ring, whatever the adapter does, and for any budget. A worker
whose interface does not exist takes nothing. -/
theorem egress_releases_iff (P : Platform) (w : EgressWorkerContext A) (s : EgressState A) :
    (∀ i, w.interfaceId = interfaceOfIndex i → ReleasesEveryFrame P w i s) ↔
      ∀ i, w.interfaceId = interfaceOfIndex i →
        ∀ t ∈ drainSteps P w s, t.1.TakesValid P i → t.1.consumes P i := by
  constructor
  · intro hreleases i hi t ht htakes
    by_contra hfails
    obtain ⟨f, hqueued, hready⟩ :=
      leaves_txReady hi w.turns { s with result := {} } ⟨t, ht, htakes, hfails⟩
    have hbefore := (hreleases i hi).ready f (by rwa [egressWorkerDrainOnce_eq hi])
    rw [hbefore] at hqueued
    cases hqueued
  · intro hconsumes i hi
    obtain ⟨honce, hready⟩ := freed_eq_taken hi w.turns { s with result := {} } (hconsumes i hi)
    refine ⟨honce, taken_nodup hi _ _, fun f hf => ?_⟩
    rw [egressWorkerDrainOnce_eq hi] at hf
    exact hready f hf

/-- Frame 0, from CAN, is with the RTOS, which has put its descriptor on
TX ring 1. -/
def forwardedShm : LinuxShm :=
  let descriptor : Descriptor := { frameLength := 40, targetInterface := 1 }
  let formatted := formatRegion 1 0
  let queued : FrameMeta := { state := .rxQueued, targetInterface := 1, allocationSequence := 1 }
  let ipc := resetLocalState { initialized := true }
  { ipc := { ipc with allocationBitmap := 1, frames := Function.update ipc.frames 0 queued }
    region := { formatted with
      txRings := Function.update formatted.txRings 1
        { formatted.txRings 1 with
          producer := { (formatted.txRings 1).producer with writeSeq := 1, enqueueCount := 1 }
          descriptors := fun _ => descriptor.sealed }
      txPendingBitmap := { bits := 2, setCount := 1 } }
    calls := 0 }

/-- The flush of the consumer line after the `read_seq` store fails. -/
def failingFlush : Platform := ⟨fun n => if n = 3 then .ipcOffline else .ok⟩

set_option maxRecDepth 100000 in
/-- The dequeue takes the descriptor and fails: its frame waits for ever. -/
theorem taken_frame_not_released :
    ¬ ∀ (P : Platform) (w : EgressWorkerContext Unit) (s : EgressState Unit) (i : Fin 6),
      w.interfaceId = interfaceOfIndex i → ReleasesEveryFrame P w i s := by
  intro h
  have hready := (h failingFlush ⟨putShmInterfaceEthernet, none, true, 1⟩
    ⟨forwardedShm, (), none, {}⟩ 1 rfl).ready 0 (by decide +kernel)
  exact absurd hready (by decide)

end Linux

end PutGateway
