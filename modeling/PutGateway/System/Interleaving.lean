import PutGateway.Common.RingFlag
import PutGateway.Linux.ShmSpec
import PutGateway.Rtos.ShmSpec
/-!
# Both cores on all rings, step by step

Every ring of the region has one producer and one consumer. Each of the
twenty-six works on its ring in steps, one access to the shared memory at
a time, and all of them interleave freely. The six RX rings share a
pending line, and so do the six TX rings.

For each ring the system is a queue with a flag
(`Interleaving.step_simulates`), and what holds of that protocol in every
run holds of the ring.
-/

namespace PutGateway

namespace System

open FlaggedQueue

/-! ## The rings -/

/-- A ring of the region. -/
inductive RingId
  | rx (i : Fin 6)
  | tx (i : Fin 6)
  | reclaim
  deriving DecidableEq

namespace RingId

/-- What lies on the ring. -/
abbrev Entry : RingId → Type
  | rx _ => Descriptor
  | tx _ => Descriptor
  | reclaim => ReclaimDescriptor

/-- The bit of the ring in its pending line. -/
def bit : RingId → UInt32
  | rx i => Linux.interfacePendingBit (UInt8.ofNat i)
  | tx i => Linux.interfacePendingBit (UInt8.ofNat i)
  | reclaim => 1

/-- The ring and its pending line. -/
def shared : (q : RingId) → Region → SharedRing q.Entry
  | rx i, R => ⟨R.rxRings i, R.rxPendingBitmap⟩
  | tx i, R => ⟨R.txRings i, R.txPendingBitmap⟩
  | reclaim, R => ⟨R.reclaimRing, R.reclaimPending⟩

/-- The region with another ring and pending line. -/
def put : (q : RingId) → Region → SharedRing q.Entry → Region
  | rx i, R, s =>
    { R with rxRings := Function.update R.rxRings i s.ring, rxPendingBitmap := s.pending }
  | tx i, R, s =>
    { R with txRings := Function.update R.txRings i s.ring, txPendingBitmap := s.pending }
  | reclaim, R, s => { R with reclaimRing := s.ring, reclaimPending := s.pending }

/-- The pending bit of the ring is set. -/
def isSet (q : RingId) (R : Region) : Bool := (q.shared R).pending.isSet q.bit

variable {q q' : RingId} {R : Region}

theorem bit_ne_zero (q : RingId) : q.bit ≠ 0 := by
  have hbit : ∀ i : Fin 6, Linux.interfacePendingBit (UInt8.ofNat i) ≠ 0 := by decide
  cases q with
  | rx i => exact hbit i
  | tx i => exact hbit i
  | reclaim => decide

theorem shared_put_self (s : SharedRing q.Entry) : q.shared (q.put R s) = s := by
  cases q with
  | rx i =>
    simp only [shared, put, Function.update_self]
  | tx i =>
    simp only [shared, put, Function.update_self]
  | reclaim => rfl

theorem shared_put_ring (h : q' ≠ q) (s : SharedRing q.Entry) :
    (q'.shared (q.put R s)).ring = (q'.shared R).ring := by
  cases q with
  | rx i =>
    cases q' with
    | rx j =>
      have hj : j ≠ i := fun hji => h (by rw [hji])
      exact Function.update_of_ne hj _ _
    | tx j => rfl
    | reclaim => rfl
  | tx i =>
    cases q' with
    | rx j => rfl
    | tx j =>
      have hj : j ≠ i := fun hji => h (by rw [hji])
      exact Function.update_of_ne hj _ _
    | reclaim => rfl
  | reclaim =>
    cases q' with
    | rx j => rfl
    | tx j => rfl
    | reclaim => exact absurd rfl h

/-- **The rings of one line keep out of each other's way.** Where only the
bit of one ring changes, every other ring keeps its bit. -/
theorem isSet_put (h : q' ≠ q) {s : SharedRing q.Entry}
    (hs : ∀ bit', q.bit &&& bit' = 0 → s.pending.isSet bit' = (q.shared R).pending.isSet bit') :
    q'.isSet (q.put R s) = q'.isSet R := by
  have hdisjoint : ∀ i j : Fin 6, i ≠ j →
      Linux.interfacePendingBit (UInt8.ofNat i) &&& Linux.interfacePendingBit (UInt8.ofNat j) = 0 := by
    decide
  cases q with
  | rx i =>
    cases q' with
    | rx j =>
      have hij : i ≠ j := fun hij => h (by rw [hij])
      exact hs _ (hdisjoint i j hij)
    | tx j => rfl
    | reclaim => rfl
  | tx i =>
    cases q' with
    | rx j => rfl
    | tx j =>
      have hij : i ≠ j := fun hij => h (by rw [hij])
      exact hs _ (hdisjoint i j hij)
    | reclaim => rfl
  | reclaim =>
    cases q' with
    | rx j => rfl
    | tx j => rfl
    | reclaim => exact absurd rfl h

end RingId

/-! ## Steps -/

/-- The region, and where each producer and consumer is. -/
structure Interleaving where
  region : Region
  producer : (q : RingId) → ProducerPc q.Entry
  consumer : RingId → ConsumerPc

/-- A step of one of them. A producer or consumer that is idle begins an
operation; one in an operation makes its next access. -/
inductive Access
  | enqueue (q : RingId) (d : q.Entry)
  | produce (q : RingId)
  | dequeue (q : RingId)
  | consume (q : RingId) (verdict : Verdict)

/-- The ring a step works on. -/
def Access.ring : Access → RingId
  | enqueue q _ => q
  | produce q => q
  | dequeue q => q
  | consume q _ => q

namespace Interleaving

/-- Nobody is in an operation. -/
def start (R : Region) : Interleaving := ⟨R, fun _ => .idle, fun _ => .idle⟩

/-- The next state. Only who is idle begins an operation. -/
def step (g : Interleaving) : Access → Interleaving
  | .enqueue q d =>
    match g.producer q with
    | .idle => { g with producer := Function.update g.producer q (.reading d) }
    | _ => g
  | .produce q =>
    let r := (g.producer q).step q.bit (q.shared g.region)
    { g with region := q.put g.region r.2, producer := Function.update g.producer q r.1 }
  | .dequeue q =>
    match g.consumer q with
    | .idle => { g with consumer := Function.update g.consumer q .reading }
    | _ => g
  | .consume q verdict =>
    let r := (g.consumer q).step q.bit verdict (q.shared g.region)
    { g with region := q.put g.region r.2, consumer := Function.update g.consumer q r.1 }

/-- A sequence of steps. -/
def run (g : Interleaving) (l : List Access) : Interleaving := l.foldl step g

/-- Neither side is in the middle of an operation on the ring. -/
def AtRest (g : Interleaving) (q : RingId) : Prop := g.producer q = .idle ∧ g.consumer q = .idle

/-- A ring, as a queue with a flag. -/
def flagged (g : Interleaving) (q : RingId) : State :=
  (q.shared g.region).flagged q.bit (g.producer q) (g.consumer q)

variable {g g' : Interleaving} {q : RingId} {a : Access}

/-! ## One step -/

/-- A step on another ring leaves a producer where it is. -/
theorem step_producer_ne (h : a.ring ≠ q) : (g.step a).producer q = g.producer q := by
  cases a with
  | enqueue q' d =>
    simp only [step]
    split
    · exact Function.update_of_ne (Ne.symm h) _ _
    · rfl
  | produce q' => exact Function.update_of_ne (Ne.symm h) _ _
  | dequeue q' =>
    simp only [step]
    split
    · rfl
    · rfl
  | consume q' verdict => rfl

theorem step_consumer_ne (h : a.ring ≠ q) : (g.step a).consumer q = g.consumer q := by
  cases a with
  | enqueue q' d =>
    simp only [step]
    split
    · rfl
    · rfl
  | produce q' => rfl
  | dequeue q' =>
    simp only [step]
    split
    · exact Function.update_of_ne (Ne.symm h) _ _
    · rfl
  | consume q' verdict => exact Function.update_of_ne (Ne.symm h) _ _

/-- A step on another ring leaves a ring as it is. -/
theorem step_ring_ne (h : a.ring ≠ q) :
    (q.shared (g.step a).region).ring = (q.shared g.region).ring := by
  cases a with
  | enqueue q' d =>
    simp only [step]
    split
    · rfl
    · rfl
  | produce q' => exact RingId.shared_put_ring (Ne.symm h) _
  | dequeue q' =>
    simp only [step]
    split
    · rfl
    · rfl
  | consume q' verdict => exact RingId.shared_put_ring (Ne.symm h) _

/-- **A step on another ring leaves the pending bit of a ring.** -/
theorem step_isSet_ne (h : a.ring ≠ q) : q.isSet (g.step a).region = q.isSet g.region := by
  cases a with
  | enqueue q' d =>
    simp only [step]
    split
    · rfl
    · rfl
  | produce q' => exact RingId.isSet_put (Ne.symm h) fun bit' hbit => ProducerPc.step_isSet hbit _
  | dequeue q' =>
    simp only [step]
    split
    · rfl
    · rfl
  | consume q' verdict =>
    exact RingId.isSet_put (Ne.symm h) fun bit' hbit => ConsumerPc.step_isSet hbit verdict _

/-- For a ring, a step on another ring is none. -/
theorem flagged_ne (h : a.ring ≠ q) : (g.step a).flagged q = g.flagged q := by
  have hring := step_ring_ne (g := g) h
  have hset := step_isSet_ne (g := g) h
  have hproducer := step_producer_ne (g := g) h
  have hconsumer := step_consumer_ne (g := g) h
  unfold flagged SharedRing.flagged
  rw [hring, hproducer, hconsumer]
  have hbit : (q.shared (g.step a).region).pending.isSet q.bit =
      (q.shared g.region).pending.isSet q.bit := hset
  rw [hbit]

/-! ## Every run -/

/-- Every ring has the depth of the ABI, and is sound as a queue with a
flag. -/
structure Orderly (g : Interleaving) : Prop where
  depthOk : ∀ q : RingId, (q.shared g.region).ring.DepthOk
  sound : ∀ q : RingId, Sound 8 (g.flagged q)

/-- **For every ring, a step is one of the protocol, or none.** -/
theorem step_simulates (h : Orderly g) (a : Access) (q : RingId) :
    StepOrStay 8 (g.flagged q) ((g.step a).flagged q) := by
  -- an access to another ring is a stutter
  by_cases hq : a.ring = q
  swap
  · rw [flagged_ne hq]
    exact .stay
  subst hq
  cases a with
  | enqueue q d =>
    simp only [Access.ring, step]
    split
    · next hidle =>
      have hstays : ({ g with producer := Function.update g.producer q (.reading d) } :
          Interleaving).flagged q = g.flagged q := by
        unfold flagged SharedRing.flagged
        simp only [Function.update_self, hidle]
        rfl
      rw [hstays]
      exact .stay
    · exact .stay
  | produce q =>
    have hstep := ProducerPc.step_simulates (h.depthOk q) q.bit_ne_zero (h.sound q)
    have hends : (g.step (.produce q)).flagged q =
        ((g.producer q).step q.bit (q.shared g.region)).2.flagged q.bit
          ((g.producer q).step q.bit (q.shared g.region)).1 (g.consumer q) := by
      unfold flagged
      simp only [step, RingId.shared_put_self, Function.update_self]
    simp only [Access.ring]
    rw [hends]
    exact hstep
  | dequeue q =>
    simp only [Access.ring, step]
    split
    · next hidle =>
      have hstays : ({ g with consumer := Function.update g.consumer q .reading } :
          Interleaving).flagged q = g.flagged q := by
        unfold flagged SharedRing.flagged
        simp only [Function.update_self, hidle]
        rfl
      rw [hstays]
      exact .stay
    · exact .stay
  | consume q verdict =>
    have hstep := ConsumerPc.step_simulates (h.depthOk q) q.bit_ne_zero verdict (h.sound q)
    have hends : (g.step (.consume q verdict)).flagged q =
        ((g.consumer q).step q.bit verdict (q.shared g.region)).2.flagged q.bit (g.producer q)
          ((g.consumer q).step q.bit verdict (q.shared g.region)).1 := by
      unfold flagged
      simp only [step, RingId.shared_put_self, Function.update_self]
    simp only [Access.ring]
    rw [hends]
    exact hstep

theorem step_depthOk (h : ∀ q : RingId, (q.shared g.region).ring.DepthOk) (a : Access) (q : RingId) :
    (q.shared (g.step a).region).ring.DepthOk := by
  by_cases hq : a.ring = q
  swap
  · rw [step_ring_ne hq]
    exact h q
  subst hq
  cases a with
  | enqueue q d =>
    simp only [Access.ring, step]
    split
    · exact h q
    · exact h q
  | produce q =>
    simp only [Access.ring, step, RingId.shared_put_self]
    exact ProducerPc.step_depthOk (h q) _
  | dequeue q =>
    simp only [Access.ring, step]
    split
    · exact h q
    · exact h q
  | consume q verdict =>
    simp only [Access.ring, step, RingId.shared_put_self]
    exact ConsumerPc.step_depthOk (h q) verdict _

theorem Orderly.step (h : Orderly g) (a : Access) : Orderly (g.step a) :=
  ⟨step_depthOk h.depthOk a, fun q => (h.sound q).stepOrStay (step_simulates h a q)⟩

/-- A region to start on: its rings are valid, hold what they have room
for, and have their bits set where they hold something. -/
structure Announced (R : Region) : Prop where
  valid : R.Valid
  bounded : R.Bounded
  isSet : ∀ q : RingId, (q.shared R).ring.unread ≠ [] → q.isSet R = true

theorem Announced.depthOk {R : Region} (h : Announced R) (q : RingId) : (q.shared R).ring.DepthOk := by
  cases q with
  | rx i => exact (h.valid.rx i).depthOk
  | tx i => exact (h.valid.tx i).depthOk
  | reclaim => exact h.valid.reclaim.depthOk

theorem Announced.length_le {R : Region} (h : Announced R) (q : RingId) :
    (q.shared R).ring.unread.length ≤ 8 := by
  cases q with
  | rx i => exact h.bounded.rx i
  | tx i => exact h.bounded.tx i
  | reclaim => exact h.bounded.reclaim

theorem Announced.orderly {R : Region} (h : Announced R) : Orderly (start R) := by
  refine ⟨h.depthOk, fun q => ⟨h.length_le q, fun b hp => ?_, fun hc => ?_, fun hpos => .inl ?_⟩⟩
  · cases hp
  · cases hc
  · exact h.isSet q (List.length_pos_iff.mp hpos)

/-- A region Linux has just formatted is one to start on. -/
theorem announced_formatRegion (linuxEpoch rtosEpoch : UInt32) :
    Announced (Linux.formatRegion linuxEpoch rtosEpoch) := by
  have hview := Linux.formatRegion_view linuxEpoch rtosEpoch
  have hempty : ∀ q : RingId,
      (q.shared (Linux.formatRegion linuxEpoch rtosEpoch)).ring.unread = [] := by
    intro q
    cases q with
    | rx i => exact congrFun (congrArg Queues.rx hview) i
    | tx i => exact congrFun (congrArg Queues.tx hview) i
    | reclaim => exact congrArg Queues.reclaim hview
  refine ⟨Linux.formatRegion_valid linuxEpoch rtosEpoch, ⟨fun i => ?_, fun i => ?_, ?_⟩,
    fun q hq => absurd (hempty q) hq⟩
  · rw [hview]
    exact Nat.zero_le _
  · rw [hview]
    exact Nat.zero_le _
  · rw [hview]
    exact Nat.zero_le _

/-- The states reached from a region to start on, by steps that are
allowed where they are taken. -/
inductive Reaches (allowed : Interleaving → Access → Prop) : Interleaving → Prop
  | start {R : Region} (h : Announced R) : Reaches allowed (start R)
  | step {g : Interleaving} (h : Reaches allowed g) (a : Access) (ha : allowed g a) :
      Reaches allowed (g.step a)

/-- The steps of a list are allowed where they are taken. -/
def Allows (allowed : Interleaving → Access → Prop) : Interleaving → List Access → Prop
  | _, [] => True
  | g, a :: l => allowed g a ∧ Allows allowed (g.step a) l

instance Allows.decidable {allowed : Interleaving → Access → Prop} [∀ g a, Decidable (allowed g a)] :
    ∀ g l, Decidable (Allows allowed g l)
  | _, [] => inferInstanceAs (Decidable True)
  | g, a :: l =>
    have : Decidable (Allows allowed (g.step a) l) := decidable _ l
    inferInstanceAs (Decidable (allowed g a ∧ Allows allowed (g.step a) l))

theorem Reaches.run {allowed : Interleaving → Access → Prop} {l : List Access}
    (h : Reaches allowed g) (hl : Allows allowed g l) : Reaches allowed (g.run l) := by
  induction l generalizing g with
  | nil => exact h
  | cons a l ih => exact ih (h.step a hl.1) hl.2

theorem allows_all (l : List Access) : Allows (fun _ _ => True) g l := by
  induction l generalizing g with
  | nil => trivial
  | cons a l ih => exact ⟨trivial, ih⟩

theorem Reaches.orderly {allowed : Interleaving → Access → Prop} (h : Reaches allowed g) :
    Orderly g := by
  induction h with
  | start h => exact h.orderly
  | step _ a _ ih => exact ih.step a

/-- **No update of a pending bit is lost.** In every interleaving of any
number of enqueues and dequeues on all rings: a ring that nobody works on
and that is not empty has its bit set, and a step on one ring leaves the
bit of every other. -/
theorem pending_bit_not_lost (h : Reaches (fun _ _ => True) g) :
    (∀ q : RingId, g.AtRest q → (q.shared g.region).ring.unread ≠ [] → q.isSet g.region = true) ∧
      ∀ (a : Access) (q : RingId), a.ring ≠ q → q.isSet (g.step a).region = q.isSet g.region := by
  refine ⟨fun q hrest hne => ?_, fun a q hq => step_isSet_ne hq⟩
  obtain ⟨hproducer, hconsumer⟩ := hrest
  refine (h.orderly.sound q).flag (fun b hp => ?_) ?_ (List.length_pos_iff.mpr hne)
  · simp only [flagged, SharedRing.flagged, hproducer] at hp
    cases hp
  · simp only [flagged, SharedRing.flagged, hconsumer]
    rfl

/-- An enqueue on the first RX ring, to its end. -/
def enqueueOnce (d : Descriptor) : List Access :=
  .enqueue (.rx 0) d :: List.replicate 7 (.produce (.rx 0))

/-- A dequeue on the first RX ring, up to where it has made `n` accesses. -/
def dequeueUpTo (n : ℕ) : List Access :=
  .dequeue (.rx 0) :: List.replicate n (.consume (.rx 0) .accepted)

/-- The consumer has taken the only entry and is about to clear the bit
when the producer publishes another one and sets it. -/
def lateClear : List Access :=
  enqueueOnce {} ++ dequeueUpTo 4 ++ .enqueue (.rx 0) {} ::
    (List.replicate 5 (.produce (.rx 0)) ++ List.replicate 5 (.consume (.rx 0) .accepted) ++
      List.replicate 2 (.produce (.rx 0)))

set_option maxRecDepth 100000 in
/-- After `lateClear` the ring is not empty, and its bit is set again. -/
theorem pending_bit_not_lost_late :
    (RingId.rx 0).isSet ((start (Linux.formatRegion 1 1)).run lateClear).region = true := by
  have hreaches := (Reaches.start (announced_formatRegion 1 1)).run (allows_all lateClear)
  have hlength : 0 < ((RingId.rx 0).shared
      ((start (Linux.formatRegion 1 1)).run lateClear).region).ring.unread.length := by
    decide +kernel
  exact (pending_bit_not_lost hreaches).1 (.rx 0) ⟨by decide +kernel, by decide +kernel⟩
    (List.length_pos_iff.mp hlength)

/-! ## The operations of the two cores -/

section

variable {P : Platform} {bit : UInt32} {σ D : Type}

/-- Setting the bit and ringing the doorbell, where the calls succeed. -/
theorem setPendingBit_ringDoorbell (hP : P.Succeeds) (onError onNotifyFail onNotify : σ → σ)
    (wasEmpty : Bool) (io : RingIo D σ) :
    ProducerPc.steps bit 4 (.setting wasEmpty, io.shared) =
      (.idle, ((io.setPendingBit P bit).2.ringDoorbell P onError onNotifyFail onNotify
        wasEmpty).2.shared) ∧ (io.setPendingBit P bit).1 = .ok := by
  have hset : io.setPendingBit P bit = (.ok, { io with
      pending := ⟨io.pending.bits ||| bit, io.pending.setCount + 1, io.pending.clearCount⟩
      calls := io.calls + 1 + 1 }) := by
    rw [RingIo.setPendingBit, RingIo.atomicOp_of_ok (hP _), andThen_of_ok rfl]
    exact RingIo.atomicOp_of_ok (hP _)
  rw [hset]
  refine ⟨?_, rfl⟩
  cases wasEmpty with
  | false => rfl
  | true =>
    simp only [RingIo.ringDoorbell, RingIo.notify, RingIo.call, RingIo.recordNotify, RingIo.cacheOp,
      hP _, if_true]
    rfl

/-- **The producers of the RTOS**, on a TX ring and on the reclaim ring, are
their steps. -/
theorem publishOn_eq_steps (hP : P.Succeeds) (d : D) (io : RingIo D Unit) :
    ProducerPc.steps bit 7 (.reading d, io.shared) =
      (.idle, (Rtos.publishOn P bit d io).2.shared) := by
  refine RingIo.enqueue_eq_steps hP id id (fun _ => id) (fun wasEmpty io => ?_) io d
  have hcache : io.cacheOp P id = (.ok, { io with calls := io.calls + 1 }) :=
    RingIo.cacheOp_of_ok _ _ (hP _)
  let made : RingIo D Unit := { io with calls := io.calls + 1 }
  have hsteps : ProducerPc.steps bit 4 (.setting wasEmpty, made.shared) = _ ∧ _ :=
    setPendingBit_ringDoorbell hP id id id wasEmpty made
  unfold Rtos.announce
  rw [hcache, andThen_of_ok rfl, andThen_of_ok hsteps.2]
  exact hsteps.1

/-- **The producer of Linux**, on an RX ring, is its steps. -/
theorem linuxEnqueue_eq_steps (hP : P.Succeeds) (onFull : Linux.LinuxShmIpc → Linux.LinuxShmIpc)
    (onPublish : UInt32 → Linux.LinuxShmIpc → Linux.LinuxShmIpc) (d : Descriptor)
    (io : RingIo Descriptor Linux.LinuxShmIpc) :
    ProducerPc.steps bit 7 (.reading d, io.shared) =
      (.idle, (io.enqueue P Linux.LinuxShmIpc.recordCacheSyncError onFull onPublish
        (Linux.announceRx P bit) d).2.shared) := by
  refine RingIo.enqueue_eq_steps hP _ onFull onPublish (fun wasEmpty io => ?_) io d
  have hcache : io.cacheOp P Linux.LinuxShmIpc.recordCacheSyncError =
      (.ok, { io with calls := io.calls + 1 }) := RingIo.cacheOp_of_ok _ _ (hP _)
  let made : RingIo Descriptor Linux.LinuxShmIpc := { io with calls := io.calls + 1 }
  have hsteps : ProducerPc.steps bit 4 (.setting wasEmpty, made.shared) = _ ∧ _ :=
    setPendingBit_ringDoorbell hP Linux.LinuxShmIpc.recordCacheSyncError
      Linux.LinuxShmIpc.recordNotifyFail Linux.LinuxShmIpc.recordDoorbell wasEmpty made
  have hset : ¬ (made.setPendingBit P bit).1 ≠ .ok := not_not.mpr hsteps.2
  unfold Linux.announceRx
  rw [hcache, if_neg (not_not.mpr rfl), if_neg hset]
  exact hsteps.1

/-- **The consumer of the RTOS**, on an RX ring, is its steps. -/
theorem rtosDequeue_eq_steps (hP : P.Succeeds) {i : Fin 6} (io : RingIo Descriptor Unit)
    (habi : io.ring.Abi .rx .linuxToRtos) (hid : io.ring.header.interfaceId = UInt8.ofNat i) :
    ConsumerPc.steps (RingId.rx i).bit
        ((Rtos.ringConsumer io.ring.header).verdict io.core io.ring.head) 7 (.reading, io.shared) =
      (.idle, (Rtos.rtosShmDescriptorRingDequeue P io).2.2.shared) := by
  have hown : Rtos.validateOwnHeader io.ring = .ok := Rtos.validateOwnHeader_of_abi (.inl rfl) habi
  have hbit : (Rtos.ringConsumer io.ring.header).pendingBit io.ring.header =
      .ok (RingId.rx i).bit := Rtos.pendingBitFromRing_of_abi (.inl rfl) habi hid
  unfold Rtos.rtosShmDescriptorRingDequeue
  rw [if_neg (not_not.mpr hown)]
  exact RingIo.dequeue_eq_steps hP _ io hbit

/-- **The consumers of Linux**, on a TX ring and on the reclaim ring, are
their steps. -/
theorem linuxDequeueTx_eq_steps (hP : P.Succeeds) {i : Fin 6}
    (io : RingIo Descriptor Linux.LinuxShmIpc) (hid : io.ring.header.interfaceId = UInt8.ofNat i)
    (interfaceId : PutShmInterface) :
    ConsumerPc.steps (RingId.tx i).bit
        ((Linux.txConsumer interfaceId).verdict io.core io.ring.head) 7 (.reading, io.shared) =
      (.idle, (io.dequeue P (Linux.txConsumer interfaceId)).2.2.shared) := by
  refine RingIo.dequeue_eq_steps hP _ io ?_
  have hbit : (Linux.txConsumer interfaceId).pendingBit io.ring.header =
      .ok (Linux.interfacePendingBit io.ring.header.interfaceId) := rfl
  rw [hbit, hid]
  rfl

theorem linuxDequeueReclaim_eq_steps (hP : P.Succeeds)
    (io : RingIo ReclaimDescriptor Linux.LinuxShmIpc) :
    ConsumerPc.steps RingId.reclaim.bit (Linux.reclaimConsumer.verdict io.core io.ring.head) 7
        (.reading, io.shared) =
      (.idle, (io.dequeue P Linux.reclaimConsumer).2.2.shared) :=
  RingIo.dequeue_eq_steps hP _ io rfl

end

end Interleaving

end System

end PutGateway
