import PutGateway.Common.RingFlag
/-!
# The pending bit between operations

`RingFlag` speaks of the accesses of an operation while those of the other
side come in between, and then a bit may be set on an empty ring. Where
an operation runs to its end undisturbed it leaves the bit exact: set
where the ring holds an entry, and clear where it holds none.
-/

namespace PutGateway

variable {D : Type} {s s' : SharedRing D} {bit bit' : UInt32}

namespace SharedRing

/-- **The bit tells** whether an entry is unread. -/
def Tells (s : SharedRing D) (bit : UInt32) : Prop :=
  s.pending.isSet bit = true ↔ s.ring.unread ≠ []

/-- The same of the two sequence numbers. -/
theorem tells_iff : s.Tells bit ↔
    (s.pending.isSet bit = true ↔ s.ring.producer.writeSeq ≠ s.ring.consumer.readSeq) := by
  unfold Tells
  rw [ne_eq, Ring.unread_eq_nil_iff]

/-- Counters do not matter. -/
theorem Tells.congr (h : s.Tells bit) (hbits : s'.pending.bits = s.pending.bits)
    (hwrite : s'.ring.producer.writeSeq = s.ring.producer.writeSeq)
    (hread : s'.ring.consumer.readSeq = s.ring.consumer.readSeq) : s'.Tells bit := by
  rw [tells_iff, PendingLine.isSet] at h ⊢
  rw [hbits, hwrite, hread]
  exact h

/-- A ring whose bit is set and that holds an entry. -/
theorem Tells.set (hset : s.pending.isSet bit = true)
    (hne : s.ring.producer.writeSeq ≠ s.ring.consumer.readSeq) : s.Tells bit :=
  tells_iff.mpr (iff_of_true hset hne)

/-- A ring whose bit is clear and that holds none. -/
theorem Tells.clear (hset : s.pending.isSet bit = false)
    (heq : s.ring.producer.writeSeq = s.ring.consumer.readSeq) : s.Tells bit := by
  refine tells_iff.mpr (iff_of_false ?_ (not_not.mpr heq))
  rw [hset]
  exact Bool.false_ne_true

end SharedRing

open SharedRing

/-! ## Other bits -/

/-- The steps of a producer leave every other bit. -/
theorem ProducerPc.steps_isSet (h : bit &&& bit' = 0) (n : ℕ) (x : ProducerPc D × SharedRing D) :
    (ProducerPc.steps bit n x).2.pending.isSet bit' = x.2.pending.isSet bit' := by
  induction n generalizing x with
  | zero => rfl
  | succ n ih => exact (ih _).trans (step_isSet h x.1)

/-- The steps of a consumer leave every other bit. -/
theorem ConsumerPc.steps_isSet (h : bit &&& bit' = 0) (verdict : Verdict) (n : ℕ)
    (x : ConsumerPc × SharedRing D) :
    (ConsumerPc.steps bit verdict n x).2.pending.isSet bit' = x.2.pending.isSet bit' := by
  induction n generalizing x with
  | zero => rfl
  | succ n ih => exact (ih _).trans (step_isSet h verdict x.1)

/-! ## A whole operation -/

/-- A ring with room is not empty once an entry has been published. -/
theorem Ring.writeSeq_succ_ne {r : Ring D} (hroom : r.used < r.producer.depth) :
    r.producer.writeSeq + 1 ≠ r.consumer.readSeq := by
  intro heq
  -- the sequence numbers would be 2^32 - 1 apart
  have hused : r.used = UInt32.ofNat (2 ^ 32 - 1) := by
    have hwrite : r.producer.writeSeq = r.consumer.readSeq - 1 := by
      rw [← heq, UInt32.add_sub_cancel]
    unfold used
    rw [hwrite, UInt32.sub_eq_add_neg, UInt32.sub_eq_add_neg, UInt32.add_comm, ← UInt32.add_assoc,
      UInt32.add_left_neg]
    rfl
  rw [hused, UInt32.lt_iff_toNat_lt] at hroom
  have hlast : (UInt32.ofNat (2 ^ 32 - 1)).toNat = 2 ^ 32 - 1 := rfl
  have hbound := r.producer.depth.toNat_lt
  omega

/-- **An enqueue leaves the bit exact.** -/
theorem ProducerPc.steps_tells (hbit : bit ≠ 0) (h : s.Tells bit) (d : D) :
    (ProducerPc.steps bit 7 (.reading d, s)).2.Tells bit := by
  rw [ProducerPc.steps_succ]
  by_cases hfull : s.ring.used ≥ s.ring.producer.depth
  · rw [step_reading_full hfull, ProducerPc.steps_idle]
    exact h.congr rfl rfl rfl
  rw [step_reading_room hfull]
  have hset : (s.setBit bit).pending.isSet bit = true := PendingLine.isSet_or s.pending hbit
  have hne := Ring.writeSeq_succ_ne (UInt32.not_le.mp hfull)
  -- with the doorbell or without it
  cases s.ring.producer.writeSeq == s.ring.consumer.readSeq
  · exact .set hset hne
  · exact .set hset hne

/-- **A dequeue leaves the bit exact.** -/
theorem ConsumerPc.steps_tells (h : s.Tells bit) (verdict : Verdict) :
    (ConsumerPc.steps bit verdict 7 (.reading, s)).2.Tells bit := by
  rw [ConsumerPc.steps_succ]
  by_cases hempty : s.ring.producer.writeSeq = s.ring.consumer.readSeq
  · rw [step_reading_empty hempty, ConsumerPc.steps_idle]
    exact h
  rw [step_reading_entry hempty, ConsumerPc.steps_succ]
  let counted : SharedRing D :=
    { s with ring := { s.ring with consumer := verdict.count s.ring.consumer } }
  let taken : SharedRing D := { counted with ring := counted.ring.take }
  have hread : counted.ring.consumer.readSeq = s.ring.consumer.readSeq := by
    cases verdict
    · rfl
    · rfl
    · rfl
  have hchecking : (ConsumerPc.checking s.ring.producer.writeSeq).step bit verdict s =
      (.taking s.ring.producer.writeSeq, counted) := rfl
  have hset : s.pending.isSet bit = true := (tells_iff.mp h).mpr hempty
  rw [hchecking, ConsumerPc.steps_succ]
  by_cases hlast : counted.ring.consumer.readSeq + 1 = s.ring.producer.writeSeq
  swap
  · -- an entry is left, and the bit was set for the one taken
    rw [step_taking_left hlast, ConsumerPc.steps_idle]
    exact .set hset (Ne.symm hlast)
  have htaking : (ConsumerPc.taking s.ring.producer.writeSeq).step bit verdict counted =
      (.rereading, taken) := step_taking_last hlast
  have hreading : ConsumerPc.rereading.step bit verdict taken = (.clearing, taken) :=
    step_rereading_empty hlast
  have hconfirming : ConsumerPc.confirming.step bit verdict (taken.clearBit bit).countClear =
      (.idle, (taken.clearBit bit).countClear) := step_confirming_empty hlast
  have hcleared : ConsumerPc.steps bit verdict 3 (.clearing, taken) =
      ConsumerPc.steps bit verdict 0
        (ConsumerPc.confirming.step bit verdict (taken.clearBit bit).countClear) := rfl
  rw [htaking, ConsumerPc.steps_succ, hreading, hcleared, hconfirming]
  exact .clear (PendingLine.isSet_and_not taken.pending bit) hlast.symm

end PutGateway
