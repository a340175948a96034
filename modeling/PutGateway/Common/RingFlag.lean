import PutGateway.Common.RingSteps
import PutGateway.Lib.BitSet
/-!
# The pending bit of a ring

A ring with its pending bit is a queue with a flag: the steps of its
producer and of its consumer are steps of that protocol, or change
nothing it speaks of.
-/

namespace PutGateway

open FlaggedQueue

variable {D : Type} {s : SharedRing D} {bit bit' : UInt32}

/-! ## Bits -/

/-- The bit is set in a pending line. -/
def PendingLine.isSet (line : PendingLine) (bit : UInt32) : Bool := line.bits &&& bit != 0

theorem PendingLine.isSet_or (line : PendingLine) (h : bit ≠ 0) :
    ({ line with bits := line.bits ||| bit } : PendingLine).isSet bit = true := by
  have hself : (line.bits ||| bit) &&& bit = bit :=
    UInt32.toBitVec_inj.mp (BitSet.or_and_self (x := line.bits.toBitVec) (m := bit.toBitVec))
  unfold isSet
  rw [bne_iff_ne]
  simp only [hself]
  exact h

theorem PendingLine.isSet_and_not (line : PendingLine) (bit : UInt32) :
    ({ line with bits := line.bits &&& ~~~bit } : PendingLine).isSet bit = false := by
  have hself : (line.bits &&& ~~~bit) &&& bit = 0 :=
    UInt32.toBitVec_inj.mp (BitSet.and_not_and_self (x := line.bits.toBitVec) (m := bit.toBitVec))
  unfold isSet
  simp only [hself, bne_self_eq_false]

theorem PendingLine.isSet_or_of_disjoint (line : PendingLine) (h : bit &&& bit' = 0) :
    ({ line with bits := line.bits ||| bit } : PendingLine).isSet bit' = line.isSet bit' := by
  have hsame : (line.bits ||| bit) &&& bit' = line.bits &&& bit' :=
    UInt32.toBitVec_inj.mp (BitSet.or_and_of_disjoint (x := line.bits.toBitVec)
      (UInt32.toBitVec_inj.mpr h))
  unfold isSet
  simp only [hsame]

theorem PendingLine.isSet_and_not_of_disjoint (line : PendingLine) (h : bit &&& bit' = 0) :
    ({ line with bits := line.bits &&& ~~~bit } : PendingLine).isSet bit' = line.isSet bit' := by
  have hsame : (line.bits &&& ~~~bit) &&& bit' = line.bits &&& bit' :=
    UInt32.toBitVec_inj.mp (BitSet.and_not_and_of_disjoint (x := line.bits.toBitVec)
      (UInt32.toBitVec_inj.mpr h))
  unfold isSet
  simp only [hsame]

/-! ## The protocol -/

/-- Where a producer is in the protocol. -/
def ProducerPc.phase : ProducerPc D → Producer
  | .writing _ wasEmpty => .sampled wasEmpty
  | .storing wasEmpty => .sampled wasEmpty
  | .setting wasEmpty => .published wasEmpty
  | _ => .resting

/-- Where a consumer is in the protocol. -/
def ConsumerPc.phase : ConsumerPc → Consumer
  | .checking _ => .seen
  | .taking _ => .seen
  | .rereading => .emptied
  | .clearing => .lowering
  | .countingClear => .lowered
  | .confirming => .lowered
  | .restoring => .lagging
  | _ => .resting

/-- A ring with its bit, as a queue with a flag. -/
def SharedRing.flagged (s : SharedRing D) (bit : UInt32) (p : ProducerPc D) (c : ConsumerPc) : State :=
  ⟨s.ring.unread.length, s.pending.isSet bit, p.phase, c.phase⟩

/-- Storing `write_seq` publishes one entry. -/
theorem SharedRing.length_storeWriteSeq (h : s.ring.unread.length < 8) :
    s.storeWriteSeq.ring.unread.length = s.ring.unread.length + 1 := by
  rw [Ring.length_unread] at h
  rw [Ring.length_unread, Ring.length_unread]
  have hnext : s.storeWriteSeq.ring.used = s.ring.used + 1 := by
    unfold Ring.used
    simp only [storeWriteSeq]
    rw [UInt32.sub_eq_add_neg, UInt32.sub_eq_add_neg, UInt32.add_assoc, UInt32.add_comm 1,
      ← UInt32.add_assoc]
  have hone : (1 : UInt32).toNat = 1 := rfl
  rw [hnext, UInt32.toNat_add, hone]
  omega

/-- **Every step of a producer is one of the protocol, or none.** -/
theorem ProducerPc.step_simulates (hd : s.ring.DepthOk) (hbit : bit ≠ 0) {p : ProducerPc D}
    {c : ConsumerPc} (h : Sound 8 (s.flagged bit p c)) :
    StepOrStay 8 (s.flagged bit p c) ((p.step bit s).2.flagged bit (p.step bit s).1 c) := by
  cases p with
  | idle => exact .stay
  | reading d =>
    by_cases hfull : s.ring.used ≥ s.ring.producer.depth
    · rw [step_reading_full hfull]
      exact .stay
    · rw [step_reading_room hfull]
      have hroom : s.ring.unread.length < 8 := hd.used_lt_iff.mp (UInt32.not_le.mp hfull)
      -- the producer sees the ring empty exactly when no entry is unread
      have hsaw : (s.ring.producer.writeSeq == s.ring.consumer.readSeq) =
          (s.ring.unread.length == 0) := by
        rw [Bool.eq_iff_iff, beq_iff_eq, beq_iff_eq, List.length_eq_zero_iff, Ring.unread_eq_nil_iff]
      have hstep : Step 8 (s.flagged bit (.reading d) c) (s.flagged bit (.writing d _) c) :=
        .sample rfl hroom
      rw [hsaw]
      exact .step hstep
  | writing d wasEmpty =>
    have hroom : s.ring.unread.length < 8 := h.room wasEmpty rfl
    have hstays : ((ProducerPc.writing d wasEmpty).step bit s).2.flagged bit
        ((ProducerPc.writing d wasEmpty).step bit s).1 c = s.flagged bit (.writing d wasEmpty) c := by
      -- the entry is invisible until the sequence is stored
      have hunread : (s.ring.stage d).unread = s.ring.unread := Ring.unread_stage hd hroom
      unfold SharedRing.flagged
      simp only [ProducerPc.step, hunread]
      rfl
    rw [hstays]
    exact .stay
  | storing wasEmpty =>
    have hroom : s.ring.unread.length < 8 := h.room wasEmpty rfl
    have hstep : Step 8 (s.flagged bit (.storing wasEmpty) c) _ := .publish rfl
    have hends : s.storeWriteSeq.flagged bit (.setting wasEmpty) c =
        { s.flagged bit (.storing wasEmpty) c with
          count := s.ring.unread.length + 1, producer := .published wasEmpty } := by
      unfold SharedRing.flagged
      rw [SharedRing.length_storeWriteSeq hroom]
      rfl
    simp only [ProducerPc.step]
    rw [hends]
    exact .step hstep
  | setting wasEmpty =>
    have hstep : Step 8 (s.flagged bit (.setting wasEmpty) c) _ := .raise rfl
    have hends : (s.setBit bit).flagged bit (.counting wasEmpty) c =
        { s.flagged bit (.setting wasEmpty) c with flag := true, producer := .resting } := by
      have hset : (s.setBit bit).pending.isSet bit = true := PendingLine.isSet_or s.pending hbit
      unfold SharedRing.flagged
      rw [hset]
      rfl
    simp only [ProducerPc.step]
    rw [hends]
    exact .step hstep
  | counting wasEmpty =>
    cases wasEmpty
    · exact .stay
    · exact .stay
  | notifying => exact .stay
  | recording => exact .stay

/-- **Every step of a consumer is one of the protocol, or none.** -/
theorem ConsumerPc.step_simulates (hd : s.ring.DepthOk) (hbit : bit ≠ 0) (verdict : Verdict)
    {p : ProducerPc D} {c : ConsumerPc} (h : Sound 8 (s.flagged bit p c)) :
    StepOrStay 8 (s.flagged bit p c)
      ((c.step bit verdict s).2.flagged bit p (c.step bit verdict s).1) := by
  have hentry : 0 < s.ring.unread.length ↔ s.ring.producer.writeSeq ≠ s.ring.consumer.readSeq := by
    rw [List.length_pos_iff, ne_eq, Ring.unread_eq_nil_iff]
  have hempty : s.ring.unread.length = 0 ↔ s.ring.producer.writeSeq = s.ring.consumer.readSeq := by
    rw [List.length_eq_zero_iff, Ring.unread_eq_nil_iff]
  cases c with
  | idle => exact .stay
  | reading =>
    by_cases hnone : s.ring.producer.writeSeq = s.ring.consumer.readSeq
    · rw [step_reading_empty hnone]
      exact .stay
    · rw [step_reading_entry hnone]
      have hstep : Step 8 (s.flagged bit p .reading) 
          (s.flagged bit p (.checking s.ring.producer.writeSeq)) := .see rfl (hentry.mpr hnone)
      exact .step hstep
  | checking writeSeq =>
    cases verdict
    · exact .stay
    · exact .stay
    · exact .stay
  | taking writeSeq =>
    have hpos : 0 < s.ring.unread.length := h.entry rfl
    have htake : s.ring.take.unread.length = s.ring.unread.length - 1 := by
      rw [Ring.unread_take hd (hentry.mp hpos), List.length_cons, Nat.add_sub_cancel]
    have hends : ∀ c : ConsumerPc, ({ s with ring := s.ring.take } : SharedRing D).flagged bit p c =
        { s.flagged bit p (.taking writeSeq) with
          count := s.ring.unread.length - 1, consumer := c.phase } := by
      intro c
      unfold SharedRing.flagged
      rw [htake]
    by_cases hlast : s.ring.consumer.readSeq + 1 = writeSeq
    · have hstep : Step 8 (s.flagged bit p (.taking writeSeq)) _ := .takeLast rfl
      rw [step_taking_last hlast, hends]
      exact .step hstep
    · have hstep : Step 8 (s.flagged bit p (.taking writeSeq)) _ := .take rfl
      rw [step_taking_left hlast, hends]
      exact .step hstep
  | rereading =>
    by_cases hnew : s.ring.consumer.readSeq = s.ring.producer.writeSeq
    · have hstep : Step 8 (s.flagged bit p .rereading) (s.flagged bit p .clearing) :=
        .lookAgain rfl (hempty.mpr hnew.symm)
      rw [step_rereading_empty hnew]
      exact .step hstep
    · have hstep : Step 8 (s.flagged bit p .rereading) (s.flagged bit p .idle) :=
        .stay rfl (hentry.mpr (Ne.symm hnew))
      rw [step_rereading_new hnew]
      exact .step hstep
  | clearing =>
    have hstep : Step 8 (s.flagged bit p .clearing) _ := .lower rfl
    have hends : (s.clearBit bit).flagged bit p .countingClear =
        { s.flagged bit p .clearing with flag := false, consumer := .lowered } := by
      have hset : (s.clearBit bit).pending.isSet bit = false := PendingLine.isSet_and_not s.pending bit
      unfold SharedRing.flagged
      rw [hset]
      rfl
    simp only [ConsumerPc.step]
    rw [hends]
    exact .step hstep
  | countingClear => exact .stay
  | confirming =>
    by_cases hnew : s.ring.consumer.readSeq = s.ring.producer.writeSeq
    · have hstep : Step 8 (s.flagged bit p .confirming) (s.flagged bit p .idle) :=
        .settle rfl (hempty.mpr hnew.symm)
      rw [step_confirming_empty hnew]
      exact .step hstep
    · have hstep : Step 8 (s.flagged bit p .confirming) (s.flagged bit p .restoring) :=
        .lag rfl (hentry.mpr (Ne.symm hnew))
      rw [step_confirming_new hnew]
      exact .step hstep
  | restoring =>
    have hstep : Step 8 (s.flagged bit p .restoring) _ := .restore rfl
    have hends : (s.setBit bit).flagged bit p .countingSet =
        { s.flagged bit p .restoring with flag := true, consumer := .resting } := by
      have hset : (s.setBit bit).pending.isSet bit = true := PendingLine.isSet_or s.pending hbit
      unfold SharedRing.flagged
      rw [hset]
      rfl
    simp only [ConsumerPc.step]
    rw [hends]
    exact .step hstep
  | countingSet => exact .stay

/-! ## What a step does to the queue -/

/-- A step of a producer takes nothing. -/
theorem ProducerPc.length_step (hd : s.ring.DepthOk) {p : ProducerPc D} {c : ConsumerPc}
    (h : Sound 8 (s.flagged bit p c)) :
    s.ring.unread.length ≤ (p.step bit s).2.ring.unread.length := by
  cases p with
  | reading d =>
    by_cases hfull : s.ring.used ≥ s.ring.producer.depth
    · rw [step_reading_full hfull]
      exact le_refl _
    · rw [step_reading_room hfull]
  | writing d wasEmpty =>
    have hunread : (s.ring.stage d).unread = s.ring.unread := Ring.unread_stage hd (h.room wasEmpty rfl)
    simp only [step, hunread]
    exact le_refl _
  | storing wasEmpty =>
    have hnext := SharedRing.length_storeWriteSeq (h.room wasEmpty rfl)
    simp only [step, hnext]
    omega
  | idle | setting | counting | notifying | recording => exact le_refl _

/-- The producer has found an entry and not published its own yet. -/
def ProducerPc.foundEntry : ProducerPc D → Bool
  | .writing _ wasEmpty => !wasEmpty
  | .storing wasEmpty => !wasEmpty
  | _ => false

/-- The consumer stores `read_seq` next. -/
def ConsumerPc.isTaking : ConsumerPc → Bool
  | .taking _ => true
  | _ => false

theorem ProducerPc.foundEntry_iff {p : ProducerPc D} :
    p.foundEntry = true ↔ p.phase = .sampled false := by
  cases p with
  | writing d wasEmpty => cases wasEmpty <;> simp [foundEntry, ProducerPc.phase]
  | storing wasEmpty => cases wasEmpty <;> simp [foundEntry, ProducerPc.phase]
  | idle | reading | setting | counting | notifying | recording =>
    simp [foundEntry, ProducerPc.phase]

/-- A consumer takes an entry where it stores `read_seq`. -/
theorem ConsumerPc.length_step (hd : s.ring.DepthOk) (verdict : Verdict) {p : ProducerPc D}
    {c : ConsumerPc} (h : Sound 8 (s.flagged bit p c)) :
    (c.step bit verdict s).2.ring.unread.length =
      if c.isTaking = true then s.ring.unread.length - 1 else s.ring.unread.length := by
  cases c with
  | reading =>
    by_cases hnone : s.ring.producer.writeSeq = s.ring.consumer.readSeq
    · rw [step_reading_empty hnone]
      rfl
    · rw [step_reading_entry hnone]
      rfl
  | taking writeSeq =>
    have hne : s.ring.producer.writeSeq ≠ s.ring.consumer.readSeq := by
      rw [ne_eq, ← Ring.unread_eq_nil_iff]
      exact List.length_pos_iff.mp (h.entry rfl)
    have htake : s.ring.take.unread.length = s.ring.unread.length - 1 := by
      rw [Ring.unread_take hd hne, List.length_cons, Nat.add_sub_cancel]
    exact htake
  | checking writeSeq =>
    cases verdict
    · rfl
    · rfl
    · rfl
  | idle | rereading | clearing | countingClear | confirming | restoring | countingSet =>
    rfl

/-! ## What a step leaves alone -/

/-- A step of a producer leaves every other bit. -/
theorem ProducerPc.step_isSet (h : bit &&& bit' = 0) (p : ProducerPc D) :
    (p.step bit s).2.pending.isSet bit' = s.pending.isSet bit' := by
  cases p with
  | reading d =>
    by_cases hfull : s.ring.used ≥ s.ring.producer.depth
    · rw [step_reading_full hfull]
      rfl
    · rw [step_reading_room hfull]
  | setting wasEmpty => exact s.pending.isSet_or_of_disjoint h
  | idle | writing | storing | counting | notifying | recording => rfl

/-- A step of a consumer leaves every other bit. -/
theorem ConsumerPc.step_isSet (h : bit &&& bit' = 0) (verdict : Verdict) (c : ConsumerPc) :
    (c.step bit verdict s).2.pending.isSet bit' = s.pending.isSet bit' := by
  cases c with
  | reading =>
    by_cases hnone : s.ring.producer.writeSeq = s.ring.consumer.readSeq
    · rw [step_reading_empty hnone]
    · rw [step_reading_entry hnone]
  | clearing => exact s.pending.isSet_and_not_of_disjoint h
  | restoring => exact s.pending.isSet_or_of_disjoint h
  | idle | checking | taking | rereading | countingClear | confirming | countingSet => rfl

/-- A step of either party leaves the depth of the ring. -/
theorem ProducerPc.step_depthOk (hd : s.ring.DepthOk) (p : ProducerPc D) :
    (p.step bit s).2.ring.DepthOk := by
  cases p with
  | reading d =>
    by_cases hfull : s.ring.used ≥ s.ring.producer.depth
    · rw [step_reading_full hfull]
      exact ⟨hd.header, hd.producer⟩
    · rw [step_reading_room hfull]
      exact ⟨hd.header, hd.producer⟩
  | idle | writing | storing | setting | counting | notifying | recording =>
    exact ⟨hd.header, hd.producer⟩

theorem ConsumerPc.step_depthOk (hd : s.ring.DepthOk) (verdict : Verdict) (c : ConsumerPc) :
    (c.step bit verdict s).2.ring.DepthOk := by
  cases c with
  | reading =>
    by_cases hnone : s.ring.producer.writeSeq = s.ring.consumer.readSeq
    · rw [step_reading_empty hnone]
      exact ⟨hd.header, hd.producer⟩
    · rw [step_reading_entry hnone]
      exact ⟨hd.header, hd.producer⟩
  | idle | checking | taking | rereading | clearing | countingClear | confirming | restoring |
    countingSet => exact ⟨hd.header, hd.producer⟩

end PutGateway
