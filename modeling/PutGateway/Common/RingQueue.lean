import PutGateway.Common.RingSpec
/-!
# The queue a ring stands for

A ring of depth eight, read as a `SeqRing`: its unread entries, oldest
first. Publishing appends an entry, staging one changes nothing, taking
removes the head, for all values of the two 32-bit sequence numbers.
-/

namespace PutGateway

namespace Ring

variable {D : Type} {r r' : Ring D} {d : D}

/-- A ring as a sequence-numbered ring. -/
def toSeq (r : Ring D) : SeqRing D 32 8 :=
  ⟨r.descriptors, r.consumer.readSeq.toBitVec, r.producer.writeSeq.toBitVec⟩

/-- The unread entries, oldest first. -/
def unread (r : Ring D) : List D := r.toSeq.unread

/-- Both copies of the depth are the ABI's. -/
structure DepthOk (r : Ring D) : Prop where
  header : r.header.depth = putShmDescriptorRingDepth
  producer : r.producer.depth = putShmDescriptorRingDepth.toUInt32

/-- At most eight entries are unread. -/
def Bounded (r : Ring D) : Prop := r.used ≤ 8

theorem slotIndex_eq (seq : UInt32) :
    slotIndex seq putShmDescriptorRingDepth.toUInt32 = SeqRing.slot 8 seq.toBitVec := by
  have hmod : (seq % putShmDescriptorRingDepth.toUInt32).toNat = seq.toNat % 8 :=
    UInt32.toNat_mod seq 8
  apply Fin.ext
  simp only [slotIndex, SeqRing.slot, Fin.val_ofNat, hmod, Nat.mod_mod]
  rfl

theorem length_unread : r.unread.length = r.used.toNat := SeqRing.length_unread

theorem DepthOk.used_lt_iff (h : DepthOk r) :
    r.used < r.producer.depth ↔ r.unread.length < 8 := by
  rw [length_unread, h.producer]
  exact UInt32.lt_iff_toNat_lt

theorem bounded_iff : r.Bounded ↔ r.unread.length ≤ 8 := by
  rw [length_unread]
  exact UInt32.le_iff_toNat_le

theorem Kept.toSeq (h : Kept r r') : r'.toSeq = r.toSeq := by
  simp only [Ring.toSeq, h.descriptors, h.readSeq, h.writeSeq]

theorem Kept.unread (h : Kept r r') : r'.unread = r.unread := by
  simp only [Ring.unread, h.toSeq]

theorem DepthOk.toSeq_publish (h : DepthOk r) (d : D) : (r.publish d).toSeq = r.toSeq.push d := by
  simp only [toSeq, Ring.publish, Ring.stage, SeqRing.push, h.producer, slotIndex_eq,
    UInt32.toBitVec_add]
  rfl

theorem DepthOk.toSeq_stage (h : DepthOk r) (d : D) : (r.stage d).toSeq = r.toSeq.stage d := by
  simp only [toSeq, Ring.stage, SeqRing.stage, h.producer, slotIndex_eq]

theorem toSeq_take : r.take.toSeq = r.toSeq.pop := by
  simp only [toSeq, Ring.take, SeqRing.pop, UInt32.toBitVec_add]
  rfl

theorem DepthOk.toSeq_head (h : DepthOk r) : r.toSeq.head = r.head := by
  have hdepth : r.header.depth.toUInt32 = putShmDescriptorRingDepth.toUInt32 := by rw [h.header]
  simp only [toSeq, Ring.head, SeqRing.head, hdepth, slotIndex_eq]

private theorem dvd_seq : 8 ∣ 2 ^ 32 := by decide

private theorem lt_seq : 8 < 2 ^ 32 := by decide

/-- **Publishing appends.** -/
theorem unread_publish (h : DepthOk r) (hused : r.unread.length < 8) :
    (r.publish d).unread = r.unread ++ [d] := by
  rw [length_unread] at hused
  simp only [unread, h.toSeq_publish]
  exact SeqRing.unread_push dvd_seq lt_seq d hused

/-- Writing the next slot changes no unread entry. -/
theorem unread_stage (h : DepthOk r) (hused : r.unread.length < 8) :
    (r.stage d).unread = r.unread := by
  rw [length_unread] at hused
  simp only [unread, h.toSeq_stage]
  exact SeqRing.unread_stage dvd_seq d hused

/-- **Taking removes the head.** -/
theorem unread_take (h : DepthOk r) (hne : r.producer.writeSeq ≠ r.consumer.readSeq) :
    r.unread = r.head :: r.take.unread := by
  have hne' : r.toSeq.write ≠ r.toSeq.read := fun heq => hne (UInt32.toBitVec_inj.mp heq)
  simp only [unread, toSeq_take, ← h.toSeq_head]
  exact SeqRing.unread_pop hne'

/-- A ring is empty exactly when its counters agree. -/
theorem unread_eq_nil_iff : r.unread = [] ↔ r.producer.writeSeq = r.consumer.readSeq :=
  SeqRing.unread_eq_nil_iff.trans UInt32.toBitVec_inj

end Ring

end PutGateway
