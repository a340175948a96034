import PutGateway.System.Interleaving
/-!
# The doorbell of a ring that is no longer empty

A producer notifies where it found the ring empty when it read `read_seq`,
which is several accesses before it stores `write_seq`. What it found
stays right unless the consumer takes the last entry in between
(`drains`): then the ring goes from empty to non-empty and nobody is
notified.
-/

namespace PutGateway

namespace System

/-- A step of the producer of a ring. -/
def Access.produces (q : RingId) : Access → Bool
  | .produce q' => q' = q
  | _ => false

namespace Interleaving

open FlaggedQueue

variable {g : Interleaving} {q : RingId} {a : Access} {l : List Access}

/-! ## Being notified -/

/-- In a run the producer of `q` calls `notify`, in the enqueue it is in
at the start. -/
def Notifies (g : Interleaving) (q : RingId) (l : List Access) : Prop :=
  ∃ l₁ l₂, l = l₁ ++ .produce q :: l₂ ∧ (g.run l₁).producer q = .notifying ∧
    ∀ l₀, l₀ <+: l₁ → (g.run l₀).producer q ≠ .idle

/-- **The store of `write_seq` is followed by a notification**: in every
run in which the producer makes three more accesses after it, it calls
`notify`, in that same enqueue. -/
def RingsDoorbell (g : Interleaving) (q : RingId) : Prop :=
  ∀ l : List Access, 3 ≤ l.countP (Access.produces q) → Notifies (g.step (.produce q)) q l

theorem Notifies.cons (hp : g.producer q ≠ .idle) (h : Notifies (g.step a) q l) :
    Notifies g q (a :: l) := by
  obtain ⟨l₁, l₂, rfl, hnotify, hbusy⟩ := h
  refine ⟨a :: l₁, l₂, rfl, hnotify, fun l₀ hl₀ => ?_⟩
  cases l₀ with
  | nil => exact hp
  | cons b l₀ =>
    obtain ⟨rfl, hprefix⟩ := List.cons_prefix_cons.mp hl₀
    exact hbusy l₀ hprefix

/-- A step that is none of the producer's leaves it where it is. -/
theorem step_producer_of_busy (hp : g.producer q ≠ .idle) (ha : a.produces q = false) :
    (g.step a).producer q = g.producer q := by
  by_cases hq : a.ring = q
  swap
  · exact step_producer_ne hq
  cases a with
  | enqueue q' d =>
    simp only [Access.ring] at hq
    subst hq
    -- a producer that is busy begins nothing
    simp only [step]
  | produce q' =>
    have hyes : (Access.produce q').produces q = true := decide_eq_true hq
    rw [hyes] at ha
    cases ha
  | dequeue q' =>
    simp only [step]
    split
    · rfl
    · rfl
  | consume q' verdict => rfl

/-- A producer whose next step leads to a place from where it notifies
within `n` steps of its own notifies within `n + 1`. -/
theorem notifies_succ {n : ℕ} {pc pc' : ProducerPc q.Entry} (hbusy : pc ≠ .idle)
    (hstep : ∀ s, (pc.step q.bit s).1 = pc')
    (hnext : ∀ g l, g.producer q = pc' → n ≤ l.countP (Access.produces q) → Notifies g q l)
    (hp : g.producer q = pc) (hl : n + 1 ≤ l.countP (Access.produces q)) : Notifies g q l := by
  induction l generalizing g with
  | nil => exact absurd hl (by simp)
  | cons a l ih =>
    have hgoes : g.producer q ≠ .idle := by
      rw [hp]
      exact hbusy
    by_cases ha : a.produces q = true
    · rw [List.countP_cons_of_pos ha] at hl
      refine (hnext _ l ?_ (by omega)).cons hgoes
      cases a with
      | produce q' =>
        simp only [Access.produces, decide_eq_true_eq] at ha
        subst ha
        simp only [step, Function.update_self, hp, hstep]
      | enqueue | dequeue | consume => cases ha
    · rw [List.countP_cons_of_neg ha] at hl
      rw [Bool.not_eq_true] at ha
      exact (ih ((step_producer_of_busy hgoes ha).trans hp) hl).cons hgoes

/-- A producer that is about to notify does so with its next step. -/
theorem notifies_of_notifying (hp : g.producer q = .notifying)
    (hl : 1 ≤ l.countP (Access.produces q)) : Notifies g q l := by
  induction l generalizing g with
  | nil => exact absurd hl (by simp)
  | cons a l ih =>
    have hgoes : g.producer q ≠ .idle := by
      rw [hp]
      simp
    by_cases ha : a.produces q = true
    · cases a with
      | produce q' =>
        simp only [Access.produces, decide_eq_true_eq] at ha
        subst ha
        refine ⟨[], l, rfl, hp, fun l₀ hl₀ => ?_⟩
        rw [List.prefix_nil.mp hl₀]
        exact hgoes
      | enqueue | dequeue | consume => cases ha
    · rw [List.countP_cons_of_neg ha] at hl
      rw [Bool.not_eq_true] at ha
      exact (ih ((step_producer_of_busy hgoes ha).trans hp) hl).cons hgoes

/-- **Exactly the producer that found the ring empty notifies.** -/
theorem ringsDoorbell_iff {wasEmpty : Bool} (hp : g.producer q = .storing wasEmpty) :
    RingsDoorbell g q ↔ wasEmpty = true := by
  have hnext : (g.step (.produce q)).producer q = .setting wasEmpty := by
    simp only [step, Function.update_self, hp, ProducerPc.step]
  constructor
  · intro h
    by_contra hfound
    rw [Bool.not_eq_true] at hfound
    subst hfound
    -- two accesses, the bit and its count, and it is idle again
    obtain ⟨l₁, l₂, hl, hnotify, -⟩ := h (List.replicate 3 (.produce q)) (by simp [Access.produces])
    obtain ⟨hlength, hfirst, -⟩ := List.append_eq_replicate_iff.mp hl.symm
    rw [List.length_cons] at hlength
    rw [hfirst] at hnotify
    have hcounting : ((g.step (.produce q)).step (.produce q)).producer q = .counting false := by
      rw [step]
      simp only [Function.update_self, hnext, ProducerPc.step]
    have hidle : (((g.step (.produce q)).step (.produce q)).step (.produce q)).producer q = .idle := by
      rw [step]
      simp only [Function.update_self, hcounting, ProducerPc.step]
      rfl
    obtain hn | hn | hn : l₁.length = 0 ∨ l₁.length = 1 ∨ l₁.length = 2 := by omega
    · rw [hn] at hnotify
      exact absurd (hnext.symm.trans hnotify) (by simp)
    · rw [hn] at hnotify
      exact absurd (hcounting.symm.trans hnotify) (by simp)
    · rw [hn] at hnotify
      exact absurd (hidle.symm.trans hnotify) (by simp)
  · rintro rfl l hl
    refine notifies_succ (by simp) (fun s => rfl) (fun g l hp hl => ?_) hnext hl
    refine notifies_succ (by simp) (fun s => rfl) (fun g l hp hl => ?_) hp hl
    exact notifies_of_notifying hp hl

/-! ## The step in between -/

/-- **The consumer takes the last entry** of a ring whose producer has
read `read_seq`, found the ring not empty and not stored `write_seq`
yet. -/
def drains (g : Interleaving) : Access → Bool
  | .consume q _ =>
    (g.producer q).foundEntry && (g.consumer q).isTaking &&
      (q.shared g.region).ring.unread.length == 1
  | _ => false

/-- A step that does not drain a ring leaves an entry its producer has
found. -/
theorem count_ne_zero (h : Orderly g) (hkeen : Keen (g.flagged q)) (hd : g.drains a = false)
    (hp : (g.flagged q).producer = .sampled false) : ((g.step a).flagged q).count ≠ 0 := by
  have hpos : 0 < (q.shared g.region).ring.unread.length := hkeen hp
  by_cases hq : a.ring = q
  swap
  · rw [flagged_ne hq]
    exact Nat.ne_of_gt hpos
  subst hq
  cases a with
  | enqueue q d =>
    simp only [Access.ring, step]
    split
    · exact Nat.ne_of_gt hpos
    · exact Nat.ne_of_gt hpos
  | produce q =>
    -- the producer only adds
    have hgrows := ProducerPc.length_step (h.depthOk q) (h.sound q)
    simp only [Access.ring] at hpos ⊢
    simp only [flagged, SharedRing.flagged, step, RingId.shared_put_self]
    omega
  | dequeue q =>
    simp only [Access.ring, step]
    split
    · exact Nat.ne_of_gt hpos
    · exact Nat.ne_of_gt hpos
  | consume q verdict =>
    simp only [Access.ring] at hp hpos ⊢
    have hfound : (g.producer q).foundEntry = true := ProducerPc.foundEntry_iff.mpr hp
    have hlength := ConsumerPc.length_step (h.depthOk q) verdict (h.sound q)
    simp only [drains, hfound, Bool.true_and, Bool.and_eq_false_iff, beq_eq_false_iff_ne] at hd
    simp only [flagged, SharedRing.flagged, step, RingId.shared_put_self]
    rw [hlength]
    split
    · next htaking =>
      rcases hd with hidle | hmore
      · rw [htaking] at hidle
        cases hidle
      · omega
    · omega

/-- **In a run that never drains a ring**, what a producer found stays
right. -/
theorem Reaches.keen (h : Reaches (fun g a => g.drains a = false) g) (q : RingId) :
    Keen (g.flagged q) := by
  induction h with
  | start h => exact fun hp => by cases hp
  | step h a ha ih => exact ih.stepOrStay (step_simulates h.orderly a q) (count_ne_zero h.orderly ih ha)

/-- **The doorbell on empty to non-empty.** In every interleaving in which
no consumer takes the last entry of a ring between the emptiness check of
a producer that has found the ring not empty and its `write_seq` store:
every store of `write_seq` that takes a ring from empty to non-empty is
followed by a notification in that same enqueue. -/
theorem doorbell_rings (h : Reaches (fun g a => g.drains a = false) g) (q : RingId)
    {wasEmpty : Bool} (hp : g.producer q = .storing wasEmpty)
    (hempty : (q.shared g.region).ring.unread = []) : RingsDoorbell g q := by
  rw [ringsDoorbell_iff hp]
  by_contra hfound
  rw [Bool.not_eq_true] at hfound
  subst hfound
  have hphase : (g.flagged q).producer = .sampled false := by
    simp only [flagged, SharedRing.flagged, hp]
    rfl
  have hpos : 0 < (q.shared g.region).ring.unread.length := h.keen q hphase
  rw [hempty] at hpos
  exact absurd hpos (Nat.lt_irrefl 0)

set_option maxRecDepth 100000 in
/-- An entry is taken before the next one is enqueued: its producer finds
the ring empty, and notifies. -/
theorem doorbell_rings_again :
    RingsDoorbell ((start (Linux.formatRegion 1 1)).run
      (enqueueOnce {} ++ dequeueUpTo 7 ++ .enqueue (.rx 0) {} ::
        List.replicate 2 (.produce (.rx 0)))) (.rx 0) :=
  doorbell_rings ((Reaches.start (announced_formatRegion 1 1)).run (by decide +kernel)) (.rx 0)
    (show _ = ProducerPc.storing true by decide +kernel)
    (List.length_eq_zero_iff.mp (by decide +kernel))

/-- A producer finds an entry on the ring; the consumer takes it before
the producer stores `write_seq`. -/
def lastTaken : List Access :=
  enqueueOnce {} ++ [.enqueue (.rx 0) {}, .produce (.rx 0)] ++ dequeueUpTo 3 ++ [.produce (.rx 0)]

set_option maxRecDepth 100000 in
/-- **A doorbell that is not rung**: after `lastTaken` the producer takes
the ring from empty to non-empty, and notifies nobody. -/
theorem not_doorbell_rings :
    ¬ ∀ g : Interleaving, Reaches (fun _ _ => True) g → ∀ (q : RingId) (wasEmpty : Bool),
      g.producer q = .storing wasEmpty → (q.shared g.region).ring.unread = [] →
        RingsDoorbell g q := by
  intro hrings
  have hreaches := (Reaches.start (announced_formatRegion 1 1)).run (allows_all lastTaken)
  have hproducer : ((start (Linux.formatRegion 1 1)).run lastTaken).producer (.rx 0) =
      .storing false := by
    decide +kernel
  have hempty : ((RingId.rx 0).shared
      ((start (Linux.formatRegion 1 1)).run lastTaken).region).ring.unread.length = 0 := by
    decide +kernel
  have hrung := hrings _ hreaches (.rx 0) false hproducer (List.length_eq_zero_iff.mp hempty)
  rw [ringsDoorbell_iff hproducer] at hrung
  cases hrung

end Interleaving

end System

end PutGateway
