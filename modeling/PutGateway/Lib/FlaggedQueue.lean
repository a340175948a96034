import Mathlib.Data.Bool.Basic
import Mathlib.Order.Basic
/-!
# A queue with a flag

One producer and one consumer share a bounded queue and a flag that is to
be up whenever the queue is not empty. The producer publishes an entry
first and raises the flag after; the consumer, when it believes to have
taken the last entry, looks again, lowers the flag, looks a third time
and raises the flag itself if it finds an entry then. Each of these is a
step of its own, and the steps of the two parties interleave freely.

`Sound` is the invariant that carries the protocol: an empty flag over a
queue that is not empty is owed by one of the two, at a step where it is
going to be raised. `Sound.step` says that every step keeps it, and
`Sound.flag` what it comes to where both are at rest.

The producer looks at the queue before it publishes and remembers whether
it found it empty. That answer is right at the publication as long as the
consumer does not take the last entry in between (`Keen.step`).
-/

namespace FlaggedQueue

/-- Where the producer is in a publication. `sawEmpty` says whether it
found the queue empty. -/
inductive Producer
  | resting
  | sampled (sawEmpty : Bool)
  | published (sawEmpty : Bool)
  deriving DecidableEq

/-- Where the consumer is in a removal. -/
inductive Consumer
  | resting
  /-- It has found an entry. -/
  | seen
  /-- It has taken what it believes to be the last entry. -/
  | emptied
  /-- It has looked again and found the queue empty. -/
  | lowering
  /-- It has lowered the flag. -/
  | lowered
  /-- It has found an entry after that. -/
  | lagging
  deriving DecidableEq

/-- The queue, as the number of its entries, the flag, and the parties. -/
structure State where
  count : ℕ
  flag : Bool
  producer : Producer
  consumer : Consumer

/-- The steps of the two parties, on a queue for `n` entries. -/
inductive Step (n : ℕ) (s : State) : State → Prop
  | sample (hp : s.producer = .resting) (hroom : s.count < n) :
      Step n s { s with producer := .sampled (s.count == 0) }
  | publish {b : Bool} (hp : s.producer = .sampled b) :
      Step n s { s with count := s.count + 1, producer := .published b }
  | raise {b : Bool} (hp : s.producer = .published b) :
      Step n s { s with flag := true, producer := .resting }
  | see (hc : s.consumer = .resting) (hentry : 0 < s.count) : Step n s { s with consumer := .seen }
  | take (hc : s.consumer = .seen) : Step n s { s with count := s.count - 1, consumer := .resting }
  | takeLast (hc : s.consumer = .seen) :
      Step n s { s with count := s.count - 1, consumer := .emptied }
  | stay (hc : s.consumer = .emptied) (hentry : 0 < s.count) :
      Step n s { s with consumer := .resting }
  | lookAgain (hc : s.consumer = .emptied) (hempty : s.count = 0) :
      Step n s { s with consumer := .lowering }
  | lower (hc : s.consumer = .lowering) : Step n s { s with flag := false, consumer := .lowered }
  | settle (hc : s.consumer = .lowered) (hempty : s.count = 0) :
      Step n s { s with consumer := .resting }
  | lag (hc : s.consumer = .lowered) (hentry : 0 < s.count) :
      Step n s { s with consumer := .lagging }
  | restore (hc : s.consumer = .lagging) : Step n s { s with flag := true, consumer := .resting }

variable {n : ℕ} {s s' : State}

/-! ## The flag -/

/-- Someone is going to raise the flag if the queue is not empty. -/
inductive Owed (s : State) : Prop
  | producer {b : Bool} (hp : s.producer = .published b)
  | lowered (hc : s.consumer = .lowered)
  | lagging (hc : s.consumer = .lagging)

/-- What holds in every state of the protocol. -/
structure Sound (n : ℕ) (s : State) : Prop where
  bounded : s.count ≤ n
  room : ∀ b, s.producer = .sampled b → s.count < n
  entry : s.consumer = .seen → 0 < s.count
  flagged : 0 < s.count → s.flag = true ∨ Owed s

/-- Where the consumer has not lowered the flag, it is up or the producer
is going to raise it. -/
theorem Sound.flagged_of (h : Sound n s) (hpos : 0 < s.count) (hlowered : s.consumer ≠ .lowered)
    (hlagging : s.consumer ≠ .lagging) : s.flag = true ∨ ∃ b, s.producer = .published b := by
  rcases h.flagged hpos with hflag | ⟨hp⟩ | ⟨hc⟩ | ⟨hc⟩
  · exact .inl hflag
  · exact .inr ⟨_, hp⟩
  · exact absurd hc hlowered
  · exact absurd hc hlagging

/-- **Every step keeps the protocol sound.** -/
theorem Sound.step (h : Sound n s) (hs : Step n s s') : Sound n s' := by
  obtain ⟨hbounded, hroom, hentry, hflagged⟩ := h
  have hsound : Sound n s := ⟨hbounded, hroom, hentry, hflagged⟩
  -- a step of the consumer leaves the producer's debt, one of the producer the consumer's
  have hconsumer : ∀ (count : ℕ) (c c' : Consumer), s.consumer = c → c ≠ .lowered → c ≠ .lagging →
      0 < s.count → s.flag = true ∨ Owed { s with count := count, consumer := c' } := by
    intro count c c' hc hlowered hlagging hpos
    rcases hsound.flagged_of hpos (by rw [hc]; exact hlowered) (by rw [hc]; exact hlagging) with
      hflag | ⟨b, hp⟩
    · exact .inl hflag
    · exact .inr (.producer hp)
  have hproducer : ∀ p : Producer, (∀ b, s.producer ≠ .published b) → 0 < s.count →
      s.flag = true ∨ Owed { s with producer := p } := by
    intro p hnone hpos
    rcases hflagged hpos with hflag | ⟨hp⟩ | ⟨hc⟩ | ⟨hc⟩
    · exact .inl hflag
    · exact absurd hp (hnone _)
    · exact .inr (.lowered hc)
    · exact .inr (.lagging hc)
  cases hs with
  | sample hp hlt =>
    refine ⟨hbounded, fun _ _ => hlt, hentry, hproducer _ fun b h => ?_⟩
    rw [hp] at h
    cases h
  | publish hp =>
    have hlt := hroom _ hp
    refine ⟨?_, fun b h => ?_, fun _ => Nat.succ_pos _, fun _ => .inr (.producer rfl)⟩
    · simp only
      omega
    · cases h
  | raise hp =>
    refine ⟨hbounded, fun b h => ?_, hentry, fun _ => .inl rfl⟩
    cases h
  | see hc hpos =>
    exact ⟨hbounded, hroom, fun _ => hpos,
      fun _ => hconsumer _ _ _ hc (by decide) (by decide) hpos⟩
  | take hc =>
    refine ⟨?_, fun b h => ?_, fun h => ?_,
      fun _ => hconsumer _ _ _ hc (by decide) (by decide) (hentry hc)⟩
    · simp only
      omega
    · have hlt := hroom b h
      simp only
      omega
    · cases h
  | takeLast hc =>
    refine ⟨?_, fun b h => ?_, fun h => ?_,
      fun _ => hconsumer _ _ _ hc (by decide) (by decide) (hentry hc)⟩
    · simp only
      omega
    · have hlt := hroom b h
      simp only
      omega
    · cases h
  | stay hc hpos =>
    refine ⟨hbounded, hroom, fun h => ?_,
      fun _ => hconsumer _ _ _ hc (by decide) (by decide) hpos⟩
    cases h
  | lookAgain hc hempty =>
    refine ⟨hbounded, hroom, fun h => ?_, fun hpos => ?_⟩
    · cases h
    · simp only [hempty] at hpos
      omega
  | lower hc =>
    refine ⟨hbounded, hroom, fun h => ?_, fun _ => .inr (.lowered rfl)⟩
    cases h
  | settle hc hempty =>
    refine ⟨hbounded, hroom, fun h => ?_, fun hpos => ?_⟩
    · cases h
    · simp only [hempty] at hpos
      omega
  | lag hc hpos =>
    refine ⟨hbounded, hroom, fun h => ?_, fun _ => .inr (.lagging rfl)⟩
    cases h
  | restore hc =>
    refine ⟨hbounded, hroom, fun h => ?_, fun _ => .inl rfl⟩
    cases h

/-- A step of the protocol, or none. -/
inductive StepOrStay (n : ℕ) (s : State) : State → Prop
  | stay : StepOrStay n s s
  | step {s' : State} (h : Step n s s') : StepOrStay n s s'

theorem Sound.stepOrStay (h : Sound n s) (hs : StepOrStay n s s') : Sound n s' := by
  cases hs with
  | stay => exact h
  | step hs => exact h.step hs

/-- **At rest the flag is up over a queue that is not empty.** -/
theorem Sound.flag (h : Sound n s) (hp : ∀ b, s.producer ≠ .published b)
    (hc : s.consumer = .resting) (hpos : 0 < s.count) : s.flag = true := by
  rcases h.flagged_of hpos (by rw [hc]; decide) (by rw [hc]; decide) with hflag | ⟨b, hp'⟩
  · exact hflag
  · exact absurd hp' (hp b)

/-! ## What the producer saw -/

/-- The producer has found the queue not empty, and it is not. -/
def Keen (s : State) : Prop := s.producer = .sampled false → 0 < s.count

/-- **What the producer saw stays right** through every step but one that
leaves the queue empty. -/
theorem Keen.step (h : Keen s) (hs : Step n s s')
    (hdrain : s.producer = .sampled false → s'.count ≠ 0) : Keen s' := by
  intro hp'
  cases hs with
  | sample hp hroom =>
    have hne : (s.count == 0) = false := Producer.sampled.inj hp'
    rw [beq_eq_false_iff_ne] at hne
    exact Nat.pos_of_ne_zero hne
  | publish hp => cases hp'
  | raise hp => cases hp'
  | take | takeLast => exact Nat.pos_of_ne_zero (hdrain hp')
  | see | stay | lookAgain | lower | settle | lag | restore => exact h hp'

theorem Keen.stepOrStay (h : Keen s) (hs : StepOrStay n s s')
    (hdrain : s.producer = .sampled false → s'.count ≠ 0) : Keen s' := by
  cases hs with
  | stay => exact h
  | step hs => exact h.step hs hdrain

end FlaggedQueue
