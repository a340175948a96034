import PutGateway.Lib.QuotaRound
import PutGateway.Rtos.QueueOrder
/-!
# How long a priority waits

`rtos_priority_queue_dequeue` keeps a cursor and the quotas used between
its calls, so where a round stands when a priority gets its first item is
up to everything that happened before. A queue is a `QuotaRound.Round`:
a pass of the scan is a turn of it (`PriorityQueue.serveScheduled_leads`),
and a priority is passed over only where it has no item. An enqueue, with
or without an eviction, leaves the round alone.

A priority with an item therefore waits for no more dequeues than the
quotas of the others, `40 - quota p`. The scan itself needs no second
call of the function.
-/

namespace PutGateway

namespace Rtos

open QuotaRound

/-! ## The calls of a dequeue -/

/-- The queue after a number of passes that have served nothing. -/
def PriorityQueue.scanned : ℕ → PriorityQueue → PriorityQueue
  | 0, q => q
  | n + 1, q => PriorityQueue.scanned n q.scanStep.2

/-- `rtos_priority_queue_dequeue` with its recursive call, made at most a
number of times. -/
def rtosPriorityQueueDequeueCalls :
    ℕ → PriorityQueue → Option (UnifiedError × Option QueueItem × PriorityQueue)
  | 0, _ => none
  | calls + 1, q =>
    if q.items = [] then some (.ipcQueueEmpty, none, q)
    else match q.scan 8 with
      | some (item, q') => some (.ok, some item, q')
      | none => rtosPriorityQueueDequeueCalls calls (q.scanned 8).resetQuotaRound

/-- **One call is enough.** -/
theorem rtosPriorityQueueDequeueCalls_succ (calls : ℕ) (q : PriorityQueue) :
    rtosPriorityQueueDequeueCalls (calls + 1) q = some (rtosPriorityQueueDequeue q) := by
  rw [rtosPriorityQueueDequeueCalls, rtosPriorityQueueDequeue]
  by_cases h : q.items = []
  · rw [if_pos h, dif_pos h]
  · rw [if_neg h, dif_neg h]
    obtain ⟨r, hr⟩ := Option.isSome_iff_exists.mp (PriorityQueue.scan_isSome h)
    simp only [hr, Option.get_some]

theorem rtosPriorityQueueDequeue_ok {q : PriorityQueue} (h : q.items ≠ []) :
    (rtosPriorityQueueDequeue q).1 = .ok := by
  rcases rtosPriorityQueueDequeue_cases q with ⟨-, hnil⟩ | ⟨x, queue, heq, -⟩
  · exact absurd hnil h
  · rw [heq]

/-! ## A queue is a round -/

/-- The quotas as numbers of turns. -/
def quotas (p : Fin 4) : ℕ := (quota p).toNat

/-- Where the round of a queue is. -/
def PriorityQueue.round (q : PriorityQueue) : Round 4 where
  cursor := q.schedulerPriority.toNat
  used p := (q.quotaUsed p).toNat

theorem quotas_pos : ∀ p, 0 < quotas p := by decide

theorem quotas_le : ∀ p, quotas p ≤ 16 := by decide

theorem sum_quotas : ∀ p, ∑ x ∈ Finset.univ.erase p, quotas x = 40 - quotas p := by decide

variable {q q' : PriorityQueue} {x : QueueItem} {p : Fin 4}

/-- The priority a cursor below four stands at. -/
def PriorityQueue.scheduled (q : PriorityQueue) (h : q.schedulerPriority.toNat < 4) : Fin 4 :=
  ⟨q.schedulerPriority.toNat, h⟩

theorem PriorityQueue.quotaLeft_iff (h : q.schedulerPriority.toNat < 4) :
    q.quotaLeft q.schedulerPriority = true ↔
      q.round.used (q.scheduled h) < quotas (q.scheduled h) := by
  unfold PriorityQueue.quotaLeft
  rw [dif_pos h, decide_eq_true_iff, UInt8.lt_iff_toNat_lt]
  rfl

theorem PriorityQueue.round_advance (h : q.schedulerPriority.toNat < 4) :
    q.advance.round = ⟨q.round.cursor + 1, q.round.used⟩ := by
  have hnext : (q.schedulerPriority + 1).toNat = q.schedulerPriority.toNat + 1 := by
    rw [UInt8.toNat_add]
    have h1 : (1 : UInt8).toNat = 1 := rfl
    omega
  simp only [PriorityQueue.round, PriorityQueue.advance, hnext]

theorem PriorityQueue.round_countServed (h : q.schedulerPriority.toNat < 4)
    (hleft : q.round.used (q.scheduled h) < quotas (q.scheduled h)) :
    (q.countServed q.schedulerPriority).round =
      ⟨q.round.cursor,
        Function.update q.round.used (q.scheduled h) (q.round.used (q.scheduled h) + 1)⟩ := by
  have hle := quotas_le (q.scheduled h)
  have hnext : (q.quotaUsed (q.scheduled h) + 1).toNat =
      (q.quotaUsed (q.scheduled h)).toNat + 1 := by
    change (q.quotaUsed (q.scheduled h)).toNat < _ at hleft
    rw [UInt8.toNat_add]
    have h1 : (1 : UInt8).toNat = 1 := rfl
    omega
  unfold PriorityQueue.countServed
  rw [dif_pos h]
  simp only [PriorityQueue.round, Round.mk.injEq, true_and]
  funext y
  by_cases hy : y = q.scheduled h
  · rw [hy, Function.update_self]
    exact (congrArg UInt8.toNat (Function.update_self ..)).trans hnext
  · rw [Function.update_of_ne hy]
    exact congrArg UInt8.toNat (Function.update_of_ne hy ..)

/-- Serving an item counts it, and keeps the cursor only where there is
some quota left. -/
theorem PriorityQueue.serve_leads (h : q.schedulerPriority.toNat < 4)
    (hleft : q.round.used (q.scheduled h) < quotas (q.scheduled h)) (k : ℕ) :
    Turn.Leads quotas q.round (.serve (q.scheduled h)) (q.serve k).round := by
  have hround := PriorityQueue.round_countServed (q := q.removeIndex k) h hleft
  have hsched : ((q.removeIndex k).countServed q.schedulerPriority).schedulerPriority =
      q.schedulerPriority := by
    unfold PriorityQueue.countServed
    split <;> rfl
  unfold PriorityQueue.serve
  generalize hs : (q.removeIndex k).countServed q.schedulerPriority = served at hsched
  change ((q.removeIndex k).countServed q.schedulerPriority).round = _ at hround
  rw [hs] at hround
  have h' : served.schedulerPriority.toNat < 4 := by rw [hsched]; exact h
  simp only
  split
  · -- on to the next priority
    rw [PriorityQueue.round_advance h', hround]
    exact .finish rfl hleft
  · next hstay =>
    rw [Bool.or_eq_true, Bool.not_eq_true', Bool.not_eq_true', not_or, Bool.not_eq_false,
      ← hsched, PriorityQueue.quotaLeft_iff h'] at hstay
    have hstill := hstay.1
    rw [hround] at hstill ⊢
    refine .stay rfl ?_
    have hsame : served.scheduled h' = q.scheduled h := Fin.ext (congrArg UInt8.toNat hsched)
    rw [hsame] at hstill
    exact (Function.update_self (q.scheduled h) _ q.round.used).symm.trans_lt hstill

/-- What a pass does to the round: it passes over a priority that has no
item, or serves one. -/
theorem PriorityQueue.serveScheduled_leads (h : q.schedulerPriority.toNat < 4)
    (hs : Sound quotas q.round) :
    (q.serveScheduled.1 = none ∧ q.serveScheduled.2.items = q.items ∧
      hasPriority q.items q.schedulerPriority = false ∧
      Turn.Leads quotas q.round (.pass (q.scheduled h)) q.serveScheduled.2.round) ∨
    ∃ x, q.serveScheduled.1 = some x ∧ x.priority = q.schedulerPriority ∧
      Turn.Leads quotas q.round (.serve (q.scheduled h)) q.serveScheduled.2.round := by
  have hleft := hs.left (q.scheduled h) rfl
  rcases hserve : q.serveScheduled with ⟨found, q'⟩
  cases found with
  | none =>
    left
    obtain ⟨hadvance, hwhy⟩ := q.serveScheduled_none (by rw [hserve])
    rw [hserve] at hadvance
    change q' = q.advance at hadvance
    subst hadvance
    refine ⟨rfl, rfl, ?_, ?_⟩
    · rcases hwhy with hno | hno
      · rw [← Bool.not_eq_true, PriorityQueue.quotaLeft_iff h] at hno
        exact absurd hleft hno
      · exact hno
    · rw [PriorityQueue.round_advance h]
      exact .pass rfl
  | some x =>
    right
    refine ⟨x, rfl, ?_⟩
    unfold PriorityQueue.serveScheduled at hserve
    split at hserve
    · split at hserve
      · next k hk =>
        obtain ⟨hx, rfl⟩ := Prod.mk.inj hserve
        refine ⟨?_, PriorityQueue.serve_leads h hleft k⟩
        rw [← Option.some.inj hx]
        exact findOldestPriority_priority hk (findOldestPriority_lt hk)
      · cases hserve
    · cases hserve

/-- A pass works on the round as it is, or on a new one. -/
theorem PriorityQueue.scanStep_round (hs : Sound quotas q.round) :
    ∃ q₀ : PriorityQueue, q.scanStep = q₀.serveScheduled ∧ q₀.items = q.items ∧
      q₀.schedulerPriority.toNat < 4 ∧ Sound quotas q₀.round ∧
      ∀ p, wait quotas q₀.round p ≤ wait quotas q.round p := by
  unfold PriorityQueue.scanStep
  have h4 : (4 : UInt8).toNat = 4 := rfl
  split
  · next hend =>
    rw [ge_iff_le, UInt8.le_iff_toNat_le, h4] at hend
    have hreset : Turn.Leads quotas q.round .reset q.resetQuotaRound.round := .reset hend
    exact ⟨q.resetQuotaRound, rfl, rfl, Nat.zero_lt_succ 3, hs.turn quotas_pos hreset,
      fun p => hreset.wait (by simp) (by simp)⟩
  · next hin =>
    rw [ge_iff_le, UInt8.le_iff_toNat_le, h4] at hin
    exact ⟨q, rfl, rfl, by omega, hs, fun _ => le_rfl⟩

/-- **A scan keeps the round sound, and a priority with an item is served
or waits one turn less.** -/
theorem PriorityQueue.scan_waits {n : ℕ} {r : QueueItem × PriorityQueue}
    (hs : Sound quotas q.round) (h : q.scan n = some r) :
    Sound quotas r.2.round ∧
      ∀ p : Fin 4, hasPriority q.items (UInt8.ofNat p) = true →
        r.1.priority = UInt8.ofNat p ∨ wait quotas r.2.round p + 1 ≤ wait quotas q.round p := by
  induction n generalizing q with
  | zero => cases h
  | succ n ih =>
    obtain ⟨q₀, hstep, hitems, hlt, hs₀, hwait⟩ := PriorityQueue.scanStep_round hs
    have hscheduled : UInt8.ofNat (q₀.scheduled hlt) = q₀.schedulerPriority := UInt8.ofNat_toNat
    rw [PriorityQueue.scan, hstep] at h
    rcases hserve : q₀.serveScheduled with ⟨found, q'⟩
    rw [hserve] at h
    rcases PriorityQueue.serveScheduled_leads hlt hs₀ with
      ⟨hnone, hkept, hno, hturn⟩ | ⟨x, hsome, hx, hturn⟩
    · -- passed over: the priority has no item
      simp only [hserve] at hnone hkept hturn
      subst hnone
      obtain ⟨hsound, hserved⟩ := ih (hs₀.turn quotas_pos hturn) h
      refine ⟨hsound, fun p hp => ?_⟩
      have hother : Turn.pass (q₀.scheduled hlt) ≠ .pass p := by
        rintro heq
        obtain rfl := Turn.pass.inj heq
        rw [hscheduled, ← hitems, hno] at hp
        cases hp
      have hkept' : q'.items = q.items := hkept.trans hitems
      rcases hserved p (by rw [hkept']; exact hp) with hthis | hless
      · exact .inl hthis
      · have hle : wait quotas q'.round p ≤ wait quotas q₀.round p := hturn.wait hother (by simp)
        have := hwait p
        right
        omega
    · -- served
      simp only [hserve] at hsome hturn
      subst hsome
      obtain rfl := Option.some.inj h
      refine ⟨hs₀.turn quotas_pos hturn, fun p _ => ?_⟩
      by_cases hthis : x.priority = UInt8.ofNat p
      · exact .inl hthis
      · right
        have hother : Turn.serve (q₀.scheduled hlt) ≠ .serve p := by
          rintro heq
          obtain rfl := Turn.serve.inj heq
          exact hthis (by rw [hscheduled, hx])
        have hle : wait quotas q'.round p + 1 ≤ wait quotas q₀.round p := hturn.wait (by simp) hother
        have := hwait p
        show wait quotas q'.round p + 1 ≤ wait quotas q.round p
        omega

/-! ## Runs -/

/-- Arrivals and evictions leave the round alone. -/
theorem rtosPriorityQueueEnqueue_round (q : PriorityQueue) (item : QueueItem) :
    (rtosPriorityQueueEnqueue q item).queue.round = q.round := by
  unfold rtosPriorityQueueEnqueue
  split
  · split
    · rfl
    · split <;> rfl
  · rfl

/-- A dequeue of a queue in a sound round. -/
theorem rtosPriorityQueueDequeue_waits (hs : Sound quotas q.round) :
    Sound quotas (rtosPriorityQueueDequeue q).2.2.round ∧
      ∀ p : Fin 4, hasPriority q.items (UInt8.ofNat p) = true →
        (∃ x, (rtosPriorityQueueDequeue q).2.1 = some x ∧ x.priority = UInt8.ofNat p) ∨
        wait quotas (rtosPriorityQueueDequeue q).2.2.round p + 1 ≤ wait quotas q.round p := by
  unfold rtosPriorityQueueDequeue
  split
  · next hnil =>
    refine ⟨hs, fun p hp => ?_⟩
    rw [hnil] at hp
    simp [hasPriority] at hp
  · next hne =>
    obtain ⟨hsound, hserved⟩ := PriorityQueue.scan_waits hs (Option.some_get (q.scan_isSome hne)).symm
    refine ⟨hsound, fun p hp => ?_⟩
    rcases hserved p hp with hthis | hless
    · exact .inl ⟨_, rfl, hthis⟩
    · exact .inr hless

theorem QueueLog.round_step {s : QueueLog} (hs : Sound quotas s.queue.round) (op : QueueOp) :
    Sound quotas (s.step op).queue.round := by
  cases op with
  | enqueue now item =>
    show Sound quotas (rtosPriorityQueueEnqueue s.queue (item.stamped now)).queue.round
    rw [rtosPriorityQueueEnqueue_round]
    exact hs
  | dequeue => exact (rtosPriorityQueueDequeue_waits hs).1

/-- Every run keeps the round sound. -/
theorem queueRun_round (ops : List QueueOp) : Sound quotas (queueRun ops).queue.round := by
  induction ops using List.reverseRecOn with
  | nil => exact .start quotas_pos
  | append_singleton ops op ih =>
    rw [queueRun_concat]
    exact QueueLog.round_step ih op

/-- Steps in which a priority has an item at every dequeue, and no dequeue
serves it. -/
def Starves (p : UInt8) (s : QueueLog) : List QueueOp → Prop
  | [] => True
  | .enqueue now item :: rest => Starves p (s.step (.enqueue now item)) rest
  | .dequeue :: rest =>
    hasPriority s.queue.items p = true ∧
      (rtosPriorityQueueDequeue s.queue).2.1.map QueueItem.priority ≠ some p ∧
      Starves p (s.step .dequeue) rest

/-- The number of dequeues among some steps. -/
def dequeues : List QueueOp → ℕ
  | [] => 0
  | .enqueue _ _ :: rest => dequeues rest
  | .dequeue :: rest => dequeues rest + 1

/-- **Each dequeue that serves another priority takes one off the wait.** -/
theorem Starves.dequeues_le {p : Fin 4} {ops : List QueueOp} {s : QueueLog}
    (hs : Sound quotas s.queue.round) (h : Starves (UInt8.ofNat p) s ops) :
    dequeues ops ≤ wait quotas s.queue.round p := by
  induction ops generalizing s with
  | nil => exact Nat.zero_le _
  | cons op rest ih =>
    have hrest := QueueLog.round_step hs op
    cases op with
    | enqueue now item =>
      have hle := ih hrest h
      have hround : (s.step (.enqueue now item)).queue.round = s.queue.round :=
        rtosPriorityQueueEnqueue_round s.queue (item.stamped now)
      rw [hround] at hle
      exact hle
    | dequeue =>
      obtain ⟨hsome, hnot, hrun⟩ := h
      have hle := ih hrest hrun
      rcases (rtosPriorityQueueDequeue_waits hs).2 p hsome with ⟨x, hx, hp⟩ | hless
      · exact absurd (by rw [hx, Option.map_some, hp]) hnot
      · exact (Nat.succ_le_succ hle).trans hless

/-- **A dequeue makes one call, and no priority starves.** In every state
a run gets to, a dequeue needs no second call of itself and gives an item
if the queue has one; and steps from there in which a priority has an
item at every dequeue without being served hold at most `40 - quota p`
dequeues. -/
theorem queueRun_serves (ops : List QueueOp) :
    (∀ calls, rtosPriorityQueueDequeueCalls (calls + 1) (queueRun ops).queue =
      some (rtosPriorityQueueDequeue (queueRun ops).queue)) ∧
    ((queueRun ops).queue.items ≠ [] →
      ((queueRun ops).queue.scan 8).isSome ∧
        (rtosPriorityQueueDequeue (queueRun ops).queue).1 = .ok) ∧
    ∀ (p : Fin 4) (window : List QueueOp), Starves (UInt8.ofNat p) (queueRun ops) window →
      dequeues window ≤ 40 - (quota p).toNat := by
  refine ⟨fun calls => rtosPriorityQueueDequeueCalls_succ calls _,
    fun h => ⟨PriorityQueue.scan_isSome h, rtosPriorityQueueDequeue_ok h⟩, ?_⟩
  intro p window h
  have hround := queueRun_round ops
  refine (h.dequeues_le hround).trans ((wait_le _ p).trans_eq ?_)
  exact sum_quotas p

instance decidableStarves (p : UInt8) : (ops : List QueueOp) → (s : QueueLog) →
    Decidable (Starves p s ops)
  | [], _ => .isTrue trivial
  | .enqueue now item :: rest, s => decidableStarves p rest (s.step (.enqueue now item))
  | .dequeue :: rest, s =>
    haveI := decidableStarves p rest (s.step .dequeue)
    inferInstanceAs (Decidable (_ ∧ _ ∧ _))

/-- Items of one priority. -/
def arrivals (priority : UInt8) (n : ℕ) : List QueueOp :=
  List.replicate n (.enqueue 0 { sampleItem 0 with priority })

/-- Items of all priorities, as many of the first three as their quotas
let through. -/
def busyArrivals : List QueueOp :=
  arrivals 3 1 ++ arrivals 0 16 ++ arrivals 1 12 ++ arrivals 2 8

/-- **The bound is reached.** An item of the lowest priority waits for 36
dequeues. -/
theorem queueRun_serves_busy :
    Starves 3 (queueRun busyArrivals) (List.replicate 36 .dequeue) ∧
      (rtosPriorityQueueDequeue (queueRun busyArrivals).queue).1 = .ok ∧
      dequeues (List.replicate 36 .dequeue) ≤ 40 - (quota 3).toNat := by
  have hstarves : Starves 3 (queueRun busyArrivals) (List.replicate 36 .dequeue) := by
    decide +kernel
  have hsome : (queueRun busyArrivals).queue.items ≠ [] := by decide +kernel
  have hserves := queueRun_serves busyArrivals
  exact ⟨hstarves, (hserves.2.1 hsome).2, hserves.2.2 3 _ hstarves⟩

end Rtos

end PutGateway
