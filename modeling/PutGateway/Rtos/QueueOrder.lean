import PutGateway.Rtos.PriorityQueue
import Mathlib.Data.List.Pairwise
/-!
# The order of items of one priority

`rtos_priority_queue_enqueue` appends to the array and a removal closes
the gap, so the array is always in the order of the enqueues. The item
that leaves a priority, be it dequeued or evicted, is nevertheless chosen
by its `enqueue_time_ms`, a millisecond clock cut to 32 bits.

A `QueueLog` is a queue with the items it has accepted and the items that
have left it. It is `Fifo` where the accepted items of each priority are
those that have left, in the order they left, followed by those queued.
Every run that keeps the stamps of each priority `InOrder` is `Fifo`, and
one that does not is no longer so once its queue has been drained
(`queueRun_fifo_iff`). Stamps are in order until the clock wraps
(`queueRun_inOrder`).
-/

namespace PutGateway

namespace Rtos

/-! ## The item a search finds -/

/-- What the search has found in the items seen: the earliest stamp of the
priority, at the first index that carries it. -/
def IsOldest (seen : List QueueItem) (priority : UInt8) : Option (ℕ × UInt32) → Prop
  | none => ∀ y ∈ seen, y.priority ≠ priority
  | some (k, t) => ∃ before x after, seen = before ++ x :: after ∧ k = before.length ∧
      x.priority = priority ∧ t = x.enqueueTimeMs ∧
      (∀ y ∈ before, y.priority = priority → x.enqueueTimeMs < y.enqueueTimeMs) ∧
      (∀ y ∈ after, y.priority = priority → x.enqueueTimeMs ≤ y.enqueueTimeMs)

theorem findOldestFrom_isOldest {priority : UInt8} {seen rest : List QueueItem}
    {oldest : Option (ℕ × UInt32)} (h : IsOldest seen priority oldest) :
    IsOldest (seen ++ rest) priority (findOldestFrom priority rest seen.length oldest) := by
  induction rest generalizing seen oldest with
  | nil => simpa [findOldestFrom] using h
  | cons z rest ih =>
    have hlen : (seen ++ [z]).length = seen.length + 1 := by simp
    rw [show seen ++ z :: rest = (seen ++ [z]) ++ rest by simp]
    simp only [findOldestFrom]
    rw [← hlen]
    apply ih
    by_cases hz : z.priority = priority
    · rw [if_pos hz]
      cases oldest with
      | none =>
        -- the first item of the priority
        refine ⟨seen, z, [], rfl, rfl, hz, rfl, ?_, by simp⟩
        intro y hy hyp
        exact absurd hyp (h y hy)
      | some kt =>
        obtain ⟨before, x, after, rfl, hk, hx, ht, hbefore, hafter⟩ := h
        simp only
        split
        · next hlt =>
          -- an earlier stamp than any before it
          rw [ht] at hlt
          refine ⟨_, z, [], rfl, rfl, hz, rfl, ?_, by simp⟩
          intro y hy hyp
          rcases List.mem_append.mp hy with hy | hy
          · exact UInt32.lt_trans hlt (hbefore y hy hyp)
          · rcases List.mem_cons.mp hy with rfl | hy
            · exact hlt
            · exact UInt32.lt_of_lt_of_le hlt (hafter y hy hyp)
        · next hge =>
          refine ⟨before, x, after ++ [z], by simp, hk, hx, ht, hbefore, ?_⟩
          intro y hy hyp
          rcases List.mem_append.mp hy with hy | hy
          · exact hafter y hy hyp
          · obtain rfl := List.mem_singleton.mp hy
            rw [ht] at hge
            exact UInt32.not_lt.mp hge
    · -- an item of another priority
      rw [if_neg hz]
      cases oldest with
      | none =>
        intro y hy
        rcases List.mem_append.mp hy with hy | hy
        · exact h y hy
        · obtain rfl := List.mem_singleton.mp hy
          exact hz
      | some kt =>
        obtain ⟨before, x, after, rfl, hk, hx, ht, hbefore, hafter⟩ := h
        refine ⟨before, x, after ++ [z], by simp, hk, hx, ht, hbefore, ?_⟩
        intro y hy hyp
        rcases List.mem_append.mp hy with hy | hy
        · exact hafter y hy hyp
        · obtain rfl := List.mem_singleton.mp hy
          exact absurd hyp hz

/-- **What leaves a list of items.** The item is the first of those of its
priority that carry the earliest stamp. -/
def LeavesOldest (items : List QueueItem) (x : QueueItem) (left : List QueueItem) : Prop :=
  ∃ before after, items = before ++ x :: after ∧ left = before ++ after ∧
    (∀ y ∈ before, y.priority = x.priority → x.enqueueTimeMs < y.enqueueTimeMs) ∧
    (∀ y ∈ after, y.priority = x.priority → x.enqueueTimeMs ≤ y.enqueueTimeMs)

theorem findOldestPriority_isOldest {items : List QueueItem} {priority : UInt8} {k : ℕ}
    (h : findOldestPriority items priority = some k) : ∃ t, IsOldest items priority (some (k, t)) := by
  unfold findOldestPriority at h
  split at h
  · obtain ⟨⟨k', t⟩, hfound, rfl⟩ := Option.map_eq_some_iff.mp h
    have hnone : IsOldest [] priority none := by simp [IsOldest]
    have hoff := @findOldestFrom_isOldest _ [] items none hnone
    rw [List.nil_append, List.length_nil, hfound] at hoff
    exact ⟨t, hoff⟩
  · cases h

theorem findOldestPriority_leavesOldest {items : List QueueItem} {priority : UInt8} {k : ℕ}
    (h : findOldestPriority items priority = some k) (hk : k < items.length) :
    LeavesOldest items items[k] (items.eraseIdx k) := by
  obtain ⟨t, before, x, after, rfl, rfl, rfl, -, hbefore, hafter⟩ := findOldestPriority_isOldest h
  have hx : (before ++ x :: after)[before.length] = x := by simp
  rw [hx]
  exact ⟨before, after, rfl, by simp [List.eraseIdx_append_of_length_le], hbefore, hafter⟩

theorem findOldestPriority_priority {items : List QueueItem} {priority : UInt8} {k : ℕ}
    (h : findOldestPriority items priority = some k) (hk : k < items.length) :
    items[k].priority = priority := by
  obtain ⟨t, before, x, after, rfl, rfl, hx, -, -, -⟩ := findOldestPriority_isOldest h
  simpa using hx

theorem findEvictableFrom_oldest {items : List QueueItem} {newPriority : UInt8} {ps : List UInt8}
    {k : ℕ} (h : findEvictableFrom items newPriority ps = some k) :
    ∃ priority, findOldestPriority items priority = some k := by
  induction ps with
  | nil => cases h
  | cons p rest ih =>
    simp only [findEvictableFrom] at h
    split at h
    · cases h
    · split at h
      · exact ih h
      · split at h
        · next hfound =>
          obtain rfl := Option.some.inj h
          exact ⟨p, hfound⟩
        · exact ih h

theorem findEvictableItem_oldest {items : List QueueItem} {newPriority : UInt8} {k : ℕ}
    (h : findEvictableItem items newPriority = some k) :
    ∃ priority, findOldestPriority items priority = some k := by
  unfold findEvictableItem at h
  split at h
  · exact findEvictableFrom_oldest h
  · cases h

/-! ## Enqueue and dequeue -/

/-- An enqueue leaves the queue alone, or appends the item to what an
eviction has left. -/
theorem rtosPriorityQueueEnqueue_order (q : PriorityQueue) (item : QueueItem) :
    ((rtosPriorityQueueEnqueue q item).result ≠ .ok ∧
      (rtosPriorityQueueEnqueue q item).evicted = none ∧
      (rtosPriorityQueueEnqueue q item).queue = q) ∨
    ((rtosPriorityQueueEnqueue q item).result = .ok ∧
      (rtosPriorityQueueEnqueue q item).evicted = none ∧
      (rtosPriorityQueueEnqueue q item).queue.items = q.items ++ [item]) ∨
    ((rtosPriorityQueueEnqueue q item).result = .ok ∧
      ∃ x left, (rtosPriorityQueueEnqueue q item).evicted = some x ∧ LeavesOldest q.items x left ∧
        (rtosPriorityQueueEnqueue q item).queue.items = left ++ [item]) := by
  unfold rtosPriorityQueueEnqueue
  split
  · split
    · exact .inr (.inl ⟨rfl, rfl, rfl⟩)
    · split
      · exact .inl ⟨by simp, rfl, rfl⟩
      · next k hk =>
        right; right
        have hlt := findEvictableItem_lt hk
        obtain ⟨priority, hp⟩ := findEvictableItem_oldest hk
        exact ⟨rfl, _, _, rfl, findOldestPriority_leavesOldest hp hlt, rfl⟩
  · exact .inl ⟨by simp, rfl, rfl⟩

theorem PriorityQueue.serveScheduled_order {q q' : PriorityQueue} {x : QueueItem}
    (h : q.serveScheduled = (some x, q')) : LeavesOldest q.items x q'.items := by
  unfold PriorityQueue.serveScheduled at h
  split at h
  · split at h
    · next k hk =>
      have hlt := findOldestPriority_lt hk
      obtain ⟨hx, hq⟩ := Prod.mk.inj h
      obtain rfl := Option.some.inj hx
      rw [← hq, PriorityQueue.items_serve]
      exact findOldestPriority_leavesOldest hk hlt
    · cases h
  · cases h

theorem PriorityQueue.serveScheduled_items {q q' : PriorityQueue}
    (h : q.serveScheduled = (none, q')) : q'.items = q.items := by
  have hperm := q.serveScheduled_none (by rw [h])
  rw [h] at hperm
  rw [show q' = q.advance from hperm.1, PriorityQueue.items_advance]

/-- The queue a pass works on has the same items. -/
theorem PriorityQueue.scanStep_eq (q : PriorityQueue) :
    ∃ q₀ : PriorityQueue, q₀.items = q.items ∧ q.scanStep = q₀.serveScheduled := by
  unfold PriorityQueue.scanStep
  split
  · exact ⟨q.resetQuotaRound, q.items_resetQuotaRound, rfl⟩
  · exact ⟨q, rfl, rfl⟩

theorem PriorityQueue.scan_order {n : ℕ} {q : PriorityQueue} {r : QueueItem × PriorityQueue}
    (h : q.scan n = some r) : LeavesOldest q.items r.1 r.2.items := by
  induction n generalizing q with
  | zero => cases h
  | succ n ih =>
    obtain ⟨q₀, hitems, hstep⟩ := q.scanStep_eq
    simp only [PriorityQueue.scan, hstep] at h
    split at h
    · next x q' hserve =>
      obtain rfl := Option.some.inj h
      rw [← hitems]
      exact PriorityQueue.serveScheduled_order hserve
    · next q' hserve =>
      have hq' := PriorityQueue.serveScheduled_items hserve
      rw [← hitems, ← hq']
      exact ih h

/-- A dequeue finds the queue empty, or takes the oldest item of a
priority. -/
theorem rtosPriorityQueueDequeue_order (q : PriorityQueue) :
    ((rtosPriorityQueueDequeue q).2 = (none, q) ∧ q.items = []) ∨
    ∃ x, (rtosPriorityQueueDequeue q).2.1 = some x ∧
      LeavesOldest q.items x (rtosPriorityQueueDequeue q).2.2.items := by
  unfold rtosPriorityQueueDequeue
  split
  · next h => exact .inl ⟨rfl, h⟩
  · next h => exact .inr ⟨_, rfl, PriorityQueue.scan_order (Option.some_get _).symm⟩

/-! ## Runs -/

/-- A step of a run: an enqueue at a reading of the millisecond clock, or
a dequeue. -/
inductive QueueOp
  | enqueue (now : ℕ) (item : QueueItem)
  | dequeue

/-- The item as `fill_queue_item` stamps it. -/
def QueueItem.stamped (item : QueueItem) (now : ℕ) : QueueItem :=
  { item with enqueueTimeMs := UInt32.ofNat now }

/-- A queue with the items it has accepted and the items that have left
it, dequeued or evicted, each in the order of the steps. -/
structure QueueLog where
  queue : PriorityQueue
  accepted : List QueueItem
  left : List QueueItem

/-- A step, with what it accepts and what it lets go. -/
def QueueLog.step (s : QueueLog) : QueueOp → QueueLog
  | .enqueue now item =>
    let r := rtosPriorityQueueEnqueue s.queue (item.stamped now)
    { queue := r.queue
      accepted := if r.result = .ok then s.accepted ++ [item.stamped now] else s.accepted
      left := s.left ++ r.evicted.toList }
  | .dequeue =>
    let r := rtosPriorityQueueDequeue s.queue
    { s with queue := r.2.2, left := s.left ++ r.2.1.toList }

/-- A run from `rtos_priority_queue_init`. -/
def queueRun (ops : List QueueOp) : QueueLog :=
  ops.foldl QueueLog.step ⟨rtosPriorityQueueInit, [], []⟩

/-- The accepted items of each priority are those that have left, in the
order they left, and then those queued. -/
def InTurn (accepted left queued : List QueueItem) : Prop :=
  ∀ priority, accepted.filter (·.priority == priority) =
    left.filter (·.priority == priority) ++ queued.filter (·.priority == priority)

/-- The stamps of items of one priority do not decrease. -/
def StampsInOrder (queued : List QueueItem) : Prop :=
  queued.Pairwise fun x y => x.priority = y.priority → x.enqueueTimeMs ≤ y.enqueueTimeMs

/-- **First in, first out**, for each priority. -/
def QueueLog.Fifo (s : QueueLog) : Prop := InTurn s.accepted s.left s.queue.items

/-- The queued items of one priority carry stamps that do not decrease in
the order they were enqueued. -/
def QueueLog.InOrder (s : QueueLog) : Prop := StampsInOrder s.queue.items

/-! ### What one step preserves -/

section Steps

variable {accepted left queued queued' : List QueueItem} {x : QueueItem}

theorem InTurn.append (h : InTurn accepted left queued) (x : QueueItem) :
    InTurn (accepted ++ [x]) left (queued ++ [x]) := by
  intro p
  rw [List.filter_append, List.filter_append, h p, List.append_assoc]

/-- With the stamps in order the oldest item is the first of its
priority. -/
theorem LeavesOldest.first (hl : LeavesOldest queued x queued') (ho : StampsInOrder queued) :
    ∃ before after, queued = before ++ x :: after ∧ queued' = before ++ after ∧
      ∀ y ∈ before, y.priority ≠ x.priority := by
  obtain ⟨before, after, rfl, rfl, hbefore, -⟩ := hl
  refine ⟨before, after, rfl, rfl, ?_⟩
  intro y hy hp
  have hle := (List.pairwise_append.mp ho).2.2 y hy x List.mem_cons_self hp
  exact absurd (hbefore y hy hp) (UInt32.not_lt.mpr hle)

theorem InTurn.leave (h : InTurn accepted left queued) (ho : StampsInOrder queued)
    (hl : LeavesOldest queued x queued') : InTurn accepted (left ++ [x]) queued' := by
  obtain ⟨before, after, rfl, rfl, hne⟩ := hl.first ho
  intro p
  rw [h p, List.filter_append, List.filter_append, List.filter_append, List.append_assoc]
  congr 1
  by_cases hp : x.priority = p
  · -- nothing of this priority is in front of the item
    have hnil : before.filter (·.priority == p) = [] := by
      rw [List.filter_eq_nil_iff]
      intro y hy
      have := hne y hy
      simpa [← hp] using this
    rw [hnil, List.nil_append, List.nil_append, ← List.filter_append, List.singleton_append]
  · rw [List.filter_cons_of_neg (by simpa using hp), List.filter_cons_of_neg (by simpa using hp),
      List.filter_nil, List.nil_append]

theorem LeavesOldest.stampsInOrder (hl : LeavesOldest queued x queued')
    (ho : StampsInOrder queued) : StampsInOrder queued' := by
  obtain ⟨before, after, rfl, rfl, -, -⟩ := hl
  exact List.Pairwise.sublist ((List.sublist_cons_self x after).append_left before) ho

/-- Where an item leaves in its turn and the rest is in order, the whole
is. -/
theorem LeavesOldest.stampsInOrder_of_inTurn (hl : LeavesOldest queued x queued')
    (h : InTurn accepted left queued) (h' : InTurn accepted (left ++ [x]) queued')
    (ho : StampsInOrder queued') : StampsInOrder queued := by
  obtain ⟨before, after, rfl, rfl, hbefore, hafter⟩ := hl
  -- the first queued item of the priority is the one that leaves
  have hturn : (before ++ x :: after).filter (·.priority == x.priority) =
      x :: (before ++ after).filter (·.priority == x.priority) := by
    have := (h x.priority).symm.trans (h' x.priority)
    rw [List.filter_append left [x], List.append_assoc] at this
    simpa using List.append_cancel_left this
  have hne : ∀ y ∈ before, y.priority ≠ x.priority := by
    intro y hy hp
    obtain ⟨z, zs, hz⟩ : ∃ z zs, before.filter (·.priority == x.priority) = z :: zs := by
      apply List.exists_cons_of_ne_nil
      exact List.ne_nil_of_mem (List.mem_filter.mpr ⟨hy, by simpa using hp⟩)
    rw [List.filter_append, hz, List.cons_append] at hturn
    have hzx : z = x := (List.cons.inj hturn).1
    have hmem : z ∈ before.filter (·.priority == x.priority) := by
      rw [hz]
      exact List.mem_cons_self
    have hlt := hbefore z (List.mem_of_mem_filter hmem) (by rw [hzx])
    rw [hzx] at hlt
    exact absurd hlt (UInt32.lt_irrefl _)
  unfold StampsInOrder at ho ⊢
  rw [List.pairwise_append] at ho ⊢
  obtain ⟨hb, ha, hba⟩ := ho
  refine ⟨hb, List.pairwise_cons.mpr ⟨fun y hy hp => hafter y hy hp.symm, ha⟩, ?_⟩
  intro y hy z hz hp
  rcases List.mem_cons.mp hz with rfl | hz
  · exact absurd hp (hne y hy)
  · exact hba y hy z hz hp

end Steps

/-- **A step from a state in order keeps items in turn.** -/
theorem QueueLog.Fifo.step {s : QueueLog} (h : s.Fifo) (ho : s.InOrder) (op : QueueOp) :
    (s.step op).Fifo := by
  cases op with
  | enqueue now item =>
    rcases rtosPriorityQueueEnqueue_order s.queue (item.stamped now) with
      ⟨hr, he, hq⟩ | ⟨hr, he, hq⟩ | ⟨hr, x, kept, he, hl, hq⟩
    · -- refused
      simpa [QueueLog.Fifo, QueueLog.step, hr, he, hq] using h
    · simpa [QueueLog.Fifo, QueueLog.step, hr, he, hq] using h.append (item.stamped now)
    · -- an item is evicted first
      simpa [QueueLog.Fifo, QueueLog.step, hr, he, hq] using
        (InTurn.leave h ho hl).append (item.stamped now)
  | dequeue =>
    rcases rtosPriorityQueueDequeue_order s.queue with ⟨hq, -⟩ | ⟨x, hx, hl⟩
    · simpa [QueueLog.Fifo, QueueLog.step, hq] using h
    · simpa [QueueLog.Fifo, QueueLog.step, hx] using InTurn.leave h ho hl

theorem QueueLog.InOrder.dequeue {s : QueueLog} (ho : s.InOrder) : (s.step .dequeue).InOrder := by
  rcases rtosPriorityQueueDequeue_order s.queue with ⟨hq, -⟩ | ⟨x, hx, hl⟩
  · simpa [QueueLog.InOrder, QueueLog.step, hq] using ho
  · simpa [QueueLog.InOrder, QueueLog.step] using hl.stampsInOrder ho

/-! ### Runs -/

/-- A number of dequeues. -/
def QueueLog.drain (s : QueueLog) (n : ℕ) : QueueLog :=
  (List.replicate n .dequeue).foldl QueueLog.step s

theorem QueueLog.drain_fifo {s : QueueLog} (h : s.Fifo) (ho : s.InOrder) (n : ℕ) :
    (s.drain n).Fifo := by
  induction n generalizing s with
  | zero => exact h
  | succ n ih => exact ih (h.step ho .dequeue) ho.dequeue

/-- **A queue that is drained in turn was in order.** -/
theorem QueueLog.inOrder_of_drain {s : QueueLog} (h : ∀ n, (s.drain n).Fifo) : s.InOrder := by
  -- by the number of queued items, each dequeue taking one
  induction hn : s.queue.items.length generalizing s with
  | zero =>
    unfold QueueLog.InOrder
    rw [List.length_eq_zero_iff.mp hn]
    exact List.Pairwise.nil
  | succ n ih =>
    rcases rtosPriorityQueueDequeue_order s.queue with ⟨-, hnil⟩ | ⟨x, hx, hl⟩
    · rw [hnil] at hn
      cases hn
    · have hlen : (s.step .dequeue).queue.items.length = n := by
        obtain ⟨before, after, hitems, hleft, -, -⟩ := hl
        have hq : (s.step .dequeue).queue.items = before ++ after := hleft
        rw [hitems, List.length_append, List.length_cons] at hn
        rw [hq, List.length_append]
        omega
      have hrest : (s.step .dequeue).InOrder := ih (fun m => h (m + 1)) hlen
      have h0 : InTurn s.accepted s.left s.queue.items := h 0
      have h1 : InTurn s.accepted (s.left ++ [x]) (rtosPriorityQueueDequeue s.queue).2.2.items := by
        simpa [QueueLog.Fifo, QueueLog.drain, QueueLog.step, hx] using h 1
      exact hl.stampsInOrder_of_inTurn h0 h1 hrest

theorem queueRun_concat (ops : List QueueOp) (op : QueueOp) :
    queueRun (ops ++ [op]) = (queueRun ops).step op := by
  simp [queueRun, List.foldl_append]

/-- **A run whose states are in order lets items go in turn.** -/
theorem queueRun_fifo {ops : List QueueOp}
    (h : ∀ before op after, ops = before ++ op :: after → (queueRun before).InOrder) :
    (queueRun ops).Fifo := by
  induction ops using List.reverseRecOn with
  | nil => intro p; rfl
  | append_singleton ops op ih =>
    rw [queueRun_concat]
    refine (ih ?_).step (h ops op [] rfl) op
    intro before op' after heq
    exact h before op' (after ++ [op]) (by simp [heq])

/-- **Equal priorities leave in turn exactly where their stamps are in
order.** Each state a run passes through lets its items go in turn, and
would still do so if drained there, exactly if each such state holds the
items of one priority with stamps that do not decrease. -/
theorem queueRun_fifo_iff (ops : List QueueOp) :
    (∀ before after, ops = before ++ after → ∀ n, ((queueRun before).drain n).Fifo) ↔
      ∀ before after, ops = before ++ after → (queueRun before).InOrder := by
  constructor
  · intro h before after heq
    exact QueueLog.inOrder_of_drain (h before after heq)
  · intro h before after heq n
    refine QueueLog.drain_fifo (queueRun_fifo ?_) (h before after heq) n
    intro b op a hb
    exact h b (op :: a ++ after) (by simp [heq, hb])

/-! ### The clock -/

/-- The clock readings of a run. -/
def clockReadings (ops : List QueueOp) : List ℕ :=
  ops.filterMap fun
    | .enqueue now _ => some now
    | .dequeue => none

/-- The clock does not go backwards. -/
def Clocked (ops : List QueueOp) : Prop := (clockReadings ops).Pairwise (· ≤ ·)

instance (ops : List QueueOp) : Decidable (Clocked ops) :=
  inferInstanceAs (Decidable (List.Pairwise _ _))

/-- What an enqueue queues is the item or was queued before it. -/
theorem QueueLog.mem_enqueue {s : QueueLog} {now : ℕ} {item y : QueueItem}
    (hy : y ∈ (s.step (.enqueue now item)).queue.items) :
    y ∈ s.queue.items ∨ y = item.stamped now := by
  rcases rtosPriorityQueueEnqueue_order s.queue (item.stamped now) with
    ⟨-, -, hq⟩ | ⟨-, -, hq⟩ | ⟨-, x, kept, -, ⟨before, after, hs, hk, -, -⟩, hq⟩
  · simp only [QueueLog.step, hq] at hy
    exact .inl hy
  · simp only [QueueLog.step, hq, List.mem_append, List.mem_singleton] at hy
    exact hy
  · simp only [QueueLog.step, hq, hk, List.mem_append, List.mem_singleton] at hy
    rw [hs, List.mem_append, List.mem_cons]
    tauto

/-- An enqueue stamped no earlier than what is queued keeps the order. -/
theorem QueueLog.InOrder.enqueue {s : QueueLog} (ho : s.InOrder) {now : ℕ} {item : QueueItem}
    (h : ∀ x ∈ s.queue.items, x.enqueueTimeMs ≤ UInt32.ofNat now) :
    (s.step (.enqueue now item)).InOrder := by
  have happend : ∀ queued : List QueueItem, StampsInOrder queued →
      (∀ x ∈ queued, x.enqueueTimeMs ≤ UInt32.ofNat now) →
      StampsInOrder (queued ++ [item.stamped now]) := by
    intro queued ho h
    refine List.pairwise_append.mpr ⟨ho, List.pairwise_singleton _ _, ?_⟩
    intro x hx y hy _
    obtain rfl := List.mem_singleton.mp hy
    exact h x hx
  rcases rtosPriorityQueueEnqueue_order s.queue (item.stamped now) with
    ⟨-, -, hq⟩ | ⟨-, -, hq⟩ | ⟨-, x, kept, -, hl, hq⟩
  · simpa [QueueLog.InOrder, QueueLog.step, hq] using ho
  · simpa [QueueLog.InOrder, QueueLog.step, hq] using happend _ ho h
  · simp only [QueueLog.InOrder, QueueLog.step, hq]
    refine happend _ (hl.stampsInOrder ho) ?_
    obtain ⟨before, after, hs, rfl, -, -⟩ := hl
    intro y hy
    apply h
    rw [hs, List.mem_append, List.mem_cons]
    rw [List.mem_append] at hy
    tauto

/-- **The stamps are in order until the clock wraps.** -/
theorem queueRun_inOrder {ops : List QueueOp} (hclock : Clocked ops)
    (hwrap : ∀ t ∈ clockReadings ops, t < 2 ^ 32) : (queueRun ops).InOrder := by
  suffices h : (queueRun ops).InOrder ∧
      ∀ x ∈ (queueRun ops).queue.items, x.enqueueTimeMs.toNat ∈ clockReadings ops from h.1
  -- every stamp in the queue is a past reading, so a new one cannot precede it
  induction ops using List.reverseRecOn with
  | nil =>
    refine ⟨List.Pairwise.nil, ?_⟩
    intro x hx
    cases hx
  | append_singleton ops op ih =>
    have hreadings : clockReadings (ops ++ [op]) = clockReadings ops ++ clockReadings [op] :=
      List.filterMap_append
    unfold Clocked at hclock
    rw [hreadings] at hclock hwrap ⊢
    obtain ⟨hbefore, -, hlast⟩ := List.pairwise_append.mp hclock
    obtain ⟨ho, hstamps⟩ := ih hbefore fun t ht => hwrap t (List.mem_append_left _ ht)
    rw [queueRun_concat]
    cases op with
    | dequeue =>
      refine ⟨ho.dequeue, ?_⟩
      intro x hx
      apply List.mem_append_left
      rcases rtosPriorityQueueDequeue_order (queueRun ops).queue with
        ⟨hq, -⟩ | ⟨z, -, before, after, hs, hk, -, -⟩
      · simp only [QueueLog.step, hq] at hx
        exact hstamps x hx
      · simp only [QueueLog.step, hk, List.mem_append] at hx
        apply hstamps
        rw [hs, List.mem_append, List.mem_cons]
        tauto
    | enqueue now item =>
      have hnow : now < 2 ^ 32 := hwrap now (by simp [clockReadings])
      have hstamp : (UInt32.ofNat now).toNat = now := by
        rw [UInt32.toNat_ofNat']
        omega
      constructor
      · apply ho.enqueue
        intro x hx
        rw [UInt32.le_iff_toNat_le, hstamp]
        exact hlast _ (hstamps x hx) now (by simp [clockReadings])
      · intro x hx
        rcases QueueLog.mem_enqueue hx with hx | rfl
        · exact List.mem_append_left _ (hstamps x hx)
        · apply List.mem_append_right
          simp [QueueItem.stamped, hstamp, clockReadings]

/-- An item of the lowest priority. -/
def sampleItem (frameId : UInt32) : QueueItem :=
  ⟨frameId, 0, 0, ⟨0, 0, 0, 0⟩, ⟨0, 0, 0, 0⟩, 0, 3, 0, 0, 0, 0, 0, 0, 0, 0⟩

/-- **Across a wrap the later item goes first.** One item is enqueued in
the last millisecond before the wrap and one in the first after it. -/
theorem wrapped_clock_not_fifo :
    ¬ ∀ ops : List QueueOp, Clocked ops → (queueRun ops).Fifo := by
  intro h
  have hrun := h [.enqueue (2 ^ 32 - 1) (sampleItem 1), .enqueue (2 ^ 32) (sampleItem 2), .dequeue]
    (by decide)
  exact absurd (hrun 3) (by decide +kernel)

end Rtos

end PutGateway
