import PutGateway.Rtos.QueueOrder
/-!
# What a queue has taken in and given out

A `QueueAccount` is a queue with the items accepted by it, the items
dequeued and the items evicted. Along every run the accepted items are,
as a multiset, those dequeued, those evicted and those still queued
(`queueAccounts_balanced`).

An eviction makes room for a new item only in a full queue. Its victim is
of the largest priority number present, no smaller than that of the new
item, and never of priority 0: the scan of `find_evictable_item` goes
down from the largest number, and leaves out priority 0 where it would
come to it.
-/

namespace PutGateway

namespace Rtos

/-! ## The victim -/

section Victim

variable {items : List QueueItem} {newPriority : UInt8} {k : ℕ}

/-- The scan down a list of priorities stops at the first that has an
item. -/
theorem findEvictableFrom_largest {ps : List UInt8}
    (h : findEvictableFrom items newPriority ps = some k) (hdown : ps.Pairwise (· > ·))
    (hvalid : ∀ p ∈ ps, rtosPriorityQueuePriorityIsValid p = true)
    (hall : ∀ x ∈ items, x.priority ∈ ps) :
    ∃ p, findOldestPriority items p = some k ∧ newPriority ≤ p ∧ p ≠ 0 ∧
      ∀ x ∈ items, x.priority ≤ p := by
  induction ps with
  | nil => cases h
  | cons p rest ih =>
    obtain ⟨hbelow, hdown'⟩ := List.pairwise_cons.mp hdown
    rw [findEvictableFrom] at h
    split at h
    · cases h
    · next hge =>
      split at h
      · next hzero =>
        -- nothing is below priority 0
        rw [Bool.and_eq_true, decide_eq_true_iff, decide_eq_true_iff] at hzero
        obtain rfl : rest = [] := by
          rw [List.eq_nil_iff_forall_not_mem]
          intro y hy
          have hlt := hbelow y hy
          rw [hzero.1] at hlt
          exact UInt8.not_lt_zero hlt
        cases h
      · next hzero =>
        split at h
        · next hfound =>
          obtain rfl := Option.some.inj h
          refine ⟨p, hfound, UInt8.not_lt.mp hge, ?_, fun x hx => ?_⟩
          · rintro rfl
            have hnew : newPriority = 0 := UInt8.le_zero_iff.mp (UInt8.not_lt.mp hge)
            exact hzero (by rw [hnew]; rfl)
          · rcases List.mem_cons.mp (hall x hx) with hp | hp
            · exact UInt8.le_of_eq hp
            · exact UInt8.le_of_lt (hbelow _ hp)
        · next hnone =>
          -- no item of this priority
          refine ih h hdown' (fun y hy => hvalid y (List.mem_cons_of_mem _ hy)) fun x hx => ?_
          rcases List.mem_cons.mp (hall x hx) with hp | hp
          · have hhas := hasPriority_of_mem hx (by rw [hp]; exact hvalid p List.mem_cons_self)
            have hsome := findOldestPriority_isSome hhas
            rw [hp, hnone] at hsome
            cases hsome
          · exact hp

theorem findEvictableItem_largest (h : findEvictableItem items newPriority = some k)
    (hvalid : ∀ x ∈ items, rtosPriorityQueuePriorityIsValid x.priority = true) :
    ∃ p, findOldestPriority items p = some k ∧ newPriority ≤ p ∧ p ≠ 0 ∧
      ∀ x ∈ items, x.priority ≤ p := by
  have hmem : ∀ p : UInt8, rtosPriorityQueuePriorityIsValid p = true → p ∈ [3, 2, 1, 0] := by
    intro p hp
    have hlt : p.toNat < 4 := by
      simpa [rtosPriorityQueuePriorityIsValid, UInt8.lt_iff_toNat_lt] using hp
    simp only [List.mem_cons, List.not_mem_nil, or_false, ← UInt8.toNat_inj, UInt8.reduceToNat]
    omega
  unfold findEvictableItem at h
  split at h
  · have hlevels : ∀ p ∈ [3, 2, 1, 0], rtosPriorityQueuePriorityIsValid p = true :=
      List.all_eq_true.mp rfl
    exact findEvictableFrom_largest h (by decide) hlevels fun x hx => hmem _ (hvalid x hx)
  · cases h

end Victim

/-! ## The policy -/

/-- The item that goes when a new one comes to a full queue. -/
structure Evicts (items : List QueueItem) (item victim : QueueItem) (items' : List QueueItem) :
    Prop where
  full : items.length = priorityQueueCapacity
  no_more_important : item.priority ≤ victim.priority
  largest : ∀ x ∈ items, x.priority ≤ victim.priority
  spared : victim.priority ≠ 0
  /-- One item goes, and the new one takes the last place. -/
  replaced : ∃ before after, items = before ++ victim :: after ∧ items' = before ++ after ++ [item]

/-- **What an enqueue does**, by its result and what it evicts. -/
structure EnqueuePolicy (q : PriorityQueue) (item : QueueItem) (r : EnqueueResult) : Prop where
  failed : r.result ≠ .ok → r.queue = q ∧ r.evicted = none
  appended : r.result = .ok → r.evicted = none → r.queue.items = q.items ++ [item]
  evicts : ∀ victim, r.evicted = some victim → r.result = .ok ∧
    Evicts q.items item victim r.queue.items
  invalid : rtosPriorityQueuePriorityIsValid item.priority = false → r.result ≠ .ok

/-- **Every enqueue keeps to the policy.** -/
theorem rtosPriorityQueueEnqueue_policy (q : PriorityQueue) (item : QueueItem) :
    EnqueuePolicy q item (rtosPriorityQueueEnqueue q item) := by
  unfold rtosPriorityQueueEnqueue
  split
  · next hp =>
    have hnot : rtosPriorityQueuePriorityIsValid item.priority ≠ false := by
      rw [hp]
      exact Bool.noConfusion
    split
    · -- room for the item
      refine ⟨fun h => absurd rfl h, fun _ _ => rfl, ?_, fun h => absurd h hnot⟩
      intro victim hv
      cases hv
    · next hroom =>
      split
      · -- no victim
        refine ⟨fun _ => ⟨rfl, rfl⟩, ?_, ?_, fun h => absurd h hnot⟩
        · intro h
          cases h
        · intro victim hv
          cases hv
      · next k hk =>
        refine ⟨fun h => absurd rfl h, ?_, ?_, fun h => absurd h hnot⟩
        · intro _ hnone
          cases hnone
        · intro victim hv
          obtain rfl := Option.some.inj hv
          obtain ⟨p, hfound, hle, hne, hlargest⟩ := findEvictableItem_largest hk q.valid
          have hlt := findEvictableItem_lt hk
          have hvictim : q.items[k].priority = p := findOldestPriority_priority hfound hlt
          obtain ⟨before, after, hitems, hleft, -, -⟩ := findOldestPriority_leavesOldest hfound hlt
          refine ⟨rfl, ?_, ?_, ?_, ?_, before, after, hitems, ?_⟩
          · exact le_antisymm q.bounded (Nat.le_of_not_lt hroom)
          · rw [hvictim]
            exact hle
          · rw [hvictim]
            exact hlargest
          · rw [hvictim]
            exact hne
          · show q.items.eraseIdx k ++ [item] = _
            rw [hleft]
  · next hp =>
    refine ⟨fun _ => ⟨rfl, rfl⟩, ?_, ?_, fun _ h => by cases h⟩
    · intro h
      cases h
    · intro victim hv
      cases hv

/-! ## The account -/

/-- A queue with the items accepted, dequeued and evicted. -/
structure QueueAccount where
  queue : PriorityQueue
  enqueued : List QueueItem
  dequeued : List QueueItem
  evicted : List QueueItem

/-- A step, entered in the account. -/
def QueueAccount.step (s : QueueAccount) : QueueOp → QueueAccount
  | .enqueue now item =>
    let r := rtosPriorityQueueEnqueue s.queue (item.stamped now)
    { s with
      queue := r.queue
      enqueued := if r.result = .ok then s.enqueued ++ [item.stamped now] else s.enqueued
      evicted := s.evicted ++ r.evicted.toList }
  | .dequeue =>
    let r := rtosPriorityQueueDequeue s.queue
    { s with queue := r.2.2, dequeued := s.dequeued ++ r.2.1.toList }

/-- The account of a run from `rtos_priority_queue_init`. -/
def queueAccounts (ops : List QueueOp) : QueueAccount :=
  ops.foldl QueueAccount.step ⟨rtosPriorityQueueInit, [], [], []⟩

/-- What has come in is what has gone out and what is there. -/
def QueueAccount.Balanced (s : QueueAccount) : Prop :=
  s.enqueued.Perm (s.dequeued ++ s.evicted ++ s.queue.items)

/-- **Every step keeps the account balanced.** -/
theorem QueueAccount.Balanced.step {s : QueueAccount} (h : s.Balanced) (op : QueueOp) :
    (s.step op).Balanced := by
  unfold QueueAccount.Balanced at h ⊢
  cases op with
  | enqueue now item =>
    have hin := h.append_right [item.stamped now]
    rcases rtosPriorityQueueEnqueue_cases s.queue (item.stamped now) with
      ⟨hr, he, hq⟩ | ⟨hr, he, hq⟩ | ⟨hr, e, he, hperm⟩
    · -- refused
      simpa [QueueAccount.step, hr, he, hq] using h
    · simpa [QueueAccount.step, hr, he, hq] using hin
    · -- the victim moves to the evicted items
      simp only [QueueAccount.step, hr, he, if_true, Option.toList_some]
      refine hin.trans ?_
      rw [List.append_assoc, List.append_assoc, List.append_assoc, List.append_assoc,
        List.singleton_append]
      exact ((hperm.symm.append_left s.evicted)).append_left s.dequeued
  | dequeue =>
    rcases rtosPriorityQueueDequeue_cases s.queue with ⟨hq, -⟩ | ⟨x, queue, hq, hperm⟩
    · simpa [QueueAccount.step, hq] using h
    · simp only [QueueAccount.step, hq, Option.toList_some]
      refine h.trans ?_
      rw [List.append_assoc, List.append_assoc, List.append_assoc]
      refine List.Perm.append_left s.dequeued ?_
      refine (hperm.symm.append_left s.evicted).trans ?_
      rw [List.singleton_append]
      exact List.perm_middle

theorem queueAccounts_concat (ops : List QueueOp) (op : QueueOp) :
    queueAccounts (ops ++ [op]) = (queueAccounts ops).step op := by
  simp [queueAccounts, List.foldl_append]

theorem queueAccounts_balanced (ops : List QueueOp) : (queueAccounts ops).Balanced := by
  induction ops using List.reverseRecOn with
  | nil => exact List.Perm.refl []
  | append_singleton ops op ih =>
    rw [queueAccounts_concat]
    exact ih.step op

/-- **No item is lost, and evictions keep to the policy.** After every run
the items accepted are those dequeued, evicted and queued, at most 64 are
queued, every next enqueue keeps to the policy, and a dequeue that fails
leaves the queue as it is. -/
theorem queueAccounts_conserve (ops : List QueueOp) :
    ((queueAccounts ops).enqueued.Perm ((queueAccounts ops).dequeued ++
      (queueAccounts ops).evicted ++ (queueAccounts ops).queue.items)) ∧
    (queueAccounts ops).queue.items.length ≤ 64 ∧
    (∀ item, EnqueuePolicy (queueAccounts ops).queue item
      (rtosPriorityQueueEnqueue (queueAccounts ops).queue item)) ∧
    ((rtosPriorityQueueDequeue (queueAccounts ops).queue).1 = .ok ∨
      (rtosPriorityQueueDequeue (queueAccounts ops).queue).2 = (none, (queueAccounts ops).queue)) := by
  refine ⟨queueAccounts_balanced ops, (queueAccounts ops).queue.bounded,
    rtosPriorityQueueEnqueue_policy _, ?_⟩
  rcases rtosPriorityQueueDequeue_cases (queueAccounts ops).queue with
    ⟨hempty, -⟩ | ⟨x, queue, htaken, -⟩
  · exact .inr (congrArg Prod.snd hempty)
  · exact .inl (congrArg Prod.fst htaken)

end Rtos

end PutGateway
