import PutGateway.Common.SharedMemoryIpc
import Mathlib.Data.Fin.VecNotation
import Mathlib.Data.List.Perm.Basic
/-!
# The priority queue of the router

`rtos_firmware/queue/rtos_priority_queue.c`: at most 64 items of four
priorities, served in weighted rounds. Each priority has a quota for the
round; the scheduler serves one priority until its quota or its items
are used up, then moves on, and starts a new round past the last
priority.

The array `items[0 .. count)` is a list. That every queued item has a
valid priority, and that the list fits the array, are fields of the
queue: `rtos_priority_queue_enqueue` refuses anything else. They make
`rtos_priority_queue_dequeue` total: its eight-step scan always finds an
item of a queue that has one (`scan_isSome`), and the recursive call
after the scan is never made.
-/

namespace PutGateway

namespace Rtos

/-- `rtos_priority_queue_item_t`. -/
structure QueueItem where
  frameId : UInt32
  sourceInterface : PutShmInterface
  targetInterface : PutShmInterface
  sourceCid : Cid
  destinationCid : Cid
  type : UInt8
  priority : UInt8
  ttl : UInt8
  retryCount : UInt8
  epoch : UInt32
  flags : UInt32
  receiveTimeMs : UInt32
  enqueueTimeMs : UInt32
  routeEpochSeen : UInt32
  frameLocalTime : UInt32
  deriving DecidableEq

/-- `rtos_priority_queue_priority_is_valid`. -/
def rtosPriorityQueuePriorityIsValid (priority : UInt8) : Bool := priority < 4

/-- `RTOS_FIRMWARE_PRIORITY_QUEUE_CAPACITY`. -/
def priorityQueueCapacity : ℕ := 64

/-- `rtos_priority_queue_t`. -/
structure PriorityQueue where
  items : List QueueItem
  quotaUsed : Fin 4 → UInt8
  schedulerPriority : UInt8
  /-- Queued items have a valid priority. -/
  valid : ∀ x ∈ items, rtosPriorityQueuePriorityIsValid x.priority = true
  /-- The items fit the array. -/
  bounded : items.length ≤ priorityQueueCapacity

/-- The quotas `rtos_priority_queue_init` sets, which nothing changes. -/
def quota : Fin 4 → UInt8 := ![16, 12, 8, 4]

/-- `rtos_priority_queue_init`. -/
def rtosPriorityQueueInit : PriorityQueue where
  items := []
  quotaUsed _ := 0
  schedulerPriority := 0
  valid := by simp
  bounded := by simp

/-- `reset_quota_round`. -/
def PriorityQueue.resetQuotaRound (q : PriorityQueue) : PriorityQueue :=
  { q with quotaUsed := fun _ => 0, schedulerPriority := 0 }

/-- `has_priority`. -/
def hasPriority (items : List QueueItem) (priority : UInt8) : Bool :=
  rtosPriorityQueuePriorityIsValid priority && items.any fun x => x.priority == priority

/-- The loop of `find_oldest_priority`: `i` is the index of the next item,
`oldest` the earliest match so far with its time. -/
def findOldestFrom (priority : UInt8) : List QueueItem → ℕ → Option (ℕ × UInt32) → Option (ℕ × UInt32)
  | [], _, oldest => oldest
  | x :: rest, i, oldest =>
    let oldest' :=
      if x.priority = priority then
        match oldest with
        | none => some (i, x.enqueueTimeMs)
        | some (j, t) => if x.enqueueTimeMs < t then some (i, x.enqueueTimeMs) else some (j, t)
      else oldest
    findOldestFrom priority rest (i + 1) oldest'

/-- `find_oldest_priority`: the index of the earliest item of a priority. -/
def findOldestPriority (items : List QueueItem) (priority : UInt8) : Option ℕ :=
  if rtosPriorityQueuePriorityIsValid priority then
    (findOldestFrom priority items 0 none).map Prod.fst
  else none

/-- The loop of `find_evictable_item` over the candidate priorities, from
the least important on. -/
def findEvictableFrom (items : List QueueItem) (newPriority : UInt8) : List UInt8 → Option ℕ
  | [] => none
  | priority :: rest =>
    if priority < newPriority then none
    else if priority = 0 && newPriority = 0 then findEvictableFrom items newPriority rest
    else match findOldestPriority items priority with
      | some index => some index
      | none => findEvictableFrom items newPriority rest

/-- `find_evictable_item`. -/
def findEvictableItem (items : List QueueItem) (newPriority : UInt8) : Option ℕ :=
  if rtosPriorityQueuePriorityIsValid newPriority then
    findEvictableFrom items newPriority [3, 2, 1, 0]
  else none

/-! ## Indices found are indices of items -/

/-- What a search starts from and what it meets are all it can find. -/
theorem findOldestFrom_lt {priority : UInt8} {items : List QueueItem} {i : ℕ}
    {oldest : Option (ℕ × UInt32)} {k : ℕ × UInt32}
    (h : findOldestFrom priority items i oldest = some k) :
    oldest = some k ∨ (i ≤ k.1 ∧ k.1 < i + items.length) := by
  induction items generalizing i oldest with
  | nil => exact .inl h
  | cons x rest ih =>
    simp only [findOldestFrom] at h
    rcases ih h with hfound | ⟨hle, hlt⟩
    · -- the item met here, or the one the search came with
      split at hfound
      · split at hfound
        · right
          obtain rfl := Option.some.inj hfound
          simp
        · next j t =>
          split at hfound
          · right
            obtain rfl := Option.some.inj hfound
            simp
          · exact .inl hfound
      · exact .inl hfound
    · right
      rw [List.length_cons]
      omega

theorem findOldestPriority_lt {items : List QueueItem} {priority : UInt8} {k : ℕ}
    (h : findOldestPriority items priority = some k) : k < items.length := by
  unfold findOldestPriority at h
  split at h
  · obtain ⟨⟨k', t⟩, hfound, rfl⟩ := Option.map_eq_some_iff.mp h
    rcases findOldestFrom_lt hfound with h | ⟨-, hlt⟩
    · cases h
    · simpa using hlt
  · cases h

theorem findEvictableFrom_lt {items : List QueueItem} {newPriority : UInt8} {ps : List UInt8} {k : ℕ}
    (h : findEvictableFrom items newPriority ps = some k) : k < items.length := by
  induction ps with
  | nil => cases h
  | cons p rest ih =>
    simp only [findEvictableFrom] at h
    split at h
    · cases h
    · split at h
      · exact ih h
      · split at h
        · next hfound =>
          obtain rfl := Option.some.inj h
          exact findOldestPriority_lt hfound
        · exact ih h

theorem findEvictableItem_lt {items : List QueueItem} {newPriority : UInt8} {k : ℕ}
    (h : findEvictableItem items newPriority = some k) : k < items.length := by
  unfold findEvictableItem at h
  split at h
  · exact findEvictableFrom_lt h
  · cases h

/-- A search that came with a match, or meets one, finds one. -/
theorem findOldestFrom_isSome {priority : UInt8} {items : List QueueItem} {i : ℕ}
    {oldest : Option (ℕ × UInt32)}
    (h : oldest.isSome ∨ ∃ x ∈ items, x.priority = priority) :
    (findOldestFrom priority items i oldest).isSome := by
  induction items generalizing i oldest with
  | nil => simpa [findOldestFrom] using h
  | cons x rest ih =>
    simp only [findOldestFrom]
    apply ih
    by_cases hx : x.priority = priority
    · left
      rw [if_pos hx]
      cases oldest with
      | none => rfl
      | some jt => simp only; split <;> rfl
    · rw [if_neg hx]
      simpa [hx] using h

theorem findOldestPriority_isSome {items : List QueueItem} {priority : UInt8}
    (h : hasPriority items priority = true) : (findOldestPriority items priority).isSome := by
  simp only [hasPriority, Bool.and_eq_true, List.any_eq_true, beq_iff_eq] at h
  rw [findOldestPriority, if_pos h.1, Option.isSome_map]
  exact findOldestFrom_isSome (.inr h.2)

/-! ## Enqueue -/

/-- What an enqueue did: the result, the evicted item and the queue. -/
structure EnqueueResult where
  result : UnifiedError
  evicted : Option QueueItem
  queue : PriorityQueue

/-- `remove_index`. -/
def PriorityQueue.removeIndex (q : PriorityQueue) (index : ℕ) : PriorityQueue :=
  { q with
    items := q.items.eraseIdx index
    valid := fun x hx => q.valid x (List.mem_of_mem_eraseIdx hx)
    bounded := (List.length_eraseIdx_le _ _).trans q.bounded }

/-- Append an item to a queue with room for it. -/
def PriorityQueue.append (q : PriorityQueue) (item : QueueItem)
    (hp : rtosPriorityQueuePriorityIsValid item.priority = true)
    (hroom : q.items.length < priorityQueueCapacity) : PriorityQueue :=
  { q with
    items := q.items ++ [item]
    valid := by
      intro x hx
      rcases List.mem_append.mp hx with hx | hx
      · exact q.valid x hx
      · obtain rfl := List.mem_singleton.mp hx
        exact hp
    bounded := by simpa using Nat.succ_le_of_lt hroom }

/-- Removing an item makes room for one. -/
theorem PriorityQueue.removeIndex_room (q : PriorityQueue) {k : ℕ} (hk : k < q.items.length) :
    (q.removeIndex k).items.length < priorityQueueCapacity := by
  have := q.bounded
  simp only [PriorityQueue.removeIndex, List.length_eraseIdx_of_lt hk]
  omega

/-- `rtos_priority_queue_enqueue`. -/
def rtosPriorityQueueEnqueue (q : PriorityQueue) (item : QueueItem) : EnqueueResult :=
  if hp : rtosPriorityQueuePriorityIsValid item.priority = true then
    if hroom : q.items.length < priorityQueueCapacity then ⟨.ok, none, q.append item hp hroom⟩
    else match hk : findEvictableItem q.items item.priority with
      | none => ⟨.ipcQueueFull, none, q⟩
      | some k =>
        have hlt := findEvictableItem_lt hk
        ⟨.ok, some q.items[k], (q.removeIndex k).append item hp (q.removeIndex_room hlt)⟩
  else ⟨.invalidArg, none, q⟩

/-! ## Dequeue -/

/-- The quota used by a scheduler priority below four. -/
def PriorityQueue.quotaLeft (q : PriorityQueue) (priority : UInt8) : Bool :=
  if h : priority.toNat < 4 then q.quotaUsed ⟨priority.toNat, h⟩ < quota ⟨priority.toNat, h⟩ else false

/-- Count one item served from a priority. -/
def PriorityQueue.countServed (q : PriorityQueue) (priority : UInt8) : PriorityQueue :=
  if h : priority.toNat < 4 then
    { q with
      quotaUsed := Function.update q.quotaUsed ⟨priority.toNat, h⟩
        (q.quotaUsed ⟨priority.toNat, h⟩ + 1) }
  else q

def PriorityQueue.advance (q : PriorityQueue) : PriorityQueue :=
  { q with schedulerPriority := q.schedulerPriority + 1 }

/-- Serve the item at an index from the scheduled priority. -/
def PriorityQueue.serve (q : PriorityQueue) (k : ℕ) : PriorityQueue :=
  let served := (q.removeIndex k).countServed q.schedulerPriority
  if !served.quotaLeft q.schedulerPriority || !hasPriority served.items q.schedulerPriority then
    served.advance
  else served

/-- Serve the scheduled priority, or move on. -/
def PriorityQueue.serveScheduled (q : PriorityQueue) : Option QueueItem × PriorityQueue :=
  if q.quotaLeft q.schedulerPriority && hasPriority q.items q.schedulerPriority then
    match hk : findOldestPriority q.items q.schedulerPriority with
    | some k => (some (q.items.get ⟨k, findOldestPriority_lt hk⟩), q.serve k)
    | none => (none, q.advance)
  else (none, q.advance)

/-- One pass of the scan loop. Past the last priority a new round starts. -/
def PriorityQueue.scanStep (q : PriorityQueue) : Option QueueItem × PriorityQueue :=
  (if q.schedulerPriority ≥ 4 then q.resetQuotaRound else q).serveScheduled

/-- The scan loop with a number of passes left. -/
def PriorityQueue.scan : ℕ → PriorityQueue → Option (QueueItem × PriorityQueue)
  | 0, _ => none
  | n + 1, q =>
    match q.scanStep with
    | (some item, q') => some (item, q')
    | (none, q') => PriorityQueue.scan n q'

/-! ## The scan finds an item

From a fresh round the scan meets the priorities in order with unused
quotas, so it stops at the first that has an item. From any other state
it needs at most the rest of the round to get there. -/

theorem hasPriority_of_mem {items : List QueueItem} {x : QueueItem} (hx : x ∈ items)
    (hv : rtosPriorityQueuePriorityIsValid x.priority = true) :
    hasPriority items x.priority = true := by
  simp only [hasPriority, hv, Bool.true_and, List.any_eq_true, beq_iff_eq]
  exact ⟨x, hx, rfl⟩

/-- A pass that serves no item only moves on. -/
theorem PriorityQueue.serveScheduled_none {q : PriorityQueue} (h : q.serveScheduled.1 = none) :
    q.serveScheduled.2 = q.advance ∧
      (q.quotaLeft q.schedulerPriority = false ∨
        hasPriority q.items q.schedulerPriority = false) := by
  unfold PriorityQueue.serveScheduled at h ⊢
  by_cases hc : (q.quotaLeft q.schedulerPriority && hasPriority q.items q.schedulerPriority) = true
  · -- the search cannot fail where the priority has an item
    exfalso
    rw [if_pos hc] at h
    obtain ⟨k, hk⟩ := Option.isSome_iff_exists.mp
      (findOldestPriority_isSome (Bool.and_eq_true_iff.mp hc).2)
    split at h
    · cases h
    · next hnone => rw [hk] at hnone; cases hnone
  · rw [if_neg hc]
    refine ⟨rfl, ?_⟩
    simpa only [Bool.and_eq_true, not_and_or, Bool.not_eq_true] using hc

theorem PriorityQueue.scanStep_of_lt {q : PriorityQueue} (hs : q.schedulerPriority < 4) :
    q.scanStep = q.serveScheduled := by
  rw [PriorityQueue.scanStep, if_neg (UInt8.not_le.mpr hs)]

theorem PriorityQueue.scanStep_none {q : PriorityQueue} (hs : q.schedulerPriority < 4)
    (h : q.scanStep.1 = none) :
    q.scanStep.2 = q.advance ∧
      (q.quotaLeft q.schedulerPriority = false ∨
        hasPriority q.items q.schedulerPriority = false) := by
  rw [PriorityQueue.scanStep_of_lt hs] at h ⊢
  exact PriorityQueue.serveScheduled_none h

/-- A pass at the end of a round is a pass of a fresh one. -/
theorem PriorityQueue.scanStep_reset {q : PriorityQueue} (hs : 4 ≤ q.schedulerPriority) :
    q.scanStep = q.resetQuotaRound.scanStep := by
  rw [PriorityQueue.scanStep, if_pos hs, PriorityQueue.scanStep_of_lt (show (0 : UInt8) < 4 by decide)]

/-- In a round whose quotas are unused from the scheduled priority on,
the scan reaches an item of a priority not yet passed. -/
theorem PriorityQueue.scan_fresh {n : ℕ} {q : PriorityQueue} {x : QueueItem} (hx : x ∈ q.items)
    (hs : q.schedulerPriority ≤ x.priority) (hn : x.priority.toNat < q.schedulerPriority.toNat + n)
    (hfresh : ∀ p : Fin 4, q.schedulerPriority.toNat ≤ p → q.quotaUsed p = 0) :
    (q.scan n).isSome := by
  induction n generalizing q with
  | zero =>
    rw [UInt8.le_iff_toNat_le] at hs
    omega
  | succ n ih =>
    have hxv := q.valid x hx
    have hx4 : x.priority.toNat < 4 := by
      simpa [rtosPriorityQueuePriorityIsValid, UInt8.lt_iff_toNat_lt] using hxv
    have hs4 : q.schedulerPriority.toNat < 4 := by
      rw [UInt8.le_iff_toNat_le] at hs
      omega
    simp only [PriorityQueue.scan]
    split
    · rfl
    · next q' hstep =>
      have hnone : q.scanStep.1 = none := by rw [hstep]
      -- a level is passed over only when its quota is spent or nothing queues there
      obtain ⟨hadv, hwhy⟩ := q.scanStep_none (UInt8.lt_iff_toNat_lt.mpr hs4) hnone
      have hq' : q' = q.advance := by rw [← hadv, hstep]
      have hleft : q.quotaLeft q.schedulerPriority = true := by
        have h0 := hfresh ⟨q.schedulerPriority.toNat, hs4⟩ le_rfl
        have hpos : ∀ p : Fin 4, (0 : UInt8) < quota p := by decide
        simp [PriorityQueue.quotaLeft, hs4, h0, hpos]
      have hnext : (q.schedulerPriority + 1).toNat = q.schedulerPriority.toNat + 1 := by
        rw [UInt8.toNat_add]
        have h1 : (1 : UInt8).toNat = 1 := rfl
        omega
      have hne : q.schedulerPriority ≠ x.priority := by
        rintro heq
        rcases hwhy with h | h
        · rw [hleft] at h; cases h
        · rw [heq, hasPriority_of_mem hx hxv] at h; cases h
      -- so the item's own level is still ahead of the advanced scan
      subst hq'
      apply ih
      · exact hx
      · rw [UInt8.le_iff_toNat_le] at hs ⊢
        have hne' : q.schedulerPriority.toNat ≠ x.priority.toNat :=
          fun h => hne (UInt8.toNat_inj.mp h)
        simp only [PriorityQueue.advance, hnext]
        omega
      · simp only [PriorityQueue.advance, hnext]
        omega
      · intro p hp
        apply hfresh
        simp only [PriorityQueue.advance, hnext] at hp
        omega

/-- **The scan of a queue that is not empty finds an item.** -/
theorem PriorityQueue.scan_isSome {q : PriorityQueue} (h : q.items ≠ []) : (q.scan 8).isSome := by
  obtain ⟨x, hx⟩ := List.exists_mem_of_ne_nil _ h
  have hx4 : x.priority.toNat < 4 := by
    simpa [rtosPriorityQueuePriorityIsValid, UInt8.lt_iff_toNat_lt] using q.valid x hx
  have hzero : (0 : UInt8).toNat = 0 := rfl
  -- a scan of four passes from a fresh round succeeds
  have hround : ∀ n, 4 ≤ n → ∀ q : PriorityQueue, x ∈ q.items → 4 ≤ q.schedulerPriority →
      (q.scan n).isSome := by
    intro n hn q hx hs
    obtain ⟨m, rfl⟩ := Nat.exists_eq_add_of_le' (show 1 ≤ n by omega)
    have hscan : q.scan (m + 1) = q.resetQuotaRound.scan (m + 1) := by
      simp only [PriorityQueue.scan, q.scanStep_reset hs]
    rw [hscan]
    refine PriorityQueue.scan_fresh hx ?_ ?_ fun _ _ => rfl
    · rw [UInt8.le_iff_toNat_le]
      exact Nat.zero_le _
    · simp only [PriorityQueue.resetQuotaRound, hzero]
      omega
  -- the rest of the round takes at most four passes
  have hrest : ∀ k, k ≤ 4 → ∀ q : PriorityQueue, x ∈ q.items →
      4 ≤ q.schedulerPriority.toNat + k → (q.scan (4 + k)).isSome := by
    intro k
    induction k with
    | zero =>
      intro _ q hx hs
      exact hround 4 le_rfl q hx (UInt8.le_iff_toNat_le.mpr hs)
    | succ k ih =>
      intro hk q hx hs
      by_cases h4 : 4 ≤ q.schedulerPriority.toNat
      · exact hround _ (by omega) q hx (UInt8.le_iff_toNat_le.mpr h4)
      rw [show 4 + (k + 1) = (4 + k) + 1 by omega, PriorityQueue.scan]
      split
      · rfl
      · next q' hstep =>
        have hnone : q.scanStep.1 = none := by rw [hstep]
        have hlt : q.schedulerPriority < 4 := UInt8.lt_iff_toNat_lt.mpr (by
          have : (4 : UInt8).toNat = 4 := rfl
          omega)
        have hq' : q' = q.advance := by rw [← (q.scanStep_none hlt hnone).1, hstep]
        subst hq'
        refine ih (by omega) _ hx ?_
        simp only [PriorityQueue.advance, UInt8.toNat_add]
        have h1 : (1 : UInt8).toNat = 1 := rfl
        omega
  exact hrest 4 le_rfl q hx (by omega)

/-- `rtos_priority_queue_dequeue`. -/
def rtosPriorityQueueDequeue (q : PriorityQueue) : UnifiedError × Option QueueItem × PriorityQueue :=
  if h : q.items = [] then (.ipcQueueEmpty, none, q)
  else
    let r := (q.scan 8).get (PriorityQueue.scan_isSome h)
    (.ok, some r.1, r.2)

/-! ## No item is lost or made up -/

/-- A queue with room appends the item. -/
theorem rtosPriorityQueueEnqueue_of_room (q : PriorityQueue) {item : QueueItem}
    (hp : rtosPriorityQueuePriorityIsValid item.priority = true)
    (hroom : q.items.length < priorityQueueCapacity) :
    rtosPriorityQueueEnqueue q item = ⟨.ok, none, q.append item hp hroom⟩ := by
  unfold rtosPriorityQueueEnqueue
  exact (dif_pos hp).trans (dif_pos hroom)

/-- An enqueue refuses the item, appends it, or appends it and gives an
item back. -/
theorem rtosPriorityQueueEnqueue_cases (q : PriorityQueue) (item : QueueItem) :
    ((rtosPriorityQueueEnqueue q item).result ≠ .ok ∧
      (rtosPriorityQueueEnqueue q item).evicted = none ∧
      (rtosPriorityQueueEnqueue q item).queue = q) ∨
    ((rtosPriorityQueueEnqueue q item).result = .ok ∧
      (rtosPriorityQueueEnqueue q item).evicted = none ∧
      (rtosPriorityQueueEnqueue q item).queue.items = q.items ++ [item]) ∨
    ((rtosPriorityQueueEnqueue q item).result = .ok ∧
      ∃ e, (rtosPriorityQueueEnqueue q item).evicted = some e ∧
        (e :: (rtosPriorityQueueEnqueue q item).queue.items).Perm (q.items ++ [item])) := by
  unfold rtosPriorityQueueEnqueue
  split
  · split
    · exact .inr (.inl ⟨rfl, rfl, rfl⟩)
    · split
      · exact .inl ⟨by simp, rfl, rfl⟩
      · next k hk =>
        right; right
        have hlt := findEvictableItem_lt hk
        refine ⟨rfl, _, rfl, ?_⟩
        have hperm := List.getElem_cons_eraseIdx_perm hlt
        simpa [PriorityQueue.append, PriorityQueue.removeIndex] using hperm.append_right [item]
  · exact .inl ⟨by simp, rfl, rfl⟩

@[simp] theorem PriorityQueue.items_resetQuotaRound (q : PriorityQueue) :
    q.resetQuotaRound.items = q.items := rfl

@[simp] theorem PriorityQueue.items_advance (q : PriorityQueue) : q.advance.items = q.items := rfl

theorem PriorityQueue.items_serve (q : PriorityQueue) (k : ℕ) :
    (q.serve k).items = q.items.eraseIdx k := by
  have hcount : ∀ p, ((q.removeIndex k).countServed p).items = q.items.eraseIdx k := by
    intro p
    unfold PriorityQueue.countServed
    split <;> rfl
  unfold PriorityQueue.serve
  simp only
  split
  · exact hcount _
  · exact hcount _

/-- A pass moves the item it serves out of the queue. -/
theorem PriorityQueue.serveScheduled_perm (q : PriorityQueue) :
    (q.serveScheduled.1.toList ++ q.serveScheduled.2.items).Perm q.items := by
  unfold PriorityQueue.serveScheduled
  split
  · split
    · next k hk =>
      have hlt := findOldestPriority_lt hk
      simpa [PriorityQueue.items_serve] using List.getElem_cons_eraseIdx_perm hlt
    · exact List.Perm.refl _
  · exact List.Perm.refl _

theorem PriorityQueue.scanStep_perm (q : PriorityQueue) :
    (q.scanStep.1.toList ++ q.scanStep.2.items).Perm q.items := by
  unfold PriorityQueue.scanStep
  split
  · exact q.resetQuotaRound.serveScheduled_perm
  · exact q.serveScheduled_perm

theorem PriorityQueue.scan_perm {n : ℕ} {q : PriorityQueue} {r : QueueItem × PriorityQueue}
    (h : q.scan n = some r) : (r.1 :: r.2.items).Perm q.items := by
  induction n generalizing q with
  | zero => cases h
  | succ n ih =>
    have hperm := q.scanStep_perm
    simp only [PriorityQueue.scan] at h
    split at h
    · next item q' hstep =>
      obtain rfl := Option.some.inj h
      simpa [hstep] using hperm
    · next q' hstep =>
      refine (ih h).trans ?_
      simpa [hstep] using hperm

/-- **A dequeue** finds the queue empty, or takes one item off it. -/
theorem rtosPriorityQueueDequeue_cases (q : PriorityQueue) :
    (rtosPriorityQueueDequeue q = (.ipcQueueEmpty, none, q) ∧ q.items = []) ∨
    ∃ x queue, rtosPriorityQueueDequeue q = (.ok, some x, queue) ∧
      (x :: queue.items).Perm q.items := by
  unfold rtosPriorityQueueDequeue
  split
  · next h => exact .inl ⟨rfl, h⟩
  · next h =>
    exact .inr ⟨_, _, rfl, PriorityQueue.scan_perm (Option.some_get _).symm⟩

end Rtos

end PutGateway
