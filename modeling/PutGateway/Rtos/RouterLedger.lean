import PutGateway.Rtos.RouterSpec
/-!
# The router's ledger

A router between sinks that may fail in any way, and a clock that reads
anything. A journal records every output the router hands to a sink; the
ledger compares it with the frames that were submitted and with those
that are queued.

Frames are told apart by their passport: the fields the router copies
from the input through the queue to the outputs, and the time of receipt,
which an output carries as its latency.
-/

namespace PutGateway

namespace Rtos

variable {H : Type} {S : RouterSinks H}

/-! ## The journal -/

/-- What the router carries of a frame from its input to its outputs. -/
structure Passport where
  frameId : UInt32
  sourceInterface : PutShmInterface
  sourceCid : Cid
  destinationCid : Cid
  type : UInt8
  priority : UInt8
  epoch : UInt32
  flags : UInt32
  receiveTimeMs : UInt32
  deriving DecidableEq

def RouteInput.passport (input : RouteInput) : Passport :=
  ⟨input.frameId, input.sourceInterface, input.sourceCid, input.destinationCid, input.type,
    input.priority, input.epoch, input.flags, input.receiveTimeMs⟩

def QueueItem.passport (item : QueueItem) : Passport :=
  ⟨item.frameId, item.sourceInterface, item.sourceCid, item.destinationCid, item.type,
    item.priority, item.epoch, item.flags, item.receiveTimeMs⟩

/-- An output handed to a sink, what the sink answered, and the last
clock reading before it. -/
inductive Emission
  | tx (output : RouteOutput) (result : UnifiedError) (now : UInt32)
  | reclaim (output : RouteOutput) (result : UnifiedError) (now : UInt32)

namespace Emission

/-- The passport of an output: the time of receipt is read off the
latency. -/
def passport : Emission → Passport
  | .tx o _ now | .reclaim o _ now =>
    ⟨o.frameId, o.sourceInterface, o.sourceCid, o.destinationCid, o.type, o.priority, o.epoch,
      o.flags, now - o.latencyMs⟩

def isAttempt : Emission → Bool
  | .tx .. => true
  | .reclaim .. => false

/-- A TX output the sink took. -/
def isSent : Emission → Bool
  | .tx _ result _ => result = .ok
  | .reclaim .. => false

def isReclaim : Emission → Bool
  | .tx .. => false
  | .reclaim .. => true

/-- The outputs that end a frame's stay in the router. -/
def isTerminal (e : Emission) : Bool := e.isSent || e.isReclaim

end Emission

/-- The state behind the sinks, with the outputs they were handed. -/
structure Journal (H : Type) where
  host : H
  lastRead : UInt32
  log : List Emission

/-- The sinks and the time source, with everything they do recorded. -/
def RouterSinks.journal (S : RouterSinks H) : RouterSinks (Journal H) where
  txSink := some fun output j =>
    ((S.tx output j.host).1,
      { j with
        host := (S.tx output j.host).2
        log := j.log ++ [.tx output (S.tx output j.host).1 j.lastRead] })
  reclaimSink := some fun output j =>
    ((S.reclaim output j.host).1,
      { j with
        host := (S.reclaim output j.host).2
        log := j.log ++ [.reclaim output (S.reclaim output j.host).1 j.lastRead] })
  now j := ((S.now j.host).1, { j with host := (S.now j.host).2, lastRead := (S.now j.host).1 })

/-! ## What becomes of one frame -/

/-- From `s` to `s'` the router gets rid of one frame: the outputs `new`
are of that frame, one of them ends its stay, and at most `n` are
attempts to send it. -/
structure Settles (p : Passport) (n : ℕ) (lawful : RouteOutput → UInt32 → Prop)
    (s s' : Hosted (Journal H)) (new : List Emission) : Prop where
  log : s'.host.log = s.host.log ++ new
  passport : ∀ e ∈ new, e.passport = p
  once : (new.filter Emission.isTerminal).length = 1
  attempts : (new.filter Emission.isAttempt).length ≤ n
  lawful : ∀ o r now, Emission.tx o r now ∈ new → lawful o now
  routed : s'.router.statistics.routedCount =
    s.router.statistics.routedCount + UInt32.ofNat (new.countP Emission.isSent)
  reclaimed : s'.router.statistics.reclaimedCount =
    s.router.statistics.reclaimedCount + UInt32.ofNat (new.countP Emission.isReclaim)
  submitted : s'.router.statistics.submittedCount = s.router.statistics.submittedCount
  queue : s'.router.queue = s.router.queue
  epoch : s'.router.currentLinuxEpoch = s.router.currentLinuxEpoch

variable {p : Passport} {n : ℕ} {lawful : RouteOutput → UInt32 → Prop} {s s' : Hosted (Journal H)}
  {new : List Emission}

theorem Settles.mono (h : Settles p n lawful s s' new) {m : ℕ} (hm : n ≤ m)
    {lawful' : RouteOutput → UInt32 → Prop} (hl : ∀ o now, lawful o now → lawful' o now) :
    Settles p m lawful' s s' new :=
  { h with
    attempts := h.attempts.trans hm
    lawful := fun o r now ho => hl o now (h.lawful o r now ho) }

/-- An attempt that failed comes before what settles the frame. -/
theorem Settles.cons {s₁ : Hosted (Journal H)} {o : RouteOutput} {r : UnifiedError} {now : UInt32}
    (h : Settles p n lawful s₁ s' new) (hr : r ≠ .ok) (hp : (Emission.tx o r now).passport = p)
    (hl : lawful o now) (hlog : s₁.host.log = s.host.log ++ [.tx o r now])
    (hrouted : s₁.router.statistics.routedCount = s.router.statistics.routedCount)
    (hreclaimed : s₁.router.statistics.reclaimedCount = s.router.statistics.reclaimedCount)
    (hsubmitted : s₁.router.statistics.submittedCount = s.router.statistics.submittedCount)
    (hqueue : s₁.router.queue = s.router.queue)
    (hepoch : s₁.router.currentLinuxEpoch = s.router.currentLinuxEpoch) :
    Settles p (n + 1) lawful s s' (.tx o r now :: new) where
  log := by rw [h.log, hlog, List.append_assoc, List.singleton_append]
  passport e he := by
    rcases List.mem_cons.mp he with rfl | he
    · exact hp
    · exact h.passport e he
  once := by
    have hnot : (Emission.tx o r now).isTerminal = false := by
      simp [Emission.isTerminal, Emission.isSent, Emission.isReclaim, hr]
    rw [List.filter_cons_of_neg (by simp [hnot]), h.once]
  attempts := by
    have hlen := h.attempts
    rw [List.filter_cons_of_pos rfl, List.length_cons]
    omega
  lawful o' r' now' ho := by
    rcases List.mem_cons.mp ho with heq | ho
    · injection heq with h1 h2 h3
      rw [h1, h3]
      exact hl
    · exact h.lawful o' r' now' ho
  routed := by
    have hnot : (Emission.tx o r now).isSent = false := by simp [Emission.isSent, hr]
    rw [List.countP_cons_of_neg (by simp [hnot]), h.routed, hrouted]
  reclaimed := by
    rw [List.countP_cons_of_neg (by simp [Emission.isReclaim]), h.reclaimed, hreclaimed]
  submitted := h.submitted.trans hsubmitted
  queue := h.queue.trans hqueue
  epoch := h.epoch.trans hepoch

/-- A frame that is handed to the reclaim sink, at once. -/
theorem Settles.reclaim {o : RouteOutput} {r : UnifiedError} {now : UInt32}
    (hp : (Emission.reclaim o r now).passport = p)
    (hlog : s'.host.log = s.host.log ++ [.reclaim o r now])
    (hrouted : s'.router.statistics.routedCount = s.router.statistics.routedCount)
    (hreclaimed : s'.router.statistics.reclaimedCount = s.router.statistics.reclaimedCount + 1)
    (hsubmitted : s'.router.statistics.submittedCount = s.router.statistics.submittedCount)
    (hqueue : s'.router.queue = s.router.queue)
    (hepoch : s'.router.currentLinuxEpoch = s.router.currentLinuxEpoch) :
    Settles p 0 lawful s s' [.reclaim o r now] where
  log := hlog
  passport e he := by
    obtain rfl := List.mem_singleton.mp he
    exact hp
  once := rfl
  attempts := Nat.le_refl 0
  lawful o' r' now' ho := by simp at ho
  routed := by
    rw [hrouted]
    exact (UInt32.add_zero _).symm
  reclaimed := hreclaimed
  submitted := hsubmitted
  queue := hqueue
  epoch := hepoch

/-- A frame the TX sink takes. -/
theorem Settles.sent {o : RouteOutput} {now : UInt32}
    (hp : (Emission.tx o .ok now).passport = p) (hl : lawful o now)
    (hlog : s'.host.log = s.host.log ++ [.tx o .ok now])
    (hrouted : s'.router.statistics.routedCount = s.router.statistics.routedCount + 1)
    (hreclaimed : s'.router.statistics.reclaimedCount = s.router.statistics.reclaimedCount)
    (hsubmitted : s'.router.statistics.submittedCount = s.router.statistics.submittedCount)
    (hqueue : s'.router.queue = s.router.queue)
    (hepoch : s'.router.currentLinuxEpoch = s.router.currentLinuxEpoch) :
    Settles p 1 lawful s s' [.tx o .ok now] where
  log := hlog
  passport e he := by
    obtain rfl := List.mem_singleton.mp he
    exact hp
  once := rfl
  attempts := Nat.le_refl 1
  lawful o' r' now' ho := by
    obtain heq := List.mem_singleton.mp ho
    injection heq with h1 h2 h3
    rw [h1, h3]
    exact hl
  routed := hrouted
  reclaimed := by
    rw [hreclaimed]
    exact (UInt32.add_zero _).symm
  submitted := hsubmitted
  queue := hqueue
  epoch := hepoch

/-! ## Settling an input and an item -/

/-- The time of receipt is read back off the latency. -/
theorem sub_latency (now receive : UInt32) : now - (now - receive) = receive := by
  rw [sub_sub_cancel]

theorem passport_reclaimInputOutput {input : RouteInput} {reason : ReclaimReason} {r : UnifiedError}
    {now : UInt32} :
    (Emission.reclaim (reclaimInputOutput input now reason) r now).passport = input.passport := by
  simp only [Emission.passport, RouteInput.passport, reclaimInputOutput, sub_latency]

theorem passport_reclaimItemOutput {item : QueueItem} {reason : ReclaimReason} {r : UnifiedError}
    {now : UInt32} :
    (Emission.reclaim (reclaimItemOutput item now reason) r now).passport = item.passport := by
  simp only [Emission.passport, QueueItem.passport, reclaimItemOutput, sub_latency]

theorem passport_txOutput {item : QueueItem} {r : UnifiedError} {now : UInt32} :
    (Emission.tx (txOutput item now) r now).passport = item.passport := by
  simp only [Emission.passport, QueueItem.passport, txOutput, sub_latency]

theorem reclaimInput_settles (s : Hosted (Journal H)) (input : RouteInput) (reason : ReclaimReason) :
    ∃ new, Settles input.passport 0 lawful s (reclaimInput S.journal s input reason).2 new :=
  ⟨_, .reclaim (@passport_reclaimInputOutput _ _ _ (S.now s.host.host).1) rfl rfl rfl rfl rfl rfl⟩

theorem reclaimItem_settles (s : Hosted (Journal H)) (item : QueueItem) (reason : ReclaimReason) :
    ∃ new, Settles item.passport 0 lawful s (reclaimItem S.journal s item reason).2.2 new :=
  ⟨_, .reclaim (@passport_reclaimItemOutput _ _ _ (S.now s.host.host).1) rfl rfl rfl rfl rfl rfl⟩

/-- An attempt is logged at the last reading of the clock. -/
theorem log_tx (o : RouteOutput) (h : Journal H) : (S.journal.tx o h).2.log =
    h.log ++ [.tx o (S.journal.tx o h).1 h.lastRead] := rfl

/-- **An item that is transmitted** is sent after some attempts, or
reclaimed after all of them. -/
theorem transmit_settles {x : QueueItem} {nowMs : UInt32} (hread : s.host.lastRead = nowMs)
    (hlawful : ∀ k : UInt8, lawful (txOutput { x with retryCount := k } nowMs) nowMs) :
    ∃ new, Settles x.passport (n + 1) lawful s (transmit S.journal nowMs n x s).2.2 new := by
  induction n generalizing s x with
  | zero =>
    have hlog := log_tx (S := S) (txOutput x nowMs) s.host
    rw [hread] at hlog
    unfold transmit
    simp only [emitTx_eq]
    split
    · next hok =>
      rw [hok] at hlog
      exact ⟨_, .sent passport_txOutput (hlawful x.retryCount) hlog rfl rfl rfl rfl rfl⟩
    · next hne =>
      -- no retry is left: the attempt fails and the item is reclaimed
      obtain ⟨new, hnew⟩ := reclaimItem_settles _ x _
      exact ⟨_, hnew.cons hne passport_txOutput (hlawful x.retryCount) hlog rfl rfl rfl rfl rfl⟩
  | succ n ih =>
    have hlog := log_tx (S := S) (txOutput x nowMs) s.host
    rw [hread] at hlog
    unfold transmit
    simp only [emitTx_eq]
    split
    · next hok =>
      rw [hok] at hlog
      have hsent : Settles x.passport 1 lawful s
          ⟨s.router.countRouted x, (S.journal.tx (txOutput x nowMs) s.host).2⟩
          [.tx (txOutput x nowMs) .ok nowMs] :=
        .sent passport_txOutput (hlawful x.retryCount) hlog rfl rfl rfl rfl rfl
      exact ⟨_, hsent.mono (Nat.le_add_left 1 (n + 1)) fun _ _ h => h⟩
    · next hne =>
      have hpass : (Emission.tx (txOutput x nowMs) (S.journal.tx (txOutput x nowMs) s.host).1
          nowMs).passport = x.passport := passport_txOutput
      -- the next attempt starts from the failed one, with the retry counted
      let failed : Hosted (Journal H) :=
        ⟨{ s.router with
            statistics := { s.router.statistics with
              txRetryCount := s.router.statistics.txRetryCount + 1 } },
          (S.journal.tx (txOutput x nowMs) s.host).2⟩
      obtain ⟨new, hnew⟩ := @ih failed { x with retryCount := x.retryCount + 1 } hread hlawful
      exact ⟨_, hnew.cons hne hpass (hlawful x.retryCount) hlog rfl rfl rfl rfl rfl⟩

/-- A TX output of an item, made before the item expires. -/
structure TxLawful (item : QueueItem) (o : RouteOutput) (now : UInt32) : Prop where
  passport : ∀ r, (Emission.tx o r now).passport = item.passport
  alive : item.ttl = 0 ∨ now - item.receiveTimeMs < item.ttl.toUInt32

theorem alive_of_not_expired {now receive : UInt32} {ttl : UInt8}
    (h : rtosRouterTtlIsExpired now receive ttl = false) : ttl = 0 ∨ now - receive < ttl.toUInt32 := by
  simp only [rtosRouterTtlIsExpired, Bool.and_eq_false_iff, decide_eq_false_iff_not, not_not,
    ge_iff_le, UInt32.not_le] at h
  exact h

/-- The item a scheduler step transmits differs from the one it took in
its route only, and has not expired. -/
theorem plannedItem_eq_some {table : RouteTable} {now : UInt32} {item x : QueueItem}
    (h : plannedItem table now item = some x) :
    rtosRouterTtlIsExpired now item.receiveTimeMs item.ttl = false ∧
      ∃ target epoch, x = { item with targetInterface := target, routeEpochSeen := epoch } := by
  unfold plannedItem at h
  split at h
  · cases h
  next halive =>
  refine ⟨by simpa using halive, ?_⟩
  split at h
  · split at h
    · cases h
    · next target _ =>
      exact ⟨target, table.activeRouteEpoch, (Option.some.inj h).symm⟩
  · exact ⟨item.targetInterface, item.routeEpochSeen, (Option.some.inj h).symm⟩

/-- **An item that is scheduled** is settled, with one attempt more than
its priority allows retries. -/
theorem scheduleItem_settles (s : Hosted (Journal H)) (item : QueueItem) :
    ∃ new, Settles item.passport (retryLimit item.priority + 1) (TxLawful item) s
      (scheduleItem S.journal s item).2.2 new := by
  rcases scheduleItem_cases S.journal s item with ⟨-, reason, heq⟩ | ⟨x, hplanned, heq⟩
  · let read : Hosted (Journal H) := ⟨s.router, (S.journal.now s.host).2⟩
    have hsettles : ∃ new, Settles item.passport 0 (TxLawful item) read
        (reclaimItem S.journal read item reason).2.2 new := reclaimItem_settles read item reason
    obtain ⟨new, hnew⟩ := hsettles
    rw [heq]
    exact ⟨new, { hnew.mono (Nat.zero_le _) fun _ _ h => h with }⟩
  · obtain ⟨halive, target, epoch, rfl⟩ := plannedItem_eq_some hplanned
    have hlawful : ∀ k : UInt8, TxLawful item (txOutput { item with
        targetInterface := target, routeEpochSeen := epoch, retryCount := k }
          (S.journal.now s.host).1) (S.journal.now s.host).1 :=
      fun k => ⟨fun r => passport_txOutput, alive_of_not_expired halive⟩
    let read : Hosted (Journal H) := ⟨s.router, (S.journal.now s.host).2⟩
    have hsettles : ∃ new, Settles item.passport
        (retryLimit item.priority - item.retryCount.toNat + 1) (TxLawful item) read
        (transmit S.journal (S.journal.now s.host).1 (retryLimit item.priority - item.retryCount.toNat)
          { item with targetInterface := target, routeEpochSeen := epoch } read).2.2 new :=
      transmit_settles (s := read)
        (x := { item with targetInterface := target, routeEpochSeen := epoch }) rfl hlawful
    obtain ⟨new, hnew⟩ := hsettles
    have hle : retryLimit item.priority - item.retryCount.toNat + 1 ≤ retryLimit item.priority + 1 := by
      omega
    rw [heq]
    exact ⟨new, { hnew.mono hle fun _ _ h => h with }⟩

/-! ## The ledger -/

/-- A submitted input, with the router's epoch when it was submitted. -/
structure Submission where
  input : RouteInput
  linuxEpoch : UInt32

/-- The input was valid and trusted, and of the current epoch. -/
structure Submission.Accepted (x : Submission) : Prop where
  valid : inputIsInvalid x.input = false
  trusted : rtosRouterTrustIsRoutable x.input.trust = true
  epoch : x.input.epoch = x.linuxEpoch

/-- A queued item stems from an accepted submission. -/
def Stems (subs : List Submission) (x : QueueItem) : Prop :=
  ∃ y ∈ subs, y.Accepted ∧ y.input.passport = x.passport ∧ y.input.ttl = x.ttl

/-- A TX output stems from an accepted submission that had not expired. -/
def Lawful (subs : List Submission) (o : RouteOutput) (now : UInt32) : Prop :=
  ∃ y ∈ subs, y.Accepted ∧ (∀ r, (Emission.tx o r now).passport = y.input.passport) ∧
    (y.input.ttl = 0 ∨ now - y.input.receiveTimeMs < y.input.ttl.toUInt32)

theorem Stems.mono {subs : List Submission} {x : QueueItem} (h : Stems subs x) (y : Submission) :
    Stems (y :: subs) x := by
  obtain ⟨z, hz, hrest⟩ := h
  exact ⟨z, List.mem_cons_of_mem y hz, hrest⟩

theorem Lawful.mono {subs : List Submission} {o : RouteOutput} {now : UInt32} (h : Lawful subs o now)
    (y : Submission) : Lawful (y :: subs) o now := by
  obtain ⟨z, hz, hrest⟩ := h
  exact ⟨z, List.mem_cons_of_mem y hz, hrest⟩

/-- What an item stems from bears its TX outputs. -/
theorem Stems.allows {subs : List Submission} {x : QueueItem} (h : Stems subs x) {o : RouteOutput}
    {now : UInt32} (ho : TxLawful x o now) : Lawful subs o now := by
  obtain ⟨y, hy, hacc, hpass, httl⟩ := h
  refine ⟨y, hy, hacc, fun r => (ho.passport r).trans hpass.symm, ?_⟩
  have hreceive : y.input.receiveTimeMs = x.receiveTimeMs :=
    congrArg Passport.receiveTimeMs hpass
  rw [httl, hreceive]
  exact ho.alive

/-- The passports of the outputs of a kind. -/
def outputsOf (kind : Emission → Bool) (log : List Emission) : List Passport :=
  (log.filter kind).map Emission.passport

theorem outputsOf_append {kind : Emission → Bool} {l m : List Emission} :
    outputsOf kind (l ++ m) = outputsOf kind l ++ outputsOf kind m := by
  simp [outputsOf]

/-- The ledger, while the router has the frames `hand` in hand: every
submitted frame is in hand, queued, or ended by one output. -/
structure LedgerHolds (subs : List Submission) (hand : List Passport) (q : List QueueItem)
    (s : Hosted (Journal H)) : Prop where
  submitted : s.router.statistics.submittedCount = UInt32.ofNat subs.length
  routed : s.router.statistics.routedCount = UInt32.ofNat (s.host.log.countP Emission.isSent)
  reclaimed : s.router.statistics.reclaimedCount =
    UInt32.ofNat (s.host.log.countP Emission.isReclaim)
  places : (subs.map fun y => y.input.passport).Perm
    (hand ++ q.map QueueItem.passport ++ outputsOf Emission.isTerminal s.host.log)
  attempts : ∀ p, (outputsOf Emission.isAttempt s.host.log).count p ≤
    (retryLimit p.priority + 1) * (outputsOf Emission.isTerminal s.host.log).count p
  queued : ∀ x ∈ q, Stems subs x
  outputs : ∀ o r now, Emission.tx o r now ∈ s.host.log → Lawful subs o now

variable {subs : List Submission} {hand : List Passport} {q : List QueueItem}

/-- The ledger reads the counters and the log only. -/
theorem LedgerHolds.congr (h : LedgerHolds subs hand q s)
    (hsubmitted : s'.router.statistics.submittedCount = s.router.statistics.submittedCount)
    (hrouted : s'.router.statistics.routedCount = s.router.statistics.routedCount)
    (hreclaimed : s'.router.statistics.reclaimedCount = s.router.statistics.reclaimedCount)
    (hlog : s'.host.log = s.host.log) : LedgerHolds subs hand q s' := by
  obtain ⟨h1, h2, h3, h4, h5, h6, h7⟩ := h
  refine ⟨hsubmitted.trans h1, ?_, ?_, ?_, ?_, h6, ?_⟩
  · rw [hrouted, hlog, h2]
  · rw [hreclaimed, hlog, h3]
  · rwa [hlog]
  · rwa [hlog]
  · rwa [hlog]

theorem LedgerHolds.perm (h : LedgerHolds subs hand q s) {q' : List QueueItem} (hp : q.Perm q') :
    LedgerHolds subs hand q' s :=
  { h with
    places := h.places.trans (((hp.map QueueItem.passport).append_left hand).append_right _)
    queued := fun x hx => h.queued x (hp.mem_iff.mpr hx) }

/-- Take an item off the queue. -/
theorem LedgerHolds.take {x : QueueItem} (h : LedgerHolds subs hand (x :: q) s) :
    LedgerHolds subs (x.passport :: hand) q s :=
  { h with
    places := h.places.trans (by
      simp only [List.map_cons, List.cons_append]
      have hmiddle : (hand ++ x.passport :: q.map QueueItem.passport).Perm
          (x.passport :: (hand ++ q.map QueueItem.passport)) := List.perm_middle
      exact hmiddle.append_right _)
    queued := fun y hy => h.queued y (List.mem_cons_of_mem x hy) }

/-- Put a frame in hand on the queue. -/
theorem LedgerHolds.put {x : QueueItem} (h : LedgerHolds subs (x.passport :: hand) q s)
    (hstems : Stems subs x) : LedgerHolds subs hand (x :: q) s :=
  { h with
    places := h.places.trans (by
      simp only [List.map_cons, List.cons_append]
      have hmiddle : (hand ++ x.passport :: q.map QueueItem.passport).Perm
          (x.passport :: (hand ++ q.map QueueItem.passport)) := List.perm_middle
      exact hmiddle.symm.append_right _)
    queued := by
      intro y hy
      rcases List.mem_cons.mp hy with rfl | hy
      · exact hstems
      · exact h.queued y hy }

/-- **A frame in hand that is settled** leaves the hand. -/
theorem LedgerHolds.settle (h : LedgerHolds subs (p :: hand) q s)
    (hs : Settles p n lawful s s' new) (hn : n ≤ retryLimit p.priority + 1)
    (hl : ∀ o now, lawful o now → Lawful subs o now) : LedgerHolds subs hand q s' := by
  have hterminal : outputsOf Emission.isTerminal new = [p] := by
    obtain ⟨e, he⟩ := List.length_eq_one_iff.mp hs.once
    have hmem : e ∈ new := List.mem_of_mem_filter (he ▸ List.mem_singleton_self e)
    rw [outputsOf, he, List.map_singleton, hs.passport e hmem]
  have hattempts : outputsOf Emission.isAttempt new =
      List.replicate (new.filter Emission.isAttempt).length p := by
    refine List.eq_replicate_iff.mpr ⟨List.length_map .., ?_⟩
    intro b hb
    obtain ⟨e, he, rfl⟩ := List.mem_map.mp hb
    exact hs.passport e (List.mem_of_mem_filter he)
  refine ⟨hs.submitted.trans h.submitted, ?_, ?_, ?_, fun p' => ?_, h.queued, ?_⟩
  · rw [hs.routed, h.routed, hs.log, List.countP_append, UInt32.ofNat_add]
  · rw [hs.reclaimed, h.reclaimed, hs.log, List.countP_append, UInt32.ofNat_add]
  · rw [hs.log, outputsOf_append, hterminal]
    -- the passport leaves the hand for the terminal outputs
    refine h.places.trans ?_
    rw [List.cons_append, List.cons_append, ← List.append_assoc]
    exact (List.perm_append_singleton p _).symm
  · have hbefore := h.attempts p'
    rw [hs.log, outputsOf_append, outputsOf_append, List.count_append, List.count_append, hterminal,
      hattempts, List.count_replicate, List.count_singleton]
    -- only the settled passport gains attempts, and one terminal pays for them
    by_cases hp : p = p'
    · subst hp
      have hcount := hs.attempts
      simp only [beq_self_eq_true, if_true]
      rw [Nat.mul_add]
      omega
    · simp only [beq_iff_eq, hp, if_false, Nat.add_zero]
      exact hbefore
  · intro o r now ho
    rw [hs.log] at ho
    rcases List.mem_append.mp ho with ho | ho
    · exact h.outputs o r now ho
    · exact hl o now (hs.lawful o r now ho)

/-! ## The operations -/

theorem LedgerHolds.reclaimItem {x : QueueItem} (reason : ReclaimReason)
    (h : LedgerHolds subs (x.passport :: hand) q s) :
    LedgerHolds subs hand q (Rtos.reclaimItem S.journal s x reason).2.2 := by
  have hsettles : ∃ new, Settles x.passport 0 (Lawful subs) s
      (Rtos.reclaimItem S.journal s x reason).2.2 new := reclaimItem_settles s x reason
  obtain ⟨new, hnew⟩ := hsettles
  exact h.settle hnew (Nat.zero_le _) fun _ _ h => h

theorem LedgerHolds.reclaimInput {input : RouteInput} (reason : ReclaimReason)
    (h : LedgerHolds subs (input.passport :: hand) q s) :
    LedgerHolds subs hand q (Rtos.reclaimInput S.journal s input reason).2 := by
  have hsettles : ∃ new, Settles input.passport 0 (Lawful subs) s
      (Rtos.reclaimInput S.journal s input reason).2 new := reclaimInput_settles s input reason
  obtain ⟨new, hnew⟩ := hsettles
  exact h.settle hnew (Nat.zero_le _) fun _ _ h => h

/-- The ledger of a router at rest. -/
def Settled (subs : List Submission) (s : Hosted (Journal H)) : Prop :=
  LedgerHolds subs [] s.router.queue.items s

/-- **One scheduler step.** -/
theorem Settled.scheduleOnce (h : Settled subs s) :
    Settled subs (rtosRouterScheduleOnce S.journal s).2.2 := by
  rcases rtosRouterScheduleOnce_cases S.journal s with ⟨heq, -⟩ | ⟨x, queue, hperm, -, heq⟩
  · rw [heq]
    exact h
  · rw [heq]
    let taken : Hosted (Journal H) := { s with router := { s.router with queue := queue } }
    have hheld : LedgerHolds subs [] (x :: queue.items) s := LedgerHolds.perm h hperm.symm
    have hstems : Stems subs x := hheld.queued x List.mem_cons_self
    obtain ⟨new, hnew⟩ := scheduleItem_settles (S := S) taken x
    have htaken : LedgerHolds subs [x.passport] queue.items taken :=
      hheld.take.congr rfl rfl rfl rfl
    have hdone := htaken.settle hnew (Nat.le_refl _) fun o now ho => hstems.allows ho
    have hqueue : (scheduleItem S.journal taken x).2.2.router.queue = queue := hnew.queue
    unfold Settled
    simp only
    rw [show (scheduleItem S.journal { s with router := { s.router with queue := queue } }
      x).2.2.router.queue = queue from hqueue]
    exact hdone

theorem Settled.drainLoop {k : UInt32} {budget : ℕ} (h : Settled subs s) :
    Settled subs (drainLoop S.journal budget k s).2 := by
  induction budget generalizing s k with
  | zero => exact h
  | succ budget ih =>
    unfold Rtos.drainLoop
    simp only
    split
    · exact h.scheduleOnce
    · exact ih h.scheduleOnce

theorem Settled.reclaimQueuedLoop {reason : ReclaimReason} {k : UInt32} {budget : ℕ}
    (h : Settled subs s) : Settled subs (reclaimQueuedLoop S.journal reason budget k s).2 := by
  induction budget generalizing s k with
  | zero => exact h
  | succ budget ih =>
    rcases reclaimQueuedLoop_cases S.journal reason budget k s with
      ⟨heq, -⟩ | ⟨x, queue, hperm, -, heq⟩
    · rw [heq]
      exact h
    · rw [heq]
      let taken : Hosted (Journal H) := { s with router := { s.router with queue := queue } }
      have htaken : LedgerHolds subs [x.passport] queue.items taken :=
        (LedgerHolds.perm h hperm.symm).take.congr rfl rfl rfl rfl
      have hdone : LedgerHolds subs [] queue.items
          (Rtos.reclaimItem S.journal taken x reason).2.2 := htaken.reclaimItem reason
      have hqueue : (Rtos.reclaimItem S.journal taken x reason).2.2.router.queue = queue :=
        reclaimItem_queue taken x reason
      have hsettled : Settled subs (Rtos.reclaimItem S.journal taken x reason).2.2 := by
        unfold Settled
        rw [hqueue]
        exact hdone
      simp only
      split
      · exact hsettled
      · exact ih hsettled

/-- The end of a submission: the frame is queued, or reclaimed. -/
theorem LedgerHolds.enqueueInput {input : RouteInput} {target : PutShmInterface}
    (h : LedgerHolds subs [input.passport] s.router.queue.items s)
    (hstems : ∀ x : QueueItem, x.passport = input.passport → x.ttl = input.ttl → Stems subs x) :
    Settled subs (enqueueInput S.journal s input target).2 := by
  unfold Rtos.enqueueInput
  simp only
  have hnow : LedgerHolds subs [input.passport] (S.journal.routerNow s).2.router.queue.items
      (S.journal.routerNow s).2 := h.congr rfl rfl rfl rfl
  generalize hs : (S.journal.routerNow s).2 = s₁ at hnow ⊢
  generalize hitem : fillQueueItem s₁.router input target (S.journal.routerNow s).1 = item
  have hpass : item.passport = input.passport := by
    rw [← hitem]
    rfl
  have hitemStems : Stems subs item := hstems item hpass (by rw [← hitem]; rfl)
  rcases rtosPriorityQueueEnqueue_cases s₁.router.queue item with
    ⟨hres, -, -⟩ | ⟨hres, hev, hitems⟩ | ⟨hres, e, hev, hperm⟩
  · -- the queue refuses the item
    rw [if_pos hres]
    have hdone := hnow.reclaimInput (S := S) .queueFull
    unfold Settled
    rwa [reclaimInput_queue]
  · -- there was room
    rw [if_neg (not_not.mpr hres), hev]
    have hput : LedgerHolds subs [] (item :: s₁.router.queue.items) s₁ :=
      LedgerHolds.put (hpass ▸ hnow) hitemStems
    unfold Settled
    simp only
    rw [hitems]
    exact (hput.perm (List.perm_append_singleton _ _).symm).congr rfl rfl rfl rfl
  · -- another item made room
    rw [if_neg (not_not.mpr hres), hev]
    have hput : LedgerHolds subs [] (item :: s₁.router.queue.items) s₁ :=
      LedgerHolds.put (hpass ▸ hnow) hitemStems
    have hheld := hput.perm ((List.perm_append_singleton _ _).symm.trans hperm.symm)
    let queue := (rtosPriorityQueueEnqueue s₁.router.queue item).queue
    let counted : Hosted (Journal H) :=
      { s₁ with
        router := { s₁.router with
          queue := queue
          statistics := { s₁.router.statistics with
            queueEvictedCount := s₁.router.statistics.queueEvictedCount + 1 } } }
    have htaken : LedgerHolds subs [e.passport] queue.items counted :=
      hheld.take.congr rfl rfl rfl rfl
    have hdone : LedgerHolds subs [] queue.items
        (Rtos.reclaimItem S.journal counted e .queueFull).2.2 := htaken.reclaimItem .queueFull
    have hqueue : (Rtos.reclaimItem S.journal counted e .queueFull).2.2.router.queue = queue :=
      reclaimItem_queue counted e .queueFull
    have hsettled : Settled subs (Rtos.reclaimItem S.journal counted e .queueFull).2.2 := by
      unfold Settled
      rw [hqueue]
      exact hdone
    exact LedgerHolds.congr hsettled rfl rfl rfl rfl

/-- **One submission.** -/
theorem Settled.submit {input : RouteInput} (h : Settled subs s) :
    Settled (⟨input, s.router.currentLinuxEpoch⟩ :: subs) (rtosRouterSubmit S.journal s input).2 := by
  set y : Submission := ⟨input, s.router.currentLinuxEpoch⟩ with hy
  unfold rtosRouterSubmit
  simp only
  have hhand : LedgerHolds (y :: subs) [input.passport]
      (S.journal.routerNow { s with router := s.router.countSubmitted }).2.router.queue.items
      (S.journal.routerNow { s with router := s.router.countSubmitted }).2 := by
    have hcount : s.router.statistics.submittedCount + 1 = UInt32.ofNat (y :: subs).length := by
      rw [h.submitted, List.length_cons, UInt32.ofNat_add]
      rfl
    exact ⟨hcount, h.routed, h.reclaimed, h.places.cons _, h.attempts,
      fun x hx => (h.queued x hx).mono y, fun o r now ho => (h.outputs o r now ho).mono y⟩
  have hepoch : (S.journal.routerNow
      { s with router := s.router.countSubmitted }).2.router.currentLinuxEpoch =
        s.router.currentLinuxEpoch := rfl
  generalize S.journal.routerNow { s with router := s.router.countSubmitted } = r at hhand hepoch ⊢
  -- every refusal reclaims the input that the router has in hand
  have hreclaim : ∀ {s₁ : Hosted (Journal H)} (reason : ReclaimReason),
      LedgerHolds (y :: subs) [input.passport] s₁.router.queue.items s₁ →
      Settled (y :: subs) (reclaimInput S.journal s₁ input reason).2 := by
    intro s₁ reason hs₁
    unfold Settled
    rw [reclaimInput_queue]
    exact hs₁.reclaimInput reason
  split
  · exact hreclaim _ (hhand.congr rfl rfl rfl rfl)
  next hvalid =>
  split
  · exact hreclaim _ hhand
  next hcurrent =>
  split
  · exact hreclaim _ hhand
  split
  · exact hreclaim _ (hhand.congr rfl rfl rfl rfl)
  split
  · exact hreclaim _ hhand
  · refine hhand.enqueueInput fun x hx httl => ⟨y, List.mem_cons_self, ⟨?_, ?_, ?_⟩, hx.symm, httl.symm⟩
    · simpa using hvalid
    · simp only [inputIsInvalid, Bool.or_eq_true, Bool.not_eq_true', not_or] at hvalid
      simpa using hvalid.1.2
    · exact (not_not.mp hcurrent).trans hepoch

/-! ## Runs -/

/-- A call of the router's interface. -/
inductive RouterCall
  | submit (input : RouteInput)
  | scheduleOnce
  | drain (budget : UInt32)
  | reclaimQueued (reason : ReclaimReason) (budget : UInt32)
  | setLinuxEpoch (linuxEpoch : UInt32)
  | setRouteTable (table : RouteTable)

def RouterCall.run (S : RouterSinks H) (s : Hosted H) : RouterCall → Hosted H
  | .submit input => (rtosRouterSubmit S s input).2
  | .scheduleOnce => (rtosRouterScheduleOnce S s).2.2
  | .drain budget => (rtosRouterDrain S s budget).2
  | .reclaimQueued reason budget => (rtosRouterReclaimQueued S s reason budget).2
  | .setLinuxEpoch linuxEpoch =>
    { s with router := rtosRouterSetLinuxEpoch s.router linuxEpoch }
  | .setRouteTable table => { s with router := (rtosRouterSetRouteTable s.router table).2 }

/-- What a call submits. -/
def RouterCall.submission (s : Hosted H) : RouterCall → List Submission
  | .submit input => [⟨input, s.router.currentLinuxEpoch⟩]
  | _ => []

/-- The router after a run of calls. -/
def runCalls (S : RouterSinks H) : List RouterCall → Hosted H → Hosted H
  | [], s => s
  | call :: calls, s => runCalls S calls (call.run S s)

/-- What a run of calls submits. -/
def submissions (S : RouterSinks H) : List RouterCall → Hosted H → List Submission
  | [], _ => []
  | call :: calls, s => submissions S calls (call.run S s) ++ call.submission s

/-- A router that was initialised, with an empty journal. -/
def Journal.start (host : H) : Hosted (Journal H) := ⟨rtosRouterInit, host, 0, []⟩

/-- The ledger does not read the epoch or the route table. -/
theorem Settled.run (h : Settled subs s) (call : RouterCall) :
    Settled (call.submission s ++ subs) (call.run S.journal s) := by
  cases call with
  | submit input => exact h.submit
  | scheduleOnce => exact h.scheduleOnce
  | drain budget =>
    unfold RouterCall.run rtosRouterDrain
    exact h.drainLoop
  | reclaimQueued reason budget =>
    unfold RouterCall.run rtosRouterReclaimQueued
    exact h.reclaimQueuedLoop
  | setLinuxEpoch linuxEpoch => exact LedgerHolds.congr h rfl rfl rfl rfl
  | setRouteTable table =>
    have hset : Settled subs { s with router := (rtosRouterSetRouteTable s.router table).2 } := by
      unfold rtosRouterSetRouteTable
      split
      · exact h
      split
      · exact LedgerHolds.congr h rfl rfl rfl rfl
      · exact LedgerHolds.congr h rfl rfl rfl rfl
    exact hset

theorem Settled.runCalls (h : Settled subs s) (calls : List RouterCall) :
    Settled (submissions S.journal calls s ++ subs) (Rtos.runCalls S.journal calls s) := by
  induction calls generalizing s subs with
  | nil => exact h
  | cons call calls ih =>
    have hnext := ih (h.run (S := S) call)
    unfold submissions
    rw [List.append_assoc]
    exact hnext

theorem settled_start (host : H) : Settled [] (Journal.start host) :=
  ⟨rfl, rfl, rfl, List.Perm.nil, fun _ => Nat.zero_le _, fun _ hx => absurd hx List.not_mem_nil,
    fun _ _ _ ho => absurd ho List.not_mem_nil⟩

/-- The passports of the items in the queue. -/
def Hosted.queuedPassports (s : Hosted H) : List Passport :=
  s.router.queue.items.map QueueItem.passport

/-- An output that ends a frame's stay was sent or is a reclaim, never
both. -/
theorem Emission.ite_isTerminal (e : Emission) : (if e.isTerminal then 1 else 0) =
    (if e.isSent then 1 else 0) + if e.isReclaim then 1 else 0 := by
  cases e with
  | tx o result now =>
    by_cases hr : result = .ok
    · simp [isTerminal, isSent, isReclaim, hr]
    · simp [isTerminal, isSent, isReclaim, hr]
  | reclaim o result now => simp [isTerminal, isSent, isReclaim]

theorem count_outputsOf_cons (kind : Emission → Bool) (e : Emission) (log : List Emission)
    (p : Passport) : (outputsOf kind (e :: log)).count p =
      (outputsOf kind log).count p + if e.passport = p then if kind e then 1 else 0 else 0 := by
  unfold outputsOf
  by_cases hk : kind e = true
  · rw [List.filter_cons_of_pos hk, List.map_cons, List.count_cons, if_pos hk]
    simp only [beq_iff_eq]
  · rw [List.filter_cons_of_neg hk, if_neg hk, ite_self, Nat.add_zero]

theorem count_terminal (log : List Emission) (p : Passport) :
    (outputsOf Emission.isTerminal log).count p =
      (outputsOf Emission.isSent log).count p + (outputsOf Emission.isReclaim log).count p := by
  induction log with
  | nil => rfl
  | cons e log ih =>
    rw [count_outputsOf_cons, count_outputsOf_cons, count_outputsOf_cons, ih]
    split
    · have he := e.ite_isTerminal
      omega
    · omega

theorem countP_terminal (log : List Emission) :
    log.countP Emission.isSent + log.countP Emission.isReclaim =
      (outputsOf Emission.isTerminal log).length := by
  unfold outputsOf
  rw [List.length_map, ← List.countP_eq_length_filter]
  induction log with
  | nil => rfl
  | cons e log ih =>
    rw [List.countP_cons, List.countP_cons, List.countP_cons, ← ih]
    have he := e.ite_isTerminal
    omega

/-- The books of a router, after the submissions `subs`. The frames counted
as submitted are those counted as routed, those counted as reclaimed and
those in the queue. Of every passport as many frames were submitted as are
in the queue, went out on a TX sink that took them or were handed to the
reclaim sink. No passport was offered to the TX sinks more often than the
retry limit of its priority and one, for each of its frames. And every TX
output is of a frame that was submitted and accepted, before it expired. -/
structure Conserves (subs : List Submission) (s : Hosted (Journal H)) : Prop where
  balance : s.router.statistics.submittedCount =
    s.router.statistics.routedCount + s.router.statistics.reclaimedCount +
      rtosRouterGetQueuedCount s.router
  places : ∀ p, (subs.map fun y => y.input.passport).count p = s.queuedPassports.count p +
    ((outputsOf Emission.isSent s.host.log).count p +
      (outputsOf Emission.isReclaim s.host.log).count p)
  attempts : ∀ p, (outputsOf Emission.isAttempt s.host.log).count p ≤
    (retryLimit p.priority + 1) * (subs.map fun y => y.input.passport).count p
  outputs : ∀ o r now, Emission.tx o r now ∈ s.host.log → Lawful subs o now

theorem Settled.conserves (h : Settled subs s) : Conserves subs s := by
  have hcount : ∀ p, (subs.map fun y => y.input.passport).count p = s.queuedPassports.count p +
      (outputsOf Emission.isTerminal s.host.log).count p := by
    intro p
    have hperm := h.places.count_eq p
    rwa [List.nil_append, List.count_append] at hperm
  refine ⟨?_, fun p => ?_, fun p => ?_, h.outputs⟩
  · have hlength := h.places.length_eq
    simp only [List.length_map, List.nil_append, List.length_append] at hlength
    rw [h.submitted, h.routed, h.reclaimed, rtosRouterGetQueuedCount, ← UInt32.ofNat_add,
      ← UInt32.ofNat_add, countP_terminal, hlength, Nat.add_comm]
  · rw [hcount, count_terminal]
  · refine (h.attempts p).trans (Nat.mul_le_mul_left _ ?_)
    rw [hcount]
    omega

/-- **The router keeps its books.** Whatever the sinks answer and the
clock reads: the counters balance with the queue; of every passport, as
many frames were submitted as are queued, were sent, or were reclaimed;
none takes more attempts than its retry limit and one; and every TX output
is of a frame that was accepted and had not expired. -/
theorem router_conservation (S : RouterSinks H) (host : H) (calls : List RouterCall) :
    Conserves (submissions S.journal calls (Journal.start host))
      (Rtos.runCalls S.journal calls (Journal.start host)) := by
  have h := (settled_start host).runCalls (S := S) calls
  rw [List.append_nil] at h
  exact h.conserves

end Rtos

end PutGateway
