import PutGateway.Linux.CanTransfer
/-!
# Every message sent is delivered once

The frames of any number of transfers arrive mixed with each other and
with frames that belong to none. An SOF frame comes once and before the
DATA frames of its transfer, which come in any order and as often as they
like. At most eight transfers are open at a time, under keys of their own,
the clock does not go back, and a transfer does not stand still for longer
than the timeout (`CanTraffic`). Then each transfer has its message delivered
once, as it was sent, and nothing else is delivered.
-/

namespace PutGateway

namespace Linux

variable {ι : Type} {T : ι → Transfer}

/-! ## What arrives -/

/-- A frame of a transfer, by its place among them, or another frame. -/
inductive CanArrival (T : ι → Transfer)
  | fragment (k : ι) (place : Fin (T k).frames.length)
  | other (f : CanFrame)

def CanArrival.frame : CanArrival T → CanFrame
  | .fragment k place => (T k).frames.get place
  | .other f => f

/-- What has arrived and when, the newest first. -/
abbrev CanArrivals (T : ι → Transfer) := List (CanArrival T × UInt64)

namespace CanArrivals

/-- What has arrived. -/
def seen (past : CanArrivals T) : List (CanArrival T) := past.map Prod.fst

/-- The frames that have arrived and when. -/
def frames (past : CanArrivals T) : List (CanFrame × UInt64) := past.map fun e => (e.1.frame, e.2)

/-- The SOF frame of a transfer has arrived. -/
def Begun (past : CanArrivals T) (k : ι) : Prop := .fragment k (T k).sofPlace ∈ past.seen

/-- All frames of a transfer have arrived. -/
def Done (past : CanArrivals T) (k : ι) : Prop := ∀ place, .fragment k place ∈ past.seen

/-- A transfer that is under way. -/
def Open (past : CanArrivals T) (k : ι) : Prop := past.Begun k ∧ ¬ past.Done k

/-- An arrival that brings a transfer nothing new. -/
def Old (past : CanArrivals T) (k : ι) (a : CanArrival T) : Prop :=
    ∀ place, a = .fragment k place → a ∈ past.seen

/-- When a frame of a transfer last was new. -/
inductive Newest (k : ι) : CanArrivals T → UInt64 → Prop
  | here {past : CanArrivals T} {place : Fin (T k).frames.length} {t : UInt64}
      (h : .fragment k place ∉ past.seen) : Newest k ((.fragment k place, t) :: past) t
  | later {past : CanArrivals T} {t : UInt64} (h : Newest k past t) {a : CanArrival T}
    (hold : past.Old k a)
      (t' : UInt64) : Newest k ((a, t') :: past) t

end CanArrivals

open CanArrivals

/-- **What is assumed of the traffic.** -/
inductive CanTraffic (T : ι → Transfer) (timeoutMs : UInt32) : CanArrivals T → Prop
  | nil : CanTraffic T timeoutMs []
  /-- The SOF frame of a transfer comes once, when no other transfer is
  open under its key and at most seven are open at all. -/
  | sof {past : CanArrivals T} {t : UInt64} {k : ι} (h : CanTraffic T timeoutMs past)
    (clock : ∀ e ∈ past, e.2 ≤ t)
      (once : ¬ past.Begun k) (distinct : ∀ j, past.Open j → (T j).key ≠ (T k).key)
      (room : ∃ others : Finset ι, others.card ≤ 7 ∧ ∀ j, past.Open j → j ∈ others) :
      CanTraffic T timeoutMs ((.fragment k (T k).sofPlace, t) :: past)
  /-- A DATA frame comes after the SOF frame, in any order, early enough if
  it is new, and again at any time as long as its key has not passed to
  another. -/
  | data {past : CanArrivals T} {t : UInt64} {k : ι} {place : Fin (T k).frames.length}
      (h : CanTraffic T timeoutMs past) (clock : ∀ e ∈ past, e.2 ≤ t) (hplace : place ≠ (T k).sofPlace)
      (begun : past.Begun k) (alone : ∀ j, past.Open j → (T j).key = (T k).key → j = k)
      (gap : .fragment k place ∉ past.seen →
        ∀ t', Newest k past t' → t.toNat ≤ t'.toNat + timeoutMs.toNat) :
      CanTraffic T timeoutMs ((.fragment k place, t) :: past)
  /-- Any frame that opens no session and is no DATA frame that a transfer
  under way could have sent. -/
  | other {past : CanArrivals T} {t : UInt64} {f : CanFrame} (h : CanTraffic T timeoutMs past)
      (clock : ∀ e ∈ past, e.2 ≤ t) (quiet : f.opens = false)
      (stray : ∀ j, past.Open j → f.isData = true → f.key = (T j).key →
      (T j).count ≤ (f.data 2).toNat) :
      CanTraffic T timeoutMs ((.other f, t) :: past)

variable {timeoutMs : UInt32} {past : CanArrivals T} {a : CanArrival T} {t : UInt64} {k j : ι}

namespace CanTraffic

theorem tail (h : CanTraffic T timeoutMs ((a, t) :: past)) : CanTraffic T timeoutMs past := by
  cases h with
  | sof h => exact h
  | data h => exact h
  | other h => exact h

theorem clock (h : CanTraffic T timeoutMs ((a, t) :: past)) : ∀ e ∈ past, e.2 ≤ t := by
  cases h with
  | sof _ clock => exact clock
  | data _ clock => exact clock
  | other _ clock => exact clock

/-- Nothing of a transfer arrives before its SOF frame. -/
theorem begun (h : CanTraffic T timeoutMs past) {place : Fin (T k).frames.length}
    (hplace : .fragment k place ∈ past.seen) : past.Begun k := by
  induction h with
  | nil => cases hplace
  | sof h _ _ _ _ ih =>
    rcases List.mem_cons.mp hplace with heq | hmem
    · cases heq
      exact List.mem_cons_self
    · exact List.mem_cons_of_mem _ (ih hmem)
  | data h _ _ begun _ _ ih =>
    rcases List.mem_cons.mp hplace with heq | hmem
    · cases heq
      exact List.mem_cons_of_mem _ begun
    · exact List.mem_cons_of_mem _ (ih hmem)
  | other h _ _ _ ih =>
    rcases List.mem_cons.mp hplace with heq | hmem
    · cases heq
    · exact List.mem_cons_of_mem _ (ih hmem)

end CanTraffic

/-! ## Old and new -/

theorem CanArrivals.mem_seen_cons {place : Fin (T k).frames.length} :
    .fragment k place ∈ seen ((a, t) :: past) ↔
      a = .fragment k place ∨ .fragment k place ∈ past.seen := by
  rw [seen, List.map_cons, List.mem_cons, eq_comm]
  rfl

/-- What is old to a transfer leaves it as it is. -/
theorem CanArrivals.Old.mem_seen_iff (h : past.Old k a) (t : UInt64) (place : Fin (T k).frames.length) :
    .fragment k place ∈ seen ((a, t) :: past) ↔ .fragment k place ∈ past.seen := by
  rw [mem_seen_cons]
  constructor
  · rintro (heq | hmem)
    · rw [← heq]
      exact h place heq
    · exact hmem
  · exact .inr

theorem CanArrivals.Old.done_iff (h : past.Old k a) (t : UInt64) :
    Done ((a, t) :: past) k ↔ past.Done k :=
  forall_congr' fun place => h.mem_seen_iff t place

theorem CanArrivals.Old.open_iff (h : past.Old k a) (t : UInt64) :
    Open ((a, t) :: past) k ↔ past.Open k :=
  and_congr (h.mem_seen_iff t _) (not_congr (h.done_iff t))

/-- What is not old is a frame of the transfer that has not arrived. -/
theorem CanArrivals.of_not_old (h : ¬ past.Old k a) :
    ∃ place, a = .fragment k place ∧ .fragment k place ∉ past.seen := by
  simp only [Old, not_forall] at h
  obtain ⟨place, heq, hnew⟩ := h
  exact ⟨place, heq, heq ▸ hnew⟩

theorem CanArrivals.old_of_ne {place : Fin (T k).frames.length} (h : j ≠ k) :
    past.Old j (.fragment k place) := by
  intro place' heq
  cases heq
  exact absurd rfl h

theorem CanArrivals.old_of_mem {place : Fin (T k).frames.length} (h : .fragment k place ∈ past.seen)
    (j : ι) :
    past.Old j (.fragment k place) :=
  fun _ _ => h

theorem CanArrivals.old_other {f : CanFrame} (j : ι) : past.Old j (.other f) := by
  intro place heq
  cases heq

/-! ## Standing still -/

/-- A transfer that has stood still for longer than the timeout. -/
def Expired (timeoutMs : UInt32) (past : CanArrivals T) (k : ι) : Prop :=
  past.Open k ∧ ∃ t, Newest k past t ∧ ∃ e ∈ past, t.toNat + timeoutMs.toNat < e.2.toNat

namespace CanTraffic

/-- A new frame of a transfer comes in time. -/
theorem gap_of_new (h : CanTraffic T timeoutMs ((a, t) :: past)) (hold : ¬ past.Old k a)
    (hbegun : past.Begun k) {t' : UInt64} (ht' : Newest k past t') :
    t.toNat ≤ t'.toNat + timeoutMs.toNat := by
  obtain ⟨place, heq, hnew⟩ := of_not_old hold
  cases h with
  | sof _ _ once =>
    cases heq
    exact absurd hbegun once
  | data _ _ _ _ _ gap =>
    cases heq
    exact gap hnew t' ht'
  | other => cases heq

/-- **What has expired never completes.** -/
theorem expired_cons (h : CanTraffic T timeoutMs ((a, t) :: past))
    (hexpired : Expired timeoutMs past k) :
    Expired timeoutMs ((a, t) :: past) k := by
  obtain ⟨hopen, t', ht', e, he, hlate⟩ := hexpired
  by_cases hold : past.Old k a
  · exact ⟨(hold.open_iff t).mpr hopen, t', ht'.later hold t, e, List.mem_cons_of_mem _ he, hlate⟩
  · have hgap := h.gap_of_new hold hopen.1 ht'
    have hclock := UInt64.le_iff_toNat_le.mp (h.clock e he)
    omega

/-- A transfer that will complete has not timed out when a frame arrives. -/
theorem in_time (h : CanTraffic T timeoutMs ((a, t) :: past))
    (halive : ∀ k, ¬ Expired timeoutMs ((a, t) :: past) k) (hopen : past.Open k) {t' : UInt64}
    (ht' : Newest k past t') : t.toNat ≤ t'.toNat + timeoutMs.toNat := by
  by_cases hold : past.Old k a
  · by_contra hlate
    exact halive k ⟨(hold.open_iff t).mpr hopen, t', ht'.later hold t, (a, t), List.mem_cons_self,
      Nat.not_le.mp hlate⟩
  · exact h.gap_of_new hold hopen.1 ht'

end CanTraffic

/-! ## The table follows the transfers -/

/-- What a session has of a transfer. -/
structure Holds (past : CanArrivals T) (k : ι) (s : CanReassemblySession) : Prop where
  key : s.key = (T k).key
  length : s.totalLen.toNat = (T k).msg.length
  crc : s.fullCrc16 = unifiedCrc16CcittFalse (T k).msg
  received : ∀ q : Fin 128, bitmapGet s.receivedBitmap q = true ↔
    ∃ place, place.val = q.val + 1 ∧ .fragment k place ∈ past.seen
  bytes : ∀ p < (T k).msg.length, ∀ place, place.val = p / 5 + 1 → .fragment k place ∈ past.seen →
    s.buffer (Fin.ofNat 512 p) = (T k).msg.getD p 0
  updated : Newest k past s.updatedAtMs

/-- **The sessions in use are the transfers under way.** -/
structure Tracks (past : CanArrivals T) (sessions : Fin 8 → CanReassemblySession) : Prop where
  reassembling : ∃ history, Reassembling history sessions
  holds : ∀ k, past.Open k → ∃ i, (sessions i).inUse = true ∧ Holds past k (sessions i)
  only : ∀ i, (sessions i).inUse = true → ∃ k, past.Open k ∧ (sessions i).key = (T k).key

variable {s : CanReassemblySession} {sessions : Fin 8 → CanReassemblySession}
  {ctx : CanReassemblyContext}
  {i : Fin 8}

theorem Holds.old (h : Holds past k s) (hold : past.Old k a) (t : UInt64) :
    Holds ((a, t) :: past) k s where
  key := h.key
  length := h.length
  crc := h.crc
  received q := by
    rw [h.received]
    exact exists_congr fun place => and_congr_right fun _ => (hold.mem_seen_iff t place).symm
  bytes p hp place hplace hmem := h.bytes p hp place hplace ((hold.mem_seen_iff t place).mp hmem)
  updated := h.updated.later hold t

/-- An arrival that is old to all transfers and leaves the table as it is. -/
theorem Tracks.old (h : Tracks past sessions) (hold : ∀ k, past.Old k a) (t : UInt64) :
    Tracks ((a, t) :: past) sessions where
  reassembling := h.reassembling
  holds k hopen := by
    obtain ⟨i, hlive, hholds⟩ := h.holds k (((hold k).open_iff t).mp hopen)
    exact ⟨i, hlive, hholds.old (hold k) t⟩
  only i hlive := by
    obtain ⟨k, hopen, hkey⟩ := h.only i hlive
    exact ⟨k, ((hold k).open_iff t).mpr hopen, hkey⟩

theorem Tracks.distinct (h : Tracks past sessions) :
    SlotTable.Distinct CanReassemblySession.inUse CanReassemblySession.key sessions := by
  obtain ⟨history, hinv⟩ := h.reassembling
  exact hinv.distinct

theorem Tracks.valid (h : Tracks past sessions) (hlive : (sessions i).inUse = true) :
    (sessions i).Valid := by
  obtain ⟨history, hinv⟩ := h.reassembling
  exact hinv.valid i hlive

/-- A session in use is that of a transfer under way. -/
theorem Tracks.of_live (h : Tracks past sessions) (hlive : (sessions i).inUse = true) :
    ∃ k, past.Open k ∧ Holds past k (sessions i) := by
  obtain ⟨k, hopen, hkey⟩ := h.only i hlive
  obtain ⟨i', hlive', hholds⟩ := h.holds k hopen
  have hsame : i = i' := h.distinct i i' hlive hlive' (hkey.trans hholds.key.symm)
  subst hsame
  exact ⟨k, hopen, hholds⟩

/-- No session times out while the transfers are in time. -/
theorem Tracks.scan (h : Tracks past ctx.sessions)
    (htime : ∀ k, past.Open k → ∀ t', Newest k past t' → t.toNat ≤ t'.toNat + ctx.timeoutMs.toNat) :
    (canAdapterReassemblyScanTimeouts ctx t).sessions = ctx.sessions := by
  refine SlotTable.sweep_eq_self fun i hlive => ?_
  obtain ⟨k, hopen, hholds⟩ := h.of_live hlive
  have hgap := htime k hopen _ hholds.updated
  rw [CanReassemblySession.timedOut, Bool.and_eq_false_iff, decide_eq_false_iff_not,
    decide_eq_false_iff_not]
  by_cases hle : (ctx.sessions i).updatedAtMs ≤ t
  · refine .inr ?_
    rw [UInt64.lt_iff_toNat_lt, UInt64.toNat_sub_of_le _ _ hle, UInt32.toNat_toUInt64]
    omega
  · exact .inl hle

/-! ## An SOF frame arrives -/

theorem sofSlot_of_free {sourceCanId : UInt32} {sessionId : UInt8}
    (hnone : ctx.findSession sourceCanId sessionId = none)
    (hfree : (canAdapterReassemblyScanTimeouts ctx t).findFreeSession = some i) :
    sofSlot ctx sourceCanId sessionId t = (some i, canAdapterReassemblyScanTimeouts ctx t) := by
  simp only [sofSlot, hnone, hfree]

/-- A session as its SOF frame opens it. -/
theorem Holds.opened (once : ∀ place, .fragment k place ∉ past.seen) (t : UInt64) :
    Holds ((.fragment k (T k).sofPlace, t) :: past) k
      (openedSession ((T k).frames.get (T k).sofPlace)
        (normalizeSourceCanId ((T k).frames.get (T k).sofPlace).canId) t) := by
  have hnone : ∀ place : Fin (T k).frames.length, 0 < place.val →
      .fragment k place ∉ seen ((.fragment k (T k).sofPlace, t) :: past) := by
    intro place hpos hmem
    rcases mem_seen_cons.mp hmem with heq | hmem
    · cases heq
      exact absurd hpos (lt_irrefl 0)
    · exact once place hmem
  refine ⟨Transfer.key_sofFrame, ?_, Transfer.sofCrc_sofFrame, fun q => ?_,
    fun p _ place hplace hmem => ?_,
    .here (once _)⟩
  · have hlength := congrArg UInt16.toNat (Transfer.sofLength_sofFrame (T := T k))
    rw [Transfer.toNat_length] at hlength
    exact hlength
  · rw [openedSession, bitmapGet_zero]
    constructor
    · intro h
      cases h
    · rintro ⟨place, hplace, hmem⟩
      exact absurd hmem (hnone place (by omega))
  · exact absurd hmem (hnone place (by omega))

theorem CanArrivals.not_done_of_sof (once : ∀ place, .fragment k place ∉ past.seen) (t : UInt64) :
    ¬ Done ((.fragment k (T k).sofPlace, t) :: past) k := by
  intro hdone
  have hpos := (T k).one_le_count
  have hlength := (T k).length_frames
  rcases mem_seen_cons.mp (hdone ⟨1, by omega⟩) with heq | hmem
  · cases heq
  · exact once _ hmem

/-- **An SOF frame** finds a free slot, and opens its session there. -/
theorem Tracks.sof (h : Tracks past ctx.sessions) (once : ∀ place, .fragment k place ∉ past.seen)
    (distinct : ∀ j, past.Open j → (T j).key ≠ (T k).key)
    (room : ∃ others : Finset ι, others.card ≤ 7 ∧ ∀ j, past.Open j → j ∈ others)
    (hscan : (canAdapterReassemblyScanTimeouts ctx t).sessions = ctx.sessions)
    (hinv : ∃ history, Reassembling history (handleSof ctx ((T k).frames.get (T k).sofPlace)
      (normalizeSourceCanId ((T k).frames.get (T k).sofPlace).canId) t).2.sessions) :
    Tracks ((.fragment k (T k).sofPlace, t) :: past)
      (handleSof ctx ((T k).frames.get (T k).sofPlace)
        (normalizeSourceCanId ((T k).frames.get (T k).sofPlace).canId) t).2.sessions := by
  classical
  have hnone : ctx.findSession (normalizeSourceCanId ((T k).frames.get (T k).sofPlace).canId)
      (((T k).frames.get (T k).sofPlace).data 1) = none := by
    refine SlotTable.find_eq_none_iff.mpr fun i hlive hkey => ?_
    obtain ⟨j, hopen, hholds⟩ := h.of_live hlive
    exact distinct j hopen (hholds.key.symm.trans (hkey.trans Transfer.key_sofFrame))
  obtain ⟨others, hcard, hothers⟩ := room
  -- the keys in use are those of the transfers under way
  obtain ⟨i, hfree⟩ := SlotTable.exists_findFree h.distinct (others.image fun j => (T j).key)
    (by have := Finset.card_image_le (s := others) (f := fun j => (T j).key); omega)
    (fun i hlive => by
      obtain ⟨j, hopen, hkey⟩ := h.only i hlive
      rw [hkey]
      exact Finset.mem_image_of_mem _ (hothers j hopen))
  have hfree' : (canAdapterReassemblyScanTimeouts ctx t).findFreeSession = some i := by
    rw [CanReassemblyContext.findFreeSession, hscan]
    exact hfree
  have hdead : (ctx.sessions i).inUse = false := SlotTable.findFree_eq_some hfree
  have hsessions : (handleSof ctx ((T k).frames.get (T k).sofPlace)
      (normalizeSourceCanId ((T k).frames.get (T k).sofPlace).canId) t).2.sessions =
        Function.update ctx.sessions i (openedSession ((T k).frames.get (T k).sofPlace)
          (normalizeSourceCanId ((T k).frames.get (T k).sofPlace).canId) t) := by
    rw [handleSof_of_opens Transfer.opens_sofFrame (sofSlot_of_free hnone hfree')]
    simp only [CanReassemblyContext.putSession, hscan]
  have hself : Open ((.fragment k (T k).sofPlace, t) :: past) k :=
    ⟨List.mem_cons_self, not_done_of_sof once t⟩
  refine ⟨hinv, fun j hopen => ?_, fun i' hlive => ?_⟩
  · rw [hsessions]
    by_cases hjk : j = k
    · subst hjk
      refine ⟨i, ?_, ?_⟩
      · rw [Function.update_self]
        rfl
      · rw [Function.update_self]
        exact Holds.opened once t
    · have hold : past.Old j (.fragment k (T k).sofPlace) := old_of_ne hjk
      obtain ⟨i', hlive, hholds⟩ := h.holds j ((hold.open_iff t).mp hopen)
      have hne : i' ≠ i := by
        rintro rfl
        rw [hdead] at hlive
        cases hlive
      exact ⟨i', by rwa [Function.update_of_ne hne], by
        rw [Function.update_of_ne hne]
        exact hholds.old hold t⟩
  · rw [hsessions] at hlive ⊢
    by_cases hi : i' = i
    · subst hi
      rw [Function.update_self]
      exact ⟨k, hself, Transfer.key_sofFrame⟩
    · rw [Function.update_of_ne hi] at hlive ⊢
      obtain ⟨j, hopen, hkey⟩ := h.only i' hlive
      have hjk : j ≠ k := by
        rintro rfl
        exact once _ hopen.1
      have hold : past.Old j (.fragment k (T k).sofPlace) := old_of_ne hjk
      exact ⟨j, (hold.open_iff t).mpr hopen, hkey⟩

/-! ## A DATA frame arrives -/

/-- The session a DATA frame is looked up in. -/
theorem Tracks.of_find (h : Tracks past ctx.sessions) {f : CanFrame}
    (hfind : ctx.findSession (normalizeSourceCanId f.canId) (f.data 1) = some i) :
    ∃ k, past.Open k ∧ f.key = (T k).key ∧ Holds past k (ctx.sessions i) := by
  obtain ⟨hlive, hkey⟩ := SlotTable.find_eq_some hfind
  obtain ⟨k, hopen, hholds⟩ := h.of_live hlive
  exact ⟨k, hopen, hkey.symm.trans hholds.key, hholds⟩

theorem Tracks.find (h : Tracks past ctx.sessions) (hopen : past.Open k) {f : CanFrame}
    (hkey : f.key = (T k).key) :
    ∃ i, ctx.findSession (normalizeSourceCanId f.canId) (f.data 1) = some i ∧
      (ctx.sessions i).inUse = true ∧ Holds past k (ctx.sessions i) := by
  obtain ⟨i, hlive, hholds⟩ := h.holds k hopen
  exact ⟨i, (SlotTable.find_eq_some_iff h.distinct).mpr ⟨hlive, hholds.key.trans hkey.symm⟩, hlive,
    hholds⟩

theorem Holds.count (h : Holds past k s) (hs : s.Valid) : s.dataFrameCount.toNat = (T k).count := by
  rw [hs.count, h.length, Transfer.count]

/-- A DATA frame that is not for a session, or that the session has. -/
theorem Tracks.data_dropped (h : Tracks past ctx.sessions) {f : CanFrame}
    (hold : ∀ k, past.Open k → f.key = (T k).key → (f.data 2).toNat < (T k).count →
      ∃ place, place.val = (f.data 2).toNat + 1 ∧ .fragment k place ∈ past.seen) :
    ∃ r, handleData ctx f (normalizeSourceCanId f.canId) t = some r ∧ r.2.1 = none ∧
      r.2.2.sessions = ctx.sessions := by
  obtain ⟨r, hr, hcases⟩ := handleData_cases f
      (normalizeSourceCanId f.canId) t fun i hlive => h.valid hlive
  rcases hcases with ⟨hnone, hsame, -⟩ | ⟨i, seq, hfind, hlt, hseq, hnew, -⟩
  · exact ⟨r, hr, hnone, hsame⟩
  · obtain ⟨k, hopen, hkey, hholds⟩ := h.of_find hfind
    have hs := h.valid (SlotTable.find_eq_some hfind).1
    have hlt' := UInt8.lt_iff_toNat_lt.mp hlt
    rw [hholds.count hs] at hlt'
    obtain ⟨place, hplace, hmem⟩ := hold k hopen hkey hlt'
    have hbit := (hholds.received seq).mpr ⟨place, by omega, hmem⟩
    rw [hnew] at hbit
    cases hbit

section

variable {place : Fin (T k).frames.length} {q : ℕ} {seq : Fin 128}

/-- **A new fragment** is received. -/
theorem Holds.receive (h : Holds past k s) (hs : s.Valid) (hplace : place.val = q + 1)
    (hseq : seq.val = q) (hnew : .fragment k place ∉ past.seen) (t : UInt64) :
    Holds ((.fragment k place, t) :: past) k (s.receive ((T k).frames.get place) seq t) := by
  have hq := Transfer.seq_dataFrame hplace
  have hlt : ((T k).frames.get place).data 2 < s.dataFrameCount := by
    have hbound := place.isLt
    have hlength := (T k).length_frames
    rw [UInt8.lt_iff_toNat_lt, hq, h.count hs]
    omega
  refine ⟨h.key, h.length, h.crc, fun q' => ?_, fun p hp place' hplace' hmem => ?_, .here hnew⟩
  · rw [receive_receivedBitmap, bitmapGet_bitmapSet, Bool.or_eq_true, decide_eq_true_eq, h.received]
    constructor
    · rintro (⟨place', hplace', hmem⟩ | rfl)
      · exact ⟨place', hplace', mem_seen_cons.mpr (.inr hmem)⟩
      · exact ⟨place, by omega, mem_seen_cons.mpr (.inl rfl)⟩
    · rintro ⟨place', hplace', hmem⟩
      rcases mem_seen_cons.mp hmem with heq | hmem
      · cases heq
        exact .inr (Fin.ext (by omega))
      · exact .inl ⟨place', hplace', hmem⟩
  · rw [buffer_receive hs hlt (by rw [h.length]; exact hp), hq]
    by_cases hpq : p / 5 = q
    · rw [if_pos hpq, Transfer.byte_dataFrame (by rw [hplace, hpq]) hp]
    · rw [if_neg hpq]
      rcases mem_seen_cons.mp hmem with heq | hmem
      · cases heq
        omega
      · exact h.bytes p hp place' hplace' hmem

/-- A transfer is done when its session has all fragments. -/
theorem Holds.done_iff (h : Holds past k s) (hbegun : past.Begun k) :
    past.Done k ↔ ∀ q < (T k).count, ∃ q' ∈ fragmentsOf s.receivedBitmap, q'.val = q := by
  have hcount := (T k).count_le
  have hlength := (T k).length_frames
  constructor
  · intro hdone q hq
    refine ⟨⟨q, by omega⟩, ?_, rfl⟩
    rw [mem_fragmentsOf, h.received]
    exact ⟨⟨q + 1, by omega⟩, rfl, hdone _⟩
  · intro hall place
    by_cases hzero : place.val = 0
    · have hsof : place = (T k).sofPlace := Fin.ext hzero
      rw [hsof]
      exact hbegun
    · have hbound := place.isLt
      obtain ⟨q', hq', hval⟩ := hall (place.val - 1) (by omega)
      rw [mem_fragmentsOf, h.received] at hq'
      obtain ⟨place', hplace', hmem⟩ := hq'
      have hsame : place' = place := Fin.ext (by omega)
      rw [← hsame]
      exact hmem

/-- What a session with all fragments holds is the message. -/
theorem Holds.upTo_eq (h : Holds past k s) (hdone : past.Done k) :
    s.buffer.upTo s.totalLen.toNat = (T k).msg := by
  have hmost := (T k).atMost
  have hlength := (T k).length_frames
  rw [h.length]
  refine List.ext_getElem (FrameBlock.length_upTo hmost) fun p hp hp' => ?_
  have hplace : p / 5 + 1 < (T k).frames.length := by
    rw [hlength, Transfer.count]
    omega
  have hbyte := h.bytes p hp' ⟨p / 5 + 1, hplace⟩ rfl (hdone _)
  have hindex : Fin.ofNat 512 p = ⟨p, by omega⟩ := Fin.ext (Nat.mod_eq_of_lt (by omega))
  rw [hindex, ← FrameBlock.getD_upTo (b := s.buffer) p hp' hmost] at hbyte
  simpa [List.getD_eq_getElem?_getD, hp, hp'] using hbyte

/-- All of so many fragments are as many. -/
theorem le_card_of_all {n : ℕ} {S : Finset (Fin 128)} (hall : ∀ q < n, ∃ q' ∈ S, q'.val = q) :
    n ≤ S.card := by
  have hsub : Finset.range n ⊆ S.image Fin.val := by
    intro q hq
    obtain ⟨q', hq', hval⟩ := hall q (Finset.mem_range.mp hq)
    exact Finset.mem_image.mpr ⟨q', hq', hval⟩
  calc n = (Finset.range n).card := (Finset.card_range n).symm
    _ ≤ (S.image Fin.val).card := Finset.card_le_card hsub
    _ ≤ S.card := Finset.card_image_le

/-- A session is written that goes on with its transfer, or ends with it. -/
theorem Tracks.update (h : Tracks past sessions) (hopen : past.Open k)
    (alone : ∀ j, past.Open j → (T j).key = (T k).key → j = k) (hlive : (sessions i).inUse = true)
    (hholds : Holds past k (sessions i)) (hold : ∀ j, j ≠ k → past.Old j a)
    (hinv : ∃ history, Reassembling history (Function.update sessions i s))
    (hstays : s.inUse = true ↔ Open ((a, t) :: past) k)
    (hholds' : s.inUse = true → Holds ((a, t) :: past) k s) :
    Tracks ((a, t) :: past) (Function.update sessions i s) := by
  refine ⟨hinv, fun j hopen' => ?_, fun i' hlive' => ?_⟩
  · by_cases hjk : j = k
    · subst hjk
      have hin := hstays.mpr hopen'
      exact ⟨i, by rwa [Function.update_self], by
        rw [Function.update_self]
        exact hholds' hin⟩
    · have hopenj := ((hold j hjk).open_iff t).mp hopen'
      obtain ⟨i', hi', hholdsj⟩ := h.holds j hopenj
      have hne : i' ≠ i := by
        rintro rfl
        exact hjk (alone j hopenj (hholdsj.key.symm.trans hholds.key))
      exact ⟨i', by rwa [Function.update_of_ne hne], by
        rw [Function.update_of_ne hne]
        exact hholdsj.old (hold j hjk) t⟩
  · by_cases hi : i' = i
    · subst hi
      rw [Function.update_self] at hlive' ⊢
      exact ⟨k, hstays.mp hlive', (hholds' hlive').key⟩
    · rw [Function.update_of_ne hi] at hlive' ⊢
      obtain ⟨j, hopenj, hkey⟩ := h.only i' hlive'
      have hjk : j ≠ k := by
        rintro rfl
        exact hi (h.distinct i' i hlive' hlive (hkey.trans hholds.key.symm))
      exact ⟨j, ((hold j hjk).open_iff t).mpr hopenj, hkey⟩

/-- **A new DATA frame** is received, and the last of a transfer delivers
the message. -/
theorem Tracks.data_new (h : Tracks past ctx.sessions) (hbegun : past.Begun k)
    (alone : ∀ j, past.Open j → (T j).key = (T k).key → j = k) (hplace : place.val = q + 1)
    (hnew : .fragment k place ∉ past.seen)
    {r : UnifiedError × Option (List UInt8) × CanReassemblyContext}
    (hr : handleData ctx ((T k).frames.get place)
      (normalizeSourceCanId ((T k).frames.get place).canId) t = some r)
    (hinv : ∃ history, Reassembling history r.2.2.sessions) :
    Tracks ((.fragment k place, t) :: past) r.2.2.sessions ∧
      r.2.1 = (open Classical in
        if Done ((.fragment k place, t) :: past) k then some (T k).msg else none) := by
  have hopen : past.Open k := ⟨hbegun, fun hdone => hnew (hdone place)⟩
  have hq := Transfer.seq_dataFrame hplace
  obtain ⟨i, hfind, hlive, hholds⟩ := h.find hopen (Transfer.key_dataFrame hplace)
  have hs := h.valid hlive
  have hlt : ((T k).frames.get place).data 2 < (ctx.sessions i).dataFrameCount := by
    have hbound := place.isLt
    have hlength := (T k).length_frames
    rw [UInt8.lt_iff_toNat_lt, hq, hholds.count hs]
    omega
  obtain ⟨r', hr', hcases⟩ := handleData_cases ((T k).frames.get place)
    (normalizeSourceCanId ((T k).frames.get place).canId) t fun i hlive => h.valid hlive
  have hsame : r' = r := Option.some.inj (hr'.symm.trans hr)
  rcases hcases with ⟨-, -, hdup⟩ | ⟨i', seq, hfind', -, hseq, hfresh, rfl⟩
  · -- the bit of a frame that has not arrived is not set
    obtain ⟨seq, hseq, hbit⟩ := hdup i hfind hlt
    obtain ⟨place', hplace', hmem⟩ := (hholds.received seq).mp hbit
    have hsameplace : place' = place := Fin.ext (by omega)
    exact absurd (hsameplace ▸ hmem) hnew
  · have hii : i' = i := Option.some.inj (hfind'.symm.trans hfind)
    subst hii
    subst hsame
    have hold : ∀ j, j ≠ k → past.Old j (.fragment k place) := fun j hj => old_of_ne hj
    have hholds' : Holds ((.fragment k place, t) :: past) k
        ((ctx.sessions i').receive ((T k).frames.get place) seq t) :=
      hholds.receive hs hplace (by omega) hnew t
    have hbegun' : Begun ((.fragment k place, t) :: past) k := List.mem_cons_of_mem _ hbegun
    rw [receiveData] at hinv ⊢
    split at hinv
    · rename_i hmissing
      have hnot : ¬ Done ((.fragment k place, t) :: past) k := by
        intro hdone
        have hcard := le_card_of_all ((hholds'.done_iff hbegun').mp hdone)
        have hmissing' := UInt8.lt_iff_toNat_lt.mp hmissing
        rw [receivedCount_receive hs hfresh, receive_dataFrameCount, hholds.count hs] at hmissing'
        rw [receive_receivedBitmap] at hcard
        omega
      rw [if_pos hmissing, if_neg hnot]
      refine ⟨?_, rfl⟩
      exact h.update hopen alone hlive hholds hold hinv ⟨fun _ => ⟨hbegun', hnot⟩, fun _ => hlive⟩
        fun _ => hholds'
    · rename_i hcomplete
      have hdone : Done ((.fragment k place, t) :: past) k := by
        refine (hholds'.done_iff hbegun').mpr fun q' hq' => ?_
        rw [← hholds.count hs] at hq'
        exact hs.all_received hseq hlt hfresh hcomplete q' hq'
      have hmsg := hholds'.upTo_eq hdone
      have hmost : ((ctx.sessions i').receive ((T k).frames.get place) seq t).totalLen.toNat ≤
          512 := hs.atMost
      have hcrc : ¬ unifiedCrc16CcittFalse
          (((ctx.sessions i').receive ((T k).frames.get place) seq t).buffer.upTo
          ((ctx.sessions i').receive ((T k).frames.get place) seq t).totalLen.toNat) ≠
            ((ctx.sessions i').receive ((T k).frames.get place) seq t).fullCrc16 := by
        rw [hmsg, not_not]
        exact hholds'.crc.symm
      rw [if_neg hcrc] at hinv
      rw [if_neg hcomplete, if_neg hcrc, if_pos hdone]
      refine ⟨?_, ?_⟩
      · refine h.update hopen alone hlive hholds hold hinv ⟨fun hin => ?_, fun hin => ?_⟩ fun hin => ?_
        · cases hin
        · exact absurd hdone hin.2
        · cases hin
      · simp only
        rw [upTo_completed _ _ hmost, hmsg]

end

/-! ## A run -/

variable {f : CanFrame}

theorem sofSlot_timeoutMs (ctx : CanReassemblyContext) (sourceCanId : UInt32) (sessionId : UInt8)
    (nowMs : UInt64) :
    (sofSlot ctx sourceCanId sessionId nowMs).2.timeoutMs = ctx.timeoutMs := by
  rw [sofSlot]
  split
  · rfl
  · simp only
    split
    · rfl
    · rfl

theorem handleSof_timeoutMs (ctx : CanReassemblyContext) (f : CanFrame) (sourceCanId : UInt32)
    (nowMs : UInt64) :
    (handleSof ctx f sourceCanId nowMs).2.timeoutMs = ctx.timeoutMs := by
  have hslot := sofSlot_timeoutMs ctx sourceCanId (f.data 1) nowMs
  rw [handleSof]
  split
  · rfl
  · split
    · rfl
    · split
      · rename_i heq
        rw [heq] at hslot
        exact hslot
      · rename_i heq
        rw [heq] at hslot
        exact hslot

theorem receiveData_timeoutMs (ctx : CanReassemblyContext) (i : Fin 8) (s : CanReassemblySession) :
    (receiveData ctx i s).2.2.timeoutMs = ctx.timeoutMs := by
  rw [receiveData]
  split
  · rfl
  · split
    · rfl
    · rfl

theorem handleData_timeoutMs {sourceCanId : UInt32}
    {r : UnifiedError × Option (List UInt8) × CanReassemblyContext}
    (h : handleData ctx f sourceCanId t = some r) : r.2.2.timeoutMs = ctx.timeoutMs := by
  rw [handleData] at h
  split at h
  · cases h
    rfl
  · simp only at h
    split at h
    · cases h
      rfl
    · split at h
      · cases h
      · split at h
        · cases h
          rfl
        · split at h
          · cases h
            exact receiveData_timeoutMs _ _ _
          · cases h

/-- No frame changes the timeout. -/
theorem reassembleFrame_timeoutMs {r : UnifiedError × Option (List UInt8) × CanReassemblyContext}
    (h : canAdapterReassembleFrame ctx f t = some r) : r.2.2.timeoutMs = ctx.timeoutMs := by
  rw [canAdapterReassembleFrame] at h
  simp only at h
  split at h
  · cases h
    rfl
  · split at h
    · cases h
      rfl
    · split at h
      · cases h
        exact handleSof_timeoutMs _ _ _ _
      · split at h
        · exact (handleData_timeoutMs h).trans rfl
        · cases h
          rfl

/-- What one arrival does: nothing is delivered and no transfer gets done,
or one gets done and is delivered. -/
def Delivers (past : CanArrivals T) (a : CanArrival T) (t : UInt64) (msg : Option (List UInt8)) :
    Prop :=
  (msg = none ∧ ∀ j, Done ((a, t) :: past) j ↔ past.Done j) ∨
    ∃ k, msg = some (T k).msg ∧ a.frame.key = (T k).key ∧ ¬ past.Done k ∧
      ∀ j, Done ((a, t) :: past) j ↔ j = k ∨ past.Done j

/-- **One arrival.** -/
theorem Tracks.step (h : Tracks past ctx.sessions)
    (htraffic : CanTraffic T ctx.timeoutMs ((a, t) :: past))
    (halive : ∀ k, ¬ Expired ctx.timeoutMs ((a, t) :: past) k) :
    ∃ r, canAdapterReassembleFrame ctx a.frame t = some r ∧ Tracks ((a, t) :: past) r.2.2.sessions ∧
      Delivers past a t r.2.1 := by
  have htime : ∀ k, past.Open k → ∀ t', Newest k past t' → t.toNat ≤ t'.toNat + ctx.timeoutMs.toNat :=
    fun k hopen t' ht' => htraffic.in_time halive hopen ht'
  have hscan := h.scan htime
  have h' : Tracks past (canAdapterReassemblyScanTimeouts ctx t).sessions := by rwa [hscan]
  have hscan' := h'.scan htime
  obtain ⟨history, hreassembling⟩ := h.reassembling
  obtain ⟨r, hr, hinv, -⟩ := hreassembling.reassembleFrame a.frame t
  refine ⟨r, hr, ?_⟩
  have hbegun : ∀ k place, .fragment k place ∈ past.seen → past.Begun k :=
    fun k place hmem => htraffic.tail.begun hmem
  cases htraffic with
  | @sof _ _ k _ _ once distinct room =>
    -- a first SOF finds a slot: it is fresh, distinct and there is room
    have hopens : (CanArrival.fragment k (T k).sofPlace).frame.opens = true := Transfer.opens_sofFrame
    have hfresh : ∀ place, .fragment k place ∉ past.seen := fun place hmem => once (hbegun k place hmem)
    rcases reassembleFrame_cases ctx (CanArrival.fragment k (T k).sofPlace).frame t with
      ⟨-, -, heq⟩ | ⟨hdata, -⟩ | ⟨-, hquiet, -⟩
    · rw [heq] at hr
      cases hr
      refine ⟨h'.sof hfresh distinct room hscan' ⟨_, hinv⟩, .inl ⟨rfl, fun j => ?_⟩⟩
      by_cases hjk : j = k
      · subst hjk
        exact iff_of_false (not_done_of_sof hfresh t) fun hdone => hfresh _ (hdone (T j).sofPlace)
      · exact (old_of_ne hjk).done_iff t
    · rw [CanFrame.opens_of_isData hdata] at hopens
      cases hopens
    · rw [hquiet] at hopens
      cases hopens
  | @data _ _ k place _ _ hplace begun alone _ =>
    have hpos : place.val ≠ 0 := fun hzero => hplace (Fin.ext hzero)
    have hq : place.val = (place.val - 1) + 1 := by omega
    have hdata : (CanArrival.fragment k place).frame.isData = true := Transfer.isData_dataFrame hq
    have hkey : (CanArrival.fragment k place).frame.key = (T k).key := Transfer.key_dataFrame hq
    rcases reassembleFrame_cases ctx (CanArrival.fragment k place).frame t with
      ⟨-, hsof, -⟩ | ⟨-, heq⟩ | ⟨hno, -⟩
    · rw [(CanFrame.isData_iff.mp hdata).2] at hsof
      cases hsof
    · rw [heq] at hr
      -- a fragment seen before is dropped, a new one is recorded
      by_cases hmem : .fragment k place ∈ past.seen
      · have hseq : ((CanArrival.fragment k place).frame.data 2).toNat = place.val - 1 :=
          Transfer.seq_dataFrame hq
        obtain ⟨r', hr', hnone, hsame⟩ :=
          h'.data_dropped (t := t) (f := (CanArrival.fragment k place).frame)
          fun j hopen hkeyj _ => by
            have hjk := alone j hopen (hkeyj.symm.trans hkey)
            subst hjk
            exact ⟨place, by omega, hmem⟩
        rw [hr] at hr'
        cases hr'
        rw [hsame]
        exact ⟨h'.old (old_of_mem hmem) t, .inl ⟨hnone, fun j => (old_of_mem hmem j).done_iff t⟩⟩
      · obtain ⟨htracks, hmsg⟩ := h'.data_new begun alone hq hmem hr ⟨_, hinv⟩
        refine ⟨htracks, ?_⟩
        have hnot : ¬ past.Done k := fun hdone => hmem (hdone place)
        -- the message is delivered with the fragment that completes the transfer
        by_cases hdone : Done ((.fragment k place, t) :: past) k
        · rw [if_pos hdone] at hmsg
          refine .inr ⟨k, hmsg, hkey, hnot, fun j => ?_⟩
          by_cases hjk : j = k
          · subst hjk
            exact iff_of_true hdone (.inl rfl)
          · rw [(old_of_ne hjk).done_iff t]
            exact (or_iff_right hjk).symm
        · rw [if_neg hdone] at hmsg
          refine .inl ⟨hmsg, fun j => ?_⟩
          by_cases hjk : j = k
          · subst hjk
            exact iff_of_false hdone hnot
          · exact (old_of_ne hjk).done_iff t
    · rw [hdata] at hno
      cases hno
  | @other _ _ f _ _ quiet stray =>
    -- other traffic opens nothing and continues no open transfer
    have hdropped : r.2.1 = none ∧ r.2.2.sessions =
        (canAdapterReassemblyScanTimeouts ctx t).sessions := by
      rcases reassembleFrame_cases ctx f t with ⟨hclassic, hsof, heq⟩ | ⟨hdata, heq⟩ |
          ⟨-, -, r', heq, hnone, hsame⟩
      · have hr' := hr.symm.trans heq
        cases hr'
        exact ⟨rfl, handleSof_of_not_opens hclassic hsof quiet⟩
      · obtain ⟨r', hr', hnone, hsame⟩ := h'.data_dropped (t := t) (f := f) fun j hopen hkey hlt =>
          absurd (stray j hopen hdata hkey) (Nat.not_le.mpr hlt)
        have hrr := hr.symm.trans (heq.trans hr')
        cases hrr
        exact ⟨hnone, hsame⟩
      · have hrr := hr.symm.trans heq
        cases hrr
        exact ⟨hnone, hsame⟩
    rw [hdropped.2]
    exact ⟨h'.old (fun j => old_other j) t, .inl ⟨hdropped.1, fun j => (old_other j).done_iff t⟩⟩

/-- What was under way and expired with less behind it has not with more. -/
theorem CanTraffic.alive_tail (h : CanTraffic T timeoutMs ((a, t) :: past))
    (halive : ∀ k, ¬ Expired timeoutMs ((a, t) :: past) k) (k : ι) : ¬ Expired timeoutMs past k :=
  fun hexpired => halive k (h.expired_cons hexpired)

/-- The messages of transfers, under their keys. -/
def deliveries (T : ι → Transfer) (done : List ι) : List (SessionKey × List UInt8) :=
  done.map fun k => ((T k).key, (T k).msg)

/-- **Any run**: the transfers that are done are those delivered, each
once. -/
theorem Tracks.run (hidle : ∀ i, (ctx.sessions i).inUse = false) (h : CanTraffic T timeoutMs past)
    (htimeout : ctx.timeoutMs = timeoutMs) (halive : ∀ k, ¬ Expired timeoutMs past k) :
    ∃ done ctx', receiveFrames ctx past.frames = some (deliveries T done, ctx') ∧
      ctx'.timeoutMs = timeoutMs ∧ Tracks past ctx'.sessions ∧ done.Nodup ∧ ∀ k, k ∈ done ↔
        past.Done k := by
  induction past with
  | nil =>
    refine ⟨[], ctx, rfl, htimeout, ⟨⟨[], ?_, ?_, ?_⟩, ?_, ?_⟩, List.nodup_nil, fun k => ?_⟩
    · intro i j hi
      rw [hidle] at hi
      cases hi
    · intro i hi
      rw [hidle] at hi
      cases hi
    · intro i hi
      rw [hidle] at hi
      cases hi
    · intro k hopen
      cases hopen.1
    · intro i hi
      rw [hidle] at hi
      cases hi
    · exact iff_of_false List.not_mem_nil fun hdone => by cases hdone (T k).sofPlace
  | cons e past ih =>
    obtain ⟨a, t⟩ := e
    obtain ⟨done, ctx', hrun, htimeout', htracks, hnodup, hdone⟩ := ih h.tail (h.alive_tail halive)
    subst htimeout'
    obtain ⟨r, hr, htracks', hdelivers⟩ := htracks.step h halive
    have hcons := receiveFrames_cons hrun hr
    have htimeout'' := reassembleFrame_timeoutMs hr
    -- the step delivers nothing, or one transfer that was not done before
    rcases hdelivers with ⟨hnone, hsame⟩ | ⟨k, hmsg, hkey, hnot, hiff⟩
    · rw [hnone] at hcons
      exact ⟨done, r.2.2, hcons, htimeout'', htracks', hnodup, fun j => (hdone j).trans (hsame j).symm⟩
    · rw [hmsg, hkey] at hcons
      refine ⟨k :: done, r.2.2, hcons, htimeout'', htracks', ?_, fun j => ?_⟩
      · exact List.nodup_cons.mpr ⟨fun hmem => hnot ((hdone k).mp hmem), hnodup⟩
      · rw [List.mem_cons, hdone, hiff]

/-- **Every message is delivered once, as it was sent**, and nothing else
is, in traffic in which all that was begun is done. No session is left in
use. -/
theorem messages_delivered_once (hidle : ∀ i, (ctx.sessions i).inUse = false)
    (h : CanTraffic T ctx.timeoutMs past) (hall : ∀ k, past.Begun k → past.Done k) :
    ∃ done ctx', receiveFrames ctx past.frames = some (deliveries T done, ctx') ∧ done.Nodup ∧
      (∀ k, k ∈ done ↔ past.Begun k) ∧ ∀ i, (ctx'.sessions i).inUse = false := by
  have halive : ∀ k, ¬ Expired ctx.timeoutMs past k :=
    fun k hexpired => hexpired.1.2 (hall k hexpired.1.1)
  obtain ⟨done, ctx', hrun, -, htracks, hnodup, hdone⟩ := Tracks.run hidle h rfl halive
  refine ⟨done, ctx', hrun, hnodup, fun k => ?_, fun i => ?_⟩
  · rw [hdone]
    exact ⟨fun hk => hk (T k).sofPlace, hall k⟩
  · rw [Bool.eq_false_iff]
    intro hlive
    obtain ⟨k, hopen, -⟩ := htracks.only i hlive
    exact hopen.2 (hall k hopen.1)

/-! ## Transfers mixed with each other -/

/-- Frames of transfers that arrive at one moment, the newest first. -/
def atOnce (l : List ((k : ι) × Fin (T k).frames.length)) : CanArrivals T :=
  l.map fun e => (.fragment e.1 e.2, 0)

theorem mem_seen_atOnce {l : List ((k : ι) × Fin (T k).frames.length)}
    {place : Fin (T k).frames.length} : .fragment k place ∈ (atOnce l).seen ↔ ⟨k, place⟩ ∈ l := by
  simp only [atOnce, seen, List.map_map, List.mem_map, Function.comp]
  constructor
  · rintro ⟨⟨j, place'⟩, hmem, heq⟩
    cases heq
    exact hmem
  · exact fun hmem => ⟨_, hmem, rfl⟩

/-- The SOF frame of a transfer comes once, and before its other frames. -/
def SofFirst : List ((k : ι) × Fin (T k).frames.length) → Prop
  | [] => True
  | e :: past => (⟨e.1, (T e.1).sofPlace⟩ ∈ past ↔ e.2 ≠ (T e.1).sofPlace) ∧ SofFirst past

instance SofFirst.decidable [DecidableEq ι] :
    (l : List ((k : ι) × Fin (T k).frames.length)) → Decidable (SofFirst l)
  | [] => inferInstanceAs (Decidable True)
  | e :: past =>
    have := SofFirst.decidable past
    inferInstanceAs (Decidable (_ ∧ _))

/-- **Up to seven transfers under keys of their own**, mixed with each
other, keep to the assumptions. -/
theorem canTraffic_atOnce [Fintype ι] (hcard : Fintype.card ι ≤ 7)
    (hkeys : Function.Injective fun k => (T k).key) {l : List ((k : ι) × Fin (T k).frames.length)}
    (hl : SofFirst l) : CanTraffic T timeoutMs (atOnce l) := by
  induction l with
  | nil => exact .nil
  | cons e past ih =>
    obtain ⟨k, place⟩ := e
    obtain ⟨hsof, hpast⟩ := hl
    have hclock : ∀ e ∈ atOnce past, e.2 ≤ 0 := by
      intro e he
      obtain ⟨x, -, rfl⟩ := List.mem_map.mp he
      exact UInt64.le_refl 0
    have hbegun : (atOnce past).Begun k ↔ place ≠ (T k).sofPlace := mem_seen_atOnce.trans hsof
    by_cases hplace : place = (T k).sofPlace
    · have hnot : ¬ (atOnce past).Begun k := fun h => hbegun.mp h hplace
      subst hplace
      refine .sof (ih hpast) hclock hnot (fun j hopen heq => ?_) ⟨Finset.univ, hcard, fun j _ =>
        Finset.mem_univ j⟩
      obtain rfl := hkeys heq
      exact hnot hopen.1
    · exact .data (ih hpast) hclock hplace (hbegun.mpr hplace) (fun j _ heq => hkeys heq)
        fun _ t' _ => Nat.zero_le _

theorem Transfer.mod_frames_lt (T : Transfer) (n : ℕ) : n % T.frames.length < T.frames.length := by
  refine Nat.mod_lt n ?_
  rw [Transfer.length_frames]
  omega

/-- The `n`-th frame of a transfer, the SOF frame being the first. -/
def Transfer.place (T : Transfer) (n : ℕ) : Fin T.frames.length :=
  ⟨n % T.frames.length, T.mod_frames_lt n⟩

/-- Two messages of 40 bytes, from senders with the CAN ids 1 and 2. -/
def twin (k : Bool) : Transfer :=
  ⟨⟨if k then 2 else 1, false, 0⟩, List.replicate 40 (if k then 9 else 7), by simp, by simp⟩

/-- A frame of one of them. -/
def twinFrame (e : Bool × ℕ) : (k : Bool) × Fin (twin k).frames.length := ⟨e.1, (twin e.1).place e.2⟩

/-- Their frames, the newest first. They take turns; of the second message
the DATA frame 1 comes three times, once after all others, and 5 before
4. -/
def twinFrames : List ((k : Bool) × Fin (twin k).frames.length) :=
  [(true, 1), (true, 8), (false, 8), (false, 7), (true, 7), (true, 6), (false, 6), (false, 5),
    (true, 4), (true, 5), (false, 4), (true, 3), (false, 3), (true, 1), (true, 2), (false, 2),
    (false, 1), (true, 1), (true, 0), (false, 0)].map twinFrame

set_option maxRecDepth 100000 in
/-- Both messages are delivered, once. -/
theorem messages_delivered_once_twin :
    ∃ done ctx', receiveFrames (canReassemblyContextInit 500) (atOnce twinFrames).frames =
        some (deliveries twin done, ctx') ∧
      done.Nodup ∧ (∀ k, k ∈ done) ∧ ∀ i, (ctx'.sessions i).inUse = false := by
  have hall : ∀ (k : Bool) (place : Fin (twin k).frames.length), ⟨k, place⟩ ∈ twinFrames := by
    decide +kernel
  have hkeys : Function.Injective fun k => (twin k).key := by
    decide +kernel
  have htraffic : CanTraffic twin 500 (atOnce twinFrames) :=
    canTraffic_atOnce (by decide) hkeys (by decide +kernel)
  have hidle : ∀ i, ((canReassemblyContextInit 500).sessions i).inUse = false := fun _ => rfl
  obtain ⟨done, ctx', hrun, hnodup, hdone, hfree⟩ := messages_delivered_once hidle htraffic
    fun k _ place => mem_seen_atOnce.mpr (hall k place)
  exact ⟨done, ctx', hrun, hnodup, fun k => (hdone k).mpr (mem_seen_atOnce.mpr (hall k _)), hfree⟩

end Linux

end PutGateway
