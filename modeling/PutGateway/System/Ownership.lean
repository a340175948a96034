import PutGateway.Linux.Operations
import PutGateway.Rtos.Runs
import PutGateway.Rtos.Provenance
import Mathlib.Algebra.BigOperators.Fin
import Mathlib.Algebra.Order.BigOperators.Group.Finset
/-!
# Who owns a frame

The frame pool of Linux and the ledger of the RTOS side by side. A frame
is in flight as often as an unread descriptor or a reference names it,
and `Owned` says that this is once for the frames Linux has handed to
the RTOS and never for the others, and that what is in flight agrees
with Linux's record of the frame. The moves of either core keep it.
-/

namespace PutGateway

namespace System

open Linux Rtos

variable {p : Pool} {L L' : Ledger} {q : Queues} {f g : Fin 64} {i : Fin 6} {d : Descriptor}
  {r : ReclaimDescriptor}

/-! ## Frames in flight -/

/-- How many unread descriptors name a frame. -/
def named (q : Queues) (f : Fin 64) : ℕ :=
  ∑ i, (q.rx i).countP (·.frameId == frameIdOfIndex f) +
    ∑ i, (q.tx i).countP (·.frameId == frameIdOfIndex f) +
    q.reclaim.countP (·.frameId == frameIdOfIndex f)

/-- How many unread descriptors and references name a frame. -/
def inFlight (L : Ledger) (f : Fin 64) : ℕ :=
  named L.queues f + if (L.references f).isSome then 1 else 0

private theorem sum_update {α : Type} (l : Fin 6 → α) (count : α → ℕ) (i : Fin 6) (a : α) :
    ∑ j, count (Function.update l i a j) + count (l i) = ∑ j, count (l j) + count a := by
  have hbefore := Finset.add_sum_erase Finset.univ (fun j => count (l j)) (Finset.mem_univ i)
  have hafter := Finset.add_sum_erase Finset.univ (fun j => count (Function.update l i a j))
    (Finset.mem_univ i)
  have hrest : ∑ j ∈ Finset.univ.erase i, count (Function.update l i a j) =
      ∑ j ∈ Finset.univ.erase i, count (l j) := by
    refine Finset.sum_congr rfl fun j hj => ?_
    rw [Function.update_of_ne (Finset.ne_of_mem_erase hj)]
  simp only [Function.update_self] at hafter
  omega

theorem named_takeRx {rest : List Descriptor} (h : q.rx i = d :: rest) :
    named q f = named (q.setRx i rest) f + if d.frameId = frameIdOfIndex f then 1 else 0 := by
  have hsum := sum_update q.rx (List.countP (·.frameId == frameIdOfIndex f)) i rest
  rw [h, List.countP_cons] at hsum
  simp only [beq_iff_eq] at hsum
  simp only [named, Queues.setRx]
  omega

theorem named_putRx :
    named (q.setRx i (q.rx i ++ [d])) f =
      named q f + if d.frameId = frameIdOfIndex f then 1 else 0 := by
  have hsum := sum_update q.rx (List.countP (·.frameId == frameIdOfIndex f)) i (q.rx i ++ [d])
  rw [List.countP_append, List.countP_singleton] at hsum
  simp only [beq_iff_eq] at hsum
  simp only [named, Queues.setRx]
  omega

theorem named_takeTx {rest : List Descriptor} (h : q.tx i = d :: rest) :
    named q f = named (q.setTx i rest) f + if d.frameId = frameIdOfIndex f then 1 else 0 := by
  have hsum := sum_update q.tx (List.countP (·.frameId == frameIdOfIndex f)) i rest
  rw [h, List.countP_cons] at hsum
  simp only [beq_iff_eq] at hsum
  simp only [named, Queues.setTx]
  omega

theorem named_putTx :
    named (q.setTx i (q.tx i ++ [d])) f =
      named q f + if d.frameId = frameIdOfIndex f then 1 else 0 := by
  have hsum := sum_update q.tx (List.countP (·.frameId == frameIdOfIndex f)) i (q.tx i ++ [d])
  rw [List.countP_append, List.countP_singleton] at hsum
  simp only [beq_iff_eq] at hsum
  simp only [named, Queues.setTx]
  omega

theorem named_takeReclaim {rest : List ReclaimDescriptor} (h : q.reclaim = r :: rest) :
    named q f = named (q.setReclaim rest) f + if r.frameId = frameIdOfIndex f then 1 else 0 := by
  simp only [named, Queues.setReclaim, h, List.countP_cons, beq_iff_eq]
  omega

theorem named_putReclaim :
    named (q.setReclaim (q.reclaim ++ [r])) f =
      named q f + if r.frameId = frameIdOfIndex f then 1 else 0 := by
  simp only [named, Queues.setReclaim, List.countP_append, List.countP_singleton, beq_iff_eq]
  omega

/-- A reference that goes is one frame in flight less. -/
theorem inFlight_clear (href : L.references f = some d) :
    inFlight L g = inFlight (L.clear f) g + if f = g then 1 else 0 := by
  by_cases hg : f = g
  · subst hg
    simp [inFlight, Ledger.clear, href]
  · simp [inFlight, Ledger.clear, hg, Function.update_of_ne (Ne.symm hg)]

theorem inFlight_register (href : L.references f = none) :
    inFlight { L with references := Function.update L.references f (some d) } g =
      inFlight L g + if f = g then 1 else 0 := by
  by_cases hg : f = g
  · subst hg
    simp [inFlight, href]
  · simp [inFlight, hg, Function.update_of_ne (Ne.symm hg)]

private theorem ite_frameId (hf : frameIndex? d.frameId = some f) :
    (if d.frameId = frameIdOfIndex g then 1 else 0) = if f = g then 1 else 0 := by
  rw [frameIndex?_eq_some.mp hf]
  exact if_congr frameIdOfIndex_inj rfl rfl

/-- **Moves keep frames in flight.** What is taken is registered, unless
it names no frame, and what is written was registered. -/
theorem inFlight_move {e : Event} (h : Move L e L') (hL : L.Books) (hfault : ¬ e.IsFault)
    (hrefused : ∀ i d, e = .refused i d → ∀ f, d.frameId ≠ frameIdOfIndex f) :
    inFlight L' f = inFlight L f := by
  -- a descriptor leaves one place for another: each case balances two places
  cases h with
  | refuse hrx =>
    have htake := named_takeRx (f := f) hrx
    rw [if_neg (hrefused _ _ rfl f)] at htake
    simp only [inFlight]
    omega
  | duplicate hrx hgood hf =>
    exact absurd (frameIndex?_eq_some.mp hf) (hrefused _ _ rfl _)
  | @receive i d rest k frame nowMs hrx hgood hf href =>
    have htake := named_takeRx (f := f) hrx
    have hregister := inFlight_register (L := L) (g := f) (d := d) href
    rw [ite_frameId hf] at htake
    simp only [inFlight] at hregister ⊢
    omega
  | @send x rest k d i nowMs hheld hf href htarget hroom =>
    have hput := named_putTx (q := L.queues) (i := i)
      (d := (fillTxDescriptor d (txOutput x nowMs)).sealed) (f := f)
    have hclear := inFlight_clear (g := f) href
    have hid : frameIndex? (fillTxDescriptor d (txOutput x nowMs)).sealed.frameId = some k := hf
    rw [ite_frameId hid] at hput
    simp only [inFlight, Ledger.clear] at hclear ⊢
    omega
  | @reclaim h rest k d output hheld hid hf href hroom =>
    have hput := named_putReclaim (q := L.queues) (r := reclaimOf output d) (f := f)
    have hclear := inFlight_clear (g := f) href
    have hk : (reclaimOf output d).frameId = frameIdOfIndex k :=
      Eq.trans hid (frameIndex?_eq_some.mp hf)
    rw [hk, if_congr frameIdOfIndex_inj rfl rfl] at hput
    simp only [inFlight, Ledger.clear] at hclear ⊢
    omega
  | @thaw o rest k hpending hf hroom =>
    obtain ⟨k', d, hid, href, -⟩ := hL.frozen o (by simp [hpending])
    obtain rfl : k = k' := frameIdOfIndex_inj.mp ((frameIndex?_eq_some.mp hf).symm.trans hid)
    have hput := named_putReclaim (q := L.queues) (r := thawed o) (f := f)
    have hclear := inFlight_clear (g := f) href
    have hk : (thawed o).frameId = frameIdOfIndex k := hid
    rw [hk, if_congr frameIdOfIndex_inj rfl rfl] at hput
    simp only [inFlight, Ledger.clear] at hclear ⊢
    omega
  | rearrange => rfl
  | enter => rfl
  | retry => rfl
  | reroute => rfl
  | freeze => rfl
  | absorb => rfl
  | overflow => rfl
  | orphan => rfl
  | lose => exact absurd trivial hfault
  | straySend => exact absurd trivial hfault
  | strayReclaim => exact absurd trivial hfault
  | strayThaw => exact absurd trivial hfault
  | abandon => exact absurd trivial hfault

/-! ## What is in flight agrees with the pool -/

/-- Linux's record of a frame has the interfaces of a descriptor. -/
def Records (m : FrameMeta) (source target : UInt8) : Prop :=
  m.sourceInterface = source ∧ m.targetInterface = target

/-- What Linux asks of a TX descriptor, its frame's record apart. -/
structure WellFormedTx (i : Fin 6) (d : Descriptor) : Prop where
  crc : descriptorCrc d = d.descriptorCrc16
  bounds : validateDescriptorBounds d = .ok
  target : d.targetInterface = UInt8.ofNat i

/-- What Linux asks of a reclaim descriptor, its frame's record apart. -/
structure WellFormedReclaim (d : ReclaimDescriptor) : Prop where
  crc : reclaimCrc d = d.descriptorCrc16
  reason : d.reason ≤ ReclaimReason.queueFull.code

/-- Every descriptor and reference in flight is one the other core
accepts, and has the interfaces of its frame's record. Nothing is asked
of a descriptor that names no frame. -/
structure Contents (frames : Fin 64 → FrameMeta) (L : Ledger) : Prop where
  rx : ∀ i, ∀ d ∈ L.queues.rx i, ∀ f, d.frameId = frameIdOfIndex f →
    Acceptable i d ∧ Records (frames f) d.sourceInterface d.targetInterface
  references : ∀ f d, L.references f = some d →
    Records (frames f) d.sourceInterface d.targetInterface
  tx : ∀ i, ∀ d ∈ L.queues.tx i, ∀ f, d.frameId = frameIdOfIndex f →
    WellFormedTx i d ∧ (frames f).sourceInterface = d.sourceInterface
  reclaim : ∀ d ∈ L.queues.reclaim, ∀ f, d.frameId = frameIdOfIndex f →
    WellFormedReclaim d ∧ Records (frames f) d.sourceInterface d.targetInterface

private theorem sum_countP_pos {α : Type} {l : Fin 6 → List α} {b : α → Bool} {a : α}
    (h : a ∈ l i) (hb : b a = true) : 0 < ∑ j, (l j).countP b := by
  rw [Finset.sum_pos_iff]
  exact ⟨i, Finset.mem_univ i, List.countP_pos_iff.mpr ⟨a, h, hb⟩⟩

theorem inFlight_pos_of_rx (h : d ∈ L.queues.rx i) (hf : d.frameId = frameIdOfIndex f) :
    0 < inFlight L f := by
  have hpos := sum_countP_pos (b := fun d => d.frameId == frameIdOfIndex f) h (by simpa using hf)
  simp only [inFlight, named]
  omega

theorem inFlight_pos_of_tx (h : d ∈ L.queues.tx i) (hf : d.frameId = frameIdOfIndex f) :
    0 < inFlight L f := by
  have hpos := sum_countP_pos (b := fun d => d.frameId == frameIdOfIndex f) h (by simpa using hf)
  simp only [inFlight, named]
  omega

theorem inFlight_pos_of_reclaim (h : r ∈ L.queues.reclaim) (hf : r.frameId = frameIdOfIndex f) :
    0 < inFlight L f := by
  have hpos : 0 < L.queues.reclaim.countP (·.frameId == frameIdOfIndex f) :=
    List.countP_pos_iff.mpr ⟨r, h, by simpa using hf⟩
  simp only [inFlight, named]
  omega

theorem inFlight_pos_of_reference (h : L.references f = some d) : 0 < inFlight L f := by
  simp [inFlight, h]

/-- Only the records of frames in flight matter. -/
theorem Contents.agree {frames frames' : Fin 64 → FrameMeta} (h : Contents frames L)
    (hagree : ∀ f, 0 < inFlight L f → (frames' f).sourceInterface = (frames f).sourceInterface ∧
      (frames' f).targetInterface = (frames f).targetInterface) : Contents frames' L where
  rx i d hd f hf := by
    obtain ⟨hgood, hrecord⟩ := h.rx i d hd f hf
    obtain ⟨hsource, htarget⟩ := hagree f (inFlight_pos_of_rx hd hf)
    exact ⟨hgood, hsource.trans hrecord.1, htarget.trans hrecord.2⟩
  references f d href := by
    obtain ⟨hsource, htarget⟩ := hagree f (inFlight_pos_of_reference href)
    exact ⟨hsource.trans (h.references f d href).1, htarget.trans (h.references f d href).2⟩
  tx i d hd f hf := by
    obtain ⟨hgood, hrecord⟩ := h.tx i d hd f hf
    exact ⟨hgood, (hagree f (inFlight_pos_of_tx hd hf)).1.trans hrecord⟩
  reclaim r hr f hf := by
    obtain ⟨hgood, hrecord⟩ := h.reclaim r hr f hf
    obtain ⟨hsource, htarget⟩ := hagree f (inFlight_pos_of_reclaim hr hf)
    exact ⟨hgood, hsource.trans hrecord.1, htarget.trans hrecord.2⟩

private theorem mem_rx_of_take {rest : List Descriptor} {j : Fin 6} {d' : Descriptor}
    (h : q.rx i = d :: rest) (hd : d' ∈ (q.setRx i rest).rx j) : d' ∈ q.rx j := by
  rw [Queues.setRx_rx] at hd
  split at hd
  · next hj =>
    subst hj
    exact h ▸ List.mem_cons_of_mem _ hd
  · exact hd

private theorem mem_tx_of_take {rest : List Descriptor} {j : Fin 6} {d' : Descriptor}
    (h : q.tx i = d :: rest) (hd : d' ∈ (q.setTx i rest).tx j) : d' ∈ q.tx j :=
  subset_of_takeTx h j hd

private theorem mem_tx_of_put {j : Fin 6} {d' : Descriptor}
    (hd : d' ∈ (q.setTx i (q.tx i ++ [d])).tx j) : d' ∈ q.tx j ∨ j = i ∧ d' = d := by
  rw [Queues.setTx_tx] at hd
  split at hd
  · next hj =>
    subst hj
    rcases List.mem_append.mp hd with hd | hd
    · exact .inl hd
    · exact .inr ⟨rfl, List.mem_singleton.mp hd⟩
  · exact .inl hd

private theorem mem_rx_of_put {j : Fin 6} {d' : Descriptor}
    (hd : d' ∈ (q.setRx i (q.rx i ++ [d])).rx j) : d' ∈ q.rx j ∨ j = i ∧ d' = d := by
  rw [Queues.setRx_rx] at hd
  split at hd
  · next hj =>
    subst hj
    rcases List.mem_append.mp hd with hd | hd
    · exact .inl hd
    · exact .inr ⟨rfl, List.mem_singleton.mp hd⟩
  · exact .inl hd

section Taking

variable {frames : Fin 64 → FrameMeta} {rest : List Descriptor}

theorem Contents.takeRx (h : Contents frames L) (hrx : L.queues.rx i = d :: rest) :
    Contents frames { L with queues := L.queues.setRx i rest } :=
  ⟨fun j d' hd => h.rx j d' (mem_rx_of_take hrx hd), h.references, h.tx, h.reclaim⟩

theorem Contents.takeTx (h : Contents frames L) (htx : L.queues.tx i = d :: rest) :
    Contents frames { L with queues := L.queues.setTx i rest } :=
  ⟨h.rx, h.references, fun j d' hd => h.tx j d' (mem_tx_of_take htx hd), h.reclaim⟩

theorem Contents.takeReclaim (h : Contents frames L) {rest : List ReclaimDescriptor}
    (hr : L.queues.reclaim = r :: rest) :
    Contents frames { L with queues := L.queues.setReclaim rest } :=
  ⟨h.rx, h.references, h.tx, fun d' hd => h.reclaim d' (hr ▸ List.mem_cons_of_mem _ hd)⟩

theorem Contents.clear (h : Contents frames L) (f : Fin 64) : Contents frames (L.clear f) := by
  refine ⟨h.rx, fun g d href => ?_, h.tx, h.reclaim⟩
  by_cases hg : g = f
  · subst hg
    simp [Ledger.clear] at href
  · exact h.references g d (by simpa [Ledger.clear, Function.update_of_ne hg] using href)

/-- The descriptor the RTOS writes for a frame agrees with the frame's
record where the reference does. -/
theorem Contents.putTx (h : Contents frames L) (hL : L.Books) {x : QueueItem} {rest : List Holding}
    (hheld : L.held = .item x :: rest) (hf : frameIndex? x.frameId = some f)
    (href : L.references f = some d) (htarget : x.targetInterface = interfaceOfIndex i)
    (nowMs : UInt32) :
    Contents frames { L with
      queues := L.queues.setTx i
        (L.queues.tx i ++ [(fillTxDescriptor d (txOutput x nowMs)).sealed]) } := by
  refine ⟨h.rx, h.references, fun j d' hd g hg => ?_, h.reclaim⟩
  rcases mem_tx_of_put hd with hd | ⟨rfl, rfl⟩
  · exact h.tx j d' hd g hg
  obtain ⟨f', d', hid, href', hof⟩ := hL.held (.item x) (by simp [hheld])
  have hx : x.frameId = frameIdOfIndex f := frameIndex?_eq_some.mp hf
  obtain rfl : f = f' := frameIdOfIndex_inj.mp (hx.symm.trans hid)
  obtain rfl : d = d' := Option.some.inj (href.symm.trans href')
  obtain ⟨hdid, k, hgood⟩ := hL.references f d href
  have hitem : x.Of d := hof
  rw [Descriptor.frameId_sealed] at hg
  obtain rfl : f = g := frameIdOfIndex_inj.mp (hx.symm.trans hg)
  refine ⟨⟨descriptorCrc_sealed _, ?_, ?_⟩, ?_⟩
  · rw [validateDescriptorBounds_sealed]
    exact hitem.txBounds hgood.bounds (hx.trans hdid.symm) htarget nowMs
  · rw [Descriptor.targetInterface_sealed]
    exact (congrArg UInt32.toUInt8 htarget).trans (toUInt8_interfaceOfIndex j)
  · rw [Descriptor.sourceInterface_sealed]
    exact (h.references f d href).1.trans hitem.toUInt8_source.symm

theorem ReclaimReason.code_le (reason : ReclaimReason) :
    reason.code ≤ ReclaimReason.queueFull.code := by
  cases reason <;> decide

theorem Contents.putReclaim (h : Contents frames L) {r : ReclaimDescriptor}
    (hreason : r.reason ≤ ReclaimReason.queueFull.code) (hid : r.frameId = frameIdOfIndex f)
    (href : L.references f = some d)
    (hsource : r.sourceInterface = d.sourceInterface)
    (htarget : r.targetInterface = d.targetInterface) :
    Contents frames { L with queues := L.queues.setReclaim (L.queues.reclaim ++ [r.sealed]) } := by
  refine ⟨h.rx, h.references, h.tx, fun r' hr g hg => ?_⟩
  rcases List.mem_append.mp hr with hr | hr
  · exact h.reclaim r' hr g hg
  · obtain rfl := List.mem_singleton.mp hr
    rw [ReclaimDescriptor.frameId_sealed, hid] at hg
    obtain rfl := frameIdOfIndex_inj.mp hg
    obtain ⟨hs, ht⟩ := h.references f d href
    refine ⟨⟨reclaimCrc_sealed r, ?_⟩, ?_⟩
    · rwa [ReclaimDescriptor.reason_sealed]
    · rw [ReclaimDescriptor.sourceInterface_sealed, ReclaimDescriptor.targetInterface_sealed]
      exact ⟨hs.trans hsource.symm, ht.trans htarget.symm⟩

end Taking

/-- Only the queues and the references matter. -/
theorem Contents.congr {frames : Fin 64 → FrameMeta} (h : Contents frames L)
    (hqueues : L'.queues = L.queues) (href : L'.references = L.references) : Contents frames L' :=
  ⟨hqueues ▸ h.rx, href ▸ h.references, hqueues ▸ h.tx, hqueues ▸ h.reclaim⟩

/-- **Moves keep what is in flight in agreement with the pool.** -/
theorem Contents.move {frames : Fin 64 → FrameMeta} {e : Event} (h : Contents frames L)
    (hmove : Move L e L') (hL : L.Books) (hfault : ¬ e.IsFault) : Contents frames L' := by
  cases hmove with
  | refuse hrx => exact h.takeRx hrx
  | duplicate hrx => exact h.takeRx hrx
  | @receive i d rest k frame nowMs hrx hgood hf href =>
    obtain ⟨hrx', href', htx', hreclaim'⟩ := h.takeRx hrx
    refine ⟨hrx', fun g d' hg => ?_, htx', hreclaim'⟩
    by_cases hgk : g = k
    · subst hgk
      simp only [Function.update_self, Option.some.injEq] at hg
      subst hg
      -- the reference takes over what the descriptor said
      exact (h.rx i d (by simp [hrx]) g (frameIndex?_eq_some.mp hf)).2
    · exact h.references g d' (by simpa [Function.update_of_ne hgk] using hg)
  | @send x rest k d i nowMs hheld hf href htarget hroom =>
    exact ((h.putTx hL hheld hf href htarget nowMs).clear k).congr rfl rfl
  | @reclaim h' rest k d output hheld hid hf href hroom =>
    have hput := h.putReclaim
      (r := reclaimDescriptor output.frameId output.reclaimReason d.sourceInterface.toUInt32
        d.targetInterface.toUInt32 d.epoch d.flags)
      (ReclaimReason.code_le _) (hid.trans (frameIndex?_eq_some.mp hf)) href
      (by simp [reclaimDescriptor]) (by simp [reclaimDescriptor])
    exact (hput.clear k).congr rfl rfl
  | @thaw o rest k hpending hf hroom =>
    obtain ⟨k', d, hid, href, hof⟩ := hL.frozen o (by simp [hpending])
    obtain rfl : k = k' := frameIdOfIndex_inj.mp ((frameIndex?_eq_some.mp hf).symm.trans hid)
    have hput := h.putReclaim
      (r := reclaimDescriptor o.frameId o.reclaimReason o.sourceInterface o.targetInterface o.epoch
        o.flags)
      (ReclaimReason.code_le _) hid href
      (by simp [reclaimDescriptor, hof.source]) (by simp [reclaimDescriptor, hof.target])
    exact (hput.clear k).congr rfl rfl
  | rearrange => exact h.congr rfl rfl
  | enter => exact h.congr rfl rfl
  | retry => exact h.congr rfl rfl
  | reroute => exact h.congr rfl rfl
  | freeze => exact h.congr rfl rfl
  | absorb => exact h.congr rfl rfl
  | overflow => exact h.congr rfl rfl
  | orphan => exact h.congr rfl rfl
  | lose => exact absurd trivial hfault
  | straySend => exact absurd trivial hfault
  | strayReclaim => exact absurd trivial hfault
  | strayThaw => exact absurd trivial hfault
  | abandon => exact absurd trivial hfault

/-! ## Exclusive ownership -/

/-- Every frame has one owner: a frame is in flight once where Linux has
queued it and not at all elsewhere, its bit is set unless it is free, and
what is in flight agrees with the pool. -/
structure Owned (p : Pool) (L : Ledger) : Prop where
  initialized : p.initialized = true
  count : ∀ f, inFlight L f = if (p.frames f).state = .rxQueued then 1 else 0
  bit : ∀ f, p.isAllocated f = true ↔ (p.frames f).state ≠ .free
  settled : ∀ f, (p.frames f).state ≠ .pendingReclaim
  unmarked : ∀ f, (p.frames f).pendingReclaim = false
  contents : Contents p.frames L

/-- A frame in flight is queued. -/
theorem Owned.queued (h : Owned p L) (hpos : 0 < inFlight L f) : (p.frames f).state = .rxQueued := by
  rw [h.count f] at hpos
  split at hpos
  · next hstate => exact hstate
  · cases hpos

theorem Owned.idle (h : Owned p L) (hstate : (p.frames f).state ≠ .rxQueued) : inFlight L f = 0 := by
  rw [h.count f, if_neg hstate]

/-- A fresh pool owns every frame where nothing is in flight. -/
theorem Owned.fresh (h : ∀ f, inFlight L f = 0) : Owned .fresh L where
  initialized := rfl
  count f := by simp [h f, Pool.fresh]
  bit f := by
    rw [Pool.isAllocated_fresh]
    simp [Pool.fresh]
  settled f := by simp [Pool.fresh]
  unmarked f := rfl
  contents :=
    { rx := fun i d hd f hf => absurd (inFlight_pos_of_rx hd hf) (by simp [h f])
      references := fun f d href => absurd (inFlight_pos_of_reference href) (by simp [h f])
      tx := fun i d hd f hf => absurd (inFlight_pos_of_tx hd hf) (by simp [h f])
      reclaim := fun d hd f hf => absurd (inFlight_pos_of_reclaim hd hf) (by simp [h f]) }

/-- A step that touches one frame. -/
theorem Owned.step {p' : Pool} (h : Owned p L) (f : Fin 64) (hinit : p'.initialized = true)
    (hframes : ∀ g, g ≠ f → p'.frames g = p.frames g)
    (hbits : ∀ g, g ≠ f → p'.isAllocated g = p.isAllocated g)
    (hothers : ∀ g, g ≠ f → inFlight L' g = inFlight L g)
    (hcount : inFlight L' f = if (p'.frames f).state = .rxQueued then 1 else 0)
    (hbit : p'.isAllocated f = true ↔ (p'.frames f).state ≠ .free)
    (hsettled : (p'.frames f).state ≠ .pendingReclaim)
    (hunmarked : (p'.frames f).pendingReclaim = false) (hcontents : Contents p'.frames L') :
    Owned p' L' where
  initialized := hinit
  count g := by
    by_cases hg : g = f
    · exact hg ▸ hcount
    · rw [hothers g hg, hframes g hg, h.count g]
  bit g := by
    by_cases hg : g = f
    · exact hg ▸ hbit
    · rw [hbits g hg, hframes g hg, h.bit g]
  settled g := by
    by_cases hg : g = f
    · exact hg ▸ hsettled
    · exact hframes g hg ▸ h.settled g
  unmarked g := by
    by_cases hg : g = f
    · exact hg ▸ hunmarked
    · exact hframes g hg ▸ h.unmarked g
  contents := hcontents

/-- **The RTOS keeps ownership exclusive.** -/
theorem Owned.move {e : Event} (h : Owned p L) (hmove : Move L e L') (hL : L.Books)
    (hfault : ¬ e.IsFault) : Owned p L' := by
  have hrefused : ∀ i d, e = .refused i d → ∀ f, d.frameId ≠ frameIdOfIndex f := by
    -- what names a frame is acceptable, and its frame in flight once
    rintro i d rfl f hid
    cases hmove with
    | refuse hrx hbad => exact hbad (h.contents.rx i d (by simp [hrx]) f hid).1
    | @duplicate _ _ rest k r hrx hgood hf href =>
      have htake := named_takeRx (f := k) hrx
      have hcount := h.count k
      rw [if_pos (frameIndex?_eq_some.mp hf)] at htake
      simp only [inFlight, href, Option.isSome_some, if_true] at hcount
      split at hcount
      · omega
      · omega
  refine ⟨h.initialized, fun f => ?_, h.bit, h.settled, h.unmarked,
    h.contents.move hmove hL hfault⟩
  rw [inFlight_move hmove hL hfault hrefused, h.count f]

theorem Owned.moves {es : List Event} (h : Owned p L) (hmoves : Moves L es L') (hL : L.Books)
    (hfault : ∀ e ∈ es, ¬ e.IsFault) : Owned p L' := by
  induction hmoves with
  | refl => exact h
  | snoc hmoves hmove ih =>
    refine (ih fun e he => hfault e (List.mem_append_left _ he)).move hmove (hmoves.books hL) ?_
    exact hfault _ (List.mem_append_right _ (List.mem_singleton_self _))

/-! ## The moves of Linux -/

/-- Linux changes the record of a frame it has not queued. -/
theorem Owned.replace {p' : Pool} {m : FrameMeta} (h : Owned p L)
    (hidle : (p.frames f).state ≠ .rxQueued) (hinit : p'.initialized = true)
    (hframes : ∀ g, p'.frames g = if g = f then m else p.frames g)
    (hbits : ∀ g, p'.isAllocated g = if g = f then decide (m.state ≠ .free) else p.isAllocated g)
    (hstate : m.state ≠ .rxQueued) (hsettled : m.state ≠ .pendingReclaim)
    (hunmarked : m.pendingReclaim = false) : Owned p' L := by
  have hf : p'.frames f = m := by rw [hframes f, if_pos rfl]
  have hcount := h.idle hidle
  refine h.step f hinit (fun g hg => by rw [hframes g, if_neg hg])
    (fun g hg => by rw [hbits g, if_neg hg]) (fun _ _ => rfl) ?_ ?_ (hf ▸ hsettled) (hf ▸ hunmarked) ?_
  · rw [hcount, hf, if_neg hstate]
  · rw [hbits f, if_pos rfl, hf, decide_eq_true_iff]
  · refine h.contents.agree fun g hg => ?_
    have hne : g ≠ f := by
      rintro rfl
      omega
    rw [hframes g, if_neg hne]
    exact ⟨rfl, rfl⟩

/-- Allocation. -/
theorem Owned.claim {m : FrameMeta} (h : Owned p L) (hfree : p.isAllocated f = false)
    (hm : m.state = .allocated) (hunmarked : m.pendingReclaim = false) : Owned (p.claim i f m) L := by
  have hstate : (p.frames f).state = .free := by
    by_contra hne
    rw [(h.bit f).mpr hne] at hfree
    cases hfree
  refine h.replace (f := f) (m := m) (by rw [hstate]; decide) h.initialized (fun g => Pool.claim_frames)
    (fun g => ?_) (by rw [hm]; decide) (by rw [hm]; decide) hunmarked
  rw [Pool.isAllocated_claim]
  by_cases hg : g = f
  · subst hg
    simp [hm]
  · simp [hg, Ne.symm hg]

/-- Release. -/
theorem Owned.discharge (h : Owned p L) (hrelease : (p.frames f).releasable) :
    Owned (p.discharge f) L := by
  have hidle : (p.frames f).state ≠ .rxQueued := by
    rcases hrelease with hs | hs | hs | hs
    · rw [hs]
      decide
    · rw [hs]
      decide
    · exact absurd hs (h.settled f)
    · rw [h.unmarked f] at hs
      cases hs
  refine h.replace (f := f) (m := {}) hidle h.initialized (fun g => Pool.discharge_frames) (fun g => ?_)
    (by decide) (by decide) rfl
  rw [Pool.isAllocated_discharge]
  by_cases hg : g = f
  · subst hg
    simp
  · simp [hg, Ne.symm hg]

/-- Commit. -/
theorem Owned.commit (h : Owned p L) (hstate : (p.frames f).state = .allocated)
    (hid : d.frameId = frameIdOfIndex f) (hbounds : validateDescriptorBounds d = .ok)
    (hsource : d.sourceInterface = UInt8.ofNat i)
    (hmeta : (p.frames f).sourceInterface = d.sourceInterface) :
    Owned (p.put f { p.frames f with state := .rxQueued, targetInterface := d.targetInterface })
      { L with queues := L.queues.setRx i (L.queues.rx i ++ [d.sealed]) } := by
  have hidle := h.idle (f := f) (by rw [hstate]; decide)
  have hput : ∀ g, inFlight { L with queues := L.queues.setRx i (L.queues.rx i ++ [d.sealed]) } g =
      inFlight L g + if f = g then 1 else 0 := by
    intro g
    have hnamed := named_putRx (q := L.queues) (i := i) (d := d.sealed) (f := g)
    rw [Descriptor.frameId_sealed, hid, if_congr frameIdOfIndex_inj rfl rfl] at hnamed
    simp only [inFlight]
    omega
  refine h.step f h.initialized (fun g hg => by simp [hg]) (fun g _ => Pool.isAllocated_put)
    (fun g hg => by rw [hput g, if_neg (Ne.symm hg), Nat.add_zero]) ?_ ?_ ?_ ?_ ?_
  · rw [hput f, hidle]
    simp
  · rw [Pool.isAllocated_put, h.bit f]
    simp [hstate]
  · simp
  · simpa using h.unmarked f
  · -- the new descriptor agrees with the new record, and nothing else names the frame
    have hagree : Contents (p.put f { p.frames f with
        state := .rxQueued, targetInterface := d.targetInterface }).frames L := by
      refine h.contents.agree fun g hg => ?_
      have hne : g ≠ f := by
        rintro rfl
        omega
      simp [hne]
    refine ⟨fun j d' hd g hg => ?_, hagree.references, hagree.tx, hagree.reclaim⟩
    rcases mem_rx_of_put hd with hd | ⟨rfl, rfl⟩
    · exact hagree.rx j d' hd g hg
    · rw [Descriptor.frameId_sealed] at hg
      obtain rfl : f = g := frameIdOfIndex_inj.mp (hid.symm.trans hg)
      refine ⟨⟨descriptorCrc_sealed d, ?_, ?_⟩, ?_⟩
      · rwa [validateDescriptorBounds_sealed]
      · rwa [Descriptor.sourceInterface_sealed]
      · simp [Records, hmeta]

/-- Linux takes a frame from a TX ring. -/
theorem Owned.takeTx {rest : List Descriptor} (h : Owned p L) (htx : L.queues.tx i = d :: rest)
    (hid : d.frameId = frameIdOfIndex f) :
    Owned (p.put f { p.frames f with state := .txReady })
      { L with queues := L.queues.setTx i rest } := by
  have hqueued := h.queued (inFlight_pos_of_tx (i := i) (by simp [htx]) hid)
  have htake : ∀ g, inFlight L g =
      inFlight { L with queues := L.queues.setTx i rest } g + if f = g then 1 else 0 := by
    intro g
    have hnamed := named_takeTx (f := g) htx
    rw [hid, if_congr frameIdOfIndex_inj rfl rfl] at hnamed
    simp only [inFlight]
    omega
  refine h.step f h.initialized (fun g hg => by simp [hg]) (fun g _ => Pool.isAllocated_put)
    (fun g hg => by rw [htake g, if_neg (Ne.symm hg), Nat.add_zero]) ?_ ?_ ?_ ?_ ?_
  · have hcount := h.count f
    rw [htake f, hqueued] at hcount
    simp at hcount ⊢
    exact hcount
  · rw [Pool.isAllocated_put, h.bit f, hqueued]
    simp
  · simp
  · simpa using h.unmarked f
  · refine (h.contents.takeTx htx).agree fun g _ => ?_
    by_cases hg : g = f
    · subst hg
      simp
    · simp [hg]

/-- Linux takes a frame from the reclaim ring. -/
theorem Owned.takeReclaim {rest : List ReclaimDescriptor} (h : Owned p L)
    (hr : L.queues.reclaim = r :: rest) (hid : r.frameId = frameIdOfIndex f) :
    Owned (p.discharge f) { L with queues := L.queues.setReclaim rest } := by
  have hqueued := h.queued (inFlight_pos_of_reclaim (by simp [hr]) hid)
  have htake : ∀ g, inFlight L g =
      inFlight { L with queues := L.queues.setReclaim rest } g + if f = g then 1 else 0 := by
    intro g
    have hnamed := named_takeReclaim (f := g) hr
    rw [hid, if_congr frameIdOfIndex_inj rfl rfl] at hnamed
    simp only [inFlight]
    omega
  have hcount := h.count f
  rw [htake f, hqueued] at hcount
  simp only [if_true, Nat.add_eq_right] at hcount
  refine h.step f h.initialized (fun g hg => by simp [hg])
    (fun g hg => by rw [Pool.isAllocated_discharge]; simp [Ne.symm hg])
    (fun g hg => by rw [htake g, if_neg (Ne.symm hg), Nat.add_zero]) ?_ ?_ ?_ ?_ ?_
  · simpa using hcount
  · rw [Pool.isAllocated_discharge]
    simp
  · simp
  · simp
  · refine (h.contents.takeReclaim hr).agree fun g hg => ?_
    have hne : g ≠ f := by
      rintro rfl
      omega
    simp [hne]

/-- Linux takes every TX descriptor that names a frame. -/
theorem Owned.takesTx (h : Owned p L) (hd : d ∈ L.queues.tx i) (hf : frameIndex? d.frameId = some f) :
    p.TakesTx i d f := by
  have hid := frameIndex?_eq_some.mp hf
  obtain ⟨hgood, hrecord⟩ := h.contents.tx i d hd f hid
  have hqueued := h.queued (inFlight_pos_of_tx hd hid)
  have halloc := (h.bit f).mpr (by rw [hqueued]; decide)
  exact ⟨hgood.crc, hgood.bounds, hgood.target, hf, halloc, hqueued, hrecord⟩

/-- Linux takes every reclaim descriptor that names a frame. -/
theorem Owned.takesReclaim (h : Owned p L) (hr : r ∈ L.queues.reclaim)
    (hf : frameIndex? r.frameId = some f) : p.TakesReclaim r f := by
  have hid := frameIndex?_eq_some.mp hf
  obtain ⟨hgood, hsource, htarget⟩ := h.contents.reclaim r hr f hid
  have hqueued := h.queued (inFlight_pos_of_reclaim hr hid)
  have halloc := (h.bit f).mpr (by rw [hqueued]; decide)
  exact ⟨hgood.crc, hgood.reason, hf, ⟨halloc, hqueued, hsource⟩, htarget⟩

/-- Dropping a descriptor that names no frame. -/
private theorem Owned.drop (h : Owned p L) (hqueues : ∀ f, named q f = named L.queues f)
    (hcontents : Contents p.frames { L with queues := q }) : Owned p { L with queues := q } where
  initialized := h.initialized
  count f := by
    have hcount := h.count f
    simp only [inFlight, hqueues f] at hcount ⊢
    exact hcount
  bit := h.bit
  settled := h.settled
  unmarked := h.unmarked
  contents := hcontents

/-- **Linux keeps ownership exclusive.** -/
theorem Owned.poolMove {b : Option Descriptor} {p' : Pool} {q' : Queues} (h : Owned p L)
    (hmove : PoolMove b p L.queues p' q') : Owned p' { L with queues := q' } := by
  cases hmove with
  | idle => exact h
  | claim i hfree hm hunmarked => exact h.claim hfree hm hunmarked
  | publish hb hf hbounds hsource halloc hstate hmeta hroom =>
    exact h.commit hstate (frameIndex?_eq_some.mp hf) hbounds hsource hmeta
  | release halloc hrelease => exact h.discharge hrelease
  | @dropTx i d rest htx hbad =>
    refine h.drop (fun f => ?_) (h.contents.takeTx htx)
    have hid : d.frameId ≠ frameIdOfIndex f := fun hid =>
      hbad f (h.takesTx (by simp [htx]) (frameIndex?_eq_some.mpr hid))
    have htake := named_takeTx (f := f) htx
    rw [if_neg hid] at htake
    exact htake.symm
  | takeTx htx htakes => exact h.takeTx htx (frameIndex?_eq_some.mp htakes.frame)
  | @dropReclaim d rest hr hbad =>
    refine h.drop (fun f => ?_) (h.contents.takeReclaim hr)
    have hid : d.frameId ≠ frameIdOfIndex f := fun hid =>
      hbad f (h.takesReclaim (by simp [hr]) (frameIndex?_eq_some.mpr hid))
    have htake := named_takeReclaim (f := f) hr
    rw [if_neg hid] at htake
    exact htake.symm
  | takeReclaim hr htakes => exact h.takeReclaim hr (frameIndex?_eq_some.mp htakes.frame)

/-! ## Descriptors that name frames -/

/-- Every unread descriptor for Linux names a frame. -/
structure AllNamed (L : Ledger) : Prop where
  tx : ∀ i, ∀ d ∈ L.queues.tx i, ∃ f, frameIndex? d.frameId = some f
  reclaim : ∀ d ∈ L.queues.reclaim, ∃ f, frameIndex? d.frameId = some f

/-- **The RTOS writes descriptors of frames only.** -/
theorem AllNamed.descends {taken : Fin 6 → List Descriptor} (h : AllNamed L) (hL : L.Books)
    (hdescends : Descends L L' taken) : AllNamed L' := by
  have hknown : ∀ d, L.Knows taken d → ∃ f, frameIndex? d.frameId = some f := by
    rintro d (⟨f, href⟩ | ⟨i, -, hgood⟩)
    · exact ⟨f, frameIndex?_eq_some.mpr (hL.references f d href).1⟩
    · exact hgood.frame
  refine ⟨fun i d hd => ?_, fun d hd => ?_⟩
  · rcases hdescends.tx i d hd with hd | ⟨r, hr, hforwards⟩
    · exact h.tx i d hd
    · exact hforwards.frameId ▸ hknown r hr
  · rcases hdescends.reclaim d hd with hd | ⟨r, hr, hreturns⟩
    · exact h.reclaim d hd
    · exact hreturns.frameId ▸ hknown r hr

theorem AllNamed.poolMove {b : Option Descriptor} {p p' : Pool} {q' : Queues} (h : AllNamed L)
    (hmove : PoolMove b p L.queues p' q') : AllNamed { L with queues := q' } := by
  cases hmove with
  | idle => exact h
  | claim => exact h
  | publish => exact ⟨h.tx, h.reclaim⟩
  | release => exact h
  | dropTx htx => exact ⟨fun j d hd => h.tx j d (mem_tx_of_take htx hd), h.reclaim⟩
  | takeTx htx => exact ⟨fun j d hd => h.tx j d (mem_tx_of_take htx hd), h.reclaim⟩
  | dropReclaim hr => exact ⟨h.tx, fun d hd => h.reclaim d (hr ▸ List.mem_cons_of_mem _ hd)⟩
  | takeReclaim hr => exact ⟨h.tx, fun d hd => h.reclaim d (hr ▸ List.mem_cons_of_mem _ hd)⟩

end System

end PutGateway
