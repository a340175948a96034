import PutGateway.Rtos.SupervisionSpec
/-!
# Where descriptors come from

What the RTOS writes to a TX or reclaim ring, it writes for a frame it
has a reference for, and every reference is a descriptor it has taken off
an RX ring. `Descends` follows this through any sequence of moves.
-/

namespace PutGateway

/-- A TX descriptor that forwards the frame received with `r`. The frame,
its source and destination, priority, epoch and flags are those of `r`,
and `r` carried the trust the router asks for. -/
structure Descriptor.Forwards (d r : Descriptor) : Prop where
  frameId : d.frameId = r.frameId
  source : d.sourceInterface = r.sourceInterface
  destinationCid : d.destinationCid = r.destinationCid
  priority : d.priority = r.priority
  epoch : d.epoch = r.epoch
  flags : d.flags = r.flags
  trusted : Rtos.rtosRouterTrustIsRoutable (Rtos.descriptorTrustFromFlags r) = true

/-- A reclaim descriptor that gives back the frame received with `r`. -/
structure ReclaimDescriptor.Returns (d : ReclaimDescriptor) (r : Descriptor) : Prop where
  frameId : d.frameId = r.frameId
  source : d.sourceInterface = r.sourceInterface
  target : d.targetInterface = r.targetInterface
  epoch : d.epoch = r.epoch
  flags : d.flags = r.flags

namespace Rtos

variable {L L' L'' : Ledger} {f : Fin 64} {r : Descriptor} {taken taken' : Fin 6 → List Descriptor}

/-- A descriptor the RTOS has a reference with, or takes off an RX ring. -/
def Ledger.Knows (L : Ledger) (taken : Fin 6 → List Descriptor) (r : Descriptor) : Prop :=
  (∃ f, L.references f = some r) ∨ ∃ i, r ∈ taken i ∧ Acceptable i r

/-- `L'` comes from `L` by taking `taken` off the RX rings: references
are registered from what is taken, and what is written to the other
rings is written for a descriptor that is known. -/
structure Descends (L L' : Ledger) (taken : Fin 6 → List Descriptor) : Prop where
  rx : ∀ i, L.queues.rx i = taken i ++ L'.queues.rx i
  references : ∀ f r, L'.references f = some r →
    L.references f = some r ∨ ∃ i, r ∈ taken i ∧ Acceptable i r
  tx : ∀ i, ∀ d ∈ L'.queues.tx i, d ∈ L.queues.tx i ∨ ∃ r, L.Knows taken r ∧ d.Forwards r
  reclaim : ∀ d ∈ L'.queues.reclaim, d ∈ L.queues.reclaim ∨ ∃ r, L.Knows taken r ∧ d.Returns r

theorem Descends.refl (L : Ledger) : Descends L L fun _ => [] :=
  ⟨fun _ => rfl, fun _ _ h => .inl h, fun _ _ h => .inl h, fun _ h => .inl h⟩

theorem Descends.knows (h : Descends L L' taken) (hr : L'.Knows taken' r) :
    L.Knows (fun i => taken i ++ taken' i) r := by
  rcases hr with ⟨f, href⟩ | ⟨i, hmem, hgood⟩
  · rcases h.references f r href with href | ⟨i, hmem, hgood⟩
    · exact .inl ⟨f, href⟩
    · exact .inr ⟨i, List.mem_append_left _ hmem, hgood⟩
  · exact .inr ⟨i, List.mem_append_right _ hmem, hgood⟩

theorem Ledger.Knows.append (h : L.Knows taken r) :
    L.Knows (fun i => taken i ++ taken' i) r := by
  rcases h with href | ⟨i, hmem, hgood⟩
  · exact .inl href
  · exact .inr ⟨i, List.mem_append_left _ hmem, hgood⟩

theorem Descends.trans (h : Descends L L' taken) (h' : Descends L' L'' taken') :
    Descends L L'' fun i => taken i ++ taken' i where
  rx i := by rw [h.rx i, h'.rx i, List.append_assoc]
  references f r href := by
    rcases h'.references f r href with href | ⟨i, hmem, hgood⟩
    · rcases h.references f r href with href | ⟨i, hmem, hgood⟩
      · exact .inl href
      · exact .inr ⟨i, List.mem_append_left _ hmem, hgood⟩
    · exact .inr ⟨i, List.mem_append_right _ hmem, hgood⟩
  tx i d hd := by
    rcases h'.tx i d hd with hd | ⟨r, hr, hforwards⟩
    · rcases h.tx i d hd with hd | ⟨r, hr, hforwards⟩
      · exact .inl hd
      · exact .inr ⟨r, hr.append, hforwards⟩
    · exact .inr ⟨r, h.knows hr, hforwards⟩
  reclaim d hd := by
    rcases h'.reclaim d hd with hd | ⟨r, hr, hreturns⟩
    · rcases h.reclaim d hd with hd | ⟨r, hr, hreturns⟩
      · exact .inl hd
      · exact .inr ⟨r, hr.append, hreturns⟩
    · exact .inr ⟨r, h.knows hr, hreturns⟩

/-! ## One move -/

/-- A move that leaves queues and references alone. -/
private theorem Descends.of_eq (hqueues : L'.queues = L.queues)
    (href : L'.references = L.references) : Descends L L' fun _ => [] :=
  ⟨fun i => by rw [hqueues]; rfl, fun _ _ h => .inl (href ▸ h), fun _ _ h => .inl (hqueues ▸ h),
    fun _ h => .inl (hqueues ▸ h)⟩

/-- The head of an RX ring is taken, and registered or not. -/
private theorem Descends.takeRx {i : Fin 6} {d : Descriptor} {rest : List Descriptor}
    (hrx : L.queues.rx i = d :: rest) (hqueues : L'.queues = L.queues.setRx i rest)
    (href : ∀ f r, L'.references f = some r → L.references f = some r ∨ r = d ∧ Acceptable i d) :
    Descends L L' fun j => if j = i then [d] else [] where
  rx j := by
    rw [hqueues, Queues.setRx_rx]
    by_cases hj : j = i
    · subst hj
      simp [hrx]
    · simp [hj]
  references f r h := by
    rcases href f r h with h | ⟨rfl, hgood⟩
    · exact .inl h
    · exact .inr ⟨i, by simp, hgood⟩
  tx j d hd := .inl (by rwa [hqueues] at hd)
  reclaim d hd := .inl (by rwa [hqueues] at hd)

/-- The last entry of a TX ring is new. -/
private theorem Descends.putTx {i : Fin 6} {d : Descriptor}
    (hqueues : L'.queues = L.queues.setTx i (L.queues.tx i ++ [d]))
    (href : ∀ f r, L'.references f = some r → L.references f = some r)
    (hknown : L.references f = some r) (hforwards : d.Forwards r) : Descends L L' fun _ => [] where
  rx j := by
    rw [hqueues]
    rfl
  references f r h := .inl (href f r h)
  tx j d' hd := by
    rw [hqueues, Queues.setTx_tx] at hd
    split at hd
    · next hj =>
      subst hj
      rcases List.mem_append.mp hd with hd | hd
      · exact .inl hd
      · exact .inr ⟨r, .inl ⟨f, hknown⟩, List.mem_singleton.mp hd ▸ hforwards⟩
    · exact .inl hd
  reclaim d hd := .inl (by rwa [hqueues] at hd)

/-- The last entry of the reclaim ring is new. -/
private theorem Descends.putReclaim {d : ReclaimDescriptor}
    (hqueues : L'.queues = L.queues.setReclaim (L.queues.reclaim ++ [d]))
    (href : ∀ f r, L'.references f = some r → L.references f = some r)
    (hknown : L.references f = some r) (hreturns : d.Returns r) : Descends L L' fun _ => [] where
  rx j := by
    rw [hqueues]
    rfl
  references f r h := .inl (href f r h)
  tx j d hd := .inl (by rwa [hqueues] at hd)
  reclaim d' hd := by
    rw [hqueues] at hd
    rcases List.mem_append.mp hd with hd | hd
    · exact .inl hd
    · exact .inr ⟨r, .inl ⟨f, hknown⟩, List.mem_singleton.mp hd ▸ hreturns⟩

private theorem references_clear {g : Fin 64} (h : (L.clear f).references g = some r) :
    L.references g = some r := by
  by_cases hg : g = f
  · subst hg
    simp [Ledger.clear] at h
  · simpa [Ledger.clear, Function.update_of_ne hg] using h

/-- What the TX sink writes forwards the reference of the item. -/
theorem Ledger.Books.forwards (hL : L.Books) {x : QueueItem} {rest : List Holding}
    (hheld : L.held = .item x :: rest) (hf : frameIndex? x.frameId = some f)
    (href : L.references f = some r) (nowMs : UInt32) :
    (fillTxDescriptor r (txOutput x nowMs)).sealed.Forwards r := by
  obtain ⟨f', r', hid, href', hof⟩ := hL.held (.item x) (by simp [hheld])
  have hx : x.frameId = frameIdOfIndex f := frameIndex?_eq_some.mp hf
  obtain rfl : f = f' := frameIdOfIndex_inj.mp (hx.symm.trans hid)
  obtain rfl : r = r' := Option.some.inj (href.symm.trans href')
  obtain ⟨hrid, -⟩ := hL.references f r href
  have hitem : x.Of r := hof
  constructor
  · rw [Descriptor.frameId_sealed]
    exact hx.trans hrid.symm
  · rw [Descriptor.sourceInterface_sealed]
    simp [fillTxDescriptor, txOutput, hitem.source]
  · rw [Descriptor.destinationCid_sealed]
    exact hitem.destinationCid
  · rw [Descriptor.priority_sealed]
    exact hitem.priority
  · rw [Descriptor.epoch_sealed]
    exact hitem.epoch
  · rw [Descriptor.flags_sealed]
    exact hitem.flags
  · exact hitem.trusted

/-- What the reclaim sink writes returns the reference of the frame. -/
theorem Ledger.Books.returns (hL : L.Books) {id : UInt32} {output : RouteOutput}
    (hid : output.frameId = id) (hf : frameIndex? id = some f) (href : L.references f = some r) :
    (reclaimOf output r).Returns r := by
  obtain ⟨hrid, -⟩ := hL.references f r href
  have hid' : output.frameId = r.frameId :=
    hid.trans ((frameIndex?_eq_some.mp hf).trans hrid.symm)
  constructor <;> simp [reclaimOf, reclaimDescriptor, hid']

/-- What a retry writes returns the reference of the frozen frame. -/
theorem Ledger.Books.returns_thawed (hL : L.Books) {o : RouteOutput} (ho : o ∈ L.pending) :
    ∃ f r, L.references f = some r ∧ (thawed o).Returns r := by
  obtain ⟨f, r, hid, href, hof⟩ := hL.frozen o ho
  obtain ⟨hrid, -⟩ := hL.references f r href
  have hid' : o.frameId = r.frameId := hid.trans hrid.symm
  refine ⟨f, r, href, ?_⟩
  constructor <;>
    simp [thawed, reclaimDescriptor, hid', hof.source, hof.target, hof.epoch, hof.flags]

/-- **Every move descends.** -/
theorem Move.descends {e : Event} (h : Move L e L') (hL : L.Books) :
    ∃ taken, Descends L L' taken := by
  cases h with
  | refuse hrx => exact ⟨_, .takeRx hrx rfl fun _ _ h => .inl h⟩
  | duplicate hrx => exact ⟨_, .takeRx hrx rfl fun _ _ h => .inl h⟩
  | @receive i d rest k frame nowMs hrx hgood hf href =>
    refine ⟨_, .takeRx hrx rfl fun g r h => ?_⟩
    by_cases hg : g = k
    · subst hg
      simp only [Function.update_self, Option.some.injEq] at h
      exact .inr ⟨h.symm, hgood⟩
    · exact .inl (by simpa [Function.update_of_ne hg] using h)
  | send nowMs hheld hf href =>
    exact ⟨_, .putTx rfl (fun _ _ h => references_clear h) href (hL.forwards hheld hf href nowMs)⟩
  | reclaim hheld hid hf href =>
    exact ⟨_, .putReclaim rfl (fun _ _ h => references_clear h) href (hL.returns hid hf href)⟩
  | @thaw o rest k hpending hf hroom =>
    obtain ⟨f, r, href, hreturns⟩ := hL.returns_thawed (o := o) (by simp [hpending])
    exact ⟨_, .putReclaim rfl (fun _ _ h => references_clear h) href hreturns⟩
  | lose hrx => exact ⟨_, .takeRx hrx rfl fun _ _ h => .inl h⟩
  | straySend nowMs hheld hf href =>
    exact ⟨_, .putTx rfl (fun _ _ h => h) href (hL.forwards hheld hf href nowMs)⟩
  | strayReclaim hheld hid hf href =>
    exact ⟨_, .putReclaim rfl (fun _ _ h => h) href (hL.returns hid hf href)⟩
  | @strayThaw o rest hpending =>
    obtain ⟨f, r, href, hreturns⟩ := hL.returns_thawed (o := o) (by simp [hpending])
    exact ⟨_, .putReclaim rfl (fun _ _ h => h) href hreturns⟩
  | rearrange => exact ⟨_, .of_eq rfl rfl⟩
  | enter => exact ⟨_, .of_eq rfl rfl⟩
  | retry => exact ⟨_, .of_eq rfl rfl⟩
  | reroute => exact ⟨_, .of_eq rfl rfl⟩
  | freeze => exact ⟨_, .of_eq rfl rfl⟩
  | absorb => exact ⟨_, .of_eq rfl rfl⟩
  | overflow => exact ⟨_, .of_eq rfl rfl⟩
  | orphan => exact ⟨_, .of_eq rfl rfl⟩
  | abandon => exact ⟨_, .of_eq rfl rfl⟩

/-- **Every sequence of moves descends**, faults or not. -/
theorem Moves.descends {es : List Event} (h : Moves L es L') (hL : L.Books) :
    ∃ taken, Descends L L' taken := by
  induction h with
  | refl => exact ⟨_, .refl _⟩
  | snoc hmoves hmove ih =>
    obtain ⟨taken, hdescends⟩ := ih
    obtain ⟨taken', hdescends'⟩ := hmove.descends (hmoves.books hL)
    exact ⟨_, hdescends.trans hdescends'⟩

/-! ## What is written -/

/-- A move appends to a TX ring at most, and what it appends forwards a
reference. -/
theorem Move.writes {e : Event} (h : Move L e L') (hL : L.Books) (j : Fin 6) :
    ∃ new, L'.queues.tx j = L.queues.tx j ++ new ∧
      ∀ d ∈ new, ∃ f r, L.references f = some r ∧ d.Forwards r := by
  have hnone : L'.queues.tx = L.queues.tx → ∃ new, L'.queues.tx j = L.queues.tx j ++ new ∧
      ∀ d ∈ new, ∃ f r, L.references f = some r ∧ d.Forwards r := by
    intro htx
    exact ⟨[], by rw [htx, List.append_nil], by simp⟩
  have hput : ∀ {i : Fin 6} {f : Fin 64} {r d : Descriptor},
      L'.queues.tx = (L.queues.setTx i (L.queues.tx i ++ [d])).tx → L.references f = some r →
      d.Forwards r → ∃ new, L'.queues.tx j = L.queues.tx j ++ new ∧
        ∀ d ∈ new, ∃ f r, L.references f = some r ∧ d.Forwards r := by
    intro i f r d htx href hforwards
    rw [htx, Queues.setTx_tx]
    split
    · next hj =>
      subst hj
      exact ⟨[d], rfl, fun d' hd => ⟨f, r, href, List.mem_singleton.mp hd ▸ hforwards⟩⟩
    · exact ⟨[], (List.append_nil _).symm, by simp⟩
  cases h with
  | send nowMs hheld hf href => exact hput rfl href (hL.forwards hheld hf href nowMs)
  | straySend nowMs hheld hf href => exact hput rfl href (hL.forwards hheld hf href nowMs)
  | _ => exact hnone rfl

/-- **Every sequence of moves appends**, and what it appends forwards what
is known. -/
theorem Moves.writes {es : List Event} (h : Moves L es L') (hL : L.Books) :
    ∃ taken, Descends L L' taken ∧ ∀ j, ∃ new, L'.queues.tx j = L.queues.tx j ++ new ∧
      ∀ d ∈ new, ∃ r, L.Knows taken r ∧ d.Forwards r := by
  induction h with
  | refl => exact ⟨_, .refl _, fun j => ⟨[], (List.append_nil _).symm, by simp⟩⟩
  | snoc hmoves hmove ih =>
    obtain ⟨taken, hdescends, hwrites⟩ := ih
    obtain ⟨taken', hdescends'⟩ := hmove.descends (hmoves.books hL)
    refine ⟨_, hdescends.trans hdescends', fun j => ?_⟩
    obtain ⟨new, htx, hknown⟩ := hwrites j
    obtain ⟨new', htx', hreferenced⟩ := hmove.writes (hmoves.books hL) j
    refine ⟨new ++ new', by rw [htx', htx, List.append_assoc], fun d hd => ?_⟩
    rcases List.mem_append.mp hd with hd | hd
    · obtain ⟨r, hr, hforwards⟩ := hknown d hd
      exact ⟨r, hr.append, hforwards⟩
    · obtain ⟨f, r, href, hforwards⟩ := hreferenced d hd
      exact ⟨r, hdescends.knows (.inl ⟨f, href⟩), hforwards⟩

end Rtos

end PutGateway
