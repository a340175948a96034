import Mathlib.Data.List.Basic
/-!
# Length-framed streams

A stream of symbols whose frames each begin with a field that announces
the frame's length. `cut` says where the frames of a whole stream lie;
`run` hands them to a reader until the reader or a length field fails.
What arrives in pieces is cut as what arrives at once (`run_append`): a
receiver has to remember the incomplete frame at the end and nothing else.
-/

namespace Framing

universe u v w

/-- How a frame announces its length. -/
structure Format (α : Type u) where
  /-- The symbols of the length field. -/
  fieldLength : ℕ
  /-- The length a field announces. -/
  announced : List α → ℕ
  valid : ℕ → Bool
  fieldLength_pos : 0 < fieldLength
  fieldLength_le : ∀ n, valid n = true → fieldLength ≤ n

namespace Format

variable {α : Type u} (F : Format α) {x y p : List α}

/-- The length the first field of a stream announces. -/
def next (stream : List α) : ℕ := F.announced (stream.take F.fieldLength)

/-- The frames of a stream, and what follows the last: the symbols of an
incomplete frame, or nothing where a length field is not valid. -/
def cut (stream : List α) : List (List α) × Option (List α) :=
  if stream.length < F.fieldLength then ([], some stream)
  else if _hvalid : F.valid (F.next stream) = true then
    if stream.length < F.next stream then ([], some stream)
    else
      let rest := cut (stream.drop (F.next stream))
      (stream.take (F.next stream) :: rest.1, rest.2)
  else ([], none)
termination_by stream.length
decreasing_by
  have hle := F.fieldLength_le _ _hvalid
  have hpos := F.fieldLength_pos
  rw [List.length_drop]
  omega

variable {F}

theorem next_append (h : F.fieldLength ≤ x.length) : F.next (x ++ y) = F.next x := by
  rw [next, next, List.take_append_of_le_length h]

theorem cut_of_short (h : x.length < F.fieldLength) : F.cut x = ([], some x) := by
  rw [cut, if_pos h]

theorem cut_of_incomplete (h : F.fieldLength ≤ x.length) (hvalid : F.valid (F.next x) = true)
    (hlen : x.length < F.next x) : F.cut x = ([], some x) := by
  rw [cut, if_neg (by omega), dif_pos hvalid, if_pos hlen]

theorem cut_of_malformed (h : F.fieldLength ≤ x.length) (hvalid : F.valid (F.next x) = false) :
    F.cut x = ([], none) := by
  rw [cut, if_neg (by omega), dif_neg (by simp [hvalid])]

theorem cut_of_complete (h : F.fieldLength ≤ x.length) (hvalid : F.valid (F.next x) = true)
    (hlen : F.next x ≤ x.length) :
    F.cut x = (x.take (F.next x) :: (F.cut (x.drop (F.next x))).1, (F.cut (x.drop (F.next x))).2) := by
  rw [cut, if_neg (by omega), dif_pos hvalid, if_neg (by omega)]

/-- **Cutting goes on from what is left.** -/
theorem cut_append (y : List α) : ∀ x : List α,
    F.cut (x ++ y) =
      match (F.cut x).2 with
      | none => F.cut x
      | some p => ((F.cut x).1 ++ (F.cut (p ++ y)).1, (F.cut (p ++ y)).2) := by
  intro x
  induction hn : x.length using Nat.strongRecOn generalizing x with
  | ind n ih =>
    subst hn
    by_cases hshort : x.length < F.fieldLength
    · rw [cut_of_short hshort]
      simp
    have hfield : F.fieldLength ≤ x.length := by omega
    have hfield' : F.fieldLength ≤ (x ++ y).length := by
      rw [List.length_append]
      omega
    cases hvalid : F.valid (F.next x) with
    | false =>
      rw [cut_of_malformed hfield hvalid,
        cut_of_malformed hfield' (by rw [next_append hfield, hvalid])]
    | true =>
      by_cases hlen : x.length < F.next x
      · rw [cut_of_incomplete hfield hvalid hlen]
        simp
      -- the first frame of `x` is the first of `x ++ y`
      have hpos := F.fieldLength_pos
      have hle := F.fieldLength_le _ hvalid
      have hrest := ih (x.drop (F.next x)).length (by rw [List.length_drop]; omega) _ rfl
      have hnext : F.next (x ++ y) = F.next x := next_append hfield
      rw [cut_of_complete hfield' (by rw [hnext, hvalid])
          (by rw [hnext, List.length_append]; omega),
        cut_of_complete hfield hvalid (by omega), hnext, List.take_append_of_le_length (by omega),
        List.drop_append_of_le_length (by omega), hrest]
      cases hcut : (F.cut (x.drop (F.next x))).2 with
      | none => simp [hcut]
      | some p => simp

/-- A stream is its frames and what is left of it. -/
theorem flatten_cut : ∀ x : List α, (F.cut x).2 = some p → (F.cut x).1.flatten ++ p = x := by
  intro x
  induction hn : x.length using Nat.strongRecOn generalizing x with
  | ind n ih =>
    subst hn
    intro hp
    by_cases hshort : x.length < F.fieldLength
    · rw [cut_of_short hshort] at hp ⊢
      simpa using hp.symm
    have hfield : F.fieldLength ≤ x.length := by omega
    cases hvalid : F.valid (F.next x) with
    | false =>
      rw [cut_of_malformed hfield hvalid] at hp
      cases hp
    | true =>
      by_cases hlen : x.length < F.next x
      · rw [cut_of_incomplete hfield hvalid hlen] at hp ⊢
        simpa using hp.symm
      have hpos := F.fieldLength_pos
      have hle := F.fieldLength_le _ hvalid
      rw [cut_of_complete hfield hvalid (by omega)] at hp ⊢
      rw [List.flatten_cons, List.append_assoc,
        ih (x.drop (F.next x)).length (by rw [List.length_drop]; omega) _ rfl hp,
        List.take_append_drop]

/-- A frame has the length its own field announces. -/
theorem length_of_mem_cut {f : List α} : ∀ x : List α, f ∈ (F.cut x).1 →
    F.valid (F.next f) = true ∧ f.length = F.next f := by
  intro x
  induction hn : x.length using Nat.strongRecOn generalizing x with
  | ind n ih =>
    subst hn
    intro hf
    by_cases hshort : x.length < F.fieldLength
    · simp [cut_of_short hshort] at hf
    have hfield : F.fieldLength ≤ x.length := by omega
    cases hvalid : F.valid (F.next x) with
    | false => simp [cut_of_malformed hfield hvalid] at hf
    | true =>
      by_cases hlen : x.length < F.next x
      · simp [cut_of_incomplete hfield hvalid hlen] at hf
      have hpos := F.fieldLength_pos
      have hle := F.fieldLength_le _ hvalid
      rw [cut_of_complete hfield hvalid (by omega)] at hf
      rcases List.mem_cons.mp hf with rfl | hf
      · -- the first frame starts with the field of `x`
        have htake : (x.take (F.next x)).length = F.next x := by
          rw [List.length_take]
          omega
        have hnext : F.next (x.take (F.next x)) = F.next x := by
          rw [next, List.take_take, Nat.min_eq_left hle]
          rfl
        rw [hnext]
        exact ⟨hvalid, htake⟩
      · exact ih (x.drop (F.next x)).length (by rw [List.length_drop]; omega) _ rfl hf

end Format

/-! ## Reading the frames -/

variable {α : Type u} {σ : Type v} {E : Type w} [DecidableEq E]

/-- Hand frames to a reader, up to the first it fails on. -/
def serve (ok : E) (handle : σ → List α → E × σ) : σ → List (List α) → E × σ × List (List α)
  | st, [] => (ok, st, [])
  | st, f :: fs =>
    let r := handle st f
    if r.1 = ok then
      let t := serve ok handle r.2 fs
      (t.1, t.2.1, f :: t.2.2)
    else (r.1, r.2, [f])

/-- What comes of a stream: the result, the reader's state, the frames
handed over, and what is kept of an incomplete frame. -/
structure Outcome (α : Type u) (σ : Type v) (E : Type w) where
  result : E
  state : σ
  handed : List (List α)
  pending : List α

/-- A reader, and what it does about a bad length field. -/
structure Reader (α : Type u) (σ : Type v) (E : Type w) where
  ok : E
  malformed : E
  handle : σ → List α → E × σ
  onMalformed : σ → σ
  malformed_ne : malformed ≠ ok

namespace Reader

variable (F : Format α) (H : Reader α σ E) {st : σ} {x y : List α}

/-- **Reading a whole stream.** The reference a receiver of pieces is
measured against. -/
def run (st : σ) (stream : List α) : Outcome α σ E :=
  let c := F.cut stream
  let r := serve H.ok H.handle st c.1
  if r.1 ≠ H.ok then ⟨r.1, r.2.1, r.2.2, []⟩
  else match c.2 with
    | none => ⟨H.malformed, H.onMalformed r.2.1, r.2.2, []⟩
    | some pending => ⟨r.1, r.2.1, r.2.2, pending⟩

end Reader

/-- Frames handed over before. -/
def Outcome.after (o : Outcome α σ E) (handed : List (List α)) : Outcome α σ E :=
  { o with handed := handed ++ o.handed }

section Serve

variable {ok : E} {handle : σ → List α → E × σ} {st : σ} {fs gs : List (List α)}

theorem serve_append_of_ok (h : (serve ok handle st fs).1 = ok) :
    serve ok handle st (fs ++ gs) =
      let t := serve ok handle (serve ok handle st fs).2.1 gs
      (t.1, t.2.1, (serve ok handle st fs).2.2 ++ t.2.2) := by
  induction fs generalizing st with
  | nil => rfl
  | cons f fs ih =>
    by_cases hf : (handle st f).1 = ok
    · simp only [serve, hf, if_true] at h
      simp only [List.cons_append, serve, hf, if_true, ih h]
    · simp [serve, hf] at h

theorem serve_append_of_ne (h : (serve ok handle st fs).1 ≠ ok) :
    serve ok handle st (fs ++ gs) = serve ok handle st fs := by
  induction fs generalizing st with
  | nil => exact absurd rfl h
  | cons f fs ih =>
    by_cases hf : (handle st f).1 = ok
    · simp only [serve, hf, if_true] at h
      simp only [List.cons_append, serve, hf, if_true, ih h]
    · simp only [List.cons_append, serve, hf, if_false]

/-- What is handed over is where the frames start. -/
theorem serve_handed_prefix : (serve ok handle st fs).2.2 <+: fs := by
  induction fs generalizing st with
  | nil => exact List.prefix_rfl
  | cons f fs ih =>
    by_cases hf : (handle st f).1 = ok
    · simp only [serve, hf, if_true]
      exact (List.prefix_cons_inj f).mpr ih
    · simp only [serve, hf, if_false]
      exact (List.prefix_cons_inj f).mpr (List.nil_prefix ..)

/-- A reader that does not fail is handed every frame. -/
theorem serve_handed_of_ok (h : (serve ok handle st fs).1 = ok) : (serve ok handle st fs).2.2 = fs := by
  induction fs generalizing st with
  | nil => rfl
  | cons f fs ih =>
    by_cases hf : (handle st f).1 = ok
    · simp only [serve, hf, if_true] at h ⊢
      rw [ih h]
    · simp [serve, hf] at h

end Serve

namespace Reader

variable {F : Format α} {H : Reader α σ E} {st : σ} {x y : List α}

/-- **A stream in two pieces**: after the first has been read without a
failure, the second is read behind what was kept. -/
theorem run_append_of_ok (h : (H.run F st x).result = H.ok) :
    H.run F st (x ++ y) =
      (H.run F (H.run F st x).state ((H.run F st x).pending ++ y)).after (H.run F st x).handed := by
  by_cases hserve : (serve H.ok H.handle st (F.cut x).1).1 = H.ok
  swap
  · -- the reader has failed
    simp only [run, hserve, ne_eq, not_false_eq_true, if_true] at h
  cases hcut : (F.cut x).2 with
  | none =>
    simp only [run, hserve, hcut, ne_eq, not_true, if_false] at h
    exact absurd h H.malformed_ne
  | some p =>
    have hx : H.run F st x = ⟨(serve H.ok H.handle st (F.cut x).1).1,
        (serve H.ok H.handle st (F.cut x).1).2.1, (serve H.ok H.handle st (F.cut x).1).2.2, p⟩ := by
      simp only [run, hserve, hcut, ne_eq, not_true, if_false]
    rw [hx]
    have happend := Format.cut_append (F := F) y x
    simp only [hcut] at happend
    simp only [run, happend, serve_append_of_ok hserve]
    split
    · rfl
    · cases (F.cut (p ++ y)).2 <;> rfl

/-- After a failure nothing more is read. -/
theorem run_append_of_ne (h : (H.run F st x).result ≠ H.ok) :
    H.run F st (x ++ y) = H.run F st x := by
  have happend := Format.cut_append (F := F) y x
  by_cases hserve : (serve H.ok H.handle st (F.cut x).1).1 = H.ok
  · cases hcut : (F.cut x).2 with
    | none =>
      simp only [hcut] at happend
      simp only [run, happend]
    | some p =>
      simp only [run, hserve, hcut, ne_eq, not_true, if_false] at h
  · cases hcut : (F.cut x).2 with
    | none =>
      simp only [hcut] at happend
      simp only [run, happend]
    | some p =>
      simp only [hcut] at happend
      have hne : serve H.ok H.handle st ((F.cut x).1 ++ (F.cut (p ++ y)).1) = _ :=
        serve_append_of_ne hserve
      simp only [run, happend, hne, hserve, ne_eq, not_false_eq_true, if_true]

/-- An incomplete frame is kept. -/
theorem run_of_cut_nil {p : List α} (h : F.cut x = ([], some p)) :
    H.run F st x = ⟨H.ok, st, [], p⟩ := by
  simp [run, h, serve]

theorem run_of_malformed (h : F.cut x = ([], none)) :
    H.run F st x = ⟨H.malformed, H.onMalformed st, [], []⟩ := by
  simp [run, h, serve]

/-- **The first frame of a stream is handed over first.** -/
theorem run_of_complete (h : F.fieldLength ≤ x.length) (hvalid : F.valid (F.next x) = true)
    (hlen : F.next x ≤ x.length) :
    H.run F st x =
      if (H.handle st (x.take (F.next x))).1 = H.ok then
        (H.run F (H.handle st (x.take (F.next x))).2 (x.drop (F.next x))).after [x.take (F.next x)]
      else ⟨(H.handle st (x.take (F.next x))).1, (H.handle st (x.take (F.next x))).2,
        [x.take (F.next x)], []⟩ := by
  have hcut := Format.cut_of_complete h hvalid hlen
  by_cases hok : (H.handle st (x.take (F.next x))).1 = H.ok
  · simp only [run, hcut, serve, hok, if_true]
    split
    · rfl
    · cases (F.cut (x.drop (F.next x))).2 <;> rfl
  · simp [run, hcut, serve, hok]

/-- Only frames of the stream are handed over, from the first on. -/
theorem run_handed_prefix : (H.run F st x).handed <+: (F.cut x).1 := by
  have hprefix : (serve H.ok H.handle st (F.cut x).1).2.2 <+: (F.cut x).1 := serve_handed_prefix
  simp only [run]
  split
  · exact hprefix
  · cases (F.cut x).2 <;> exact hprefix

/-- Of a stream that is read without a failure nothing is lost. -/
theorem flatten_run (h : (H.run F st x).result = H.ok) :
    (H.run F st x).handed.flatten ++ (H.run F st x).pending = x := by
  by_cases hserve : (serve H.ok H.handle st (F.cut x).1).1 = H.ok
  swap
  · simp only [run, hserve, ne_eq, not_false_eq_true, if_true] at h
  cases hcut : (F.cut x).2 with
  | none =>
    simp only [run, hserve, hcut, ne_eq, not_true, if_false] at h
    exact absurd h H.malformed_ne
  | some p =>
    simp only [run, hserve, hcut, ne_eq, not_true, if_false, serve_handed_of_ok hserve]
    exact Format.flatten_cut x hcut

/-! ## Watching a reader -/

/-- A reader that keeps the frames it is handed. -/
def logged (H : Reader α σ E) : Reader α (σ × List (List α)) E where
  ok := H.ok
  malformed := H.malformed
  handle s f := ((H.handle s.1 f).1, ((H.handle s.1 f).2, s.2 ++ [f]))
  onMalformed s := (H.onMalformed s.1, s.2)
  malformed_ne := H.malformed_ne

theorem serve_logged (fs : List (List α)) : ∀ (st : σ) (log : List (List α)),
    serve H.ok H.logged.handle (st, log) fs =
      let t := serve H.ok H.handle st fs
      (t.1, (t.2.1, log ++ t.2.2), t.2.2) := by
  induction fs with
  | nil => simp [serve]
  | cons f fs ih =>
    intro st log
    by_cases hok : (H.handle st f).1 = H.ok
    · have hok' : (H.logged.handle (st, log) f).1 = H.ok := hok
      have hnext : (H.logged.handle (st, log) f).2 = ((H.handle st f).2, log ++ [f]) := rfl
      simp only [serve, hok, hok', hnext, if_true, ih]
      simp
    · have hok' : (H.logged.handle (st, log) f).1 ≠ H.ok := hok
      simp only [serve, hok, hok', if_false]
      rfl

/-- The log is what was handed over. -/
theorem run_logged (log : List (List α)) :
    H.logged.run F (st, log) x =
      ⟨(H.run F st x).result, ((H.run F st x).state, log ++ (H.run F st x).handed),
        (H.run F st x).handed, (H.run F st x).pending⟩ := by
  have hserve := serve_logged (H := H) (F.cut x).1 st log
  have hlogged : H.logged.ok = H.ok := rfl
  by_cases hok : (serve H.ok H.handle st (F.cut x).1).1 = H.ok
  · cases hcut : (F.cut x).2 with
    | none =>
      simp only [run, hserve, hlogged, hok, hcut, ne_eq, not_true, if_false]
      rfl
    | some p => simp only [run, hserve, hlogged, hok, hcut, ne_eq, not_true, if_false]
  · simp only [run, hserve, hlogged, hok, ne_eq, not_false_eq_true, if_true]

end Reader

end Framing
