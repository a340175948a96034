import Mathlib.Data.List.Basic
/-!
# Lines read in chunks

A reader takes at most `cap` elements of a stream at a time and stops early
behind a separator, as `fgets` does. What lies between two separators is a
line, and a line that is longer than `cap` is read in several chunks.

A consumer that takes an empty chunk, and a separator at the end of a
chunk, for nothing reads a stream line by line, each line chunk by chunk
(`foldlM_chunks`), so a line that fits into one chunk is read as a line.
-/

namespace LineChunks

universe u v

variable {α : Type*} [DecidableEq α] {sep : α} {cap : ℕ} {xs l r : List α}

/-- One chunk of at most `room` elements, and the rest of the stream. -/
def read (sep : α) : ℕ → List α → List α × List α
  | 0, xs => ([], xs)
  | _ + 1, [] => ([], [])
  | room + 1, x :: xs =>
    if x = sep then ([x], xs) else (x :: (read sep room xs).1, (read sep room xs).2)

/-- The first chunks of a stream. -/
def chunksFrom (sep : α) (cap : ℕ) : ℕ → List α → List (List α)
  | 0, _ => []
  | _ + 1, [] => []
  | k + 1, x :: xs =>
    (read sep cap (x :: xs)).1 :: chunksFrom sep cap k (read sep cap (x :: xs)).2

/-- All chunks of a stream: a chunk has an element at least. -/
def chunks (sep : α) (cap : ℕ) (xs : List α) : List (List α) := chunksFrom sep cap xs.length xs

/-! ## One chunk -/

theorem read_append (sep : α) (room : ℕ) (xs : List α) :
    (read sep room xs).1 ++ (read sep room xs).2 = xs := by
  induction room generalizing xs with
  | zero => rfl
  | succ room ih =>
    cases xs with
    | nil => rfl
    | cons x xs =>
      rw [read]
      split
      · rfl
      · rw [List.cons_append, ih xs]

theorem length_read_lt (hcap : 0 < cap) (hxs : xs ≠ []) :
    (read sep cap xs).2.length < xs.length := by
  obtain ⟨room, rfl⟩ : ∃ room, cap = room + 1 := ⟨cap - 1, by omega⟩
  cases xs with
  | nil => exact absurd rfl hxs
  | cons x xs =>
    rw [read]
    split
    · exact Nat.lt_succ_self _
    · have hrest := congrArg List.length (read_append sep room xs)
      rw [List.length_append] at hrest
      show (read sep room xs).2.length < xs.length + 1
      omega

/-- A chunk of a stream whose first separator lies beyond it. -/
theorem read_of_notMem (hl : sep ∉ l) (hroom : cap ≤ l.length) :
    read sep cap (l ++ r) = (l.take cap, l.drop cap ++ r) := by
  induction cap generalizing l with
  | zero => simp [read]
  | succ room ih =>
    cases l with
    | nil => exact absurd hroom (by simp)
    | cons x l =>
      rw [List.mem_cons, not_or] at hl
      rw [List.cons_append, read, if_neg (Ne.symm hl.1), ih hl.2 (by simpa using hroom)]
      rfl

/-- A chunk that a separator ends. -/
theorem read_sep (hl : sep ∉ l) (hroom : l.length < cap) :
    read sep cap (l ++ sep :: r) = (l ++ [sep], r) := by
  induction cap generalizing l with
  | zero => exact absurd hroom (Nat.not_lt_zero _)
  | succ room ih =>
    cases l with
    | nil => rw [List.nil_append, read, if_pos rfl]; rfl
    | cons x l =>
      rw [List.mem_cons, not_or] at hl
      rw [List.cons_append, read, if_neg (Ne.symm hl.1), ih hl.2 (by simpa using hroom)]
      rfl

/-- A chunk that the end of the stream ends. -/
theorem read_end (hl : sep ∉ l) (hroom : l.length ≤ cap) : read sep cap l = (l, []) := by
  induction cap generalizing l with
  | zero =>
    rw [List.eq_nil_of_length_eq_zero (by omega : l.length = 0)]
    rfl
  | succ room ih =>
    cases l with
    | nil => rfl
    | cons x l =>
      rw [List.mem_cons, not_or] at hl
      rw [read, if_neg (Ne.symm hl.1), ih hl.2 (by simpa using hroom)]

/-! ## All chunks -/

@[simp] theorem chunks_nil : chunks sep cap [] = [] := rfl

/-- The length of the stream is enough, whatever it is. -/
theorem chunksFrom_eq_chunks (hcap : 0 < cap) (k : ℕ) :
    ∀ {xs : List α}, xs.length ≤ k → chunksFrom sep cap k xs = chunks sep cap xs := by
  induction k using Nat.strongRecOn with
  | ind k ih =>
    intro xs hk
    cases xs with
    | nil => cases k <;> rfl
    | cons x xs =>
      obtain ⟨k, rfl⟩ : ∃ j, k = j + 1 := ⟨k - 1, by simp at hk; omega⟩
      have hlt := @length_read_lt _ _ sep cap (x :: xs) hcap (List.cons_ne_nil x xs)
      rw [List.length_cons] at hk hlt
      rw [chunks, List.length_cons, chunksFrom, chunksFrom, ih k (Nat.lt_succ_self k) (by omega)]
      rcases Nat.lt_or_ge xs.length k with hless | hge
      · rw [ih xs.length (by omega) (by omega)]
      · rw [show xs.length = k by omega, ih k (Nat.lt_succ_self k) (by omega)]

theorem chunks_of_ne_nil (hcap : 0 < cap) (hxs : xs ≠ []) :
    chunks sep cap xs = (read sep cap xs).1 :: chunks sep cap (read sep cap xs).2 := by
  have hlt := @length_read_lt _ _ sep cap xs hcap hxs
  cases xs with
  | nil => exact absurd rfl hxs
  | cons x xs =>
    rw [List.length_cons] at hlt
    rw [chunks, List.length_cons, chunksFrom, chunksFrom_eq_chunks hcap _ (by omega)]

/-- A line that fits is one chunk. -/
theorem chunks_of_fits (hcap : 0 < cap) (hl : sep ∉ l) (hfits : l.length ≤ cap) (hne : l ≠ []) :
    chunks sep cap l = [l] := by
  rw [chunks_of_ne_nil hcap hne, read_end hl hfits, chunks_nil]

/-! ## Lines -/

/-- A line has no separator in it. -/
theorem notMem_of_mem_splitOn (xs : List α) : ∀ l ∈ xs.splitOn sep, sep ∉ l := by
  induction xs with
  | nil =>
    intro l hl
    rw [List.splitOn_nil, List.mem_singleton] at hl
    rw [hl]
    exact List.not_mem_nil
  | cons x xs ih =>
    intro l hl
    rw [List.splitOn_cons_eq_if_modifyHead] at hl
    split at hl
    · rcases List.mem_cons.mp hl with rfl | hl
      · exact List.not_mem_nil
      · exact ih l hl
    · next hx =>
      cases hlines : xs.splitOn sep with
      | nil =>
        rw [hlines] at hl
        cases hl
      | cons first lines =>
        rw [hlines] at hl ih
        rcases List.mem_cons.mp hl with rfl | hl
        · rw [List.mem_cons, not_or]
          exact ⟨fun hsep => hx (by rw [hsep]; exact beq_self_eq_true x), ih first (by simp)⟩
        · exact ih l (List.mem_cons_of_mem _ hl)

/-! ## Consuming the chunks -/

section Consume

variable {m : Type u → Type v} [Monad m] [LawfulMonad m] {σ : Type u}
  {step : σ → List α → m σ}

/-- A consumer that takes no notice of separators and of empty chunks. -/
structure Ignores (sep : α) (step : σ → List α → m σ) : Prop where
  nil : ∀ s, step s [] = pure s
  separator : ∀ s c, step s (c ++ [sep]) = step s c

/-- Consume a line chunk by chunk. -/
def consumeLine (sep : α) (cap : ℕ) (step : σ → List α → m σ) (s : σ) (l : List α) : m σ :=
  (chunks sep cap l).foldlM step s

/-- **A line that fits is consumed as one chunk.** -/
theorem consumeLine_of_fits (h : Ignores sep step) (hcap : 0 < cap) (hl : sep ∉ l)
    (hfits : l.length ≤ cap) (s : σ) : consumeLine sep cap step s l = step s l := by
  by_cases hne : l = []
  · subst hne
    rw [h.nil]
    rfl
  · rw [consumeLine, chunks_of_fits hcap hl hfits hne, List.foldlM_cons]
    simp

/-- The separator behind a line begins the next one. -/
theorem foldlM_chunks_sep (h : Ignores sep step) (hcap : 0 < cap) (r : List α) (k : ℕ) :
    ∀ {l : List α}, l.length ≤ k → sep ∉ l → ∀ s,
      (chunks sep cap (l ++ sep :: r)).foldlM step s =
        consumeLine sep cap step s l >>= (chunks sep cap r).foldlM step := by
  induction k with
  | zero =>
    intro l hk hl s
    have hnil : l = [] := List.eq_nil_of_length_eq_zero (by omega)
    subst hnil
    rw [chunks_of_ne_nil hcap (by simp), read_sep hl (by simpa using hcap), List.foldlM_cons,
      h.separator, consumeLine_of_fits h hcap hl (Nat.zero_le cap)]
  | succ k ih =>
    intro l hk hl s
    rw [chunks_of_ne_nil hcap (by simp)]
    rcases Nat.lt_or_ge l.length cap with hlt | hge
    · rw [read_sep hl hlt, List.foldlM_cons, h.separator,
        consumeLine_of_fits h hcap hl (by omega)]
    · -- the line goes on behind the chunk
      have hne : l ≠ [] := by
        rintro rfl
        simp at hge
        omega
      have hmore : (l.drop cap).length ≤ k := by
        rw [List.length_drop]
        omega
      have hread : read sep cap l = (l.take cap, l.drop cap) := by
        have happend := @read_of_notMem _ _ sep cap l [] hl hge
        rwa [List.append_nil, List.append_nil] at happend
      rw [read_of_notMem hl hge, List.foldlM_cons, consumeLine, chunks_of_ne_nil hcap hne, hread,
        List.foldlM_cons, bind_assoc]
      refine bind_congr fun s' => ?_
      exact ih hmore (fun hmem => hl (List.mem_of_mem_drop hmem)) s'

/-- **A stream is consumed line by line.** -/
theorem foldlM_chunks (h : Ignores sep step) (hcap : 0 < cap) (k : ℕ) :
    ∀ {xs : List α}, xs.length ≤ k → ∀ s,
      (chunks sep cap xs).foldlM step s =
        (xs.splitOn sep).foldlM (consumeLine sep cap step) s := by
  induction k with
  | zero =>
    intro xs hk s
    have hnil : xs = [] := List.eq_nil_of_length_eq_zero (by omega)
    subst hnil
    rw [List.splitOn_nil, List.foldlM_cons]
    simp [consumeLine]
  | succ k ih =>
    intro xs hk s
    by_cases hmem : sep ∈ xs
    · obtain ⟨l, r, rfl, hl⟩ := List.eq_append_cons_of_mem hmem
      rw [foldlM_chunks_sep h hcap r _ (Nat.le_refl _) hl, List.splitOn_append_cons_self_of_not_mem hl,
        List.foldlM_cons]
      refine bind_congr fun s' => ih ?_ s'
      rw [List.length_append, List.length_cons] at hk
      omega
    · rw [List.splitOn_eq_singleton hmem, List.foldlM_cons]
      simp [consumeLine]

end Consume

end LineChunks
