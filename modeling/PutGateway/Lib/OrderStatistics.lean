import Mathlib.Algebra.Order.Floor.Div
import Mathlib.Data.List.Sort
/-!
# Order statistics

The nearest-rank percentile of a list of samples, and the in-place
insertion sort that finds it.

The rank of the percentile `P` among `n` samples is `⌈P n / 100⌉`, and the
percentile is the sample of that rank: at least so many samples are not
above it, and fewer are below it. This does not speak of any order the
samples are in; in a sorted list it is the entry of the rank
(`isNearestRank_sorted`).

The sort works on an array, a function of its slots here. Each turn takes
the item of the next slot, moves the greater items before it up by one,
and puts it into the slot that has become free.
-/

namespace OrderStatistics

variable {α : Type*}

/-- The items of the first `n` slots. -/
def upTo (n : ℕ) (a : ℕ → α) : List α := (List.range n).map a

theorem upTo_succ (n : ℕ) (a : ℕ → α) : upTo (n + 1) a = upTo n a ++ [a n] := by
  rw [upTo, List.range_succ, List.map_append, List.map_singleton, upTo]

variable [LE α] [LT α] [DecidableLT α]

/-! ## Nearest ranks -/

section NearestRank

variable [DecidableLE α]

/-- The rank of a percentile among `n` samples. -/
def rank (percent n : ℕ) : ℕ := (percent * n) ⌈/⌉ 100

/-- The sample of the rank of a percentile. -/
structure IsNearestRank (percent : ℕ) (samples : List α) (v : α) : Prop where
  mem : v ∈ samples
  reached : rank percent samples.length ≤ samples.countP (· ≤ v)
  below : samples.countP (· < v) < rank percent samples.length

theorem rank_mono {p q : ℕ} (h : p ≤ q) (n : ℕ) : rank p n ≤ rank q n := by
  unfold rank
  rw [Nat.ceilDiv_eq_add_pred_div, Nat.ceilDiv_eq_add_pred_div]
  have hmul := Nat.mul_le_mul_right n h
  exact Nat.div_le_div_right (by omega)

theorem rank_pos {percent n : ℕ} (hp : 0 < percent) (hn : 0 < n) : 0 < rank percent n := by
  unfold rank
  rw [Nat.ceilDiv_eq_add_pred_div]
  have hmul := Nat.mul_pos hp hn
  exact Nat.div_pos (by omega) (by omega)

theorem rank_le {percent : ℕ} (hp : percent ≤ 100) (n : ℕ) : rank percent n ≤ n := by
  unfold rank
  rw [Nat.ceilDiv_eq_add_pred_div]
  have hmul := Nat.mul_le_mul_right n hp
  have hlt : percent * n + 100 - 1 < (n + 1) * 100 := by omega
  exact Nat.le_of_lt_succ ((Nat.div_lt_iff_lt_mul (by omega)).mpr hlt)

variable {percent p q i : ℕ} {samples samples' : List α} {v w : α}

theorem IsNearestRank.perm (hv : IsNearestRank percent samples v) (h : samples.Perm samples') :
    IsNearestRank percent samples' v where
  mem := h.mem_iff.mp hv.mem
  reached := by
    rw [← h.length_eq, ← h.countP_eq]
    exact hv.reached
  below := by
    rw [← h.length_eq, ← h.countP_eq]
    exact hv.below

variable [Std.IsLinearOrder α] [Std.LawfulOrderLT α]

/-- **A higher percentile is no smaller**, so a percentile has one value. -/
theorem IsNearestRank.mono (hv : IsNearestRank p samples v) (hw : IsNearestRank q samples w)
    (h : p ≤ q) : v ≤ w := by
  rw [← Std.not_lt]
  intro hlt
  -- whatever is not above `w` is below `v`
  have hcount : samples.countP (· ≤ w) ≤ samples.countP (· < v) := by
    refine List.countP_mono_left fun x _ hx => ?_
    rw [decide_eq_true_iff] at hx ⊢
    exact Std.lt_of_le_of_lt hx hlt
  have hrank := rank_mono h samples.length
  have hreached := hw.reached
  have hbelow := hv.below
  omega

omit [LT α] [DecidableLT α] [Std.LawfulOrderLT α] in
/-- The entries of a sorted list before a place are not above its entry. -/
theorem lt_countP_le (hs : samples.Pairwise (· ≤ ·)) (hi : i < samples.length) :
    i < samples.countP (· ≤ samples[i]) := by
  have hall : (samples.take (i + 1)).countP (· ≤ samples[i]) = i + 1 := by
    have hlen : (samples.take (i + 1)).length = i + 1 := by
      rw [List.length_take]
      omega
    refine (List.countP_eq_length.mpr ?_).trans hlen
    intro x hx
    obtain ⟨j, hj, rfl⟩ := List.mem_take_iff_getElem.mp hx
    rw [decide_eq_true_iff]
    rcases Nat.lt_or_ge j i with hlt | hge
    · exact List.pairwise_iff_getElem.mp hs j i (by omega) hi hlt
    · obtain rfl : j = i := by omega
      exact Std.le_refl _
  have hsub := (List.take_sublist (i + 1) samples).countP_le (p := (· ≤ samples[i]))
  omega

omit [DecidableLE α] in
/-- Nothing in a sorted list from a place on is below its entry. -/
theorem countP_lt_le (hs : samples.Pairwise (· ≤ ·)) (hi : i < samples.length) :
    samples.countP (· < samples[i]) ≤ i := by
  have hnone : (samples.drop i).countP (· < samples[i]) = 0 := by
    rw [List.countP_eq_zero]
    intro x hx
    obtain ⟨j, hj, rfl⟩ := List.mem_drop_iff_getElem.mp hx
    rw [decide_eq_true_iff, Std.not_lt]
    rcases Nat.eq_zero_or_pos j with rfl | hpos
    · exact Std.le_refl _
    · exact List.pairwise_iff_getElem.mp hs i (i + j) hi (by omega) (by omega)
  have hsplit : samples.countP (· < samples[i]) =
      (samples.take i).countP (· < samples[i]) + (samples.drop i).countP (· < samples[i]) := by
    rw [← List.countP_append, List.take_append_drop]
  have htake := (samples.take i).countP_le_length (p := (· < samples[i]))
  rw [List.length_take] at htake
  omega

/-- **In a sorted list the percentile is the entry of its rank.** -/
theorem isNearestRank_sorted (hs : samples.Pairwise (· ≤ ·)) (hi : i < samples.length)
    (hrank : i + 1 = rank percent samples.length) :
    IsNearestRank percent samples samples[i] where
  mem := List.getElem_mem hi
  reached := by
    rw [← hrank]
    exact lt_countP_le hs hi
  below := by
    rw [← hrank]
    exact Nat.lt_succ_of_le (countP_lt_le hs hi)

end NearestRank

/-! ## Insertion sort in place -/

/-- The inner loop: from a free slot down, items greater than a value move
up by one. Gives the slot that is free at the end. -/
def shift (value : α) : ℕ → (ℕ → α) → ℕ × (ℕ → α)
  | 0, a => (0, a)
  | j + 1, a =>
    if value < a j then shift value j (Function.update a (j + 1) (a j)) else (j + 1, a)

/-- A turn of the outer loop: the item of a slot goes to its place among
those before it. -/
def insertAt (i : ℕ) (a : ℕ → α) : ℕ → α :=
  let r := shift (a i) i a
  Function.update r.2 r.1 (a i)

/-- The outer loop over the first `n` slots. -/
def sortInPlace : ℕ → (ℕ → α) → ℕ → α
  | 0, a => a
  | 1, a => a
  | n + 2, a => insertAt (n + 1) (sortInPlace (n + 1) a)

/-- What the inner loop leaves: the items from the free slot on have moved
up, and they are those greater than the value. -/
structure Shifted (value : α) (j : ℕ) (a : ℕ → α) (r : ℕ × (ℕ → α)) : Prop where
  le : r.1 ≤ j
  kept : ∀ k < r.1, r.2 k = a k
  moved : ∀ k, r.1 ≤ k → k < j → r.2 (k + 1) = a k
  beyond : ∀ k, j < k → r.2 k = a k
  greater : ∀ k, r.1 ≤ k → k < j → value < a k
  stopped : ∀ k, r.1 = k + 1 → a k ≤ value

variable [Std.IsLinearOrder α] [Std.LawfulOrderLT α]

theorem shifted (value : α) (j : ℕ) (a : ℕ → α) : Shifted value j a (shift value j a) := by
  induction j generalizing a with
  | zero => exact ⟨le_rfl, fun _ _ => rfl, by intros; omega, fun _ _ => rfl, by intros; omega,
    by simp [shift]⟩
  | succ j ih =>
    rw [shift]
    split
    · next hlt =>
      have hother : ∀ k, k ≠ j + 1 → Function.update a (j + 1) (a j) k = a k := fun k hk =>
        Function.update_of_ne hk _ _
      have h := ih (Function.update a (j + 1) (a j))
      have hle := h.le
      refine ⟨by omega, fun k hk => ?_, fun k hk hkj => ?_, fun k hk => ?_, fun k hk hkj => ?_,
        fun k hk => ?_⟩
      · rw [h.kept k hk, hother k (by omega)]
      · rcases Nat.lt_or_ge k j with hlow | htop
        · rw [h.moved k hk hlow, hother k (by omega)]
        · obtain rfl : k = j := by omega
          rw [h.beyond (k + 1) (by omega), Function.update_self]
      · rw [h.beyond k (by omega), hother k (by omega)]
      · rcases Nat.lt_or_ge k j with hlow | htop
        · have hgreater := h.greater k hk hlow
          rwa [hother k (by omega)] at hgreater
        · obtain rfl : k = j := by omega
          exact hlt
      · have hstopped := h.stopped k hk
        rwa [hother k (by omega)] at hstopped
    · next hge =>
      refine ⟨le_rfl, fun _ _ => rfl, by intros; omega, fun _ _ => rfl, by intros; omega, ?_⟩
      intro k hk
      obtain rfl : k = j := by omega
      exact Std.not_lt.mp hge

/-- The first `n` slots are sorted. -/
def SortedTo (n : ℕ) (a : ℕ → α) : Prop := ∀ x y, x < y → y < n → a x ≤ a y

variable {n : ℕ} {a : ℕ → α}

/-- A turn makes the sorted part one slot longer. -/
theorem SortedTo.insertAt (h : SortedTo n a) : SortedTo (n + 1) (insertAt n a) := by
  have hs := shifted (a n) n a
  unfold OrderStatistics.insertAt
  generalize shift (a n) n a = r at hs
  have hle := hs.le
  simp only
  -- where the items of the first slots are now
  have hfree : Function.update r.2 r.1 (a n) r.1 = a n := Function.update_self ..
  have hlow : ∀ k < r.1, Function.update r.2 r.1 (a n) k = a k := fun k hk => by
    rw [Function.update_of_ne (by omega), hs.kept k hk]
  have hhigh : ∀ k, r.1 ≤ k → k < n → Function.update r.2 r.1 (a n) (k + 1) = a k :=
    fun k hk hkn => by rw [Function.update_of_ne (by omega), hs.moved k hk hkn]
  have hbefore : ∀ k < r.1, a k ≤ a n := fun k hk => by
    obtain ⟨j, hj⟩ : ∃ j, r.1 = j + 1 := ⟨r.1 - 1, by omega⟩
    rcases Nat.lt_or_ge k j with hlt | hge
    · exact Std.le_trans (h k j hlt (by omega)) (hs.stopped j hj)
    · obtain rfl : k = j := by omega
      exact hs.stopped k hj
  have hafter : ∀ k, r.1 ≤ k → k < n → a n ≤ a k := fun k hk hkn =>
    Std.le_of_lt (hs.greater k hk hkn)
  intro x y hxy hy
  rcases Nat.lt_trichotomy y r.1 with hylow | hyfree | hyhigh
  · rw [hlow x (by omega), hlow y hylow]
    exact h x y hxy (by omega)
  · rw [hlow x (by omega), hyfree, hfree]
    exact hbefore x (by omega)
  · obtain ⟨k, rfl⟩ : ∃ k, y = k + 1 := ⟨y - 1, by omega⟩
    rw [hhigh k (by omega) (by omega)]
    rcases Nat.lt_trichotomy x r.1 with hxlow | hxfree | hxhigh
    · rw [hlow x hxlow]
      exact Std.le_trans (hbefore x hxlow) (hafter k (by omega) (by omega))
    · rw [hxfree, hfree]
      exact hafter k (by omega) (by omega)
    · obtain ⟨j, rfl⟩ : ∃ j, x = j + 1 := ⟨x - 1, by omega⟩
      rw [hhigh j (by omega) (by omega)]
      exact h j k (by omega) (by omega)

/-- A turn moves items about among the slots it works on. -/
theorem insertAt_perm (n : ℕ) (a : ℕ → α) : (upTo (n + 1) (insertAt n a)).Perm (upTo (n + 1) a) := by
  have hs := shifted (a n) n a
  unfold OrderStatistics.insertAt
  generalize shift (a n) n a = r at hs
  have hle := hs.le
  simp only
  have heq : upTo (n + 1) (Function.update r.2 r.1 (a n)) =
      (upTo n a).take r.1 ++ a n :: (upTo n a).drop r.1 := by
    have hlen : (upTo n a).length = n := by
      rw [upTo, List.length_map, List.length_range]
    refine List.ext_getElem ?_ fun k hk hk' => ?_
    · rw [upTo, List.length_map, List.length_range, List.length_append, List.length_cons,
        List.length_take, List.length_drop, hlen]
      omega
    · rw [upTo, List.length_map, List.length_range] at hk
      simp only [upTo, List.getElem_map, List.getElem_range, List.getElem_append,
        List.length_take, List.length_map, List.length_range]
      rcases Nat.lt_trichotomy k r.1 with hlow | hfree | hhigh
      · rw [dif_pos (by omega), Function.update_of_ne (by omega), hs.kept k hlow]
        simp
      · subst hfree
        rw [dif_neg (by omega), Function.update_self]
        simp [hle]
      · obtain ⟨j, rfl⟩ : ∃ j, k = j + 1 := ⟨k - 1, by omega⟩
        rw [dif_neg (by omega), Function.update_of_ne (by omega), hs.moved j (by omega) (by omega)]
        have hidx : j + 1 - min r.1 n = (j - r.1) + 1 := by omega
        simp only [hidx, List.getElem_cons_succ, List.getElem_drop, List.getElem_map,
          List.getElem_range]
        congr 1
        omega
  rw [heq, upTo_succ]
  refine List.perm_middle.trans ?_
  rw [List.take_append_drop]
  exact (List.perm_append_singleton _ _).symm

/-- The slots a turn does not come to. -/
theorem insertAt_beyond {k : ℕ} (hk : n < k) : insertAt n a k = a k := by
  have hs := shifted (a n) n a
  have hle := hs.le
  unfold OrderStatistics.insertAt
  rw [Function.update_of_ne (by omega), hs.beyond k hk]

/-- What the turns over `n` slots have done. -/
structure Sorts (n : ℕ) (a b : ℕ → α) : Prop where
  sorted : SortedTo n b
  perm : (upTo n b).Perm (upTo n a)
  beyond : ∀ k, n ≤ k → b k = a k

theorem sorts (n : ℕ) (a : ℕ → α) : Sorts n a (sortInPlace n a) := by
  induction n with
  | zero => exact ⟨fun _ _ _ h => by omega, List.Perm.refl _, fun _ _ => rfl⟩
  | succ n ih =>
    cases n with
    | zero => exact ⟨fun _ _ _ h => by omega, List.Perm.refl _, fun _ _ => rfl⟩
    | succ n =>
      rw [sortInPlace]
      refine ⟨ih.sorted.insertAt, ?_, fun k hk => ?_⟩
      · refine (insertAt_perm _ _).trans ?_
        rw [upTo_succ, upTo_succ (n + 1) a, ih.beyond (n + 1) le_rfl]
        exact ih.perm.append_right _
      · rw [insertAt_beyond (by omega), ih.beyond k (by omega)]

/-- **The loops sort.** They leave the items of the first slots in the
order of the sorted list. -/
theorem upTo_sortInPlace [DecidableLE α] (n : ℕ) (a : ℕ → α) :
    upTo n (sortInPlace n a) = (upTo n a).insertionSort (· ≤ ·) := by
  have hs := sorts n a
  have hsorted : (upTo n (sortInPlace n a)).Pairwise (· ≤ ·) := by
    rw [List.pairwise_iff_getElem]
    intro x y hx hy hxy
    rw [upTo, List.length_map, List.length_range] at hy
    simp only [upTo, List.getElem_map, List.getElem_range]
    exact hs.sorted x y hxy hy
  exact List.Perm.eq_of_pairwise' hsorted (List.pairwise_insertionSort _ _)
    (hs.perm.trans (List.perm_insertionSort _ _).symm)

end OrderStatistics
