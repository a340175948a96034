import Mathlib.Data.Finset.Card
import Mathlib.Data.Fintype.Card
import Mathlib.Logic.Function.Basic
/-!
# Tables of keyed slots

An array of records, some of them in use, each of these under a key. Code
looks a record up by walking the slots, takes the first that is free, and
overwrites or clears a slot in place. As long as no two records in use
share a key (`Distinct`) a key finds one slot at most (`find_eq_some_iff`),
and the file says what each of these operations does to the records in use.
-/

namespace SlotTable

variable {n : ℕ} {V K : Type*}

/-- The first free slot. -/
def findFree (live : V → Bool) (T : Fin n → V) : Option (Fin n) :=
  (List.finRange n).find? fun i => !live (T i)

/-- The first slot in use under a key. -/
def find [DecidableEq K] (live : V → Bool) (key : V → K) (T : Fin n → V) (k : K) : Option (Fin n) :=
  (List.finRange n).find? fun i => live (T i) && decide (key (T i) = k)

/-- No two records in use share a key. -/
def Distinct (live : V → Bool) (key : V → K) (T : Fin n → V) : Prop :=
  ∀ i j, live (T i) = true → live (T j) = true → key (T i) = key (T j) → i = j

/-- Clear every record in use that is to go. -/
def sweep (live gone : V → Bool) (clear : V → V) (T : Fin n → V) : Fin n → V :=
  fun i => if live (T i) && gone (T i) then clear (T i) else T i

variable {live gone : V → Bool} {clear : V → V} {key : V → K} {T : Fin n → V} {i j : Fin n} {k : K}
  {v : V}

/-! ## Slots in use -/

theorem findFree_eq_some (h : findFree live T = some i) : live (T i) = false := by
  have hfound := List.find?_some h
  simpa using hfound

theorem findFree_eq_none_iff : findFree live T = none ↔ ∀ i, live (T i) = true := by
  simp [findFree, List.find?_eq_none]

/-- **Fewer keys than slots leave a free slot.** -/
theorem exists_findFree (hT : Distinct live key T) (S : Finset K) (hS : S.card < n)
    (hkeys : ∀ i, live (T i) = true → key (T i) ∈ S) : ∃ i, findFree live T = some i := by
  cases hfree : findFree live T with
  | some i => exact ⟨i, rfl⟩
  | none =>
    have hall := findFree_eq_none_iff.mp hfree
    have hle : (Finset.univ : Finset (Fin n)).card ≤ S.card :=
      Finset.card_le_card_of_injOn (fun i => key (T i)) (fun i _ => hkeys i (hall i))
        fun i _ j _ hij => hT i j (hall i) (hall j) hij
    rw [Finset.card_univ, Fintype.card_fin] at hle
    omega

/-- A record under a key that no other slot uses. -/
theorem Distinct.update_live (hT : Distinct live key T)
    (hother : ∀ j, j ≠ i → live (T j) = true → key (T j) ≠ key v) :
    Distinct live key (Function.update T i v) := by
  intro a b ha hb hab
  by_cases hai : a = i
  · subst hai
    by_cases hbi : b = a
    · exact hbi.symm
    · rw [Function.update_self, Function.update_of_ne hbi] at hab
      rw [Function.update_of_ne hbi] at hb
      exact absurd hab.symm (hother b hbi hb)
  · rw [Function.update_of_ne hai] at ha hab
    by_cases hbi : b = i
    · subst hbi
      rw [Function.update_self] at hab
      exact absurd hab (hother a hai ha)
    · rw [Function.update_of_ne hbi] at hb hab
      exact hT a b ha hb hab

theorem Distinct.update_free (hT : Distinct live key T) (hv : live v = false) :
    Distinct live key (Function.update T i v) := by
  have hdead : ∀ a, live (Function.update T i v a) = true → a ≠ i := by
    rintro a ha rfl
    rw [Function.update_self, hv] at ha
    cases ha
  intro a b ha hb hab
  have hai := hdead a ha
  have hbi := hdead b hb
  rw [Function.update_of_ne hai] at ha hab
  rw [Function.update_of_ne hbi] at hb hab
  exact hT a b ha hb hab

theorem live_sweep_iff (hclear : ∀ v, live (clear v) = false) :
    live (sweep live gone clear T i) = true ↔ live (T i) = true ∧ gone (T i) = false := by
  unfold sweep
  cases hlive : live (T i) <;> cases hgone : gone (T i) <;> simp [hlive, hclear]

theorem sweep_of_live (hclear : ∀ v, live (clear v) = false)
    (h : live (sweep live gone clear T i) = true) : sweep live gone clear T i = T i := by
  obtain ⟨-, hgone⟩ := (live_sweep_iff hclear).mp h
  simp [sweep, hgone]

/-- A sweep that nothing is to go in. -/
theorem sweep_eq_self (h : ∀ i, live (T i) = true → gone (T i) = false) :
    sweep live gone clear T = T := by
  funext i
  cases hlive : live (T i) with
  | false => simp [sweep, hlive]
  | true => simp [sweep, h i hlive]

theorem Distinct.sweep (hT : Distinct live key T) (hclear : ∀ v, live (clear v) = false) :
    Distinct live key (sweep live gone clear T) := by
  intro a b ha hb hab
  rw [sweep_of_live hclear ha, sweep_of_live hclear hb] at hab
  exact hT a b ((live_sweep_iff hclear).mp ha).1 ((live_sweep_iff hclear).mp hb).1 hab

/-! ## The table as a map -/

variable [DecidableEq K]

theorem find_eq_some (h : find live key T k = some i) : live (T i) = true ∧ key (T i) = k := by
  have hfound := List.find?_some h
  simpa using hfound

theorem find_eq_none_iff : find live key T k = none ↔ ∀ i, live (T i) = true → key (T i) ≠ k := by
  simp [find, List.find?_eq_none]

theorem find_eq_some_iff (hT : Distinct live key T) :
    find live key T k = some i ↔ live (T i) = true ∧ key (T i) = k := by
  constructor
  · exact find_eq_some
  · rintro ⟨hlive, hkey⟩
    cases hfind : find live key T k with
    | none => exact absurd hkey (find_eq_none_iff.mp hfind i hlive)
    | some j =>
      obtain ⟨hj, hjk⟩ := find_eq_some hfind
      rw [hT i j hlive hj (hkey.trans hjk.symm)]

end SlotTable
