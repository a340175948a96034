import Mathlib.Algebra.BigOperators.Group.Finset.Basic
import Mathlib.Algebra.Order.BigOperators.Group.Finset
import Mathlib.Data.Fintype.Basic
/-!
# Rounds with quotas

A scheduler serves `n` classes in rounds. A cursor goes through the
classes; the class it stands at is served until its quota for the round
is used up, or is passed over; after the last class a new round starts.

`wait r p` is the number of turns that can serve other classes before the
cursor comes to class `p`. It is never more than the quotas of the other
classes together (`wait_le`), a turn that serves another class takes one
off it, and no turn but one that passes `p` over adds to it
(`Turn.Leads.wait`). So a class that is never passed over waits no longer
than the others' quotas, whatever state it starts from.
-/

namespace QuotaRound

variable {n : ℕ}

/-- Where a round is: the class the cursor stands at, `n` at the end of
the round, and how often each class has been served in it. -/
structure Round (n : ℕ) where
  cursor : ℕ
  used : Fin n → ℕ

/-- What a scheduler does next. -/
inductive Turn (n : ℕ)
  /-- Pass a class over. -/
  | pass (p : Fin n)
  /-- Start a new round. -/
  | reset
  /-- Serve a class. -/
  | serve (p : Fin n)

/-- Whether a turn serves a class. -/
def Turn.served : Turn n → ℕ
  | .serve _ => 1
  | _ => 0

variable (quota : Fin n → ℕ)

/-- A turn leads from one state of a round to another. A class stays under
the cursor only while it has some of its quota left. -/
inductive Turn.Leads (r : Round n) : Turn n → Round n → Prop
  | pass {p : Fin n} (hp : (p : ℕ) = r.cursor) : Turn.Leads r (.pass p) ⟨r.cursor + 1, r.used⟩
  | reset (h : n ≤ r.cursor) : Turn.Leads r .reset ⟨0, fun _ => 0⟩
  | stay {p : Fin n} (hp : (p : ℕ) = r.cursor) (hleft : r.used p + 1 < quota p) :
      Turn.Leads r (.serve p) ⟨r.cursor, Function.update r.used p (r.used p + 1)⟩
  | finish {p : Fin n} (hp : (p : ℕ) = r.cursor) (hleft : r.used p < quota p) :
      Turn.Leads r (.serve p) ⟨r.cursor + 1, Function.update r.used p (r.used p + 1)⟩

/-- The states a scheduler gets to: no class is served before its turn,
and the class under the cursor has some of its quota left. -/
structure Sound (r : Round n) : Prop where
  cursor_le : r.cursor ≤ n
  fresh : ∀ p : Fin n, r.cursor < p → r.used p = 0
  left : ∀ p : Fin n, (p : ℕ) = r.cursor → r.used p < quota p

variable {quota} {r r' : Round n} {t : Turn n} {p q : Fin n}

theorem Sound.start (hpos : ∀ p, 0 < quota p) : Sound quota ⟨0, fun _ => 0⟩ :=
  ⟨Nat.zero_le n, fun _ _ => rfl, fun p _ => hpos p⟩

/-- Every turn keeps the state sound. -/
theorem Sound.turn (hpos : ∀ p, 0 < quota p) (h : Sound quota r) (ht : t.Leads quota r r') :
    Sound quota r' := by
  cases ht with
  | @pass p hp =>
    refine ⟨?_, fun q hq => h.fresh q (Nat.lt_of_succ_lt hq), fun q hq => ?_⟩
    · show r.cursor + 1 ≤ n
      omega
    · rw [h.fresh q (by change (q : ℕ) = r.cursor + 1 at hq; omega)]
      exact hpos q
  | reset => exact .start hpos
  | @stay p hp hleft =>
    refine ⟨h.cursor_le, fun q hq => ?_, fun q hq => ?_⟩
    · have hne : q ≠ p := by
        rintro rfl
        change r.cursor < (q : ℕ) at hq
        omega
      show Function.update r.used p _ q = 0
      rw [Function.update_of_ne hne]
      exact h.fresh q hq
    · obtain rfl : q = p := Fin.ext (hq.trans hp.symm)
      show Function.update r.used q _ q < quota q
      rw [Function.update_self]
      exact hleft
  | @finish p hp hleft =>
    have hother : ∀ q : Fin n, r.cursor < q → Function.update r.used p (r.used p + 1) q = 0 := by
      intro q hq
      have hne : q ≠ p := by
        rintro rfl
        omega
      rw [Function.update_of_ne hne]
      exact h.fresh q hq
    refine ⟨?_, fun q hq => hother q (Nat.lt_of_succ_lt hq), fun q hq => ?_⟩
    · show r.cursor + 1 ≤ n
      omega
    · show Function.update r.used p _ q < quota q
      rw [hother q (by change (q : ℕ) = r.cursor + 1 at hq; omega)]
      exact hpos q

/-! ## Waiting -/

variable (quota)

/-- How often class `q` can be served before the cursor comes to `p`. -/
def ahead (r : Round n) (p q : Fin n) : ℕ :=
  if r.cursor ≤ p then
    -- in this round, from the cursor up to `p`
    if r.cursor ≤ q ∧ q < p then quota q - r.used q else 0
  else if r.cursor ≤ q then quota q - r.used q
  else if q < p then quota q
  else 0

/-- How often other classes can be served before the cursor comes to
`p`. -/
def wait (r : Round n) (p : Fin n) : ℕ := ∑ q ∈ Finset.univ.erase p, ahead quota r p q

variable {quota}

theorem ahead_le (r : Round n) (p q : Fin n) : ahead quota r p q ≤ quota q := by
  unfold ahead
  split_ifs <;> omega

/-- **No class waits longer than the quotas of the others.** -/
theorem wait_le (r : Round n) (p : Fin n) : wait quota r p ≤ ∑ q ∈ Finset.univ.erase p, quota q :=
  Finset.sum_le_sum fun q _ => ahead_le r p q

theorem wait_le_of (h : ∀ q, q ≠ p → ahead quota r' p q ≤ ahead quota r p q) :
    wait quota r' p ≤ wait quota r p :=
  Finset.sum_le_sum fun q hq => h q (Finset.ne_of_mem_erase hq)

theorem wait_lt_of (h : ∀ q, q ≠ p → ahead quota r' p q ≤ ahead quota r p q) (hqp : q ≠ p)
    (hlt : ahead quota r' p q < ahead quota r p q) : wait quota r' p < wait quota r p :=
  Finset.sum_lt_sum (fun q hq => h q (Finset.ne_of_mem_erase hq))
    ⟨q, Finset.mem_erase.mpr ⟨hqp, Finset.mem_univ q⟩, hlt⟩

/-- What serving class `q` does to the turns ahead: the cursor stays, or
moves on by one. -/
theorem wait_serve {cursor : ℕ} (hq : (q : ℕ) = r.cursor) (hqp : (q : ℕ) ≠ p)
    (hleft : r.used q < quota q) (hcursor : cursor = r.cursor ∨ cursor = r.cursor + 1) :
    wait quota ⟨cursor, Function.update r.used q (r.used q + 1)⟩ p < wait quota r p := by
  have hself : ahead quota ⟨cursor, Function.update r.used q (r.used q + 1)⟩ p q <
      ahead quota r p q := by
    unfold ahead
    simp only [Function.update_self, Fin.lt_def]
    split_ifs <;> omega
  refine wait_lt_of (fun x _ => ?_) (fun h => hqp (by rw [h])) hself
  by_cases hx : x = q
  · rw [hx]
    exact hself.le
  · have hne : (x : ℕ) ≠ q := fun h => hx (Fin.ext h)
    unfold ahead
    simp only [Function.update_of_ne hx]
    split_ifs <;> omega

/-- **A turn that serves another class takes one off the wait**, and none
but one that passes `p` over adds to it. -/
theorem Turn.Leads.wait (ht : t.Leads quota r r') (hpass : t ≠ .pass p) (hserve : t ≠ .serve p) :
    wait quota r' p + t.served ≤ wait quota r p := by
  cases ht with
  | @pass q hq =>
    have hne : (q : ℕ) ≠ p := fun h => hpass (by rw [Fin.ext h])
    refine wait_le_of fun x _ => ?_
    unfold ahead
    simp only
    split_ifs <;> omega
  | reset hend =>
    have hp := p.isLt
    refine wait_le_of fun x hx => ?_
    have hx' : (x : ℕ) ≠ p := fun h => hx (Fin.ext h)
    have hlt := x.isLt
    unfold ahead
    simp only [Fin.lt_def]
    split_ifs <;> omega
  | @stay q hq hleft =>
    exact wait_serve hq (fun h => hserve (by rw [Fin.ext h])) (by omega) (.inl rfl)
  | @finish q hq hleft =>
    exact wait_serve hq (fun h => hserve (by rw [Fin.ext h])) hleft (.inr rfl)

end QuotaRound
