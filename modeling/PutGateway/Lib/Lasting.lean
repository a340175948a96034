import Mathlib.Data.List.Pairwise
/-!
# Conditions that last

A condition is looked at from time to time. The observations, newest
first, are pairs of a time and what was seen. The condition has lasted for
`d` where some observation, made at least `d` before, and all since then
have seen it.

A monitor need not keep the observations for that. The time of the first
of those that have seen the condition without a break (`since`) is enough
(`lasting_iff`), and an observation updates it without a look back.
-/

namespace Lasting

/-- The time from which on every observation has seen the condition. -/
def since : List (ℕ × Bool) → Option ℕ
  | [] => none
  | (t, true) :: old => some ((since old).getD t)
  | (_, false) :: _ => none

/-- By the time `now` the condition has lasted for `d`. -/
def LastsFor (d now : ℕ) (observed : List (ℕ × Bool)) : Prop :=
  ∃ recent t old, observed = recent ++ (t, true) :: old ∧ (∀ o ∈ recent, o.2 = true) ∧ t + d ≤ now

/-- Observations in the order of time, the newest first. -/
def InTime (observed : List (ℕ × Bool)) : Prop := observed.Pairwise fun newer older => older.1 ≤ newer.1

variable {d now t s : ℕ} {b : Bool} {old observed : List (ℕ × Bool)}

@[simp] theorem since_cons_true : since ((t, true) :: old) = some ((since old).getD t) := rfl

@[simp] theorem since_cons_false : since ((t, false) :: old) = none := rfl

/-- The condition was first seen at an observation. -/
theorem exists_of_since (h : since observed = some s) : ∃ o ∈ observed, o.1 = s := by
  induction observed generalizing s with
  | nil => cases h
  | cons o old ih =>
    obtain ⟨t, seen⟩ := o
    cases seen with
    | false => cases h
    | true =>
      rw [since_cons_true] at h
      obtain rfl := Option.some.inj h
      cases hold : since old with
      | none => exact ⟨(t, true), List.mem_cons_self, rfl⟩
      | some s =>
        obtain ⟨o, ho, hs⟩ := ih hold
        exact ⟨o, List.mem_cons_of_mem _ ho, hs⟩

theorem not_lastsFor_nil : ¬ LastsFor d now [] := by
  rintro ⟨recent, t, old, h, -⟩
  simp at h

/-- An observation that does not see the condition ends it. -/
theorem not_lastsFor_false : ¬ LastsFor d now ((t, false) :: old) := by
  rintro ⟨recent, t', old', h, hseen, -⟩
  cases recent with
  | nil =>
    rw [List.nil_append] at h
    cases h
  | cons o recent =>
    obtain ⟨rfl, -⟩ := List.cons.inj h
    exact absurd (hseen _ List.mem_cons_self) (by simp)

theorem lastsFor_true : LastsFor d now ((t, true) :: old) ↔ t + d ≤ now ∨ LastsFor d now old := by
  constructor
  · rintro ⟨recent, t', old', h, hseen, hd⟩
    cases recent with
    | nil =>
      obtain ⟨heq, -⟩ := List.cons.inj h
      obtain ⟨rfl, -⟩ := Prod.mk.inj heq
      exact .inl hd
    | cons o recent =>
      obtain ⟨-, rfl⟩ := List.cons.inj h
      exact .inr ⟨recent, t', old', rfl, fun o ho => hseen o (List.mem_cons_of_mem _ ho), hd⟩
  · rintro (hd | ⟨recent, t', old', rfl, hseen, hd⟩)
    · refine ⟨[], t, old, rfl, fun o ho => ?_, hd⟩
      cases ho
    · refine ⟨(t, true) :: recent, t', old', rfl, fun o ho => ?_, hd⟩
      rcases List.mem_cons.mp ho with rfl | ho
      · rfl
      · exact hseen o ho

/-- **The first time is enough.** A condition has lasted as long as it was
first seen ago. -/
theorem lasting_iff (h : InTime observed) :
    LastsFor d now observed ↔ ∃ s, since observed = some s ∧ s + d ≤ now := by
  induction observed with
  | nil =>
    refine ⟨fun hl => absurd hl not_lastsFor_nil, ?_⟩
    rintro ⟨s, hs, -⟩
    cases hs
  | cons o old ih =>
    obtain ⟨t, seen⟩ := o
    obtain ⟨hnewest, hold⟩ := List.pairwise_cons.mp h
    cases seen with
    | false =>
      refine ⟨fun hl => absurd hl not_lastsFor_false, ?_⟩
      rintro ⟨s, hs, -⟩
      cases hs
    | true =>
      rw [lastsFor_true, ih hold, since_cons_true]
      cases hs : since old with
      | none => simp
      | some s =>
        -- it was seen before, and no later than now
        obtain ⟨o, ho, rfl⟩ := exists_of_since hs
        have hle := hnewest o ho
        simp only [Option.some.injEq, exists_eq_left', Option.getD_some]
        omega

end Lasting
