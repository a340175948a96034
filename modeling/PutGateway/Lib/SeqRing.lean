import Mathlib.Data.BitVec
import Mathlib.Data.List.Range
import Mathlib.Logic.Function.Basic
/-!
# Rings indexed by wrapping sequence numbers

A ring of `n` slots is shared by one producer and one consumer. Each
counts its operations in a `w`-bit sequence number that wraps, and a
sequence number addresses the slot at its value modulo `n`. The number
of unread entries is the difference of the two counters modulo `2 ^ w`.

The file relates the ring to the queue it stands for. `unread` lists the
entries between the two counters, oldest first; `push` appends to it
(`unread_push`) and `pop` removes its head (`unread_pop`), for every
value of the counters, those next to the wrap included. What is asked is
that `n` divides `2 ^ w`, so that slots follow one another across the
wrap, that `n` is less than `2 ^ w`, so that a full ring differs from an
empty one, and that no more than `n` entries are unread.
-/

/-- A ring with its two counters. -/
structure SeqRing (α : Type*) (w n : ℕ) where
  /-- The entries. -/
  slots : Fin n → α
  /-- How many entries the consumer has taken. -/
  read : BitVec w
  /-- How many entries the producer has published. -/
  write : BitVec w

namespace SeqRing

variable {α : Type*} {w n : ℕ} {r : SeqRing α w n}

/-! ## The counters -/

/-- The number of unread entries. -/
def used (r : SeqRing α w n) : ℕ := (r.write - r.read).toNat

/-- Take the oldest entry. -/
def pop (r : SeqRing α w n) : SeqRing α w n := { r with read := r.read + 1 }

theorem used_lt (r : SeqRing α w n) : r.used < 2 ^ w := (r.write - r.read).isLt

theorem write_eq (r : SeqRing α w n) : r.write = r.read + BitVec.ofNat w r.used := by
  rw [used, BitVec.ofNat_toNat, BitVec.setWidth_eq, BitVec.add_comm, BitVec.sub_add_cancel]

theorem used_eq_zero_iff : r.used = 0 ↔ r.write = r.read := by
  constructor
  · intro h
    simpa [h] using r.write_eq
  · intro h
    simp [used, h]

/-- A counter `k` ahead of another is seen `k` ahead. -/
theorem toNat_add_ofNat_sub (s : BitVec w) {k : ℕ} (hk : k < 2 ^ w) :
    (s + BitVec.ofNat w k - s).toNat = k := by
  rw [BitVec.add_comm, BitVec.add_sub_cancel, BitVec.toNat_ofNat, Nat.mod_eq_of_lt hk]

/-- Taking removes one entry. -/
theorem used_pop (h : r.write ≠ r.read) : r.pop.used + 1 = r.used := by
  have hpos : r.used ≠ 0 := fun h0 => h (used_eq_zero_iff.mp h0)
  have hlt := r.used_lt
  obtain ⟨k, hk⟩ := Nat.exists_eq_succ_of_ne_zero hpos
  have hw : r.pop.write = r.pop.read + BitVec.ofNat w k := by
    simp only [pop]
    rw [r.write_eq, hk, Nat.succ_eq_add_one, Nat.add_comm k, BitVec.ofNat_add,
      ← BitVec.add_assoc]
    rfl
  rw [used, hw, toNat_add_ofNat_sub _ (by omega), hk]

variable [NeZero n]

/-! ## Slots and windows -/

/-- The slot a sequence number addresses. -/
def slot (n : ℕ) [NeZero n] (s : BitVec w) : Fin n := Fin.ofNat n s.toNat

/-- The `k` entries starting at sequence number `s`. -/
def window (slots : Fin n → α) (s : BitVec w) : ℕ → List α
  | 0 => []
  | k + 1 => slots (slot n s) :: window slots (s + 1) k

@[simp] theorem window_zero (slots : Fin n → α) (s : BitVec w) : window slots s 0 = [] := rfl

theorem window_succ (slots : Fin n → α) (s : BitVec w) (k : ℕ) :
    window slots s (k + 1) = slots (slot n s) :: window slots (s + 1) k := rfl

@[simp] theorem length_window (slots : Fin n → α) (s : BitVec w) (k : ℕ) :
    (window slots s k).length = k := by
  induction k generalizing s with
  | zero => rfl
  | succ k ih => simp [window_succ, ih]

/-- A window splits at any point of its length. -/
theorem window_add (slots : Fin n → α) (s : BitVec w) (j k : ℕ) :
    window slots s (j + k) = window slots s j ++ window slots (s + BitVec.ofNat w j) k := by
  induction j generalizing s with
  | zero => simp
  | succ j ih =>
    have hs : s + 1 + BitVec.ofNat w j = s + BitVec.ofNat w (j + 1) := by
      rw [BitVec.ofNat_add, BitVec.add_assoc, BitVec.add_comm 1]
      simp
    rw [Nat.succ_add, window_succ, window_succ, ih, hs, List.cons_append]

/-- The last entry of a window. -/
theorem window_concat (slots : Fin n → α) (s : BitVec w) (k : ℕ) :
    window slots s (k + 1) = window slots s k ++ [slots (slot n (s + BitVec.ofNat w k))] := by
  rw [window_add]
  rfl

/-- Where the depth divides the number of sequence numbers, the slots
follow one another across the wrap. -/
theorem slot_add (hn : n ∣ 2 ^ w) (s : BitVec w) (j : ℕ) :
    (slot n (s + BitVec.ofNat w j)).val = (s.toNat + j) % n := by
  simp [slot, Nat.mod_mod_of_dvd _ hn]

/-- Two sequence numbers less than `n` apart address different slots. -/
theorem slot_add_ne (hn : n ∣ 2 ^ w) (s : BitVec w) {j k : ℕ} (hjk : j < k)
    (hk : k < j + n) :
    slot n (s + BitVec.ofNat w j) ≠ slot n (s + BitVec.ofNat w k) := by
  intro h
  have hval := congrArg Fin.val h
  rw [slot_add hn, slot_add hn] at hval
  have hdvd : n ∣ (s.toNat + k) - (s.toNat + j) :=
    (Nat.modEq_iff_dvd' (by omega)).mp hval
  have := Nat.le_of_dvd (by omega) hdvd
  omega

/-- Writing a slot no entry of the window lies in leaves the window as
it is. -/
theorem window_update (hn : n ∣ 2 ^ w) (slots : Fin n → α) (s : BitVec w) (d : α) {k j : ℕ}
    (hkj : k ≤ j) (hj : j < n) :
    window (Function.update slots (slot n (s + BitVec.ofNat w j)) d) s k =
      window slots s k := by
  induction k with
  | zero => rfl
  | succ k ih =>
    have hne := slot_add_ne hn s (j := k) (k := j) (by omega) (by omega)
    rw [window_concat, window_concat, ih (by omega), Function.update_of_ne hne]

/-! ## The queue -/

/-- The unread entries, oldest first. -/
def unread (r : SeqRing α w n) : List α := window r.slots r.read r.used

/-- The entry the consumer takes next. -/
def head (r : SeqRing α w n) : α := r.slots (slot n r.read)

/-- Publish an entry. -/
def push (r : SeqRing α w n) (d : α) : SeqRing α w n :=
  { r with slots := Function.update r.slots (slot n r.write) d, write := r.write + 1 }

/-- Write an entry without publishing it. -/
def stage (r : SeqRing α w n) (d : α) : SeqRing α w n :=
  { r with slots := Function.update r.slots (slot n r.write) d }

@[simp] theorem length_unread : r.unread.length = r.used := length_window _ _ _

/-- Publishing adds one entry, short of the wrap of the difference. -/
theorem used_push (d : α) (h : r.used + 1 < 2 ^ w) : (r.push d).used = r.used + 1 := by
  have hw : (r.push d).write = r.read + BitVec.ofNat w (r.used + 1) := by
    simp only [push]
    rw [r.write_eq, BitVec.ofNat_add, BitVec.add_assoc]
    rfl
  have hr : (r.push d).read = r.read := rfl
  rw [used, hw, hr, toNat_add_ofNat_sub _ h]

/-- The slot the next push uses lies after every unread entry. -/
theorem window_update_write (hn : n ∣ 2 ^ w) (d : α) (h : r.used < n) :
    window (Function.update r.slots (slot n r.write) d) r.read r.used = r.unread := by
  have hslot : slot n r.write = slot n (r.read + BitVec.ofNat w r.used) := by
    rw [← r.write_eq]
  rw [hslot, window_update hn r.slots r.read d le_rfl h]
  rfl

/-- **Publishing appends.** A ring that is not full holds, after a push,
what it held and the new entry last. -/
theorem unread_push (hn : n ∣ 2 ^ w) (hlt : n < 2 ^ w) (d : α) (h : r.used < n) :
    (r.push d).unread = r.unread ++ [d] := by
  have hslots : (r.push d).slots = Function.update r.slots (slot n r.write) d := rfl
  have hread : (r.push d).read = r.read := rfl
  rw [unread, used_push d (by omega), window_concat, hslots, hread,
    window_update_write hn d h, ← r.write_eq, Function.update_self]

/-- A producer that stops before it publishes leaves the queue as it
was. -/
theorem unread_stage (hn : n ∣ 2 ^ w) (d : α) (h : r.used < n) :
    (r.stage d).unread = r.unread :=
  window_update_write hn d h

/-- **Taking removes the head.** -/
theorem unread_pop (h : r.write ≠ r.read) : r.unread = r.head :: r.pop.unread := by
  rw [unread, ← used_pop h]
  rfl

theorem unread_eq_nil_iff : r.unread = [] ↔ r.write = r.read := by
  rw [← List.length_eq_zero_iff, length_unread, used_eq_zero_iff]

end SeqRing
