import PutGateway.Common.ErrorCode
/-!
# Platform operations

Cache maintenance, the atomic operations on the pending words and the
doorbell are supplied to the IPC code as callbacks, each of which may
fail. A platform is the sequence of their results: call number `n` of a
core returns `outcome n`. A failed atomic operation changes nothing. The
memory barrier returns no result and is left out: the steps of a
function are read in program order. A clock is the sequence of values
its owner reads.
-/

namespace PutGateway

/-- The results of a core's platform operations, in call order. -/
structure Platform where
  /-- The result of call number `n`. -/
  outcome : ℕ → UnifiedError

/-- Every platform operation succeeds. -/
def Platform.Succeeds (P : Platform) : Prop := ∀ n, P.outcome n = .ok

/-- The host's default operations, which do nothing and succeed. -/
def Platform.defaultOps : Platform := ⟨fun _ => .ok⟩

theorem Platform.defaultOps_succeeds : Platform.defaultOps.Succeeds := fun _ => rfl

/-- The millisecond values a time source returns, in call order. -/
abbrev Clock := ℕ → UInt32

end PutGateway
