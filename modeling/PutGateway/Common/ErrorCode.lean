import Mathlib.Data.UInt
/-!
# Result codes

The result codes both cores share, and the one way in which the IPC code
sequences fallible steps: each step returns a code and the state it
leaves behind, and the first code other than `ok` ends the sequence.
-/

namespace PutGateway

/-- `unified_error_t`. -/
inductive UnifiedError
  | ok
  | null
  | invalidArg
  | length
  | protocolHeader
  | payloadLength
  | unknownType
  | crc
  | canDlc
  | ipcQueueEmpty
  | ipcQueueFull
  | ipcNotReady
  | ipcNotifyFailed
  | ipcOffline
  | ipcFramePoolFull
  | ipcReclaimFull
  deriving DecidableEq, Repr

/-- Run the next step on the state a step left, unless the step failed. -/
def andThen {σ : Type*} (r : UnifiedError × σ) (k : σ → UnifiedError × σ) : UnifiedError × σ :=
  if r.1 = .ok then k r.2 else r

section

variable {σ : Type*} {r : UnifiedError × σ} {k : σ → UnifiedError × σ}

theorem andThen_of_ok (h : r.1 = .ok) : andThen r k = k r.2 := if_pos h

@[simp] theorem andThen_ok {s : σ} : andThen (.ok, s) k = k s := if_pos rfl

theorem andThen_of_ne (h : r.1 ≠ .ok) : andThen r k = r := if_neg h

/-- What the first step leaves and the second keeps holds at the end. -/
theorem andThen_inv {p : σ → Prop} (hr : p r.2) (hk : ∀ s, p s → p (k s).2) :
    p (andThen r k).2 := by
  unfold andThen
  split
  · exact hk _ hr
  · exact hr

end

end PutGateway
