import PutGateway.Linux.CanSessions
/-!
# What a sender puts on the bus

The frames `can_fragment_tx` cuts a message into, seen from the other end:
the first is an SOF frame that opens a session, under the sender's key and
with the length and the CRC of the message, and the others are DATA frames
of that session with five bytes of the message each, the last with what is
left.
-/

namespace PutGateway

namespace Linux

/-- A message to send, and its sender. -/
structure Transfer where
  tx : CanTxContext
  msg : List UInt8
  atLeast : 40 ≤ msg.length
  atMost : msg.length ≤ 512

namespace Transfer

variable (T : Transfer)

/-- The number of DATA frames. -/
def count : ℕ := (T.msg.length + 4) / 5

/-- What the receiver finds the session by. -/
def key : SessionKey := (T.tx.canId, T.tx.nextSessionId)

/-- The frames the message is cut into. -/
def frames : List CanFrame := (canFragmentTx T.tx T.msg).1.getD []

theorem toNat_length : (UInt16.ofNat T.msg.length).toNat = T.msg.length := by
  have hmost := T.atMost
  have hsize : UInt16.size = 65536 := rfl
  exact UInt16.toNat_ofNat_of_lt' (by omega)

theorem expectedDataFrameCount_length :
    (expectedDataFrameCount (UInt16.ofNat T.msg.length)).toNat = T.count := by
  have hmost := T.atMost
  rw [expectedDataFrameCount_toNat (by rw [toNat_length]; exact hmost), toNat_length, count]

theorem count_le : T.count ≤ 103 := by
  have hmost := T.atMost
  rw [count]
  omega

theorem one_le_count : 1 ≤ T.count := by
  have hleast := T.atLeast
  rw [count]
  omega

/-- **What `can_fragment_tx` makes of a message**: an SOF frame and the
DATA frames in their order. -/
theorem frames_eq : T.frames = sofFrame T.tx.canId T.tx.nextSessionId T.msg ::
    (List.range T.count).map (dataFrame T.tx.canId T.tx.nextSessionId T.msg) := by
  have hleast := T.atLeast
  have hmost := T.atMost
  have hcount := T.count_le
  have hheader : anymsgHeaderSize.toNat = 40 := rfl
  have hpackets : canAdapterTxMaxPackets = 104 := rfl
  rw [frames, canFragmentTx, if_neg (by omega)]
  simp only [expectedDataFrameCount_length]
  rw [if_neg (by omega)]
  rfl

@[simp] theorem length_frames : T.frames.length = T.count + 1 := by
  rw [frames_eq]
  simp

/-- The place of the SOF frame. -/
def sofPlace : Fin T.frames.length := ⟨0, by rw [length_frames]; omega⟩

variable {T} {place : Fin T.frames.length} {q p : ℕ}

theorem get_sofPlace : T.frames.get T.sofPlace = sofFrame T.tx.canId T.tx.nextSessionId T.msg := by
  simp [sofPlace, frames_eq]

theorem get_data (h : place.val = q + 1) :
    T.frames.get place = dataFrame T.tx.canId T.tx.nextSessionId T.msg q := by
  simp [frames_eq, h]

/-! ## The sender's id -/

/-- A mask goes into a masked word with a flag. -/
private theorem masked_and (x m f r : UInt32) :
    (x &&& m ||| f) &&& r = x &&& (m &&& r) ||| f &&& r := by
  rw [← UInt32.toBitVec_inj]
  simp only [UInt32.toBitVec_and, UInt32.toBitVec_or, BitVec.and_or_distrib_right, BitVec.and_assoc]

theorem canId_eq (tx : CanTxContext) :
    tx.canId = tx.txCanId &&& canEffMask ||| canEffFlag ∨
      tx.canId = tx.txCanId &&& canSffMask ||| 0 := by
  rw [CanTxContext.canId]
  cases tx.extendedId with
  | false => exact .inr rfl
  | true => exact .inl rfl

/-- No frame asks for another. -/
theorem canId_rtr (tx : CanTxContext) : tx.canId &&& canRtrFlag = 0 := by
  rcases canId_eq tx with h | h
  · rw [h, masked_and, show canEffMask &&& canRtrFlag = 0 by decide,
      show canEffFlag &&& canRtrFlag = 0 by decide]
    simp
  · rw [h, masked_and, show canSffMask &&& canRtrFlag = 0 by decide]
    simp

/-- The receiver takes the id for what it is. -/
theorem normalizeSourceCanId_canId (tx : CanTxContext) : normalizeSourceCanId tx.canId = tx.canId := by
  rw [normalizeSourceCanId]
  rcases canId_eq tx with h | h
  · have hflag : tx.canId &&& canEffFlag ≠ 0 := by
      rw [h, masked_and, show canEffMask &&& canEffFlag = 0 by decide, UInt32.and_zero, UInt32.zero_or]
      decide
    rw [if_pos hflag, h, masked_and, show canEffMask &&& canEffMask = canEffMask by decide,
      show canEffFlag &&& canEffMask = 0 by decide, UInt32.or_zero]
  · have hflag : tx.canId &&& canEffFlag = 0 := by
      rw [h, masked_and, show canSffMask &&& canEffFlag = 0 by decide]
      simp
    rw [if_neg (not_not.mpr hflag), h, masked_and,
      show canSffMask &&& canSffMask = canSffMask by decide]
    simp

/-! ## The SOF frame -/

theorem sof_isClassic (tx : CanTxContext) (f : CanFrame) (hid : f.canId = tx.canId)
    (hdlc : f.canDlc = canAdapterClassicDlc) : f.isClassic = true := by
  rw [CanFrame.isClassic, hid, hdlc, canId_rtr]
  rfl

theorem sofLength_sofFrame : (T.frames.get T.sofPlace).sofLength = UInt16.ofNat T.msg.length := by
  rw [get_sofPlace]
  exact readLe16_writeLe16 _

theorem sofCrc_sofFrame : (T.frames.get T.sofPlace).sofCrc = unifiedCrc16CcittFalse T.msg := by
  rw [get_sofPlace]
  exact readLe16_writeLe16 _

theorem key_sofFrame : (T.frames.get T.sofPlace).key = T.key := by
  rw [get_sofPlace, CanFrame.key, key]
  exact congrArg (·, T.tx.nextSessionId) (normalizeSourceCanId_canId T.tx)

/-- **The first frame opens a session.** -/
theorem opens_sofFrame : (T.frames.get T.sofPlace).opens = true := by
  have hleast := T.atLeast
  have hmost := T.atMost
  have h40 : (40 : UInt16).toNat = 40 := rfl
  have h512 : (512 : UInt16).toNat = 512 := rfl
  refine CanFrame.opens_iff.mpr ⟨?_, ?_, ?_, ?_, ?_, ?_⟩
  · rw [get_sofPlace]
    exact sof_isClassic T.tx _ rfl rfl
  · rw [get_sofPlace]
    rfl
  · rw [sofLength_sofFrame, UInt16.le_iff_toNat_le, toNat_length]
    omega
  · rw [sofLength_sofFrame, UInt16.le_iff_toNat_le, toNat_length]
    omega
  · rw [get_sofPlace]
    have hflags : (sofFrame T.tx.canId T.tx.nextSessionId T.msg).data 6 =
        if UInt16.ofNat T.msg.length % 5 = 0 then 0 else 1 := rfl
    rw [hflags]
    split
    · decide
    · decide
  · rw [sofLength_sofFrame, get_sofPlace]
    rfl

/-! ## The DATA frames -/

theorem isData_dataFrame (h : place.val = q + 1) : (T.frames.get place).isData = true := by
  rw [get_data h]
  exact CanFrame.isData_iff.mpr ⟨sof_isClassic T.tx _ rfl rfl, rfl⟩

theorem key_dataFrame (h : place.val = q + 1) : (T.frames.get place).key = T.key := by
  rw [get_data h, CanFrame.key, key]
  exact congrArg (·, T.tx.nextSessionId) (normalizeSourceCanId_canId T.tx)

theorem seq_dataFrame (h : place.val = q + 1) : ((T.frames.get place).data 2).toNat = q := by
  have hplace : place.val < T.count + 1 := T.length_frames ▸ place.isLt
  have hcount := T.count_le
  have hseq : (dataFrame T.tx.canId T.tx.nextSessionId T.msg q).data 2 = UInt8.ofNat q := rfl
  have hsize : UInt8.size = 256 := rfl
  rw [get_data h, hseq]
  exact UInt8.toNat_ofNat_of_lt' (by omega)

/-- **The bytes of a message** are those of its DATA frames, five in
each. -/
theorem byte_dataFrame (h : place.val = p / 5 + 1) (hp : p < T.msg.length) :
    (T.frames.get place).data (Fin.ofNat 8 (3 + p % 5)) = T.msg.getD p 0 := by
  have hval : (Fin.ofNat 8 (3 + p % 5)).val = 3 + p % 5 := Nat.mod_eq_of_lt (by omega)
  have hne : ∀ k : Fin 8, k.val < 3 → Fin.ofNat 8 (3 + p % 5) ≠ k := by
    intro k hk heq
    rw [← heq, hval] at hk
    omega
  have hindex : p / 5 * 5 + (3 + p % 5 - 3) = p := by omega
  rw [get_data h, dataFrame]
  simp only
  rw [if_neg (hne 0 (by decide)), if_neg (hne 1 (by decide)), if_neg (hne 2 (by decide)), hval,
    if_pos (by omega), hindex]

end Transfer

end Linux

end PutGateway
