import PutGateway.Lib.BitSet
import PutGateway.Linux.CanAdapter
/-!
# Reassembly on any traffic

Nothing is assumed of the frames or of the clock. The sessions in use
have keys of their own, and each is what the frames since its SOF make
of it: a message comes out with the length and the CRC its SOF announced,
and every byte of it from a DATA frame that came under its key after that
SOF. A malformed SOF is rejected and does not count as one.
-/

namespace PutGateway

namespace Linux

/-! ## The bitmap -/

section

variable {bitmap : Fin 16 → UInt8} {seq q : Fin 128}

private theorem toBitVec_bitmapBit (seq : Fin 128) :
    (bitmapBit seq).toBitVec = BitSet.bit 8 (seq % 8) := by
  have hall : ∀ k : Fin 8, ((1 : UInt8) <<< UInt8.ofNat k.val).toBitVec = BitSet.bit 8 k.val :=
    by decide
  exact hall ⟨seq % 8, Nat.mod_lt _ (by omega)⟩

/-- The byte of a sequence number is one of the bitmap. -/
theorem bitmapByte_lt (q : Fin 128) : q.val / 8 < 16 := by omega

theorem bitmapGet_eq :
    bitmapGet bitmap q = (bitmap ⟨q / 8, bitmapByte_lt q⟩).toBitVec.getLsbD (q % 8) := by
  have hzero : bitmap ⟨q / 8, by omega⟩ &&& bitmapBit q = 0 ↔
      (bitmap ⟨q / 8, by omega⟩).toBitVec.getLsbD (q % 8) = false := by
    rw [← BitSet.and_bit_eq_zero_iff, ← toBitVec_bitmapBit, ← UInt8.toBitVec_and, ← UInt8.toBitVec_inj]
    rfl
  rw [bitmapGet, Bool.eq_iff_iff, bne_iff_ne, ne_eq, hzero, Bool.not_eq_false]

@[simp] theorem bitmapGet_zero : bitmapGet (fun _ => 0) q = false := by
  rw [bitmapGet_eq]
  simp

/-- Setting a bit sets it and no other. -/
theorem bitmapGet_bitmapSet :
    bitmapGet (bitmapSet bitmap seq) q = (bitmapGet bitmap q || decide (seq = q)) := by
  rw [bitmapGet_eq, bitmapGet_eq, bitmapSet, Function.update_apply]
  by_cases hbyte : (⟨q / 8, by omega⟩ : Fin 16) = ⟨seq / 8, by omega⟩
  · rw [if_pos hbyte, UInt8.toBitVec_or, toBitVec_bitmapBit,
      BitSet.getLsbD_or_bit (Nat.mod_lt _ (by omega)), hbyte]
    have hdiv : q.val / 8 = seq.val / 8 := congrArg Fin.val hbyte
    have hiff : seq.val % 8 = q.val % 8 ↔ seq = q := by
      rw [Fin.ext_iff]
      omega
    simp only [hiff]
  · rw [if_neg hbyte]
    have hne : seq ≠ q := by
      rintro rfl
      exact hbyte rfl
    simp [hne]

/-- The sequence numbers a bitmap holds. -/
def fragmentsOf (bitmap : Fin 16 → UInt8) : Finset (Fin 128) :=
  Finset.univ.filter fun q => bitmapGet bitmap q = true

theorem mem_fragmentsOf : q ∈ fragmentsOf bitmap ↔ bitmapGet bitmap q = true := by
  simp [fragmentsOf]

theorem card_fragmentsOf_bitmapSet (h : bitmapGet bitmap seq = false) :
    (fragmentsOf (bitmapSet bitmap seq)).card = (fragmentsOf bitmap).card + 1 := by
  have hinsert : fragmentsOf (bitmapSet bitmap seq) = insert seq (fragmentsOf bitmap) := by
    ext q
    rw [mem_fragmentsOf, bitmapGet_bitmapSet, Finset.mem_insert, mem_fragmentsOf]
    simp only [Bool.or_eq_true, decide_eq_true_eq]
    constructor
    · rintro (h | rfl)
      · exact .inr h
      · exact .inl rfl
    · rintro (rfl | h)
      · exact .inr rfl
      · exact .inl h
  rw [hinsert, Finset.card_insert_of_notMem]
  rw [mem_fragmentsOf, h]
  exact Bool.false_ne_true

end

theorem bitmapIndex?_eq_some {seq : UInt8} (h : seq < 128) :
    bitmapIndex? seq = some ⟨seq.toNat, UInt8.lt_iff_toNat_lt.mp h⟩ := by
  have hlt : seq.toNat < 128 := UInt8.lt_iff_toNat_lt.mp h
  rw [bitmapIndex?, dif_pos (by omega)]

/-! ## Lengths and counts -/

/-- A DATA frame carries five bytes, so a message of `n` bytes needs
`⌈n / 5⌉` of them. -/
theorem expectedDataFrameCount_toNat {totalLen : UInt16} (h : totalLen.toNat ≤ 512) :
    (expectedDataFrameCount totalLen).toNat = (totalLen.toNat + 4) / 5 := by
  have h5 : (5 : UInt32).toNat = 5 := rfl
  have h1 : (1 : UInt32).toNat = 1 := rfl
  have hle : (1 : UInt32) ≤ totalLen.toUInt32 + 5 := by
    rw [UInt32.le_iff_toNat_le, UInt32.toNat_add, UInt16.toNat_toUInt32]
    omega
  rw [expectedDataFrameCount, UInt32.toNat_toUInt8, UInt32.toNat_div, UInt32.toNat_sub_of_le _ _ hle,
    UInt32.toNat_add, UInt16.toNat_toUInt32, h5, h1]
  omega

/-- **What holds of a session in use.** -/
structure CanReassemblySession.Valid (s : CanReassemblySession) : Prop where
  atLeast : 40 ≤ s.totalLen.toNat
  atMost : s.totalLen.toNat ≤ 512
  count : s.dataFrameCount.toNat = (s.totalLen.toNat + 4) / 5
  received : s.receivedCount.toNat = (fragmentsOf s.receivedBitmap).card
  incomplete : s.receivedCount < s.dataFrameCount
  inRange : ∀ q ∈ fragmentsOf s.receivedBitmap, q.val < s.dataFrameCount.toNat

variable {s : CanReassemblySession} {frame f : CanFrame} {ctx : CanReassemblyContext} {nowMs : UInt64}

/-- A DATA frame of a session in use starts inside the message. -/
theorem CanReassemblySession.Valid.start_lt (hs : s.Valid) {seq : UInt8} (h : seq < s.dataFrameCount) :
    seq.toNat * 5 < s.totalLen.toNat := by
  have hlt := UInt8.lt_iff_toNat_lt.mp h
  rw [hs.count] at hlt
  omega

theorem CanReassemblySession.Valid.lt_128 (hs : s.Valid) {seq : UInt8} (h : seq < s.dataFrameCount) :
    seq < 128 := by
  have hstart := hs.start_lt h
  have hmost := hs.atMost
  have h128 : (128 : UInt8).toNat = 128 := rfl
  rw [UInt8.lt_iff_toNat_lt]
  omega

theorem copyRange_eq (hs : s.Valid) {seq : UInt8} (h : seq < s.dataFrameCount) :
    copyRange s seq = (seq.toNat * 5, min (s.totalLen.toNat - seq.toNat * 5) 5) := by
  have hstart := hs.start_lt h
  have hmost := hs.atMost
  rw [copyRange, sizeSub_of_le (by omega) (by omega)]

/-- **Every copy lies inside the message, and every bit inside the
bitmap.** -/
theorem CanReassemblySession.Valid.copies (hs : s.Valid) {seq : UInt8} (h : seq < s.dataFrameCount) :
    (copyRange s seq).1 + (copyRange s seq).2 ≤ s.totalLen.toNat ∧ seq.toNat / 8 < 16 := by
  have hstart := hs.start_lt h
  have hmost := hs.atMost
  rw [copyRange_eq hs h]
  constructor
  · simp only
    omega
  · omega

/-! ## What a session has received -/

/-- What `find_session` is asked for when a frame arrives. -/
def CanFrame.key (f : CanFrame) : SessionKey := (normalizeSourceCanId f.canId, f.data 1)

/-- A data frame of eight bytes. -/
def CanFrame.isClassic (f : CanFrame) : Bool :=
  f.canId &&& canRtrFlag == 0 && f.canDlc == canAdapterClassicDlc

/-- A DATA frame. -/
def CanFrame.isData (f : CanFrame) : Bool := f.isClassic && f.data 0 == canAdapterFrameKindData

def CanFrame.sofLength (f : CanFrame) : UInt16 := readLe16 (f.data 2) (f.data 3)

def CanFrame.sofCrc (f : CanFrame) : UInt16 := readLe16 (f.data 4) (f.data 5)

/-- An SOF frame that `handle_sof` accepts. -/
def CanFrame.opens (f : CanFrame) : Bool :=
  f.isClassic && f.data 0 == canAdapterFrameKindSof && decide (40 ≤ f.sofLength) &&
    decide (f.sofLength ≤ 512) && f.data 6 &&& ~~~0x01 == 0 &&
    f.data 7 == expectedDataFrameCount f.sofLength

theorem CanFrame.opens_iff : f.opens = true ↔ f.isClassic = true ∧ f.data 0 = canAdapterFrameKindSof ∧
    40 ≤ f.sofLength ∧ f.sofLength ≤ 512 ∧ f.data 6 &&& ~~~0x01 = 0 ∧
      f.data 7 = expectedDataFrameCount f.sofLength := by
  simp only [CanFrame.opens, Bool.and_eq_true, decide_eq_true_eq, beq_iff_eq, and_assoc]

/-- The most recent SOF with a key. Histories begin with the newest
frame. -/
def lastSof (isSof : CanFrame → Bool) (key : SessionKey) (history : List CanFrame) : Option CanFrame :=
  history.find? fun f => isSof f && f.key == key

/-- What has arrived since. -/
def sinceSof (isSof : CanFrame → Bool) (key : SessionKey) (history : List CanFrame) : List CanFrame :=
  history.takeWhile fun f => !(isSof f && f.key == key)

/-- **Where the bytes of a message come from**: its length and its CRC
from the most recent SOF with its key, every byte from a DATA frame with
that key that came after it. -/
structure MadeFrom (isSof : CanFrame → Bool) (history : List CanFrame) (key : SessionKey)
    (msg : List UInt8) : Prop where
  sof : ∃ sof, lastSof isSof key history = some sof ∧ msg.length = sof.sofLength.toNat ∧
    unifiedCrc16CcittFalse msg = sof.sofCrc
  bytes : ∀ p < msg.length, ∃ d ∈ sinceSof isSof key history, d.isData = true ∧ d.key = key ∧
    (d.data 2).toNat = p / 5 ∧ msg.getD p 0 = d.data (Fin.ofNat 8 (3 + p % 5))

/-- A session holds what has arrived since its SOF. -/
structure Assembles (history : List CanFrame) (s : CanReassemblySession) : Prop where
  sof : ∃ sof, lastSof CanFrame.opens s.key history = some sof ∧ s.totalLen = sof.sofLength ∧
    s.fullCrc16 = sof.sofCrc
  bytes : ∀ q ∈ fragmentsOf s.receivedBitmap, ∀ j < 5, q.val * 5 + j < s.totalLen.toNat →
    ∃ d ∈ sinceSof CanFrame.opens s.key history, d.isData = true ∧ d.key = s.key ∧
      (d.data 2).toNat = q.val ∧ s.buffer (Fin.ofNat 512 (q.val * 5 + j)) = d.data (Fin.ofNat 8 (3 + j))

/-- **The invariant of the table.** -/
structure Reassembling (history : List CanFrame) (T : Fin 8 → CanReassemblySession) : Prop where
  distinct : SlotTable.Distinct CanReassemblySession.inUse CanReassemblySession.key T
  valid : ∀ i, (T i).inUse = true → (T i).Valid
  assembles : ∀ i, (T i).inUse = true → Assembles history (T i)

variable {history : List CanFrame} {T : Fin 8 → CanReassemblySession}

/-- A frame that opens no session of the key does not count for it. -/
theorem Assembles.cons (h : Assembles history s) (hf : f.opens = true → f.key ≠ s.key) :
    Assembles (f :: history) s := by
  have hno : (f.opens && f.key == s.key) = false := by
    cases hopens : f.opens with
    | false => rfl
    | true => simpa using hf hopens
  have hsince : sinceSof CanFrame.opens s.key (f :: history) =
      f :: sinceSof CanFrame.opens s.key history := by
    simp only [sinceSof, List.takeWhile_cons, hno]
    rfl
  have hlast : lastSof CanFrame.opens s.key (f :: history) = lastSof CanFrame.opens s.key history := by
    simp only [lastSof, List.find?_cons, hno]
  constructor
  · rw [hlast]
    exact h.sof
  · intro q hq j hj hp
    obtain ⟨d, hd, hrest⟩ := h.bytes q hq j hj hp
    exact ⟨d, by rw [hsince]; exact List.mem_cons_of_mem _ hd, hrest⟩

/-- A frame after which the table is as before, or with fewer sessions. -/
theorem Reassembling.cons (h : Reassembling history T)
    (hf : ∀ i, (T i).inUse = true → f.opens = true → f.key ≠ (T i).key) :
    Reassembling (f :: history) T where
  distinct := h.distinct
  valid := h.valid
  assembles i hi := (h.assembles i hi).cons (hf i hi)

/-- A scan for timeouts clears sessions and changes none. -/
theorem Reassembling.scan (h : Reassembling history ctx.sessions) (nowMs : UInt64) :
    Reassembling history (canAdapterReassemblyScanTimeouts ctx nowMs).sessions := by
  have hclear : ∀ s : CanReassemblySession, (clearSession s).inUse = false := fun _ => rfl
  have hlive : ∀ i, ((canAdapterReassemblyScanTimeouts ctx nowMs).sessions i).inUse = true →
      (ctx.sessions i).inUse = true ∧
        (canAdapterReassemblyScanTimeouts ctx nowMs).sessions i = ctx.sessions i :=
    fun i hi => ⟨((SlotTable.live_sweep_iff hclear).mp hi).1, SlotTable.sweep_of_live hclear hi⟩
  refine ⟨h.distinct.sweep hclear, fun i hi => ?_, fun i hi => ?_⟩
  · rw [(hlive i hi).2]
    exact h.valid i (hlive i hi).1
  · rw [(hlive i hi).2]
    exact h.assembles i (hlive i hi).1

/-! ## An SOF frame -/

variable {sourceCanId : UInt32} {sessionId : UInt8} {i j : Fin 8}

/-- A well-formed SOF frame opens its session in the slot there is. -/
theorem handleSof_of_opens (h : frame.opens = true) {ctx' : CanReassemblyContext}
    (hslot : sofSlot ctx sourceCanId (frame.data 1) nowMs = (some i, ctx')) :
    handleSof ctx frame sourceCanId nowMs =
      (.ok, ctx'.putSession i (openedSession frame sourceCanId nowMs)) := by
  obtain ⟨-, -, hleast, hmost, hflags, hcount⟩ := CanFrame.opens_iff.mp h
  have hlength : ¬ (readLe16 (frame.data 2) (frame.data 3) < anymsgHeaderSize) :=
    UInt16.not_lt.mpr hleast
  have hle : ¬ (readLe16 (frame.data 2) (frame.data 3) > 512) := UInt16.not_lt.mpr hmost
  have hpos : frame.data 7 ≠ 0 := by
    intro hzero
    have hnat : (expectedDataFrameCount frame.sofLength).toNat = 0 := by
      rw [← hcount, hzero]
      rfl
    have hleast' := UInt16.le_iff_toNat_le.mp hleast
    have hmost' := UInt16.le_iff_toNat_le.mp hmost
    have h40 : (40 : UInt16).toNat = 40 := rfl
    have h512 : (512 : UInt16).toNat = 512 := rfl
    rw [expectedDataFrameCount_toNat (by omega)] at hnat
    omega
  have hcount' : frame.data 7 = expectedDataFrameCount (readLe16 (frame.data 2) (frame.data 3)) :=
    hcount
  rw [handleSof]
  simp only [hlength, hle, hflags, hpos, ← hcount', hslot, decide_false, Bool.or_false, ne_eq,
    not_true_eq_false, Bool.false_eq_true, if_false]

/-- A malformed SOF frame is rejected. -/
theorem handleSof_of_not_opens (hclassic : frame.isClassic = true)
    (hkind : frame.data 0 = canAdapterFrameKindSof) (h : frame.opens = false) :
    (handleSof ctx frame sourceCanId nowMs).2.sessions = ctx.sessions := by
  rw [handleSof]
  split
  · rfl
  · rename_i hshape
    split
    · rfl
    · rename_i hcount
      exfalso
      simp only [Bool.or_eq_true, decide_eq_true_eq, not_or, ne_eq, not_not, gt_iff_lt,
        UInt16.not_lt] at hshape hcount
      obtain ⟨⟨hleast, hmost⟩, hflags⟩ := hshape
      have hopens : frame.opens = true :=
        CanFrame.opens_iff.mpr ⟨hclassic, hkind, hleast, hmost, hflags, hcount.2⟩
      rw [hopens] at h
      cases h

theorem findOldestFrom_isSome : ∀ (slots : List (Fin 8)) (oldest : Option (Fin 8)),
    (oldest.isSome = true ∨ ∃ i ∈ slots, (ctx.sessions i).inUse = true) →
      (ctx.findOldestFrom slots oldest).isSome = true := by
  intro slots
  induction slots with
  | nil =>
    rintro oldest (h | ⟨i, hi, -⟩)
    · exact h
    · cases hi
  | cons a rest ih =>
    intro oldest h
    unfold CanReassemblyContext.findOldestFrom
    cases hlive : (ctx.sessions a).inUse with
    | false =>
      rw [if_pos (by simp)]
      refine ih oldest (h.imp_right ?_)
      rintro ⟨i, hi, hin⟩
      rcases List.mem_cons.mp hi with rfl | hi
      · rw [hlive] at hin
        cases hin
      · exact ⟨i, hi, hin⟩
    | true =>
      rw [if_neg (by simp)]
      cases oldest with
      | none => exact ih _ (.inl rfl)
      | some j =>
        simp only
        split
        · exact ih _ (.inl rfl)
        · exact ih _ (.inl rfl)

/-- **There is always a slot**, and the sessions in the others have other
keys. -/
theorem sofSlot_cases (sourceCanId : UInt32) (sessionId : UInt8) (nowMs : UInt64)
    (hT : SlotTable.Distinct CanReassemblySession.inUse CanReassemblySession.key ctx.sessions) :
    ∃ i ctx', sofSlot ctx sourceCanId sessionId nowMs = (some i, ctx') ∧
      (ctx'.sessions = ctx.sessions ∨
        ctx'.sessions = (canAdapterReassemblyScanTimeouts ctx nowMs).sessions) ∧
      ∀ j, j ≠ i → (ctx'.sessions j).inUse = true →
        (ctx'.sessions j).key ≠ (sourceCanId, sessionId) := by
  rw [sofSlot]
  cases hfind : ctx.findSession sourceCanId sessionId with
  | some i =>
    obtain ⟨hlive, hkey⟩ := SlotTable.find_eq_some hfind
    refine ⟨i, _, rfl, .inl rfl, fun j hj hlive' hkey' => hj ?_⟩
    exact hT j i hlive' hlive (hkey'.trans hkey.symm)
  | none =>
    have hnone := SlotTable.find_eq_none_iff.mp hfind
    have hclear : ∀ s : CanReassemblySession, (clearSession s).inUse = false := fun _ => rfl
    have hother : ∀ j, ((canAdapterReassemblyScanTimeouts ctx nowMs).sessions j).inUse = true →
        ((canAdapterReassemblyScanTimeouts ctx nowMs).sessions j).key ≠ (sourceCanId, sessionId) := by
      intro j hj
      have hsame : (canAdapterReassemblyScanTimeouts ctx nowMs).sessions j = ctx.sessions j :=
        SlotTable.sweep_of_live hclear hj
      rw [hsame]
      exact hnone j ((SlotTable.live_sweep_iff hclear).mp hj).1
    cases hfree : (canAdapterReassemblyScanTimeouts ctx nowMs).findFreeSession with
    | some i => exact ⟨i, _, by simp only [hfree], .inr rfl, fun j _ hj => hother j hj⟩
    | none =>
      have hall := SlotTable.findFree_eq_none_iff.mp hfree
      have hsome := findOldestFrom_isSome (List.finRange 8) none (.inr ⟨0, List.mem_finRange 0, hall 0⟩)
      obtain ⟨i, hi⟩ := Option.isSome_iff_exists.mp hsome
      refine ⟨i, ((canAdapterReassemblyScanTimeouts ctx nowMs).recordEvent .sessionNoBuffer).recordError
        "can_session_no_buffer" .ipcQueueFull, ?_, .inr rfl, fun j _ hj => hother j hj⟩
      simp only [hfree, CanReassemblyContext.findOldestSession, hi]

theorem openedSession_valid (h : f.opens = true) : (openedSession f sourceCanId nowMs).Valid := by
  obtain ⟨-, -, hleast, hmost, -, hcount⟩ := CanFrame.opens_iff.mp h
  have h40 : (40 : UInt16).toNat = 40 := rfl
  have h512 : (512 : UInt16).toNat = 512 := rfl
  have hleast' := UInt16.le_iff_toNat_le.mp hleast
  have hmost' := UInt16.le_iff_toNat_le.mp hmost
  have hcount' : (f.data 7).toNat = (f.sofLength.toNat + 4) / 5 := by
    rw [hcount, expectedDataFrameCount_toNat (by omega)]
  have hempty : fragmentsOf (openedSession f sourceCanId nowMs).receivedBitmap = ∅ := by
    ext q
    simp [mem_fragmentsOf, openedSession]
  constructor
  · rw [h40] at hleast'
    exact hleast'
  · rw [h512] at hmost'
    exact hmost'
  · exact hcount'
  · rw [hempty]
    rfl
  · have hzero : (openedSession f sourceCanId nowMs).receivedCount.toNat = 0 := rfl
    show (openedSession f sourceCanId nowMs).receivedCount < f.data 7
    rw [UInt8.lt_iff_toNat_lt, hcount', hzero]
    omega
  · rw [hempty]
    simp

/-- **An SOF frame** opens the session it announces, in the place of any
other with its key. -/
theorem Reassembling.sof (h : Reassembling history ctx.sessions) (hopens : f.opens = true) :
    Reassembling (f :: history) (handleSof ctx f (normalizeSourceCanId f.canId) nowMs).2.sessions := by
  obtain ⟨i, ctx', hslot, hsessions, hother⟩ :=
    sofSlot_cases (normalizeSourceCanId f.canId) (f.data 1) nowMs h.distinct
  have h' : Reassembling history ctx'.sessions := by
    rcases hsessions with hsame | hscan
    · rw [hsame]
      exact h
    · rw [hscan]
      exact h.scan nowMs
  rw [handleSof_of_opens hopens hslot]
  have hself : f.opens && f.key == f.key := by simp [hopens]
  refine ⟨h'.distinct.update_live fun j hj hlive => hother j hj hlive, fun j hj => ?_, fun j hj => ?_⟩
  · by_cases hji : j = i
    · rw [hji]
      simp only [CanReassemblyContext.putSession, Function.update_self]
      exact openedSession_valid hopens
    · simp only [CanReassemblyContext.putSession, Function.update_of_ne hji] at hj ⊢
      exact h'.valid j hj
  · by_cases hji : j = i
    · rw [hji]
      simp only [CanReassemblyContext.putSession, Function.update_self]
      refine ⟨⟨f, ?_, rfl, rfl⟩, fun q hq => ?_⟩
      · exact List.find?_cons_of_pos hself
      · rw [mem_fragmentsOf] at hq
        simp [openedSession] at hq
    · simp only [CanReassemblyContext.putSession, Function.update_of_ne hji] at hj ⊢
      exact (h'.assembles j hj).cons fun _ hkey => hother j hji hj hkey.symm

/-! ## A DATA frame -/

variable {seq : Fin 128}

theorem CanFrame.isData_iff : f.isData = true ↔ f.isClassic = true ∧
    f.data 0 = canAdapterFrameKindData := by
  simp only [CanFrame.isData, Bool.and_eq_true, beq_iff_eq]

/-- A DATA frame opens nothing. -/
theorem CanFrame.opens_of_isData (h : f.isData = true) : f.opens = false := by
  obtain ⟨-, hkind⟩ := CanFrame.isData_iff.mp h
  cases hopens : f.opens with
  | false => rfl
  | true =>
    obtain ⟨-, hsof, -⟩ := CanFrame.opens_iff.mp hopens
    rw [hkind] at hsof
    cases hsof

section

variable (s : CanReassemblySession) (f : CanFrame) (seq : Fin 128) (nowMs : UInt64)

@[simp] theorem receive_key : (s.receive f seq nowMs).key = s.key := rfl
@[simp] theorem receive_dataFrameCount :
    (s.receive f seq nowMs).dataFrameCount = s.dataFrameCount := rfl
@[simp] theorem receive_receivedBitmap :
    (s.receive f seq nowMs).receivedBitmap = bitmapSet s.receivedBitmap seq := rfl

end

/-- **A DATA frame** is dropped, as an orphan, out of range or a duplicate,
or received in its session. -/
theorem handleData_cases (f : CanFrame) (sourceCanId : UInt32) (nowMs : UInt64)
    (hvalid : ∀ i, (ctx.sessions i).inUse = true → (ctx.sessions i).Valid) :
    ∃ r, handleData ctx f sourceCanId nowMs = some r ∧
      ((r.2.1 = none ∧ r.2.2.sessions = ctx.sessions ∧
          ∀ i, ctx.findSession sourceCanId (f.data 1) = some i →
            f.data 2 < (ctx.sessions i).dataFrameCount → ∃ seq : Fin 128, seq.val = (f.data 2).toNat ∧
              bitmapGet (ctx.sessions i).receivedBitmap seq = true) ∨
        ∃ i seq, ctx.findSession sourceCanId (f.data 1) = some i ∧
          f.data 2 < (ctx.sessions i).dataFrameCount ∧ seq.val = (f.data 2).toNat ∧
          bitmapGet (ctx.sessions i).receivedBitmap seq = false ∧
          r = receiveData ctx i ((ctx.sessions i).receive f seq nowMs)) := by
  rw [handleData]
  cases hfind : ctx.findSession sourceCanId (f.data 1) with
  | none => exact ⟨_, rfl, .inl ⟨rfl, rfl, fun i hi => by cases hi⟩⟩
  | some i =>
    have hs := hvalid i (SlotTable.find_eq_some hfind).1
    simp only
    by_cases hrange : f.data 2 ≥ (ctx.sessions i).dataFrameCount
    · rw [if_pos hrange]
      refine ⟨_, rfl, .inl ⟨rfl, rfl, fun j hj hlt => ?_⟩⟩
      cases hj
      exact absurd hlt (UInt8.not_lt.mpr hrange)
    · rw [if_neg hrange]
      have hlt : f.data 2 < (ctx.sessions i).dataFrameCount := UInt8.not_le.mp hrange
      rw [bitmapIndex?_eq_some (hs.lt_128 hlt)]
      simp only
      split
      · rename_i hdup
        refine ⟨_, rfl, .inl ⟨rfl, rfl, fun j hj _ => ?_⟩⟩
        cases hj
        exact ⟨_, rfl, hdup⟩
      · rename_i hnew
        have hcopy := (hs.copies hlt).1
        have hmost := hs.atMost
        rw [if_pos ⟨by omega, hmost⟩]
        exact ⟨_, rfl, .inr ⟨i, _, rfl, hlt, rfl, Bool.not_eq_true _ ▸ hnew, rfl⟩⟩

theorem receivedCount_receive (hs : s.Valid) (hseq : bitmapGet s.receivedBitmap seq = false) :
    (s.receive f seq nowMs).receivedCount.toNat =
      (fragmentsOf (bitmapSet s.receivedBitmap seq)).card := by
  have hlt := UInt8.lt_iff_toNat_lt.mp hs.incomplete
  have hmost := hs.atMost
  have hcount := hs.count
  have h1 : (1 : UInt8).toNat = 1 := rfl
  rw [card_fragmentsOf_bitmapSet hseq, ← hs.received]
  show (s.receivedCount + 1).toNat = _
  rw [UInt8.toNat_add, h1]
  omega

theorem mem_fragmentsOf_bitmapSet {bitmap : Fin 16 → UInt8} {q : Fin 128} :
    q ∈ fragmentsOf (bitmapSet bitmap seq) ↔ q ∈ fragmentsOf bitmap ∨ q = seq := by
  rw [mem_fragmentsOf, bitmapGet_bitmapSet, mem_fragmentsOf, Bool.or_eq_true, decide_eq_true_eq]
  exact or_congr_right eq_comm

/-- **A fragment received** leaves the session valid as long as others are
missing. -/
theorem CanReassemblySession.Valid.receive (hs : s.Valid) (hseq : seq.val = (f.data 2).toNat)
    (hlt : f.data 2 < s.dataFrameCount) (hnew : bitmapGet s.receivedBitmap seq = false)
    (hmissing : (s.receive f seq nowMs).receivedCount < s.dataFrameCount) :
    (s.receive f seq nowMs).Valid where
  atLeast := hs.atLeast
  atMost := hs.atMost
  count := hs.count
  received := receivedCount_receive hs hnew
  incomplete := hmissing
  inRange q hq := by
    rcases mem_fragmentsOf_bitmapSet.mp hq with hold | rfl
    · exact hs.inRange q hold
    · rw [hseq]
      exact UInt8.lt_iff_toNat_lt.mp hlt

/-- What a fragment writes of the message. -/
theorem buffer_receive (hs : s.Valid) (hlt : f.data 2 < s.dataFrameCount) {p : ℕ}
    (hp : p < s.totalLen.toNat) :
    (s.receive f seq nowMs).buffer (Fin.ofNat 512 p) =
      if p / 5 = (f.data 2).toNat then f.data (Fin.ofNat 8 (3 + p % 5)) else s.buffer
        (Fin.ofNat 512 p) := by
  have hmost := hs.atMost
  have hval : (Fin.ofNat 512 p).val = p := Nat.mod_eq_of_lt (by omega)
  simp only [CanReassemblySession.receive, FrameBlock.copyIn, copyRange_eq hs hlt, hval]
  by_cases hq : p / 5 = (f.data 2).toNat
  · rw [if_pos hq, if_pos (by omega)]
    have hindex : p - (f.data 2).toNat * 5 = p % 5 := by omega
    simp only [hindex]
  · rw [if_neg hq, if_neg (by omega)]

theorem Assembles.receive (nowMs : UInt64) (h : Assembles history s) (hs : s.Valid)
    (hdata : f.isData = true)
    (hkey : f.key = s.key) (hseq : seq.val = (f.data 2).toNat) (hlt : f.data 2 < s.dataFrameCount) :
    Assembles (f :: history) (s.receive f seq nowMs) := by
  have hopens := CanFrame.opens_of_isData hdata
  have hcons : Assembles (f :: history) s := h.cons fun hf => by rw [hopens] at hf; cases hf
  have hsince : sinceSof CanFrame.opens s.key (f :: history) =
      f :: sinceSof CanFrame.opens s.key history := by
    simp only [sinceSof, List.takeWhile_cons, hopens]
    rfl
  refine ⟨hcons.sof, fun q hq j hj hp => ?_⟩
  have hdiv : (q.val * 5 + j) / 5 = q.val := by omega
  have hmod : (q.val * 5 + j) % 5 = j := by omega
  rw [buffer_receive hs hlt hp, hdiv, hmod]
  by_cases hq' : q.val = (f.data 2).toNat
  · rw [if_pos hq']
    refine ⟨f, ?_, hdata, hkey, hq'.symm, rfl⟩
    rw [receive_key, hsince]
    exact List.mem_cons_self
  · rw [if_neg hq']
    rcases mem_fragmentsOf_bitmapSet.mp hq with hold | rfl
    · exact hcons.bytes q hold j hj hp
    · exact absurd hseq hq'

/-! ## A complete message -/

/-- As many fragments as there are to come are all of them. -/
theorem mem_fragmentsOf_of_card {bitmap : Fin 16 → UInt8} {n : ℕ}
    (hcard : n ≤ (fragmentsOf bitmap).card)
    (hrange : ∀ q ∈ fragmentsOf bitmap, q.val < n) (hn : n ≤ 128) (q : ℕ) (hq : q < n) :
    ⟨q, by omega⟩ ∈ fragmentsOf bitmap := by
  have hsub : (fragmentsOf bitmap).image Fin.val ⊆ Finset.range n := by
    intro k hk
    obtain ⟨a, ha, rfl⟩ := Finset.mem_image.mp hk
    exact Finset.mem_range.mpr (hrange a ha)
  have himage : ((fragmentsOf bitmap).image Fin.val).card = (fragmentsOf bitmap).card :=
    Finset.card_image_of_injective _ Fin.val_injective
  have heq : (fragmentsOf bitmap).image Fin.val = Finset.range n :=
    Finset.eq_of_subset_of_card_le hsub (by rw [himage, Finset.card_range]; exact hcard)
  have hmem : q ∈ (fragmentsOf bitmap).image Fin.val := by
    rw [heq]
    exact Finset.mem_range.mpr hq
  obtain ⟨a, ha, rfl⟩ := Finset.mem_image.mp hmem
  exact ha

/-- The fragment after which none is missing. -/
theorem CanReassemblySession.Valid.all_received (hs : s.Valid) (hseq : seq.val = (f.data 2).toNat)
    (hlt : f.data 2 < s.dataFrameCount) (hnew : bitmapGet s.receivedBitmap seq = false)
    (hcomplete : ¬ (s.receive f seq nowMs).receivedCount < s.dataFrameCount) (q : ℕ)
    (hq : q < s.dataFrameCount.toNat) :
    ∃ q' ∈ fragmentsOf (bitmapSet s.receivedBitmap seq), q'.val = q := by
  have hall := UInt8.le_iff_toNat_le.mp (UInt8.not_lt.mp hcomplete)
  rw [receivedCount_receive hs hnew] at hall
  have hmost := hs.atMost
  have hcount := hs.count
  have hrange : ∀ q ∈ fragmentsOf (bitmapSet s.receivedBitmap seq), q.val < s.dataFrameCount.toNat := by
    intro q hq
    rcases mem_fragmentsOf_bitmapSet.mp hq with hold | rfl
    · exact hs.inRange q hold
    · rw [hseq]
      exact UInt8.lt_iff_toNat_lt.mp hlt
  exact ⟨_, mem_fragmentsOf_of_card hall hrange (by omega) q hq, rfl⟩

/-- What is handed over is what the session holds. -/
theorem upTo_completed (b b' : FrameBlock) {n : ℕ} (hn : n ≤ 512) :
    (b.copyIn 0 (fun k => b' (Fin.ofNat 512 k)) n).upTo n = b'.upTo n := by
  refine List.ext_getElem (by simp [hn]) fun k hk hk' => ?_
  rw [FrameBlock.length_upTo hn] at hk
  simp only [FrameBlock.upTo, List.getElem_map, List.getElem_take, List.getElem_finRange,
    FrameBlock.copyIn]
  rw [if_pos (by simp; omega)]
  refine congrArg b' (Fin.ext ?_)
  show (k - 0) % 512 = k
  omega

/-- **A session that has all its fragments and the right CRC** is a message
made of them. -/
theorem Assembles.madeFrom (h : Assembles history s) (hmost : s.totalLen.toNat ≤ 512)
    (hcount : s.dataFrameCount.toNat = (s.totalLen.toNat + 4) / 5)
    (hall : ∀ q < s.dataFrameCount.toNat, ∃ q' ∈ fragmentsOf s.receivedBitmap, q'.val = q)
    (hcrc : unifiedCrc16CcittFalse (s.buffer.upTo s.totalLen.toNat) = s.fullCrc16) :
    MadeFrom CanFrame.opens history s.key (s.buffer.upTo s.totalLen.toNat) := by
  have hlen : (s.buffer.upTo s.totalLen.toNat).length = s.totalLen.toNat := FrameBlock.length_upTo hmost
  obtain ⟨sof, hsof, htotal, hfull⟩ := h.sof
  constructor
  · exact ⟨sof, hsof, by rw [hlen, htotal], by rw [hcrc, hfull]⟩
  · intro p hp
    rw [hlen] at hp
    obtain ⟨q, hq, hqp⟩ := hall (p / 5) (by omega)
    have hindex : q.val * 5 + p % 5 = p := by omega
    obtain ⟨d, hd, hdata, hkey, hseq, hbyte⟩ := h.bytes q hq (p % 5) (by omega) (by omega)
    refine ⟨d, hd, hdata, hkey, by omega, ?_⟩
    rw [hindex] at hbyte
    rw [FrameBlock.getD_upTo p hp hmost, ← hbyte]
    exact congrArg s.buffer (Fin.ext (Nat.mod_eq_of_lt (by omega)).symm)

/-- Overwriting a session with one of its own key, or clearing it. -/
theorem Reassembling.put (h : Reassembling history T)
    (hi : (T i).inUse = true) {s : CanReassemblySession}
    (hf : f.opens = false) (hkey : s.inUse = true → s.key = (T i).key ∧ s.Valid ∧
    Assembles (f :: history) s) :
    Reassembling (f :: history) (Function.update T i s) := by
  have hcons : Reassembling (f :: history) T :=
    h.cons fun j _ hopens => by rw [hf] at hopens; cases hopens
  refine ⟨?_, fun j hj => ?_, fun j hj => ?_⟩
  · cases hlive : s.inUse with
    | false => exact h.distinct.update_free hlive
    | true =>
      refine h.distinct.update_live fun j hji hj hjkey => hji ?_
      exact h.distinct j i hj hi (hjkey.trans (hkey hlive).1)
  · by_cases hji : j = i
    · subst hji
      rw [Function.update_self] at hj ⊢
      exact (hkey hj).2.1
    · rw [Function.update_of_ne hji] at hj ⊢
      exact h.valid j hj
  · by_cases hji : j = i
    · subst hji
      rw [Function.update_self] at hj ⊢
      exact (hkey hj).2.2
    · rw [Function.update_of_ne hji] at hj ⊢
      exact hcons.assembles j hj

/-- **A DATA frame** goes to its session, and the last one makes the
message. -/
theorem Reassembling.data (h : Reassembling history ctx.sessions) (hdata : f.isData = true) :
    ∃ r, handleData ctx f (normalizeSourceCanId f.canId) nowMs = some r ∧
      Reassembling (f :: history) r.2.2.sessions ∧
      ∀ msg, r.2.1 = some msg → MadeFrom CanFrame.opens (f :: history) f.key msg := by
  have hopens := CanFrame.opens_of_isData hdata
  obtain ⟨r, hr, hcases⟩ := handleData_cases f (normalizeSourceCanId f.canId) nowMs h.valid
  refine ⟨r, hr, ?_⟩
  rcases hcases with ⟨hnone, hsame, -⟩ | ⟨i, seq, hfind, hlt, hseq, hnew, rfl⟩
  · -- dropped: the sessions stay, over a longer history
    rw [hsame, hnone]
    refine ⟨h.cons fun j _ hf => ?_, fun msg hmsg => by cases hmsg⟩
    rw [hopens] at hf
    cases hf
  · obtain ⟨hlive, hkey⟩ := SlotTable.find_eq_some hfind
    have hs := h.valid i hlive
    have hreceived := (h.assembles i hlive).receive nowMs hs hdata hkey.symm hseq hlt
    rw [receiveData]
    split
    · rename_i hmissing
      refine ⟨h.put hlive hopens fun _ => ⟨rfl, ?_, hreceived⟩, fun msg hmsg => by cases hmsg⟩
      exact hs.receive hseq hlt hnew hmissing
    · rename_i hcomplete
      -- a complete session is cleared, whatever its checksum says
      have hcleared : Reassembling (f :: history) (Function.update ctx.sessions i
          (clearSession ((ctx.sessions i).receive f seq nowMs))) :=
        h.put hlive hopens fun hin => by cases hin
      split
      · exact ⟨hcleared, fun msg hmsg => by cases hmsg⟩
      · rename_i hcrc
        refine ⟨hcleared, fun msg hmsg => ?_⟩
        have hmsg' := Option.some.inj hmsg
        have hmost : ((ctx.sessions i).receive f seq nowMs).totalLen.toNat ≤ 512 := hs.atMost
        rw [upTo_completed _ _ hmost] at hmsg'
        rw [← hmsg', show f.key = ((ctx.sessions i).receive f seq nowMs).key from hkey.symm]
        exact hreceived.madeFrom hmost hs.count (hs.all_received hseq hlt hnew hcomplete)
          (not_not.mp hcrc)

/-! ## Any traffic -/

/-- A frame that is neither an SOF nor a DATA frame opens nothing and
leaves the sessions to the scan. -/
theorem reassembleFrame_cases (ctx : CanReassemblyContext) (f : CanFrame) (nowMs : UInt64) :
    (f.isClassic = true ∧ f.data 0 = canAdapterFrameKindSof ∧ canAdapterReassembleFrame ctx f nowMs =
        some ((handleSof (canAdapterReassemblyScanTimeouts ctx nowMs) f
          (normalizeSourceCanId f.canId) nowMs).1,
          none,
          (handleSof (canAdapterReassemblyScanTimeouts ctx nowMs) f
            (normalizeSourceCanId f.canId) nowMs).2)) ∨
      (f.isData = true ∧ canAdapterReassembleFrame ctx f nowMs =
        handleData (canAdapterReassemblyScanTimeouts ctx nowMs) f
          (normalizeSourceCanId f.canId) nowMs) ∨
      (f.isData = false ∧ f.opens = false ∧ ∃ r, canAdapterReassembleFrame ctx f nowMs = some r ∧
        r.2.1 = none ∧
        r.2.2.sessions = (canAdapterReassemblyScanTimeouts ctx nowMs).sessions) := by
  -- a frame that is not classic neither opens nor continues
  have hnot : f.isClassic = false → f.isData = false ∧ f.opens = false := by
    intro hclassic
    constructor
    · rw [CanFrame.isData, hclassic, Bool.false_and]
    · cases hopens : f.opens with
      | false => rfl
      | true =>
        have hyes := (CanFrame.opens_iff.mp hopens).1
        rw [hclassic] at hyes
        cases hyes
  rw [canAdapterReassembleFrame]
  simp only
  by_cases hrtr : f.canId &&& canRtrFlag = 0
  · by_cases hdlc : f.canDlc = canAdapterClassicDlc
    · have hclassic : f.isClassic = true := by
        rw [CanFrame.isClassic, hrtr, hdlc]
        rfl
      rw [if_neg (not_not.mpr hrtr), if_neg (not_not.mpr hdlc)]
      by_cases hsof : f.data 0 = canAdapterFrameKindSof
      · rw [if_pos hsof]
        exact .inl ⟨hclassic, hsof, rfl⟩
      · rw [if_neg hsof]
        by_cases hdata : f.data 0 = canAdapterFrameKindData
        · rw [if_pos hdata]
          exact .inr (.inl ⟨CanFrame.isData_iff.mpr ⟨hclassic, hdata⟩, rfl⟩)
        · rw [if_neg hdata]
          refine .inr (.inr ⟨?_, ?_, _, rfl, rfl, rfl⟩)
          · rw [Bool.eq_false_iff, ne_eq, CanFrame.isData_iff]
            exact fun h => hdata h.2
          · rw [Bool.eq_false_iff, ne_eq, CanFrame.opens_iff]
            exact fun h => hsof h.2.1
    · rw [if_neg (not_not.mpr hrtr), if_pos hdlc]
      have hclassic : f.isClassic = false := by
        rw [CanFrame.isClassic, beq_false_of_ne hdlc, Bool.and_false]
      exact .inr (.inr ⟨(hnot hclassic).1, (hnot hclassic).2, _, rfl, rfl, rfl⟩)
  · rw [if_pos hrtr]
    have hclassic : f.isClassic = false := by
      rw [CanFrame.isClassic, beq_false_of_ne hrtr, Bool.false_and]
    exact .inr (.inr ⟨(hnot hclassic).1, (hnot hclassic).2, _, rfl, rfl, rfl⟩)

/-- **One frame**, whatever it is. -/
theorem Reassembling.reassembleFrame (h : Reassembling history ctx.sessions) (f : CanFrame)
    (nowMs : UInt64) :
    ∃ r, canAdapterReassembleFrame ctx f nowMs = some r ∧ Reassembling (f :: history) r.2.2.sessions ∧
      ∀ msg, r.2.1 = some msg → MadeFrom CanFrame.opens (f :: history) f.key msg := by
  have hscan := h.scan nowMs
  rcases reassembleFrame_cases ctx f nowMs with ⟨hclassic, hsof, heq⟩ | ⟨hdata, heq⟩ |
      ⟨-, hopens, r, heq, hnone, hsame⟩
  · refine ⟨_, heq, ?_, fun msg hmsg => by cases hmsg⟩
    cases hopens : f.opens with
    | true => exact hscan.sof hopens
    | false =>
      rw [handleSof_of_not_opens hclassic hsof hopens]
      exact hscan.cons fun _ _ hf => by rw [hopens] at hf; cases hf
  · rw [heq]
    exact hscan.data hdata
  · refine ⟨r, heq, ?_, fun msg hmsg => by rw [hnone] at hmsg; cases hmsg⟩
    rw [hsame]
    exact hscan.cons fun _ _ hf => by rw [hopens] at hf; cases hf

/-- A context and the frames it has been given, at any times, with scans
for timeouts between them. -/
inductive Received : List CanFrame → CanReassemblyContext → Prop
  | init (reassemblyTimeoutMs : UInt32) : Received [] (canReassemblyContextInit reassemblyTimeoutMs)
  | frame {history : List CanFrame} {ctx : CanReassemblyContext} {f : CanFrame} {nowMs : UInt64}
      {r : UnifiedError × Option (List UInt8) × CanReassemblyContext} (h : Received history ctx)
      (hr : canAdapterReassembleFrame ctx f nowMs = some r) : Received (f :: history) r.2.2
  | scan {history : List CanFrame} {ctx : CanReassemblyContext} (h : Received history ctx)
    (nowMs : UInt64) :
      Received history (canAdapterReassemblyScanTimeouts ctx nowMs)

theorem Received.reassembling (h : Received history ctx) : Reassembling history ctx.sessions := by
  induction h with
  | init reassemblyTimeoutMs =>
    refine ⟨fun i j hi => ?_, fun i hi => ?_, fun i hi => ?_⟩
    · cases hi
    · cases hi
    · cases hi
  | @frame history ctx f nowMs r _ hr ih =>
    obtain ⟨r', hr', hsessions, -⟩ := ih.reassembleFrame f nowMs
    rw [hr] at hr'
    cases hr'
    exact hsessions
  | scan _ nowMs ih => exact ih.scan nowMs

/-! ## Runs -/

/-- Frames received one after another, the newest first in the list, and
the messages they complete, under the keys of the frames. -/
def receiveFrames (ctx : CanReassemblyContext) :
    List (CanFrame × UInt64) → Option (List (SessionKey × List UInt8) × CanReassemblyContext)
  | [] => some ([], ctx)
  | (f, nowMs) :: history =>
    match receiveFrames ctx history with
    | none => none
    | some (delivered, ctx) =>
      match canAdapterReassembleFrame ctx f nowMs with
      | none => none
      | some (_, msg, ctx) => some ((msg.map fun bytes => (f.key, bytes)).toList ++ delivered, ctx)

/-- One more frame. -/
theorem receiveFrames_cons {frames : List (CanFrame × UInt64)} {ctx' : CanReassemblyContext}
    {delivered : List (SessionKey × List UInt8)}
    {r : UnifiedError × Option (List UInt8) × CanReassemblyContext}
    (h : receiveFrames ctx frames = some (delivered, ctx'))
    (hr : canAdapterReassembleFrame ctx' f nowMs = some r) :
    receiveFrames ctx ((f, nowMs) :: frames) =
      some ((r.2.1.map fun bytes => (f.key, bytes)).toList ++ delivered, r.2.2) := by
  simp only [receiveFrames, h, hr]

theorem received_of_receiveFrames (timeoutMs : UInt32) (frames : List (CanFrame × UInt64)) :
    ∃ delivered ctx, receiveFrames (canReassemblyContextInit timeoutMs) frames = some (delivered, ctx) ∧
      Received (frames.map Prod.fst) ctx := by
  induction frames with
  | nil => exact ⟨[], _, rfl, .init timeoutMs⟩
  | cons head frames ih =>
    obtain ⟨delivered, ctx, hrun, hreceived⟩ := ih
    obtain ⟨r, hr, -⟩ := hreceived.reassembling.reassembleFrame head.1 head.2
    exact ⟨_, _, receiveFrames_cons hrun hr, hreceived.frame hr⟩

/-- Whatever claims to be an SOF frame, well formed or not. -/
def CanFrame.isSof (f : CanFrame) : Bool := f.isClassic && f.data 0 == canAdapterFrameKindSof

/-- The SOF and the first DATA frame of a message of 40 bytes, a malformed
SOF under the same key that announces 39 bytes, and the DATA frames that
are left but the last. The newest comes first. -/
def malformedSofTrace : List (CanFrame × UInt64) :=
  let msg := List.replicate 40 7
  let malformed := { sofFrame 1 0 msg with data := Function.update (sofFrame 1 0 msg).data 2 39 }
  ([6, 5, 4, 3, 2, 1].map fun seq => (dataFrame 1 0 msg seq, 0)) ++
    [(malformed, 0), (dataFrame 1 0 msg 0, 0), (sofFrame 1 0 msg, 0)]

/-- **Whatever has been received**, the sessions in use have keys of their
own, lengths between 40 and 512 with the fragments these need, and fewer
fragments received than there are; what a fragment writes lies inside the
message and the bitmap. The next frame is then handled without an access
outside an array, and a message it completes is made of what came since
the SOF that opened its session. -/
theorem reassembly_safe (h : Received history ctx) :
    (∀ i j, (ctx.sessions i).inUse = true → (ctx.sessions j).inUse = true →
        (ctx.sessions i).key = (ctx.sessions j).key → i = j) ∧
      (∀ i, (ctx.sessions i).inUse = true → (ctx.sessions i).Valid ∧
        ∀ seq < (ctx.sessions i).dataFrameCount,
          (copyRange (ctx.sessions i) seq).1 + (copyRange (ctx.sessions i) seq).2 ≤
            (ctx.sessions i).totalLen.toNat ∧ seq.toNat / 8 < 16) ∧
      ∀ f nowMs, ∃ r, canAdapterReassembleFrame ctx f nowMs = some r ∧
        ∀ msg, r.2.1 = some msg → MadeFrom CanFrame.opens (f :: history) f.key msg := by
  have hinv := h.reassembling
  refine ⟨hinv.distinct, fun i hi => ⟨hinv.valid i hi, fun seq hlt => (hinv.valid i hi).copies hlt⟩,
    fun f nowMs => ?_⟩
  obtain ⟨r, hr, -, hmade⟩ := hinv.reassembleFrame f nowMs
  exact ⟨r, hr, hmade⟩

theorem reassembly_safe_two_frames :
    ∃ ctx, Received [dataFrame 1 0 (List.replicate 40 7) 0, sofFrame 1 0 (List.replicate 40 7)] ctx ∧
      ∀ f nowMs, ∃ r, canAdapterReassembleFrame ctx f nowMs = some r ∧
        ∀ msg, r.2.1 = some msg → MadeFrom CanFrame.opens
          [f, dataFrame 1 0 (List.replicate 40 7) 0, sofFrame 1 0 (List.replicate 40 7)] f.key msg := by
  obtain ⟨-, ctx, -, hreceived⟩ := received_of_receiveFrames 500
    [(dataFrame 1 0 (List.replicate 40 7) 0, 1), (sofFrame 1 0 (List.replicate 40 7), 0)]
  exact ⟨ctx, hreceived, (reassembly_safe hreceived).2.2⟩

set_option maxRecDepth 100000 in
/-- A malformed SOF frame ends no session: the message that then completes
has its first bytes from before it. -/
theorem malformed_sof_ends_nothing :
    ¬ ∀ history ctx f nowMs r msg, Received history ctx →
      canAdapterReassembleFrame ctx f nowMs = some r → r.2.1 = some msg →
        MadeFrom CanFrame.isSof (f :: history) f.key msg := by
  intro hall
  obtain ⟨delivered, ctx, hrun, hreceived⟩ := received_of_receiveFrames 500 malformedSofTrace
  have hmessage : ((receiveFrames (canReassemblyContextInit 500) malformedSofTrace).bind fun c =>
      canAdapterReassembleFrame c.2 (dataFrame 1 0 (List.replicate 40 7) 7) 0).bind (·.2.1) =
        some (List.replicate 40 7) := by
    decide +kernel
  rw [hrun, Option.bind_some] at hmessage
  obtain ⟨r, hr, hmsg⟩ := Option.bind_eq_some_iff.mp hmessage
  have hmade := hall _ ctx _ 0 r _ hreceived hr hmsg
  obtain ⟨d, hd, -, -, hseq, -⟩ := hmade.bytes 0 (by decide)
  have hnone : ∀ d ∈ sinceSof CanFrame.isSof (dataFrame 1 0 (List.replicate 40 7) 7).key
      (dataFrame 1 0 (List.replicate 40 7) 7 :: malformedSofTrace.map Prod.fst),
      (d.data 2).toNat ≠ 0 / 5 := by
    decide +kernel
  exact hnone d hd hseq

end Linux

end PutGateway
