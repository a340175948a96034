import PutGateway.Lib.Framing
import PutGateway.Linux.EgressWorker
import PutGateway.Linux.Ingress
/-!
# Frames out of a TCP stream

`ethernet_adapter_handle_tcp_bytes` and its two siblings, which differ in
the handler they give a frame to and in the stage they record an error
under. Bytes arrive in chunks of any length; the buffer takes in first
the length field of a frame and then the rest of it. However the stream
is cut into chunks, the frames are those its length fields announce.
-/

namespace PutGateway

namespace Linux

/-! ## The receiver -/

/-- What `handle_tcp_bytes` calls: the handler of the adapter, which is
given the frame at the start of the buffer, and
`record_tcp_stream_decode_error`. -/
structure TcpAdapter (σ : Type) where
  handleDatagram : σ → List UInt8 → UnifiedError × σ
  recordTcpStreamDecodeError : σ → UnifiedError → σ

/-- `ethernet_tcp_stream_context_t` and its siblings. -/
structure TcpStreamContext (σ : Type) where
  rxCtx : σ
  buffer : FrameBlock
  bufferedLen : ℕ

variable {σ : Type}

/-- `ethernet_tcp_stream_init`. -/
def tcpStreamInit (rxCtx : σ) : TcpStreamContext σ := ⟨rxCtx, fun _ => 0, 0⟩

/-- `memcpy` of the next bytes of the input behind what is buffered. A
copy past the end of the buffer has no result. -/
def TcpStreamContext.append (s : TcpStreamContext σ) (bytes : List UInt8) :
    Option (TcpStreamContext σ) :=
  if s.bufferedLen + bytes.length ≤ 512 then
    some { s with
      buffer := FrameBlock.copyIn s.buffer s.bufferedLen (fun k => bytes.getD k 0) bytes.length
      bufferedLen := s.bufferedLen + bytes.length }
  else none

/-- Take `bytesNeeded` bytes of the input, or what there is of it. -/
def TcpStreamContext.takeIn (s : TcpStreamContext σ) (bytesNeeded : ℕ) (input : List UInt8) :
    Option (TcpStreamContext σ × List UInt8) :=
  let bytesToCopy := min input.length bytesNeeded
  if bytesToCopy > 0 then
    match s.append (input.take bytesToCopy) with
    | none => none
    | some s => some (s, input.drop bytesToCopy)
  else some (s, input)

/-- How a turn of the loop ends: with the rest of the input, or with a
`return`. -/
inductive TcpTurn (σ : Type)
  | next (s : TcpStreamContext σ) (input : List UInt8)
  | done (result : UnifiedError) (s : TcpStreamContext σ)

/-- The second half of the loop body, once the length field is there: its
check, the rest of the frame, and the frame when it is complete. -/
def tcpFrame (a : TcpAdapter σ) (s : TcpStreamContext σ) (input : List UInt8) : Option (TcpTurn σ) :=
  let msgLength := readLe16 (s.buffer 0) (s.buffer 1)
  if msgLength < anymsgHeaderSize || msgLength > 512 then
    some (.done .length
      { s with bufferedLen := 0, rxCtx := a.recordTcpStreamDecodeError s.rxCtx .length })
  else
    match s.takeIn (sizeSub msgLength.toNat s.bufferedLen) input with
    | none => none
    | some (s, input) =>
      if s.bufferedLen < msgLength.toNat then some (.next s input)
      else
        let r := a.handleDatagram s.rxCtx (FrameBlock.upTo s.buffer msgLength.toNat)
        let s := { s with rxCtx := r.2, bufferedLen := 0 }
        if r.1 ≠ .ok then some (.done r.1 s) else some (.next s input)

/-- The loop body of `handle_tcp_bytes`. -/
def tcpTurn (a : TcpAdapter σ) (s : TcpStreamContext σ) (input : List UInt8) : Option (TcpTurn σ) :=
  match if s.bufferedLen < 2 then s.takeIn (2 - s.bufferedLen) input else some (s, input) with
  | none => none
  | some (s, input) => if s.bufferedLen < 2 then some (.next s input) else tcpFrame a s input

/-- The loop of `handle_tcp_bytes`, for a number of turns. -/
def tcpTurns (a : TcpAdapter σ) :
    ℕ → TcpStreamContext σ → List UInt8 → Option (UnifiedError × TcpStreamContext σ)
  | _, s, [] => some (.ok, s)
  | 0, _, _ :: _ => none
  | n + 1, s, b :: input =>
    match tcpTurn a s (b :: input) with
    | none => none
    | some (.next s input) => tcpTurns a n s input
    | some (.done result s) => some (result, s)

/-- `handle_tcp_bytes`. There is no result where a copy leaves the buffer
or a turn takes in nothing. -/
def handleTcpBytes (a : TcpAdapter σ) (s : TcpStreamContext σ) (input : List UInt8) :
    Option (UnifiedError × TcpStreamContext σ) :=
  tcpTurns a input.length s input

/-- `rx_ctx` of a stream: the policy and Linux it works on, and what the
collector is told of bad length fields. -/
structure TcpRxContext where
  policy : IngressSecurityPolicy
  shm : LinuxShm
  collector : Option (List StatusEvent)

/-- What one of the interfaces calls. -/
def tcpAdapter (e : ExternalInterface) (stage : String) (P : Platform) (linuxEpoch : UInt32) :
    TcpAdapter TcpRxContext where
  handleDatagram ctx frame :=
    let r := e.handleDatagram P ctx.policy linuxEpoch ctx.shm (fun k => frame.getD k 0) frame.length
    (r.1, { ctx with policy := r.2.1, shm := r.2.2 })
  recordTcpStreamDecodeError ctx err :=
    { ctx with collector := ctx.collector.map (· ++ [.error stage err]) }

/-- `ethernet_adapter_handle_tcp_bytes`. -/
def ethernetAdapterHandleTcpBytes (P : Platform) (linuxEpoch : UInt32) :=
  handleTcpBytes (tcpAdapter .ethernet "ethernet_tcp_decode" P linuxEpoch)

/-- `wifi_adapter_handle_tcp_bytes`. -/
def wifiAdapterHandleTcpBytes (P : Platform) (linuxEpoch : UInt32) :=
  handleTcpBytes (tcpAdapter .wifi "wifi_tcp_decode" P linuxEpoch)

/-- `four_g_adapter_handle_tcp_bytes`. -/
def fourGAdapterHandleTcpBytes (P : Platform) (linuxEpoch : UInt32) :=
  handleTcpBytes (tcpAdapter .fourG "four_g_tcp_decode" P linuxEpoch)

/-! ## The buffer -/

variable {a : TcpAdapter σ} {s s' : TcpStreamContext σ} {input : List UInt8} {m n : ℕ}

/-- What is buffered of a frame. -/
def TcpStreamContext.pending (s : TcpStreamContext σ) : List UInt8 :=
  FrameBlock.upTo s.buffer s.bufferedLen

/-- The frame length the buffer announces. -/
def TcpStreamContext.announced (s : TcpStreamContext σ) : ℕ :=
  (readLe16 (s.buffer 0) (s.buffer 1)).toNat

/-- What holds between two calls: less than a length field is buffered, or
less than the frame it announces, which fits the buffer. -/
def TcpStreamContext.Framed (s : TcpStreamContext σ) : Prop :=
  s.bufferedLen < 2 ∨ 40 ≤ s.announced ∧ s.announced ≤ 512 ∧ s.bufferedLen < s.announced

theorem TcpStreamContext.Framed.lt (h : s.Framed) : s.bufferedLen < 512 := by
  rcases h with h | ⟨-, h1, h2⟩ <;> omega

theorem framed_tcpStreamInit (rxCtx : σ) : (tcpStreamInit rxCtx).Framed := .inl Nat.zero_lt_two

/-- Taking in what fits the buffer. -/
theorem takeIn_eq (hfits : s.bufferedLen + m ≤ 512) :
    ∃ s', s.takeIn m input = some (s', input.drop m) ∧ s'.rxCtx = s.rxCtx ∧
      s'.pending = s.pending ++ input.take m ∧ s'.bufferedLen = s.bufferedLen + min input.length m := by
  by_cases hcopy : min input.length m > 0
  · have htake : input.take (min input.length m) = input.take m := by
      rcases Nat.le_total input.length m with h | h
      · rw [Nat.min_eq_left h, List.take_length, List.take_of_length_le h]
      · rw [Nat.min_eq_right h]
    have hdrop : input.drop (min input.length m) = input.drop m := by
      rcases Nat.le_total input.length m with h | h
      · rw [Nat.min_eq_left h, List.drop_length, List.drop_of_length_le h]
      · rw [Nat.min_eq_right h]
    have hlen : (input.take m).length = min input.length m := by
      rw [List.length_take, Nat.min_comm]
    refine ⟨⟨s.rxCtx, FrameBlock.copyIn s.buffer s.bufferedLen (fun k => (input.take m).getD k 0)
      (input.take m).length, s.bufferedLen + (input.take m).length⟩, ?_, rfl, ?_, by rw [hlen]⟩
    · simp only [TcpStreamContext.takeIn, if_pos hcopy, htake, hdrop, TcpStreamContext.append]
      rw [if_pos (by omega)]
    · exact FrameBlock.upTo_copyIn _ (by omega)
  · refine ⟨s, ?_, rfl, ?_, by omega⟩
    · simp only [TcpStreamContext.takeIn, if_neg hcopy]
      rcases Nat.le_total input.length m with h | h
      · obtain rfl : input = [] := List.length_eq_zero_iff.mp (by omega)
        simp
      · obtain rfl : m = 0 := by omega
        simp
    · rcases Nat.le_total input.length m with h | h
      · obtain rfl : input = [] := List.length_eq_zero_iff.mp (by omega)
        simp
      · obtain rfl : m = 0 := by omega
        simp

/-! ## The reference -/

/-- How an anyMSG stream announces its frames. -/
def anymsgFormat : Framing.Format UInt8 where
  fieldLength := 2
  announced field := (readLe16 (field.getD 0 0) (field.getD 1 0)).toNat
  valid n := decide (40 ≤ n ∧ n ≤ 512)
  fieldLength_pos := by decide
  fieldLength_le n h := by
    have := of_decide_eq_true h
    omega

/-- An adapter as the reader of such a stream. -/
def TcpAdapter.reader (a : TcpAdapter σ) : Framing.Reader UInt8 σ UnifiedError where
  ok := .ok
  malformed := .length
  handle := a.handleDatagram
  onMalformed rxCtx := a.recordTcpStreamDecodeError rxCtx .length
  malformed_ne := by decide

/-- What is buffered and to come announces what the buffer does. -/
theorem next_pending (h2 : 2 ≤ s.bufferedLen) (h512 : s.bufferedLen ≤ 512) :
    anymsgFormat.next (s.pending ++ input) = s.announced := by
  have hlen : 2 ≤ s.pending.length := by rwa [TcpStreamContext.pending, FrameBlock.length_upTo h512]
  have h0 : s.pending.getD 0 0 = s.buffer 0 := FrameBlock.getD_upTo 0 (by omega) h512
  have h1 : s.pending.getD 1 0 = s.buffer 1 := FrameBlock.getD_upTo 1 (by omega) h512
  rw [Framing.Format.next_append hlen]
  simp only [Framing.Format.next, anymsgFormat, TcpStreamContext.announced]
  rw [← h0, ← h1]
  cases hpending : s.pending with
  | nil => simp [hpending] at hlen
  | cons low rest =>
    cases rest with
    | nil => simp [hpending] at hlen
    | cons high rest => rfl

/-! ## One turn -/

/-- What the first half of a turn leaves: less than a length field and no
input, or at least a length field. -/
structure FieldRead (s s' : TcpStreamContext σ) (input rest : List UInt8) : Prop where
  rxCtx : s'.rxCtx = s.rxCtx
  stream : s'.pending ++ rest = s.pending ++ input
  ends : s'.bufferedLen < 2 ∧ rest = [] ∨
    s'.bufferedLen = 2 ∧ rest.length < input.length ∨
    2 ≤ s'.bufferedLen ∧ s'.Framed ∧ rest = input

theorem fieldRead (hs : s.Framed) (hinput : input ≠ []) :
    ∃ s' rest, (if s.bufferedLen < 2 then s.takeIn (2 - s.bufferedLen) input else some (s, input)) =
      some (s', rest) ∧ FieldRead s s' input rest := by
  by_cases hlen : s.bufferedLen < 2
  swap
  · exact ⟨s, input, if_neg hlen, rfl, rfl, .inr (.inr ⟨by omega, hs, rfl⟩)⟩
  obtain ⟨s', hrun, hctx, hpending, hlen'⟩ :=
    takeIn_eq (show s.bufferedLen + (2 - s.bufferedLen) ≤ 512 by omega)
  refine ⟨s', _, by rw [if_pos hlen, hrun], hctx, ?_, ?_⟩
  · rw [hpending, List.append_assoc, List.take_append_drop]
  · have hpos := List.length_pos_iff.mpr hinput
    rcases Nat.lt_or_ge input.length (2 - s.bufferedLen) with hshort | hlong
    · exact .inl ⟨by omega, List.drop_of_length_le (by omega)⟩
    · refine .inr (.inl ⟨by omega, ?_⟩)
      rw [List.length_drop]
      omega

/-- The input is read on as it would have been before. -/
def ReadsOn (a : TcpAdapter σ) (s s' : TcpStreamContext σ) (input rest : List UInt8) : Prop :=
  ∃ handed, a.reader.run anymsgFormat s.rxCtx (s.pending ++ input) =
    (a.reader.run anymsgFormat s'.rxCtx (s'.pending ++ rest)).after handed

/-- The input is read no further: an error is returned, and the buffer is
empty. -/
structure ReadFails (a : TcpAdapter σ) (s s' : TcpStreamContext σ) (input : List UInt8)
    (result : UnifiedError) : Prop where
  failed : result ≠ .ok
  empty : s'.bufferedLen = 0
  run : ∃ handed, a.reader.run anymsgFormat s.rxCtx (s.pending ++ input) =
    ⟨result, s'.rxCtx, handed, []⟩

theorem pending_of_empty (h : s.bufferedLen = 0) : s.pending = [] := by
  simp [TcpStreamContext.pending, FrameBlock.upTo, h]

/-- **The second half of a turn** reads the frame the field announces, as
far as the input goes. -/
theorem tcpFrame_reads (hlen : 2 ≤ s.bufferedLen) (hfit : s.bufferedLen = 2 ∨ s.Framed) :
    (∃ s' rest, tcpFrame a s input = some (.next s' rest) ∧ s'.Framed ∧
      rest.length ≤ input.length ∧ (s.bufferedLen < s.announced → input ≠ [] →
      rest.length < input.length) ∧
      ReadsOn a s s' input rest) ∨
    ∃ result s', tcpFrame a s input = some (.done result s') ∧ ReadFails a s s' input result := by
  have h512 : s.bufferedLen ≤ 512 := by
    rcases hfit with h | h
    · omega
    · exact h.lt.le
  have hpending : s.pending.length = s.bufferedLen := FrameBlock.length_upTo h512
  have hfield : anymsgFormat.fieldLength ≤ (s.pending ++ input).length := by
    rw [List.length_append, hpending]
    exact Nat.le_add_right_of_le hlen
  have hnext : anymsgFormat.next (s.pending ++ input) = s.announced := next_pending hlen h512
  by_cases hvalid : 40 ≤ s.announced ∧ s.announced ≤ 512
  swap
  · -- the length field is not valid
    right
    have hbad : (readLe16 (s.buffer 0) (s.buffer 1) < anymsgHeaderSize ||
        readLe16 (s.buffer 0) (s.buffer 1) > 512) = true := by
      simp only [Bool.or_eq_true, decide_eq_true_eq, gt_iff_lt, UInt16.lt_iff_toNat_lt]
      have h40 : anymsgHeaderSize.toNat = 40 := rfl
      have hmax : (512 : UInt16).toNat = 512 := rfl
      simp only [TcpStreamContext.announced] at hvalid
      omega
    have hbody : tcpFrame a s input = some (.done .length { s with
        bufferedLen := 0, rxCtx := a.recordTcpStreamDecodeError s.rxCtx .length }) := by
      simp only [tcpFrame, hbad, if_true]
    refine ⟨_, _, hbody, by decide, rfl, [], ?_⟩
    exact Framing.Reader.run_of_malformed
      (Framing.Format.cut_of_malformed hfield (by rw [hnext]; exact decide_eq_false hvalid))
  have hgood : (readLe16 (s.buffer 0) (s.buffer 1) < anymsgHeaderSize ||
      readLe16 (s.buffer 0) (s.buffer 1) > 512) = false := by
    simp only [Bool.or_eq_false_iff, decide_eq_false_iff_not, gt_iff_lt, UInt16.lt_iff_toNat_lt]
    have h40 : anymsgHeaderSize.toNat = 40 := rfl
    have hmax : (512 : UInt16).toNat = 512 := rfl
    simp only [TcpStreamContext.announced] at hvalid
    omega
  have hvalid' : anymsgFormat.valid (anymsgFormat.next (s.pending ++ input)) = true := by
    rw [hnext]
    exact decide_eq_true hvalid
  have hbelow : s.bufferedLen < s.announced := by
    rcases hfit with h | h | h
    · omega
    · omega
    · exact h.2.2
  have hneeded : sizeSub s.announced s.bufferedLen = s.announced - s.bufferedLen :=
    sizeSub_of_le hbelow.le (by omega)
  obtain ⟨s', hrun, hctx, hpending', hlen'⟩ :=
    @takeIn_eq _ s input _ (show s.bufferedLen + (s.announced - s.bufferedLen) ≤ 512 by omega)
  have hbody : tcpFrame a s input =
      if s'.bufferedLen < s.announced then some (.next s' (input.drop (s.announced - s.bufferedLen)))
      else
        let r := a.handleDatagram s.rxCtx (FrameBlock.upTo s'.buffer s.announced)
        let s' := { s' with rxCtx := r.2, bufferedLen := 0 }
        if r.1 ≠ .ok then some (.done r.1 s')
        else some (.next s' (input.drop (s.announced - s.bufferedLen))) := by
    simp only [tcpFrame, hgood, Bool.false_eq_true, if_false]
    change (match s.takeIn (sizeSub s.announced s.bufferedLen) input with
      | none => none | some (s, input) => _) = _
    rw [hneeded, hrun, ← hctx]
    rfl
  rw [hbody]
  have hdrop : (input.drop (s.announced - s.bufferedLen)).length ≤ input.length := by simp
  by_cases hshort : s'.bufferedLen < s.announced
  · -- the input ends inside the frame
    left
    have hrest : input.drop (s.announced - s.bufferedLen) = [] := List.drop_of_length_le (by omega)
    have htake : input.take (s.announced - s.bufferedLen) = input := List.take_of_length_le (by omega)
    rw [htake] at hpending'
    have hannounced : s'.announced = s.announced := by
      have hsame : anymsgFormat.next (s'.pending ++ []) = s'.announced :=
        next_pending (by omega) (by omega)
      rw [← hsame, List.append_nil, hpending', hnext]
    refine ⟨s', _, if_pos hshort, .inr (by omega), hdrop, fun _ hne => ?_, [], ?_⟩
    · rw [hrest]
      exact List.length_pos_iff.mpr hne
    · rw [hrest, List.append_nil, hpending', hctx]
      rfl
  · -- the frame is complete
    have hin : s.announced - s.bufferedLen ≤ input.length := by omega
    have hall : s'.bufferedLen = s.announced := by omega
    have hframe : FrameBlock.upTo s'.buffer s.announced = (s.pending ++ input).take s.announced := by
      have hwhole : FrameBlock.upTo s'.buffer s.announced = s'.pending := by
        rw [TcpStreamContext.pending, hall]
      rw [hwhole, hpending', List.take_append, hpending,
        List.take_of_length_le (show s.pending.length ≤ s.announced by omega)]
    have hrest : input.drop (s.announced - s.bufferedLen) = (s.pending ++ input).drop s.announced := by
      rw [List.drop_append, hpending,
        List.drop_of_length_le (show s.pending.length ≤ s.announced by omega), List.nil_append]
    have hlen : anymsgFormat.next (s.pending ++ input) ≤ (s.pending ++ input).length := by
      rw [hnext, List.length_append, hpending]
      omega
    have hread : a.reader.run anymsgFormat s.rxCtx (s.pending ++ input) = _ :=
      Framing.Reader.run_of_complete hfield hvalid' hlen
    rw [hnext, ← hframe, ← hrest] at hread
    rw [if_neg hshort]
    by_cases hok : (a.handleDatagram s.rxCtx (FrameBlock.upTo s'.buffer s.announced)).1 = .ok
    · left
      refine ⟨_, _, if_neg (not_not.mpr hok), .inl Nat.zero_lt_two, hdrop, fun _ hne => ?_,
        [FrameBlock.upTo s'.buffer s.announced], ?_⟩
      · rw [List.length_drop]
        have hpos := List.length_pos_iff.mpr hne
        omega
      · rw [hread.trans (if_pos hok), pending_of_empty rfl, List.nil_append]
        rfl
    · exact .inr ⟨_, _, if_pos hok, hok, rfl, _, hread.trans (if_neg hok)⟩

/-- **A turn reads on, or fails.** It never leaves the buffer. -/
theorem tcpTurn_reads (hs : s.Framed) (hinput : input ≠ []) :
    (∃ s' rest, tcpTurn a s input = some (.next s' rest) ∧ s'.Framed ∧ rest.length < input.length ∧
      ReadsOn a s s' input rest) ∨
    ∃ result s', tcpTurn a s input = some (.done result s') ∧ ReadFails a s s' input result := by
  obtain ⟨s1, rest1, hfirst, hfield⟩ := fieldRead hs hinput
  simp only [tcpTurn, hfirst]
  rcases hfield.ends with ⟨hshort, hnil⟩ | ⟨htwo, hless⟩ | ⟨htwo, hframed, hsame⟩
  · -- the input ends inside the length field
    left
    refine ⟨s1, rest1, if_pos hshort, .inl hshort, ?_, [], ?_⟩
    · rw [hnil]
      exact List.length_pos_iff.mpr hinput
    · rw [← hfield.stream, ← hfield.rxCtx]
      rfl
  · rw [if_neg (by omega)]
    rcases @tcpFrame_reads _ a s1 rest1 (by omega) (.inl htwo) with
      ⟨s', rest, hrun, hframed, hle, -, handed, hreads⟩ |
        ⟨result, s', hrun, hfailed, hempty, handed, hreads⟩
    · refine .inl ⟨s', rest, hrun, hframed, by omega, handed, ?_⟩
      rw [← hfield.stream, ← hfield.rxCtx, hreads]
    · refine .inr ⟨result, s', hrun, hfailed, hempty, handed, ?_⟩
      rw [← hfield.stream, ← hfield.rxCtx, hreads]
  · rw [if_neg (by omega)]
    have hbelow : s1.bufferedLen < s1.announced := by
      rcases hframed with h | h <;> omega
    rcases @tcpFrame_reads _ a s1 rest1 htwo (.inr hframed) with
      ⟨s', rest, hrun, hframed, -, hless, handed, hreads⟩ |
        ⟨result, s', hrun, hfailed, hempty, handed, hreads⟩
    · refine .inl ⟨s', rest, hrun, hframed, ?_, handed, ?_⟩
      · rw [← hsame]
        exact hless hbelow (by rwa [hsame])
      · rw [← hfield.stream, ← hfield.rxCtx, hreads]
    · refine .inr ⟨result, s', hrun, hfailed, hempty, handed, ?_⟩
      rw [← hfield.stream, ← hfield.rxCtx, hreads]

/-! ## A whole call -/

/-- A call has read its input: its result and what it leaves are those of
reading, behind what was buffered, the input as a whole. -/
structure HasRead (a : TcpAdapter σ) (s s' : TcpStreamContext σ) (input : List UInt8)
    (result : UnifiedError) : Prop where
  result : (a.reader.run anymsgFormat s.rxCtx (s.pending ++ input)).result = result
  rxCtx : (a.reader.run anymsgFormat s.rxCtx (s.pending ++ input)).state = s'.rxCtx
  pending : (a.reader.run anymsgFormat s.rxCtx (s.pending ++ input)).pending = s'.pending

/-- What is buffered between calls holds no complete frame. -/
theorem cut_pending (hs : s.Framed) : anymsgFormat.cut s.pending = ([], some s.pending) := by
  have hlen : s.pending.length = s.bufferedLen := FrameBlock.length_upTo hs.lt.le
  by_cases hshort : s.bufferedLen < 2
  · exact Framing.Format.cut_of_short (by rw [hlen]; exact hshort)
  rcases hs with h | ⟨h40, h512, hbelow⟩
  · exact absurd h hshort
  have hnext : anymsgFormat.next (s.pending ++ []) = s.announced := next_pending (by omega) (by omega)
  rw [List.append_nil] at hnext
  refine Framing.Format.cut_of_incomplete ?_ ?_ (by rw [hnext, hlen]; exact hbelow)
  · rw [hlen]
    exact Nat.not_lt.mp hshort
  · rw [hnext]
    exact decide_eq_true ⟨h40, h512⟩

theorem hasRead_nil (hs : s.Framed) : HasRead a s s [] .ok := by
  have hrun : a.reader.run anymsgFormat s.rxCtx s.pending = ⟨.ok, s.rxCtx, [], s.pending⟩ :=
    Framing.Reader.run_of_cut_nil (cut_pending hs)
  constructor
  · rw [List.append_nil, hrun]
  · rw [List.append_nil, hrun]
  · rw [List.append_nil, hrun]

theorem tcpTurns_reads (n : ℕ) : ∀ (s : TcpStreamContext σ) (input : List UInt8), s.Framed →
    input.length ≤ n → ∃ result s', tcpTurns a n s input = some (result, s') ∧ s'.Framed ∧
      HasRead a s s' input result := by
  induction n with
  | zero =>
    intro s input hs hlen
    obtain rfl : input = [] := List.length_eq_zero_iff.mp (by omega)
    exact ⟨.ok, s, by simp only [tcpTurns], hs, hasRead_nil hs⟩
  | succ n ih =>
    intro s input hs hlen
    by_cases hinput : input = []
    · subst hinput
      exact ⟨.ok, s, by simp only [tcpTurns], hs, hasRead_nil hs⟩
    obtain ⟨b, input, rfl⟩ := List.exists_cons_of_ne_nil hinput
    -- a turn consumes some input, or ends the read with an error
    rcases tcpTurn_reads (a := a) hs hinput with
      ⟨s', rest, hturn, hframed, hless, handed, hreads⟩ |
        ⟨result, s', hturn, hne, hempty, handed, hreads⟩
    · obtain ⟨result, s'', hrun, hframed', hread⟩ := ih s' rest hframed (by omega)
      refine ⟨result, s'', by simp only [tcpTurns, hturn, hrun], hframed', ?_⟩
      constructor
      · rw [hreads]
        exact hread.result
      · rw [hreads]
        exact hread.rxCtx
      · rw [hreads]
        exact hread.pending
    · refine ⟨result, s', by simp only [tcpTurns, hturn], .inl (by omega), ?_⟩
      constructor
      · rw [hreads]
      · rw [hreads]
      · rw [hreads, pending_of_empty hempty]

/-- **A call reads its input.** No copy leaves the buffer, every turn
takes something in, and the buffer is left with less than a frame. -/
theorem handleTcpBytes_reads (a : TcpAdapter σ) (hs : s.Framed) (input : List UInt8) :
    ∃ result s', handleTcpBytes a s input = some (result, s') ∧ s'.Framed ∧
      HasRead a s s' input result :=
  tcpTurns_reads input.length s input hs le_rfl

/-! ## A stream in chunks -/

/-- A stream received in chunks, up to the first call that fails. -/
def receiveChunks (a : TcpAdapter σ) :
    TcpStreamContext σ → List (List UInt8) → Option (UnifiedError × TcpStreamContext σ)
  | s, [] => some (.ok, s)
  | s, chunk :: chunks =>
    match handleTcpBytes a s chunk with
    | none => none
    | some (result, s) => if result = .ok then receiveChunks a s chunks else some (result, s)

theorem receiveChunks_reads (chunks : List (List UInt8)) : ∀ s : TcpStreamContext σ, s.Framed →
    ∃ result s', receiveChunks a s chunks = some (result, s') ∧ s'.Framed ∧
      HasRead a s s' chunks.flatten result := by
  induction chunks with
  | nil =>
    intro s hs
    exact ⟨.ok, s, rfl, hs, hasRead_nil hs⟩
  | cons chunk chunks ih =>
    intro s hs
    obtain ⟨result, s', hcall, hframed, hread⟩ := handleTcpBytes_reads a hs chunk
    by_cases hok : result = .ok
    · -- the chunk is read, and the others behind what it leaves
      obtain ⟨result', s'', hrest, hframed', hread'⟩ := ih s' hframed
      refine ⟨result', s'', by simp only [receiveChunks, hcall, hok, if_true, hrest], hframed', ?_⟩
      have happend : a.reader.run anymsgFormat s.rxCtx (s.pending ++ chunk ++ chunks.flatten) = _ :=
        Framing.Reader.run_append_of_ok (hread.result.trans hok)
      rw [hread.rxCtx, hread.pending, List.append_assoc] at happend
      constructor
      · rw [List.flatten_cons, happend]
        exact hread'.result
      · rw [List.flatten_cons, happend]
        exact hread'.rxCtx
      · rw [List.flatten_cons, happend]
        exact hread'.pending
    · refine ⟨result, s', by simp only [receiveChunks, hcall, if_neg hok], hframed, ?_⟩
      have hfailed : (a.reader.run anymsgFormat s.rxCtx (s.pending ++ chunk)).result ≠ a.reader.ok := by
        rw [hread.result]
        exact hok
      have happend : a.reader.run anymsgFormat s.rxCtx (s.pending ++ chunk ++ chunks.flatten) = _ :=
        Framing.Reader.run_append_of_ne hfailed
      rw [List.append_assoc] at happend
      constructor
      · rw [List.flatten_cons, happend]
        exact hread.result
      · rw [List.flatten_cons, happend]
        exact hread.rxCtx
      · rw [List.flatten_cons, happend]
        exact hread.pending

/-! ## Framing does not depend on the chunks -/

/-- The adapter, keeping the frames its handler is given. -/
def TcpAdapter.logged (a : TcpAdapter σ) : TcpAdapter (σ × List (List UInt8)) where
  handleDatagram s frame := ((a.handleDatagram s.1 frame).1,
    ((a.handleDatagram s.1 frame).2, s.2 ++ [frame]))
  recordTcpStreamDecodeError s err := (a.recordTcpStreamDecodeError s.1 err, s.2)

/-- What comes of a stream received in chunks: the first error or `ok`,
the state of the handler, the frames it was given, and what is buffered. -/
def receiveStream (a : TcpAdapter σ) (rxCtx : σ) (chunks : List (List UInt8)) :
    Option (Framing.Outcome UInt8 σ UnifiedError) :=
  (receiveChunks a.logged (tcpStreamInit (rxCtx, [])) chunks).map fun r =>
    ⟨r.1, r.2.rxCtx.1, r.2.rxCtx.2, r.2.pending⟩

/-- **What comes of a stream in chunks is what its length fields make of
it as a whole.** -/
theorem receiveStream_eq (a : TcpAdapter σ) (rxCtx : σ) (chunks : List (List UInt8)) :
    receiveStream a rxCtx chunks = some (a.reader.run anymsgFormat rxCtx chunks.flatten) := by
  obtain ⟨result, s', hrun, -, hread⟩ :=
    receiveChunks_reads (a := a.logged) chunks _ (framed_tcpStreamInit (rxCtx, []))
  have hempty : (tcpStreamInit (rxCtx, ([] : List (List UInt8)))).pending = [] := pending_of_empty rfl
  have hlog : a.logged.reader.run anymsgFormat (rxCtx, []) chunks.flatten = _ :=
    Framing.Reader.run_logged (H := a.reader) []
  have hresult := hread.result
  have hctx := hread.rxCtx
  have hpending := hread.pending
  rw [hempty, List.nil_append] at hresult hctx hpending
  simp only [tcpStreamInit, hlog, List.nil_append] at hresult hctx hpending
  rw [receiveStream, hrun, Option.map_some, ← hresult, ← hctx, ← hpending]

/-- **TCP framing is independent of chunking.** For any handler, so for
each of the three functions: two ways of cutting one stream into chunks
give the handler the same frames and end in the same result with the same
bytes buffered; these are what the stream's length fields say, each frame
has the length it announces, and nothing is lost before an error; and
every call, after errors as well, keeps its copies inside the buffer and
leaves less than a length field or less than the announced frame. -/
theorem tcp_framing (a : TcpAdapter σ) (rxCtx : σ) :
    (∀ chunks chunks' : List (List UInt8), chunks.flatten = chunks'.flatten →
      receiveStream a rxCtx chunks = receiveStream a rxCtx chunks') ∧
    (∀ chunks, ∃ o, receiveStream a rxCtx chunks = some o ∧
      o = a.reader.run anymsgFormat rxCtx chunks.flatten ∧
      o.handed <+: (anymsgFormat.cut chunks.flatten).1 ∧
      (∀ frame ∈ o.handed, frame.length = anymsgFormat.next frame ∧ 40 ≤ frame.length ∧
        frame.length ≤ 512) ∧
      (o.result = .ok → o.handed.flatten ++ o.pending = chunks.flatten)) ∧
    (tcpStreamInit rxCtx).Framed ∧
    ∀ s : TcpStreamContext σ, s.Framed → ∀ input, ∃ result s',
      handleTcpBytes a s input = some (result, s') ∧ s'.Framed := by
  refine ⟨fun chunks chunks' h => ?_, fun chunks => ?_, framed_tcpStreamInit rxCtx,
    fun s hs input => ?_⟩
  · rw [receiveStream_eq, receiveStream_eq, h]
  · have hinit : (a.reader.run anymsgFormat rxCtx chunks.flatten).handed <+:
        (anymsgFormat.cut chunks.flatten).1 := Framing.Reader.run_handed_prefix
    refine ⟨_, receiveStream_eq a rxCtx chunks, rfl, hinit, fun frame hframe => ?_,
      fun hok => Framing.Reader.flatten_run hok⟩
    obtain ⟨hvalid, hlen⟩ := Framing.Format.length_of_mem_cut _ (hinit.subset hframe)
    have hbounds : 40 ≤ anymsgFormat.next frame ∧ anymsgFormat.next frame ≤ 512 :=
      of_decide_eq_true hvalid
    exact ⟨hlen, by omega, by omega⟩
  · obtain ⟨result, s', hrun, hframed, -⟩ := handleTcpBytes_reads a hs input
    exact ⟨result, s', hrun, hframed⟩

end Linux

end PutGateway
