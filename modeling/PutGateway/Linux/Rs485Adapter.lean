import PutGateway.Linux.EgressWorker
/-!
# RS485 egress

The callbacks of `linux_app/adapters/rs485_adapter.c` that the egress
worker of RS485 uses. `rs485_encapsulate` strips the header, so what goes
out on the line is the payload; `rs485_get_mtu` gives the largest payload,
`RS485_ADAPTER_MAX_PAYLOAD_SIZE`. The worker compares it with the length
of the whole anyMSG, and `rs485_fragment_tx`, to which it turns for a
longer one, splits nothing. So of the payloads up to 256 bytes those
beyond 216 are never sent (`handed_rs485_iff`).

What the operating system answers to a `write` is the environment of the
adapter. The times and texts of its status are left out.
-/

namespace PutGateway

namespace Linux

/-! ## What an adapter is given to send -/

variable {A : Type}

/-- An adapter that keeps the packets its `send` is called with. -/
def PhysicalInterfaceAdapter.traced (a : PhysicalInterfaceAdapter A) :
    PhysicalInterfaceAdapter (A × List AdapterTxPacket) where
  getMtu := a.getMtu.map fun getMtu s =>
    let r := getMtu s.1
    (r.1, r.2, s.2)
  encapsulate := a.encapsulate.map fun encapsulate s msg =>
    let r := encapsulate s.1 msg
    (r.1, r.2, s.2)
  fragmentTx := a.fragmentTx.map fun fragmentTx s msg =>
    let r := fragmentTx s.1 msg
    (r.1, r.2, s.2)
  send := a.send.map fun send s packet =>
    let r := send s.1 packet
    (r.1, r.2, s.2 ++ [packet])
  getTxError := a.getTxError.map fun getTxError s =>
    let r := getTxError s.1
    (r.1, r.2, s.2)

/-- The packets `send_by_adapter` hands to the `send` of an adapter. -/
def handed (enabled : Bool) (a : PhysicalInterfaceAdapter A) (ctx : A) (msg : AnymsgBuffer) :
    List AdapterTxPacket :=
  (sendByAdapter enabled a.traced (ctx, []) msg).2.2

/-! Keeping the packets changes nothing else. -/

section Traced

variable {a : PhysicalInterfaceAdapter A} {ctx : A} {packets : List AdapterTxPacket}
  {t : List AdapterTxPacket} {msg : AnymsgBuffer}

/-- A call of an adapter and of its traced twin agree. -/
def Agrees {β : Type} (r : β × A) (r' : β × (A × List AdapterTxPacket)) : Prop :=
  r'.1 = r.1 ∧ r'.2.1 = r.2

theorem sendPackets_traced (send : A → AdapterTxPacket → Bool × A) :
    Agrees (sendPackets send ctx packets)
      (sendPackets (fun s packet => ((send s.1 packet).1, (send s.1 packet).2, s.2 ++ [packet]))
        (ctx, t) packets) := by
  induction packets generalizing ctx t with
  | nil => exact ⟨rfl, rfl⟩
  | cons packet rest ih =>
    simp only [sendPackets]
    split
    · exact ih
    · exact ⟨rfl, rfl⟩

theorem sendPacketList_traced :
    Agrees (sendPacketList a ctx packets) (sendPacketList a.traced (ctx, t) packets) := by
  unfold sendPacketList PhysicalInterfaceAdapter.traced
  cases a.send with
  | none => exact ⟨rfl, rfl⟩
  | some send =>
    simp only [Option.map_some]
    split
    · exact ⟨rfl, rfl⟩
    · exact sendPackets_traced send

theorem sendFragmented_traced :
    Agrees (sendFragmented a ctx msg) (sendFragmented a.traced (ctx, t) msg) := by
  unfold sendFragmented
  rw [show a.traced.fragmentTx = a.fragmentTx.map _ from rfl]
  cases a.fragmentTx with
  | none => exact ⟨rfl, rfl⟩
  | some fragmentTx =>
    simp only [Option.map_some]
    rcases fragmentTx ctx msg with ⟨out, ctx'⟩
    cases out with
    | none => exact ⟨rfl, rfl⟩
    | some packets => exact sendPacketList_traced

/-- **A traced adapter sends as the adapter does.** -/
theorem sendByAdapter_traced (enabled : Bool) :
    Agrees (sendByAdapter enabled a ctx msg) (sendByAdapter enabled a.traced (ctx, t) msg) := by
  unfold sendByAdapter
  rw [show a.traced.send.isNone = a.send.isNone from Option.isNone_map,
    show a.traced.getMtu = a.getMtu.map _ from rfl,
    show a.traced.encapsulate = a.encapsulate.map _ from rfl]
  split
  · exact ⟨rfl, rfl⟩
  cases a.getMtu with
  | none =>
    cases a.encapsulate with
    | none => exact sendFragmented_traced
    | some encapsulate =>
      simp only [Option.map_none, Option.map_some]
      split
      · exact sendFragmented_traced
      · rcases encapsulate ctx msg with ⟨out, ctx'⟩
        cases out with
        | none => exact sendFragmented_traced
        | some packet => exact sendPacketList_traced
  | some getMtu =>
    simp only [Option.map_some]
    rcases getMtu ctx with ⟨mtu, ctx'⟩
    cases a.encapsulate with
    | none => exact sendFragmented_traced
    | some encapsulate =>
      simp only [Option.map_some]
      split
      · exact sendFragmented_traced
      · rcases encapsulate ctx' msg with ⟨out, ctx''⟩
        cases out with
        | none => exact sendFragmented_traced
        | some packet => exact sendPacketList_traced

end Traced

/-! ## The RS485 adapter -/

/-- `RS485_ADAPTER_MAX_PAYLOAD_SIZE`. -/
def rs485AdapterMaxPayloadSize : ℕ := 256

/-- `rs485_status_t`: what a transmission counts. -/
structure Rs485Status where
  txFrames : UInt64 := 0
  txBytes : UInt64 := 0
  errorCount : UInt64 := 0
  decodeErrorCount : UInt64 := 0
  crcErrorCount : UInt64 := 0
  sendFailCount : UInt64 := 0
  ipcErrorCount : UInt64 := 0
  interfaceOfflineCount : UInt64 := 0
  lastErrorStage : String := ""

/-- `rs485_adapter_state_t`: what egress reads and writes of it. -/
structure Rs485AdapterState where
  fd : Int := -1
  status : Rs485Status := {}
  lastTxErrorStage : String := ""
  lastTxError : UnifiedError := .ok

/-- `string_has`. -/
def stringHas (text needle : String) : Bool := needle.toList <:+: text.toList

/-- `record_error`, without a collector. -/
def Rs485Status.recordError (status : Rs485Status) (stage : String) : Rs485Status :=
  let counted := { status with errorCount := status.errorCount + 1, lastErrorStage := stage }
  let sorted :=
    if stringHas stage "decode" || stringHas stage "parse" then
      { counted with decodeErrorCount := counted.decodeErrorCount + 1 }
    else if stringHas stage "crc" then { counted with crcErrorCount := counted.crcErrorCount + 1 }
    else if stringHas stage "send" then { counted with sendFailCount := counted.sendFailCount + 1 }
    else if stringHas stage "uart" || stringHas stage "open" then
      { counted with interfaceOfflineCount := counted.interfaceOfflineCount + 1 }
    else counted
  if stringHas stage "ipc" then { sorted with ipcErrorCount := sorted.ipcErrorCount + 1 } else sorted

/-- `record_tx_ok`. -/
def Rs485Status.recordTxOk (status : Rs485Status) (bytes : ℕ) : Rs485Status :=
  { status with txFrames := status.txFrames + 1, txBytes := status.txBytes + UInt64.ofNat bytes }

/-- `clear_tx_error`. -/
def Rs485AdapterState.clearTxError (s : Rs485AdapterState) : Rs485AdapterState :=
  { s with lastTxErrorStage := "", lastTxError := .ok }

/-- `record_tx_error`. -/
def Rs485AdapterState.recordTxError (s : Rs485AdapterState) (stage : String) (err : UnifiedError) :
    Rs485AdapterState :=
  { s with
    lastTxErrorStage := stage
    lastTxError := err
    status := s.status.recordError stage }

/-- `rs485_get_mtu`. -/
def rs485GetMtu (s : Rs485AdapterState) : ℕ × Rs485AdapterState := (rs485AdapterMaxPayloadSize, s)

/-- The payload length a header gives. -/
def payloadLengthOf (frame : FrameBlock) : ℕ :=
  (readLe16 frame.header.payloadLength0 frame.header.payloadLength1).toNat

/-- The payload of an anyMSG. -/
def payloadOf (frame : FrameBlock) : AdapterTxPacket :=
  (frame.upTo (anymsgHeaderSize.toNat + payloadLengthOf frame)).drop anymsgHeaderSize.toNat

/-- `rs485_encapsulate`. -/
def rs485Encapsulate (s : Rs485AdapterState) (msg : AnymsgBuffer) :
    Option AdapterTxPacket × Rs485AdapterState :=
  let s := s.clearTxError
  if msg.len < anymsgHeaderSize then (none, s.recordTxError "rs485_encapsulate_length" .length)
  else
    (some ((List.range (payloadLengthOf msg.data)).map fun k =>
      msg.data (Fin.ofNat 512 (anymsgHeaderSize.toNat + k))), s)

/-- `rs485_fragment_tx`. -/
def rs485FragmentTx (s : Rs485AdapterState) (_ : AnymsgBuffer) :
    Option (List AdapterTxPacket) × Rs485AdapterState :=
  (none, s)

/-- `rs485_send`. `write` gives the number of bytes written, or a negative
one. -/
def rs485Send (write : AdapterTxPacket → Int) (s : Rs485AdapterState) (packet : AdapterTxPacket) :
    Bool × Rs485AdapterState :=
  let s := s.clearTxError
  if s.fd < 0 then (false, s.recordTxError "rs485_send_offline" .ipcOffline)
  else
    let written := write packet
    if written < 0 || written ≠ packet.length then
      (false, s.recordTxError "rs485_uart_write" .invalidArg)
    else (true, { s with status := s.status.recordTxOk packet.length })

/-- `rs485_get_tx_error`. -/
def rs485GetTxError (s : Rs485AdapterState) : Option (String × UnifiedError) × Rs485AdapterState :=
  if s.lastTxErrorStage = "" then (none, s) else (some (s.lastTxErrorStage, s.lastTxError), s)

/-- `rs485_adapter`. -/
def rs485Adapter (write : AdapterTxPacket → Int) : PhysicalInterfaceAdapter Rs485AdapterState where
  getMtu := some rs485GetMtu
  encapsulate := some rs485Encapsulate
  fragmentTx := some rs485FragmentTx
  send := some (rs485Send write)
  getTxError := some rs485GetTxError

/-! ## What goes out on the line -/

section Egress

variable {interfaceId : PutShmInterface} {descriptor : Descriptor} {frame : FrameBlock}

/-- A frame that passes the check before egress has the length its header
gives. -/
theorem frameLength_of_valid
    (h : validateAnymsgForEgress interfaceId descriptor frame descriptor.frameLength = .ok) :
    descriptor.frameLength.toNat = 40 + payloadLengthOf frame ∧ descriptor.frameLength.toNat ≤ 512 := by
  have h40 : anymsgHeaderSize.toNat = 40 := rfl
  have h512 : (512 : UInt16).toNat = 512 := rfl
  unfold validateAnymsgForEgress at h
  split at h
  · cases h
  split at h
  · cases h
  next hbounds =>
  rw [Bool.or_eq_true, decide_eq_true_iff, decide_eq_true_iff, not_or, UInt16.lt_iff_toNat_lt,
    gt_iff_lt, UInt16.lt_iff_toNat_lt, h512] at hbounds
  simp only at h
  split at h
  · next hne => exact absurd h hne
  next hlengths =>
  refine ⟨?_, by omega⟩
  rw [not_not] at hlengths
  unfold anymsgValidateNormalizedLengths at hlengths
  split at hlengths
  · cases hlengths
  split at hlengths
  · cases hlengths
  next hsum =>
  split at hlengths
  · cases hlengths
  next hactual =>
  rw [not_not] at hsum hactual
  have hnat := congrArg UInt32.toNat hsum
  rw [UInt32.toNat_add, UInt16.toNat_toUInt32, UInt16.toNat_toUInt32, UInt16.toNat_toUInt32, h40]
    at hnat
  have hsmall := UInt16.toNat_lt (readLe16 frame.header.payloadLength0 frame.header.payloadLength1)
  unfold payloadLengthOf
  omega

/-- What `rs485_encapsulate` makes of a frame inside its block. -/
theorem payloadOf_eq (h : 40 + payloadLengthOf frame ≤ 512) :
    ((List.range (payloadLengthOf frame)).map fun k =>
      frame (Fin.ofNat 512 (anymsgHeaderSize.toNat + k))) = payloadOf frame := by
  have h40 : anymsgHeaderSize.toNat = 40 := rfl
  unfold payloadOf
  rw [h40]
  refine List.ext_getElem ?_ fun k hk hk' => ?_
  · rw [List.length_map, List.length_range, List.length_drop, FrameBlock.length_upTo h]
    omega
  · rw [List.length_map, List.length_range] at hk
    have hin : 40 + k < 512 := by omega
    rw [List.getElem_map, List.getElem_range, List.getElem_drop]
    simp only [FrameBlock.upTo, List.getElem_map, List.getElem_take, List.getElem_finRange]
    congr 1
    exact Fin.ext (Nat.mod_eq_of_lt hin)

/-- Up to the MTU a frame is handed to `send` in one packet. -/
theorem handed_rs485_short (write : AdapterTxPacket → Int) (s : Rs485AdapterState) {len : UInt16}
    (hmin : 40 ≤ len.toNat) (hmax : len.toNat ≤ 256) (hin : 40 + payloadLengthOf frame ≤ 512) :
    handed true (rs485Adapter write) s ⟨frame, len⟩ = [payloadOf frame] := by
  have hlen : ¬ len < anymsgHeaderSize := by
    have h40 : anymsgHeaderSize.toNat = 40 := rfl
    rw [UInt16.lt_iff_toNat_lt]
    omega
  have hpacket : rs485Encapsulate s ⟨frame, len⟩ = (some (payloadOf frame), s.clearTxError) := by
    rw [rs485Encapsulate, if_neg hlen, payloadOf_eq hin]
  have hmtu : ¬ rs485AdapterMaxPayloadSize < len.toNat := Nat.not_lt.mpr hmax
  simp only [handed, sendByAdapter, PhysicalInterfaceAdapter.traced, rs485Adapter, rs485GetMtu,
    Option.map_some, Option.isNone_some, Bool.not_true, Bool.or_self, Bool.false_eq_true, if_false,
    hmtu, hpacket, sendPacketList, sendPackets, List.cons_ne_nil, List.nil_append]
  split <;> rfl

/-- Beyond the MTU nothing is handed to it. -/
theorem handed_rs485_long (write : AdapterTxPacket → Int) (s : Rs485AdapterState) {len : UInt16}
    (hlong : 256 < len.toNat) : handed true (rs485Adapter write) s ⟨frame, len⟩ = [] := by
  have hmtu : rs485AdapterMaxPayloadSize < len.toNat := hlong
  simp only [handed, sendByAdapter, PhysicalInterfaceAdapter.traced, rs485Adapter, rs485GetMtu,
    Option.map_some, Option.isNone_some, Bool.not_true, Bool.or_self, Bool.false_eq_true, if_false,
    hmtu, if_true, sendFragmented, rs485FragmentTx]

/-- **RS485 sends the payloads up to 216 bytes.** Of the frames that pass
the check before egress those are handed to `send` as one packet, the
payload, whose whole anyMSG is no longer than 256 bytes, on a worker that
is enabled. -/
theorem handed_rs485_iff (write : AdapterTxPacket → Int) (s : Rs485AdapterState) (enabled : Bool)
    (hvalid : validateAnymsgForEgress putShmInterfaceRs485 descriptor frame descriptor.frameLength =
      .ok) :
    handed enabled (rs485Adapter write) s ⟨frame, descriptor.frameLength⟩ = [payloadOf frame] ↔
      enabled = true ∧ payloadLengthOf frame ≤ 216 := by
  obtain ⟨hlen, hblock⟩ := frameLength_of_valid hvalid
  cases enabled with
  | false => simp [handed, sendByAdapter]
  | true =>
    by_cases hshort : payloadLengthOf frame ≤ 216
    · have hhanded := @handed_rs485_short frame write s descriptor.frameLength (by omega) (by omega)
        (by omega)
      simp [hhanded, hshort]
    · have hhanded := @handed_rs485_long frame write s descriptor.frameLength (by omega)
      simp [hhanded, hshort]

/-- An anyMSG to RS485 with a payload of so many bytes. -/
def rs485Frame (payloadLength : UInt16) : FrameBlock := fun k =>
  (fun
    | 0 => (writeLe16 (40 + payloadLength)).1
    | 1 => (writeLe16 (40 + payloadLength)).2
    | 8 => 0xC0
    | 12 => 0x20
    | 36 => (writeLe16 payloadLength).1
    | 37 => (writeLe16 payloadLength).2
    | _ => 0 : Bytes) k

/-- Its descriptor. -/
def rs485FrameDescriptor (payloadLength : UInt16) : Descriptor :=
  { frameLength := 40 + payloadLength
    targetInterface := putShmInterfaceRs485.toUInt8
    sourceCid := { b0 := 0x20 }
    destinationCid := { b0 := 0xC0 } }

/-- One byte more than 216 is one too many. -/
theorem handed_rs485_boundary :
    handed true (rs485Adapter fun p => p.length) {} ⟨rs485Frame 216, 256⟩ =
        [payloadOf (rs485Frame 216)] ∧
      ¬ handed true (rs485Adapter fun p => p.length) {} ⟨rs485Frame 217, 257⟩ =
        [payloadOf (rs485Frame 217)] :=
  ⟨(@handed_rs485_iff (rs485FrameDescriptor 216) (rs485Frame 216) (fun p => p.length) {} true
      (by decide +kernel)).mpr ⟨rfl, by decide +kernel⟩,
    fun h => absurd ((@handed_rs485_iff (rs485FrameDescriptor 217) (rs485Frame 217)
      (fun p => p.length) {} true (by decide +kernel)).mp h).2 (by decide +kernel)⟩

/-- **A payload of 217 bytes is not sent.** -/
theorem rs485_payload_not_sent :
    ¬ ∀ (write : AdapterTxPacket → Int) (s : Rs485AdapterState) (descriptor : Descriptor)
        (frame : FrameBlock),
        validateAnymsgForEgress putShmInterfaceRs485 descriptor frame descriptor.frameLength = .ok →
        1 ≤ payloadLengthOf frame → payloadLengthOf frame ≤ rs485AdapterMaxPayloadSize →
        handed true (rs485Adapter write) s ⟨frame, descriptor.frameLength⟩ = [payloadOf frame] := by
  intro h
  have hsent := h (fun p => p.length) { fd := 3 } (rs485FrameDescriptor 217) (rs485Frame 217)
    (by decide +kernel) (by decide +kernel) (by decide +kernel)
  exact absurd hsent (by decide +kernel)

end Egress

end Linux

end PutGateway
