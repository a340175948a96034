import PutGateway.Linux.ShmRings
import PutGateway.Linux.IngressSecurity
/-!
# From an adapter to the RX rings

The ingress half of `linux_app/adapters`. Five adapters receive whole
anyMSG frames: they check a frame, work out its trust flags where the
interface is an external one, and submit it. RS485 wraps raw bytes into a
frame of its own. Every submit function allocates a block, fills it and
commits it, and gives the block back where a later step fails.

Sockets, reassembly and the statistics of a collector are left out, and
the pointers a caller passes are there.
-/

namespace PutGateway

namespace Linux

/-! ## Receiving -/

/-- `adapter_rx_result_t`, less the pointer to the frame. -/
structure AdapterRxResult where
  len : ℕ
  msgLength : UInt16
  payloadLength : UInt16
  sourceCid : Cid
  destinationCid : Cid
  type : UInt8
  trustFlags : UInt32 := 0
  deriving DecidableEq, Repr

/-- The decode function of an interface whose addresses fall into a segment. -/
def decodeDatagram (segment : AnymsgCidSegment) (input : Bytes) (inputLen : ℕ) :
    Except UnifiedError AdapterRxResult :=
  if inputLen < anymsgHeaderSize.toNat || inputLen > putShmFramePoolBlockSize.toNat then
    .error .length
  else
    let header := input.header
    let msgLength := readLe16 header.msgLength0 header.msgLength1
    let payloadLength := readLe16 header.payloadLength0 header.payloadLength1
    let lengths := anymsgValidateNormalizedLengths msgLength payloadLength inputLen
    if lengths ≠ .ok then .error lengths
    else if anymsgValidateHeaderStaticFields header ≠ .ok then
      .error (anymsgValidateHeaderStaticFields header)
    else if anymsgCidSegmentFromFirstByte header.sourceCid.b0 ≠ segment then .error .invalidArg
    else
      .ok
        { len := inputLen
          msgLength := msgLength
          payloadLength := payloadLength
          sourceCid := header.sourceCid
          destinationCid := header.destinationCid
          type := header.type }

/-- `can_adapter_decode_anymsg`. -/
def canAdapterDecodeAnymsg := decodeDatagram .can

/-- `ethernet_adapter_decode_datagram`. -/
def ethernetAdapterDecodeDatagram := decodeDatagram .ethernet

/-- `wifi_adapter_decode_datagram`. -/
def wifiAdapterDecodeDatagram := decodeDatagram .wifi

/-- `four_g_adapter_decode_datagram`. -/
def fourGAdapterDecodeDatagram := decodeDatagram .fourG

/-- `bluetooth_decode_rx`, whose caller makes every error `INVALID_ARG`. -/
def bluetoothDecodeRx (input : Bytes) (inputLen : ℕ) : Except UnifiedError AdapterRxResult :=
  match decodeDatagram .bluetooth input inputLen with
  | .ok rx => .ok rx
  | .error _ => .error .invalidArg

/-! ## Submitting -/

/-- `route_hint_from_destination_cid` of an adapter: the interface of the
segment, and the adapter's own for the reserved segments. -/
def routeHintFromDestinationCid (own : PutShmInterface) (cid : Cid) : PutShmInterface :=
  match anymsgCidSegmentFromFirstByte cid.b0 with
  | .can => putShmInterfaceCan
  | .ethernet => putShmInterfaceEthernet
  | .wifi => putShmInterfaceWifi
  | .bluetooth => putShmInterfaceBluetooth
  | .fourG => putShmInterface4G
  | .rs485 => putShmInterfaceRs485
  | .reservedLow | .reservedHigh => own

/-- What an adapter writes into its block, and what it commits. -/
structure Submission where
  source : PutShmInterface
  /-- The length of the frame, which the capacity of the block bounds. -/
  length : ℕ
  fill : FrameBlock → FrameBlock
  commit : UInt32 → Commit

/-- The block of a frame, filled. -/
def LinuxShm.fillFrame (shm : LinuxShm) (f : Fin 64) (fill : FrameBlock → FrameBlock) : LinuxShm :=
  { shm with
    region :=
      { shm.region with
        framePool := Function.update shm.region.framePool f (fill (shm.region.framePool f)) } }

/-- The release whose result the adapters drop. -/
def LinuxShm.giveBack (shm : LinuxShm) (frameId : UInt32) (reason : ReclaimReason) : LinuxShm :=
  { shm with ipc := (linuxShmFrameRelease shm.ipc frameId reason.code).2 }

/-- The body the submit functions share. -/
def Submission.run (P : Platform) (shm : LinuxShm) (s : Submission) : UnifiedError × LinuxShm :=
  match linuxShmFrameAlloc shm.ipc s.source with
  | (err, none, ipc) => (err, { shm with ipc := ipc })
  | (_, some f, ipc) =>
    let claimed : LinuxShm := { shm with ipc := ipc }
    if s.length > putShmFramePoolBlockSize.toNat then
      (.length, claimed.giveBack (frameIdOfIndex f) .invalidFrame)
    else
      let r := (s.commit (frameIdOfIndex f)).run P (claimed.fillFrame f s.fill)
      if r.1 ≠ .ok then (r.1, r.2.giveBack (frameIdOfIndex f) .queueFull) else (.ok, r.2)

/-- The submission of an adapter that received a whole frame. -/
def frameSubmission (own : PutShmInterface) (priority ttl : UInt8) (flags : UInt32)
    (frame : Bytes) (rx : AdapterRxResult) (linuxEpoch : UInt32) : Submission where
  source := own
  length := rx.len
  fill block := block.copyIn 0 frame rx.len
  commit frameId :=
    { frameId := frameId
      frameLength := UInt16.ofNat rx.len
      source := own
      target := routeHintFromDestinationCid own rx.destinationCid
      sourceCid := rx.sourceCid
      destinationCid := rx.destinationCid
      type := rx.type
      priority := priority
      ttl := ttl
      epoch := linuxEpoch
      flags := flags }

/-- The flags of a frame from an external interface: what the security
policy gave. -/
def externalFlags (trustFlags : UInt32) : UInt32 := trustFlags &&& descriptorTrustFlagMask

/-- The flags of a frame from CAN: it is trusted, and may control. -/
def canFlags (trustFlags : UInt32) : UInt32 :=
  (trustFlags &&& descriptorTrustFlagMask) ||| descriptorFlagInternalTrusted |||
    descriptorFlagControlAllowed

/-- `can_adapter_submit_to_ipc`. -/
def canAdapterSubmitToIpc (P : Platform) (shm : LinuxShm) (frame : Bytes) (rx : AdapterRxResult)
    (linuxEpoch : UInt32) : UnifiedError × LinuxShm :=
  (frameSubmission putShmInterfaceCan 2 8 (canFlags rx.trustFlags) frame rx linuxEpoch).run P shm

/-- `ethernet_adapter_submit_to_ipc`. -/
def ethernetAdapterSubmitToIpc (P : Platform) (shm : LinuxShm) (frame : Bytes) (rx : AdapterRxResult)
    (linuxEpoch : UInt32) : UnifiedError × LinuxShm :=
  (frameSubmission putShmInterfaceEthernet 2 8
    (externalFlags rx.trustFlags) frame rx linuxEpoch).run P shm

/-- `wifi_adapter_submit_to_ipc`. -/
def wifiAdapterSubmitToIpc (P : Platform) (shm : LinuxShm) (frame : Bytes) (rx : AdapterRxResult)
    (linuxEpoch : UInt32) : UnifiedError × LinuxShm :=
  (frameSubmission putShmInterfaceWifi 2 8 (externalFlags rx.trustFlags) frame rx linuxEpoch).run P shm

/-- `four_g_adapter_submit_to_ipc`. -/
def fourGAdapterSubmitToIpc (P : Platform) (shm : LinuxShm) (frame : Bytes) (rx : AdapterRxResult)
    (linuxEpoch : UInt32) : UnifiedError × LinuxShm :=
  (frameSubmission putShmInterface4G 2 8 (externalFlags rx.trustFlags) frame rx linuxEpoch).run P shm

/-- `bluetooth_adapter_submit_to_ipc`. -/
def bluetoothAdapterSubmitToIpc (P : Platform) (shm : LinuxShm) (frame : Bytes) (rx : AdapterRxResult)
    (linuxEpoch : UInt32) : UnifiedError × LinuxShm :=
  (frameSubmission putShmInterfaceBluetooth 1 255
    (externalFlags rx.trustFlags) frame rx linuxEpoch).run P shm

/-- `ANYMSG_MAX_PAYLOAD_LENGTH`. -/
def anymsgMaxPayloadLength : ℕ := 0xFFFF - 40

/-- `RS485_ANYMSG_TYPE_RAW`. -/
def rs485AnymsgTypeRaw : UInt8 := 0x1F

/-- The header `rs485_adapter_submit_to_ipc` writes. -/
def rs485Header (msgLength payloadLength : UInt16) : Bytes
  | 0 => (writeLe16 msgLength).1
  | 1 => (writeLe16 msgLength).2
  | 8 => 0x00
  | 12 => 0xC0
  | 36 => (writeLe16 payloadLength).1
  | 37 => (writeLe16 payloadLength).2
  | 38 => rs485AnymsgTypeRaw
  | _ => 0

/-- What RS485 submits for a raw payload. -/
def rs485Submission (payload : Bytes) (payloadLen : ℕ) (linuxEpoch : UInt32) : Submission :=
  let msgLength := UInt16.ofNat (anymsgHeaderSize.toNat + payloadLen)
  let header := (rs485Header msgLength (UInt16.ofNat payloadLen)).header
  { source := putShmInterfaceRs485
    length := msgLength.toNat
    fill := fun block =>
      (block.copyIn 0 (rs485Header msgLength (UInt16.ofNat payloadLen)) anymsgHeaderSize.toNat).copyIn
        anymsgHeaderSize.toNat payload payloadLen
    commit := fun frameId =>
      { frameId := frameId
        frameLength := msgLength
        source := putShmInterfaceRs485
        target := routeHintFromDestinationCid putShmInterfaceRs485 header.destinationCid
        sourceCid := header.sourceCid
        destinationCid := header.destinationCid
        type := header.type
        priority := 0
        ttl := 0
        epoch := linuxEpoch
        flags := descriptorFlagInternalTrusted ||| descriptorFlagControlAllowed } }

/-- `rs485_adapter_submit_to_ipc`. -/
def rs485AdapterSubmitToIpc (P : Platform) (shm : LinuxShm) (payload : Bytes) (payloadLen : ℕ)
    (linuxEpoch : UInt32) : UnifiedError × LinuxShm :=
  if payloadLen = 0 then (.null, shm)
  else if payloadLen > anymsgMaxPayloadLength then (.length, shm)
  else (rs485Submission payload payloadLen linuxEpoch).run P shm

end Linux

end PutGateway
