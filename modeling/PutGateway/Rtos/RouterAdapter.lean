import PutGateway.Rtos.ShmIpc
import PutGateway.Rtos.RouterCore
/-!
# From a descriptor to a route input

`rtos_firmware/router/rtos_router_adapter.c`: the frame a descriptor
names is read and its header checked against the descriptor, and the
trust Linux put into the flags is decided on.
-/

namespace PutGateway

namespace Rtos

/-- `descriptor_matches_header`. -/
def descriptorMatchesHeader (descriptor : Descriptor) (header : AnymsgHeader) : Bool :=
  descriptor.sourceCid == header.sourceCid && descriptor.destinationCid == header.destinationCid &&
    descriptor.type == header.type

/-- `descriptor_has_flag`. -/
def descriptorHasFlag (descriptor : Descriptor) (flag : UInt32) : Bool :=
  descriptor.flags &&& flag != 0

/-- `source_interface_is_external`. -/
def sourceInterfaceIsExternal (interfaceId : UInt8) : Bool :=
  interfaceId == putShmInterfaceEthernet.toUInt8 || interfaceId == putShmInterfaceWifi.toUInt8 ||
    interfaceId == putShmInterfaceBluetooth.toUInt8 || interfaceId == putShmInterface4G.toUInt8

/-- `destination_cid_is_control_path`. -/
def destinationCidIsControlPath (destinationCid : Cid) : Bool :=
  anymsgCidSegmentFromFirstByte destinationCid.b0 = .can ||
    anymsgCidSegmentFromFirstByte destinationCid.b0 = .rs485

/-- `descriptor_requires_control_allowed`. -/
def descriptorRequiresControlAllowed (descriptor : Descriptor) : Bool :=
  sourceInterfaceIsExternal descriptor.sourceInterface &&
    (descriptor.priority ≤ 1 || destinationCidIsControlPath descriptor.destinationCid)

/-- `descriptor_trust_from_flags`. -/
def descriptorTrustFromFlags (descriptor : Descriptor) : RouteTrust :=
  if descriptorHasFlag descriptor descriptorFlagInternalTrusted then .internalTrusted
  else if !descriptorHasFlag descriptor descriptorFlagAuthOk then .authFailed
  else if !descriptorHasFlag descriptor descriptorFlagIntegrityOk then .integrityFailed
  else if !descriptorHasFlag descriptor descriptorFlagReplayOk then .replayDropped
  else if descriptorRequiresControlAllowed descriptor &&
      !descriptorHasFlag descriptor descriptorFlagControlAllowed then .authFailed
  else .authOk

/-- `validate_anymsg_header`. The frame length is at least a header's. -/
def validateAnymsgHeader (descriptor : Descriptor) (frame : FrameBlock) : Bool :=
  let header := frame.header
  let msgLength := readLe16 header.msgLength0 header.msgLength1
  let payloadLength := readLe16 header.payloadLength0 header.payloadLength1
  anymsgValidateNormalizedLengths msgLength payloadLength descriptor.frameLength.toNat == .ok &&
    anymsgValidateHeaderStaticFields header == .ok &&
    descriptorMatchesHeader descriptor header && rtosRouterTypeIsValid header.type

/-- The input built from a descriptor and its frame. -/
def routeInput (descriptor : Descriptor) (frame : FrameBlock) (nowMs : UInt32) : RouteInput :=
  { frameId := descriptor.frameId
    sourceInterface := descriptor.sourceInterface.toUInt32
    sourceCid := descriptor.sourceCid
    destinationCid := descriptor.destinationCid
    type := frame.header.type
    priority := descriptor.priority
    ttl := descriptor.ttl
    trust := descriptorTrustFromFlags descriptor
    epoch := descriptor.epoch
    flags := descriptor.flags
    receiveTimeMs := nowMs
    frameLocalTime := readLe32 frame.header.localTime
    anymsgHeaderValid := validateAnymsgHeader descriptor frame }

/-- `rtos_router_adapter_descriptor_to_input`. -/
def rtosRouterAdapterDescriptorToInput (P : Platform) (shm : RtosShm) (descriptor : Descriptor)
    (nowMs : UInt32) : UnifiedError × Option RouteInput × RtosShm :=
  match rtosShmIpcGetFrameConst P shm descriptor with
  | (result, none, shm) => (result, none, shm)
  | (_, some frame, shm) => (.ok, some (routeInput descriptor frame nowMs), shm)

end Rtos

end PutGateway
