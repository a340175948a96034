import PutGateway.Common.SharedMemoryIpc
/-!
# Route table and routing policy

`rtos_router_table.c` and `rtos_router_policy.c`: the interface a
destination address is forwarded to, the payload types the router
accepts, the trust it requires, and the expiry of a frame.
-/

namespace PutGateway

namespace Rtos

/-- `rtos_route_trust_t`. -/
inductive RouteTrust
  | authOk
  | internalTrusted
  | authFailed
  | integrityFailed
  | replayDropped
  deriving DecidableEq, Repr

/-- `rtos_route_table_snapshot_t`. -/
structure RouteTable where
  routeVersion : UInt32
  activeRouteEpoch : UInt32
  valid : Bool
  cidSegmentTargets : AnymsgCidSegment → PutShmInterface
  crc16 : UInt16 := 0

/-- The position of a segment in the enumeration. -/
def AnymsgCidSegment.all : List AnymsgCidSegment :=
  [.reservedLow, .can, .ethernet, .wifi, .bluetooth, .fourG, .rs485, .reservedHigh]

/-- `rtos_router_route_table_default`. -/
def rtosRouterRouteTableDefault : RouteTable where
  routeVersion := 1
  activeRouteEpoch := 1
  valid := true
  cidSegmentTargets
    | .can => putShmInterfaceCan
    | .ethernet => putShmInterfaceEthernet
    | .wifi => putShmInterfaceWifi
    | .bluetooth => putShmInterfaceBluetooth
    | .fourG => putShmInterface4G
    | .rs485 => putShmInterfaceRs485
    | .reservedLow | .reservedHigh => 0

/-- The bytes of a route table before its CRC: two words, the flag with
three bytes of padding, and eight targets. -/
def RouteTable.bytes (table : RouteTable) : List UInt8 :=
  le32 table.routeVersion ++ le32 table.activeRouteEpoch ++
    [if table.valid then 1 else 0, 0, 0, 0] ++
    (AnymsgCidSegment.all.map fun s => le32 (table.cidSegmentTargets s)).flatten

/-- `rtos_router_route_table_calculate_crc`. -/
def rtosRouterRouteTableCalculateCrc (table : RouteTable) : UInt16 :=
  unifiedCrc16CcittFalse table.bytes

/-- `rtos_router_route_table_crc_is_valid`: a zero CRC is not checked. -/
def rtosRouterRouteTableCrcIsValid (table : RouteTable) : Bool :=
  table.crc16 == 0 || table.crc16 == rtosRouterRouteTableCalculateCrc table

/-- `interface_is_valid`, which cuts the value to `uint8_t`. -/
def interfaceIsValid (interfaceId : PutShmInterface) : Bool := isInterfaceValid interfaceId.toUInt8

/-- `rtos_router_route_table_lookup`. -/
def rtosRouterRouteTableLookup (table : RouteTable) (destinationCidFirstByte : UInt8) :
    Except UnifiedError PutShmInterface :=
  if !table.valid then .error .ipcNotReady
  else
    let segment := anymsgCidSegmentFromFirstByte destinationCidFirstByte
    if segment = .reservedLow || segment = .reservedHigh then .error .invalidArg
    else if !interfaceIsValid (table.cidSegmentTargets segment) then .error .invalidArg
    else .ok (table.cidSegmentTargets segment)

/-- `rtos_router_type_is_valid`. -/
def rtosRouterTypeIsValid (type : UInt8) : Bool :=
  type ≤ anymsgTypeNetworkAuthMax ||
    (anymsgTypeServiceIndexMin ≤ type && type ≤ anymsgTypeServiceIndexMax) ||
    (anymsgTypeTunnelPortMappingMin ≤ type && type ≤ anymsgTypeTunnelPortMappingMax) ||
    (anymsgTypeModbusRtu ≤ type && type ≤ anymsgTypeCanopen)

/-- `rtos_router_trust_is_routable`. -/
def rtosRouterTrustIsRoutable (trust : RouteTrust) : Bool :=
  trust = .authOk || trust = .internalTrusted

/-- `rtos_router_ttl_is_expired`: a zero TTL never expires. -/
def rtosRouterTtlIsExpired (nowMs receiveTimeMs : UInt32) (ttlMs : UInt8) : Bool :=
  ttlMs ≠ 0 && nowMs - receiveTimeMs ≥ ttlMs.toUInt32

end Rtos

end PutGateway
