import Mathlib.Data.List.DropRight
import PutGateway.Common.AnymsgFrame
import PutGateway.Common.SharedMemoryIpc
import PutGateway.Lib.LineChunks
/-!
# The configuration file

`linux_app/core/app_config.c`: an INI file is read with `fgets` into a
buffer of 256 bytes, and what one call reads is stripped of its comment,
trimmed, and taken as a section header or as a setting of the section.
The configuration is written in place, so a file that fails half-way
leaves the settings it got to.

Text is what a C string holds, its bytes up to the terminator.
-/

namespace PutGateway

namespace Linux

/-! ## The C library -/

/-- The bytes of a text of ASCII characters. -/
def ascii (text : String) : List UInt8 := text.toList.map fun c => c.toNat.toUInt8

/-- `isspace` in the C locale. -/
def isSpace (c : UInt8) : Bool := c == 32 || (9 ≤ c && c ≤ 13)

/-- The string a buffer holds. -/
def cString (buffer : List UInt8) : List UInt8 := buffer.takeWhile (· ≠ 0)

/-- The digit a character stands for, in any base. -/
def digitValue (c : UInt8) : Option ℕ :=
  if 48 ≤ c && c ≤ 57 then some (c.toNat - 48)
  else if 97 ≤ c && c ≤ 122 then some (c.toNat - 87)
  else if 65 ≤ c && c ≤ 90 then some (c.toNat - 55)
  else none

/-- The number the leading digits of a base make, and what follows them. -/
def digits (base : ℕ) (value : ℕ) : List UInt8 → ℕ × List UInt8
  | [] => (value, [])
  | c :: text =>
    match digitValue c with
    | some d => if d < base then digits base (value * base + d) text else (value, c :: text)
    | none => (value, c :: text)

/-- Base 0 of `strtoul`: the base, and the digits without their prefix. A
`0x` that no digit follows is the digit 0. -/
def autoBase : List UInt8 → ℕ × List UInt8
  | 48 :: x :: c :: text =>
    if (x = 120 || x = 88) && ((digitValue c).any (· < 16)) then (16, c :: text)
    else (8, 48 :: x :: c :: text)
  | 48 :: text => (8, 48 :: text)
  | text => (10, text)

/-- `strtoul(text, &end, 0)` where `unsigned long` has 64 bits: the value
and the text at `end`. Nothing to convert, or a value out of range, has no
result. -/
def strToUl (text : List UInt8) : Option (UInt64 × List UInt8) :=
  let body := text.dropWhile isSpace
  let negative := body.head? = some 45
  let unsigned := if negative || body.head? = some 43 then body.drop 1 else body
  let (base, number) := autoBase unsigned
  if number.head?.bind digitValue |>.any (· < base) then
    let (value, rest) := digits base 0 number
    if value < 2 ^ 64 then
      some (if negative then 0 - UInt64.ofNat value else UInt64.ofNat value, rest)
    else none
  else none

/-- One number of a dotted address: decimal, at most 255, and without a
leading zero. -/
def octet (text : List UInt8) : Option UInt8 :=
  if text = [] || (text.length > 1 && text.head? = some 48) then none
  else
    let (value, rest) := digits 10 0 text
    if rest = [] && value ≤ 255 then some (UInt8.ofNat value) else none

/-- `inet_pton(AF_INET, text, &addr)`, with `addr.s_addr` as a little-endian
machine reads it. -/
def inetPton (text : List UInt8) : Option UInt32 :=
  match (text.splitOn 46).mapM octet with
  | some [a, b, c, d] =>
    some (a.toUInt32 ||| b.toUInt32 <<< 8 ||| c.toUInt32 <<< 16 ||| d.toUInt32 <<< 24)
  | _ => none

/-! ## Text -/

/-- `trim`. -/
def trim (text : List UInt8) : List UInt8 := (text.dropWhile isSpace).rdropWhile isSpace

/-- The loop of `strip_inline_comment`. -/
def stripFrom (inQuote : Bool) : List UInt8 → List UInt8
  | [] => []
  | p :: text =>
    if p = 34 then p :: stripFrom (!inQuote) text
    else if !inQuote && (p = 35 || p = 59) then []
    else p :: stripFrom inQuote text

/-- `strip_inline_comment`: a comment runs from a `#` or `;` that is outside
quotes. -/
def stripInlineComment (text : List UInt8) : List UInt8 := stripFrom false text

/-- `unquote`. -/
def unquote (text : List UInt8) : List UInt8 :=
  if text.length ≥ 2 && text.head? = some 34 && text.getLast? = some 34 then
    (text.drop 1).dropLast
  else text

/-- `copy_string`. -/
def copyString (dstSize : ℕ) (src : List UInt8) : List UInt8 := src.take (dstSize - 1)

/-! ## Values -/

/-- `parse_bool`. -/
def parseBool (text : List UInt8) : Option Bool :=
  if text = ascii "true" || text = ascii "1" || text = ascii "yes" || text = ascii "on" then
    some true
  else if text = ascii "false" || text = ascii "0" || text = ascii "no" || text = ascii "off" then
    some false
  else none

/-- `parse_uintptr`. -/
def parseUintptr (text : List UInt8) : Option UInt64 :=
  match strToUl text with
  | some (value, []) => some value
  | _ => none

/-- `parse_u32`. -/
def parseU32 (text : List UInt8) : Option UInt32 :=
  match strToUl text with
  | some (value, []) => if value > 0xFFFFFFFF then none else some value.toUInt32
  | _ => none

/-- `is_valid_ipv4_address`. -/
def isValidIpv4Address (text : List UInt8) : Bool := text ≠ [] && (inetPton text).isSome

/-- `is_supported_rs485_baudrate`. -/
def isSupportedRs485Baudrate (baudrate : UInt32) : Bool :=
  baudrate = 9600 || baudrate = 19200 || baudrate = 38400 || baudrate = 57600 ||
    baudrate = 115200

/-- `is_valid_rs485_flags`. `SER_RS485_ENABLED` is the lowest bit. -/
def isValidRs485Flags (flags : UInt32) : Bool := flags = 0 || flags &&& 1 ≠ 0

/-- `parse_wifi_cid` and `parse_four_g_cid`, which differ in the segment. -/
def parseCid (segment : AnymsgCidSegment) (text : List UInt8) : Option Cid :=
  match parseU32 text with
  | none => none
  | some value =>
    let cid : Cid :=
      { b0 := (value >>> 24).toUInt8, b1 := (value >>> 16).toUInt8, b2 := (value >>> 8).toUInt8,
        b3 := value.toUInt8 }
    if anymsgCidSegmentFromFirstByte cid.b0 = segment then some cid else none

/-- `wifi_tx_peer_t` and `four_g_tx_peer_t`. -/
structure TxPeer where
  destinationCid : Cid
  ipv4AddrBe : UInt32
  port : UInt16
  deriving DecidableEq

/-- `WIFI_TX_PEER_MAX` and `FOUR_G_TX_PEER_MAX`. -/
def txPeerMax : ℕ := 16

/-- `CONFIG_LINE_MAX`. -/
def configLineMax : ℕ := 256

/-- `parse_wifi_tx_peer` and `parse_four_g_tx_peer`, which differ in the
segment: the peers with the one of the text added. -/
def parseTxPeer (segment : AnymsgCidSegment) (peers : List TxPeer) (value : List UInt8) :
    Option (List TxPeer) :=
  if value.length ≥ configLineMax || peers.length ≥ txPeerMax then none
  else
    match (value.splitOn 44).map trim with
    | [cidText, ipText, portText] =>
      if cidText = [] || ipText = [] || portText = [] then none
      else
        match parseCid segment cidText, inetPton ipText, parseU32 portText with
        | some cid, some addr, some port =>
          if addr = 0 || port > 0xFFFF then none
          else some (peers ++ [{ destinationCid := cid, ipv4AddrBe := addr, port := port.toUInt16 }])
        | _, _, _ => none
    | _ => none

/-! ## The configuration -/

/-- `app_config_ipc_backend_t`. -/
inductive AppConfigIpcBackend
  | host
  | devmem
  deriving DecidableEq

/-- `app_config_t`. The defaults are those of `app_config_set_defaults`. -/
structure AppConfig where
  statusEnabled : Bool := true
  statusDir : List UInt8 := ascii "/run/put/status"
  ipcBackend : AppConfigIpcBackend := .host
  ipcPhysicalBase : UInt64 := 0
  ipcRegionSize : UInt32 := putShmRegionSize
  ipcFormatOnStart : Bool := true
  ipcControlDevice : List UInt8 := []
  canEnabled : Bool := true
  canIfname : List UInt8 := ascii "can0"
  canBitrate : UInt32 := 500000
  canTxCanId : UInt32 := 0x321
  canRxFilterId : UInt32 := 0x320
  canRxFilterMask : UInt32 := 0x7FF
  canExtendedId : Bool := false
  canReassemblyTimeoutMs : UInt32 := 500
  ethernetEnabled : Bool := true
  ethernetUdpEnabled : Bool := true
  ethernetTcpEnabled : Bool := true
  ethernetBindAddr : List UInt8 := ascii "0.0.0.0"
  ethernetPort : UInt16 := 5000
  ethernetTxPeerAddr : List UInt8 := []
  ethernetTxPeerPort : UInt16 := 5000
  wifiEnabled : Bool := true
  wifiUdpEnabled : Bool := true
  wifiTcpEnabled : Bool := true
  wifiBindAddr : List UInt8 := ascii "0.0.0.0"
  wifiPort : UInt16 := 5001
  wifiTxPeerAddr : List UInt8 := []
  wifiTxPeerPort : UInt16 := 5001
  wifiTxPeers : List TxPeer := []
  bluetoothEnabled : Bool := false
  bluetoothChannel : UInt8 := 1
  fourGEnabled : Bool := false
  fourGIfname : List UInt8 := ascii "usb0"
  fourGBindToDevice : Bool := true
  fourGUdpEnabled : Bool := true
  fourGTcpEnabled : Bool := true
  fourGBindAddr : List UInt8 := ascii "0.0.0.0"
  fourGPort : UInt16 := 5002
  fourGTxPeerAddr : List UInt8 := []
  fourGTxPeerPort : UInt16 := 5002
  fourGTxPeers : List TxPeer := []
  rs485Enabled : Bool := true
  rs485UartDevice : List UInt8 := ascii "/dev/ttyS4"
  rs485Baudrate : UInt32 := 115200
  rs485Flags : UInt32 := 3
  maxPackets : UInt32 := 0

/-- `app_config_set_defaults`. -/
def appConfigSetDefaults : AppConfig := {}

/-! ## Settings -/

/-- What `apply_key_value` does for one key: the configuration with the
value set, or nothing if it rejects the value. -/
abbrev KeyHandler := AppConfig → List UInt8 → Option AppConfig

/-- A key that takes a truth value. -/
def boolKey (set : AppConfig → Bool → AppConfig) : KeyHandler := fun config value =>
  (parseBool value).map (set config)

/-- A key that takes a number it accepts. -/
def u32Key (accept : UInt32 → Bool) (set : AppConfig → UInt32 → AppConfig) : KeyHandler :=
  fun config value => ((parseU32 value).filter accept).map (set config)

/-- A key that takes any text. -/
def textKey (size : ℕ) (set : AppConfig → List UInt8 → AppConfig) : KeyHandler :=
  fun config value => some (set config (copyString size value))

/-- A key that takes a text that is not empty. -/
def requiredTextKey (size : ℕ) (set : AppConfig → List UInt8 → AppConfig) : KeyHandler :=
  fun config value => if value = [] then none else some (set config (copyString size value))

/-- A key that takes a port. -/
def portKey (set : AppConfig → UInt16 → AppConfig) : KeyHandler :=
  u32Key (fun port => port ≠ 0 && port ≤ 0xFFFF) fun config port => set config port.toUInt16

/-- The keys of `[status]`. -/
def statusKeys : List (String × KeyHandler) :=
  [("enabled", boolKey fun config v => { config with statusEnabled := v }),
   ("dir", requiredTextKey 256 fun config v => { config with statusDir := v })]

/-- The keys of `[ipc]`. A control device is rejected when its path would
have to be cut. -/
def ipcKeys : List (String × KeyHandler) :=
  [("backend", fun config value =>
      if value = ascii "host" then some { config with ipcBackend := .host }
      else if value = ascii "devmem" || value = ascii "/dev/mem" then
        some { config with ipcBackend := .devmem }
      else none),
   ("physical_base", fun config value =>
      (parseUintptr value).map fun v => { config with ipcPhysicalBase := v }),
   ("region_size", u32Key (fun _ => true) fun config v => { config with ipcRegionSize := v }),
   ("format_on_start", boolKey fun config v => { config with ipcFormatOnStart := v }),
   ("control_device", fun config value =>
      if value.length ≥ 128 then none
      else some { config with ipcControlDevice := copyString 128 value })]

/-- The keys of `[can]`. -/
def canKeys : List (String × KeyHandler) :=
  [("enabled", boolKey fun config v => { config with canEnabled := v }),
   ("ifname", requiredTextKey 32 fun config v => { config with canIfname := v }),
   ("bitrate", u32Key (fun v => v ≠ 0) fun config v => { config with canBitrate := v }),
   ("rx_filter_id", u32Key (fun _ => true) fun config v => { config with canRxFilterId := v }),
   ("tx_can_id", u32Key (fun _ => true) fun config v => { config with canTxCanId := v }),
   ("rx_filter_mask", u32Key (fun _ => true) fun config v => { config with canRxFilterMask := v }),
   ("extended_id", boolKey fun config v => { config with canExtendedId := v }),
   ("reassembly_timeout_ms",
      u32Key (fun _ => true) fun config v => { config with canReassemblyTimeoutMs := v })]

/-- The keys of `[ethernet]`. -/
def ethernetKeys : List (String × KeyHandler) :=
  [("enabled", boolKey fun config v => { config with ethernetEnabled := v }),
   ("udp_enabled", boolKey fun config v => { config with ethernetUdpEnabled := v }),
   ("tcp_enabled", boolKey fun config v => { config with ethernetTcpEnabled := v }),
   ("bind_addr", requiredTextKey 64 fun config v => { config with ethernetBindAddr := v }),
   ("port", portKey fun config v => { config with ethernetPort := v }),
   ("tx_peer_addr", textKey 64 fun config v => { config with ethernetTxPeerAddr := v }),
   ("tx_peer_port", portKey fun config v => { config with ethernetTxPeerPort := v })]

/-- The keys of `[wifi]`. -/
def wifiKeys : List (String × KeyHandler) :=
  [("enabled", boolKey fun config v => { config with wifiEnabled := v }),
   ("udp_enabled", boolKey fun config v => { config with wifiUdpEnabled := v }),
   ("tcp_enabled", boolKey fun config v => { config with wifiTcpEnabled := v }),
   ("bind_addr", requiredTextKey 64 fun config v => { config with wifiBindAddr := v }),
   ("port", portKey fun config v => { config with wifiPort := v }),
   ("tx_peer_addr", textKey 64 fun config v => { config with wifiTxPeerAddr := v }),
   ("tx_peer_port", portKey fun config v => { config with wifiTxPeerPort := v }),
   ("tx_peer", fun config value =>
      (parseTxPeer .wifi config.wifiTxPeers value).map fun v => { config with wifiTxPeers := v })]

/-- The keys of `[4g]`, which is also written `[four_g]`. -/
def fourGKeys : List (String × KeyHandler) :=
  [("enabled", boolKey fun config v => { config with fourGEnabled := v }),
   ("ifname", requiredTextKey 32 fun config v => { config with fourGIfname := v }),
   ("bind_to_device", boolKey fun config v => { config with fourGBindToDevice := v }),
   ("udp_enabled", boolKey fun config v => { config with fourGUdpEnabled := v }),
   ("tcp_enabled", boolKey fun config v => { config with fourGTcpEnabled := v }),
   ("bind_addr", requiredTextKey 64 fun config v => { config with fourGBindAddr := v }),
   ("port", portKey fun config v => { config with fourGPort := v }),
   ("tx_peer_addr", textKey 64 fun config v => { config with fourGTxPeerAddr := v }),
   ("tx_peer_port", portKey fun config v => { config with fourGTxPeerPort := v }),
   ("tx_peer", fun config value =>
      (parseTxPeer .fourG config.fourGTxPeers value).map fun v => { config with fourGTxPeers := v })]

/-- The keys of `[bluetooth]`. -/
def bluetoothKeys : List (String × KeyHandler) :=
  [("enabled", boolKey fun config v => { config with bluetoothEnabled := v }),
   ("channel", u32Key (fun v => v ≠ 0 && v ≤ 0xFF) fun config v =>
      { config with bluetoothChannel := v.toUInt8 })]

/-- The keys of `[rs485]`. -/
def rs485Keys : List (String × KeyHandler) :=
  [("enabled", boolKey fun config v => { config with rs485Enabled := v }),
   ("uart_device", textKey 64 fun config v => { config with rs485UartDevice := v }),
   ("baudrate", u32Key (fun _ => true) fun config v => { config with rs485Baudrate := v }),
   ("rs485_flags", u32Key (fun _ => true) fun config v => { config with rs485Flags := v })]

/-- The keys of `[runtime]`. -/
def runtimeKeys : List (String × KeyHandler) :=
  [("max_packets", u32Key (fun _ => true) fun config v => { config with maxPackets := v })]

/-- The sections, in the order `apply_key_value` looks at them. -/
def sections : List (String × List (String × KeyHandler)) :=
  [("status", statusKeys), ("ipc", ipcKeys), ("can", canKeys), ("ethernet", ethernetKeys),
   ("wifi", wifiKeys), ("4g", fourGKeys), ("four_g", fourGKeys), ("bluetooth", bluetoothKeys),
   ("rs485", rs485Keys), ("runtime", runtimeKeys)]

/-- The entry under a name. -/
def named {α : Type} (table : List (String × α)) (name : List UInt8) : Option α :=
  (table.find? fun entry => ascii entry.1 = name).map Prod.snd

/-- `apply_key_value`. A section or a key it does not know is skipped. -/
def applyKeyValue (config : AppConfig) (section_ key value : List UInt8) :
    UnifiedError × AppConfig :=
  match (named sections section_).bind (named · key) with
  | none => (.ok, config)
  | some handler =>
    match handler config value with
    | some config' => (.ok, config')
    | none => (.invalidArg, config)

/-! ## Validation -/

/-- The checks of an enabled interface with sockets. -/
def socketsValid (bindAddr : List UInt8) (port : UInt16) (udpEnabled tcpEnabled : Bool)
    (txPeerAddr : List UInt8) (txPeerPort : UInt16) : Bool :=
  bindAddr ≠ [] && port ≠ 0 && (udpEnabled || tcpEnabled) &&
    (txPeerAddr = [] || (txPeerPort ≠ 0 && isValidIpv4Address txPeerAddr))

/-- The checks of the peers of an interface. -/
def txPeersValid (segment : AnymsgCidSegment) (port : UInt16) (peers : List TxPeer) : Bool :=
  peers.length ≤ txPeerMax &&
    peers.all fun peer =>
      anymsgCidSegmentFromFirstByte peer.destinationCid.b0 = segment && peer.ipv4AddrBe ≠ 0 &&
        (peer.port ≠ 0 || port ≠ 0)

/-- The checks of an enabled CAN interface. -/
def canValid (config : AppConfig) : Bool :=
  let canIdMax : UInt32 := if config.canExtendedId then 0x1FFFFFFF else 0x7FF
  config.canIfname ≠ [] && config.canBitrate ≠ 0 && config.canTxCanId ≤ canIdMax &&
    config.canRxFilterId ≤ canIdMax && config.canRxFilterMask ≤ canIdMax &&
    100 ≤ config.canReassemblyTimeoutMs && config.canReassemblyTimeoutMs ≤ 5000

/-- The checks of the shared memory. -/
def ipcValid (config : AppConfig) : Bool :=
  config.ipcRegionSize = putShmRegionSize &&
    (match config.ipcBackend with
      | .devmem =>
        config.ipcPhysicalBase ≠ 0 && config.ipcPhysicalBase % putShmCacheLineSize.toUInt64 = 0
      | .host => config.ipcControlDevice = []) &&
    (config.ipcControlDevice = [] || config.ipcControlDevice.head? = some 47)

/-- `app_config_validate`. Every check that fails has the same code. -/
def appConfigValidate (config : AppConfig) : UnifiedError :=
  if !(!config.statusEnabled || config.statusDir ≠ []) then .invalidArg
  else if !ipcValid config then .invalidArg
  else if config.canEnabled && !canValid config then .invalidArg
  else if config.ethernetEnabled &&
      !socketsValid config.ethernetBindAddr config.ethernetPort config.ethernetUdpEnabled
        config.ethernetTcpEnabled config.ethernetTxPeerAddr config.ethernetTxPeerPort then
    .invalidArg
  else if config.wifiEnabled &&
      !socketsValid config.wifiBindAddr config.wifiPort config.wifiUdpEnabled
        config.wifiTcpEnabled config.wifiTxPeerAddr config.wifiTxPeerPort then
    .invalidArg
  else if !txPeersValid .wifi config.wifiPort config.wifiTxPeers then .invalidArg
  else if config.bluetoothEnabled && config.bluetoothChannel = 0 then .invalidArg
  else if config.fourGEnabled &&
      !(config.fourGIfname ≠ [] &&
        socketsValid config.fourGBindAddr config.fourGPort config.fourGUdpEnabled
          config.fourGTcpEnabled config.fourGTxPeerAddr config.fourGTxPeerPort) then
    .invalidArg
  else if !txPeersValid .fourG config.fourGPort config.fourGTxPeers then .invalidArg
  else if config.rs485Enabled &&
      !(config.rs485UartDevice ≠ [] && isSupportedRs485Baudrate config.rs485Baudrate &&
        isValidRs485Flags config.rs485Flags) then
    .invalidArg
  else .ok

/-! ## Loading -/

/-- What the loop of `app_config_load_file` keeps. -/
structure LoadState where
  config : AppConfig
  section_ : List UInt8 := []

/-- One turn of the loop, on what `fgets` has put into the buffer. The loop
ends early with a code and the configuration as it is. -/
def loadLine (state : LoadState) (line : List UInt8) :
    Except (UnifiedError × AppConfig) LoadState :=
  let work := trim (stripInlineComment (cString line))
  if work = [] then .ok state
  else if work.head? = some 91 && work.length ≥ 3 && work.getLast? = some 93 then
    .ok { state with section_ := copyString 64 (trim (work.drop 1).dropLast) }
  else if 61 ∉ work || state.section_ = [] then .error (.invalidArg, state.config)
  else
    let key := trim (work.takeWhile (· ≠ 61))
    let value := unquote (trim ((work.dropWhile (· ≠ 61)).drop 1))
    match applyKeyValue state.config state.section_ key value with
    | (.ok, config) => .ok { state with config := config }
    | (_, config) => .error (.invalidArg, config)

/-- `app_config_load_file`, on what `fopen` gives: the code and the
configuration. The file can be read to its end. -/
def appConfigLoadFile (config : AppConfig) (file : Option (List UInt8)) :
    UnifiedError × AppConfig :=
  match file with
  | none => (.invalidArg, config)
  | some bytes =>
    match (LineChunks.chunks 10 (configLineMax - 1) bytes).foldlM loadLine { config := config } with
    | .ok state => (appConfigValidate state.config, state.config)
    | .error failed => failed

end Linux

end PutGateway
