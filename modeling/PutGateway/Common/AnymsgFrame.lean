import PutGateway.Common.ErrorCode
/-!
# The anyMSG frame

`common/include/anymsg_frame.h`: the 40-byte header every frame starts
with, the segments its addresses fall into, and the checks that do not
depend on a byte order. A header is read out of the block that holds the
frame.
-/

namespace PutGateway

/-! ## Sizes of arrays

A numeral is an index of an array of the source that has one of these
sizes: by interface, by ring slot or CAN session, by latency sample, by
frame block, and the bytes of a block. -/

instance neZero_six : NeZero 6 := ⟨by decide⟩

instance neZero_eight : NeZero 8 := ⟨by decide⟩

instance neZero_thirtyTwo : NeZero 32 := ⟨by decide⟩

instance neZero_sixtyFour : NeZero 64 := ⟨by decide⟩

instance neZero_fiveHundredTwelve : NeZero 512 := ⟨by decide⟩

/-! ## The header and its bytes -/

/-- `ANYMSG_HEADER_SIZE`. -/
def anymsgHeaderSize : UInt16 := 40

/-- Four raw bytes: a CID, a `local_time`, or `__SRCHLD__`. -/
structure Bytes4 where
  b0 : UInt8 := 0
  b1 : UInt8 := 0
  b2 : UInt8 := 0
  b3 : UInt8 := 0
  deriving DecidableEq, Repr

/-- An address: `uint8_t[ANYMSG_CID_LENGTH]`. -/
abbrev Cid := Bytes4

def Bytes4.toList (b : Bytes4) : List UInt8 := [b.b0, b.b1, b.b2, b.b3]

/-- `write_le16`. -/
def writeLe16 (value : UInt16) : UInt8 × UInt8 := ((value &&& 0xFF).toUInt8, (value >>> 8).toUInt8)

/-- `read_le16`. -/
def readLe16 (b0 b1 : UInt8) : UInt16 := b0.toUInt16 ||| (b1.toUInt16 <<< 8)

/-- What is written is read back. -/
theorem readLe16_writeLe16 (value : UInt16) :
    readLe16 (writeLe16 value).1 (writeLe16 value).2 = value := by
  have hlow : ((value &&& 0xFF).toUInt8).toNat = value.toNat % 256 := by
    rw [UInt16.toNat_toUInt8, UInt16.toNat_and]
    have h255 : (0xFF : UInt16).toNat = 2 ^ 8 - 1 := rfl
    rw [h255, Nat.and_two_pow_sub_one_eq_mod]
    omega
  have hhigh : ((value >>> 8).toUInt8).toNat = value.toNat / 256 := by
    have h8 : (8 : UInt16).toNat % 16 = 8 := rfl
    have hlt := value.toNat_lt
    rw [UInt16.toNat_toUInt8, UInt16.toNat_shiftRight, h8, Nat.shiftRight_eq_div_pow]
    omega
  have h8 : (8 : UInt16).toNat % 16 = 8 := rfl
  have hlt := value.toNat_lt
  have hshift : value.toNat / 256 * 2 ^ 8 % 2 ^ 16 = 2 ^ 8 * (value.toNat / 256) := by omega
  rw [← UInt16.toNat_inj, readLe16, writeLe16, UInt16.toNat_or, UInt16.toNat_shiftLeft, h8,
    UInt8.toNat_toUInt16, UInt8.toNat_toUInt16, hlow, hhigh, Nat.shiftLeft_eq, hshift, Nat.or_comm,
    ← Nat.two_pow_add_eq_or_of_lt (by omega)]
  omega

/-- `read_le32`. -/
def readLe32 (b : Bytes4) : UInt32 :=
  b.b0.toUInt32 ||| (b.b1.toUInt32 <<< 8) ||| (b.b2.toUInt32 <<< 16) ||| (b.b3.toUInt32 <<< 24)

/-! ## Payload types -/

/-- `ANYMSG_TYPE_ENDPOINT_TO_GATEWAY_HEARTBEAT`. -/
def anymsgTypeEndpointToGatewayHeartbeat : UInt8 := 0x00
def anymsgTypeNetworkAuthMax : UInt8 := 0x0A
def anymsgTypeServiceIndexMin : UInt8 := 0x0D
def anymsgTypeServiceIndexMax : UInt8 := 0x12
def anymsgTypeTunnelPortMappingMin : UInt8 := 0x15
def anymsgTypeTunnelPortMappingMax : UInt8 := 0x1E
def anymsgTypeModbusRtu : UInt8 := 0x47
def anymsgTypeCanopen : UInt8 := 0x4E

/-! ## Address segments -/

/-- `anymsg_cid_segment_t`. -/
inductive AnymsgCidSegment
  | reservedLow
  | can
  | ethernet
  | wifi
  | bluetooth
  | fourG
  | rs485
  | reservedHigh
  deriving DecidableEq, Repr

/-- `anymsg_cid_segment_from_first_byte`. -/
def anymsgCidSegmentFromFirstByte (firstByte : UInt8) : AnymsgCidSegment :=
  if firstByte ≤ 0x1F then .reservedLow
  else if firstByte ≤ 0x3F then .can
  else if firstByte ≤ 0x5F then .ethernet
  else if firstByte ≤ 0x7F then .wifi
  else if firstByte ≤ 0x9F then .bluetooth
  else if firstByte ≤ 0xBF then .fourG
  else if firstByte ≤ 0xDF then .rs485
  else .reservedHigh

/-- `anymsg_cid_first_byte_is_documented`: every first byte falls into
one of the eight segments, reserved ones included. -/
def anymsgCidFirstByteIsDocumented (firstByte : UInt8) : Bool :=
  match anymsgCidSegmentFromFirstByte firstByte with
  | .reservedLow | .can | .ethernet | .wifi | .bluetooth | .fourG | .rs485 | .reservedHigh => true

/-! ## The header -/

/-- `anymsg_header_t`. Multi-byte fields are raw bytes. -/
structure AnymsgHeader where
  msgLength0 : UInt8
  msgLength1 : UInt8
  retries : UInt8
  reserved : UInt8
  srchld : Bytes4
  destinationCid : Cid
  sourceCid : Cid
  localTime : Bytes4
  verifyString : Fin 16 → UInt8
  payloadLength0 : UInt8
  payloadLength1 : UInt8
  type : UInt8
  padding : UInt8

/-- The bytes of one frame-pool block. -/
abbrev FrameBlock := Fin 512 → UInt8

/-- The four bytes of a block from an offset on. -/
def FrameBlock.bytes4 (b : FrameBlock) (i : ℕ) (h : i + 4 ≤ 512) : Bytes4 :=
  ⟨b ⟨i, by omega⟩, b ⟨i + 1, by omega⟩, b ⟨i + 2, by omega⟩, b ⟨i + 3, by omega⟩⟩

/-- A block read as a header: `(const anymsg_header_t *)frame`. -/
def FrameBlock.header (b : FrameBlock) : AnymsgHeader where
  msgLength0 := b 0
  msgLength1 := b 1
  retries := b 2
  reserved := b 3
  srchld := b.bytes4 4 (by omega)
  destinationCid := b.bytes4 8 (by omega)
  sourceCid := b.bytes4 12 (by omega)
  localTime := b.bytes4 16 (by omega)
  verifyString k := b ⟨20 + k, by omega⟩
  payloadLength0 := b 36
  payloadLength1 := b 37
  type := b 38
  padding := b 39

/-- The bytes from a pointer on. -/
abbrev Bytes := ℕ → UInt8

/-- Received bytes read as a header. -/
def Bytes.header (b : Bytes) : AnymsgHeader := FrameBlock.header fun k => b k

/-- `memcpy` of `length` bytes into a block, from an offset on. -/
def FrameBlock.copyIn (b : FrameBlock) (offset : ℕ) (bytes : Bytes) (length : ℕ) : FrameBlock :=
  fun k => if offset ≤ k ∧ k < offset + length then bytes (k - offset) else b k

/-- Subtraction of `size_t`. -/
def sizeSub (a b : ℕ) : ℕ := (2 ^ 64 + a - b) % 2 ^ 64

theorem sizeSub_of_le {a b : ℕ} (hba : b ≤ a) (ha : a < 2 ^ 64) : sizeSub a b = a - b := by
  unfold sizeSub
  omega

/-- The bytes of a block from its start. -/
def FrameBlock.upTo (b : FrameBlock) (n : ℕ) : List UInt8 := ((List.finRange 512).take n).map b

namespace FrameBlock

variable {b : FrameBlock} {k n : ℕ}

@[simp] theorem length_upTo (hn : n ≤ 512) : (b.upTo n).length = n := by
  simp [upTo, hn]

theorem getD_upTo (k : ℕ) (hk : k < n) (hn : n ≤ 512) : (b.upTo n).getD k 0 = b ⟨k, by omega⟩ := by
  simp [upTo, List.getD_eq_getElem?_getD, hk, show k < 512 by omega]

/-- What is copied behind a prefix extends it. -/
theorem upTo_copyIn (bytes : List UInt8) (h : n + bytes.length ≤ 512) :
    (b.copyIn n (fun k => bytes.getD k 0) bytes.length).upTo (n + bytes.length) = b.upTo n ++
      bytes := by
  refine List.ext_getElem (by simp [upTo, h, show n ≤ 512 by omega]) fun k hk hk' => ?_
  rw [length_upTo h] at hk
  simp only [upTo, List.getElem_map, List.getElem_take, List.getElem_finRange, copyIn,
    List.getElem_append, List.length_map, List.length_take, List.length_finRange]
  by_cases hkn : k < n
  · rw [dif_pos (by omega), if_neg (by simp; omega)]
  · have hlen : min n 512 = n := by omega
    rw [dif_neg (by omega), if_pos (by simp; omega)]
    simp [List.getD_eq_getElem?_getD, hlen, show k - n < bytes.length by omega]

/-- A header is the first forty bytes. -/
theorem header_congr {b' : FrameBlock} (h : ∀ k : Fin 512, k < 40 → b k = b' k) :
    b.header = b'.header := by
  have hbytes : ∀ i (hi : i + 4 ≤ 40), b.bytes4 i (by omega) = b'.bytes4 i (by omega) := by
    intro i hi
    unfold bytes4
    rw [h ⟨i, by omega⟩ (by rw [Fin.lt_def]; show i < 40; omega),
      h ⟨i + 1, by omega⟩ (by rw [Fin.lt_def]; show i + 1 < 40; omega),
      h ⟨i + 2, by omega⟩ (by rw [Fin.lt_def]; show i + 2 < 40; omega),
      h ⟨i + 3, by omega⟩ (by rw [Fin.lt_def]; show i + 3 < 40; omega)]
  have hverify : (fun k : Fin 16 => b ⟨20 + k, by omega⟩) =
      fun k : Fin 16 => b' ⟨20 + k, by omega⟩ := by
    funext k
    exact h _ (by rw [Fin.lt_def]; show 20 + (k : ℕ) < 40; omega)
  unfold header
  rw [hbytes 4 (by omega), hbytes 8 (by omega), hbytes 12 (by omega), hbytes 16 (by omega), hverify,
    h 0 (by decide), h 1 (by decide), h 2 (by decide), h 3 (by decide), h 36 (by decide),
    h 37 (by decide), h 38 (by decide), h 39 (by decide)]

/-- A header copied to the start of a block is its header. -/
theorem header_copyIn (b : FrameBlock) (bytes : Bytes) {length : ℕ} (hl : 40 ≤ length) :
    (b.copyIn 0 bytes length).header = bytes.header := by
  refine header_congr fun k hk => ?_
  have hk' : (k : ℕ) < 40 := hk
  simp only [copyIn]
  rw [if_pos (by omega), Nat.sub_zero]

/-- What is copied behind a header leaves it alone. -/
theorem header_copyIn_behind (b : FrameBlock) (bytes : Bytes) (length : ℕ) {offset : ℕ}
    (ho : 40 ≤ offset) : (b.copyIn offset bytes length).header = b.header := by
  refine header_congr fun k hk => ?_
  have hk' : (k : ℕ) < 40 := hk
  simp only [copyIn]
  rw [if_neg (by omega)]

end FrameBlock

/-- `anymsg_reserved_fields_are_zero`. -/
def anymsgReservedFieldsAreZero (header : AnymsgHeader) : Bool :=
  header.reserved == 0 && header.padding == 0 && header.srchld == {}

/-- `anymsg_validate_normalized_lengths`. -/
def anymsgValidateNormalizedLengths (msgLength payloadLength : UInt16) (actualLength : ℕ) :
    UnifiedError :=
  if msgLength < anymsgHeaderSize then .length
  else if msgLength.toUInt32 ≠ anymsgHeaderSize.toUInt32 + payloadLength.toUInt32 then
    .payloadLength
  else if actualLength ≠ msgLength.toNat then .length
  else .ok

/-- `anymsg_validate_header_static_fields`. -/
def anymsgValidateHeaderStaticFields (header : AnymsgHeader) : UnifiedError :=
  if !anymsgReservedFieldsAreZero header then .protocolHeader
  else if !anymsgCidFirstByteIsDocumented header.destinationCid.b0 ||
      !anymsgCidFirstByteIsDocumented header.sourceCid.b0 then .invalidArg
  else .ok

end PutGateway
