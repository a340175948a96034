import PutGateway.Common.SharedMemoryIpc
import PutGateway.Lib.BitSet
import PutGateway.Lib.CyclicRedundancy
/-!
# What the CRC tells

`unified_crc16_ccitt_false` shifts and folds as a cyclic redundancy check
over the generator `X ^ 16 + X ^ 12 + X ^ 5 + 1` does, so the register is
the remainder of a polynomial division (`crc16_is_remainder`). The
generator has a constant term, and so two byte strings that differ in a
burst of at most sixteen bits have different checksums
(`crc16_ne_of_burst`); a descriptor corrupted in that way fails its check.
-/

namespace PutGateway

open Polynomial BitPolynomial CyclicRedundancy

/-- The bits of a byte string, a byte at a time. -/
abbrev bitsOf (data : List UInt8) : List (BitVec 8) := data.map UInt8.toBitVec

/-- **A short burst of errors**: two byte strings of one length that
differ, and differ in a window of sixteen consecutive bits only, the most
significant bit of each byte first. -/
def ShortBurst (a b : List UInt8) : Prop := Burst 16 (bitsOf a) (bitsOf b)

/-- The polynomial `0x1021`, without its leading term. -/
def crcPolynomial : BitVec 16 := 0x1021

/-! ## The register -/

theorem toBitVec_crcShift (crc : UInt16) :
    (crcShift crc).toBitVec = shift crcPolynomial crc.toBitVec := by
  have htop : crc &&& 0x8000 ≠ 0 ↔ crc.toBitVec.msb = true := by
    have hbit : (0x8000 : UInt16).toBitVec = BitSet.bit 16 15 := by decide
    have hzero : crc &&& 0x8000 = 0 ↔ crc.toBitVec.getLsbD 15 = false := by
      rw [← BitSet.and_bit_eq_zero_iff, ← hbit, ← UInt16.toBitVec_and, ← UInt16.toBitVec_inj]
      rfl
    rw [ne_eq, hzero, Bool.not_eq_false, BitVec.msb_eq_getLsbD_last]
  unfold crcShift shift
  by_cases hmsb : crc.toBitVec.msb = true
  · rw [if_pos (htop.mpr hmsb), if_pos hmsb]
    rfl
  · rw [if_neg (fun h => hmsb (htop.mp h)), if_neg hmsb]
    rfl

theorem toBitVec_crcByte (crc : UInt16) (byte : UInt8) :
    (crcByte crc byte).toBitVec = feed crcPolynomial crc.toBitVec byte.toBitVec := by
  have hsemiconj : Function.Semiconj UInt16.toBitVec crcShift (shift crcPolynomial) := toBitVec_crcShift
  rw [crcByte, (hsemiconj.iterate_right 8).eq]
  rfl

/-- The loop over the bytes is the checksum of their bits. -/
theorem toBitVec_crc16 (data : List UInt8) :
    (unifiedCrc16CcittFalse data).toBitVec = checksum crcPolynomial 0xFFFF (bitsOf data) := by
  have hfold : ∀ crc : UInt16, (data.foldl crcByte crc).toBitVec =
      checksum crcPolynomial crc.toBitVec (bitsOf data) := by
    induction data with
    | nil => exact fun crc => rfl
    | cons byte data ih =>
      intro crc
      rw [List.foldl_cons, ih, toBitVec_crcByte]
      rfl
  exact hfold 0xFFFF

/-- The generator of CRC-16/CCITT-FALSE. -/
theorem generator_crcPolynomial : generator crcPolynomial = X ^ 16 + X ^ 12 + X ^ 5 + 1 := by
  have hbits : crcPolynomial = BitVec.twoPow 16 12 ^^^ BitVec.twoPow 16 5 ^^^ BitVec.twoPow 16 0 := by
    decide
  rw [generator, hbits, ofBits_xor, ofBits_xor, ofBits_twoPow (by decide), ofBits_twoPow (by decide),
    ofBits_twoPow (by decide), pow_zero, ← add_assoc, ← add_assoc]

/-- **The CRC is a remainder**: of the message with sixteen zero bits
behind it and the initial register added to its front, divided by the
generator. -/
theorem crc16_is_remainder (data : List UInt8) :
    ofBits (unifiedCrc16CcittFalse data).toBitVec =
      (X ^ (8 * data.length) * ofBits (0xFFFF : BitVec 16) + X ^ 16 * ofWords (bitsOf data)) %ₘ
        (X ^ 16 + X ^ 12 + X ^ 5 + 1) := by
  rw [toBitVec_crc16, ofBits_checksum (by decide), generator_crcPolynomial, List.length_map]

/-! ## Bursts -/

/-- **A short burst changes the CRC**, whatever the length. -/
theorem crc16_ne_of_burst {a b : List UInt8} (h : ShortBurst a b) :
    unifiedCrc16CcittFalse a ≠ unifiedCrc16CcittFalse b := by
  intro hsame
  have hbits := congrArg UInt16.toBitVec hsame
  rw [toBitVec_crc16, toBitVec_crc16] at hbits
  exact checksum_ne_of_burst (by decide) (by decide) h hbits

/-- Two neighbouring bytes that change are a short burst. -/
theorem shortBurst_of_replaced (before after : List UInt8) {old new : List UInt8}
    (hlength : old.length = new.length) (hshort : old.length ≤ 2) (hne : old ≠ new) :
    ShortBurst (before ++ old ++ after) (before ++ new ++ after) := by
  have hbits : bitsOf old ≠ bitsOf new := fun h =>
    hne (List.map_injective_iff.mpr (fun _ _ => UInt8.toBitVec_inj.mp) h)
  unfold ShortBurst bitsOf
  rw [List.map_append, List.map_append, List.map_append, List.map_append]
  exact burst_of_replaced _ _ (by simp [hlength]) (by simp; omega) hbits

end PutGateway
