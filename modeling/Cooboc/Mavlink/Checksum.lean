import Mathlib.Data.UInt
import Cooboc.Foundations.FoldChecksum

/-! The checksum of `inc/mavlink/checksum.h`, a CRC of sixteen bits accumulated byte by byte.
Two neighbouring bytes are a window that it tells apart.
-/

namespace Cooboc.Mavlink

open Cooboc.Foundations

/-- `X25_INIT_CRC`. -/
def x25InitCrc : UInt16 := 0xffff

def crcAccumulate (data : UInt8) (crcAccum : UInt16) : UInt16 :=
  let tmp := data ^^^ (crcAccum &&& 0xff).toUInt8
  let tmp := tmp ^^^ (tmp <<< 4)
  (crcAccum >>> 8) ^^^ (tmp.toUInt16 <<< 8) ^^^ (tmp.toUInt16 <<< 3) ^^^ (tmp.toUInt16 >>> 4)

/-- `crc_accumulate_buffer`. -/
def crcAccumulateBuffer (crcAccum : UInt16) (buffer : List UInt8) : UInt16 :=
  buffer.foldl (fun crcTmp data => crcAccumulate data crcTmp) crcAccum

/-- `crc_calculate`. -/
def crcCalculate (buffer : List UInt8) : UInt16 := crcAccumulateBuffer x25InitCrc buffer

theorem crcAccumulateBuffer_append (crcAccum : UInt16) (before after : List UInt8)
    : crcAccumulateBuffer crcAccum (before ++ after)
      = crcAccumulateBuffer (crcAccumulateBuffer crcAccum before) after :=
  List.foldl_append

theorem crcCalculate_concat (before : List UInt8) (data : UInt8)
    : crcCalculate (before ++ [data]) = crcAccumulate data (crcCalculate before) :=
  crcAccumulateBuffer_append x25InitCrc before [data]

-----------------------------------------------------------------------------------------
-- The two bytes of a checksum
-----------------------------------------------------------------------------------------

/-- `checksum & 0xFF`, the check byte sent first. -/
def lowByte (checksum : UInt16) : UInt8 := (checksum &&& 0xff).toUInt8

/-- `checksum >> 8`, the check byte sent last. -/
def highByte (checksum : UInt16) : UInt8 := (checksum >>> 8).toUInt8

theorem lowByte_toNat (checksum : UInt16) : (lowByte checksum).toNat = checksum.toNat % 256 := by
  rw [lowByte, UInt16.toNat_toUInt8, UInt16.toNat_and]
  change (checksum.toNat &&& (2 ^ 8 - 1)) % 256 = checksum.toNat % 256
  rw [Nat.and_two_pow_sub_one_eq_mod, Nat.mod_mod]

theorem highByte_toNat (checksum : UInt16)
    : (highByte checksum).toNat = checksum.toNat / 256 := by
  have bound := checksum.toNat_lt
  rw [highByte, UInt16.toNat_toUInt8, UInt16.toNat_shiftRight]
  change checksum.toNat >>> 8 % 256 = checksum.toNat / 256
  rw [Nat.shiftRight_eq_div_pow, Nat.mod_eq_of_lt (by omega)]

/-- Checksums with the same two bytes are the same. -/
theorem checksum_ext {first second : UInt16} (low : lowByte first = lowByte second)
    (high : highByte first = highByte second)
    : first = second := by
  have low_nat := congrArg UInt8.toNat low
  have high_nat := congrArg UInt8.toNat high
  rw [lowByte_toNat, lowByte_toNat] at low_nat
  rw [highByte_toNat, highByte_toNat] at high_nat
  exact UInt16.toNat_inj.mp (by omega)

-----------------------------------------------------------------------------------------
-- One step on the two bytes
-----------------------------------------------------------------------------------------

/-- The second assignment to `tmp`. -/
def shiftMix (tmp : UInt8) : UInt8 := tmp ^^^ (tmp <<< 4)

/-- `tmp` after it. -/
def mixed (data low : UInt8) : UInt8 := shiftMix (data ^^^ low)

/-- What `tmp` leaves in the first byte. -/
def lowPart (tmp : UInt8) : UInt8 := (tmp <<< 3) ^^^ (tmp >>> 4)

/-- What `tmp` leaves in the last byte. -/
def highPart (tmp : UInt8) : UInt8 := tmp ^^^ (tmp >>> 5)

/-- The three shifts of `tmp`, as the code adds them up. -/
def spread (tmp : UInt8) : UInt16 :=
  (tmp.toUInt16 <<< 8) ^^^ (tmp.toUInt16 <<< 3) ^^^ (tmp.toUInt16 >>> 4)

/-- A property of bytes holds of all of them if it holds of all 256. -/
theorem forall_byte {holds : UInt8 → Prop} (every : ∀ byte : Fin 256, holds (.ofFin byte))
    (byte : UInt8)
    : holds byte :=
  every byte.toFin

theorem spread_low (tmp : UInt8) : lowByte (spread tmp) = lowPart tmp := by
  revert tmp
  exact forall_byte (by decide +kernel)

theorem spread_high (tmp : UInt8) : highByte (spread tmp) = highPart tmp := by
  revert tmp
  exact forall_byte (by decide +kernel)

/-- The last part tells the values of `tmp` apart. Witness: taken twice, it gives them back.
-/
theorem highPart_injective : Function.Injective highPart := by
  have twice : ∀ tmp, highPart (highPart tmp) = tmp := forall_byte (by decide +kernel)
  exact Function.LeftInverse.injective twice

/-- So does the second assignment. -/
theorem shiftMix_injective : Function.Injective shiftMix := by
  have twice : ∀ tmp, shiftMix (shiftMix tmp) = tmp := forall_byte (by decide +kernel)
  exact Function.LeftInverse.injective twice

theorem crcAccumulate_spread (data : UInt8) (crcAccum : UInt16)
    : crcAccumulate data crcAccum
      = (crcAccum >>> 8) ^^^ spread (mixed data (lowByte crcAccum)) := by
  simp only [crcAccumulate, spread, mixed, shiftMix, lowByte, UInt16.xor_assoc]

theorem lowByte_eq (checksum : UInt16) : lowByte checksum = checksum.toUInt8 := by
  apply UInt8.toNat_inj.mp
  rw [lowByte_toNat, UInt16.toNat_toUInt8]

theorem lowByte_xor (first second : UInt16)
    : lowByte (first ^^^ second) = lowByte first ^^^ lowByte second := by
  simp only [lowByte_eq, UInt16.toUInt8_xor]

theorem highByte_xor (first second : UInt16)
    : highByte (first ^^^ second) = highByte first ^^^ highByte second := by
  simp only [highByte, UInt16.shiftRight_xor, UInt16.toUInt8_xor]

/-- The first byte of the next checksum: the old last byte, and its part of `tmp`. -/
theorem crcAccumulate_low (data : UInt8) (crcAccum : UInt16)
    : lowByte (crcAccumulate data crcAccum)
      = highByte crcAccum ^^^ lowPart (mixed data (lowByte crcAccum)) := by
  rw [crcAccumulate_spread, lowByte_xor, spread_low, lowByte_eq]
  rfl

/-- The last byte of the next checksum is its part of `tmp` alone. -/
theorem crcAccumulate_high (data : UInt8) (crcAccum : UInt16)
    : highByte (crcAccumulate data crcAccum) = highPart (mixed data (lowByte crcAccum)) := by
  have cleared : highByte (crcAccum >>> 8) = 0 := by
    have bound := crcAccum.toNat_lt
    have shifted : (crcAccum >>> 8).toNat = crcAccum.toNat / 256 := by
      rw [UInt16.toNat_shiftRight]
      exact Nat.shiftRight_eq_div_pow _ 8
    apply UInt8.toNat_inj.mp
    rw [highByte_toNat, shifted]
    exact Nat.div_eq_of_lt (by omega)
  rw [crcAccumulate_spread, highByte_xor, spread_high, cleared, UInt8.zero_xor]

-----------------------------------------------------------------------------------------
-- What the checksum tells apart
-----------------------------------------------------------------------------------------

/-- Equal `tmp` from the same data come from the same first byte, and from the same first byte
come from the same data.
-/
theorem mixed_inj {data other low second : UInt8} (same : mixed data low = mixed other second)
    : data ^^^ low = other ^^^ second :=
  shiftMix_injective same

/-- One byte read keeps the checksums apart. Witness: the last byte gives `tmp` back, and with
it the first byte of the old checksum; what is left of the new first byte is the old last
byte.
-/
theorem crcAccumulate_state_injective (data : UInt8)
    : Function.Injective (crcAccumulate data) := by
  intro first second same
  have high := congrArg highByte same
  rw [crcAccumulate_high, crcAccumulate_high] at high
  have tmp := highPart_injective high
  have low := congrArg lowByte same
  rw [crcAccumulate_low, crcAccumulate_low, tmp, UInt8.xor_left_inj] at low
  exact checksum_ext ((UInt8.xor_right_inj data).mp (mixed_inj tmp)) low

/-- Checksums agree in their last byte only if `tmp` does, and with the same data only if they
agreed in the first byte.
-/
theorem crcAccumulate_pair {crcAccum : UInt16} {first second other next : UInt8}
    (same
      : crcAccumulate second (crcAccumulate first crcAccum)
        = crcAccumulate next (crcAccumulate other crcAccum))
    : first = other ∧ second = next := by
  have last := congrArg highByte same
  rw [crcAccumulate_high, crcAccumulate_high] at last
  have later := highPart_injective last
  have low := congrArg lowByte same
  rw [crcAccumulate_low second, crcAccumulate_low next, later, UInt8.xor_left_inj,
    crcAccumulate_high, crcAccumulate_high] at low
  have earlier := mixed_inj (highPart_injective low)
  obtain rfl := (UInt8.xor_left_inj (lowByte crcAccum)).mp earlier
  exact ⟨rfl, (UInt8.xor_left_inj _).mp (mixed_inj later)⟩

/-- The checksum as a code that tells two neighbouring bytes apart. -/
def crcCode : WindowCode UInt16 UInt8 2 where
  accumulate crcTmp data := crcAccumulate data crcTmp
  state_injective := crcAccumulate_state_injective
  window_injective := by
    intro crcAccum first second pair other same
    obtain ⟨a, b, rfl⟩ := List.length_eq_two.mp pair
    obtain ⟨c, d, rfl⟩ := List.length_eq_two.mp other
    obtain ⟨rfl, rfl⟩ := crcAccumulate_pair same
    rfl

end Cooboc.Mavlink
