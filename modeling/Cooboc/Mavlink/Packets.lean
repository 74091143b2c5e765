import Mathlib.Data.List.GetD
import Mathlib.Data.UInt
import Cooboc.Mavlink.Delivery

/-! The fields of a packet, as `_MAV_RETURN_…` reads them from a payload and the packed
structures of `common` lay them out: little endian, at fixed offsets.
-/

namespace Cooboc.Mavlink

/-- A field of sixteen bits in memory. -/
def putUint16 (value : UInt16) : List UInt8 := [lowByte value, highByte value]

/-- A field of thirty-two bits in memory, its lower half first. -/
def putUint32 (value : UInt32) : List UInt8 :=
  putUint16 value.toUInt16 ++ putUint16 (value >>> 16).toUInt16

/-- The sixteen bits of two bytes in memory. -/
def joinUint16 (low high : UInt8) : UInt16 := (high.toUInt16 <<< 8) ||| low.toUInt16

/-- The field of sixteen bits at an offset. -/
def getUint16 (memory : List UInt8) (offset : Nat) : UInt16 :=
  joinUint16 (memory.getD offset 0) (memory.getD (offset + 1) 0)

/-- The field of thirty-two bits at an offset. -/
def getUint32 (memory : List UInt8) (offset : Nat) : UInt32 :=
  ((getUint16 memory (offset + 2)).toUInt32 <<< 16) ||| (getUint16 memory offset).toUInt32

/-- A field of sixteen bits is read as it was written. -/
theorem joinUint16_bytes (value : UInt16)
    : joinUint16 (lowByte value) (highByte value) = value := by
  have bound := value.toNat_lt
  have shifted : ((highByte value).toUInt16 <<< 8).toNat = (value.toNat / 256) <<< 8 := by
    rw [UInt16.toNat_shiftLeft, UInt8.toNat_toUInt16, highByte_toNat]
    change ((value.toNat / 256) <<< 8) % 65536 = _
    rw [Nat.shiftLeft_eq, Nat.mod_eq_of_lt (by omega)]
  apply UInt16.toNat_inj.mp
  rw [joinUint16, UInt16.toNat_or, shifted, UInt8.toNat_toUInt16, lowByte_toNat,
    ← Nat.shiftLeft_add_eq_or_of_lt (Nat.mod_lt _ (by decide)), Nat.shiftLeft_eq]
  omega

/-- The halves of a field of thirty-two bits make up the field. -/
theorem joinUint32_halves (value : UInt32)
    : (value >>> 16).toUInt16.toUInt32 <<< 16 ||| value.toUInt16.toUInt32 = value := by
  have bound := value.toNat_lt
  have upper : (value >>> 16).toUInt16.toNat = value.toNat / 65536 := by
    rw [UInt32.toNat_toUInt16, UInt32.toNat_shiftRight]
    change (value.toNat >>> 16) % 65536 = _
    rw [Nat.shiftRight_eq_div_pow, Nat.mod_eq_of_lt (by omega)]
  have shifted
      : ((value >>> 16).toUInt16.toUInt32 <<< 16).toNat = (value.toNat / 65536) <<< 16 := by
    rw [UInt32.toNat_shiftLeft, UInt16.toNat_toUInt32, upper]
    change ((value.toNat / 65536) <<< 16) % 4294967296 = _
    rw [Nat.shiftLeft_eq, Nat.mod_eq_of_lt (by omega)]
  apply UInt32.toNat_inj.mp
  rw [UInt32.toNat_or, shifted, UInt16.toNat_toUInt32, UInt32.toNat_toUInt16,
    ← Nat.shiftLeft_add_eq_or_of_lt (Nat.mod_lt _ (by decide)), Nat.shiftLeft_eq]
  omega

theorem getD_behind (before after : List UInt8) (offset : Nat)
    : (before ++ after).getD (before.length + offset) 0 = after.getD offset 0 := by
  rw [List.getD_append_right _ _ _ _ (Nat.le_add_right _ _), Nat.add_sub_cancel_left]

/-- What a payload starts with stands at the start of the payload's memory. -/
theorem MavlinkMessage.payload_memory (message : MavlinkMessage)
    : ∃ rest, message.payload64.toList = message.payload ++ rest :=
  ⟨message.payload64.toList.drop message.len.toNat, (List.take_append_drop _ _).symm⟩

end Cooboc.Mavlink
