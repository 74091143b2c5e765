import Mathlib.Data.BitVec
import Mathlib.Data.List.Basic
import Mathlib.Tactic.Ring

/-! Words that are sent and received bit by bit, the topmost bit first: the sender tests its
topmost bit and shifts to the left, the receiver shifts to the left and sets its lowest bit.
-/

namespace Cooboc.Foundations

/-- The first bits that a sender of the word tests. -/
def topBits {w : Nat} (word : BitVec w) : Nat → List Bool
  | 0 => []
  | count + 1 => word.msb :: topBits (word <<< 1) count

/-- The word that a receiver has after some bits. -/
def shiftIn {w : Nat} (word : BitVec w) (bits : List Bool) : BitVec w :=
  bits.foldl (fun word bit => if bit then word <<< 1 ||| 1 else word <<< 1) word

/-- The number that the bits spell. -/
def binary (bits : List Bool) : Nat := bits.foldl (fun number bit => 2 * number + bit.toNat) 0

variable {w : Nat}

theorem topBits_length (word : BitVec w) (count : Nat) : (topBits word count).length = count := by
  induction count generalizing word with
  | zero => rfl
  | succ count ih => exact congrArg Nat.succ (ih _)

theorem binary_from (number : Nat) (bits : List Bool)
    : bits.foldl (fun number bit => 2 * number + bit.toNat) number
      = number * 2 ^ bits.length + binary bits := by
  induction bits generalizing number with
  | nil => simp [binary]
  | cons bit rest ih =>
      have own : binary (bit :: rest) = (2 * 0 + bit.toNat) * 2 ^ rest.length + binary rest :=
        ih _
      rw [List.foldl_cons, ih, own, List.length_cons]
      ring

theorem binary_cons (bit : Bool) (rest : List Bool)
    : binary (bit :: rest) = bit.toNat * 2 ^ rest.length + binary rest := by
  rw [binary, List.foldl_cons, binary_from, Nat.mul_zero, Nat.zero_add]

theorem binary_append (first second : List Bool)
    : binary (first ++ second) = binary first * 2 ^ second.length + binary second := by
  rw [binary, List.foldl_append, binary_from]
  rfl

/-- A word is twice its topmost bit away from itself shifted. -/
theorem toNat_shiftLeft_msb (word : BitVec w)
    : 2 * word.toNat = word.msb.toNat * 2 ^ w + (word <<< 1).toNat := by
  have bound := word.isLt
  have shifted : (word <<< 1).toNat = 2 * word.toNat % 2 ^ w := by
    rw [BitVec.toNat_shiftLeft, Nat.shiftLeft_eq, Nat.pow_one, Nat.mul_comm]
  rw [shifted]
  cases top : word.msb with
  | false =>
      rw [BitVec.msb_eq_false_iff_two_mul_lt] at top
      rw [Nat.mod_eq_of_lt top]
      simp
  | true =>
      rw [BitVec.msb_eq_true_iff_two_mul_ge] at top
      rw [Nat.mod_eq_sub_mod top, Nat.mod_eq_of_lt (by omega)]
      simp only [Bool.toNat_true, Nat.one_mul]
      omega

/-- The first bits spell the word without its other bits. -/
theorem binary_topBits (word : BitVec w) {count : Nat} (within : count ≤ w)
    : binary (topBits word count) = word.toNat / 2 ^ (w - count) := by
  induction count generalizing word with
  | zero =>
      rw [Nat.sub_zero, Nat.div_eq_of_lt word.isLt]
      rfl
  | succ count ih =>
      have whole : 2 ^ w = 2 ^ count * 2 ^ (w - count) := by
        rw [← Nat.pow_add, Nat.add_sub_cancel' (Nat.le_of_succ_le within)]
      have half : 2 ^ (w - count) = 2 * 2 ^ (w - (count + 1)) := by
        rw [← Nat.pow_succ', Nat.succ_eq_add_one, Nat.sub_add_eq, Nat.sub_add_cancel (by omega)]
      rw [topBits, binary_cons, topBits_length, ih _ (Nat.le_of_succ_le within),
        ← Nat.mul_div_mul_left word.toNat _ Nat.two_pos, ← half, toNat_shiftLeft_msb word, whole,
        ← Nat.mul_assoc, Nat.add_comm (_ * _ * _), Nat.add_mul_div_right _ _ (Nat.two_pow_pos _),
        Nat.add_comm]

/-- Setting the lowest bit of a shifted word adds it. -/
theorem shifted_or_one (word : BitVec w)
    : (word <<< 1 ||| 1 : BitVec w) = (word <<< 1 : BitVec w) + 1 := by
  symm
  refine BitVec.add_eq_or_of_and_eq_zero _ _ ?_
  ext index bound
  cases index with
  | zero => simp
  | succ index => simp

/-- The word with one more bit. -/
theorem shifted_bit (word : BitVec w) (bit : Bool)
    : (if bit then word <<< 1 ||| 1 else word <<< 1)
      = BitVec.ofNat w (2 * word.toNat + bit.toNat) := by
  have shifted : word <<< 1 = BitVec.ofNat w (2 * word.toNat) := by
    refine BitVec.eq_of_toNat_eq ?_
    rw [BitVec.toNat_shiftLeft, BitVec.toNat_ofNat, Nat.shiftLeft_eq, Nat.pow_one, Nat.mul_comm]
  cases bit with
  | false => exact shifted
  | true =>
      rw [if_pos rfl, shifted_or_one, shifted]
      exact (BitVec.ofNat_add (2 * word.toNat) 1).symm

/-- A receiver appends the bits to its word, as far as that has room. -/
theorem shiftIn_eq (word : BitVec w) (bits : List Bool)
    : shiftIn word bits = BitVec.ofNat w (word.toNat * 2 ^ bits.length + binary bits) := by
  induction bits generalizing word with
  | nil => simp [shiftIn, binary]
  | cons bit rest ih =>
      have own : shiftIn word (bit :: rest)
          = shiftIn (if bit then word <<< 1 ||| 1 else word <<< 1) rest := rfl
      rw [own, shifted_bit, ih]
      refine BitVec.eq_of_toNat_eq ?_
      rw [BitVec.toNat_ofNat, BitVec.toNat_ofNat, BitVec.toNat_ofNat, Nat.add_mod, Nat.mod_mul_mod,
        ← Nat.add_mod, binary_cons, List.length_cons]
      ring_nf

/-- A word that is sent whole is received. -/
theorem shiftIn_topBits (word : BitVec w) : shiftIn 0#w (topBits word w) = word := by
  rw [shiftIn_eq, binary_topBits word (Nat.le_refl w), Nat.sub_self, Nat.pow_zero, Nat.div_one]
  simp

/-- What a sender aligns to the top of its word is received below that. -/
theorem shiftIn_aligned (word : BitVec w) {count : Nat} (within : count ≤ w)
    : shiftIn 0#w (topBits (word <<< (w - count)) count)
      = BitVec.ofNat w (word.toNat % 2 ^ count) := by
  have whole : 2 ^ w = 2 ^ (w - count) * 2 ^ count := by
    rw [← Nat.pow_add, Nat.sub_add_cancel within]
  rw [shiftIn_eq, binary_topBits _ within, BitVec.toNat_shiftLeft, Nat.shiftLeft_eq, whole,
    Nat.mul_comm word.toNat, Nat.mul_mod_mul_left, Nat.mul_div_cancel_left _ (Nat.two_pow_pos _)]
  simp

end Cooboc.Foundations
