import Mathlib.Analysis.SpecialFunctions.Trigonometric.Inverse
import Mathlib.Analysis.SpecialFunctions.Trigonometric.Bounds
import Mathlib.Tactic.LinearCombination

/-! A pair of real numbers as a radius and an angle, the angle measured from the second
axis: how the inverse functions recover the angle on each half of the plane, and what a turn
by a further angle does to the pair.
-/

namespace Cooboc.Foundations

/-- The pair (`right`, `top`) lies at `radius` in the direction `angle`. -/
structure PolarPair (radius angle right top : ℝ) : Prop where
  right_eq : radius * Real.sin angle = right
  top_eq : radius * Real.cos angle = top

namespace PolarPair

section Recovery

variable {radius right top : ℝ} (positive : 0 < radius)
  (squares : radius ^ 2 = right ^ 2 + top ^ 2)

include positive squares

/-- A leg divided by the radius lies between -1 and 1. -/
theorem leg_ratio_bounds : -1 ≤ right / radius ∧ right / radius ≤ 1 := by
  have leg : |right| ≤ radius :=
    abs_le_of_sq_le_sq (by nlinarith [sq_nonneg top]) positive.le
  have bounds := abs_le.mp leg
  constructor
  · rw [le_div_iff₀ positive]
    linarith
  · rw [div_le_one positive]
    exact bounds.2

/-- The other leg is the radius times the root of what the first ratio leaves of one. -/
theorem radius_mul_sqrt : radius * √(1 - (right / radius) ^ 2) = |top| := by
  have rest : 1 - (right / radius) ^ 2 = (top / radius) ^ 2 := by
    field_simp
    linarith
  rw [rest, Real.sqrt_sq_eq_abs, abs_div, abs_of_pos positive]
  field_simp

/-- On the upper half the angle is the arcsine of the first leg. -/
theorem of_arcsin (upper : 0 ≤ top)
    : PolarPair radius (Real.arcsin (right / radius)) right top := by
  have bounds := leg_ratio_bounds positive squares
  constructor
  · rw [Real.sin_arcsin bounds.1 bounds.2]
    field_simp
  · rw [Real.cos_arcsin, radius_mul_sqrt positive squares, abs_of_nonneg upper]

/-- On the lower half it is reflected at the first axis. -/
theorem of_pi_sub_arcsin (lower : top ≤ 0)
    : PolarPair radius (Real.pi - Real.arcsin (right / radius)) right top := by
  have bounds := leg_ratio_bounds positive squares
  constructor
  · rw [Real.sin_pi_sub, Real.sin_arcsin bounds.1 bounds.2]
    field_simp
  · rw [Real.cos_pi_sub, Real.cos_arcsin, mul_neg, radius_mul_sqrt positive squares,
      abs_of_nonpos lower, neg_neg]

/-- On the right half the angle is the arccosine of the second leg. -/
theorem of_arccos (rightward : 0 ≤ right)
    : PolarPair radius (Real.arccos (top / radius)) right top := by
  have swapped : radius ^ 2 = top ^ 2 + right ^ 2 := by
    rw [squares, add_comm]
  have bounds := leg_ratio_bounds positive swapped
  constructor
  · rw [Real.sin_arccos, radius_mul_sqrt positive swapped, abs_of_nonneg rightward]
  · rw [Real.cos_arccos bounds.1 bounds.2]
    field_simp

/-- On the left half it is reflected at the second axis. -/
theorem of_two_pi_sub_arccos (leftward : right ≤ 0)
    : PolarPair radius (2 * Real.pi - Real.arccos (top / radius)) right top := by
  have mirrored : PolarPair radius (Real.arccos (top / radius)) (-right) top :=
    of_arccos positive (by rw [squares, neg_sq]) (by linarith)
  constructor
  · rw [Real.sin_two_pi_sub, mul_neg, mirrored.right_eq, neg_neg]
  · rw [Real.cos_two_pi_sub, mirrored.top_eq]

/-- On either half it is an angle of less than a whole turn. Witness: on the left half the
arccosine is not zero.
-/
theorem of_side
    : let angle := if right < 0 then 2 * Real.pi - Real.arccos (top / radius)
        else Real.arccos (top / radius)
      PolarPair radius angle right top ∧ 0 ≤ angle ∧ angle < 2 * Real.pi := by
  have turn := Real.pi_pos
  have lower := Real.arccos_nonneg (top / radius)
  have upper := Real.arccos_le_pi (top / radius)
  intro angle
  by_cases left : right < 0
  · have below : top / radius < 1 := by
      rw [div_lt_one positive]
      nlinarith
    have apart := Real.arccos_pos.mpr below
    have reflected : angle = 2 * Real.pi - Real.arccos (top / radius) := if_pos left
    rw [reflected]
    exact ⟨of_two_pi_sub_arccos positive squares left.le, by linarith, by linarith⟩
  · have own : angle = Real.arccos (top / radius) := if_neg left
    rw [own]
    exact ⟨of_arccos positive squares (not_lt.mp left), lower, by linarith⟩

end Recovery

variable {radius angle right top : ℝ}

theorem add_two_pi (polar : PolarPair radius angle right top)
    : PolarPair radius (angle + 2 * Real.pi) right top :=
  ⟨by rw [Real.sin_add_two_pi, polar.right_eq], by rw [Real.cos_add_two_pi, polar.top_eq]⟩

/-- A turn carries the pair along as the addition formulas say. -/
theorem turned (polar : PolarPair radius angle right top) (turn : ℝ)
    : PolarPair radius (angle + turn)
        (right * Real.cos turn + top * Real.sin turn)
        (top * Real.cos turn - right * Real.sin turn) := by
  constructor
  · rw [Real.sin_add, ← polar.right_eq, ← polar.top_eq]
    ring
  · rw [Real.cos_add, ← polar.right_eq, ← polar.top_eq]
    ring

end PolarPair

/-- A pair turned by an angle. -/
noncomputable def turnedPair (pair : ℝ × ℝ) (turn : ℝ) : ℝ × ℝ :=
  (pair.1 * Real.cos turn + pair.2 * Real.sin turn,
    pair.2 * Real.cos turn - pair.1 * Real.sin turn)

theorem turnedPair_zero (pair : ℝ × ℝ) : turnedPair pair 0 = pair := by
  simp [turnedPair]

theorem turnedPair_add (pair : ℝ × ℝ) (first second : ℝ)
    : turnedPair (turnedPair pair first) second = turnedPair pair (first + second) := by
  simp only [turnedPair, Real.cos_add, Real.sin_add, Prod.mk.injEq]
  constructor <;> ring

theorem turnedPair_square (pair : ℝ × ℝ) (turn : ℝ)
    : (turnedPair pair turn).1 ^ 2 + (turnedPair pair turn).2 ^ 2
      = pair.1 ^ 2 + pair.2 ^ 2 := by
  unfold turnedPair
  linear_combination (pair.1 ^ 2 + pair.2 ^ 2) * Real.sin_sq_add_cos_sq turn

/-- What a turn adds to a pair lowers its square by at most the square of the angle's half
share. Witness: the parts along the other axis cancel, and the cosine is at least one less
half the square.
-/
theorem turn_inner_lower (right top : ℝ) {turn rate : ℝ} (bounded : |turn| ≤ rate)
    : -(rate ^ 2 / 2) * (right ^ 2 + top ^ 2)
      ≤ right * (right * Real.cos turn + top * Real.sin turn - right)
        + top * (top * Real.cos turn - right * Real.sin turn - top) := by
  have squares : turn ^ 2 ≤ rate ^ 2 := sq_le_sq.mpr (bounded.trans (le_abs_self rate))
  have cosine : -(rate ^ 2 / 2) ≤ Real.cos turn - 1 := by
    linarith [Real.one_sub_sq_div_two_le_cos (x := turn)]
  calc -(rate ^ 2 / 2) * (right ^ 2 + top ^ 2)
      ≤ (Real.cos turn - 1) * (right ^ 2 + top ^ 2) :=
        mul_le_mul_of_nonneg_right cosine (by positivity)
    _ = right * (right * Real.cos turn + top * Real.sin turn - right)
        + top * (top * Real.cos turn - right * Real.sin turn - top) := by
      ring

/-- The part of a pair in any direction is no longer than the pair. -/
theorem direction_part_abs_le (right top angle : ℝ)
    : |right * Real.sin angle + top * Real.cos angle| ≤ √(right ^ 2 + top ^ 2) := by
  apply Real.abs_le_sqrt
  have across := sq_nonneg (right * Real.cos angle - top * Real.sin angle)
  have whole
      : (right * Real.sin angle + top * Real.cos angle) ^ 2
          + (right * Real.cos angle - top * Real.sin angle) ^ 2
        = right ^ 2 + top ^ 2 := by
    linear_combination (right ^ 2 + top ^ 2) * Real.sin_sq_add_cos_sq angle
  linarith

-----------------------------------------------------------------------------------------
-- An angle from the size of its sine
-----------------------------------------------------------------------------------------

/-- An angle of a given size, reflected where the cosine is negative. -/
noncomputable def reflectedAngle (cosine size : ℝ) : ℝ :=
  if cosine < 0 then Real.pi - size else size

/-- A reflected angle, negated where the sine is negative. -/
noncomputable def signedAngle (sine cosine size : ℝ) : ℝ :=
  if sine < 0 then -reflectedAngle cosine size else reflectedAngle cosine size

theorem mul_neg_iff_of_pos {factor : ℝ} (positive : 0 < factor) (x : ℝ)
    : factor * x < 0 ↔ x < 0 :=
  ⟨fun negative => neg_of_mul_neg_right negative positive.le,
    fun negative => mul_neg_of_pos_of_neg positive negative⟩

/-- Only the signs of the sine and of the cosine matter. -/
theorem signedAngle_mul {factor : ℝ} (positive : 0 < factor) (sine cosine size : ℝ)
    : signedAngle (factor * sine) (factor * cosine) size = signedAngle sine cosine size := by
  simp only [signedAngle, reflectedAngle, mul_neg_iff_of_pos positive]

/-- The sine of the angle is that of its size, negated where the sine is negative. -/
theorem sin_signedAngle (sine cosine size : ℝ)
    : Real.sin (signedAngle sine cosine size)
      = if sine < 0 then -Real.sin size else Real.sin size := by
  have reflected : Real.sin (reflectedAngle cosine size) = Real.sin size := by
    unfold reflectedAngle
    split_ifs
    · exact Real.sin_pi_sub size
    · rfl
  rw [← reflected, signedAngle]
  split_ifs
  · exact Real.sin_neg _
  · rfl

/-- Between 0 and a half turn, the arcsine of the sine recovers the angle. -/
theorem reflectedAngle_arcsin {angle : ℝ} (nonneg : 0 ≤ angle) (atMost : angle ≤ Real.pi)
    : reflectedAngle (Real.cos angle) (Real.arcsin (Real.sin angle)) = angle := by
  have positive := Real.pi_pos
  unfold reflectedAngle
  rcases le_or_gt angle (Real.pi / 2) with acute | obtuse
  · have cosine : 0 ≤ Real.cos angle :=
      Real.cos_nonneg_of_neg_pi_div_two_le_of_le (by linarith) acute
    rw [if_neg (not_lt.mpr cosine), Real.arcsin_sin (by linarith) acute]
  · have cosine : Real.cos angle < 0 :=
      Real.cos_neg_of_pi_div_two_lt_of_lt obtuse (by linarith)
    rw [if_pos cosine, ← Real.sin_pi_sub, Real.arcsin_sin (by linarith) (by linarith),
      sub_sub_cancel]

/-- Over a whole turn, the size of the sine and the two signs recover the angle. Witness: a
negative angle is the opposite of one between 0 and a half turn.
-/
theorem signedAngle_arcsin {angle : ℝ} (lower : -Real.pi < angle) (upper : angle ≤ Real.pi)
    : signedAngle (Real.sin angle) (Real.cos angle) (Real.arcsin |Real.sin angle|) = angle := by
  unfold signedAngle
  rcases lt_or_ge angle 0 with negative | nonneg
  · have sine : Real.sin angle < 0 := Real.sin_neg_of_neg_of_neg_pi_lt negative lower
    have opposite : reflectedAngle (Real.cos (-angle)) (Real.arcsin (Real.sin (-angle))) = -angle :=
      reflectedAngle_arcsin (neg_nonneg.mpr negative.le) (by linarith)
    rw [Real.cos_neg, Real.sin_neg] at opposite
    rw [if_pos sine, abs_of_neg sine, opposite, neg_neg]
  · have sine : 0 ≤ Real.sin angle := Real.sin_nonneg_of_nonneg_of_le_pi nonneg upper
    rw [if_neg (not_lt.mpr sine), abs_of_nonneg sine, reflectedAngle_arcsin nonneg upper]

end Cooboc.Foundations
