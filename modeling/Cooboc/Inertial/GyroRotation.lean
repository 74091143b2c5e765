import Cooboc.Inertial.GyroStep

/-! The gyro step as a rotation. With the circle's constant the angle of an axis is exact in
every branch, so the effect of the axis turns its pair by the rate, and both fusion routines
turn their estimate by it.
-/

namespace Cooboc.Inertial

open Cooboc.Foundations Cooboc.FlightControl

/-- A turned pair is as far from the axis as before. -/
theorem turnedPair_large {pair : ℝ × ℝ} (large : epsilon ≤ √(pair.1 ^ 2 + pair.2 ^ 2))
    (rate : ℝ)
    : epsilon ≤ √((turnedPair pair rate).1 ^ 2 + (turnedPair pair rate).2 ^ 2) := by
  rwa [turnedPair_square]

variable [TrigMath ℝ]

/-- The pair of an axis behind the effect of its rate. -/
noncomputable def gyroStep (front : ℝ) (pair : ℝ × ℝ) (rate : ℝ) : ℝ × ℝ :=
  (pair.1 + (calculateUniaxialGyroEffect front pair.1 pair.2 rate).1,
    pair.2 + (calculateUniaxialGyroEffect front pair.1 pair.2 rate).2)

/-- The pair is turned by the rate. Witness: the computed angle misses one of the pair by no
more than three times what `PI` misses.
-/
theorem gyroStep_eq (exact : ReadsExactly) (circle : DoubleMath.PI = Real.pi) (front : ℝ)
    {pair : ℝ × ℝ} (large : epsilon ≤ √(pair.1 ^ 2 + pair.2 ^ 2)) (rate : ℝ)
    : gyroStep front pair rate = turnedPair pair rate := by
  obtain ⟨turn, near, right, top⟩ := gyroEffect_turns exact front large rate
  have exactly_rate : turn = rate := by
    rw [piError, circle, sub_self, abs_zero, mul_zero] at near
    exact sub_eq_zero.mp (abs_nonpos_iff.mp near)
  rw [exactly_rate] at right top
  exact Prod.ext right top

/-- One gyro step is an exact rotation: away from the axis it turns the pair by the rate, keeps
its square, and is undone by the step of the opposite rate. Witness: the branches agree on
the angle, and a turned pair is as far from the axis as before.
-/
theorem gyroStep_rotates (exact : ReadsExactly) (circle : DoubleMath.PI = Real.pi)
    (front : ℝ) {estY estZ : ℝ} (large : epsilon ≤ √(estY ^ 2 + estZ ^ 2)) (gyroRate : ℝ)
    : let diff := calculateUniaxialGyroEffect front estY estZ gyroRate
      (estY + diff.1 = estY * Real.cos gyroRate + estZ * Real.sin gyroRate
        ∧ estZ + diff.2 = estZ * Real.cos gyroRate - estY * Real.sin gyroRate)
      ∧ (estY + diff.1) ^ 2 + (estZ + diff.2) ^ 2 = estY ^ 2 + estZ ^ 2
      ∧ ∀ otherFront,
          let back :=
            calculateUniaxialGyroEffect otherFront (estY + diff.1) (estZ + diff.2) (-gyroRate)
          estY + diff.1 + back.1 = estY ∧ estZ + diff.2 + back.2 = estZ := by
  intro diff
  have turned : gyroStep front (estY, estZ) gyroRate = turnedPair (estY, estZ) gyroRate :=
    gyroStep_eq exact circle front large gyroRate
  have square := turnedPair_square (estY, estZ) gyroRate
  rw [← turned] at square
  refine ⟨⟨congrArg Prod.fst turned, congrArg Prod.snd turned⟩, square, ?_⟩
  intro otherFront back
  have undone
      : gyroStep otherFront (gyroStep front (estY, estZ) gyroRate) (-gyroRate)
        = (estY, estZ) := by
    rw [turned, gyroStep_eq exact circle otherFront (turnedPair_large large gyroRate),
      turnedPair_add, add_neg_cancel, turnedPair_zero]
  exact ⟨congrArg Prod.fst undone, congrArg Prod.snd undone⟩

omit [TrigMath ℝ] in
/-- A quarter turn of the pair that points down: its angle is recovered from `PI`. -/
theorem gyroStep_rotates_quarter
    : letI := circleMath
      (-1 : ℝ) + (calculateUniaxialGyroEffect 0 0 (-1) (Real.pi / 2)).2
        = -1 * Real.cos (Real.pi / 2) - 0 * Real.sin (Real.pi / 2) := by
  let _ := circleMath
  have large : (epsilon : ℝ) ≤ √(0 ^ 2 + (-1) ^ 2) := by
    norm_num [epsilon]
  exact (gyroStep_rotates circleMath_readsExactly rfl 0 large (Real.pi / 2)).1.2

-----------------------------------------------------------------------------------------
-- All axes
-----------------------------------------------------------------------------------------

theorem gyroEffect_still (exact : ReadsExactly) (circle : DoubleMath.PI = Real.pi) (front : ℝ)
    {right top : ℝ} (large : epsilon ≤ √(right ^ 2 + top ^ 2))
    : calculateUniaxialGyroEffect front right top 0 = (0, 0) := by
  have still : gyroStep front (right, top) 0 = turnedPair (right, top) 0 :=
    gyroStep_eq exact circle front large 0
  rw [turnedPair_zero] at still
  exact Prod.ext (add_eq_left.mp (congrArg Prod.fst still))
    (add_eq_left.mp (congrArg Prod.snd still))

/-- The axes of a point, moved on by one. -/
def Point3D.cycle (point : Point3D ℝ) : Point3D ℝ := ⟨point.y, point.z, point.x⟩

/-- The three axes have the same part in an iteration. Witness: each component is the sum of
its two effects.
-/
theorem iterateGyro_cycle (est turn : Point3D ℝ)
    : iterateGyro est.cycle turn.cycle = (iterateGyro est turn).cycle := by
  simp only [iterateGyro, Point3D.cycle, Point3D.mk.injEq]
  exact ⟨congrArg _ (add_right_comm _ _ _), congrArg _ (add_right_comm _ _ _), trivial⟩

/-- Away from all axes, an estimate whose unit turns about its first axis only is turned about
it by the rate. Witness: the other axes have no effect.
-/
theorem iterateGyro_turned (exact : ReadsExactly) (circle : DoubleMath.PI = Real.pi)
    {est : Point3D ℝ} (largeX : epsilon ≤ √(est.y ^ 2 + est.z ^ 2))
    (largeY : epsilon ≤ √(est.z ^ 2 + est.x ^ 2))
    (largeZ : epsilon ≤ √(est.x ^ 2 + est.y ^ 2)) (rate : ℝ)
    : iterateGyro est ⟨rate, 0, 0⟩
      = ⟨est.x, (turnedPair (est.y, est.z) rate).1, (turnedPair (est.y, est.z) rate).2⟩ := by
  have turned : gyroStep est.x (est.y, est.z) rate = turnedPair (est.y, est.z) rate :=
    gyroStep_eq exact circle est.x largeX rate
  simp only [iterateGyro, gyroEffect_still exact circle est.y largeY,
    gyroEffect_still exact circle est.z largeZ, add_zero, zero_add, ← turned, gyroStep]

end Cooboc.Inertial
