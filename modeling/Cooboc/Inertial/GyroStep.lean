import Cooboc.Foundations.PlaneTurn
import Cooboc.Inertial.Imu
import Mathlib.Tactic.Linarith
import Mathlib.Tactic.NormNum.OfScientific
import Mathlib.Analysis.Real.Pi.Bounds

/-! One gyro step over the real numbers. The angle of an axis is recovered by four formulas
that agree, so the axis effect is a turn of its pair; the three effects, added up, take
away only a small share of the estimate they start from.
-/

namespace Cooboc.Inertial

open Cooboc.Foundations Cooboc.FlightControl

/-- The reading of doubles as real numbers: the library's functions are exact where they are
defined, and the constant `PI` is the circle's up to the rounding of a double.
-/
structure ReadsExactly [TrigMath ℝ] : Prop where
  cos_eq : ∀ x : ℝ, DoubleMath.cos x = Real.cos x
  sin_eq : ∀ x : ℝ, DoubleMath.sin x = Real.sin x
  sqrt_eq : ∀ x : ℝ, 0 ≤ x → TrigMath.sqrt x = √x
  asin_eq : ∀ x : ℝ, -1 ≤ x → x ≤ 1 → TrigMath.asin x = Real.arcsin x
  acos_eq : ∀ x : ℝ, -1 ≤ x → x ≤ 1 → TrigMath.acos x = Real.arccos x
  pi_near : |(DoubleMath.PI : ℝ) - Real.pi| ≤ 1e-15

/-- The exact functions with the constant as it is written in `utils/util.h`. -/
@[reducible] noncomputable def exactMath : TrigMath ℝ where
  cos := Real.cos
  sin := Real.sin
  PI := 3.14159265358979323846264332795
  toInt x := if 0 ≤ x then ⌊x⌋ else ⌈x⌉
  sqrt := Real.sqrt
  asin := Real.arcsin
  acos := Real.arccos

theorem exactMath_readsExactly : @ReadsExactly exactMath :=
  @ReadsExactly.mk exactMath (fun _ => rfl) (fun _ => rfl) (fun _ _ => rfl)
    (fun _ _ _ => rfl) (fun _ _ _ => rfl) (by
      have lower := Real.pi_gt_d20
      have upper := Real.pi_lt_d20
      rw [abs_le]
      change -1e-15 ≤ 3.14159265358979323846264332795 - Real.pi
        ∧ 3.14159265358979323846264332795 - Real.pi ≤ 1e-15
      norm_num at lower upper ⊢
      constructor <;> linarith)

/-- The exact functions with the circle's constant. -/
@[reducible] noncomputable def circleMath : TrigMath ℝ := { exactMath with PI := Real.pi }

theorem circleMath_readsExactly : @ReadsExactly circleMath :=
  @ReadsExactly.mk circleMath (fun _ => rfl) (fun _ => rfl) (fun _ _ => rfl)
    (fun _ _ _ => rfl) (fun _ _ _ => rfl) (by
      change |Real.pi - Real.pi| ≤ 1e-15
      rw [sub_self, abs_zero]
      norm_num)

theorem epsilon_pos : (0 : ℝ) < epsilon := by
  unfold epsilon
  norm_num

variable [TrigMath ℝ]

/-- What the constant `PI` misses of the circle's. -/
noncomputable def piError : ℝ := |(DoubleMath.PI : ℝ) - Real.pi|

/-- An angle off by at most the error of `PI` is off by at most three of it after a turn by
twice the constant.
-/
theorem add_two_pi_near {computed angle : ℝ} (near : |computed - angle| ≤ piError)
    : |computed + ((2 : Int) : ℝ) * DoubleMath.PI - (angle + 2 * Real.pi)|
      ≤ 3 * piError := by
  have split : computed + ((2 : Int) : ℝ) * DoubleMath.PI - (angle + 2 * Real.pi)
      = (computed - angle) + 2 * (DoubleMath.PI - Real.pi) := by
    push_cast
    ring
  have doubled : |2 * ((DoubleMath.PI : ℝ) - Real.pi)| = 2 * piError := by
    rw [abs_mul, abs_two, piError]
  calc |computed + ((2 : Int) : ℝ) * DoubleMath.PI - (angle + 2 * Real.pi)|
      ≤ |computed - angle| + |2 * ((DoubleMath.PI : ℝ) - Real.pi)| := by
        rw [split]
        exact abs_add_le _ _
    _ ≤ 3 * piError := by
        rw [doubled]
        linarith

/-- The wrap of a negative angle keeps it near an angle of the pair. -/
theorem wrap_near {radius computed angle right top : ℝ}
    (polar : PolarPair radius angle right top) (near : |computed - angle| ≤ piError)
    : ∃ wrapped, PolarPair radius wrapped right top
      ∧ |(if computed < 0 then computed + ((2 : Int) : ℝ) * DoubleMath.PI else computed)
            - wrapped|
          ≤ 3 * piError := by
  split_ifs
  · exact ⟨_, polar.add_two_pi, add_two_pi_near near⟩
  · have error : 0 ≤ piError := abs_nonneg _
    exact ⟨_, polar, near.trans (by linarith)⟩

/-- Whichever formula the code takes, it computes an angle of the pair up to thrice the error
of `PI`. Witness: the branches are the halves of the plane on which each formula holds.
-/
theorem axisAngle_near (exact : ReadsExactly) {radius right top : ℝ} (positive : 0 < radius)
    (squares : radius ^ 2 = right ^ 2 + top ^ 2)
    : ∃ angle, PolarPair radius angle right top
      ∧ |axisAngle right top radius - angle| ≤ 3 * piError := by
  have error : 0 ≤ piError := abs_nonneg _
  have swapped : radius ^ 2 = top ^ 2 + right ^ 2 := by
    rw [squares, add_comm]
  have ratio := PolarPair.leg_ratio_bounds positive squares
  have otherRatio := PolarPair.leg_ratio_bounds positive swapped
  have same (angle : ℝ) : |angle - angle| ≤ piError := by
    simpa using error
  unfold axisAngle
  rw [exact.asin_eq _ ratio.1 ratio.2, exact.acos_eq _ otherRatio.1 otherRatio.2]
  by_cases nearer : fabs right < fabs top
  · rw [if_pos nearer]
    by_cases above : 0 < top
    · have polar := PolarPair.of_arcsin positive squares above.le
      rw [if_pos above]
      exact wrap_near polar (same _)
    · have polar := PolarPair.of_pi_sub_arcsin positive squares (not_lt.mp above)
      rw [if_neg above]
      refine wrap_near polar ?_
      rw [sub_sub_sub_cancel_right, piError]
  · rw [if_neg nearer]
    by_cases left : right < 0
    · have polar := PolarPair.of_two_pi_sub_arccos positive squares left.le
      have turned := add_two_pi_near (same (-Real.arccos (top / radius)))
      rw [neg_add_eq_sub, neg_add_eq_sub] at turned
      rw [if_pos left]
      exact ⟨_, polar, turned⟩
    · have polar := PolarPair.of_arccos positive squares (not_lt.mp left)
      rw [if_neg left]
      exact ⟨_, polar, (same _).trans (by linarith)⟩

/-- The computed radius, before it is kept away from zero, is the pair's. -/
theorem sqrt_squares (exact : ReadsExactly) (right top : ℝ)
    : TrigMath.sqrt (right * right + top * top) = √(right ^ 2 + top ^ 2) := by
  rw [exact.sqrt_eq _ (add_nonneg (mul_self_nonneg _) (mul_self_nonneg _)), sq, sq]

theorem axisRadius_eq (exact : ReadsExactly) {right top : ℝ}
    (large : epsilon ≤ √(right ^ 2 + top ^ 2))
    : axisRadius right top = √(right ^ 2 + top ^ 2) := by
  simp only [axisRadius, sqrt_squares exact, fabs_eq_abs, abs_of_nonneg (Real.sqrt_nonneg _),
    if_neg (not_lt.mpr large)]

theorem axisRadius_small (exact : ReadsExactly) {right top : ℝ}
    (small : √(right ^ 2 + top ^ 2) < epsilon)
    : axisRadius right top = epsilon := by
  simp only [axisRadius, sqrt_squares exact, fabs_eq_abs, abs_of_nonneg (Real.sqrt_nonneg _),
    if_pos small]

/-- Away from its axis the pair is turned, by the rate up to the error of the angle. Witness:
the code adds the rate to an angle near one of the pair.
-/
theorem gyroEffect_turns (exact : ReadsExactly) (front : ℝ) {right top : ℝ}
    (large : epsilon ≤ √(right ^ 2 + top ^ 2)) (rate : ℝ)
    : ∃ turn, |turn - rate| ≤ 3 * piError
      ∧ right + (calculateUniaxialGyroEffect front right top rate).1
        = right * Real.cos turn + top * Real.sin turn
      ∧ top + (calculateUniaxialGyroEffect front right top rate).2
        = top * Real.cos turn - right * Real.sin turn := by
  have radius := axisRadius_eq exact large
  have squares : axisRadius right top ^ 2 = right ^ 2 + top ^ 2 := by
    rw [radius, Real.sq_sqrt (by positivity)]
  have positive : 0 < axisRadius right top := by
    rw [radius]
    exact epsilon_pos.trans_le large
  obtain ⟨angle, polar, near⟩ := axisAngle_near exact positive squares
  generalize computed_eq : axisAngle right top (axisRadius right top) = computed at near
  have turned := polar.turned (computed - angle + rate)
  rw [← add_assoc, add_sub_cancel] at turned
  refine ⟨computed - angle + rate, ?_, ?_, ?_⟩
  · rwa [add_sub_cancel_right]
  · rw [← turned.right_eq]
    simp only [calculateUniaxialGyroEffect, exact.sin_eq, computed_eq]
    ring
  · rw [← turned.top_eq]
    simp only [calculateUniaxialGyroEffect, exact.cos_eq, computed_eq]
    ring

/-- What the effect of an axis takes from the square of its pair. Witness: away from the axis
the pair is turned; next to it the pair and its replacement are both tiny.
-/
theorem gyroEffect_inner_lower (exact : ReadsExactly) (front right top : ℝ) {rate share : ℝ}
    (bounded : |rate| + 3 * piError ≤ share)
    : -(share ^ 2 / 2) * (right ^ 2 + top ^ 2) - 2 * epsilon ^ 2
      ≤ right * (calculateUniaxialGyroEffect front right top rate).1
        + top * (calculateUniaxialGyroEffect front right top rate).2 := by
  have tiny := sq_nonneg (epsilon : ℝ)
  rcases le_or_gt epsilon √(right ^ 2 + top ^ 2) with large | small
  · obtain ⟨turn, near, first, second⟩ := gyroEffect_turns exact front large rate
    have turnBounded : |turn| ≤ share := by
      have split := abs_add_le (turn - rate) rate
      rw [sub_add_cancel] at split
      linarith
    have lower := turn_inner_lower right top turnBounded
    rw [← first, ← second, add_sub_cancel_left, add_sub_cancel_left] at lower
    linarith
  · have squares : right ^ 2 + top ^ 2 ≤ epsilon ^ 2 := Real.sqrt_le_iff.mp small.le |>.2
    have shrunk : 0 ≤ share ^ 2 / 2 * (right ^ 2 + top ^ 2) := by positivity
    simp only [calculateUniaxialGyroEffect, axisRadius_small exact small, exact.sin_eq,
      exact.cos_eq]
    generalize axisAngle right top epsilon + rate = angle
    have part := (abs_le.mp ((direction_part_abs_le right top angle).trans small.le)).1
    have scaled := mul_le_mul_of_nonneg_left part epsilon_pos.le
    linarith

/-- Of the square of a vector the three effects together leave all but the square of the
largest turn. Witness: each component belongs to two of the axes.
-/
theorem iterateGyro_inner_lower (exact : ReadsExactly) (est turn : Point3D ℝ) {share : ℝ}
    (boundedX : |turn.x| + 3 * piError ≤ share)
    (boundedY : |turn.y| + 3 * piError ≤ share)
    (boundedZ : |turn.z| + 3 * piError ≤ share)
    : (1 - share ^ 2) * est.dotProduct est - 6 * epsilon ^ 2
      ≤ est.dotProduct (iterateGyro est turn) := by
  have lowerX := gyroEffect_inner_lower exact est.x est.y est.z boundedX
  have lowerY := gyroEffect_inner_lower exact est.y est.z est.x boundedY
  have lowerZ := gyroEffect_inner_lower exact est.z est.x est.y boundedZ
  simp only [iterateGyro, Point3D.dotProduct]
  linarith

end Cooboc.Inertial
