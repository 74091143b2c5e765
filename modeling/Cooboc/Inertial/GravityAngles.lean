import Cooboc.Inertial.FusedGravity
import Cooboc.Inertial.GyroRotation

/-! Reading an attitude back from the gravity vector. The projections give the inclinations
of two axes: the nose's is the pitch, but the wing's is the bank angle only in level flight
or with level wings.
-/

namespace Cooboc.Inertial

open Cooboc.Foundations Cooboc.FlightControl

/-- Gravity of the given length, as it is seen at a pitch and a bank angle. -/
noncomputable def gravityAt (scale pitch bank : ℝ) : Point3D ℝ where
  x := scale * -Real.sin pitch
  y := scale * (Real.cos pitch * Real.sin bank)
  z := scale * (Real.cos pitch * Real.cos bank)

/-- The axis `unitX`. -/
def unitX : Point3D ℝ := ⟨((1 : Int) : ℝ), ((0 : Int) : ℝ), ((0 : Int) : ℝ)⟩

/-- The axis `unitY`. -/
def unitY : Point3D ℝ := ⟨((0 : Int) : ℝ), ((1 : Int) : ℝ), ((0 : Int) : ℝ)⟩

/-- The share of an axis along a vector: the cosine of their angle. -/
noncomputable def axisShare (unit point : Point3D ℝ) : ℝ :=
  unit.dotProduct point / √(point.dotProduct point)

theorem gravityAt_square (scale pitch bank : ℝ)
    : (gravityAt scale pitch bank).dotProduct (gravityAt scale pitch bank) = scale ^ 2 := by
  have pitchSquares := Real.sin_sq_add_cos_sq pitch
  have bankSquares := Real.sin_sq_add_cos_sq bank
  simp only [Point3D.dotProduct, gravityAt]
  linear_combination
    scale ^ 2 * pitchSquares + scale ^ 2 * Real.cos pitch ^ 2 * bankSquares

theorem gravityAt_square_pos {scale : ℝ} (positive : 0 < scale) (pitch bank : ℝ)
    : 0 < (gravityAt scale pitch bank).dotProduct (gravityAt scale pitch bank) := by
  rw [gravityAt_square]
  positivity

theorem unitX_length : unitX.dotProduct unitX = 1 := by
  norm_num [Point3D.dotProduct, unitX]

theorem unitY_length : unitY.dotProduct unitY = 1 := by
  norm_num [Point3D.dotProduct, unitY]

theorem axisShare_unitX {scale : ℝ} (positive : 0 < scale) (pitch bank : ℝ)
    : axisShare unitX (gravityAt scale pitch bank) = -Real.sin pitch := by
  rw [axisShare, gravityAt_square, Real.sqrt_sq positive.le]
  simp only [Point3D.dotProduct, unitX, gravityAt]
  push_cast
  field_simp
  ring

theorem axisShare_unitY {scale : ℝ} (positive : 0 < scale) (pitch bank : ℝ)
    : axisShare unitY (gravityAt scale pitch bank) = Real.cos pitch * Real.sin bank := by
  rw [axisShare, gravityAt_square, Real.sqrt_sq positive.le]
  simp only [Point3D.dotProduct, unitY, gravityAt]
  push_cast
  field_simp
  ring

/-- The projection of a unit axis keeps what its share leaves: this much along the axis, and
this much in square. Witness: a projection has no part along the vector.
-/
theorem projectOnPlane_dotProduct {unit point : Point3D ℝ} (length : unit.dotProduct unit = 1)
    (positive : 0 < point.dotProduct point)
    : unit.dotProduct (unit.projectOnPlane point) = 1 - axisShare unit point ^ 2
      ∧ (unit.projectOnPlane point).dotProduct (unit.projectOnPlane point)
        = 1 - axisShare unit point ^ 2 := by
  have square : axisShare unit point ^ 2
      = unit.dotProduct point ^ 2 * (point.dotProduct point)⁻¹ := by
    rw [axisShare, div_pow, Real.sq_sqrt positive.le, div_eq_mul_inv]
  have inverse : point.dotProduct point * (point.dotProduct point)⁻¹ = 1 :=
    mul_inv_cancel₀ positive.ne'
  rw [square, ← length]
  simp only [Point3D.dotProduct, Point3D.projectOnPlane, div_eq_mul_inv] at inverse ⊢
  generalize (point.x * point.x + point.y * point.y + point.z * point.z)⁻¹ = reciprocal
    at inverse ⊢
  constructor
  · ring
  · linear_combination
      (unit.x * point.x + unit.y * point.y + unit.z * point.z) ^ 2 * reciprocal * inverse

theorem axisShare_sq_le {unit point : Point3D ℝ} (length : unit.dotProduct unit = 1)
    (positive : 0 < point.dotProduct point)
    : axisShare unit point ^ 2 ≤ 1 := by
  have projected := (projectOnPlane_dotProduct length positive).2
  have nonneg
      : 0 ≤ (unit.projectOnPlane point).dotProduct (unit.projectOnPlane point) :=
    add_nonneg (add_nonneg (mul_self_nonneg _) (mul_self_nonneg _)) (mul_self_nonneg _)
  linarith

section

variable [TrigMath ℝ]

/-- The quotients that an angle is computed from have divisors other than zero. -/
structure AngleDefined (unit point : Point3D ℝ) : Prop where
  projection : point.dotProduct point ≠ 0
  cosine : unit.absolute * (unit.projectOnPlane point).absolute ≠ 0

/-- The product of the two lengths is the root of what the share leaves. -/
theorem absolute_mul_absolute (exact : ReadsExactly) {unit point : Point3D ℝ}
    (length : unit.dotProduct unit = 1) (positive : 0 < point.dotProduct point)
    : unit.absolute * (unit.projectOnPlane point).absolute
      = √(1 - axisShare unit point ^ 2) := by
  rw [Point3D.absolute_eq exact, Point3D.absolute_eq exact, length,
    (projectOnPlane_dotProduct length positive).2, Real.sqrt_one, one_mul]

/-- The angle is defined exactly if the axis does not point along the vector. -/
theorem angleDefined_iff (exact : ReadsExactly) {unit point : Point3D ℝ}
    (length : unit.dotProduct unit = 1) (positive : 0 < point.dotProduct point)
    : AngleDefined unit point ↔ axisShare unit point ^ 2 ≠ 1 := by
  have atMost := axisShare_sq_le length positive
  have product := absolute_mul_absolute exact length positive
  constructor
  · intro defined whole
    apply defined.cosine
    rw [product, whole, sub_self, Real.sqrt_zero]
  · intro part
    refine ⟨positive.ne', ?_⟩
    have rest : 0 < 1 - axisShare unit point ^ 2 := by
      have less := lt_of_le_of_ne atMost part
      linarith
    rw [product]
    exact (Real.sqrt_pos.mpr rest).ne'

/-- The angle between a unit axis and its projection is the arcsine of its share. -/
theorem projectionAngle_eq (exact : ReadsExactly) {unit point : Point3D ℝ}
    (length : unit.dotProduct unit = 1) (positive : 0 < point.dotProduct point)
    : projectionAngle unit point = Real.arcsin |axisShare unit point| := by
  have atMost := axisShare_sq_le length positive
  have cosine
      : unit.dotProduct (unit.projectOnPlane point)
          / (unit.absolute * (unit.projectOnPlane point).absolute)
        = √(1 - |axisShare unit point| ^ 2) := by
    rw [absolute_mul_absolute exact length positive,
      (projectOnPlane_dotProduct length positive).1, Real.div_sqrt, sq_abs]
  have root : √(1 - |axisShare unit point| ^ 2) ≤ 1 := by
    rw [Real.sqrt_le_one, sub_le_self_iff]
    exact sq_nonneg _
  have above : -1 ≤ √(1 - |axisShare unit point| ^ 2) := by
    have nonneg := Real.sqrt_nonneg (1 - |axisShare unit point| ^ 2)
    linarith
  have computed
      : projectionAngle unit point = Real.arccos √(1 - |axisShare unit point| ^ 2) := by
    rw [projectionAngle, cosine, exact.acos_eq _ above root]
  rw [computed, Real.arcsin_eq_arccos (abs_nonneg _)]

/-- The pitch is read back. Witness: the inclination of the first axis has the size of the
pitch, and the sign is put right.
-/
theorem fusionAttitude_pitch (exact : ReadsExactly) {imu : Imu ℝ} {scale pitch bank : ℝ}
    (positive : 0 < scale) (lower : -(Real.pi / 2) < pitch) (upper : pitch < Real.pi / 2)
    (fused : imu.fusionAttitude.m_est = gravityAt scale pitch bank)
    : imu.fusionAttitude.m_pitch = pitch := by
  have computed : imu.fusionAttitude.m_pitch
      = (if 0 < imu.fusionAttitude.m_est.x then
          -projectionAngle unitX imu.fusionAttitude.m_est
        else
          projectionAngle unitX imu.fusionAttitude.m_est) :=
    rfl
  have nose : 0 < (gravityAt scale pitch bank).x ↔ Real.sin pitch < 0 := by
    rw [← neg_pos]
    exact mul_pos_iff_of_pos_left positive
  have square := gravityAt_square_pos positive pitch bank
  rw [computed, fused, projectionAngle_eq exact unitX_length square,
    axisShare_unitX positive, abs_neg, if_congr nose rfl rfl]
  rcases lt_or_ge pitch 0 with negative | nonneg
  · have sine : Real.sin pitch < 0 := Real.sin_neg_of_neg_of_neg_pi_lt negative (by linarith)
    rw [if_pos sine, abs_of_neg sine, Real.arcsin_neg, neg_neg,
      Real.arcsin_sin lower.le upper.le]
  · have sine : 0 ≤ Real.sin pitch := Real.sin_nonneg_of_nonneg_of_le_pi nonneg (by linarith)
    rw [if_neg (not_lt.mpr sine), abs_of_nonneg sine, Real.arcsin_sin lower.le upper.le]

/-- The roll has the size of the second axis' inclination, with the quadrant put right. -/
theorem fusionAttitude_roll (exact : ReadsExactly) (circle : DoubleMath.PI = Real.pi)
    {imu : Imu ℝ} {scale pitch bank : ℝ} (positive : 0 < scale)
    (lower : -(Real.pi / 2) < pitch) (upper : pitch < Real.pi / 2)
    (fused : imu.fusionAttitude.m_est = gravityAt scale pitch bank)
    : imu.fusionAttitude.m_roll
      = signedAngle (Real.sin bank) (Real.cos bank)
          (Real.arcsin |Real.cos pitch * Real.sin bank|) := by
  have cosine : 0 < scale * Real.cos pitch :=
    mul_pos positive (Real.cos_pos_of_mem_Ioo ⟨lower, upper⟩)
  have square := gravityAt_square_pos positive pitch bank
  have computed : imu.fusionAttitude.m_roll
      = (let est := imu.fusionAttitude.m_est
        let roll := projectionAngle unitY est
        let roll := if est.z < 0 then DoubleMath.PI - roll else roll
        if est.y < 0 then -roll else roll) :=
    rfl
  have signed : imu.fusionAttitude.m_roll
      = signedAngle (gravityAt scale pitch bank).y (gravityAt scale pitch bank).z
          (projectionAngle unitY (gravityAt scale pitch bank)) := by
    rw [computed, fused, circle]
    rfl
  have scaled := signedAngle_mul cosine (Real.sin bank) (Real.cos bank)
    (Real.arcsin |Real.cos pitch * Real.sin bank|)
  rw [mul_assoc, mul_assoc] at scaled
  rw [signed, projectionAngle_eq exact unitY_length square, axisShare_unitY positive]
  exact scaled

/-- The sine of the roll is the part of gravity along the wing. -/
theorem sin_fusionAttitude_roll (exact : ReadsExactly) (circle : DoubleMath.PI = Real.pi)
    {imu : Imu ℝ} {scale pitch bank : ℝ} (positive : 0 < scale)
    (lower : -(Real.pi / 2) < pitch) (upper : pitch < Real.pi / 2)
    (fused : imu.fusionAttitude.m_est = gravityAt scale pitch bank)
    : Real.sin imu.fusionAttitude.m_roll = Real.cos pitch * Real.sin bank := by
  have cosine : 0 < Real.cos pitch := Real.cos_pos_of_mem_Ioo ⟨lower, upper⟩
  have bounds : |Real.cos pitch * Real.sin bank| ≤ 1 := by
    rw [abs_mul]
    exact mul_le_one₀ (Real.abs_cos_le_one pitch) (abs_nonneg _) (Real.abs_sin_le_one bank)
  have size : Real.sin (Real.arcsin |Real.cos pitch * Real.sin bank|)
      = |Real.cos pitch * Real.sin bank| :=
    Real.sin_arcsin (by linarith [abs_nonneg (Real.cos pitch * Real.sin bank)]) bounds
  rw [fusionAttitude_roll exact circle positive lower upper fused, sin_signedAngle, size,
    abs_mul, abs_of_pos cosine]
  split_ifs with negative
  · rw [abs_of_neg negative]
    ring
  · rw [abs_of_nonneg (not_lt.mp negative)]

/-- The angles that `fusionAttitude` computes are defined and are the given ones. -/
structure Imu.ReadsBack (imu : Imu ℝ) (pitch bank : ℝ) : Prop where
  pitchDefined : AngleDefined unitX imu.fusionAttitude.m_est
  rollDefined : AngleDefined unitY imu.fusionAttitude.m_est
  pitch : imu.fusionAttitude.m_pitch = pitch
  roll : imu.fusionAttitude.m_roll = bank

omit [TrigMath ℝ] in
/-- The sine is one in size exactly where there is no cosine. -/
theorem sin_sq_eq_one_iff (angle : ℝ) : Real.sin angle ^ 2 = 1 ↔ Real.cos angle = 0 := by
  rw [Real.sin_sq, sub_eq_self, sq_eq_zero_iff]

/-- Short of the vertical, the angle to the nose's axis is defined. -/
theorem angleDefined_pitch (exact : ReadsExactly) {imu : Imu ℝ} {scale pitch bank : ℝ}
    (positive : 0 < scale) (lower : -(Real.pi / 2) < pitch) (upper : pitch < Real.pi / 2)
    (fused : imu.fusionAttitude.m_est = gravityAt scale pitch bank)
    : AngleDefined unitX imu.fusionAttitude.m_est := by
  have cosine : 0 < Real.cos pitch := Real.cos_pos_of_mem_Ioo ⟨lower, upper⟩
  have square := gravityAt_square_pos positive pitch bank
  rw [fused, angleDefined_iff exact unitX_length square, axisShare_unitX positive, neg_sq]
  have squares := Real.sin_sq_add_cos_sq pitch
  have rest := pow_pos cosine 2
  linarith

/-- The angle to the wing's axis is defined unless gravity is along the wing. -/
theorem angleDefined_roll (exact : ReadsExactly) {imu : Imu ℝ} {scale pitch bank : ℝ}
    (positive : 0 < scale)
    (fused : imu.fusionAttitude.m_est = gravityAt scale pitch bank)
    : AngleDefined unitY imu.fusionAttitude.m_est
      ↔ (Real.cos pitch * Real.sin bank) ^ 2 ≠ 1 := by
  have square := gravityAt_square_pos positive pitch bank
  rw [fused, angleDefined_iff exact unitY_length square, axisShare_unitY positive]

/-- Reading the doubles as real numbers and the constant `PI` as the circle's, the angles
invert an attitude exactly if its wings are level, upright or inverted, or its pitch is zero
and its wings are not vertical. Witness: the computed roll has the sine of the bank angle,
shortened by the cosine of the pitch.
-/
theorem fusionAttitude_readsBack_iff (exact : ReadsExactly)
    (circle : DoubleMath.PI = Real.pi) {imu : Imu ℝ} {scale pitch bank : ℝ}
    (positive : 0 < scale)
    (pitchRange : -(Real.pi / 2) < pitch ∧ pitch < Real.pi / 2)
    (bankRange : -Real.pi < bank ∧ bank ≤ Real.pi)
    (fused : imu.fusionAttitude.m_est = gravityAt scale pitch bank)
    : imu.ReadsBack pitch bank
      ↔ Real.sin bank = 0 ∨ pitch = 0 ∧ Real.cos bank ≠ 0 := by
  obtain ⟨lower, upper⟩ := pitchRange
  have pitchDefined := angleDefined_pitch exact positive lower upper fused
  have rollDefined := angleDefined_roll exact positive fused
  have pitchRead := fusionAttitude_pitch exact positive lower upper fused
  constructor
  · intro ⟨_, defined, _, roll⟩
    have sine := sin_fusionAttitude_roll exact circle positive lower upper fused
    rw [roll] at sine
    by_cases level : Real.sin bank = 0
    · exact .inl level
    · have whole : Real.cos pitch = 1 := (mul_eq_right₀ level).mp sine.symm
      have flat : pitch = 0 :=
        (Real.cos_eq_one_iff_of_lt_of_lt (by linarith) (by linarith)).mp whole
      refine .inr ⟨flat, fun vertical => rollDefined.mp defined ?_⟩
      rw [← sine]
      exact (sin_sq_eq_one_iff bank).mpr vertical
  · intro attitude
    have shortened : Real.cos pitch * Real.sin bank = Real.sin bank := by
      rcases attitude with level | ⟨rfl, _⟩
      · rw [level, mul_zero]
      · rw [Real.cos_zero, one_mul]
    refine ⟨pitchDefined, rollDefined.mpr ?_, pitchRead, ?_⟩
    · rw [shortened]
      intro vertical
      rcases attitude with level | ⟨_, nonzero⟩
      · rw [level] at vertical
        norm_num at vertical
      · exact nonzero ((sin_sq_eq_one_iff bank).mp vertical)
    · rw [fusionAttitude_roll exact circle positive lower upper fused, shortened]
      exact signedAngle_arcsin bankRange.1 bankRange.2

-----------------------------------------------------------------------------------------
-- A unit at rest
-----------------------------------------------------------------------------------------

/-- A unit at rest whose accelerometer agrees with its estimate keeps the estimate. -/
theorem fusionAttitude_still (exact : ReadsExactly) (circle : DoubleMath.PI = Real.pi)
    {imu : Imu ℝ} (still : imu.m_turn = ⟨0, 0, 0⟩) (agrees : imu.m_acc = imu.m_est)
    (length : imu.m_est.dotProduct imu.m_est = 1)
    (largeX : epsilon ≤ √(imu.m_est.y ^ 2 + imu.m_est.z ^ 2))
    (largeY : epsilon ≤ √(imu.m_est.z ^ 2 + imu.m_est.x ^ 2))
    (largeZ : epsilon ≤ √(imu.m_est.x ^ 2 + imu.m_est.y ^ 2))
    : imu.fusionAttitude.m_est = imu.m_est := by
  have normal : imu.m_est.normalize = imu.m_est := by
    simp only [Point3D.normalize, Point3D.absolute_eq exact, length, Real.sqrt_one, div_one]
  have gyro : imu.iterateGyroAttitude = imu.m_est := by
    simp only [Imu.iterateGyroAttitude, iterateGyro, still,
      gyroEffect_still exact circle _ largeX, gyroEffect_still exact circle _ largeY,
      gyroEffect_still exact circle _ largeZ, add_zero]
  have fused : imu.fusionAttitude.m_est
      = mixAttitude imu.m_acc.normalize imu.iterateGyroAttitude.normalize imu.confidence :=
    rfl
  rw [fused, agrees, gyro, normal]
  simp only [mixAttitude, Int.cast_one, ← mul_add, add_sub_cancel, mul_one]

end

/-- A unit at rest, pitched up by an eighth of a turn. -/
noncomputable def climbingUnit (bank : ℝ) : Imu ℝ :=
  { Imu.new with
    m_turn := ⟨0, 0, 0⟩
    m_acc := gravityAt 1 (Real.pi / 4) bank
    m_est := gravityAt 1 (Real.pi / 4) bank }

/-- It keeps its estimate. Witness: every pair of components has half of the square. -/
theorem climbingUnit_fused (bank : ℝ)
    : letI := circleMath
      (climbingUnit bank).fusionAttitude.m_est = gravityAt 1 (Real.pi / 4) bank := by
  let _ := circleMath
  have root : (√2 / 2) ^ 2 = (1 / 2 : ℝ) := by
    rw [div_pow, Real.sq_sqrt (by norm_num)]
    norm_num
  have x : (gravityAt 1 (Real.pi / 4) bank).x ^ 2 = 1 / 2 := by
    simp only [gravityAt, Real.sin_pi_div_four, one_mul, neg_sq, root]
  have yz : (gravityAt 1 (Real.pi / 4) bank).y ^ 2 + (gravityAt 1 (Real.pi / 4) bank).z ^ 2
      = 1 / 2 := by
    simp only [gravityAt, Real.cos_pi_div_four, one_mul, mul_pow, root, ← mul_add,
      Real.sin_sq_add_cos_sq, mul_one]
  have large {square : ℝ} (half : 1 / 2 ≤ square) : epsilon ≤ √square := by
    apply Real.le_sqrt_of_sq_le
    refine le_trans ?_ half
    norm_num [epsilon]
  have length := gravityAt_square 1 (Real.pi / 4) bank
  rw [one_pow] at length
  have zx : 1 / 2
      ≤ (gravityAt 1 (Real.pi / 4) bank).z ^ 2 + (gravityAt 1 (Real.pi / 4) bank).x ^ 2 := by
    rw [x]
    exact le_add_of_nonneg_left (sq_nonneg _)
  have xy : 1 / 2
      ≤ (gravityAt 1 (Real.pi / 4) bank).x ^ 2 + (gravityAt 1 (Real.pi / 4) bank).y ^ 2 := by
    rw [x]
    exact le_add_of_nonneg_right (sq_nonneg _)
  exact fusionAttitude_still circleMath_readsExactly rfl rfl rfl length (large yz.ge) (large zx)
    (large xy)

/-- A climb with level wings is read back. -/
theorem fusionAttitude_readsBack_climb
    : letI := circleMath
      (climbingUnit 0).ReadsBack (Real.pi / 4) 0 := by
  let _ := circleMath
  have positive := Real.pi_pos
  apply (fusionAttitude_readsBack_iff circleMath_readsExactly rfl one_pos ⟨?_, ?_⟩ ⟨?_, ?_⟩
    (climbingUnit_fused 0)).mpr
  · exact .inl Real.sin_zero
  all_goals linarith

/-- In a climb with a bank angle of an eighth of a turn the roll is only a twelfth. -/
theorem fusionAttitude_not_readsBack
    : letI := circleMath
      (climbingUnit (Real.pi / 4)).fusionAttitude.m_est
          = gravityAt 1 (Real.pi / 4) (Real.pi / 4)
        ∧ ¬ (climbingUnit (Real.pi / 4)).ReadsBack (Real.pi / 4) (Real.pi / 4) := by
  let _ := circleMath
  have positive := Real.pi_pos
  refine ⟨climbingUnit_fused _, fun reads => ?_⟩
  have sine := sin_fusionAttitude_roll circleMath_readsExactly rfl one_pos (by linarith)
    (by linarith) (climbingUnit_fused (Real.pi / 4))
  rw [reads.roll, Real.sin_pi_div_four, Real.cos_pi_div_four] at sine
  have root : √2 * √2 = (2 : ℝ) := Real.mul_self_sqrt (by norm_num)
  have one : √2 = (1 : ℝ) := by linarith
  rw [one] at root
  norm_num at root

end Cooboc.Inertial
