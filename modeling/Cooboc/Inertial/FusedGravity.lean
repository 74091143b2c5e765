import Cooboc.Inertial.GyroStep

/-! The fused estimate of gravity keeps its length. The gyro's effects leave most of the
estimate in place, so the turned vector can be normalized; the accelerometer then pulls
the unit vector by a weight too small to fold it up.
-/

namespace Cooboc.Inertial

open Cooboc.Foundations Cooboc.FlightControl

/-- Readings within the ranges of the accelerometer and of the gyro. -/
structure RawReadings.InRange (raw : RawReadings) : Prop where
  accX : -2048 ≤ raw.acc.x ∧ raw.acc.x ≤ 2047
  accY : -2048 ≤ raw.acc.y ∧ raw.acc.y ≤ 2047
  accZ : -2048 ≤ raw.acc.z ∧ raw.acc.z ≤ 2047
  gyroX : -32768 ≤ raw.gyro.x ∧ raw.gyro.x ≤ 32767
  gyroY : -32768 ≤ raw.gyro.y ∧ raw.gyro.y ≤ 32767
  gyroZ : -32768 ≤ raw.gyro.z ∧ raw.gyro.z ≤ 32767

-----------------------------------------------------------------------------------------
-- Vectors of real numbers
-----------------------------------------------------------------------------------------

namespace Point3D

theorem dotProduct_self_pos {point : Point3D ℝ} (nonzero : point ≠ ⟨0, 0, 0⟩)
    : 0 < point.dotProduct point := by
  rcases point with ⟨x, y, z⟩
  have squares := And.intro (mul_self_nonneg x)
    (And.intro (mul_self_nonneg y) (mul_self_nonneg z))
  refine lt_of_le_of_ne (add_nonneg (add_nonneg squares.1 squares.2.1) squares.2.2) ?_
  intro zero
  apply nonzero
  simp only [dotProduct] at zero
  rw [mk.injEq]
  refine ⟨?_, ?_, ?_⟩ <;> apply mul_self_eq_zero.mp <;> linarith

/-- A vector with a positive part along another one is not zero. -/
theorem ne_zero_of_dotProduct_pos {point other : Point3D ℝ}
    (positive : 0 < other.dotProduct point)
    : point ≠ ⟨0, 0, 0⟩ := by
  intro zero
  rw [zero] at positive
  simp [dotProduct] at positive

/-- Two unit vectors have a product between -1 and 1. -/
theorem dotProduct_bounds {first second : Point3D ℝ} (unit : first.dotProduct first = 1)
    (otherUnit : second.dotProduct second = 1)
    : -1 ≤ first.dotProduct second ∧ first.dotProduct second ≤ 1 := by
  simp only [dotProduct] at unit otherUnit ⊢
  constructor
  · nlinarith [sq_nonneg (first.x + second.x), sq_nonneg (first.y + second.y),
      sq_nonneg (first.z + second.z)]
  · nlinarith [sq_nonneg (first.x - second.x), sq_nonneg (first.y - second.y),
      sq_nonneg (first.z - second.z)]

variable [TrigMath ℝ]

theorem absolute_eq (exact : ReadsExactly) (point : Point3D ℝ)
    : point.absolute = √(point.dotProduct point) :=
  exact.sqrt_eq _
    (add_nonneg (add_nonneg (mul_self_nonneg _) (mul_self_nonneg _)) (mul_self_nonneg _))

theorem normalize_unit (exact : ReadsExactly) {point : Point3D ℝ}
    (nonzero : point ≠ ⟨0, 0, 0⟩)
    : point.normalize.dotProduct point.normalize = 1 := by
  have positive := dotProduct_self_pos nonzero
  have root := Real.mul_self_sqrt positive.le
  have length : 0 < √(point.dotProduct point) := Real.sqrt_pos.mpr positive
  simp only [normalize, absolute_eq exact]
  generalize √(point.dotProduct point) = radius at root length
  simp only [dotProduct] at root ⊢
  field_simp
  linarith

end Point3D

/-- The square of a mix of unit vectors is one, less what their angle costs. -/
theorem mixAttitude_dotProduct_self {na ge : Point3D ℝ} (unit : na.dotProduct na = 1)
    (otherUnit : ge.dotProduct ge = 1) (confidence : ℝ)
    : (mixAttitude na ge confidence).dotProduct (mixAttitude na ge confidence)
      = 1 - 2 * (confidence * (1 - confidence)) * (1 - na.dotProduct ge) := by
  simp only [Point3D.dotProduct, mixAttitude] at unit otherUnit ⊢
  push_cast
  linear_combination confidence ^ 2 * unit + (1 - confidence) ^ 2 * otherUnit

/-- A mix of unit vectors is no longer than they are, and opposite ones shorten it most. -/
theorem mixAttitude_bounds {na ge : Point3D ℝ} (unit : na.dotProduct na = 1)
    (otherUnit : ge.dotProduct ge = 1) {confidence : ℝ} (nonneg : 0 ≤ confidence)
    (atMost : confidence ≤ 1)
    : (1 - 2 * confidence) ^ 2
        ≤ (mixAttitude na ge confidence).dotProduct (mixAttitude na ge confidence)
      ∧ (mixAttitude na ge confidence).dotProduct (mixAttitude na ge confidence) ≤ 1 := by
  have angle := Point3D.dotProduct_bounds unit otherUnit
  have weight : 0 ≤ confidence * (1 - confidence) := mul_nonneg nonneg (by linarith)
  rw [mixAttitude_dotProduct_self unit otherUnit]
  constructor
  · nlinarith
  · nlinarith

-----------------------------------------------------------------------------------------
-- One update
-----------------------------------------------------------------------------------------

/-- The weight of the accelerometer lies between 0.002 and 0.082. -/
theorem confidence_bounds (imu : Imu ℝ)
    : 0.002 ≤ imu.confidence ∧ imu.confidence ≤ 0.082 := by
  have nonneg
      : 0 ≤ imu.m_acc.x * imu.m_acc.x + imu.m_acc.y * imu.m_acc.y
          + imu.m_acc.z * imu.m_acc.z :=
    add_nonneg (add_nonneg (mul_self_nonneg _) (mul_self_nonneg _)) (mul_self_nonneg _)
  unfold Imu.confidence
  generalize imu.m_acc.x * imu.m_acc.x + imu.m_acc.y * imu.m_acc.y
    + imu.m_acc.z * imu.m_acc.z = square at nonneg ⊢
  simp only [Int.cast_one]
  split_ifs with large
  · have inverse : 0 ≤ 1 / square := by positivity
    have atMost : 1 / square ≤ 1 := (div_le_one (by linarith)).mpr large.le
    constructor <;> linarith
  · have atMost := not_lt.mp large
    constructor <;> linarith

/-- A raw rate within its range, with the offset and scale of an axis, is a small turn. -/
theorem scaled_rate_bound {rate : Int} (range : -32768 ≤ rate ∧ rate ≤ 32767)
    {offset scale : ℝ} (offsetBound : |offset| ≤ 7.832) (scaleBound : |scale| ≤ 1.1024)
    : |((rate : ℝ) + offset) * scale * 1e-5| ≤ 0.3614 := by
  have lower : (-32768 : ℝ) ≤ rate := by exact_mod_cast range.1
  have upper : (rate : ℝ) ≤ 32767 := by exact_mod_cast range.2
  have offsets := abs_le.mp offsetBound
  have sum : |(rate : ℝ) + offset| ≤ 32775.832 := by
    rw [abs_le]
    constructor <;> linarith
  rw [abs_mul, abs_mul]
  have product := mul_le_mul sum scaleBound (abs_nonneg _) (by norm_num)
  have small : |(1e-5 : ℝ)| = 1e-5 := abs_of_pos (by norm_num)
  rw [small]
  linarith

/-- The gyro turns by less than 0.3614 on each axis. -/
theorem fixData_turn_bounds (imu : Imu ℝ) {raw : RawReadings} (inRange : raw.InRange)
    : |(imu.readData raw).fixData.m_turn.x| ≤ 0.3614
      ∧ |(imu.readData raw).fixData.m_turn.y| ≤ 0.3614
      ∧ |(imu.readData raw).fixData.m_turn.z| ≤ 0.3614 := by
  refine ⟨?_, ?_, ?_⟩
  · exact scaled_rate_bound inRange.gyroX (by norm_num) (by norm_num)
  · exact scaled_rate_bound inRange.gyroY (by norm_num) (by norm_num)
  · exact scaled_rate_bound inRange.gyroZ (by norm_num) (by norm_num)

/-- The estimate is neither lost nor longer than gravity's unit. -/
def SoundEstimate (imu : Imu ℝ) : Prop :=
  0.83 ^ 2 ≤ imu.m_est.dotProduct imu.m_est ∧ imu.m_est.dotProduct imu.m_est ≤ 1

theorem new_sound : SoundEstimate (Imu.new : Imu ℝ) := by
  norm_num [SoundEstimate, Imu.new, Point3D.dotProduct]

section Update

variable [TrigMath ℝ]

/-- A sound estimate keeps a direction under the gyro. Witness: the effects of the axes leave
its part along itself positive.
-/
theorem iterateGyroAttitude_ne_zero (exact : ReadsExactly) {imu : Imu ℝ} {raw : RawReadings}
    (inRange : raw.InRange) (sound : SoundEstimate imu)
    : (imu.readData raw).fixData.iterateGyroAttitude ≠ ⟨0, 0, 0⟩ := by
  have error : piError ≤ 1e-15 := exact.pi_near
  obtain ⟨turnX, turnY, turnZ⟩ := fixData_turn_bounds imu inRange
  have lower
      : (1 - 0.3615 ^ 2) * imu.m_est.dotProduct imu.m_est - 6 * epsilon ^ 2
        ≤ imu.m_est.dotProduct (imu.readData raw).fixData.iterateGyroAttitude :=
    iterateGyro_inner_lower exact imu.m_est (imu.readData raw).fixData.m_turn
      (by linarith) (by linarith) (by linarith)
  have kept := sound.1
  have positive
      : 0 < imu.m_est.dotProduct (imu.readData raw).fixData.iterateGyroAttitude := by
    refine lt_of_lt_of_le ?_ lower
    norm_num [epsilon] at kept ⊢
    linarith
  exact Point3D.ne_zero_of_dotProduct_pos positive

/-- An update with some filtered acceleration leaves a sound estimate. Witness: it is a mix of
two unit vectors by the accelerometer's weight.
-/
theorem update_sound (exact : ReadsExactly) {imu : Imu ℝ} {raw : RawReadings}
    (inRange : raw.InRange) (accelerated : (imu.readData raw).fixData.m_acc ≠ ⟨0, 0, 0⟩)
    (sound : SoundEstimate imu)
    : SoundEstimate (imu.update raw) := by
  have unit := Point3D.normalize_unit exact accelerated
  have turnedUnit :=
    Point3D.normalize_unit exact (iterateGyroAttitude_ne_zero exact inRange sound)
  have weight := confidence_bounds (imu.readData raw).fixData
  have bounds := mixAttitude_bounds unit turnedUnit (by linarith) (by linarith)
  refine ⟨le_trans ?_ bounds.1, bounds.2⟩
  exact pow_le_pow_left₀ (by norm_num) (by linarith) 2

/-- The fused gravity estimate never degenerates: as long as the filtered acceleration is not
zero, every update weighs the accelerometer between 0.002 and 0.082, has a gyro attitude
to normalize, and leaves an estimate of a length between 0.83 and 1. Witness: a sound
estimate is an invariant of the updates, and it alone keeps the gyro attitude from zero.
-/
theorem gravity_never_degenerates (exact : ReadsExactly) {readings : List RawReadings}
    (inRange : ∀ raw ∈ readings, raw.InRange)
    (accelerated
      : imuUpdates.Always (fun imu raw => (imu.readData raw).fixData.m_acc ≠ ⟨0, 0, 0⟩)
          (Imu.new : Imu ℝ) readings)
    : imuUpdates.Always
        (fun imu raw =>
          (0.002 ≤ (imu.readData raw).fixData.confidence
            ∧ (imu.readData raw).fixData.confidence ≤ 0.082)
          ∧ (imu.readData raw).fixData.iterateGyroAttitude ≠ ⟨0, 0, 0⟩
          ∧ 0.83 ≤ (imu.update raw).m_est.absolute
          ∧ (imu.update raw).m_est.absolute ≤ 1)
        (Imu.new : Imu ℝ) readings := by
  have admitted :=
    imuUpdates.always_and.mpr
      ⟨(imuUpdates.always_inputs (Imu.new : Imu ℝ)).mpr inRange, accelerated⟩
  apply admitted.of_invariant SoundEstimate new_sound
  intro imu raw sound ⟨inRange, accelerated⟩
  have kept := update_sound exact inRange accelerated sound
  refine ⟨⟨confidence_bounds _, iterateGyroAttitude_ne_zero exact inRange sound, ?_⟩, kept⟩
  rw [Point3D.absolute_eq exact]
  exact ⟨Real.le_sqrt_of_sq_le kept.1, Real.sqrt_le_one.mpr kept.2⟩

end Update

/-- An update at rest, and one in which everything jolts. -/
theorem gravity_never_degenerates_jolt
    : letI := exactMath
      imuUpdates.Always
        (fun imu raw =>
          (0.002 ≤ (imu.readData raw).fixData.confidence
            ∧ (imu.readData raw).fixData.confidence ≤ 0.082)
          ∧ (imu.readData raw).fixData.iterateGyroAttitude ≠ ⟨0, 0, 0⟩
          ∧ 0.83 ≤ (imu.update raw).m_est.absolute
          ∧ (imu.update raw).m_est.absolute ≤ 1)
        (Imu.new : Imu ℝ)
        [⟨⟨0, 0, 128⟩, ⟨0, 0, 0⟩⟩, ⟨⟨-2048, 2047, 0⟩, ⟨-32768, 32767, -32768⟩⟩] := by
  let _ := exactMath
  apply gravity_never_degenerates exactMath_readsExactly
  · intro raw member
    simp only [List.mem_cons, List.not_mem_nil, or_false] at member
    rcases member with rfl | rfl
    · constructor <;> norm_num
    · constructor <;> norm_num
  · refine ⟨?_, ?_, trivial⟩
    · norm_num [Imu.readData, Imu.fixData, Imu.new, FolFilter.filter, FolFilter.new]
    · norm_num [imuUpdates, Imu.update, Imu.fusionMagnet, Imu.fusionAttitude, Imu.readData,
        Imu.fixData, Imu.new, FolFilter.filter, FolFilter.new]

end Cooboc.Inertial
