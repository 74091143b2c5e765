import Cooboc.Inertial.GravityAngles

/-! The heading of `Imu::fusionMagnet`: the angle, seen along the estimate of gravity, by which the
nose is turned away from the magnetic field.
-/

namespace Cooboc.Inertial

open Cooboc.Foundations Cooboc.FlightControl

-----------------------------------------------------------------------------------------
-- Frames of vectors
-----------------------------------------------------------------------------------------

namespace Point3D

/-- A vector turned about an axis that it is perpendicular to. -/
noncomputable def turnedAbout (point axis : Point3D ℝ) (angle : ℝ) : Point3D ℝ :=
  let across := axis.crossProduct point
  ⟨point.x * Real.cos angle + across.x * Real.sin angle,
    point.y * Real.cos angle + across.y * Real.sin angle,
    point.z * Real.cos angle + across.z * Real.sin angle⟩

theorem dotProduct_comm (first second : Point3D ℝ)
    : first.dotProduct second = second.dotProduct first := by
  simp only [dotProduct, mul_comm]

theorem crossProduct_square (first second : Point3D ℝ)
    : (first.crossProduct second).dotProduct (first.crossProduct second)
      = first.dotProduct first * second.dotProduct second - first.dotProduct second ^ 2 := by
  simp only [crossProduct, dotProduct]
  ring

theorem crossProduct_perpendicular (first second : Point3D ℝ)
    : second.dotProduct (first.crossProduct second) = 0 := by
  simp only [crossProduct, dotProduct]
  ring

/-- The volume that three vectors span, squared. -/
theorem tripleProduct_square (first second third : Point3D ℝ)
    : third.dotProduct (first.crossProduct second) ^ 2
      = first.dotProduct first
          * (second.dotProduct second * third.dotProduct third - second.dotProduct third ^ 2)
        - second.dotProduct second * first.dotProduct third ^ 2
        - third.dotProduct third * first.dotProduct second ^ 2
        + 2 * (first.dotProduct second * second.dotProduct third * first.dotProduct third) := by
  simp only [crossProduct, dotProduct]
  ring

/-- Three unit vectors, two of them perpendicular to the first one. -/
structure Around (axis first second : Point3D ℝ) : Prop where
  axis_unit : axis.dotProduct axis = 1
  first_unit : first.dotProduct first = 1
  second_unit : second.dotProduct second = 1
  first_perpendicular : axis.dotProduct first = 0
  second_perpendicular : axis.dotProduct second = 0

/-- The sine and the cosine of the angle between the two vectors. -/
theorem Around.circle {axis first second : Point3D ℝ} (around : Around axis first second)
    : second.dotProduct (axis.crossProduct first) ^ 2 + first.dotProduct second ^ 2 = 1 := by
  rw [tripleProduct_square, around.axis_unit, around.first_unit, around.second_unit,
    around.first_perpendicular, around.second_perpendicular]
  ring

/-- The second vector is the first one, turned by their angle. Witness: the difference has no
length.
-/
theorem Around.turned {axis first second : Point3D ℝ} (around : Around axis first second)
    {angle : ℝ} (cosine : Real.cos angle = first.dotProduct second)
    (sine : Real.sin angle = second.dotProduct (axis.crossProduct first))
    : second = first.turnedAbout axis angle := by
  let difference : Point3D ℝ :=
    ⟨second.x - (first.turnedAbout axis angle).x, second.y - (first.turnedAbout axis angle).y,
      second.z - (first.turnedAbout axis angle).z⟩
  have across := crossProduct_square axis first
  rw [around.axis_unit, around.first_unit, around.first_perpendicular] at across
  have expanded : difference.dotProduct difference
      = second.dotProduct second
        - 2 * (Real.cos angle * first.dotProduct second
          + Real.sin angle * second.dotProduct (axis.crossProduct first))
        + Real.cos angle ^ 2 * first.dotProduct first
        + 2 * (Real.cos angle * Real.sin angle * first.dotProduct (axis.crossProduct first))
        + Real.sin angle ^ 2
          * (axis.crossProduct first).dotProduct (axis.crossProduct first) := by
    simp only [difference, turnedAbout, dotProduct]
    ring
  have zero : difference = ⟨0, 0, 0⟩ := by
    by_contra nonzero
    have positive := dotProduct_self_pos nonzero
    have circle := around.circle
    rw [expanded, across, around.second_unit, around.first_unit, crossProduct_perpendicular,
      cosine, sine] at positive
    linarith
  rw [mk.injEq] at zero
  obtain ⟨x, y, z⟩ := zero
  have parts : second = ⟨second.x, second.y, second.z⟩ := rfl
  rw [parts, sub_eq_zero.mp x, sub_eq_zero.mp y, sub_eq_zero.mp z]

/-- A projection is perpendicular to the vector. -/
theorem projectOnPlane_perpendicular {axis : Point3D ℝ} (nonzero : axis ≠ ⟨0, 0, 0⟩)
    (point : Point3D ℝ)
    : axis.dotProduct (point.projectOnPlane axis) = 0 := by
  have inverse := mul_inv_cancel₀ (dotProduct_self_pos nonzero).ne'
  simp only [dotProduct, projectOnPlane, div_eq_mul_inv] at inverse ⊢
  linear_combination
    -(point.x * axis.x + point.y * axis.y + point.z * axis.z) * inverse

variable [TrigMath ℝ]

theorem absolute_pos (exact : ReadsExactly) {point : Point3D ℝ} (nonzero : point ≠ ⟨0, 0, 0⟩)
    : 0 < point.absolute := by
  rw [absolute_eq exact]
  exact Real.sqrt_pos.mpr (dotProduct_self_pos nonzero)

theorem normalize_dotProduct (first second : Point3D ℝ)
    : first.normalize.dotProduct second.normalize
      = first.dotProduct second / (first.absolute * second.absolute) := by
  simp only [normalize, dotProduct]
  ring

theorem normalize_tripleProduct (first second third : Point3D ℝ)
    : third.normalize.dotProduct (first.normalize.crossProduct second.normalize)
      = (second.crossProduct third).dotProduct first
        / (first.absolute * second.absolute * third.absolute) := by
  simp only [normalize, dotProduct, crossProduct]
  ring

/-- The directions of two projections lie around that of the vector. -/
theorem around_projections (exact : ReadsExactly) {axis first second : Point3D ℝ}
    (nonzero : axis ≠ ⟨0, 0, 0⟩) (first_nonzero : first.projectOnPlane axis ≠ ⟨0, 0, 0⟩)
    (second_nonzero : second.projectOnPlane axis ≠ ⟨0, 0, 0⟩)
    : Around axis.normalize (first.projectOnPlane axis).normalize
        (second.projectOnPlane axis).normalize where
  axis_unit := normalize_unit exact nonzero
  first_unit := normalize_unit exact first_nonzero
  second_unit := normalize_unit exact second_nonzero
  first_perpendicular := by
    rw [normalize_dotProduct, projectOnPlane_perpendicular nonzero, zero_div]
  second_perpendicular := by
    rw [normalize_dotProduct, projectOnPlane_perpendicular nonzero, zero_div]

end Point3D

-----------------------------------------------------------------------------------------
-- The heading
-----------------------------------------------------------------------------------------

section

variable [TrigMath ℝ]

/-- The direction of the nose, seen along gravity. -/
noncomputable def Imu.nose (imu : Imu ℝ) : Point3D ℝ := unitX.projectOnPlane imu.m_est

/-- The direction of the magnetic field, seen along gravity. -/
noncomputable def Imu.north (imu : Imu ℝ) : Point3D ℝ := imu.m_estMagnet.projectOnPlane imu.m_est

/-- The heading says how far the nose is turned away from the field about gravity, and is less than
a whole turn.
-/
structure Imu.HeadsTrue (imu : Imu ℝ) : Prop where
  lower : 0 ≤ imu.m_heading
  upper : imu.m_heading < 2 * Real.pi
  turned
    : imu.nose.normalize = imu.north.normalize.turnedAbout imu.m_est.normalize imu.m_heading

/-- The heading is the angle between the two directions, on the side on which the nose is. -/
theorem fusionMagnet_headsTrue (exact : ReadsExactly) (circle : DoubleMath.PI = Real.pi)
    {imu : Imu ℝ} (gravity : imu.m_est ≠ ⟨0, 0, 0⟩)
    (nose : imu.fusionMagnet.nose ≠ ⟨0, 0, 0⟩) (north : imu.fusionMagnet.north ≠ ⟨0, 0, 0⟩)
    : imu.fusionMagnet.HeadsTrue := by
  have around : Point3D.Around imu.m_est.normalize imu.fusionMagnet.north.normalize
      imu.fusionMagnet.nose.normalize :=
    Point3D.around_projections exact gravity north nose
  have bounds := Point3D.dotProduct_bounds around.first_unit around.second_unit
  have cosine := Point3D.normalize_dotProduct imu.fusionMagnet.north imu.fusionMagnet.nose
  have sine := Point3D.normalize_tripleProduct imu.m_est imu.fusionMagnet.north
    imu.fusionMagnet.nose
  have sizes : 0 < imu.m_est.absolute * imu.fusionMagnet.north.absolute
      * imu.fusionMagnet.nose.absolute :=
    mul_pos (mul_pos (Point3D.absolute_pos exact gravity) (Point3D.absolute_pos exact north))
      (Point3D.absolute_pos exact nose)
  have circular := around.circle
  generalize right_eq : imu.fusionMagnet.nose.normalize.dotProduct
    (imu.m_est.normalize.crossProduct imu.fusionMagnet.north.normalize) = right at sine circular
  generalize top_eq : imu.fusionMagnet.north.normalize.dotProduct
    imu.fusionMagnet.nose.normalize = top at cosine circular bounds
  have unit_x : (⟨1.0, 0.0, 0.0⟩ : Point3D ℝ) = unitX := by norm_num [unitX]
  have side : (imu.fusionMagnet.north.crossProduct imu.fusionMagnet.nose).dotProduct imu.m_est
      < 0 ↔ right < 0 := by
    rw [(eq_div_iff sizes.ne').mp sine |>.symm, mul_comm, mul_neg_iff_of_pos sizes]
  have computed : imu.fusionMagnet.m_heading
      = if right < 0 then 2 * Real.pi - Real.arccos (top / 1) else Real.arccos (top / 1) := by
    have source : imu.fusionMagnet.m_heading
        = if (imu.fusionMagnet.north.crossProduct imu.fusionMagnet.nose).dotProduct imu.m_est < 0
          then ((2 : Int) : ℝ) * DoubleMath.PI - TrigMath.acos top else TrigMath.acos top := by
      rw [cosine, Point3D.dotProduct_comm imu.fusionMagnet.north,
        mul_comm imu.fusionMagnet.north.absolute]
      simp only [Imu.fusionMagnet, Imu.north, Imu.nose, unit_x]
    rw [source, exact.acos_eq top bounds.1 bounds.2, circle, div_one]
    simp only [side, Int.cast_ofNat]
  obtain ⟨polar, lower, upper⟩ :=
    @PolarPair.of_side 1 right top one_pos (by rw [one_pow, circular])
  rw [← computed] at polar lower upper
  refine ⟨lower, upper, around.turned ?_ ?_⟩
  · rw [top_eq, ← polar.top_eq, one_mul]
  · rw [right_eq, ← polar.right_eq, one_mul]

-----------------------------------------------------------------------------------------
-- Updates
-----------------------------------------------------------------------------------------

/-- A unit estimate of the field keeps a direction under the gyro. -/
theorem iterateGyroMagnet_ne_zero (exact : ReadsExactly) {imu : Imu ℝ} {raw : RawReadings}
    (inRange : raw.InRange) (unit : imu.m_estMagnet.dotProduct imu.m_estMagnet = 1)
    : (imu.readData raw).fixData.fusionAttitude.iterateGyroMagnet ≠ ⟨0, 0, 0⟩ := by
  have error : piError ≤ 1e-15 := exact.pi_near
  obtain ⟨turnX, turnY, turnZ⟩ := fixData_turn_bounds imu inRange
  have lower
      : (1 - 0.3615 ^ 2) * imu.m_estMagnet.dotProduct imu.m_estMagnet - 6 * epsilon ^ 2
        ≤ imu.m_estMagnet.dotProduct
            (imu.readData raw).fixData.fusionAttitude.iterateGyroMagnet :=
    iterateGyro_inner_lower exact imu.m_estMagnet (imu.readData raw).fixData.m_turn
      (by linarith) (by linarith) (by linarith)
  refine Point3D.ne_zero_of_dotProduct_pos (lt_of_lt_of_le ?_ lower)
  rw [unit]
  norm_num [epsilon]

/-- The estimates that the headings are computed from. -/
def SoundHeading (imu : Imu ℝ) : Prop :=
  SoundEstimate imu ∧ imu.m_estMagnet.dotProduct imu.m_estMagnet = 1

theorem update_soundHeading (exact : ReadsExactly) {imu : Imu ℝ} {raw : RawReadings}
    (inRange : raw.InRange) (accelerated : (imu.readData raw).fixData.m_acc ≠ ⟨0, 0, 0⟩)
    (sound : SoundHeading imu)
    : SoundHeading (imu.update raw) :=
  ⟨update_sound exact inRange accelerated sound.1,
    Point3D.normalize_unit exact (iterateGyroMagnet_ne_zero exact inRange sound.2)⟩

/-- The heading is true: in every run of updates, as long as the filtered acceleration is not zero,
the estimate of the field has length one, and wherever neither the nose nor the field points
along gravity, the heading is the angle between them about gravity. Witness: both estimates
keep a length, so the projections alone decide.
-/
theorem heading_always_true (exact : ReadsExactly) (circle : DoubleMath.PI = Real.pi)
    {readings : List RawReadings} (inRange : ∀ raw ∈ readings, raw.InRange)
    (accelerated
      : imuUpdates.Always (fun imu raw => (imu.readData raw).fixData.m_acc ≠ ⟨0, 0, 0⟩)
          (Imu.new : Imu ℝ) readings)
    : imuUpdates.Always
        (fun imu raw =>
          (imu.update raw).m_estMagnet.dotProduct (imu.update raw).m_estMagnet = 1
          ∧ ((imu.update raw).nose ≠ ⟨0, 0, 0⟩ → (imu.update raw).north ≠ ⟨0, 0, 0⟩
            → (imu.update raw).HeadsTrue))
        (Imu.new : Imu ℝ) readings := by
  have admitted :=
    imuUpdates.always_and.mpr
      ⟨(imuUpdates.always_inputs (Imu.new : Imu ℝ)).mpr inRange, accelerated⟩
  have start : SoundHeading (Imu.new : Imu ℝ) :=
    ⟨new_sound, by norm_num [Imu.new, Point3D.dotProduct]⟩
  apply admitted.of_invariant SoundHeading start
  intro imu raw sound admitted_step
  obtain ⟨own_range, own_accelerated⟩ := admitted_step
  have kept := update_soundHeading exact own_range own_accelerated sound
  have gravity : (imu.update raw).m_est ≠ ⟨0, 0, 0⟩ := by
    refine Point3D.ne_zero_of_dotProduct_pos (lt_of_lt_of_le ?_ kept.1.1)
    norm_num
  exact ⟨⟨kept.2, fusionMagnet_headsTrue exact circle gravity⟩, kept⟩

end

/-- An update at rest, and one in which everything jolts. -/
theorem heading_always_true_jolt
    : letI := circleMath
      imuUpdates.Always
        (fun imu raw =>
          (imu.update raw).m_estMagnet.dotProduct (imu.update raw).m_estMagnet = 1
          ∧ ((imu.update raw).nose ≠ ⟨0, 0, 0⟩ → (imu.update raw).north ≠ ⟨0, 0, 0⟩
            → (imu.update raw).HeadsTrue))
        (Imu.new : Imu ℝ)
        [⟨⟨0, 0, 128⟩, ⟨0, 0, 0⟩⟩, ⟨⟨-2048, 2047, 0⟩, ⟨-32768, 32767, -32768⟩⟩] := by
  let _ := circleMath
  apply heading_always_true circleMath_readsExactly rfl
  · intro raw member
    simp only [List.mem_cons, List.not_mem_nil, or_false] at member
    rcases member with rfl | rfl
    · constructor <;> norm_num
    · constructor <;> norm_num
  · refine ⟨?_, ?_, trivial⟩
    · norm_num [Imu.readData, Imu.fixData, Imu.new, FolFilter.filter, FolFilter.new]
    · norm_num [imuUpdates, Imu.update, Imu.fusionMagnet, Imu.fusionAttitude, Imu.readData,
        Imu.fixData, Imu.new, FolFilter.filter, FolFilter.new]

end Cooboc.Inertial
