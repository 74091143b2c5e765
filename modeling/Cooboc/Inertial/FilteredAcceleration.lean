import Mathlib.Algebra.BigOperators.Intervals
import Mathlib.Data.List.GetD
import Cooboc.Inertial.FusedGravity

/-! The filtered acceleration as a divisor. The filters start at zero, so it is a weighted sum
of all readings so far, which vanishes if they are all zero or cancel out.
-/

namespace Cooboc.Inertial

open Cooboc.Foundations Cooboc.FlightControl

/-- The readings of an axis as its filter weights them: each one with a factor of 17 for
every later and of 20 for every earlier reading.
-/
def weightedReadings (readings : List Int) : Int :=
  ∑ i ∈ Finset.range readings.length,
    17 ^ (readings.length - 1 - i) * 20 ^ i * readings.getD i 0

/-- On some axis the weighted readings of the accelerometer do not cancel out. -/
def Accelerated (readings : List RawReadings) : Prop :=
  weightedReadings (readings.map (fun raw => raw.acc.x)) ≠ 0
  ∨ weightedReadings (readings.map (fun raw => raw.acc.y)) ≠ 0
  ∨ weightedReadings (readings.map (fun raw => raw.acc.z)) ≠ 0

instance decidableAccelerated : DecidablePred Accelerated :=
  fun _ => inferInstanceAs (Decidable (_ ∨ _))

/-- The divisors of an update: the norm of the filtered acceleration, its square where the
confidence is inverted, and the square of the estimate that is projected on.
-/
structure DivisorsNonzero [TrigMath ℝ] (imu : Imu ℝ) (raw : RawReadings) : Prop where
  norm : (imu.readData raw).fixData.m_acc.absolute ≠ 0
  confidence
    : let m_acc := (imu.readData raw).fixData.m_acc
      1 < m_acc.dotProduct m_acc → m_acc.dotProduct m_acc ≠ 0
  projection : (imu.update raw).m_est.dotProduct (imu.update raw).m_est ≠ 0

/-- Another reading: what was there loses a part, the new one has full weight. -/
theorem weightedReadings_append (readings : List Int) (reading : Int)
    : weightedReadings (readings ++ [reading])
      = 17 * weightedReadings readings + 20 ^ readings.length * reading := by
  have size : (readings ++ [reading]).length = readings.length + 1 := List.length_append
  have last : (readings ++ [reading]).getD readings.length 0 = reading := by
    simp
  rw [weightedReadings, size, Finset.sum_range_succ, last, weightedReadings, Finset.mul_sum]
  congr 1
  · apply Finset.sum_congr rfl
    intro i member
    have inside := Finset.mem_range.mp member
    have exponent : readings.length + 1 - 1 - i = readings.length - 1 - i + 1 := by omega
    rw [exponent, pow_succ, List.getD_append _ _ _ _ inside]
    ring
  · rw [Nat.add_sub_cancel, Nat.sub_self, pow_zero, one_mul]

/-- The filter of an axis behind its readings. -/
noncomputable def filtered (readings : List Int) : FolFilter ℝ :=
  readings.foldl
    (fun (filter : FolFilter ℝ) (reading : Int) => filter.filter ((reading : ℝ) / 128.0))
    (FolFilter.new 0.15)

theorem filtered_append (readings : List Int) (reading : Int)
    : filtered (readings ++ [reading])
      = (filtered readings).filter ((reading : ℝ) / 128.0) :=
  List.foldl_concat ..

/-- The filter stores the weighted readings in units of its own. Witness: induction over the
readings from the last one.
-/
theorem filtered_value (readings : List Int)
    : (filtered readings).mQ = 0.15
      ∧ (filtered readings).mLastValue * (128 * 20 ^ readings.length)
        = 3 * weightedReadings readings := by
  induction readings using List.reverseRecOn with
  | nil => exact ⟨rfl, by simp [filtered, FolFilter.new, weightedReadings]⟩
  | append_singleton readings reading ih =>
      obtain ⟨gain, value⟩ := ih
      rw [filtered_append, weightedReadings_append]
      refine ⟨gain, ?_⟩
      have share : (0.15 : ℝ) = 3 / 20 := by norm_num
      have unit : (128.0 : ℝ) = 128 := by norm_num
      simp only [FolFilter.filter, gain, List.length_append, List.length_singleton, pow_succ,
        share, unit]
      push_cast
      linear_combination 17 * value

/-- The filter stores zero exactly if its weighted readings cancel out. -/
theorem filtered_eq_zero_iff (readings : List Int)
    : (filtered readings).mLastValue = 0 ↔ weightedReadings readings = 0 := by
  have value := (filtered_value readings).2
  have factor : (128 * 20 ^ readings.length : ℝ) ≠ 0 := by positivity
  constructor
  · intro zero
    rw [zero, zero_mul] at value
    exact_mod_cast (mul_eq_zero.mp value.symm).resolve_left (by norm_num)
  · intro zero
    rw [zero, Int.cast_zero, mul_zero] at value
    exact (mul_eq_zero.mp value).resolve_right factor

section

variable [TrigMath ℝ]

/-- The three filters have seen the readings of their axes. -/
structure FiltersFollow (readings : List RawReadings) (imu : Imu ℝ) : Prop where
  x : imu.axFilter = filtered (readings.map (fun raw => raw.acc.x))
  y : imu.ayFilter = filtered (readings.map (fun raw => raw.acc.y))
  z : imu.azFilter = filtered (readings.map (fun raw => raw.acc.z))

omit [TrigMath ℝ] in
theorem FiltersFollow.fixData {readings : List RawReadings} {imu : Imu ℝ}
    (follow : FiltersFollow readings imu) (raw : RawReadings)
    : FiltersFollow (readings ++ [raw]) (imu.readData raw).fixData := by
  constructor <;> simp only [List.map_append, List.map_singleton, filtered_append, ← follow.x,
    ← follow.y, ← follow.z] <;> rfl

/-- An update filters one more reading of each axis; the estimates have no part in it. -/
theorem FiltersFollow.update {readings : List RawReadings} {imu : Imu ℝ}
    (follow : FiltersFollow readings imu) (raw : RawReadings)
    : FiltersFollow (readings ++ [raw]) (imu.update raw) :=
  have fixed := follow.fixData raw
  ⟨fixed.x, fixed.y, fixed.z⟩

/-- After any updates the filters have seen all readings. -/
theorem run_filtersFollow (readings : List RawReadings)
    : FiltersFollow readings (imuUpdates.run (Imu.new : Imu ℝ) readings) :=
  (imuUpdates.always_true _ readings).run_history FiltersFollow ⟨rfl, rfl, rfl⟩
    (fun _ _ raw follow _ => follow.update raw)

omit [TrigMath ℝ] in
/-- The filtered acceleration is not zero exactly if the readings accelerate. -/
theorem m_acc_ne_zero_iff {readings : List RawReadings} {imu : Imu ℝ}
    (follow : FiltersFollow readings imu) (raw : RawReadings)
    : (imu.readData raw).fixData.m_acc ≠ ⟨0, 0, 0⟩ ↔ Accelerated (readings ++ [raw]) := by
  obtain ⟨x, y, z⟩ := follow.fixData raw
  have stored : (imu.readData raw).fixData.m_acc
      = ⟨(imu.readData raw).fixData.axFilter.mLastValue,
        -(imu.readData raw).fixData.ayFilter.mLastValue,
        (imu.readData raw).fixData.azFilter.mLastValue⟩ :=
    rfl
  rw [stored, x, y, z, Ne, Point3D.mk.injEq, neg_eq_zero, filtered_eq_zero_iff,
    filtered_eq_zero_iff, filtered_eq_zero_iff, not_and_or, not_and_or]
  rfl

/-- The norm of the filtered acceleration is a divisor exactly if that is not zero. -/
theorem absolute_ne_zero_iff (exact : ReadsExactly) {point : Point3D ℝ}
    : point.absolute ≠ 0 ↔ point ≠ ⟨0, 0, 0⟩ := by
  rw [Point3D.absolute_eq exact]
  constructor
  · intro norm zero
    apply norm
    rw [zero]
    simp [Point3D.dotProduct]
  · intro nonzero
    exact (Real.sqrt_pos.mpr (Point3D.dotProduct_self_pos nonzero)).ne'

/-- In every run of updates no divisor is zero exactly if behind no reading all weighted
readings so far cancel out. Witness: the filters hold the weighted readings, and while they
do not vanish the estimate keeps a length.
-/
theorem divisors_nonzero_iff (exact : ReadsExactly) {readings : List RawReadings}
    (inRange : ∀ raw ∈ readings, raw.InRange)
    : imuUpdates.Always DivisorsNonzero (Imu.new : Imu ℝ) readings
      ↔ ∀ seen, seen <+: readings → seen ≠ [] → Accelerated seen := by
  constructor
  · intro nonzero seen initial nonempty
    obtain ⟨before, raw, rfl⟩ := (List.eq_nil_or_concat' seen).resolve_left nonempty
    have divisors := imuUpdates.always_iff_forall.mp nonzero before raw initial
    apply (m_acc_ne_zero_iff (run_filtersFollow before) raw).mp
    exact (absolute_ne_zero_iff exact).mp divisors.norm
  · intro accelerated
    have filteredNonzero
        : imuUpdates.Always (fun imu raw => (imu.readData raw).fixData.m_acc ≠ ⟨0, 0, 0⟩)
            (Imu.new : Imu ℝ) readings := by
      apply imuUpdates.always_iff_forall.mpr
      intro seen raw initial
      apply (m_acc_ne_zero_iff (run_filtersFollow seen) raw).mpr
      exact accelerated _ initial (by simp)
    have admitted :=
      imuUpdates.always_and.mpr
        ⟨(imuUpdates.always_inputs (Imu.new : Imu ℝ)).mpr inRange, filteredNonzero⟩
    apply admitted.of_invariant SoundEstimate new_sound
    intro imu raw sound ⟨inRange, nonzero⟩
    have kept := update_sound exact inRange nonzero sound
    refine ⟨⟨(absolute_ne_zero_iff exact).mpr nonzero, fun large => ?_, ?_⟩, kept⟩
    · linarith
    · have length := kept.1
      norm_num at length
      linarith

end

/-- A level start, and a jolt that almost cancels it. -/
theorem divisors_nonzero_jolt
    : letI := exactMath
      imuUpdates.Always DivisorsNonzero (Imu.new : Imu ℝ)
        [⟨⟨0, 0, 20⟩, ⟨0, 0, 0⟩⟩, ⟨⟨0, 0, -18⟩, ⟨-32768, 32767, -32768⟩⟩] := by
  let _ := exactMath
  apply (divisors_nonzero_iff exactMath_readsExactly ?_).mpr
  · intro seen initial
    have accelerated
        : ∀ seen ∈ List.inits [
              (⟨⟨0, 0, 20⟩, ⟨0, 0, 0⟩⟩ : RawReadings),
              ⟨⟨0, 0, -18⟩, ⟨-32768, 32767, -32768⟩⟩
            ],
            seen ≠ [] → Accelerated seen := by
      decide
    exact accelerated seen ((List.mem_inits seen _).mpr initial)
  · intro raw member
    simp only [List.mem_cons, List.not_mem_nil, or_false] at member
    rcases member with rfl | rfl
    · constructor <;> norm_num
    · constructor <;> norm_num

/-- A first reading in free fall: the norm is zero. -/
theorem divisors_not_nonzero
    : letI := exactMath
      ¬ imuUpdates.Always DivisorsNonzero (Imu.new : Imu ℝ) [⟨⟨0, 0, 0⟩, ⟨0, 0, 0⟩⟩] := by
  let _ := exactMath
  intro always
  have nonzero := (absolute_ne_zero_iff exactMath_readsExactly).mp always.1.norm
  have accelerated := (m_acc_ne_zero_iff (run_filtersFollow []) _).mp nonzero
  exact absurd accelerated (by decide)

end Cooboc.Inertial
