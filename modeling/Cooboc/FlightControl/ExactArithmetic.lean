import Mathlib.Algebra.Order.Field.Basic
import Mathlib.Tactic.Linarith
import Mathlib.Tactic.NormNum
import Mathlib.Tactic.Ring
import Cooboc.FlightControl.TakeoverHistory

/-! The shared arithmetic of the flight code read exactly: over any ordered field,
`constraint` clamps, `cycleCompare` folds a difference by at most one cycle, and a stick
commands a bounded step.
-/

namespace Cooboc.FlightControl

/-- What a task reads. -/
def LoopWork.readings {R : Type*} : LoopWork R → Readings R
  | .navigator readings => readings
  | .controller readings => readings

variable {R : Type*} [Field R] [LinearOrder R] [IsStrictOrderedRing R]

/-- What is used of the constant `PI` and of the conversion to `int`: the constant lies
between 0 and 4, and an integer in the range of an `int` is converted to itself.
-/
structure ExactMath (R : Type*) [Field R] [LinearOrder R] [DoubleMath R] : Prop where
  pi_pos : (0 : R) < DoubleMath.PI
  pi_lt_four : (DoubleMath.PI : R) < 4
  toInt_intCast
    : ∀ value : Int,
        -2 ^ 31 ≤ value → value < 2 ^ 31 → DoubleMath.toInt (value : R) = value

/-- The rational numbers with level wings are exact. -/
theorem levelMath_exact : @ExactMath ℚ _ _ levelMath := by
  refine @ExactMath.mk ℚ _ _ levelMath ?_ ?_ (fun value _ _ => Int.tdiv_one value)
  · decide +kernel
  · decide +kernel

theorem constraint_eq_self {α : Type*} [LinearOrder α] {x minx maxx : α} (lower : minx ≤ x)
    (upper : x ≤ maxx)
    : constraint x minx maxx = x := by
  rw [constraint, if_neg (not_lt.mpr lower), if_neg (not_lt.mpr upper)]

-----------------------------------------------------------------------------------------
-- One fold
-----------------------------------------------------------------------------------------

omit [IsStrictOrderedRing R] in
/-- The comparison is the difference, moved by a cycle, back by one, or not at all. -/
theorem cycleCompare_eq (target current cycleSize : R)
    : ∃ turns : Int,
        cycleCompare target current cycleSize = target - current + turns * cycleSize := by
  simp only [cycleCompare]
  split_ifs
  · exact ⟨-1, by push_cast; ring⟩
  · exact ⟨1, by push_cast; ring⟩
  · exact ⟨0, by push_cast; ring⟩

/-- The fold brings the difference within half a cycle exactly if it is within three halves.
Witness: a difference of more than half a cycle is moved towards zero, once.
-/
theorem abs_cycleCompare_le_iff {target current cycleSize : R} (positive : 0 < cycleSize)
    : |cycleCompare target current cycleSize| ≤ cycleSize / 2
      ↔ |target - current| ≤ 3 * (cycleSize / 2) := by
  simp only [cycleCompare, fabs_eq_abs, Int.cast_ofNat]
  generalize target - current = difference
  split_ifs with far ahead
  · rw [abs_of_pos ahead] at far ⊢
    rw [abs_le]
    constructor
    · intro ⟨_, near⟩
      linarith
    · intro near
      constructor <;> linarith
  · have behind := not_lt.mp ahead
    rw [abs_of_nonpos behind] at far ⊢
    rw [abs_le]
    constructor
    · intro ⟨near, _⟩
      linarith
    · intro near
      constructor <;> linarith
  · have near := not_lt.mp far
    exact iff_of_true near (near.trans (by linarith))

/-- The fold never lengthens the difference. -/
theorem abs_cycleCompare_le {cycleSize : R} (positive : 0 < cycleSize) (target current : R)
    : |cycleCompare target current cycleSize| ≤ |target - current| := by
  simp only [cycleCompare, fabs_eq_abs, Int.cast_ofNat]
  generalize target - current = difference
  split_ifs with far ahead
  · rw [abs_of_pos ahead] at far ⊢
    rw [abs_le]
    constructor <;> linarith
  · have behind := not_lt.mp ahead
    rw [abs_of_nonpos behind] at far ⊢
    rw [abs_le]
    constructor <;> linarith
  · exact le_refl _

theorem cycleCompare_self {cycleSize : R} (positive : 0 < cycleSize) (value : R)
    : cycleCompare value value cycleSize = 0 := by
  have bound := abs_cycleCompare_le positive value value
  rw [sub_self, abs_zero] at bound
  exact abs_nonpos_iff.mp bound

-----------------------------------------------------------------------------------------
-- Sticks
-----------------------------------------------------------------------------------------

omit [LinearOrder R] [IsStrictOrderedRing R] in
/-- A stick in the dead zone commands nothing. -/
theorem calculateTargetDiff_centred {servoValue : Int} (above : -50 < servoValue - 1500)
    (below : servoValue - 1500 < 50)
    : (calculateTargetDiff servoValue : R) = 0 := by
  have dead : -50 < servoValue - defaultServoValue ∧ servoValue - defaultServoValue < 50 :=
    ⟨above, below⟩
  simp [calculateTargetDiff, dead]

omit [LinearOrder R] [IsStrictOrderedRing R] in
/-- A stick commands its distance from the middle, or nothing. -/
theorem calculateTargetDiff_eq (servoValue : Int)
    : ∃ stick : Int,
        (stick = 0 ∨ stick = servoValue - 1500)
        ∧ (calculateTargetDiff servoValue : R) = stick / 5000 := by
  simp only [calculateTargetDiff, defaultServoValue, Int.cast_ofNat]
  refine ⟨_, ?_, rfl⟩
  by_cases dead : -50 < servoValue - 1500 ∧ servoValue - 1500 < 50
  · exact .inl (if_pos dead)
  · exact .inr (if_neg dead)

theorem abs_calculateTargetDiff_le {servoValue : Int} (nonneg : 0 ≤ servoValue)
    (below : servoValue ≤ 65535)
    : |(calculateTargetDiff servoValue : R)| ≤ 13 := by
  obtain ⟨stick, range, commanded⟩ := calculateTargetDiff_eq (R := R) servoValue
  have lower : (-65000 : R) ≤ stick := by exact_mod_cast (by omega : -65000 ≤ stick)
  have upper : (stick : R) ≤ 65000 := by exact_mod_cast (by omega : stick ≤ 65000)
  have size : |(5000 : R)| = 5000 := abs_of_pos (by norm_num)
  rw [commanded, abs_div, size, div_le_iff₀ (by norm_num), abs_le]
  constructor <;> linarith

/-- A combination of two bounded steps with factors of at most one. -/
theorem abs_mul_sub_mul_le {cosA sinA first second bound : R} (cosBound : |cosA| ≤ 1)
    (sinBound : |sinA| ≤ 1) (firstBound : |first| ≤ bound) (secondBound : |second| ≤ bound)
    : |cosA * first - sinA * second| ≤ 2 * bound := by
  have one := mul_le_mul cosBound firstBound (abs_nonneg first) zero_le_one
  have two := mul_le_mul sinBound secondBound (abs_nonneg second) zero_le_one
  calc |cosA * first - sinA * second|
      ≤ |cosA * first| + |sinA * second| := abs_sub _ _
    _ ≤ 2 * bound := by
        rw [abs_mul, abs_mul]
        linarith

variable [DoubleMath R]

theorem fullCycle_half : (fullCycle : R) / 2 = DoubleMath.PI := by
  simp [fullCycle]

theorem minAngle_eq_neg : (minAngle : R) = -maxAngle := by
  unfold minAngle maxAngle
  ring

end Cooboc.FlightControl
