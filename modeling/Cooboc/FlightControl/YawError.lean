import Cooboc.FlightControl.ExactArithmetic
import Cooboc.FlightControl.TakeoverHistory

/-! The yaw error as an angle: two comparisons in a row fold by one turn each, which makes
the error the shortest angle as long as the target is not too far from the change of the
heading.
-/

namespace Cooboc.FlightControl

open Cooboc.Foundations

variable {R : Type*} [Field R] [LinearOrder R] [IsStrictOrderedRing R] [DoubleMath R]

/-- The yaw error is at most half a turn, and it is the target less the change of the
heading, up to whole turns.
-/
structure AttitudeController.YawShortest (controller : AttitudeController R)
    (attitude : ImuAttitude R)
    : Prop where
  short : |controller.yawError attitude| ≤ DoubleMath.PI
  congruent
    : ∃ turns : Int,
        controller.yawError attitude
        = controller.mTargetYaw - (attitude.heading - controller.mLastHeading)
          + turns * (2 * DoubleMath.PI)

/-- A change of the heading, taken the other way round if it is more than half a turn. -/
def foldedChange (change : R) : R :=
  if DoubleMath.PI < change then
    change - 2 * DoubleMath.PI
  else if change < -DoubleMath.PI then
    change + 2 * DoubleMath.PI
  else
    change

/-- The target lies within three half turns of the folded change. -/
def WithinOneFold (target change : R) : Prop :=
  |target - foldedChange change| ≤ 3 * DoubleMath.PI

instance decidableWithinOneFold (target change : R) : Decidable (WithinOneFold target change) :=
  inferInstanceAs (Decidable (_ ≤ _))

/-- An enabled controller that works finds the shortest yaw error. -/
def FindsShortestYaw (loop : AttitudeLoop R) : LoopWork R → Prop
  | .navigator _ => True
  | .controller readings =>
      loop.controller.mIsEnabled = true → loop.controller.YawShortest readings.attitude

/-- An enabled controller that works has its yaw target within one fold of the change of the
heading since it worked last.
-/
def TargetsWithinOneFold (loop : AttitudeLoop R) : LoopWork R → Prop
  | .navigator _ => True
  | .controller readings =>
      loop.controller.mIsEnabled = true
      → WithinOneFold loop.controller.mTargetYaw
          (readings.attitude.heading - loop.controller.mLastHeading)

omit [LinearOrder R] [IsStrictOrderedRing R] in
theorem fullCycle_eq : (fullCycle : R) = 2 * DoubleMath.PI := by
  rw [fullCycle, Int.cast_ofNat]

/-- The comparison of two headings is their difference, folded. -/
theorem cycleCompare_heading (exact : ExactMath R) (heading lastHeading : R)
    : cycleCompare heading lastHeading fullCycle = foldedChange (heading - lastHeading) := by
  have positive := exact.pi_pos
  simp only [cycleCompare, fabs_eq_abs, Int.cast_ofNat, fullCycle_half, foldedChange]
  rw [fullCycle_eq]
  generalize heading - lastHeading = change
  by_cases ahead : 0 < change
  · have forward : ¬ change < -DoubleMath.PI := by linarith
    rw [abs_of_pos ahead, if_pos ahead, if_neg forward]
  · have behind := not_lt.mp ahead
    have backward : ¬ DoubleMath.PI < change := by linarith
    rw [abs_of_nonpos behind, if_neg ahead, if_neg backward]
    exact if_congr lt_neg rfl rfl

omit [IsStrictOrderedRing R] in
/-- The yaw error is the target less the change of the heading, up to whole turns.
Witness: each of the two comparisons adds one turn at most.
-/
theorem AttitudeController.yawError_congruent (controller : AttitudeController R)
    (attitude : ImuAttitude R)
    : ∃ turns : Int,
        controller.yawError attitude
        = controller.mTargetYaw - (attitude.heading - controller.mLastHeading)
          + turns * (2 * DoubleMath.PI) := by
  obtain ⟨inner, changed⟩ :=
    cycleCompare_eq attitude.heading controller.mLastHeading (fullCycle : R)
  obtain ⟨outer, compared⟩ := cycleCompare_eq controller.mTargetYaw
    (cycleCompare attitude.heading controller.mLastHeading fullCycle) (fullCycle : R)
  refine ⟨outer - inner, ?_⟩
  simp only [AttitudeController.yawError]
  rw [compared, changed, fullCycle_eq]
  push_cast
  ring

/-- The yaw error is the shortest angle exactly if the target lies within one fold.
Witness: the outer comparison folds once, which is enough for three half turns.
-/
theorem AttitudeController.yawShortest_iff (exact : ExactMath R)
    (controller : AttitudeController R) (attitude : ImuAttitude R)
    : controller.YawShortest attitude
      ↔ WithinOneFold controller.mTargetYaw
          (attitude.heading - controller.mLastHeading) := by
  have cycle : (0 : R) < fullCycle := by
    have positive := exact.pi_pos
    rw [fullCycle_eq]
    linarith
  have folds : |controller.yawError attitude| ≤ fullCycle / 2
      ↔ |controller.mTargetYaw
          - cycleCompare attitude.heading controller.mLastHeading fullCycle|
        ≤ 3 * (fullCycle / 2) :=
    abs_cycleCompare_le_iff cycle
  rw [fullCycle_half, cycleCompare_heading exact] at folds
  constructor
  · intro shortest
    exact folds.mp shortest.short
  · intro within
    exact ⟨folds.mpr within, controller.yawError_congruent attitude⟩

/-- In every run of the two tasks, whatever the headings and the channels, every yaw error
is the shortest angle exactly if each time the yaw target is within one fold of the change
of the heading. Witness: task by task.
-/
theorem yawError_shortest_iff (exact : ExactMath R) (loop : AttitudeLoop R)
    (tasks : List (LoopWork R))
    : engagement.Always FindsShortestYaw loop tasks
      ↔ engagement.Always TargetsWithinOneFold loop tasks := by
  refine Machine.always_congr (fun _ => True) trivial (fun current task _ => ?_)
    (fun _ _ _ _ => trivial) tasks
  cases task with
  | navigator readings => exact Iff.rfl
  | controller readings =>
      exact imp_congr_right
        (fun _ => current.controller.yawShortest_iff exact readings.attitude)

/-- Headings within the ranges of the two sources and a target of at most a whole turn are
within one fold. Witness: the folded change is at most half a turn.
-/
theorem withinOneFold_of_target (exact : ExactMath R) {target heading lastHeading : R}
    (small : |target| ≤ 2 * DoubleMath.PI)
    (now : -DoubleMath.PI ≤ heading ∧ heading ≤ 2 * DoubleMath.PI)
    (before : -DoubleMath.PI ≤ lastHeading ∧ lastHeading ≤ 2 * DoubleMath.PI)
    : WithinOneFold target (heading - lastHeading) := by
  have positive := exact.pi_pos
  have folded : |foldedChange (heading - lastHeading)| ≤ DoubleMath.PI := by
    unfold foldedChange
    split_ifs with ahead behind
    · rw [abs_le]
      constructor <;> linarith
    · rw [abs_le]
      constructor <;> linarith
    · exact abs_le.mpr ⟨not_lt.mp behind, not_lt.mp ahead⟩
  exact (abs_sub _ _).trans (by linarith)

-----------------------------------------------------------------------------------------
-- Sticks in their ordinary range
-----------------------------------------------------------------------------------------

/-- A heading within the ranges of the two attitude sources. -/
def HeadingInRange (heading : R) : Prop :=
  -DoubleMath.PI ≤ heading ∧ heading ≤ 2 * DoubleMath.PI

/-- The heading is in range, the roll has a cosine and a sine, and rudder and elevator
command at most half a turn.
-/
structure Readings.Ordinary (readings : Readings R) : Prop where
  heading : HeadingInRange readings.attitude.heading
  cos : |DoubleMath.cos readings.attitude.roll| ≤ 1
  sin : |DoubleMath.sin readings.attitude.roll| ≤ 1
  rudder : |(calculateTargetDiff readings.rawServoSignal.rudder : R)| ≤ DoubleMath.PI
  elevator : |(calculateTargetDiff readings.rawServoSignal.elevator : R)| ≤ DoubleMath.PI

/-- The yaw target is at most a whole turn, and the heading remembered is in range. -/
structure AttitudeLoop.YawBounded (loop : AttitudeLoop R) : Prop where
  target : |loop.controller.mTargetYaw| ≤ 2 * DoubleMath.PI
  heading : HeadingInRange loop.controller.mLastHeading

/-- A takeover starts without a yaw target. -/
theorem AttitudeLoop.takeover_yawBounded (exact : ExactMath R) (loop : AttitudeLoop R)
    {atReset : Readings R} (heading : HeadingInRange atReset.attitude.heading)
    (currentAttitude : ImuAttitude R)
    : (loop.takeover atReset currentAttitude).YawBounded := by
  have positive := exact.pi_pos
  have target : |(loop.takeover atReset currentAttitude).controller.mTargetYaw| = 0 := abs_zero
  exact ⟨by rw [target]; linarith, heading⟩

/-- Ordinary readings keep the yaw target within a whole turn. -/
theorem AttitudeLoop.YawBounded.work {loop : AttitudeLoop R} (bounded : loop.YawBounded)
    {task : LoopWork R} (ordinary : task.readings.Ordinary)
    : (loop.work task).1.YawBounded := by
  cases task with
  | navigator readings =>
      simp only [AttitudeLoop.work, AttitudeLoop.navigatorWork]
      split
      · exact ⟨abs_mul_sub_mul_le ordinary.cos ordinary.sin ordinary.rudder ordinary.elevator,
          bounded.heading⟩
      · exact bounded
  | controller readings =>
      simp only [AttitudeLoop.work, AttitudeLoop.controllerWork, AttitudeController.work]
      split
      · exact ⟨bounded.target, ordinary.heading⟩
      · exact bounded

/-- With ordinary readings every yaw error after a takeover is the shortest angle. -/
theorem findsShortestYaw_of_ordinary (exact : ExactMath R) (loop : AttitudeLoop R)
    {atReset : Readings R} (heading : HeadingInRange atReset.attitude.heading)
    (currentAttitude : ImuAttitude R) {tasks : List (LoopWork R)}
    (ordinary : ∀ task ∈ tasks, task.readings.Ordinary)
    : engagement.Always FindsShortestYaw (loop.takeover atReset currentAttitude) tasks := by
  apply ((engagement.always_inputs _).mpr ordinary).of_invariant AttitudeLoop.YawBounded
    (loop.takeover_yawBounded exact heading currentAttitude)
  intro current task bounded ordinary
  refine ⟨?_, bounded.work ordinary⟩
  cases task with
  | navigator readings => trivial
  | controller readings =>
      intro _
      apply (current.controller.yawShortest_iff exact readings.attitude).mpr
      exact withinOneFold_of_target exact bounded.target ordinary.heading bounded.heading

/-- A heading that jumps by more than a turn when the attitude source changes, with the
rudder at its stop.
-/
theorem yawError_shortest_jump
    : let _ := levelMath
      let before : Readings ℚ := ⟨{ rudder := 2000 }, ⟨0, 0, 6⟩⟩
      let after : Readings ℚ := ⟨{ rudder := 2000 }, ⟨0, 0, -3⟩⟩
      engagement.Always FindsShortestYaw
        (AttitudeLoop.new.takeover before before.attitude)
        [.navigator before, .controller after, .controller before] := by
  intro _ before after
  apply (yawError_shortest_iff levelMath_exact _ _).mpr
  refine ⟨trivial, fun _ => ?_, fun _ => ?_, trivial⟩
  · decide +kernel
  · decide +kernel

/-- The marker of an unused channel as rudder: the yaw error is more than half a turn. -/
theorem yawError_not_shortest
    : let _ := levelMath
      let readings : Readings ℚ := ⟨{ rudder := 65535 }, ⟨0, 0, 0⟩⟩
      ¬ engagement.Always FindsShortestYaw
          (AttitudeLoop.new.takeover readings readings.attitude)
          [.navigator readings, .controller readings] := by
  intro _ readings always
  have shortest := always.2.1 rfl
  exact absurd shortest.short (by decide +kernel)

end Cooboc.FlightControl
