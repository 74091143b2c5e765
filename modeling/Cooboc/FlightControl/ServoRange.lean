import Cooboc.FlightControl.AttitudeEnvelope
import Cooboc.FlightControl.PidWindow
import Cooboc.FlightControl.YawError

/-! The range of what is written to the servos: every error in a window is bounded, so the
values that `work` converts to `int` stay far within its range.
-/

namespace Cooboc.FlightControl

open Cooboc.Foundations

variable {R : Type*}

/-- The values that `work` assigns to the `int` channels of the servo signal. -/
structure ServoCommand (R : Type*) where
  aileron : R
  elevator : R
  rudder : R

/-- All errors in the window are bounded, and the gains are those of the constructor. -/
structure PID.Bounded [Ring R] [LinearOrder R] (pid : PID R) (window : Nat) (kp ki : Int)
    (bound : R)
    : Prop where
  errors
    : ∃ errors, pid.Remembers window errors ∧ ∀ error ∈ errors, |error| ≤ bound
  proportional : pid.mKp = (kp : R)
  integral : pid.mKi = (ki : R)

/-- The attitude lies in the ranges of the attitude sources. -/
structure ImuAttitude.InRange [Field R] [LinearOrder R] [DoubleMath R]
    (attitude : ImuAttitude R)
    : Prop where
  pitch : |attitude.pitch| ≤ DoubleMath.PI
  roll : |attitude.roll| ≤ DoubleMath.PI
  heading : HeadingInRange attitude.heading

/-- A channel as it is decoded. -/
def DecodedChannel (channel : Int) : Prop := 0 ≤ channel ∧ channel ≤ 65535

instance decidableDecodedChannel (channel : Int) : Decidable (DecodedChannel channel) :=
  inferInstanceAs (Decidable (_ ∧ _))

/-- The attitude is in range, its roll has a cosine and a sine, and the channels are decoded
ones.
-/
structure Readings.InRange [Field R] [LinearOrder R] [DoubleMath R] (readings : Readings R)
    : Prop where
  attitude : readings.attitude.InRange
  cos : |DoubleMath.cos readings.attitude.roll| ≤ 1
  sin : |DoubleMath.sin readings.attitude.roll| ≤ 1
  aileron : DecodedChannel readings.rawServoSignal.aileron
  elevator : DecodedChannel readings.rawServoSignal.elevator
  rudder : DecodedChannel readings.rawServoSignal.rudder

/-- A call with readings in range, on controllers with the constructor's gains. -/
def LoopCall.InRange [Field R] [LinearOrder R] [DoubleMath R] : LoopCall R → Prop
  | .work task => task.readings.InRange
  | .setEnabled _ atReset currentAttitude =>
      atReset.attitude.InRange ∧ currentAttitude.InRange
  | .setTunning _ _ _ => False

/-- What the calls keep: bounded windows, bounded targets and a heading in range. -/
structure AttitudeController.Contained [Field R] [LinearOrder R] [DoubleMath R]
    (controller : AttitudeController R)
    : Prop where
  pitchPid : controller.mPitchPid.Bounded 1000 1000 10 8
  rollPid : controller.mRollPid.Bounded 500 600 5 8
  yawPid : controller.mYawPid.Bounded 10 3000 20 38
  targetPitch : |controller.mTargetPitch| ≤ DoubleMath.PI
  targetRoll : |controller.mTargetRoll| ≤ DoubleMath.PI
  targetYaw : |controller.mTargetYaw| ≤ 26
  heading : HeadingInRange controller.mLastHeading

section

variable [Field R] [LinearOrder R] [DoubleMath R]

/-- The values of one `work`, before they are converted. -/
def AttitudeController.servoCommand (controller : AttitudeController R)
    (readings : Readings R)
    : ServoCommand R :=
  let attitude := readings.attitude
  let rollDiff := (controller.mRollPid.updateError (controller.mTargetRoll - attitude.roll)).2
  let pitchDiff :=
    (controller.mPitchPid.updateError (controller.mTargetPitch - attitude.pitch)).2
  let yawDiff := (controller.mYawPid.updateError (controller.yawError attitude)).2
  let cosA := DoubleMath.cos attitude.roll
  let sinA := DoubleMath.sin attitude.roll
  let middle : R := (defaultServoValue : R)
  { aileron := middle + rollDiff
    elevator := middle - cosA * pitchDiff + yawDiff * sinA
    rudder := middle - sinA * pitchDiff + yawDiff * cosA }

/-- The value lies strictly between the least and the greatest `int`. -/
def InsideInt (value : R) : Prop :=
  ((-2147483648 : Int) : R) < value ∧ value < ((2147483647 : Int) : R)

/-- The channel is the value converted and constrained; the value is one that an `int` can
hold, and the channel a servo position.
-/
structure ConvertsTo (value : R) (channel : Int) : Prop where
  converted : channel = servoValue value
  inside : InsideInt value
  lower : 1000 ≤ channel
  upper : channel ≤ 2000

/-- Every override comes from values that an `int` can hold, and has servo positions on the
channels computed.
-/
def WritesInRange (loop : AttitudeLoop R) : LoopCall R → Prop
  | .work (.controller readings) =>
      ∀ servo, (loop.controllerWork readings).2 = some servo
        → ConvertsTo (loop.controller.servoCommand readings).aileron servo.aileron
          ∧ ConvertsTo (loop.controller.servoCommand readings).elevator servo.elevator
          ∧ ConvertsTo (loop.controller.servoCommand readings).rudder servo.rudder
  | _ => True

/-- A value that an `int` can hold is converted to a servo position. -/
theorem servoValue_converts {value : R} (inside : InsideInt value)
    : ConvertsTo value (servoValue value) := by
  have bounds := constraint_bounds (by decide : (1000 : Int) ≤ 2000) (DoubleMath.toInt value)
  exact ⟨rfl, inside, bounds.1, bounds.2⟩

end

-----------------------------------------------------------------------------------------
-- Windows
-----------------------------------------------------------------------------------------

section

variable [Field R] [LinearOrder R] [IsStrictOrderedRing R]

/-- The sum over a window of bounded errors. -/
theorem abs_latestSum_le {window : Nat} {errors : List R} {bound : R} (nonneg : 0 ≤ bound)
    (small : ∀ error ∈ errors, |error| ≤ bound)
    : |latestSum window errors| ≤ window * bound := by
  have taken : (errors.rtake window).length ≤ window := by
    rw [List.rtake, List.length_drop]
    omega
  have latest (error : R) (member : error ∈ errors.rtake window) : |error| ≤ bound :=
    small error ((List.drop_suffix _ _).mem member)
  calc |latestSum window errors|
      ≤ (errors.rtake window).length • bound := abs_sum_le_nsmul latest
    _ = (errors.rtake window).length * bound := nsmul_eq_mul _ _
    _ ≤ window * bound := mul_le_mul_of_nonneg_right (Nat.cast_le.mpr taken) nonneg

omit [IsStrictOrderedRing R] in
theorem PID.new_bounded (kp ki : Int) {window : Nat} (positive : 0 < window) (bound : R)
    : (PID.new (kp : R) (ki : R) 0 window).Bounded window kp ki bound where
  errors := ⟨[], PID.new_remembers _ _ _ positive, List.forall_mem_nil _⟩
  proportional := rfl
  integral := rfl

omit [IsStrictOrderedRing R] in
theorem PID.Bounded.reset {pid : PID R} {window : Nat} {kp ki : Int} {bound : R}
    (bounded : pid.Bounded window kp ki bound)
    : pid.reset.Bounded window kp ki bound := by
  obtain ⟨⟨errors, remembers, _⟩, proportional, integral⟩ := bounded
  exact ⟨⟨[], remembers.reset, List.forall_mem_nil _⟩, proportional, integral⟩

/-- A bounded error keeps the errors bounded, and the result is bounded as well.
Witness: the proportional part has one error, the integral part a window of them.
-/
theorem PID.Bounded.updateError {pid : PID R} {window : Nat} {kp ki : Int} {bound : R}
    (bounded : pid.Bounded window kp ki bound) (kpNonneg : 0 ≤ kp) (kiNonneg : 0 ≤ ki)
    {error : R} (small : |error| ≤ bound)
    : (pid.updateError error).1.Bounded window kp ki bound
      ∧ |(pid.updateError error).2| ≤ bound * kp + window * bound * ki := by
  obtain ⟨⟨errors, remembers, each⟩, proportional, integral⟩ := bounded
  obtain ⟨next, result⟩ := remembers.updateError error
  have eachNext : ∀ recorded ∈ errors ++ [error], |recorded| ≤ bound :=
    List.forall_mem_append.mpr ⟨each, List.forall_mem_singleton.mpr small⟩
  refine ⟨⟨⟨_, next, eachNext⟩, proportional, integral⟩, ?_⟩
  have kpCast : (0 : R) ≤ kp := Int.cast_nonneg kpNonneg
  have kiCast : (0 : R) ≤ ki := Int.cast_nonneg kiNonneg
  have window_le : |latestSum window (errors ++ [error])| ≤ window * bound :=
    abs_latestSum_le ((abs_nonneg error).trans small) eachNext
  rw [result, proportional, integral]
  calc |error * kp + latestSum window (errors ++ [error]) * ki|
      ≤ |error * kp| + |latestSum window (errors ++ [error]) * ki| := abs_add_le _ _
    _ = |error| * kp + |latestSum window (errors ++ [error])| * ki := by
        rw [abs_mul, abs_mul, abs_of_nonneg kpCast, abs_of_nonneg kiCast]
    _ ≤ bound * kp + window * bound * ki :=
        add_le_add (mul_le_mul_of_nonneg_right small kpCast)
          (mul_le_mul_of_nonneg_right window_le kiCast)

-----------------------------------------------------------------------------------------
-- Calls
-----------------------------------------------------------------------------------------

variable [DoubleMath R]

/-- A constrained target is at most half a turn. -/
theorem abs_constraint_le (exact : ExactMath R) (target : R)
    : |constraint target minAngle maxAngle| ≤ DoubleMath.PI := by
  have positive := exact.pi_pos
  have top : (maxAngle : R) = DoubleMath.PI / 3 := by
    unfold maxAngle
    push_cast
    ring
  have bottom : (minAngle : R) = -(DoubleMath.PI / 3) := by rw [minAngle_eq_neg, top]
  have range : (minAngle : R) ≤ maxAngle := by
    rw [bottom, top]
    linarith
  obtain ⟨lower, upper⟩ := constraint_bounds range target
  have below : (maxAngle : R) ≤ DoubleMath.PI := by
    rw [top]
    linarith
  have above : -DoubleMath.PI ≤ (minAngle : R) := by
    rw [bottom]
    linarith
  exact abs_le.mpr ⟨above.trans lower, upper.trans below⟩

omit [DoubleMath R] in
/-- A value not too far from the middle position lies inside the range of `int`. -/
theorem insideInt_of_near {value : R}
    (near : |value - ((defaultServoValue : Int) : R)| ≤ 400000)
    : InsideInt value := by
  have middle : ((defaultServoValue : Int) : R) = 1500 := Int.cast_ofNat 1500
  rw [middle] at near
  obtain ⟨lower, upper⟩ := abs_le.mp near
  rw [InsideInt]
  push_cast
  constructor <;> linarith

omit [DoubleMath R] in
/-- Two moderate values with factors of at most one, mixed into the middle position, stay
inside the range of `int`.
-/
theorem insideInt_mix {factor other first second : R} (factorBound : |factor| ≤ 1)
    (otherBound : |other| ≤ 1) (firstBound : |first| ≤ 200000) (secondBound : |second| ≤ 200000)
    : InsideInt (((defaultServoValue : Int) : R) - factor * first + second * other) := by
  have one : |factor * first| ≤ 200000 := by
    rw [abs_mul]
    exact (mul_le_of_le_one_left (abs_nonneg first) factorBound).trans firstBound
  have two : |second * other| ≤ 200000 := by
    rw [abs_mul]
    exact (mul_le_of_le_one_right (abs_nonneg second) otherBound).trans secondBound
  apply insideInt_of_near
  calc |((defaultServoValue : Int) : R) - factor * first + second * other
          - ((defaultServoValue : Int) : R)|
      = |second * other - factor * first| := by ring_nf
    _ ≤ |second * other| + |factor * first| := abs_sub _ _
    _ ≤ 200000 + 200000 := add_le_add two one
    _ = 400000 := by norm_num

/-- A target and a measured angle, each of at most half a turn, differ by less than 8. -/
theorem abs_error_le (exact : ExactMath R) {target angle : R}
    (targetBound : |target| ≤ DoubleMath.PI) (angleBound : |angle| ≤ DoubleMath.PI)
    : |target - angle| ≤ 8 := by
  have pi_lt := exact.pi_lt_four
  exact (abs_sub _ _).trans (by linarith)

/-- The yaw error is bounded, although the yaw target is not constrained. Witness: no
comparison lengthens a difference.
-/
theorem AttitudeController.Contained.yawError {controller : AttitudeController R}
    (contained : controller.Contained) (exact : ExactMath R) {attitude : ImuAttitude R}
    (heading : HeadingInRange attitude.heading)
    : |controller.yawError attitude| ≤ 38 := by
  have pi_pos := exact.pi_pos
  have pi_lt := exact.pi_lt_four
  have cycle : (0 : R) < fullCycle := by
    rw [fullCycle_eq]
    linarith
  have change : |attitude.heading - controller.mLastHeading| ≤ 12 := by
    obtain ⟨lower, upper⟩ := heading
    obtain ⟨lastLower, lastUpper⟩ := contained.heading
    rw [abs_le]
    constructor <;> linarith
  have target := contained.targetYaw
  have currentYaw := abs_cycleCompare_le cycle attitude.heading controller.mLastHeading
  calc |controller.yawError attitude|
      ≤ |controller.mTargetYaw
          - cycleCompare attitude.heading controller.mLastHeading fullCycle| :=
        abs_cycleCompare_le cycle _ _
    _ ≤ |controller.mTargetYaw|
          + |cycleCompare attitude.heading controller.mLastHeading fullCycle| :=
        abs_sub _ _
    _ ≤ 38 := by linarith

/-- A new controller is contained. -/
theorem AttitudeController.new_contained (exact : ExactMath R)
    : (AttitudeController.new : AttitudeController R).Contained := by
  have positive := exact.pi_pos
  have zero : |(0 : R)| ≤ DoubleMath.PI := by
    rw [abs_zero]
    exact positive.le
  refine ⟨PID.new_bounded 1000 10 (by decide) 8, PID.new_bounded 600 5 (by decide) 8,
    PID.new_bounded 3000 20 (by decide) 38, zero, zero, ?_, ?_⟩
  · change |(0 : R)| ≤ 26
    rw [abs_zero]
    norm_num
  · constructor
    · change -DoubleMath.PI ≤ (0 : R)
      linarith
    · change (0 : R) ≤ 2 * DoubleMath.PI
      linarith

omit [IsStrictOrderedRing R] in
theorem AttitudeController.Contained.setEnabled {controller : AttitudeController R}
    (contained : controller.Contained) (isEnabled : Bool)
    : (controller.setEnabled isEnabled).Contained := by
  obtain ⟨pitchPid, rollPid, yawPid, targetPitch, targetRoll, targetYaw, heading⟩ := contained
  exact ⟨pitchPid, rollPid, yawPid, targetPitch, targetRoll, targetYaw, heading⟩

/-- A takeover at an attitude in range keeps the controller contained. -/
theorem AttitudeLoop.onTakeover_contained {loop : AttitudeLoop R}
    (contained : loop.controller.Contained) {atReset : Readings R}
    (reset : atReset.attitude.InRange) {currentAttitude : ImuAttitude R}
    (current : currentAttitude.InRange)
    : (loop.onTakeover atReset currentAttitude).controller.Contained := by
  refine ⟨contained.pitchPid.reset, contained.rollPid.reset, contained.yawPid.reset,
    current.pitch, current.roll, ?_, reset.heading⟩
  change |(0 : R)| ≤ 26
  rw [abs_zero]
  norm_num

/-- `navigate` keeps the controller contained: two targets are constrained, the yaw target is
a single step.
-/
theorem AttitudeLoop.navigate_contained (exact : ExactMath R) {loop : AttitudeLoop R}
    (contained : loop.controller.Contained) {readings : Readings R}
    (inRange : readings.InRange)
    : (loop.navigate readings).controller.Contained := by
  obtain ⟨pitchPid, rollPid, yawPid, _, _, _, heading⟩ := contained
  refine ⟨pitchPid, rollPid, yawPid, abs_constraint_le exact _, abs_constraint_le exact _, ?_,
    heading⟩
  have rudder := abs_calculateTargetDiff_le (R := R) inRange.rudder.1 inRange.rudder.2
  have elevator := abs_calculateTargetDiff_le (R := R) inRange.elevator.1 inRange.elevator.2
  have step := abs_mul_sub_mul_le inRange.cos inRange.sin rudder elevator
  exact step.trans (by norm_num)

/-- The work of a contained controller converts values inside the range of `int` only, and
keeps it contained. Witness: each of the three controllers is asked with a bounded error, so
the sums stay below 250000.
-/
theorem AttitudeLoop.controllerWork_contained (exact : ExactMath R) {loop : AttitudeLoop R}
    (contained : loop.controller.Contained) {readings : Readings R}
    (inRange : readings.InRange)
    : WritesInRange loop (.work (.controller readings))
      ∧ (loop.controllerWork readings).1.controller.Contained := by
  have yawError := contained.yawError exact inRange.attitude.heading
  obtain ⟨pitchPid, rollPid, yawPid, targetPitch, targetRoll, targetYaw, heading⟩ := contained
  obtain ⟨pitchNext, pitchDiff⟩ := pitchPid.updateError (by decide) (by decide)
    (abs_error_le exact targetPitch inRange.attitude.pitch)
  obtain ⟨rollNext, rollDiff⟩ := rollPid.updateError (by decide) (by decide)
    (abs_error_le exact targetRoll inRange.attitude.roll)
  obtain ⟨yawNext, yawDiff⟩ := yawPid.updateError (by decide) (by decide) yawError
  have pitchBound := pitchDiff.trans (show _ ≤ (200000 : R) by norm_num)
  have rollBound := rollDiff.trans (show _ ≤ (200000 : R) by norm_num)
  have yawBound := yawDiff.trans (show _ ≤ (200000 : R) by norm_num)
  constructor
  · intro servo emitted
    have written : servo.aileron = servoValue (loop.controller.servoCommand readings).aileron
        ∧ servo.elevator = servoValue (loop.controller.servoCommand readings).elevator
        ∧ servo.rudder = servoValue (loop.controller.servoCommand readings).rudder := by
      simp only [AttitudeLoop.controllerWork, AttitudeController.work] at emitted
      split at emitted
      · obtain rfl := Option.some.inj emitted
        exact ⟨rfl, rfl, rfl⟩
      · cases emitted
    obtain ⟨aileron, elevator, rudder⟩ := written
    rw [aileron, elevator, rudder]
    refine ⟨servoValue_converts ?_, servoValue_converts ?_, servoValue_converts ?_⟩
    · apply insideInt_of_near
      rw [AttitudeController.servoCommand, add_sub_cancel_left]
      linarith
    · exact insideInt_mix inRange.cos inRange.sin pitchBound yawBound
    · exact insideInt_mix inRange.sin inRange.cos pitchBound yawBound
  · simp only [AttitudeLoop.controllerWork, AttitudeController.work]
    split
    · exact ⟨pitchNext, rollNext, yawNext, targetPitch, targetRoll, targetYaw,
        inRange.attitude.heading⟩
    · exact ⟨pitchPid, rollPid, yawPid, targetPitch, targetRoll, targetYaw, heading⟩

/-- A call in range keeps the controller contained and writes in range. Witness: call by
call.
-/
theorem AttitudeLoop.call_contained (exact : ExactMath R) {loop : AttitudeLoop R}
    (contained : loop.controller.Contained) {call : LoopCall R} (inRange : call.InRange)
    : WritesInRange loop call ∧ (loop.call call).1.controller.Contained := by
  cases call with
  | work task =>
      cases task with
      | navigator readings =>
          refine ⟨trivial, ?_⟩
          simp only [AttitudeLoop.call, AttitudeLoop.work, AttitudeLoop.navigatorWork]
          split
          · exact AttitudeLoop.navigate_contained exact contained inRange
          · exact contained
      | controller readings => exact AttitudeLoop.controllerWork_contained exact contained inRange
  | setEnabled isEnabled atReset currentAttitude =>
      refine ⟨trivial, ?_⟩
      simp only [AttitudeLoop.call, AttitudeLoop.setEnabled]
      split
      · exact contained
      · exact AttitudeLoop.onTakeover_contained contained inRange.1 inRange.2
      · exact contained.setEnabled false
  | setTunning p i d => cases inRange

/-- In every run of takeovers, releases and works with readings in range, each value that
`work` converts lies inside the range of `int`, and every override has servo positions on
the channels computed. Witness: the windows, the targets and the heading stay bounded, call
by call.
-/
theorem servos_in_range (exact : ExactMath R) {calls : List (LoopCall R)}
    (inRange : ∀ call ∈ calls, call.InRange)
    : attitudeLoop.Always WritesInRange (AttitudeLoop.new : AttitudeLoop R) calls :=
  ((attitudeLoop.always_inputs AttitudeLoop.new).mpr inRange).of_invariant
    (fun loop => loop.controller.Contained) (AttitudeController.new_contained exact)
    (fun _ _ contained inRange => AttitudeLoop.call_contained exact contained inRange)

end

/-- A takeover with all sticks at the marker of an unused channel. -/
theorem servos_in_range_unused
    : let _ := levelMath
      let readings : Readings ℚ := ⟨⟨65535, 65535, 65535, 65535, 65535, 65535, 65535, 65535⟩,
        ⟨1, -3, 6⟩⟩
      attitudeLoop.Always WritesInRange (AttitudeLoop.new : AttitudeLoop ℚ)
        [
          .setEnabled true readings readings.attitude,
          .work (.navigator readings),
          .work (.controller readings)
        ] := by
  intro _ readings
  have attitude : readings.attitude.InRange :=
    ⟨by decide +kernel, by decide +kernel, by decide +kernel, by decide +kernel⟩
  have inRange : readings.InRange :=
    ⟨attitude, by decide +kernel, by decide +kernel, by decide, by decide, by decide⟩
  apply servos_in_range levelMath_exact
  simp only [List.forall_mem_cons]
  exact ⟨⟨attitude, attitude⟩, inRange, inRange, List.forall_mem_nil _⟩

end Cooboc.FlightControl
