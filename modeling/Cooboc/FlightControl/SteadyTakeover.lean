import Cooboc.FlightControl.AttitudeEnvelope
import Cooboc.FlightControl.ExactArithmetic
import Cooboc.FlightControl.PidWindow

/-! A takeover in steady flight: while the attitude stays and the sticks are centred, the
targets stay as well and the surfaces stay in their middle positions.
-/

namespace Cooboc.FlightControl

open Cooboc.Foundations

variable {R : Type*}

/-- A stick strictly within 50 of its middle position. -/
def Centred (stick : Int) : Prop := -50 < stick - 1500 ∧ stick - 1500 < 50

instance decidableCentred (stick : Int) : Decidable (Centred stick) :=
  inferInstanceAs (Decidable (_ ∧ _))

/-- The attitude is the given one, and the three sticks are centred; the other channels may
have any values.
-/
structure Readings.Steady (attitude : ImuAttitude R) (readings : Readings R) : Prop where
  attitude : readings.attitude = attitude
  aileron : Centred readings.rawServoSignal.aileron
  elevator : Centred readings.rawServoSignal.elevator
  rudder : Centred readings.rawServoSignal.rudder

/-- The targets of the navigator and of the controller are the attitude, without yaw. -/
structure AttitudeLoop.HoldsTargets [Zero R] (attitude : ImuAttitude R) (loop : AttitudeLoop R)
    : Prop where
  pitch : loop.navigator.mPitchTarget = attitude.pitch
  roll : loop.navigator.mRollTarget = attitude.roll
  yaw : loop.navigator.mYawTarget = 0
  targetPitch : loop.controller.mTargetPitch = attitude.pitch
  targetRoll : loop.controller.mTargetRoll = attitude.roll
  targetYaw : loop.controller.mTargetYaw = 0

/-- The stabilised channels are in their middle positions. -/
structure ServoSignal.Level (signal : ServoSignal) : Prop where
  aileron : signal.aileron = 1500
  elevator : signal.elevator = 1500
  rudder : signal.rudder = 1500

/-- All errors that the controller remembers are zero. -/
def PID.Idle [Zero R] (pid : PID R) (window : Nat) : Prop :=
  ∃ count, pid.Remembers window (List.replicate count 0)

theorem PID.Sized.reset_idle [Zero R] {pid : PID R} {window : Nat} (sized : pid.Sized window)
    (positive : 0 < window)
    : pid.reset.Idle window := by
  refine ⟨0, ?_⟩
  rw [PID.reset_eq_new sized]
  exact PID.new_remembers _ _ _ positive

/-- Without an error an idle controller commands nothing and stays idle. -/
theorem PID.Idle.updateError [NonUnitalNonAssocSemiring R] {pid : PID R} {window : Nat}
    (idle : pid.Idle window)
    : (pid.updateError 0).1.Idle window ∧ (pid.updateError 0).2 = 0 := by
  obtain ⟨count, remembers⟩ := idle
  obtain ⟨next, result⟩ := remembers.updateError 0
  rw [← List.replicate_succ'] at next result
  have nothing : latestSum window (List.replicate (count + 1) (0 : R)) = 0 := by
    rw [latestSum, List.rtake, List.drop_replicate, List.sum_replicate, nsmul_zero]
  refine ⟨⟨count + 1, next⟩, ?_⟩
  rw [result, nothing, zero_mul, zero_mul, add_zero]

/-- What the tasks keep in steady flight. -/
structure AttitudeLoop.Settled [Zero R] (attitude : ImuAttitude R) (loop : AttitudeLoop R)
    : Prop where
  targets : loop.HoldsTargets attitude
  heading : loop.controller.mLastHeading = attitude.heading
  pitchPid : loop.controller.mPitchPid.Idle 1000
  rollPid : loop.controller.mRollPid.Idle 500
  yawPid : loop.controller.mYawPid.Idle 10

theorem AttitudeLoop.takeover_settled [Zero R] {loop : AttitudeLoop R}
    (windowed : loop.controller.Windowed) (signal : ServoSignal) (attitude : ImuAttitude R)
    : (loop.takeover ⟨signal, attitude⟩ attitude).Settled attitude where
  targets := ⟨rfl, rfl, rfl, rfl, rfl, rfl⟩
  heading := rfl
  pitchPid := windowed.pitch.reset_idle (by decide)
  rollPid := windowed.roll.reset_idle (by decide)
  yawPid := windowed.yaw.reset_idle (by decide)

variable [Field R] [LinearOrder R] [IsStrictOrderedRing R] [DoubleMath R]

omit [IsStrictOrderedRing R] in
/-- Centred sticks leave settled targets alone. Witness: every stick term is zero, and the
clamps do not touch an attitude within the envelope.
-/
theorem AttitudeLoop.Settled.navigate {attitude : ImuAttitude R} {loop : AttitudeLoop R}
    (settled : loop.Settled attitude) (pitch : WithinEnvelope attitude.pitch)
    (roll : WithinEnvelope attitude.roll) {readings : Readings R}
    (steady : readings.Steady attitude)
    : (loop.navigate readings).Settled attitude := by
  obtain ⟨targets, heading, pitchPid, rollPid, yawPid⟩ := settled
  have aileron : (calculateTargetDiff readings.rawServoSignal.aileron : R) = 0 :=
    calculateTargetDiff_centred steady.aileron.1 steady.aileron.2
  have elevator : (calculateTargetDiff readings.rawServoSignal.elevator : R) = 0 :=
    calculateTargetDiff_centred steady.elevator.1 steady.elevator.2
  have rudder : (calculateTargetDiff readings.rawServoSignal.rudder : R) = 0 :=
    calculateTargetDiff_centred steady.rudder.1 steady.rudder.2
  have pitchKept := constraint_eq_self pitch.1 pitch.2
  have rollKept := constraint_eq_self roll.1 roll.2
  refine ⟨?_, heading, pitchPid, rollPid, yawPid⟩
  constructor <;>
    simp only [AttitudeLoop.navigate, AttitudeController.setTargetAttitude, aileron, elevator,
      rudder, targets.pitch, targets.roll, mul_zero, sub_zero, add_zero, pitchKept, rollKept]

/-- A settled controller writes the middle positions and stays settled. Witness: all three
errors are zero, and so is what the controllers add up.
-/
theorem AttitudeLoop.Settled.controllerWork (exact : ExactMath R)
    {attitude : ImuAttitude R} {loop : AttitudeLoop R} (settled : loop.Settled attitude)
    {readings : Readings R} (steady : readings.Steady attitude)
    : (loop.controllerWork readings).1.Settled attitude
      ∧ ∀ servo, (loop.controllerWork readings).2 = some servo → servo.Level := by
  obtain ⟨targets, heading, pitchPid, rollPid, yawPid⟩ := settled
  have cycle : (0 : R) < fullCycle := by
    have half := fullCycle_half (R := R)
    have positive := exact.pi_pos
    linarith
  have yawError : loop.controller.yawError readings.attitude = 0 := by
    simp only [AttitudeController.yawError, heading, steady.attitude, targets.targetYaw,
      cycleCompare_self cycle]
  have middle : servoValue ((defaultServoValue : Int) : R) = 1500 := by
    rw [servoValue, exact.toInt_intCast _ (by decide) (by decide)]
    decide
  have rollError : loop.controller.mTargetRoll - readings.attitude.roll = 0 := by
    rw [targets.targetRoll, steady.attitude, sub_self]
  have pitchError : loop.controller.mTargetPitch - readings.attitude.pitch = 0 := by
    rw [targets.targetPitch, steady.attitude, sub_self]
  obtain ⟨pitchNext, pitchDiff⟩ := pitchPid.updateError
  obtain ⟨rollNext, rollDiff⟩ := rollPid.updateError
  obtain ⟨yawNext, yawDiff⟩ := yawPid.updateError
  simp only [AttitudeLoop.controllerWork, AttitudeController.work, rollError, pitchError,
    yawError, pitchDiff, rollDiff, yawDiff, mul_zero, zero_mul, sub_zero, add_zero, middle]
  cases loop.controller.mIsEnabled with
  | false =>
      refine ⟨⟨targets, heading, pitchPid, rollPid, yawPid⟩, fun servo emitted => ?_⟩
      cases emitted
  | true =>
      refine ⟨⟨?_, congrArg ImuAttitude.heading steady.attitude, pitchNext, rollNext,
        yawNext⟩, fun servo emitted => ?_⟩
      · exact ⟨targets.pitch, targets.roll, targets.yaw, targets.targetPitch,
          targets.targetRoll, targets.targetYaw⟩
      · obtain rfl := Option.some.inj emitted
        exact ⟨rfl, rfl, rfl⟩

/-- A task keeps a settled loop settled, and writes only middle positions. -/
theorem AttitudeLoop.Settled.work (exact : ExactMath R) {attitude : ImuAttitude R}
    {loop : AttitudeLoop R} (settled : loop.Settled attitude)
    (pitch : WithinEnvelope attitude.pitch) (roll : WithinEnvelope attitude.roll)
    {task : LoopWork R} (steady : task.readings.Steady attitude)
    : (loop.work task).1.Settled attitude
      ∧ ∀ servo, (loop.work task).2 = some servo → servo.Level := by
  cases task with
  | navigator readings =>
      refine ⟨?_, fun servo emitted => by cases emitted⟩
      simp only [AttitudeLoop.work, AttitudeLoop.navigatorWork]
      split
      · exact settled.navigate pitch roll steady
      · exact settled
  | controller readings => exact settled.controllerWork exact steady

/-- A takeover in steady flight holds: after it, and as long as the attitude stays as it was
and the sticks stay centred, the targets are that attitude without yaw, and every override
has the surfaces in the middle, in whatever order the two tasks work. Witness: a takeover
settles the loop, and every task keeps it settled.
-/
theorem steady_takeover_holds (exact : ExactMath R) {loop : AttitudeLoop R}
    (windowed : loop.controller.Windowed) (signal : ServoSignal) {attitude : ImuAttitude R}
    (pitch : WithinEnvelope attitude.pitch) (roll : WithinEnvelope attitude.roll)
    {tasks : List (LoopWork R)} (steady : ∀ task ∈ tasks, task.readings.Steady attitude)
    : let taken := loop.takeover ⟨signal, attitude⟩ attitude
      engagement.Throughout (AttitudeLoop.HoldsTargets attitude) taken tasks
      ∧ engagement.Always
          (fun current task =>
            ∀ servo, (engagement.step current task).2 = some servo → servo.Level)
          taken tasks := by
  intro taken
  have settled : taken.Settled attitude :=
    AttitudeLoop.takeover_settled windowed signal attitude
  have admitted := (engagement.always_inputs taken).mpr steady
  have step (current : AttitudeLoop R) (task : LoopWork R)
      (settled : current.Settled attitude) (steady : task.readings.Steady attitude) :=
    settled.work exact pitch roll steady
  constructor
  · intro seen initial
    have holds := admitted.throughout (AttitudeLoop.Settled attitude) settled
      (fun current task settled steady => (step current task settled steady).1)
    exact (holds seen initial).targets
  · exact admitted.of_invariant (AttitudeLoop.Settled attitude) settled
      (fun current task settled steady => (step current task settled steady).symm)

/-- A takeover in a steady climb in a bank, with sticks a little off their middle. -/
theorem steady_takeover_holds_bank
    : let _ := levelMath
      let attitude : ImuAttitude ℚ := ⟨1 / 4, -1 / 2, 3⟩
      let signal : ServoSignal := { aileron := 1549, elevator := 1451, throttle := 2000 }
      let tasks : List (LoopWork ℚ) := [
          .controller ⟨signal, attitude⟩,
          .navigator ⟨signal, attitude⟩,
          .controller ⟨signal, attitude⟩
        ]
      let taken := AttitudeLoop.new.takeover ⟨{}, attitude⟩ attitude
      engagement.Throughout (AttitudeLoop.HoldsTargets attitude) taken tasks
      ∧ engagement.Always
          (fun current task =>
            ∀ servo, (engagement.step current task).2 = some servo → servo.Level)
          taken tasks := by
  intro _ attitude signal tasks taken
  have within : WithinEnvelope attitude.pitch ∧ WithinEnvelope attitude.roll :=
    ⟨⟨by decide +kernel, by decide +kernel⟩, ⟨by decide +kernel, by decide +kernel⟩⟩
  have steady : ∀ task ∈ tasks, task.readings.Steady attitude := by
    simp only [tasks, List.forall_mem_cons]
    have centred : Readings.Steady attitude ⟨signal, attitude⟩ :=
      ⟨rfl, by decide, by decide, by decide⟩
    exact ⟨centred, centred, centred, List.forall_mem_nil _⟩
  exact steady_takeover_holds levelMath_exact AttitudeController.new_windowed {} within.1
    within.2 steady

end Cooboc.FlightControl
