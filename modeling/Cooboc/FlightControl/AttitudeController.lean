import Cooboc.FlightControl.Pid
import Cooboc.FlightControl.Signals

/-! The attitude controller of `attitude_controller.cpp`: three controllers turn the errors
of roll, pitch and yaw into servo positions. The counter of its debug output is left out.
-/

namespace Cooboc.FlightControl

/-- The members of `AttitudeController`. -/
structure AttitudeController (R : Type*) where
  mIsEnabled : Bool
  mServo : ServoSignal
  mPitchPid : PID R
  mRollPid : PID R
  mYawPid : PID R
  mTargetPitch : R
  mTargetRoll : R
  mTargetYaw : R
  mLastHeading : R
deriving DecidableEq

/-- What the code reads from the servo driver and from `ADI` in one call. -/
structure Readings (R : Type*) where
  rawServoSignal : ServoSignal
  attitude : ImuAttitude R

variable {R : Type*} [Zero R] [Add R] [Sub R] [Mul R] [Div R] [Neg R] [IntCast R] [LT R]
  [DecidableLT R] [DoubleMath R]

/-- The constructor. -/
def AttitudeController.new : AttitudeController R where
  mIsEnabled := false
  mServo := {}
  mPitchPid := PID.new ((1000 : Int) : R) ((10 : Int) : R) 0 1000
  mRollPid := PID.new ((600 : Int) : R) ((5 : Int) : R) 0 500
  mYawPid := PID.new ((3000 : Int) : R) ((20 : Int) : R) 0 10
  mTargetPitch := 0
  mTargetRoll := 0
  mTargetYaw := 0
  mLastHeading := 0

def AttitudeController.setEnabled (controller : AttitudeController R) (isEnabled : Bool)
    : AttitudeController R :=
  { controller with mIsEnabled := isEnabled }

def AttitudeController.setTargetAttitude (controller : AttitudeController R)
    (pitch roll yaw : R)
    : AttitudeController R :=
  { controller with mTargetPitch := pitch, mTargetRoll := roll, mTargetYaw := yaw }

/-- `setTunning`: only the yaw gains change. -/
def AttitudeController.setTunning (controller : AttitudeController R) (p i d : R)
    : AttitudeController R :=
  { controller with mYawPid := controller.mYawPid.setTunning p i d }

def AttitudeController.reset (controller : AttitudeController R) (readings : Readings R)
    : AttitudeController R :=
  { controller with
    mServo := readings.rawServoSignal
    mPitchPid := controller.mPitchPid.reset
    mRollPid := controller.mRollPid.reset
    mYawPid := controller.mYawPid.reset
    mLastHeading := readings.attitude.heading }

/-- The constant `2*PI` of the yaw comparisons. -/
def fullCycle : R := ((2 : Int) : R) * DoubleMath.PI

/-- The variable `yawError` of `work`. -/
def AttitudeController.yawError (controller : AttitudeController R)
    (attitude : ImuAttitude R)
    : R :=
  let currentYaw := cycleCompare attitude.heading controller.mLastHeading fullCycle
  cycleCompare controller.mTargetYaw currentYaw fullCycle

/-- A servo value that is assigned to an `int` and then constrained. -/
def servoValue (value : R) : Int := constraint (DoubleMath.toInt value) 1000 2000

/-- `work`, with the override it writes. -/
def AttitudeController.work (controller : AttitudeController R) (readings : Readings R)
    : AttitudeController R × Option ServoSignal :=
  if controller.mIsEnabled then
    let attitude := readings.attitude
    let (rollPid, rollDiff) :=
      controller.mRollPid.updateError (controller.mTargetRoll - attitude.roll)
    let (pitchPid, pitchDiff) :=
      controller.mPitchPid.updateError (controller.mTargetPitch - attitude.pitch)
    let (yawPid, yawDiff) := controller.mYawPid.updateError (controller.yawError attitude)
    let cosA := DoubleMath.cos attitude.roll
    let sinA := DoubleMath.sin attitude.roll
    let middle : R := (defaultServoValue : R)
    let servo :=
      { controller.mServo with
        aileron := servoValue (middle + rollDiff)
        elevator := servoValue (middle - cosA * pitchDiff + yawDiff * sinA)
        rudder := servoValue (middle - sinA * pitchDiff + yawDiff * cosA)
        throttle := readings.rawServoSignal.throttle }
    ({ controller with
        mServo := servo
        mRollPid := rollPid
        mPitchPid := pitchPid
        mYawPid := yawPid
        mLastHeading := attitude.heading },
      some servo)
  else
    (controller, none)

end Cooboc.FlightControl
