import Cooboc.Foundations.Machine
import Cooboc.FlightControl.AttitudeController

/-! The two navigators of `navigator/`. The attitude navigator works on the attitude
controller it points to; the two objects make up one loop.
-/

namespace Cooboc.FlightControl

open Cooboc.Foundations

/-- The virtual callbacks of `setEnabled`. -/
inductive Callback where
  | takeover
  | release
deriving DecidableEq

/-- `INavigator::setEnabled`: the flag, and the callback of a change. -/
def INavigator.setEnabled (mIsEnabled isEnabled : Bool) : Bool × Option Callback :=
  if isEnabled ≠ mIsEnabled then
    (isEnabled, some (if isEnabled then .takeover else .release))
  else
    (mIsEnabled, none)

/-- `ManullyNavigator` has no members of its own. -/
structure ManullyNavigator where
  mIsEnabled : Bool
deriving DecidableEq

/-- The constructor. -/
def ManullyNavigator.new : ManullyNavigator := ⟨false⟩

/-- `work`, with the override that `navigate` writes: the pilot's signal. -/
def ManullyNavigator.work (navigator : ManullyNavigator) (rawServoSignal : ServoSignal)
    : Option ServoSignal :=
  if navigator.mIsEnabled then some rawServoSignal else none

/-- `setEnabled`; both callbacks are empty. -/
def ManullyNavigator.setEnabled (navigator : ManullyNavigator) (isEnabled : Bool)
    : ManullyNavigator × Option Callback :=
  let (mIsEnabled, callback) := INavigator.setEnabled navigator.mIsEnabled isEnabled
  ({ navigator with mIsEnabled := mIsEnabled }, callback)

/-- The members of `AttitudeNavigator`. -/
structure AttitudeNavigator (R : Type*) where
  mIsEnabled : Bool
  mRcSignal : ServoSignal
  mPitchTarget : R
  mRollTarget : R
  mYawTarget : R
deriving DecidableEq

/-- An attitude navigator with the controller it points to. -/
structure AttitudeLoop (R : Type*) where
  navigator : AttitudeNavigator R
  controller : AttitudeController R
deriving DecidableEq

variable {R : Type*} [Zero R] [Add R] [Sub R] [Mul R] [Div R] [Neg R] [IntCast R] [LT R]
  [DecidableLT R] [DoubleMath R]

/-- `MAX_ANGLE`. -/
def maxAngle : R := ((60 : Int) : R) * DoubleMath.PI / ((180 : Int) : R)

/-- `-MAX_ANGLE`, as the macro expands. -/
def minAngle : R := -((60 : Int) : R) * DoubleMath.PI / ((180 : Int) : R)

/-- The constructor. -/
def AttitudeNavigator.new : AttitudeNavigator R where
  mIsEnabled := false
  mRcSignal := {}
  mPitchTarget := 0
  mRollTarget := 0
  mYawTarget := 0

/-- A navigator and a controller as constructed. -/
def AttitudeLoop.new : AttitudeLoop R where
  navigator := AttitudeNavigator.new
  controller := AttitudeController.new

/-- `calculateTargetDiff`: the stick's distance from the middle, with a dead zone. -/
def calculateTargetDiff (servoValue : Int) : R :=
  let servoValue := servoValue - defaultServoValue
  let servoValue := if -50 < servoValue ∧ servoValue < 50 then 0 else servoValue
  (servoValue : R) / ((5000 : Int) : R)

/-- `AttitudeNavigator::navigate`. -/
def AttitudeLoop.navigate (loop : AttitudeLoop R) (readings : Readings R)
    : AttitudeLoop R :=
  let navigator := loop.navigator
  let cosA := DoubleMath.cos readings.attitude.roll
  let sinA := DoubleMath.sin readings.attitude.roll
  let mRcSignal := readings.rawServoSignal
  let elevatorDiff : R := calculateTargetDiff mRcSignal.elevator
  let rudderDiff : R := calculateTargetDiff mRcSignal.rudder
  let mPitchTarget := constraint
    (navigator.mPitchTarget + (-cosA * elevatorDiff - sinA * rudderDiff)) minAngle maxAngle
  let mRollTarget := constraint
    (navigator.mRollTarget + calculateTargetDiff mRcSignal.aileron) minAngle maxAngle
  let mYawTarget := cosA * rudderDiff - sinA * elevatorDiff
  { navigator :=
      { navigator with
        mRcSignal := mRcSignal
        mPitchTarget := mPitchTarget
        mRollTarget := mRollTarget
        mYawTarget := mYawTarget }
    controller := loop.controller.setTargetAttitude mPitchTarget mRollTarget mYawTarget }

/-- `AttitudeNavigator::onTakeover`. It reads the attitude twice, first within the
controller's `reset`.
-/
def AttitudeLoop.onTakeover (loop : AttitudeLoop R) (atReset : Readings R)
    (currentAttitude : ImuAttitude R)
    : AttitudeLoop R :=
  let controller := loop.controller.reset atReset
  let mPitchTarget := currentAttitude.pitch
  let mRollTarget := currentAttitude.roll
  let mYawTarget : R := 0
  { navigator :=
      { loop.navigator with
        mPitchTarget := mPitchTarget
        mRollTarget := mRollTarget
        mYawTarget := mYawTarget }
    controller :=
      (controller.setTargetAttitude mPitchTarget mRollTarget mYawTarget).setEnabled true }

/-- `AttitudeNavigator::onRelease`. -/
def AttitudeLoop.onRelease (loop : AttitudeLoop R) : AttitudeLoop R :=
  { loop with controller := loop.controller.setEnabled false }

/-- `setEnabled` on the attitude navigator; the readings are those of a takeover. -/
def AttitudeLoop.setEnabled (loop : AttitudeLoop R) (isEnabled : Bool)
    (atReset : Readings R) (currentAttitude : ImuAttitude R)
    : AttitudeLoop R × Option Callback :=
  let (mIsEnabled, callback) := INavigator.setEnabled loop.navigator.mIsEnabled isEnabled
  let loop := { loop with navigator := { loop.navigator with mIsEnabled := mIsEnabled } }
  match callback with
  | none => (loop, none)
  | some .takeover => (loop.onTakeover atReset currentAttitude, some .takeover)
  | some .release => (loop.onRelease, some .release)

/-- `INavigator::work` on the attitude navigator. -/
def AttitudeLoop.navigatorWork (loop : AttitudeLoop R) (readings : Readings R)
    : AttitudeLoop R :=
  if loop.navigator.mIsEnabled then loop.navigate readings else loop

/-- `AttitudeController::work` on the loop's controller. -/
def AttitudeLoop.controllerWork (loop : AttitudeLoop R) (readings : Readings R)
    : AttitudeLoop R × Option ServoSignal :=
  let (controller, servo) := loop.controller.work readings
  ({ loop with controller := controller }, servo)

/-- The two periodic tasks of a loop, with what they read. -/
inductive LoopWork (R : Type*) where
  | navigator (readings : Readings R)
  | controller (readings : Readings R)

/-- Everything that is called on a navigator and its controller. -/
inductive LoopCall (R : Type*) where
  | work (task : LoopWork R)
  | setEnabled (isEnabled : Bool) (atReset : Readings R) (currentAttitude : ImuAttitude R)
  | setTunning (p i d : R)

/-- One task, with the override it writes. -/
def AttitudeLoop.work (loop : AttitudeLoop R) : LoopWork R → AttitudeLoop R × Option ServoSignal
  | .navigator readings => (loop.navigatorWork readings, none)
  | .controller readings => loop.controllerWork readings

/-- One call, with the override it writes. -/
def AttitudeLoop.call (loop : AttitudeLoop R) : LoopCall R → AttitudeLoop R × Option ServoSignal
  | .work task => loop.work task
  | .setEnabled isEnabled atReset currentAttitude =>
      ((loop.setEnabled isEnabled atReset currentAttitude).1, none)
  | .setTunning p i d => ({ loop with controller := loop.controller.setTunning p i d }, none)

/-- A navigator with its controller, under any calls. -/
def attitudeLoop : Machine (AttitudeLoop R) (LoopCall R) (Option ServoSignal) where
  step := AttitudeLoop.call

/-- A navigator with its controller, under its periodic tasks alone. -/
def engagement : Machine (AttitudeLoop R) (LoopWork R) (Option ServoSignal) where
  step := AttitudeLoop.work

end Cooboc.FlightControl
