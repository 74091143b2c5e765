import Mathlib.Algebra.Order.Group.Abs
import Mathlib.Data.Int.Cast.Basic

/-! Signals, attitudes and the shared arithmetic of the flight code: `servo_controller`,
`serial_servo_driver` and `utils/util.cpp`. Everything that computes with `double` is
written over an arbitrary type of numbers, so that it can be read exactly or rounded.
-/

namespace Cooboc.FlightControl

/-- What the flight code uses of `double` beyond its arithmetic and comparison: the
library's `cos` and `sin`, the constant `PI`, and the conversion to `int`.
-/
class DoubleMath (R : Type*) where
  cos : R → R
  sin : R → R
  PI : R
  toInt : R → Int

/-- `constraint`, in its `int` and its `double` overload. -/
def constraint {α : Type*} [LT α] [DecidableLT α] (x minx maxx : α) : α :=
  if x < minx then minx else if maxx < x then maxx else x

section

variable {R : Type*} [Zero R] [Add R] [Sub R] [Div R] [Neg R] [IntCast R] [LT R] [DecidableLT R]

/-- The library's `fabs`. -/
def fabs (x : R) : R := if x < 0 then -x else x

/-- `cycleCompare`: the difference of two angles, moved by one cycle if it is more than
half of one.
-/
def cycleCompare (target current cycleSize : R) : R :=
  let result := target - current
  if cycleSize / ((2 : Int) : R) < fabs result then
    if 0 < result then result - cycleSize else result + cycleSize
  else
    result

end

theorem fabs_eq_abs {R : Type*} [AddCommGroup R] [LinearOrder R] [IsOrderedAddMonoid R]
    (x : R)
    : fabs x = |x| := by
  unfold fabs
  split_ifs with negative
  · exact (abs_of_neg negative).symm
  · exact (abs_of_nonneg (not_lt.mp negative)).symm

/-- `DEFAULT_SERVO_VALUE`. -/
def defaultServoValue : Int := 1500

/-- `DEFAULT_THROTTLE_VALUE`. -/
def defaultThrottleValue : Int := 900

/-- `ServoSignal`, its eight channels with the values of the default constructor. -/
structure ServoSignal where
  aileron : Int := defaultServoValue
  elevator : Int := defaultServoValue
  throttle : Int := defaultThrottleValue
  rudder : Int := defaultServoValue
  flap : Int := defaultServoValue
  status : Int := defaultServoValue
  aux1 : Int := defaultServoValue
  aux2 : Int := defaultServoValue
deriving DecidableEq

/-- The three angles of `ImuAttitude` that the flight code reads. -/
structure ImuAttitude (R : Type*) where
  pitch : R
  roll : R
  heading : R
deriving DecidableEq

/-- The `SERVO_OUTPUT_MODE_*` constants. -/
inductive OutputMode where
  | disable
  | manully
  | continuos
deriving DecidableEq

/-- The signals of `SerialServoDriver`: the last one decoded, and the last override. -/
structure SerialServoDriver where
  mOutputMode : OutputMode
  mRawServoSignal : ServoSignal
  mOverrideServoSignal : ServoSignal
deriving DecidableEq

/-- The driver's constructor. -/
def SerialServoDriver.new : SerialServoDriver where
  mOutputMode := .manully
  mRawServoSignal := {}
  mOverrideServoSignal := {}

/-- The channels of a decoded `RC_CHANNELS_RAW` message, sixteen bits each. -/
structure RcChannelsRaw where
  chan1Raw : UInt16
  chan2Raw : UInt16
  chan3Raw : UInt16
  chan4Raw : UInt16
  chan5Raw : UInt16
  chan6Raw : UInt16
  chan7Raw : UInt16
  chan8Raw : UInt16
deriving DecidableEq

/-- The signal that `fetchServos` stores for a decoded message. -/
def RcChannelsRaw.signal (message : RcChannelsRaw) : ServoSignal where
  aileron := message.chan1Raw.toNat
  elevator := message.chan2Raw.toNat
  throttle := message.chan3Raw.toNat
  rudder := message.chan4Raw.toNat
  flap := message.chan5Raw.toNat
  status := message.chan6Raw.toNat
  aux1 := message.chan7Raw.toNat
  aux2 := message.chan8Raw.toNat

/-- `fetchServos`, once a message is decoded. -/
def SerialServoDriver.decode (driver : SerialServoDriver) (message : RcChannelsRaw)
    : SerialServoDriver :=
  { driver with mRawServoSignal := message.signal }

/-- The eight channels that `emitSignal` packs into an override message, each cut down to
sixteen bits.
-/
def SerialServoDriver.emitSignal (driver : SerialServoDriver) : List UInt16 :=
  let signal := driver.mOverrideServoSignal
  [signal.aileron, signal.elevator, signal.throttle, signal.rudder,
    signal.flap, signal.status, signal.aux1, signal.aux2].map
      (fun channel => UInt16.ofInt channel)

/-- `setOverrideServoSignal`: the driver, and the message it emits at once in manual mode.
-/
def SerialServoDriver.setOverrideServoSignal (driver : SerialServoDriver)
    (overrideServoSignal : ServoSignal)
    : SerialServoDriver × Option (List UInt16) :=
  let driver := { driver with mOverrideServoSignal := overrideServoSignal }
  (driver, if driver.mOutputMode = .manully then some driver.emitSignal else none)

end Cooboc.FlightControl
