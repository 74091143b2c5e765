import Cooboc.FlightControl.Navigators

/-! The status controller and the wiring of `setupController` in `chicken.cpp`: which
navigator is enabled under which flight status. One step of the system is one call of a
periodic task, or one new reading.
-/

namespace Cooboc.FlightControl

open Cooboc.Foundations

/-- The `FLIGHT_STATUS_*` constants. -/
inductive FlightStatus where
  | default
  | manully
  | attitude
deriving DecidableEq

/-- The navigators that `mNavigators` points to. -/
inductive Navigator where
  | manullyNavigator
  | attitudeNavigator
deriving DecidableEq

/-- The members of `StatusController`. -/
structure StatusController where
  mFlightStatus : FlightStatus
  mNavigators : FlightStatus → Option Navigator

/-- The constructor. -/
def StatusController.new : StatusController where
  mFlightStatus := .default
  mNavigators _ := none

def StatusController.setNavigator (controller : StatusController) (naviId : FlightStatus)
    (navigator : Navigator)
    : StatusController :=
  { controller with
    mNavigators := fun status =>
      if status = naviId then some navigator else controller.mNavigators status }

def decideFlightStatus (signal : ServoSignal) : FlightStatus :=
  if 1500 < signal.status then .attitude else .manully

-----------------------------------------------------------------------------------------
-- The wired system
-----------------------------------------------------------------------------------------

/-- The objects of `setupController`; `adi` is the attitude that `ADI` reports now. -/
structure FlightSystem (R : Type*) where
  statusController : StatusController
  manullyNavigator : ManullyNavigator
  attitudeLoop : AttitudeLoop R
  servoDriver : SerialServoDriver
  adi : ImuAttitude R

/-- Who writes an override. -/
inductive Writer where
  | manullyNavigator
  | attitudeController
deriving DecidableEq

/-- What a step shows: a navigator's callback, an override that is written, or a message
that the servo driver sends.
-/
inductive FlightEvent where
  | callback (navigator : Navigator) (callback : Callback)
  | override (writer : Writer) (signal : ServoSignal)
  | message (channels : List UInt16)
deriving DecidableEq

/-- One call of a periodic task, of `setTunning`, or one new reading. -/
inductive FlightStep (R : Type*) where
  | statusWork
  | manullyWork
  | attitudeNavigatorWork
  | attitudeControllerWork
  | setTunning (p i d : R)
  | decode (message : RcChannelsRaw)
  | measure (attitude : ImuAttitude R)

variable {R : Type*} [Zero R] [Add R] [Sub R] [Mul R] [Div R] [Neg R] [IntCast R] [LT R]
  [DecidableLT R] [DoubleMath R]

/-- What a task reads when it runs as one atomic step. -/
def FlightSystem.readings (system : FlightSystem R) : Readings R where
  rawServoSignal := system.servoDriver.mRawServoSignal
  attitude := system.adi

/-- `setEnabled` through a pointer of `mNavigators`, with the callbacks it makes. -/
def FlightSystem.setNavigatorEnabled (system : FlightSystem R) (navigator : Option Navigator)
    (isEnabled : Bool)
    : FlightSystem R × List FlightEvent :=
  match navigator with
  | none => (system, [])
  | some .manullyNavigator =>
      let (manullyNavigator, callback) := system.manullyNavigator.setEnabled isEnabled
      ({ system with manullyNavigator := manullyNavigator },
        callback.toList.map (.callback .manullyNavigator))
  | some .attitudeNavigator =>
      let (loop, callback) :=
        system.attitudeLoop.setEnabled isEnabled system.readings system.adi
      ({ system with attitudeLoop := loop },
        callback.toList.map (.callback .attitudeNavigator))

/-- The assignment of `mFlightStatus`. -/
def FlightSystem.setFlightStatus (system : FlightSystem R) (status : FlightStatus)
    : FlightSystem R :=
  { system with
    statusController := { system.statusController with mFlightStatus := status } }

/-- `onFlightStatusChange`: the navigator of the old status is disabled first. -/
def FlightSystem.onFlightStatusChange (system : FlightSystem R) (status : FlightStatus)
    : FlightSystem R × List FlightEvent :=
  let controller := system.statusController
  let (system, released) := system.setNavigatorEnabled
    (controller.mNavigators controller.mFlightStatus) false
  let (system, taken) := (system.setFlightStatus status).setNavigatorEnabled
    (controller.mNavigators status) true
  (system, released ++ taken)

/-- `StatusController::work`. -/
def FlightSystem.statusWork (system : FlightSystem R) : FlightSystem R × List FlightEvent :=
  let targetStatus := decideFlightStatus system.servoDriver.mRawServoSignal
  if targetStatus ≠ system.statusController.mFlightStatus then
    system.onFlightStatusChange targetStatus
  else
    (system, [])

/-- `writeServoSignal` of a task, if it writes. -/
def FlightSystem.writeServoSignal (system : FlightSystem R) (writer : Writer)
    (signal : Option ServoSignal)
    : FlightSystem R × List FlightEvent :=
  match signal with
  | none => (system, [])
  | some signal =>
      let (driver, message) := system.servoDriver.setOverrideServoSignal signal
      ({ system with servoDriver := driver },
        .override writer signal :: message.toList.map .message)

/-- One step of the system, with what it shows. -/
def FlightSystem.step (system : FlightSystem R)
    : FlightStep R → FlightSystem R × List FlightEvent
  | .statusWork => system.statusWork
  | .manullyWork =>
      system.writeServoSignal .manullyNavigator
        (system.manullyNavigator.work system.servoDriver.mRawServoSignal)
  | .attitudeNavigatorWork =>
      ({ system with
          attitudeLoop := system.attitudeLoop.navigatorWork system.readings },
        [])
  | .attitudeControllerWork =>
      let (loop, signal) := system.attitudeLoop.controllerWork system.readings
      FlightSystem.writeServoSignal { system with attitudeLoop := loop } .attitudeController
        signal
  | .setTunning p i d =>
      ({ system with
          attitudeLoop :=
            { system.attitudeLoop with
              controller := system.attitudeLoop.controller.setTunning p i d } },
        [])
  | .decode message =>
      ({ system with servoDriver := system.servoDriver.decode message }, [])
  | .measure attitude => ({ system with adi := attitude }, [])

/-- The wired system as a machine. -/
def flight : Machine (FlightSystem R) (FlightStep R) (List FlightEvent) where
  step := FlightSystem.step

/-- The system that `setupController` leaves, around a servo driver and an attitude source
that already run.
-/
def setupController (servoDriver : SerialServoDriver) (adi : ImuAttitude R)
    : FlightSystem R where
  statusController :=
    ((StatusController.new.setNavigator .default .attitudeNavigator).setNavigator
      .manully .manullyNavigator).setNavigator .attitude .attitudeNavigator
  manullyNavigator := (ManullyNavigator.new.setEnabled false).1
  attitudeLoop :=
    (AttitudeLoop.new.setEnabled false ⟨servoDriver.mRawServoSignal, adi⟩ adi).1
  servoDriver := servoDriver
  adi := adi

end Cooboc.FlightControl
