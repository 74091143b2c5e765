import Cooboc.FlightControl.StatusController
import Cooboc.FlightControl.TakeoverHistory

/-! The channels that the attitude controller does not stabilise: the throttle is read again
for every override, the others are kept from the takeover.
-/

namespace Cooboc.FlightControl

open Cooboc.Foundations

/-- The channels flap, status, aux1 and aux2. -/
def ServoSignal.switches (signal : ServoSignal) : List Int :=
  [signal.flap, signal.status, signal.aux1, signal.aux2]

/-- The five channels that no controller computes. -/
def ServoSignal.unstabilised (signal : ServoSignal) : List Int :=
  signal.throttle :: signal.switches

/-- What happens while the attitude controller is engaged: its work, the navigator's work,
a new decoded message, or a new attitude.
-/
inductive EngagedStep (R : Type*) where
  | controllerWork
  | navigatorWork
  | decode (message : RcChannelsRaw)
  | measure (attitude : ImuAttitude R)

/-- The step of the wired system. -/
def EngagedStep.flightStep {R : Type*} : EngagedStep R → FlightStep R
  | .controllerWork => .attitudeControllerWork
  | .navigatorWork => .attitudeNavigatorWork
  | .decode message => .decode message
  | .measure attitude => .measure attitude

/-- A step finds the four switches as they were in the signal, if it is the controller's.
-/
def EngagedStep.Unswitched {R : Type*} (taken : ServoSignal) (system : FlightSystem R)
    (step : EngagedStep R)
    : Prop :=
  match step with
  | .controllerWork => system.servoDriver.mRawServoSignal.switches = taken.switches
  | _ => True

variable {R : Type*}

/-- The controller is enabled and holds the switches of the signal. -/
structure HoldsSwitches (taken : ServoSignal) (system : FlightSystem R) : Prop where
  enabled : system.attitudeLoop.controller.mIsEnabled = true
  switches : system.attitudeLoop.controller.mServo.switches = taken.switches

variable [Zero R]

/-- Enabling a disabled attitude navigator takes the switches over. -/
theorem holdsSwitches_takeover {system : FlightSystem R}
    (disabled : system.attitudeLoop.navigator.mIsEnabled = false)
    : HoldsSwitches system.servoDriver.mRawServoSignal
        (system.setNavigatorEnabled (some .attitudeNavigator) true).1 := by
  simp only [FlightSystem.setNavigatorEnabled, AttitudeLoop.setEnabled_true disabled]
  exact ⟨rfl, rfl⟩

variable [Add R] [Sub R] [Mul R] [Div R] [Neg R] [IntCast R] [LT R] [DecidableLT R]
  [DoubleMath R]

/-- The wired system while it is engaged. -/
def engagedFlight : Machine (FlightSystem R) (EngagedStep R) (List FlightEvent) where
  step system step := system.step step.flightStep

/-- Every override of the attitude controller carries the pilot's five channels, as they were
decoded last.
-/
def FollowsPilot (system : FlightSystem R) (step : EngagedStep R) : Prop :=
  ∀ signal, .override .attitudeController signal ∈ (engagedFlight.step system step).2
    → signal.unstabilised = system.servoDriver.mRawServoSignal.unstabilised

/-- An enabled controller writes an override with the throttle it reads and the switches it
holds, and keeps both as its own.
-/
theorem AttitudeController.work_carries {controller : AttitudeController R}
    (enabled : controller.mIsEnabled = true) (readings : Readings R)
    : ∃ servo,
        (controller.work readings).2 = some servo
        ∧ (controller.work readings).1.mServo = servo
        ∧ (controller.work readings).1.mIsEnabled = true
        ∧ servo.throttle = readings.rawServoSignal.throttle
        ∧ servo.switches = controller.mServo.switches := by
  simp only [AttitudeController.work, if_pos enabled]
  exact ⟨_, rfl, rfl, enabled, rfl, rfl⟩

/-- The work of an engaged controller shows its own override, and perhaps a message. -/
theorem HoldsSwitches.controllerWork {taken : ServoSignal} {system : FlightSystem R}
    (holds : HoldsSwitches taken system)
    : ∃ servo messages,
        (engagedFlight.step system .controllerWork).2
          = .override .attitudeController servo :: List.map .message messages
        ∧ servo.throttle = system.servoDriver.mRawServoSignal.throttle
        ∧ servo.switches = taken.switches
        ∧ HoldsSwitches taken (engagedFlight.step system .controllerWork).1 := by
  obtain ⟨servo, written, kept, enabled, throttle, switches⟩ :=
    AttitudeController.work_carries holds.enabled system.readings
  have held := switches.trans holds.switches
  simp only [engagedFlight, EngagedStep.flightStep, FlightSystem.step,
    AttitudeLoop.controllerWork, FlightSystem.writeServoSignal, written]
  refine ⟨servo, _, rfl, throttle, held, enabled, ?_⟩
  rw [kept, held]

/-- Every step keeps the controller enabled with the switches of the takeover. -/
theorem HoldsSwitches.step {taken : ServoSignal} {system : FlightSystem R}
    (holds : HoldsSwitches taken system) (step : EngagedStep R)
    : HoldsSwitches taken (engagedFlight.step system step).1 := by
  cases step with
  | controllerWork =>
      obtain ⟨_, _, _, _, _, next⟩ := holds.controllerWork
      exact next
  | navigatorWork =>
      simp only [engagedFlight, EngagedStep.flightStep, FlightSystem.step,
        AttitudeLoop.navigatorWork]
      split
      · exact ⟨holds.enabled, holds.switches⟩
      · exact holds
  | decode message => exact ⟨holds.enabled, holds.switches⟩
  | measure attitude => exact ⟨holds.enabled, holds.switches⟩

/-- A step of an engaged controller follows the pilot exactly if the pilot's switches are
as they were at the takeover.
-/
theorem HoldsSwitches.followsPilot_iff {taken : ServoSignal} {system : FlightSystem R}
    (holds : HoldsSwitches taken system) (step : EngagedStep R)
    : FollowsPilot system step ↔ step.Unswitched taken system := by
  cases step with
  | controllerWork =>
      obtain ⟨servo, messages, shown, throttle, switches, _⟩ := holds.controllerWork
      constructor
      · intro follows
        have same := follows servo (by rw [shown]; exact List.mem_cons_self)
        exact ((List.cons.inj same).2.symm).trans switches
      · intro unswitched signal member
        rw [shown] at member
        rcases List.mem_cons.mp member with own | message
        · obtain ⟨_, rfl⟩ := FlightEvent.override.inj own
          exact List.cons_eq_cons.mpr ⟨throttle, switches.trans unswitched.symm⟩
        · obtain ⟨_, _, other⟩ := List.mem_map.mp message
          cases other
  | _ => exact ⟨fun _ => trivial, fun _ _ member => by cases member⟩

/-- After a takeover, every override of the attitude controller carries the pilot's latest
throttle, flap, status, aux1 and aux2 exactly if each time it works the last four of them
are as they were at the takeover. Witness: the controller keeps the switches it took over,
by induction over the steps.
-/
theorem pilotChannels_iff {system : FlightSystem R}
    (disabled : system.attitudeLoop.navigator.mIsEnabled = false)
    (steps : List (EngagedStep R))
    : let engaged := (system.setNavigatorEnabled (some .attitudeNavigator) true).1
      engagedFlight.Always FollowsPilot engaged steps
      ↔ engagedFlight.Always
          (fun current step => step.Unswitched system.servoDriver.mRawServoSignal current)
          engaged steps :=
  Machine.always_congr (HoldsSwitches system.servoDriver.mRawServoSignal)
    (holdsSwitches_takeover disabled) (fun _ step holds => holds.followsPilot_iff step)
    (fun _ step holds _ => holds.step step) steps

/-- A takeover with all switches in their middle positions, and a throttle that the pilot
changes between two works of the controller.
-/
theorem pilotChannels_throttle
    : let _ := levelMath
      let system : FlightSystem ℚ := setupController SerialServoDriver.new ⟨0, 0, 0⟩
      engagedFlight.Always FollowsPilot
        (system.setNavigatorEnabled (some .attitudeNavigator) true).1
        [
          .controllerWork,
          .decode ⟨1500, 1500, 1700, 1500, 1500, 1500, 1500, 1500⟩,
          .controllerWork
        ] :=
  let _ := levelMath
  (pilotChannels_iff rfl _).mpr ⟨rfl, trivial, rfl, trivial⟩

/-- The pilot moves the flap switch after the takeover: the next override still carries the
flap of the takeover.
-/
theorem pilotChannels_fail
    : let _ := levelMath
      let system : FlightSystem ℚ := setupController SerialServoDriver.new ⟨0, 0, 0⟩
      ¬ engagedFlight.Always FollowsPilot
          (system.setNavigatorEnabled (some .attitudeNavigator) true).1
          [.decode ⟨1500, 1500, 900, 1500, 2000, 1500, 1500, 1500⟩, .controllerWork] := by
  intro _ system always
  have disabled : system.attitudeLoop.navigator.mIsEnabled = false := rfl
  have holds := holdsSwitches_takeover disabled
  have unswitched := ((holds.step _).followsPilot_iff .controllerWork).mp always.2.1
  have flap : (2000 : Int) = 1500 := (List.cons.inj unswitched).1
  exact absurd flap (by decide)

end Cooboc.FlightControl
