import Mathlib.Algebra.Order.Ring.Rat
import Cooboc.FlightControl.Navigators

/-! A takeover erases what earlier engagements left behind. The gains are all that survives
in the controller, and the stale `mRcSignal` of the navigator is written before it is read.
-/

namespace Cooboc.FlightControl

open Cooboc.Foundations

variable {R : Type*}

/-- The windows of the three controllers have the sizes of the constructor. -/
structure AttitudeController.Windowed (controller : AttitudeController R) : Prop where
  pitch : controller.mPitchPid.Sized 1000
  roll : controller.mRollPid.Sized 500
  yaw : controller.mYawPid.Sized 10

variable [Zero R]

/-- `onTakeover` as `setEnabled` performs it, behind the assignment of the flag. -/
def AttitudeLoop.takeover (loop : AttitudeLoop R) (atReset : Readings R)
    (currentAttitude : ImuAttitude R)
    : AttitudeLoop R :=
  AttitudeLoop.onTakeover { loop with navigator := { loop.navigator with mIsEnabled := true } }
    atReset currentAttitude

theorem AttitudeLoop.setEnabled_true {loop : AttitudeLoop R}
    (disabled : loop.navigator.mIsEnabled = false) (atReset : Readings R)
    (currentAttitude : ImuAttitude R)
    : loop.setEnabled true atReset currentAttitude
      = (loop.takeover atReset currentAttitude, some .takeover) := by
  simp [AttitudeLoop.setEnabled, INavigator.setEnabled, disabled, AttitudeLoop.takeover]

/-- The gains of the three controllers. -/
def AttitudeController.gains (controller : AttitudeController R)
    : (R × R × R) × (R × R × R) × (R × R × R) :=
  (controller.mPitchPid.gains, controller.mRollPid.gains, controller.mYawPid.gains)

/-- The loops differ at most in the navigator's copies of the signal and the yaw target,
which `navigate` writes before it reads them.
-/
structure AttitudeLoop.Alike (first second : AttitudeLoop R) : Prop where
  controller : first.controller = second.controller
  enabled : first.navigator.mIsEnabled = second.navigator.mIsEnabled
  pitch : first.navigator.mPitchTarget = second.navigator.mPitchTarget
  roll : first.navigator.mRollTarget = second.navigator.mRollTarget

/-- Takeovers with the same readings make loops with the same gains alike.
Witness: a reset controller is a new one with the old gains.
-/
theorem AttitudeLoop.takeover_alike {first second : AttitudeLoop R}
    (firstWindows : first.controller.Windowed) (secondWindows : second.controller.Windowed)
    (gains : first.controller.gains = second.controller.gains)
    (atReset : Readings R) (currentAttitude : ImuAttitude R)
    : (first.takeover atReset currentAttitude).Alike
        (second.takeover atReset currentAttitude) := by
  simp only [AttitudeController.gains, PID.gains, Prod.mk.injEq] at gains
  obtain ⟨⟨pitchP, pitchI, pitchD⟩, ⟨rollP, rollI, rollD⟩, yawP, yawI, yawD⟩ := gains
  have pitch : first.controller.mPitchPid.reset = second.controller.mPitchPid.reset := by
    rw [PID.reset_eq_new firstWindows.pitch, PID.reset_eq_new secondWindows.pitch,
      pitchP, pitchI, pitchD]
  have roll : first.controller.mRollPid.reset = second.controller.mRollPid.reset := by
    rw [PID.reset_eq_new firstWindows.roll, PID.reset_eq_new secondWindows.roll,
      rollP, rollI, rollD]
  have yaw : first.controller.mYawPid.reset = second.controller.mYawPid.reset := by
    rw [PID.reset_eq_new firstWindows.yaw, PID.reset_eq_new secondWindows.yaw,
      yawP, yawI, yawD]
  refine ⟨?_, rfl, rfl, rfl⟩
  simp only [AttitudeLoop.takeover, AttitudeLoop.onTakeover, AttitudeController.reset,
    AttitudeController.setTargetAttitude, AttitudeController.setEnabled, pitch, roll, yaw]

variable [IntCast R]

theorem AttitudeController.new_windowed : (new : AttitudeController R).Windowed :=
  ⟨PID.new_sized _ _ _ _, PID.new_sized _ _ _ _, PID.new_sized _ _ _ _⟩

variable [Add R] [Sub R] [Mul R] [Div R] [Neg R] [LT R] [DecidableLT R] [DoubleMath R]

theorem AttitudeController.Windowed.work {controller : AttitudeController R}
    (windowed : controller.Windowed) (readings : Readings R)
    : (controller.work readings).1.Windowed := by
  unfold AttitudeController.work
  split
  · exact ⟨windowed.pitch.updateError _, windowed.roll.updateError _,
      windowed.yaw.updateError _⟩
  · exact windowed

/-- No call on the loop changes the size of a window. Witness: one case for each call. -/
theorem AttitudeLoop.call_windowed {loop : AttitudeLoop R}
    (windowed : loop.controller.Windowed) (call : LoopCall R)
    : (loop.call call).1.controller.Windowed := by
  obtain ⟨pitch, roll, yaw⟩ := windowed
  cases call with
  | work task =>
      cases task with
      | navigator readings =>
          simp only [AttitudeLoop.call, AttitudeLoop.work, AttitudeLoop.navigatorWork]
          split <;> exact ⟨pitch, roll, yaw⟩
      | controller readings =>
          exact AttitudeController.Windowed.work ⟨pitch, roll, yaw⟩ readings
  | setEnabled isEnabled atReset currentAttitude =>
      simp only [AttitudeLoop.call, AttitudeLoop.setEnabled]
      split
      · exact ⟨pitch, roll, yaw⟩
      · exact ⟨pitch.reset, roll.reset, yaw.reset⟩
      · exact ⟨pitch, roll, yaw⟩
  | setTunning p i d => exact ⟨pitch, roll, yaw.setTunning p i d⟩

/-- Every reachable loop has the windows of the constructor. -/
theorem AttitudeLoop.run_windowed (calls : List (LoopCall R))
    : (attitudeLoop.run AttitudeLoop.new calls).controller.Windowed :=
  attitudeLoop.run_invariant (fun loop => loop.controller.Windowed)
    AttitudeController.new_windowed
    (fun _ call windowed => AttitudeLoop.call_windowed windowed call) calls

/-- Alike loops answer every task alike and stay alike. -/
theorem alike_bisimulation
    : Machine.Bisimulation (engagement (R := R)) engagement AttitudeLoop.Alike where
  outputs := by
    rintro first second (readings | readings) alike
    · rfl
    · simp only [engagement, AttitudeLoop.work, AttitudeLoop.controllerWork,
        alike.controller]
  states := by
    rintro first second (readings | readings) ⟨controller, enabled, pitch, roll⟩
    · simp only [engagement, AttitudeLoop.work, AttitudeLoop.navigatorWork, enabled]
      split
      · refine ⟨?_, ?_, ?_, ?_⟩ <;>
          simp only [AttitudeLoop.navigate, controller, enabled, pitch, roll]
      · exact ⟨controller, enabled, pitch, roll⟩
    · refine ⟨?_, enabled, pitch, roll⟩
      simp only [engagement, AttitudeLoop.work, AttitudeLoop.controllerWork, controller]

/-- Whatever two navigators and controllers have been through, once their gains agree, a
takeover with the same readings and the same tasks after it write the same overrides, at
the same tasks and on all eight channels.
-/
theorem takeover_erases_history (firstCalls secondCalls : List (LoopCall R))
    (atReset : Readings R) (currentAttitude : ImuAttitude R) (tasks : List (LoopWork R))
    (gains
      : (attitudeLoop.run AttitudeLoop.new firstCalls).controller.gains
        = (attitudeLoop.run AttitudeLoop.new secondCalls).controller.gains)
    : engagement.outputs
        ((attitudeLoop.run AttitudeLoop.new firstCalls).takeover atReset currentAttitude)
        tasks
      = engagement.outputs
        ((attitudeLoop.run AttitudeLoop.new secondCalls).takeover atReset currentAttitude)
        tasks :=
  alike_bisimulation.outputs_eq
    (AttitudeLoop.takeover_alike (AttitudeLoop.run_windowed firstCalls)
      (AttitudeLoop.run_windowed secondCalls) gains atReset currentAttitude)
    tasks

/-- Rational numbers with `cos` and `sin` as they are at level wings. -/
abbrev levelMath : DoubleMath ℚ where
  cos _ := 1
  sin _ := 0
  PI := 31415926535897932 / 10000000000000000
  toInt value := value.num.tdiv value.den

/-- A first takeover, and one after an engagement that left errors in every window and
other stick positions in the cached signal.
-/
theorem takeover_erases_history_engaged
    : let _ := levelMath
      let readings : Readings ℚ := ⟨{}, ⟨0, 0, 0⟩⟩
      let other : Readings ℚ := ⟨{ aileron := 1900, aux1 := 1000 }, ⟨1, 0, 3⟩⟩
      let calls : List (LoopCall ℚ) := [
          .setEnabled true other other.attitude,
          .work (.navigator other),
          .work (.controller other),
          .setEnabled false other other.attitude
        ]
      let tasks : List (LoopWork ℚ) := [.controller readings, .navigator readings]
      engagement.outputs
          ((attitudeLoop.run AttitudeLoop.new []).takeover readings readings.attitude) tasks
        = engagement.outputs
          ((attitudeLoop.run AttitudeLoop.new calls).takeover readings readings.attitude)
          tasks :=
  let _ := levelMath
  takeover_erases_history [] _ _ _ _ (by decide +kernel)

end Cooboc.FlightControl
