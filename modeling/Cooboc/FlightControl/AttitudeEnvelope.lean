import Cooboc.Foundations.TraceLaw
import Cooboc.FlightControl.TakeoverHistory

/-! The envelope of the commanded attitude: `navigate` keeps its targets within `MAX_ANGLE`,
while a takeover commands the attitude that is measured.
-/

namespace Cooboc.FlightControl

open Cooboc.Foundations

/-- The virtual functions of the attitude navigator, with what they read. -/
inductive NavigatorCall (R : Type*) where
  | onTakeover (atReset : Readings R) (currentAttitude : ImuAttitude R)
  | navigate (readings : Readings R)
  | onRelease

/-- The arguments of a `setTargetAttitude` call. -/
structure Target (R : Type*) where
  pitch : R
  roll : R
  yaw : R

section

variable {R : Type*} [Zero R] [Add R] [Sub R] [Mul R] [Div R] [Neg R] [IntCast R] [LT R]
  [DecidableLT R] [DoubleMath R]

/-- The targets of the controller, which are the arguments of the last `setTargetAttitude`.
-/
def AttitudeController.target (controller : AttitudeController R) : Target R where
  pitch := controller.mTargetPitch
  roll := controller.mTargetRoll
  yaw := controller.mTargetYaw

/-- One call, with the targets it sets. -/
def AttitudeLoop.navigatorCall (loop : AttitudeLoop R)
    : NavigatorCall R → AttitudeLoop R × List (Target R)
  | .onTakeover atReset currentAttitude =>
      let loop := loop.onTakeover atReset currentAttitude
      (loop, [loop.controller.target])
  | .navigate readings =>
      let loop := loop.navigate readings
      (loop, [loop.controller.target])
  | .onRelease => (loop.onRelease, [])

/-- The attitude navigator under calls of its virtual functions. -/
def attitudeNavigator : Machine (AttitudeLoop R) (NavigatorCall R) (List (Target R)) where
  step := AttitudeLoop.navigatorCall

end

variable {R : Type*} [Add R] [Sub R] [Mul R] [Div R] [Neg R] [IntCast R] [LinearOrder R]
  [DoubleMath R]

/-- The angle lies between `-MAX_ANGLE` and `MAX_ANGLE`. -/
def WithinEnvelope (angle : R) : Prop := minAngle ≤ angle ∧ angle ≤ maxAngle

/-- Both commanded angles lie within the envelope. -/
def Target.WithinEnvelope (target : Target R) : Prop :=
  FlightControl.WithinEnvelope target.pitch ∧ FlightControl.WithinEnvelope target.roll

/-- A takeover happens at an attitude within the envelope. -/
def NavigatorCall.StartsWithin : NavigatorCall R → Prop
  | .onTakeover _ currentAttitude =>
      WithinEnvelope currentAttitude.pitch ∧ WithinEnvelope currentAttitude.roll
  | _ => True

/-- A constrained value lies between its bounds. Witness: one case for each branch. -/
theorem constraint_bounds {α : Type*} [LinearOrder α] {minx maxx : α} (range : minx ≤ maxx)
    (x : α)
    : minx ≤ constraint x minx maxx ∧ constraint x minx maxx ≤ maxx := by
  unfold constraint
  split
  · exact ⟨le_refl minx, range⟩
  next above =>
    split
    · exact ⟨range, le_refl maxx⟩
    next below => exact ⟨not_lt.mp above, not_lt.mp below⟩

/-- `navigate` sets targets within the envelope, whatever targets it starts from. -/
theorem AttitudeLoop.navigate_within (range : (minAngle : R) ≤ maxAngle)
    (loop : AttitudeLoop R) (readings : Readings R)
    : (loop.navigate readings).controller.target.WithinEnvelope :=
  ⟨constraint_bounds range _, constraint_bounds range _⟩

variable [Zero R]

/-- The targets of one call lie within the envelope exactly if a takeover starts there. -/
theorem AttitudeLoop.navigatorCall_within (range : (minAngle : R) ≤ maxAngle)
    (loop : AttitudeLoop R) (call : NavigatorCall R)
    : (∀ target ∈ (loop.navigatorCall call).2, target.WithinEnvelope)
      ↔ call.StartsWithin := by
  cases call with
  | onTakeover atReset currentAttitude => exact List.forall_mem_singleton
  | navigate readings =>
      refine ⟨fun _ => trivial, fun _ => ?_⟩
      exact List.forall_mem_singleton.mpr (loop.navigate_within range readings)
  | onRelease => exact ⟨fun _ => trivial, fun _ _ member => by cases member⟩

/-- In every run of the navigator, all targets set lie within the envelope exactly if every
takeover happens at an attitude within it. The constants are only required to stand in
order, so that rounded numbers are covered. Witness: call by call; `navigate` constrains
both targets, a takeover none.
-/
theorem attitudeNavigator_within_iff (range : (minAngle : R) ≤ maxAngle)
    (loop : AttitudeLoop R) (calls : List (NavigatorCall R))
    : (∀ target ∈ (attitudeNavigator.outputs loop calls).flatten, target.WithinEnvelope)
      ↔ ∀ call ∈ calls, call.StartsWithin := by
  rw [← Machine.always_events, ← attitudeNavigator.always_inputs loop]
  exact Machine.always_congr (fun _ => True) trivial
    (fun current call _ => current.navigatorCall_within range call)
    (fun _ _ _ _ => trivial) calls

/-- A takeover in level flight and full stick after it stay within the envelope. -/
theorem attitudeNavigator_within_level
    : let _ := levelMath
      let level : Readings ℚ := ⟨{}, ⟨0, 0, 0⟩⟩
      let banked : Readings ℚ := ⟨{ aileron := 65535 }, ⟨0, 0, 0⟩⟩
      ∀ target ∈ (attitudeNavigator.outputs AttitudeLoop.new
          [.onTakeover level level.attitude, .navigate banked, .onRelease]).flatten,
        target.WithinEnvelope := by
  let _ := levelMath
  have range : (minAngle : ℚ) ≤ maxAngle := by decide +kernel
  have zero : WithinEnvelope (0 : ℚ) := ⟨by decide +kernel, by decide +kernel⟩
  apply (attitudeNavigator_within_iff range _ _).mpr
  simp only [List.forall_mem_cons]
  exact ⟨⟨zero, zero⟩, trivial, trivial, List.forall_mem_nil _⟩

/-- A takeover at a roll of 1.5 radians, some 86 degrees, commands that roll. -/
theorem attitudeNavigator_exceeds
    : let _ := levelMath
      let banked : Readings ℚ := ⟨{}, ⟨0, 3 / 2, 0⟩⟩
      ¬ ∀ target ∈ (attitudeNavigator.outputs AttitudeLoop.new
            [.onTakeover banked banked.attitude]).flatten,
          target.WithinEnvelope := by
  intro _ banked within
  have rolled := (within _ List.mem_cons_self).2.2
  exact absurd rolled (by decide +kernel)

end Cooboc.FlightControl
