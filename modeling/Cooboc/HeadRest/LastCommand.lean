import Mathlib.Data.List.TakeDrop
import Cooboc.HeadRest.FirmwareLoop

/-! The motion behind the last command that `hr.ino` obeys: one motor step in each call of
`loop()` until the limit switch of its direction is found active, and none for a stop.
-/

namespace Cooboc.HeadRest

open Cooboc.Foundations

/-- The switches as the motor functions of an iteration would read them. -/
structure Switches where
  top : Bool
  bottom : Bool
deriving DecidableEq

def Iteration.switches (iteration : Iteration) : Switches := ⟨iteration.top, iteration.bottom⟩

/-- The motion alone, over what the switches read. -/
def mover : Machine Hr Switches (List HrEvent) where
  step hr switches := hr.move switches.top switches.bottom

/-- The direction of a complete motor step. -/
def HrEvent.direction? : HrEvent → Option Direction
  | .stepped direction => some direction
  | _ => none

/-- The motor steps among some events. -/
def motorSteps (events : List HrEvent) : List Direction := events.filterMap HrEvent.direction?

theorem motorSteps_append (before after : List HrEvent)
    : motorSteps (before ++ after) = motorSteps before ++ motorSteps after :=
  List.filterMap_append

/-- How often the motor can step before a switch is active. -/
def stepsFree (readings : List Bool) : Nat := (readings.takeWhile id).length

/-- The globals behind a motion up from a position. -/
def climbed (position : AvrInt) (readings : List Bool) : Hr :=
  ⟨if stepsFree readings = readings.length then .up else .stop,
    position + BitVec.ofNat 16 (stepsFree readings)⟩

/-- The globals behind a motion down; the position is set to zero at the switch. -/
def lowered (position : AvrInt) (readings : List Bool) : Hr :=
  if stepsFree readings = readings.length then
    ⟨.down, position - BitVec.ofNat 16 (stepsFree readings)⟩
  else
    ⟨.stop, 0⟩

/-- One more step before the rest of a climb. -/
theorem climbed_cons (position : AvrInt) (readings : List Bool)
    : climbed position (true :: readings) = climbed (position + 1) readings := by
  have free : stepsFree (true :: readings) = stepsFree readings + 1 := rfl
  simp only [climbed, free, List.length_cons, Nat.add_right_cancel_iff]
  congr 1
  rw [BitVec.ofNat_add, add_assoc, add_comm 1]
  rfl

/-- One more step before the rest of a motion down. -/
theorem lowered_cons (position : AvrInt) (readings : List Bool)
    : lowered position (true :: readings) = lowered (position - 1) readings := by
  have free : stepsFree (true :: readings) = stepsFree readings + 1 := rfl
  have position' : position - BitVec.ofNat 16 (stepsFree readings + 1)
      = position - 1 - BitVec.ofNat 16 (stepsFree readings) := by
    rw [BitVec.ofNat_add, add_comm, ← sub_sub]
    rfl
  simp only [lowered, free, List.length_cons, Nat.add_right_cancel_iff, position']

/-- At rest nothing moves. -/
theorem mover_stopped (position : AvrInt) (switches : List Switches)
    : mover.run ⟨.stop, position⟩ switches = ⟨.stop, position⟩
      ∧ motorSteps (mover.outputs ⟨.stop, position⟩ switches).flatten = [] := by
  induction switches with
  | nil => exact ⟨rfl, rfl⟩
  | cons first rest ih => exact ih

/-- The head rest climbs until the top switch is active. Witness: induction over the readings; an
active one leaves it at rest.
-/
theorem mover_climbs (position : AvrInt) (switches : List Switches)
    : mover.run ⟨.up, position⟩ switches = climbed position (switches.map Switches.top)
      ∧ motorSteps (mover.outputs ⟨.up, position⟩ switches).flatten
        = List.replicate (stepsFree (switches.map Switches.top)) .up := by
  induction switches generalizing position with
  | nil =>
      refine ⟨?_, rfl⟩
      simp [climbed, stepsFree]
  | cons first rest ih =>
      obtain ⟨top, bottom⟩ := first
      cases top with
      | false =>
          obtain ⟨stays, still⟩ := mover_stopped position rest
          refine ⟨?_, still⟩
          refine Eq.trans stays ?_
          simp [climbed, stepsFree]
      | true =>
          obtain ⟨later, steps⟩ := ih (position + 1)
          refine ⟨?_, congrArg (Direction.up :: ·) steps⟩
          exact Eq.trans later (climbed_cons position _).symm

/-- The head rest goes down until the bottom switch is active. -/
theorem mover_lowers (position : AvrInt) (switches : List Switches)
    : mover.run ⟨.down, position⟩ switches = lowered position (switches.map Switches.bottom)
      ∧ motorSteps (mover.outputs ⟨.down, position⟩ switches).flatten
        = List.replicate (stepsFree (switches.map Switches.bottom)) .down := by
  induction switches generalizing position with
  | nil =>
      refine ⟨?_, rfl⟩
      simp [lowered, stepsFree]
  | cons first rest ih =>
      obtain ⟨top, bottom⟩ := first
      cases bottom with
      | false =>
          obtain ⟨stays, still⟩ := mover_stopped 0 rest
          refine ⟨?_, still⟩
          refine Eq.trans stays ?_
          simp [lowered, stepsFree]
      | true =>
          obtain ⟨later, steps⟩ := ih (position - 1)
          refine ⟨?_, congrArg (Direction.down :: ·) steps⟩
          exact Eq.trans later (lowered_cons position _).symm

/-- Calls of `loop()` without commands move, and send. -/
theorem firmware_quiet (hr : Hr) {iterations : List Iteration}
    (quiet : ∀ iteration ∈ iterations, iteration.commands = [])
    : firmware.run hr iterations = mover.run hr (iterations.map Iteration.switches)
      ∧ motorSteps (firmware.outputs hr iterations).flatten
        = motorSteps (mover.outputs hr (iterations.map Iteration.switches)).flatten := by
  induction iterations generalizing hr with
  | nil => exact ⟨rfl, rfl⟩
  | cons iteration rest ih =>
      obtain ⟨none, others⟩ := List.forall_mem_cons.mp quiet
      let moved := hr.move iteration.top iteration.bottom
      obtain ⟨later, steps⟩ := ih moved.1 others
      have looped : firmware.step hr iteration
          = (moved.1,
              moved.2 ++ [.sent moved.1
                (Sample.frame ⟨moved.1.hrPosition, iteration.d1, iteration.d2⟩)]) := by
        change hr.loop iteration = _
        rw [Hr.loop, none]
        rfl
      have own : motorSteps (moved.2 ++ [.sent moved.1
            (Sample.frame ⟨moved.1.hrPosition, iteration.d1, iteration.d2⟩)])
          = motorSteps moved.2 := by
        rw [motorSteps_append]
        exact List.append_nil _
      rw [Machine.run_cons, Machine.outputs_cons, looped, List.flatten_cons, motorSteps_append,
        own, steps, later]
      refine ⟨rfl, ?_⟩
      rw [List.map_cons, Machine.outputs_cons, List.flatten_cons, motorSteps_append]
      rfl

end Cooboc.HeadRest
