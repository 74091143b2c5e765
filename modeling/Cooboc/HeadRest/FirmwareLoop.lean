import Cooboc.Foundations.Machine
import Cooboc.HeadRest.Firmware

/-! `setup()` and `loop()` of `arduino/hr/hr.ino`. The results of `Serial.read`,
`digitalRead` and `analogRead` are the inputs; what the firmware reads, decides and does
comes out as a trace of events.
-/

namespace Cooboc.HeadRest

open Cooboc.Foundations

/-- The values `MOVING_STATUS_STOP`, `MOVING_STATUS_UP` and `MOVING_STATUS_DOWN`. -/
inductive MovingStatus where
  | stop
  | up
  | down
deriving DecidableEq

/-- The two motor functions, `moveHrUp` and `moveHrDown`. -/
inductive Direction where
  | up
  | down
deriving DecidableEq

/-- The two globals of the sketch. -/
structure Hr where
  hrMovingStatus : MovingStatus
  hrPosition : AvrInt
deriving DecidableEq

/-- What the firmware does, in the order it does it. A switch that is active pulls its pin
low, so a reading is true while the switch is inactive.
-/
inductive HrEvent where
  /-- `c = Serial.read()` of the command loop -/
  | command (c : UInt8)
  /-- `Serial.read()` of the loop that discards what is pending after a homing -/
  | discard (c : UInt8)
  /-- `digitalRead(PIN_LIMIT_BOTTOM)` in the condition of the homing loop -/
  | homing (reading : Bool)
  /-- the globals right after the homing loop and `hrPosition = 0` -/
  | homed (hr : Hr)
  /-- a call of the direction's motor function -/
  | called (direction : Direction)
  /-- `digitalRead` of the direction's limit switch in that function -/
  | limit (direction : Direction) (reading : Bool)
  /-- the four phases of one complete motor step -/
  | stepped (direction : Direction)
  /-- the globals when a frame is built, and the bytes written -/
  | sent (hr : Hr) (bytes : List UInt8)
deriving DecidableEq

/-- The globals after `setup()`. -/
def Hr.setup : Hr := ⟨.stop, 0⟩

/-- `moveHrUp`, where the top switch reads `top`. -/
def Hr.moveHrUp (hr : Hr) (top : Bool) : Hr × List HrEvent :=
  if !top then
    ({ hr with hrMovingStatus := .stop }, [.called .up, .limit .up top])
  else
    ({ hr with hrPosition := hr.hrPosition + 1 },
      [.called .up, .limit .up top, .stepped .up])

/-- `moveHrDown`, where the bottom switch reads `bottom`. -/
def Hr.moveHrDown (hr : Hr) (bottom : Bool) : Hr × List HrEvent :=
  if !bottom then
    (⟨.stop, 0⟩, [.called .down, .limit .down bottom])
  else
    ({ hr with hrPosition := hr.hrPosition - 1 },
      [.called .down, .limit .down bottom, .stepped .down])

/-- What a motor function shows: its call, its read, and a step if it reads inactive. -/
def motorEvents (direction : Direction) (reading : Bool) : List HrEvent :=
  .called direction :: .limit direction reading
    :: if reading then [.stepped direction] else []

theorem Hr.moveHrUp_events (hr : Hr) (top : Bool)
    : (hr.moveHrUp top).2 = motorEvents .up top := by
  cases top with
  | false => rfl
  | true => rfl

theorem Hr.moveHrDown_events (hr : Hr) (bottom : Bool)
    : (hr.moveHrDown bottom).2 = motorEvents .down bottom := by
  cases bottom with
  | false => rfl
  | true => rfl

/-- The loop `while (digitalRead(PIN_LIMIT_BOTTOM)) moveHrDown();`. It makes one pass for
each element, which is what `moveHrDown` itself reads from the switch in that pass; the
condition reads inactive before each pass and active after the last one.
-/
def Hr.descend (hr : Hr) : List Bool → Hr × List HrEvent
  | [] => (hr, [.homing false])
  | bottom :: passes =>
      let (moved, events) := hr.moveHrDown bottom
      let (arrived, later) := moved.descend passes
      (arrived, .homing true :: events ++ later)

/-- A pass of the homing loop: the condition reads inactive, the motor function is called, and
the rest of the loop follows.
-/
theorem Hr.descend_cons (hr : Hr) (bottom : Bool) (passes : List Bool)
    : (hr.descend (bottom :: passes)).2
      = .homing true :: motorEvents .down bottom
        ++ ((hr.moveHrDown bottom).1.descend passes).2 := by
  rw [← hr.moveHrDown_events]
  rfl

/-- One byte taken by the command loop. Only the case `'r'` uses the other two: the
switch readings of its homing and the bytes it discards after that.
-/
structure Command where
  c : UInt8
  passes : List Bool
  pending : List UInt8
deriving DecidableEq

/-- The case `'r'`: home, zero the position, discard pending bytes. It has no `break`, but
the default case that follows does nothing.
-/
def Hr.reset (hr : Hr) (command : Command) : Hr × List HrEvent :=
  let (arrived, descent) := hr.descend command.passes
  let hr := { arrived with hrPosition := 0 }
  (hr, descent ++ .homed hr :: command.pending.map .discard)

/-- The body of the command loop: read one byte and switch on it. -/
def Hr.obey (hr : Hr) (command : Command) : Hr × List HrEvent :=
  let read := HrEvent.command command.c
  if command.c = Char.toUInt8 'w' then
    ({ hr with hrMovingStatus := .up }, [read])
  else if command.c = Char.toUInt8 's' then
    ({ hr with hrMovingStatus := .down }, [read])
  else if command.c = Char.toUInt8 ' ' then
    ({ hr with hrMovingStatus := .stop }, [read])
  else if command.c = Char.toUInt8 'r' then
    ((hr.reset command).1, read :: (hr.reset command).2)
  else
    (hr, [read])

theorem reset_byte
    : Char.toUInt8 'r' ≠ Char.toUInt8 'w'
      ∧ Char.toUInt8 'r' ≠ Char.toUInt8 's'
      ∧ Char.toUInt8 'r' ≠ Char.toUInt8 ' ' := by
  decide

theorem Hr.obey_reset (hr : Hr) {command : Command} (reset : command.c = Char.toUInt8 'r')
    : hr.obey command = ((hr.reset command).1, .command command.c :: (hr.reset command).2) := by
  obtain ⟨notUp, notDown, notStop⟩ := reset_byte
  simp only [Hr.obey, reset, if_neg notUp, if_neg notDown, if_neg notStop, if_true]

/-- Any other command keeps the position, and leaves its byte as the only event. -/
theorem Hr.obey_other (hr : Hr) {command : Command} (other : command.c ≠ Char.toUInt8 'r')
    : (hr.obey command).1.hrPosition = hr.hrPosition
      ∧ (hr.obey command).2 = [.command command.c] := by
  unfold Hr.obey
  dsimp only
  rw [if_neg other]
  split
  · exact ⟨rfl, rfl⟩
  · split
    · exact ⟨rfl, rfl⟩
    · split
      · exact ⟨rfl, rfl⟩
      · exact ⟨rfl, rfl⟩

/-- The command loop as a machine over the bytes that `Serial.available` announces. -/
def commandReader : Machine Hr Command (List HrEvent) where
  step := Hr.obey

/-- The switch on `hrMovingStatus` behind the command loop. -/
def Hr.move (hr : Hr) (top bottom : Bool) : Hr × List HrEvent :=
  match hr.hrMovingStatus with
  | .up => hr.moveHrUp top
  | .down => hr.moveHrDown bottom
  | .stop => (hr, [])

/-- What one call of `loop()` reads: the commands, the limit switches where a motor function
looks at them, and the two analog inputs.
-/
structure Iteration where
  commands : List Command
  top : Bool
  bottom : Bool
  d1 : Fin 1024
  d2 : Fin 1024
deriving DecidableEq

/-- `loop()`: obey the commands, move, send a frame. -/
def Hr.loop (hr : Hr) (iteration : Iteration) : Hr × List HrEvent :=
  let commanded := commandReader.run hr iteration.commands
  let obeyed := (commandReader.outputs hr iteration.commands).flatten
  let (moved, events) := commanded.move iteration.top iteration.bottom
  let sample : Sample := ⟨moved.hrPosition, iteration.d1, iteration.d2⟩
  (moved, obeyed ++ events ++ [.sent moved sample.frame])

/-- The sketch as a machine over calls of `loop()`. -/
def firmware : Machine Hr Iteration (List HrEvent) where
  step := Hr.loop

end Cooboc.HeadRest
