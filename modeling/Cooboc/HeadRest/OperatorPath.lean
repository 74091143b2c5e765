import Cooboc.HeadRest.CommandDelivery
import Cooboc.HeadRest.LastCommand
import Cooboc.Server.DeviceConnection

/-! The way of a click to the motor: from the page through the web server, over the display's
websocket, through the main loop, and over the serial line to the firmware.
-/

namespace Cooboc.HeadRest

open Cooboc.Foundations Cooboc.Server

/-- The text that a button of the page emits. -/
def HrCommand.label : HrCommand → String
  | .moveUp => "moveUp"
  | .moveDown => "moveDown"
  | .stopMove => "stopMove"
  | .reset => "reset"

/-- A click on a button. -/
def HrCommand.click (command : HrCommand) : DeviceEvent := .control command.label

/-- The bytes of a text message. -/
def messageBytes (message : String) : Text := message.toUTF8.data.toList

/-- A button's text is what the loop compares with. -/
theorem HrCommand.commandOf_label (command : HrCommand)
    : commandOf (messageBytes command.label) = some command := by
  cases command <;> decide +kernel

/-- The texts that the server sends on a connection. -/
def sentTo (conn : ConnRef) (outputs : List (List (ConnRef × String))) : List String :=
  (outputs.flatten.filter (fun text => text.1 = conn)).map Prod.snd

/-- The bytes that a command takes from the serial line: a reset also those it discards. -/
def Command.consumed (command : Command) : List UInt8 :=
  if command.c = Char.toUInt8 'r' then command.c :: command.pending else [command.c]

/-- The bytes that a call of `loop()` takes from the serial line. -/
def Iteration.consumed (iteration : Iteration) : List UInt8 :=
  iteration.commands.flatMap Command.consumed

-----------------------------------------------------------------------------------------
-- The server
-----------------------------------------------------------------------------------------

theorem sentTo_append (conn : ConnRef) (before after : List (List (ConnRef × String)))
    : sentTo conn (before ++ after) = sentTo conn before ++ sentTo conn after := by
  rw [sentTo, List.flatten_append, List.filter_append, List.map_append]
  rfl

/-- Without clicks, and without a new connection of that name, nothing is sent on it. -/
theorem sentTo_silent {conn : ConnRef} (state : DeviceServer × List ConnRef)
    {events : List DeviceEvent}
    (silent : ∀ event ∈ events, event ≠ .opened conn ∧ ∀ message, event ≠ .control message)
    : sentTo conn (deviceRelay.outputs state events) = [] := by
  induction events generalizing state with
  | nil => rfl
  | cons event rest ih =>
      obtain ⟨own, others⟩ := List.forall_mem_cons.mp silent
      have later := ih (deviceRelay.step state event).1 others
      have first : sentTo conn [(deviceRelay.step state event).2] = [] := by
        cases event with
        | opened other =>
            have apart : other ≠ conn := fun same => own.1 (same ▸ rfl)
            simp [sentTo, deviceRelay, DeviceServer.handle, apart]
        | closed other => rfl
        | control message => exact absurd rfl (own.2 message)
      rw [Machine.outputs_cons, ← List.singleton_append, sentTo_append, first, later]
      rfl

/-- The last click on the way to a connection is the last text sent on it. -/
theorem sentTo_last {conn : ConnRef} (state : DeviceServer × List ConnRef)
    {before after : List DeviceEvent} {message : String}
    (connected : (deviceRelay.run state before).1.serverConnection = some conn)
    (silent : ∀ event ∈ after, event ≠ .opened conn ∧ ∀ message, event ≠ .control message)
    : (sentTo conn (deviceRelay.outputs state (before ++ .control message :: after))).getLast?
      = some message := by
  have reply : (deviceRelay.step (deviceRelay.run state before) (.control message)).2
      = [(conn, message)] := by
    simp only [deviceRelay, DeviceServer.handle] at connected ⊢
    simp only [connected]
  have own : sentTo conn [(deviceRelay.step (deviceRelay.run state before) (.control message)).2]
      = [message] := by
    rw [reply]
    simp [sentTo]
  rw [Machine.outputs_append, Machine.outputs_cons, sentTo_append, ← List.singleton_append,
    sentTo_append, own, sentTo_silent _ silent, List.append_nil]
  exact List.getLast?_concat

-----------------------------------------------------------------------------------------
-- The loop
-----------------------------------------------------------------------------------------

/-- Once the loop has looked and finished its dispatch, the byte of the last command is the last
one written, whatever was delivered during the dispatches before. Witness: the account of the
messages ends with the command, which was handled at least once.
-/
theorem bytesWritten_last {memory : Nat → UInt8} {events : List LoopEvent}
    (looked : Mailbox.slot (mailboxEvents (commandTrace memory events)) = none)
    (finished : (loopAfter memory events).point = .hasNewMessage) {text : Text}
    {command : HrCommand}
    (last : (messagesDelivered (commandTrace memory events)).getLast? = some text)
    (found : commandOf text = some command)
    : (bytesWritten (commandTrace memory events)).getLast? = some command.byte := by
  obtain ⟨account, delivered, written, -, newest⟩ := bytesWritten_accounted memory events looked
    finished
  rw [← delivered, List.getLast?_map] at last
  obtain ⟨⟨own, times⟩, ending, rfl⟩ := Option.map_eq_some_iff.mp last
  obtain ⟨before, rfl⟩ := List.getLast?_eq_some_iff.mp ending
  have yields : commandByte own = some command.byte := by rw [commandByte, found]; rfl
  have handled := newest before own times rfl (by simp [yields])
  obtain ⟨earlier, rfl⟩ := Nat.exists_eq_succ_of_ne_zero (Nat.ne_of_gt handled)
  rw [written, Mailbox.handled_again, yields]
  exact List.getLast?_concat

-----------------------------------------------------------------------------------------
-- The firmware
-----------------------------------------------------------------------------------------

/-- The last byte taken is that of the last command, unless that one discards bytes. -/
theorem consumed_last (before : List Iteration) {iteration : Iteration} {earlier : List Command}
    {last : Command} (commands : iteration.commands = earlier ++ [last])
    (undiscarded : last.c = Char.toUInt8 'r' → last.pending = [])
    : ((before ++ [iteration]).flatMap Iteration.consumed).getLast? = some last.c := by
  have own : last.consumed = [last.c] := by
    rw [Command.consumed]
    split
    case isTrue reset => rw [undiscarded reset]
    case isFalse => rfl
  rw [List.flatMap_append, List.flatMap_singleton, Iteration.consumed, commands,
    List.flatMap_append, List.flatMap_singleton, own, ← List.append_assoc]
  exact List.getLast?_concat

/-- The status that a command leaves, unless it is a reset. -/
def HrCommand.status : HrCommand → MovingStatus
  | .moveUp => .up
  | .moveDown => .down
  | _ => .stop

/-- A command other than a reset sets the status, and keeps the position. -/
theorem Hr.obey_command (hr : Hr) {command : HrCommand} (noReset : command ≠ .reset)
    {last : Command} (byte : last.c = command.byte)
    : (hr.obey last).1 = ⟨command.status, hr.hrPosition⟩ := by
  have bytes : ∀ command : HrCommand, command ≠ .reset →
      (hr.obey ⟨command.byte, last.passes, last.pending⟩).1
        = ⟨command.status, hr.hrPosition⟩ := by
    intro command noReset
    cases command with
    | moveUp => rfl
    | moveDown => rfl
    | stopMove => rfl
    | reset => exact absurd rfl noReset
  have same : last = ⟨command.byte, last.passes, last.pending⟩ := by rw [← byte]
  rw [same]
  exact bytes command noReset

/-- Where a command leaves the head rest, and the motor steps on the way there. -/
def HrCommand.travel (position : AvrInt) (switches : List Switches)
    : HrCommand → Hr × List Direction
  | .moveUp =>
      let readings := switches.map Switches.top
      (climbed position readings, List.replicate (stepsFree readings) .up)
  | .moveDown =>
      let readings := switches.map Switches.bottom
      (lowered position readings, List.replicate (stepsFree readings) .down)
  | _ => (⟨.stop, position⟩, [])

/-- The motion behind a command. -/
theorem HrCommand.travels {command : HrCommand} (noReset : command ≠ .reset)
    (position : AvrInt) (switches : List Switches)
    : mover.run ⟨command.status, position⟩ switches = (command.travel position switches).1
      ∧ motorSteps (mover.outputs ⟨command.status, position⟩ switches).flatten
        = (command.travel position switches).2 := by
  cases command with
  | moveUp => exact mover_climbs position switches
  | moveDown => exact mover_lowers position switches
  | stopMove => exact mover_stopped position switches
  | reset => exact absurd rfl noReset

-----------------------------------------------------------------------------------------
-- The whole way
-----------------------------------------------------------------------------------------

/-- What happens to clicks on their way: the events of the server, the connection over which the
display's handler is served, the loop's run with the messages from that connection, and the calls
of the firmware's `loop()` that read the bytes written, the last of them in `iteration`. The loop
has looked for a message behind the last delivery, and has finished its dispatch.
-/
structure OperatorPath where
  requests : List DeviceEvent
  conn : ConnRef
  memory : Nat → UInt8
  events : List LoopEvent
  delivers
    : messagesDelivered (commandTrace memory events)
      = (sentTo conn (deviceRelay.outputs deviceStart requests)).map messageBytes
  looked : Mailbox.slot (mailboxEvents (commandTrace memory events)) = none
  finished : (loopAfter memory events).point = .hasNewMessage
  hr : Hr
  before : List Iteration
  iteration : Iteration
  earlier : List Command
  last : Command
  after : List Iteration
  commands : iteration.commands = earlier ++ [last]
  quiet : ∀ iteration ∈ after, iteration.commands = []
  reads
    : (before ++ [iteration]).flatMap Iteration.consumed
      = bytesWritten (commandTrace memory events)

/-- The globals when the last command is read. -/
def OperatorPath.stood (path : OperatorPath) : Hr :=
  commandReader.run (firmware.run path.hr path.before) path.earlier

/-- The motor steps behind the last command. -/
def OperatorPath.steps (path : OperatorPath) : List Direction :=
  let obeyed := (path.stood.obey path.last).1
  let moved := obeyed.move path.iteration.top path.iteration.bottom
  motorSteps (moved.2 ++ (firmware.outputs moved.1 path.after).flatten)

/-- Behind the last command the head rest only moves. -/
theorem OperatorPath.moves (path : OperatorPath)
    : let obeyed := (path.stood.obey path.last).1
      let switches := (path.iteration :: path.after).map Iteration.switches
      firmware.run path.hr (path.before ++ path.iteration :: path.after)
          = mover.run obeyed switches
        ∧ path.steps = motorSteps (mover.outputs obeyed switches).flatten := by
  intro obeyed switches
  let moved := obeyed.move path.iteration.top path.iteration.bottom
  have read : commandReader.run (firmware.run path.hr path.before) path.iteration.commands
      = obeyed := by
    rw [path.commands, Machine.run_append]
    rfl
  have looped : (firmware.step (firmware.run path.hr path.before) path.iteration).1
      = moved.1 := by
    change ((commandReader.run _ path.iteration.commands).move _ _).1 = _
    rw [read]
  obtain ⟨later, steps⟩ := firmware_quiet moved.1 path.quiet
  constructor
  · rw [Machine.run_append, Machine.run_cons, looped, later]
    rfl
  · rw [OperatorPath.steps, motorSteps_append]
    change motorSteps moved.2 ++ _ = _
    rw [steps, ← motorSteps_append]
    rfl

/-- A click on one of the three buttons for motion is obeyed, if no other one follows it, and if
no homing discards its byte: the firmware makes a motor step in its direction in every call of
`loop()` until the limit switch is active, or none for a stop, and no others.
-/
theorem click_obeyed (path : OperatorPath) {command : HrCommand} (noReset : command ≠ .reset)
    {clicks later : List DeviceEvent}
    (clicked : path.requests = clicks ++ command.click :: later)
    (connected : (deviceRelay.run deviceStart clicks).1.serverConnection = some path.conn)
    (silent
      : ∀ event ∈ later,
          event ≠ .opened path.conn ∧ ∀ message, event ≠ .control message)
    (undiscarded : path.last.c = Char.toUInt8 'r' → path.last.pending = [])
    : let switches := (path.iteration :: path.after).map Iteration.switches
      let travel := command.travel path.stood.hrPosition switches
      firmware.run path.hr (path.before ++ path.iteration :: path.after) = travel.1
      ∧ path.steps = travel.2 := by
  intro switches travel
  have sent : (sentTo path.conn (deviceRelay.outputs deviceStart
      (clicks ++ command.click :: later))).getLast? = some command.label :=
    sentTo_last deviceStart connected silent
  have delivered : (messagesDelivered (commandTrace path.memory path.events)).getLast?
      = some (messageBytes command.label) := by
    rw [path.delivers, clicked, List.getLast?_map]
    exact congrArg (Option.map messageBytes) sent
  have written := bytesWritten_last path.looked path.finished delivered
    command.commandOf_label
  have byte : path.last.c = command.byte := by
    rw [← path.reads, consumed_last path.before path.commands undiscarded] at written
    exact Option.some.inj written
  obtain ⟨state, steps⟩ := path.moves
  have obeyed := path.stood.obey_command noReset byte
  obtain ⟨moved, moves⟩ := HrCommand.travels noReset path.stood.hrPosition switches
  rw [state, steps, obeyed]
  exact ⟨moved, moves⟩

/-- One click behind the greeting; then four calls of `loop()`, the third with the switch active. -/
def clickedOnce : OperatorPath where
  requests := [.opened 0, HrCommand.moveUp.click]
  conn := 0
  memory := fun _ => 0
  events :=
    .deliver (messageBytes "hello wld") :: List.replicate 7 .advance
      ++ .deliver (messageBytes "moveUp") :: List.replicate 8 .advance
  delivers := by decide +kernel
  looked := by decide +kernel
  finished := by decide +kernel
  hr := Hr.setup
  before := []
  iteration := ⟨[⟨HrDriver.moveUp, [], []⟩], true, true, Fin.last 1023, Fin.last 1023⟩
  earlier := []
  last := ⟨HrDriver.moveUp, [], []⟩
  after :=
    [⟨[], true, true, Fin.last 1023, Fin.last 1023⟩,
      ⟨[], false, true, Fin.last 1023, Fin.last 1023⟩,
      ⟨[], true, true, Fin.last 1023, Fin.last 1023⟩]
  commands := rfl
  quiet := by decide
  reads := by decide +kernel

theorem click_obeyed_once
    : firmware.run Hr.setup
          [clickedOnce.iteration, ⟨[], true, true, Fin.last 1023, Fin.last 1023⟩,
            ⟨[], false, true, Fin.last 1023, Fin.last 1023⟩,
            ⟨[], true, true, Fin.last 1023, Fin.last 1023⟩]
        = ⟨.stop, 2⟩
      ∧ clickedOnce.steps = [.up, .up] := by
  exact @click_obeyed clickedOnce .moveUp (by decide) [.opened 0] [] rfl rfl (by simp)
    (by decide)

end Cooboc.HeadRest
