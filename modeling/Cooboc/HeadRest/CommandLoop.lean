import Cooboc.Foundations.Mailbox
import Cooboc.Websocket.WsHandler

/-! The operator's commands in `setupDeviceForFaurecia` of `chicken.cpp`: the main loop asks
the display's websocket handler for a message and dispatches it to the head rest, while
messages go on arriving. A delivery may fall between any two calls of the loop, whether the
daemon's thread serves the library or the loop's own `sendDistance` does. The loop's other
half, which displays the sensor data, uses neither the message buffer nor the commands.
-/

namespace Cooboc.HeadRest

open Cooboc.Foundations Cooboc.Websocket

/-- A message, or a string literal without its closing zero. -/
abbrev Text := List UInt8

/-- The bytes of a literal. -/
def literal (characters : List Char) : Text := characters.map Char.toUInt8

/-- The byte that `HrDriver::moveUp` sends. -/
def HrDriver.moveUp : UInt8 := Char.toUInt8 'w'

/-- The byte that `HrDriver::moveDown` sends. -/
def HrDriver.moveDown : UInt8 := Char.toUInt8 's'

/-- The byte that `HrDriver::stopMove` sends. -/
def HrDriver.stopMove : UInt8 := Char.toUInt8 ' '

/-- The byte that `HrDriver::resetPosition` sends. -/
def HrDriver.resetPosition : UInt8 := Char.toUInt8 'r'

/-- The four commands that the loop compares the message with, in this order. -/
inductive HrCommand where
  | moveUp
  | moveDown
  | stopMove
  | reset
deriving DecidableEq

/-- The text that a command is compared with. -/
def HrCommand.text : HrCommand → Text
  | .moveUp => literal ['m', 'o', 'v', 'e', 'U', 'p']
  | .moveDown => literal ['m', 'o', 'v', 'e', 'D', 'o', 'w', 'n']
  | .stopMove => literal ['s', 't', 'o', 'p', 'M', 'o', 'v', 'e']
  | .reset => literal ['r', 'e', 's', 'e', 't']

/-- The byte that goes to the Arduino for a command. -/
def HrCommand.byte : HrCommand → UInt8
  | .moveUp => HrDriver.moveUp
  | .moveDown => HrDriver.moveDown
  | .stopMove => HrDriver.stopMove
  | .reset => HrDriver.resetPosition

/-- `strcmp` of a string in memory with a literal: zero, or the difference of the first
bytes that differ.
-/
def strcmp (memory : Nat → UInt8) : Text → Int
  | [] => (memory 0).toNat
  | byte :: rest =>
      if memory 0 = byte then
        strcmp (fun i => memory (i + 1)) rest
      else
        (memory 0).toNat - byte.toNat

-----------------------------------------------------------------------------------------
-- The loop
-----------------------------------------------------------------------------------------

/-- Where the loop stands: before `hasNewMessage`, before one of the two calls of
`getReceivedMessage` (the second one prints), before a comparison, or before the call that
a comparison found.
-/
inductive LoopPoint where
  | hasNewMessage
  | getReceivedMessage
  | printReceivedMessage
  | compare (command : HrCommand)
  | send (command : HrCommand)
deriving DecidableEq

/-- The point behind the branch of a command. -/
def HrCommand.next : HrCommand → LoopPoint
  | .moveUp => .compare .moveDown
  | .moveDown => .compare .stopMove
  | .stopMove => .compare .reset
  | .reset => .hasNewMessage

/-- The loop over the handler that it shares with the library. The loop's variable
`message` points to the handler's buffer, so it holds no state of its own.
-/
structure CommandLoop where
  handler : WsHandler
  point : LoopPoint

/-- The loop before its first iteration, with a handler as constructed. -/
def CommandLoop.initial (memory : Nat → UInt8) : CommandLoop :=
  ⟨WsHandler.new memory, .hasNewMessage⟩

/-- What can be seen of a step: a message delivered, a look at `hasNewMessage`, or a byte
written to the Arduino.
-/
inductive Observation where
  | mailbox (event : MailboxEvent Text)
  | wrote (byte : UInt8)
deriving DecidableEq

/-- The next call of the loop. -/
def CommandLoop.advance (loop : CommandLoop) : CommandLoop × Option Observation :=
  match loop.point with
  | .hasNewMessage =>
      if loop.handler.mHasNewMessage then
        ({ loop with point := .getReceivedMessage }, some (.mailbox .take))
      else
        (loop, some (.mailbox .take))
  | .getReceivedMessage => (⟨loop.handler.getReceivedMessage, .printReceivedMessage⟩, none)
  | .printReceivedMessage => (⟨loop.handler.getReceivedMessage, .compare .moveUp⟩, none)
  | .compare command =>
      -- `message` is the buffer itself: it shows what was delivered last.
      if strcmp loop.handler.mReceivedMessage command.text = 0 then
        ({ loop with point := .send command }, none)
      else
        ({ loop with point := command.next }, none)
  | .send command => ({ loop with point := command.next }, some (.wrote command.byte))

/-- A message from the library, or the loop's next call. -/
inductive LoopEvent where
  | deliver (text : Text)
  | advance
deriving DecidableEq

/-- The handler's messages and the loop's calls in any order. -/
def commandLoop : Machine CommandLoop LoopEvent (Option Observation) where
  step loop
    | .deliver text =>
        (
          { loop with handler := loop.handler.onMessageReceived text },
          some (.mailbox (.put text))
        )
    | .advance => loop.advance

/-- What is seen of a run. -/
abbrev Trace := List (Option Observation)

/-- The mailbox event of a step, if it is one. -/
def Observation.event? : Option Observation → Option (MailboxEvent Text)
  | some (.mailbox event) => some event
  | _ => none

/-- The byte written in a step, if any. -/
def Observation.byte? : Option Observation → Option UInt8
  | some (.wrote byte) => some byte
  | _ => none

/-- The handler's buffer and flag seen as a mailbox: deliveries put, and each look at
`hasNewMessage` takes.
-/
def mailboxEvents (trace : Trace) : List (MailboxEvent Text) :=
  trace.filterMap Observation.event?

/-- The bytes written to the Arduino. -/
def bytesWritten (trace : Trace) : List UInt8 := trace.filterMap Observation.byte?

/-- The messages delivered, in order. -/
def messagesDelivered (trace : Trace) : List Text := Mailbox.messages (mailboxEvents trace)

/-- The messages that were the latest delivered at a look at `hasNewMessage`. -/
def messagesPolled (trace : Trace) : List Text := Mailbox.taken (mailboxEvents trace)

/-- A message as a string: up to its first zero byte. -/
def cString (text : Text) : Text := text.takeWhile (fun byte => decide (byte ≠ 0))

/-- The command of a message, if it is one. -/
def commandOf (text : Text) : Option HrCommand :=
  if cString text = HrCommand.moveUp.text then
    some .moveUp
  else if cString text = HrCommand.moveDown.text then
    some .moveDown
  else if cString text = HrCommand.stopMove.text then
    some .stopMove
  else if cString text = HrCommand.reset.text then
    some .reset
  else
    none

/-- The byte for a message, if it is a command. -/
def commandByte (text : Text) : Option UInt8 := (commandOf text).map HrCommand.byte

/-- A message is a command exactly when it reads as the command's text. -/
theorem commandOf_eq_some {text : Text} {command : HrCommand}
    : commandOf text = some command ↔ cString text = command.text := by
  unfold commandOf
  split_ifs with up down stop reset
  · rw [up]
    cases command <;> decide
  · rw [down]
    cases command <;> decide
  · rw [stop]
    cases command <;> decide
  · rw [reset]
    cases command <;> decide
  · cases command <;> simp_all

end Cooboc.HeadRest
