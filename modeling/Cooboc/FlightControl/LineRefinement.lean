import Cooboc.FlightControl.ServoLink

/-! The system on its line and the wired system of decoded messages: what the line delivers
are the `decode` steps, and what the messages of the system put on the line arrives at a
receiver of the same protocol.
-/

namespace Cooboc.FlightControl

open Cooboc.Foundations Cooboc.Mavlink

-----------------------------------------------------------------------------------------
-- Reading
-----------------------------------------------------------------------------------------

/-- The channels that `fetchServos` reads from a message. -/
def channelsOf (message : MavlinkMessage) : Option RcChannelsRaw :=
  if mavlinkMsgIdRcChannelsRaw = message.msgid then
    some (rcChannelsRaw message.payload64.toList)
  else
    none

/-- The channels of the `RC_CHANNELS_RAW` messages. -/
def rawChannels (received : List MavlinkMessage) : List RcChannelsRaw :=
  received.filterMap channelsOf

/-- Messages that are handled one after another decode their channels. Witness: induction over
the messages.
-/
theorem SerialServoDriver.handle_all (driver : SerialServoDriver)
    (received : List MavlinkMessage)
    : received.foldl SerialServoDriver.handle driver
      = (rawChannels received).foldl SerialServoDriver.decode driver := by
  induction received generalizing driver with
  | nil => rfl
  | cons message rest ih =>
      rw [List.foldl_cons, ih, rawChannels, rawChannels, List.filterMap_cons, channelsOf,
        SerialServoDriver.handle]
      split <;> rfl

/-- A call of `fetchServos` decodes the messages that its bytes complete. -/
theorem ServoReader.fetchServos_eq (servo : ServoReader) (recvs : List (List UInt8))
    : servo.fetchServos recvs
      = ⟨(rawChannels (messages servo.reader (fetched recvs))).foldl SerialServoDriver.decode
            servo.driver,
          parser.run servo.reader (fetched recvs)⟩ := by
  have completed := completions_messages id servo.reader (fetched recvs)
  rw [List.map_id] at completed
  rw [fetchServos, receiveLoop_eq, List.map_id, ← SerialServoDriver.handle_all, ← completed,
    List.foldl_map]

-----------------------------------------------------------------------------------------
-- Refinement
-----------------------------------------------------------------------------------------

/-- The bytes that a step takes from the line. -/
def LineStep.bytes {R : Type*} : LineStep R → List UInt8
  | .fetchServos recvs => fetched recvs
  | .task _ _ _ => []

/-- The steps of the wired system that steps on the line stand for: a call of `fetchServos`
decodes what it completes.
-/
def decodedSteps {R : Type*} (reader : MavlinkReader) : List (LineStep R) → List (FlightStep R)
  | [] => []
  | .fetchServos recvs :: rest =>
      (rawChannels (messages reader (fetched recvs))).map .decode
        ++ decodedSteps (parser.run reader (fetched recvs)) rest
  | .task step _ _ :: rest => step :: decodedSteps reader rest

/-- The message that a step decodes. -/
def FlightStep.decoded {R : Type*} : FlightStep R → Option RcChannelsRaw
  | .decode message => some message
  | _ => none

variable {R : Type*} [Zero R] [Add R] [Sub R] [Mul R] [Div R] [Neg R] [IntCast R] [LT R]
  [DecidableLT R] [DoubleMath R]

/-- Messages decoded one after another. -/
theorem flight_decodes (system : FlightSystem R) (channels : List RcChannelsRaw)
    : flight.run system (channels.map .decode)
        = { system with
            servoDriver := channels.foldl SerialServoDriver.decode system.servoDriver }
      ∧ (flight.outputs system (channels.map .decode)).flatten = [] := by
  induction channels generalizing system with
  | nil => exact ⟨rfl, rfl⟩
  | cons message rest ih =>
      obtain ⟨state, events⟩ :=
        ih { system with servoDriver := system.servoDriver.decode message }
      exact ⟨state, events⟩

/-- The system on its line is the wired system of the messages that its bytes complete: it
shows the same events, and is in the same state. Witness: induction over the steps; a call of
`fetchServos` is as many `decode` steps as it completes messages.
-/
theorem lineFlight_refines (line : LineFlight R) (steps : List (LineStep R))
    : (lineFlight.run line steps).system = flight.run line.system (decodedSteps line.reader steps)
      ∧ (lineFlight.outputs line steps).flatMap LineOutput.events
        = (flight.outputs line.system (decodedSteps line.reader steps)).flatten
      ∧ (lineFlight.run line steps).reader
        = parser.run line.reader (steps.flatMap LineStep.bytes) := by
  induction steps generalizing line with
  | nil => exact ⟨rfl, rfl, rfl⟩
  | cons step rest ih =>
      obtain ⟨state, events, reader⟩ := ih (lineFlight.step line step).1
      rw [Machine.run_cons, Machine.outputs_cons, List.flatMap_cons, List.flatMap_cons, state,
        events, reader, Machine.run_append]
      cases step with
      | fetchServos recvs =>
          have servo : (lineFlight.step line (.fetchServos recvs)).1
              = { line with
                  system :=
                    { line.system with
                      servoDriver :=
                        (rawChannels (messages line.reader (fetched recvs))).foldl
                          SerialServoDriver.decode line.system.servoDriver }
                  reader := parser.run line.reader (fetched recvs) } := by
            change { line with system := _, reader := _ } = _
            rw [ServoReader.fetchServos_eq]
          obtain ⟨decoded, silent⟩ :=
            flight_decodes line.system (rawChannels (messages line.reader (fetched recvs)))
          rw [servo, decodedSteps, Machine.run_append, Machine.outputs_append,
            List.flatten_append, decoded, silent]
          exact ⟨rfl, rfl, rfl⟩
      | task step work stack => exact ⟨rfl, rfl, rfl⟩

end Cooboc.FlightControl
