import Cooboc.FlightControl.StatusController
import Cooboc.Mavlink.Packets
import Cooboc.Mavlink.ReceiveLoop

/-! The serial line of `serial_servo_driver.cpp`: `fetchServos` on the bytes that `recv` returns,
`emitSignal` down to the bytes that `send` writes, and the wired system around both.
-/

namespace Cooboc.FlightControl

open Cooboc.Foundations Cooboc.Mavlink

/-- `MAVLINK_MSG_ID_RC_CHANNELS_RAW`. -/
def mavlinkMsgIdRcChannelsRaw : UInt8 := 35

/-- `MAVLINK_MSG_ID_RC_CHANNELS_OVERRIDE`. -/
def mavlinkMsgIdRcChannelsOverride : UInt8 := 70

/-- `MAVLINK_MSG_ID_RC_CHANNELS_OVERRIDE_CRC`. -/
def mavlinkMsgIdRcChannelsOverrideCrc : UInt8 := 124

/-- `MAVLINK_TARGET_SYSTEM`. -/
def mavlinkTargetSystem : UInt8 := 250

/-- `MAVLINK_COMPONENT_ID`. -/
def mavlinkComponentId : UInt8 := 0

-----------------------------------------------------------------------------------------
-- Packets
-----------------------------------------------------------------------------------------

/-- `mavlink_rc_channels_raw_t`. -/
structure RcChannelsRawPacket where
  timeBootMs : UInt32
  channels : RcChannelsRaw
  port : UInt8
  rssi : UInt8

/-- The channels in order. -/
def RcChannelsRaw.toList (channels : RcChannelsRaw) : List UInt16 :=
  [channels.chan1Raw, channels.chan2Raw, channels.chan3Raw, channels.chan4Raw,
    channels.chan5Raw, channels.chan6Raw, channels.chan7Raw, channels.chan8Raw]

/-- The packet in memory. -/
def RcChannelsRawPacket.bytes (packet : RcChannelsRawPacket) : List UInt8 :=
  putUint32 packet.timeBootMs ++ packet.channels.toList.flatMap putUint16
    ++ [packet.port, packet.rssi]

/-- Eight fields of sixteen bits one behind another. -/
def getChannels (memory : List UInt8) (offset : Nat) : RcChannelsRaw where
  chan1Raw := getUint16 memory offset
  chan2Raw := getUint16 memory (offset + 2)
  chan3Raw := getUint16 memory (offset + 4)
  chan4Raw := getUint16 memory (offset + 6)
  chan5Raw := getUint16 memory (offset + 8)
  chan6Raw := getUint16 memory (offset + 10)
  chan7Raw := getUint16 memory (offset + 12)
  chan8Raw := getUint16 memory (offset + 14)

/-- The channels of a payload taken for a `mavlink_rc_channels_raw_t`. -/
def rcChannelsRaw (memory : List UInt8) : RcChannelsRaw := getChannels memory 4

/-- The channels of a payload taken for a `mavlink_rc_channels_override_t`. -/
def rcChannelsOverride (memory : List UInt8) : RcChannelsRaw := getChannels memory 0

/-- The `mavlink_rc_channels_override_t` of a signal in memory. -/
def overridePacket (channels : List UInt16) : List UInt8 :=
  channels.flatMap putUint16 ++ [mavlinkTargetSystem, mavlinkComponentId]

/-- Channels are read behind whatever stands in front of them. -/
theorem getChannels_put (before : List UInt8) (channels : RcChannelsRaw) (after : List UInt8)
    : getChannels (before ++ (channels.toList.flatMap putUint16 ++ after)) before.length
      = channels := by
  have read (offset : Nat)
      : getUint16 (before ++ (channels.toList.flatMap putUint16 ++ after))
          (before.length + offset)
        = getUint16 (channels.toList.flatMap putUint16 ++ after) offset := by
    rw [getUint16, getUint16, getD_behind, Nat.add_assoc, getD_behind]
  obtain ⟨chan1, chan2, chan3, chan4, chan5, chan6, chan7, chan8⟩ := channels
  simp only [getChannels, read, RcChannelsRaw.mk.injEq]
  have first := read 0
  rw [Nat.add_zero] at first
  rw [first]
  refine ⟨?_, ?_, ?_, ?_, ?_, ?_, ?_, ?_⟩ <;> exact joinUint16_bytes _

-----------------------------------------------------------------------------------------
-- The driver
-----------------------------------------------------------------------------------------

/-- The driver with its reading side of the line. -/
structure ServoReader where
  driver : SerialServoDriver
  reader : MavlinkReader

/-- What `fetchServos` does with a message. The channels are read from the payload's memory
whatever the message's length is.
-/
def SerialServoDriver.handle (driver : SerialServoDriver) (message : MavlinkMessage)
    : SerialServoDriver :=
  if mavlinkMsgIdRcChannelsRaw = message.msgid then
    driver.decode (rcChannelsRaw message.payload64.toList)
  else
    driver

/-- `fetchServos`, over what its `recv` calls return. -/
def ServoReader.fetchServos (servo : ServoReader) (recvs : List (List UInt8)) : ServoReader :=
  let (reader, driver) :=
    receiveLoop id (fun driver _ message => driver.handle message) (servo.reader, servo.driver)
      recvs
  { driver := driver, reader := reader }

/-- `emitSignal` for the channels of an override: the bytes it sends. -/
def emitChannels (stack : MavlinkMessage) (currentTxSeq : UInt8) (channels : List UInt16)
    : MavlinkMessage × UInt8 :=
  mavlinkMsgPack stack mavlinkMsgIdRcChannelsOverride (overridePacket channels)
    mavlinkTargetSystem mavlinkComponentId currentTxSeq mavlinkMsgIdRcChannelsOverrideCrc

-----------------------------------------------------------------------------------------
-- The system on the line
-----------------------------------------------------------------------------------------

/-- The wired system with the storage of the driver's channel, and the sequence number of
`MAVLINK_COMM_0`, on which the driver sends.
-/
structure LineFlight (R : Type*) where
  system : FlightSystem R
  reader : MavlinkReader
  currentTxSeq : UInt8

/-- A call of `fetchServos`, or any other step of the system, with what stands on the stack of
`emitSignal` then.
-/
inductive LineStep (R : Type*) where
  | fetchServos (recvs : List (List UInt8))
  | task (step : FlightStep R) (work : ∀ message, step ≠ .decode message)
      (stack : MavlinkMessage)

/-- What a step shows: its events, and the messages whose bytes it writes to the line. -/
structure LineOutput where
  events : List FlightEvent
  sent : List MavlinkMessage

/-- The channels of the messages among some events. -/
def messageChannels (events : List FlightEvent) : List (List UInt16) :=
  events.filterMap (fun event =>
    match event with
    | .message channels => some channels
    | _ => none)

/-- The messages that `emitSignal` sends one after another. -/
def emitMessages (stack : MavlinkMessage) (currentTxSeq : UInt8)
    : List (List UInt16) → List MavlinkMessage × UInt8
  | [] => ([], currentTxSeq)
  | channels :: rest =>
      let (message, currentTxSeq) := emitChannels stack currentTxSeq channels
      let (messages, currentTxSeq) := emitMessages stack currentTxSeq rest
      (message :: messages, currentTxSeq)

variable {R : Type*} [Zero R] [Add R] [Sub R] [Mul R] [Div R] [Neg R] [IntCast R] [LT R]
  [DecidableLT R] [DoubleMath R]

def LineFlight.step (flight : LineFlight R) : LineStep R → LineFlight R × LineOutput
  | .fetchServos recvs =>
      let servo := ServoReader.fetchServos ⟨flight.system.servoDriver, flight.reader⟩ recvs
      ({ flight with
          system := { flight.system with servoDriver := servo.driver }
          reader := servo.reader },
        ⟨[], []⟩)
  | .task step _ stack =>
      let (system, events) := flight.system.step step
      let (messages, currentTxSeq) :=
        emitMessages stack flight.currentTxSeq (messageChannels events)
      ({ flight with system := system, currentTxSeq := currentTxSeq }, ⟨events, messages⟩)

/-- The wired system on its line as a machine. -/
def lineFlight : Machine (LineFlight R) (LineStep R) LineOutput where
  step := LineFlight.step

end Cooboc.FlightControl
