import Mathlib.Data.UInt
import Cooboc.Mavlink.Checksum

/-! Messages of `inc/mavlink`: the buffer of `mavlink_types.h`, and the functions of
`mavlink_helpers.h` that finish a message and turn it into the bytes to send.
-/

namespace Cooboc.Mavlink

/-- `MAVLINK_STX`. -/
def mavlinkStx : UInt8 := 254

/-- `MAVLINK_MESSAGE_CRCS`, one byte for each message id. -/
def mavlinkMessageCrcs : List UInt8 :=
  [
    50, 124, 137, 0, 237, 217, 104, 119, 0, 0, 0, 89, 0, 0, 0, 0, 0, 0, 0, 0, 214, 159, 220,
    168, 24, 23, 170, 144, 67, 115, 39, 246, 185, 104, 237, 244, 222, 212, 9, 254, 230, 28,
    28, 132, 221, 232, 11, 153, 41, 39, 0, 0, 0, 0, 15, 3, 0, 0, 0, 0, 0, 153, 183, 51, 82,
    118, 148, 21, 0, 243, 124, 0, 0, 38, 20, 158, 152, 143, 0, 0, 0, 106, 49, 22, 143, 140,
    5, 150, 0, 231, 183, 63, 54, 0, 0, 0, 0, 0, 0, 0, 175, 102, 158, 208, 56, 93, 211, 108,
    32, 185, 84, 0, 0, 124, 119, 4, 76, 128, 56, 116, 134, 237, 203, 250, 87, 203, 220, 25,
    226, 0, 29, 223, 85, 6, 229, 203, 1, 0, 0, 0, 0, 0, 0, 0, 0, 0, 0, 154, 49, 0, 0, 0, 0,
    0, 0, 0, 0, 0, 0, 0, 0, 0, 0, 0, 0, 0, 0, 0, 0, 0, 0, 0, 0, 0, 0, 0, 0, 0, 0, 0, 0, 0,
    0, 0, 0, 0, 0, 0, 0, 0, 0, 0, 0, 0, 0, 0, 0, 0, 0, 0, 0, 0, 0, 0, 0, 0, 0, 0, 0, 0, 0,
    0, 0, 0, 0, 0, 0, 0, 0, 0, 0, 0, 0, 0, 0, 0, 0, 0, 0, 0, 0, 0, 0, 0, 0, 0, 0, 0, 0, 0,
    0, 0, 0, 0, 0, 0, 0, 0, 8, 204, 49, 170, 44, 83, 46, 0
  ]

/-- `MAVLINK_MESSAGE_CRC`. -/
def mavlinkMessageCrc (msgid : UInt8) : UInt8 := mavlinkMessageCrcs.getD msgid.toNat 0

/-- `mavlink_message_t`; `payload64` is read and written by the byte. -/
structure MavlinkMessage where
  checksum : UInt16
  magic : UInt8
  len : UInt8
  seq : UInt8
  sysid : UInt8
  compid : UInt8
  msgid : UInt8
  payload64 : Vector UInt8 264
deriving DecidableEq

def MavlinkMessage.zero : MavlinkMessage := ⟨0, 0, 0, 0, 0, 0, 0, Vector.replicate 264 0⟩

/-- An assignment to a byte behind the payload's start. -/
def MavlinkMessage.write (message : MavlinkMessage) (index : Fin 264) (byte : UInt8)
    : MavlinkMessage :=
  { message with payload64 := message.payload64.set index byte index.isLt }

/-- `memcpy` to the payload's start. -/
def MavlinkMessage.copyPayload (message : MavlinkMessage) (bytes : List UInt8)
    : MavlinkMessage :=
  { message with
    payload64 := Vector.ofFn (fun index => bytes.getD index message.payload64[index]) }

/-- The payload, as long as `len` says. -/
def MavlinkMessage.payload (message : MavlinkMessage) : List UInt8 :=
  message.payload64.toList.take message.len.toNat

/-- The header behind the `magic` byte, which the checksum starts with. -/
def MavlinkMessage.coreHeader (message : MavlinkMessage) : List UInt8 :=
  [message.len, message.seq, message.sysid, message.compid, message.msgid]

/-- `mavlink_start_checksum`. -/
def mavlinkStartChecksum (message : MavlinkMessage) : MavlinkMessage :=
  { message with checksum := x25InitCrc }

/-- `mavlink_update_checksum`. -/
def mavlinkUpdateChecksum (message : MavlinkMessage) (c : UInt8) : MavlinkMessage :=
  { message with checksum := crcAccumulate c message.checksum }

-----------------------------------------------------------------------------------------
-- Sending
-----------------------------------------------------------------------------------------

/-- The byte that a length counts. -/
abbrev atLength : Fin 3 := 0

/-- The byte behind it. -/
abbrev behindLength : Fin 3 := 1

/-- The index of a byte at most two behind one that `len` counts. -/
def payloadIndex (len : UInt8) (offset : Fin 3) : Fin 264 :=
  ⟨len.toNat + offset, by have bound := len.toNat_lt; omega⟩

/-- `mavlink_finalize_message_chan`, with the `current_tx_seq` of the channel, which it counts
up.
-/
def mavlinkFinalizeMessageChan (message : MavlinkMessage) (systemId componentId : UInt8)
    (currentTxSeq : UInt8) (length crcExtra : UInt8)
    : MavlinkMessage × UInt8 :=
  let message :=
    { message with
      magic := mavlinkStx
      len := length
      sysid := systemId
      compid := componentId
      seq := currentTxSeq }
  let message := { message with checksum := crcCalculate message.coreHeader }
  let message :=
    { message with checksum := crcAccumulateBuffer message.checksum message.payload }
  let message := mavlinkUpdateChecksum message crcExtra
  let message := message.write (payloadIndex message.len atLength) (lowByte message.checksum)
  let message := message.write (payloadIndex message.len behindLength) (highByte message.checksum)
  (message, currentTxSeq + 1)

/-- `mavlink_msg_to_send_buffer`: the bytes written to the buffer. -/
def mavlinkMsgToSendBuffer (message : MavlinkMessage) : List UInt8 :=
  message.magic :: message.coreHeader ++ message.payload
    ++ [lowByte message.checksum, highByte message.checksum]

end Cooboc.Mavlink
