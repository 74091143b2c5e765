import Cooboc.Mavlink.Message
import Cooboc.Foundations.Machine

/-! `mavlink_parse_char`: the state machine that reads one byte at a time into the buffer of
a channel, and copies the buffer out when a message is complete.
-/

namespace Cooboc.Mavlink

open Cooboc.Foundations

/-- `mavlink_parse_state_t`. -/
inductive MavlinkParseState where
  | uninit
  | idle
  | gotStx
  | gotSeq
  | gotLength
  | gotSysid
  | gotCompid
  | gotMsgid
  | gotPayload
  | gotCrc1
deriving DecidableEq

/-- `mavlink_status_t`. -/
structure MavlinkStatus where
  msgReceived : UInt8
  bufferOverrun : UInt8
  parseError : UInt8
  parseState : MavlinkParseState
  packetIdx : UInt8
  currentRxSeq : UInt8
  currentTxSeq : UInt8
  packetRxSuccessCount : UInt16
  packetRxDropCount : UInt16
deriving DecidableEq

/-- A channel's static storage, and the two objects that its reader passes in. -/
structure MavlinkReader where
  status : MavlinkStatus
  rxmsg : MavlinkMessage
  rMessage : MavlinkMessage
  rMavlinkStatus : MavlinkStatus
deriving DecidableEq

def MavlinkStatus.zero : MavlinkStatus where
  msgReceived := 0
  bufferOverrun := 0
  parseError := 0
  parseState := .uninit
  packetIdx := 0
  currentRxSeq := 0
  currentTxSeq := 0
  packetRxSuccessCount := 0
  packetRxDropCount := 0

/-- A channel as the program starts: its static storage is zero, the reader's two objects are
as they are found.
-/
def MavlinkReader.new (rMessage : MavlinkMessage) (rMavlinkStatus : MavlinkStatus)
    : MavlinkReader where
  status := MavlinkStatus.zero
  rxmsg := MavlinkMessage.zero
  rMessage := rMessage
  rMavlinkStatus := rMavlinkStatus

/-- The byte of the payload that `packet_idx` counts, or the one behind it. -/
def MavlinkReader.index (reader : MavlinkReader) (offset : Fin 3) : Fin 264 :=
  payloadIndex reader.status.packetIdx offset

/-- The failed comparison of a check byte: a `MAVLINK_STX` starts the next message. -/
def MavlinkReader.checkFailed (reader : MavlinkReader) (c : UInt8) : MavlinkReader :=
  let status :=
    { reader.status with
      parseError := reader.status.parseError + 1
      msgReceived := 0
      parseState := .idle }
  if c = mavlinkStx then
    { reader with
      status := { status with parseState := .gotStx }
      rxmsg := mavlinkStartChecksum { reader.rxmsg with len := 0 } }
  else
    { reader with status := status }

/-- The state machine of `mavlink_parse_char`. -/
def MavlinkReader.parse (reader : MavlinkReader) (c : UInt8) : MavlinkReader :=
  let { status, rxmsg, .. } := reader
  match status.parseState with
  | .uninit | .idle =>
      if c = mavlinkStx then
        { reader with
          status := { status with parseState := .gotStx }
          rxmsg := mavlinkStartChecksum { rxmsg with len := 0, magic := c } }
      else
        reader
  | .gotStx =>
      if status.msgReceived ≠ 0 then
        { reader with
          status :=
            { status with
              bufferOverrun := status.bufferOverrun + 1
              parseError := status.parseError + 1
              msgReceived := 0
              parseState := .idle } }
      else
        { reader with
          status := { status with packetIdx := 0, parseState := .gotLength }
          rxmsg := mavlinkUpdateChecksum { rxmsg with len := c } c }
  | .gotLength =>
      { reader with
        status := { status with parseState := .gotSeq }
        rxmsg := mavlinkUpdateChecksum { rxmsg with seq := c } c }
  | .gotSeq =>
      { reader with
        status := { status with parseState := .gotSysid }
        rxmsg := mavlinkUpdateChecksum { rxmsg with sysid := c } c }
  | .gotSysid =>
      { reader with
        status := { status with parseState := .gotCompid }
        rxmsg := mavlinkUpdateChecksum { rxmsg with compid := c } c }
  | .gotCompid =>
      { reader with
        status :=
          { status with parseState := if rxmsg.len = 0 then .gotPayload else .gotMsgid }
        rxmsg := mavlinkUpdateChecksum { rxmsg with msgid := c } c }
  | .gotMsgid =>
      let packetIdx := status.packetIdx + 1
      { reader with
        status :=
          { status with
            packetIdx := packetIdx
            parseState := if packetIdx = rxmsg.len then .gotPayload else .gotMsgid }
        rxmsg := mavlinkUpdateChecksum (rxmsg.write (reader.index atLength) c) c }
  | .gotPayload =>
      let rxmsg := mavlinkUpdateChecksum rxmsg (mavlinkMessageCrc rxmsg.msgid)
      let reader := { reader with rxmsg := rxmsg }
      if c ≠ lowByte rxmsg.checksum then
        reader.checkFailed c
      else
        { reader with
          status := { status with parseState := .gotCrc1 }
          rxmsg := rxmsg.write (reader.index atLength) c }
  | .gotCrc1 =>
      if c ≠ highByte rxmsg.checksum then
        reader.checkFailed c
      else
        let rxmsg := rxmsg.write (reader.index behindLength) c
        { reader with
          status := { status with msgReceived := 1, parseState := .idle }
          rxmsg := rxmsg
          rMessage := rxmsg }

/-- The counters of a received message. -/
def MavlinkReader.count (reader : MavlinkReader) : MavlinkReader :=
  let status := reader.status
  if status.msgReceived = 1 then
    { reader with
      status :=
        { status with
          currentRxSeq := reader.rxmsg.seq
          packetRxDropCount :=
            if status.packetRxSuccessCount = 0 then 0 else status.packetRxDropCount
          packetRxSuccessCount := status.packetRxSuccessCount + 1 } }
  else
    reader

/-- What is reported to the reader; the parse errors are counted anew. -/
def MavlinkReader.report (reader : MavlinkReader) : MavlinkReader :=
  let status := reader.status
  { reader with
    status := { status with parseError := 0 }
    rMavlinkStatus :=
      { reader.rMavlinkStatus with
        currentRxSeq := status.currentRxSeq + 1
        packetRxSuccessCount := status.packetRxSuccessCount
        packetRxDropCount := status.parseError.toUInt16 } }

/-- `msg_received` is cleared first. -/
def MavlinkReader.clear (reader : MavlinkReader) : MavlinkReader :=
  { reader with status := { reader.status with msgReceived := 0 } }

/-- `mavlink_parse_char`: the storage it leaves, and what it returns. -/
def mavlinkParseChar (reader : MavlinkReader) (c : UInt8) : MavlinkReader × UInt8 :=
  let reader := ((reader.clear.parse c).count).report
  (reader, reader.status.msgReceived)

/-- The messages that the bytes of one channel complete, each with the storage it leaves. -/
def parser : Machine MavlinkReader UInt8 (Option MavlinkMessage) where
  step reader c :=
    let (reader, received) := mavlinkParseChar reader c
    (reader, if received ≠ 0 then some reader.rMessage else none)

end Cooboc.Mavlink
