import Mathlib.Logic.Function.Basic
import Cooboc.Foundations.Machine

/-! The serial packet demodulator of `chicken/utils/sa_modem.cpp`. -/

namespace Cooboc.SerialPacket

open Cooboc.Foundations

/-- `unsigned long` milliseconds, with their wrapping subtraction. -/
abbrev UnsignedLong := BitVec 64

/-- `SA_LEADING_BYTE`, the character `S`. -/
def saLeadingByte : UInt8 := 0x53

/-- `SA_CHECK_BYTE`, the character `A`. -/
def saCheckByte : UInt8 := 0x41

/-- `SA_PACKET_TIMEOUT` in milliseconds. -/
def saPacketTimeout : UnsignedLong := 500#64

/-- The members of `SaModem`. `mPayloadBuffer` is read and written by index; nothing
clears it.
-/
structure SaModem where
  mIsPacketLocked : Bool
  mPacketIndex : Nat
  mPayloadIndex : Nat
  mPayloadSize : Nat
  lastDecodeTime : UnsignedLong
  mPayloadBuffer : Nat → UInt8

/-- The constructor; it leaves `mPayloadBuffer` as the memory it finds. -/
def SaModem.new (memory : Nat → UInt8) : SaModem where
  mIsPacketLocked := false
  mPacketIndex := 0
  mPayloadIndex := 0
  mPayloadSize := 0
  lastDecodeTime := 0#64
  mPayloadBuffer := memory

/-- A byte with the two `millis()` readings of its `demodulateByte` call: the one that is
stored and the later one that is compared.
-/
structure Arrival where
  byte : UInt8
  decodeTime : UnsignedLong
  checkTime : UnsignedLong
deriving DecidableEq

def SaModem.resetStatus (modem : SaModem) : SaModem :=
  { modem with
    mPacketIndex := 0
    mPayloadIndex := 0
    mIsPacketLocked := false
    mPayloadSize := 0 }

/-- The assignment `lastDecodeTime = millis()`. -/
def SaModem.stamp (modem : SaModem) (arrival : Arrival) : SaModem :=
  { modem with lastDecodeTime := arrival.decodeTime }

/-- The case of packet index 2: the byte is the payload length. -/
def SaModem.readSize (modem : SaModem) (byte : UInt8) : SaModem × Bool :=
  ({ modem with
      mPayloadSize := byte.toNat
      mPayloadIndex := 0
      mPacketIndex := if byte.toNat = 0 then 4 else 3 },
    false)

/-- The case of packet index 3: the byte is the next payload byte. -/
def SaModem.readPayload (modem : SaModem) (byte : UInt8) : SaModem × Bool :=
  ({ modem with
      mPayloadBuffer := Function.update modem.mPayloadBuffer modem.mPayloadIndex byte
      mPayloadIndex := modem.mPayloadIndex + 1
      mPacketIndex :=
        if modem.mPayloadIndex + 1 = modem.mPayloadSize then
          modem.mPacketIndex + 1
        else
          modem.mPacketIndex },
    false)

/-- The loop that folds the stored payload into `crcCalculated`. -/
def SaModem.crcCalculated (modem : SaModem) : UInt8 :=
  (List.range modem.mPayloadSize).foldl (fun crc i => crc ^^^ modem.mPayloadBuffer i) 0

/-- The case of packet index 4: the byte is the checksum. -/
def SaModem.readCrc (modem : SaModem) (byte : UInt8) : SaModem × Bool :=
  if byte = modem.crcCalculated then
    ({ modem with mIsPacketLocked := false }, true)
  else
    (modem.resetStatus, false)

/-- `demodulateByte`: the next state and the returned flag. -/
def SaModem.demodulateByte (modem : SaModem) (arrival : Arrival) : SaModem × Bool :=
  let byte := arrival.byte
  let lastTime := modem.lastDecodeTime
  let modem := modem.stamp arrival
  if modem.mIsPacketLocked then
    if saPacketTimeout < arrival.checkTime - lastTime then
      (modem.resetStatus, false)
    else
      match modem.mPacketIndex with
      | 0 => (modem.resetStatus, false)
      | 1 =>
          if byte = saCheckByte then
            ({ modem with mPacketIndex := 2 }, false)
          else
            -- No `break` here: any other byte falls through into the length case.
            modem.readSize byte
      | 2 => modem.readSize byte
      | 3 => modem.readPayload byte
      | 4 => modem.readCrc byte
      | _ => (modem.resetStatus, false)
  else if byte = saLeadingByte then
    ({ modem with mPacketIndex := 1, mPayloadIndex := 0, mIsPacketLocked := true }, false)
  else
    (modem.resetStatus, false)

/-- `getLastPayload`: the caller's buffer with the stored payload copied over its front,
and the returned length.
-/
def SaModem.getLastPayload (modem : SaModem) (buffer : Nat → UInt8)
    : (Nat → UInt8) × Nat :=
  (fun i => if i < modem.mPayloadSize then modem.mPayloadBuffer i else buffer i,
    modem.mPayloadSize)

/-- The demodulator as a machine over arriving bytes. -/
def demodulator : Machine SaModem Arrival Bool where
  step := SaModem.demodulateByte

/-- (modem.Delivers payload) says that `getLastPayload` returns the length of `payload`
and copies exactly its bytes, whatever the caller's buffer holds.
-/
def SaModem.Delivers (modem : SaModem) (payload : List UInt8) : Prop :=
  ∀ buffer,
    (modem.getLastPayload buffer).2 = payload.length
    ∧ ∀ i (bound : i < payload.length), (modem.getLastPayload buffer).1 i = payload[i]

end Cooboc.SerialPacket
