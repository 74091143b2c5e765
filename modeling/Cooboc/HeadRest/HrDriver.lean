import Cooboc.SerialPacket.SaModem

/-! The reading side of `chicken/device/driver/hr_driver.cpp`: `HrDriver::readData` over the
chunks returned by `SerialHandler::recv`.
-/

namespace Cooboc.HeadRest

open Cooboc.Foundations Cooboc.SerialPacket

/-- What one `recv` call returns: a negative count, or the bytes it read, none included.
Each byte carries the clock readings of its later `demodulateByte` call.
-/
inductive Recv where
  | failed
  | read (chunk : List Arrival)
deriving DecidableEq

/-- The bytes the loop of `readData` runs over; a negative count runs over none. -/
def Recv.arrivals : Recv → List Arrival
  | .failed => []
  | .read chunk => chunk

/-- The members of `HrDriver` that `readData` uses, `mDist` as the pair of its cells. -/
structure HrDriver where
  mReadDataBuffer : Nat → UInt8
  mDist : Int × Int
  mHrPosition : Int
  mHasNewData : Bool
  mSaModem : SaModem

/-- The constructor; `mReadDataBuffer` and the demodulator's buffer stay uninitialised. -/
def HrDriver.new (dataMemory modemMemory : Nat → UInt8) : HrDriver where
  mReadDataBuffer := dataMemory
  mDist := (0, 0)
  mHrPosition := 0
  mHasNewData := false
  mSaModem := SaModem.new modemMemory

/-- `hrPos` as an `int16_t`: high byte, shifted left by eight, or-ed with the low byte. -/
def joinShort (low high : UInt8) : BitVec 16 :=
  (high.toBitVec.setWidth 16 <<< 8) ||| low.toBitVec.setWidth 16

/-- `a0` and `a1`, the same in 32-bit `int`s. -/
def joinInt (low high : UInt8) : BitVec 32 :=
  (high.toBitVec.setWidth 32 <<< 8) ||| low.toBitVec.setWidth 32

/-- The values that are visible right after an assignment in `readData`. -/
structure Publication where
  mHrPosition : Int
  mDist : Int × Int
  mHasNewData : Bool
deriving DecidableEq

/-- The values that are visible now. -/
def HrDriver.publication (driver : HrDriver) : Publication :=
  ⟨driver.mHrPosition, driver.mDist, driver.mHasNewData⟩

/-- The branch of an accepted packet: fetch the payload, whatever its length, and assign
the values built from the first six bytes of the data buffer.
-/
def HrDriver.publish (driver : HrDriver) : HrDriver :=
  let buffer := (driver.mSaModem.getLastPayload driver.mReadDataBuffer).1
  { driver with
    mReadDataBuffer := buffer
    mDist := ((joinInt (buffer 2) (buffer 3)).toInt, (joinInt (buffer 4) (buffer 5)).toInt)
    mHrPosition := (joinShort (buffer 0) (buffer 1)).toInt
    mHasNewData := true }

/-- The loop body of `readData` for one byte, with the values it publishes if any. -/
def HrDriver.readByte (driver : HrDriver) (arrival : Arrival)
    : HrDriver × Option Publication :=
  let (modem, accepted) := driver.mSaModem.demodulateByte arrival
  let driver := { driver with mSaModem := modem }
  if accepted then
    (driver.publish, some driver.publish.publication)
  else
    (driver, none)

/-- The driver as a machine over single bytes. -/
def byteReader : Machine HrDriver Arrival (Option Publication) where
  step := HrDriver.readByte

/-- `readData`: the loop over one `recv` result, with the values published in it. -/
def HrDriver.readData (driver : HrDriver) (recv : Recv) : HrDriver × List Publication :=
  (
    byteReader.run driver recv.arrivals,
    (byteReader.outputs driver recv.arrivals).filterMap id
  )

/-- The driver as a machine over `recv` results. -/
def chunkReader : Machine HrDriver Recv (List Publication) where
  step := HrDriver.readData

end Cooboc.HeadRest
