import Cooboc.Iic.IicHandler
import Cooboc.Inertial.Imu

/-! The reads of `bmx055_driver.cpp` over the I2C handler, and `Imu::readData` that calls
them. Variables that are read without having been assigned hold what their memory happens to
hold; that is an input.
-/

namespace Cooboc.Inertial

open Cooboc.Foundations Cooboc.Iic

/-- `ACC_ADDR`. -/
def accAddr : UInt8 := 0x18

/-- `GYRO_ADDR`. -/
def gyroAddr : UInt8 := 0x68

/-- `MAG_ADDR`. -/
def magAddr : UInt8 := 0x10

/-- The registers of an axis' two bytes. -/
structure AxisRegisters where
  msbAddr : UInt8
  lsbAddr : UInt8

/-- `ACC_*_MSB_ADDR` and `ACC_*_LSB_ADDR`, which are those of the gyro as well. -/
def accRegisters : Point3D AxisRegisters := ⟨⟨0x03, 0x02⟩, ⟨0x05, 0x04⟩, ⟨0x07, 0x06⟩⟩

/-- `GYRO_*_MSB_ADDR` and `GYRO_*_LSB_ADDR`. -/
def gyroRegisters : Point3D AxisRegisters := ⟨⟨0x03, 0x02⟩, ⟨0x05, 0x04⟩, ⟨0x07, 0x06⟩⟩

/-- A register of the magnetometer, with the shift of its axis. -/
structure MagRegister where
  lsbAddr : UInt8
  shift : Nat

/-- `MAG_*_LSB_ADDR`. -/
def magRegisters : Point3D MagRegister := ⟨⟨0x42, 3⟩, ⟨0x44, 3⟩, ⟨0x46, 1⟩⟩

/-- The answers of the system calls of an axis' two transactions. -/
structure AxisCalls where
  msb : SystemCalls
  lsb : SystemCalls

/-- What the memory of the variables `msb` and `lsb` holds before they are assigned. -/
structure AxisLocals where
  msb : Int8
  lsb : UInt8

/-- The two bytes put together in an `int`: `msb`, shifted by eight, or-ed with `lsb`. -/
def joinAxis (msb : Int8) (lsb : UInt8) : Int32 := msb.toInt32 <<< 8 ||| lsb.toUInt32.toInt32

/-- `readGyroAxis`, the high byte first. What `value` held is lost. -/
def readGyroAxis (world : IicWorld) (registers : AxisRegisters) (_value : Int)
    (attempt : AxisCalls × AxisLocals)
    : IicWorld × Int × Bool :=
  let (calls, locals) := attempt
  let (world, _, msb, msbOk) :=
    world.readS8 gyroAddr registers.msbAddr locals.msb calls.msb
  let (world, _, lsb, lsbOk) :=
    world.readU8 gyroAddr registers.lsbAddr locals.lsb calls.lsb
  let ret := joinAxis msb lsb
  (world, ret.toInt, (true && msbOk) && lsbOk)

/-- `readAccAxis`, the low byte first. What `value` held is lost. -/
def readAccAxis (world : IicWorld) (registers : AxisRegisters) (_value : Int)
    (attempt : AxisCalls × AxisLocals)
    : IicWorld × Int × Bool :=
  let (calls, locals) := attempt
  let (world, _, lsb, lsbOk) :=
    world.readU8 accAddr registers.lsbAddr locals.lsb calls.lsb
  let (world, _, msb, msbOk) :=
    world.readS8 accAddr registers.msbAddr locals.msb calls.msb
  let result := joinAxis msb lsb >>> 4
  (world, result.toInt, (true && lsbOk) && msbOk)

/-- The three lines of `readMag` for one axis: the old value is cut to an `int16_t`, perhaps
overwritten, and shifted.
-/
def readMagAxis (world : IicWorld) (register : MagRegister) (value : Int)
    (calls : SystemCalls)
    : IicWorld × Int × Bool :=
  let axisValue := Int16.ofInt value
  let (world, _, axisValue, iicOk) :=
    world.readS16LE magAddr register.lsbAddr axisValue calls
  (world, axisValue.toInt >>> register.shift, iicOk)

/-- The common body of the three reads: axis by axis, with a flag for all of them. -/
def readAxes {α β : Type} (readAxis : IicWorld → α → Int → β → IicWorld × Int × Bool)
    (registers : Point3D α) (world : IicWorld) (value : Point3D Int) (attempts : Point3D β)
    : IicWorld × Point3D Int × Bool :=
  let (world, x, xOk) := readAxis world registers.x value.x attempts.x
  let (world, y, yOk) := readAxis world registers.y value.y attempts.y
  let (world, z, zOk) := readAxis world registers.z value.z attempts.z
  (world, ⟨x, y, z⟩, ((true && xOk) && yOk) && zOk)

def readGyro (world : IicWorld) (value : Point3D Int)
    (attempts : Point3D (AxisCalls × AxisLocals))
    : IicWorld × Point3D Int × Bool :=
  readAxes readGyroAxis gyroRegisters world value attempts

def readAcc (world : IicWorld) (value : Point3D Int)
    (attempts : Point3D (AxisCalls × AxisLocals))
    : IicWorld × Point3D Int × Bool :=
  readAxes readAccAxis accRegisters world value attempts

def readMag (world : IicWorld) (value : Point3D Int) (calls : Point3D SystemCalls)
    : IicWorld × Point3D Int × Bool :=
  readAxes readMagAxis magRegisters world value calls

-----------------------------------------------------------------------------------------
-- Imu::readData
-----------------------------------------------------------------------------------------

/-- The raw members of `Imu`, with those of the magnetometer. -/
structure RawMembers extends RawReadings where
  mag : Point3D Int
deriving DecidableEq

/-- The raw members as constructed. -/
def RawMembers.new : RawMembers := ⟨⟨⟨0, 0, 1⟩, ⟨0, 0, 0⟩⟩, ⟨0, 0, 0⟩⟩

/-- The sensors as `readData` reaches them: the handler and the raw members. -/
structure Sensors where
  world : IicWorld
  raw : RawMembers

/-- The answers of all system calls of one `readData`. -/
structure SensorCalls where
  acc : Point3D AxisCalls
  gyro : Point3D AxisCalls
  mag : Point3D SystemCalls

/-- What the memory of the unassigned variables holds in one `readData`. -/
structure SensorLocals where
  acc : Point3D AxisLocals
  gyro : Point3D AxisLocals

/-- The return values of the three reads. -/
structure SensorFlags where
  acc : Bool
  gyro : Bool
  mag : Bool
deriving DecidableEq

/-- Three values beside three others. -/
def Point3D.zip {α β : Type} (first : Point3D α) (second : Point3D β) : Point3D (α × β) :=
  ⟨(first.x, second.x), (first.y, second.y), (first.z, second.z)⟩

/-- `readData`, with the return values that it ignores. -/
def Sensors.readData (sensors : Sensors) (calls : SensorCalls) (locals : SensorLocals)
    : Sensors × SensorFlags :=
  let (world, acc, accOk) :=
    readAcc sensors.world sensors.raw.acc (calls.acc.zip locals.acc)
  let (world, gyro, gyroOk) := readGyro world sensors.raw.gyro (calls.gyro.zip locals.gyro)
  let (world, mag, magOk) := readMag world sensors.raw.mag calls.mag
  (⟨world, ⟨⟨acc, gyro⟩, mag⟩⟩, ⟨accOk, gyroOk, magOk⟩)

/-- The sensors under repeated calls of `readData`. -/
def sensorReads : Machine Sensors (SensorCalls × SensorLocals) SensorFlags where
  step sensors input := sensors.readData input.1 input.2

end Cooboc.Inertial
