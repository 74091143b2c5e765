import Cooboc.Foundations.Machine
import Cooboc.FlightControl.Signals

/-! The inertial unit of `device/imu.cpp` with `utils/fol_filter.cpp` and the `Point3D` of
`utils/util.cpp`: raw readings are filtered, the estimates of gravity and of the magnetic
field are turned by the gyro, and the accelerometer is mixed into the first one.
-/

namespace Cooboc.Inertial

open Cooboc.Foundations Cooboc.FlightControl

/-- The functions of the mathematical library that only the sensor code uses. -/
class TrigMath (R : Type*) extends DoubleMath R where
  sqrt : R → R
  asin : R → R
  acos : R → R

/-- `Point3D`, which also stands for three members that differ in their last letter. -/
structure Point3D (R : Type*) where
  x : R
  y : R
  z : R
deriving DecidableEq

/-- The members of `FolFilter` and of its base class. -/
structure FolFilter (R : Type*) where
  mQ : R
  mLastValue : R
deriving DecidableEq

/-- What `readData` leaves in the raw members, three axes each. -/
structure RawReadings where
  acc : Point3D Int
  gyro : Point3D Int
deriving DecidableEq

/-- The members of `Imu`; the magnetometer's raw value is read but never used. -/
structure Imu (R : Type*) where
  m_rawAcc : Point3D Int
  m_rawGyro : Point3D Int
  m_acc : Point3D R
  m_turn : Point3D R
  m_estMagnet : Point3D R
  m_est : Point3D R
  m_pitch : R
  m_roll : R
  m_heading : R
  axFilter : FolFilter R
  ayFilter : FolFilter R
  azFilter : FolFilter R
deriving DecidableEq

variable {R : Type*} [Zero R] [Add R] [Sub R] [Mul R] [Div R] [Neg R] [IntCast R]
  [OfScientific R] [LT R] [DecidableLT R] [TrigMath R]

/-- `EPSILON`. -/
def epsilon : R := 1e-10

/-- The constructor of a filter; the base class starts at zero. -/
def FolFilter.new (q : R) : FolFilter R := ⟨q, 0⟩

/-- `FolFilter::filter`: a first order lag, stored and returned. -/
def FolFilter.filter (filter : FolFilter R) (newValue : R) : FolFilter R :=
  { filter with
    mLastValue := (((1 : Int) : R) - filter.mQ) * filter.mLastValue + filter.mQ * newValue }

def Point3D.dotProduct (self point : Point3D R) : R :=
  self.x * point.x + self.y * point.y + self.z * point.z

def Point3D.crossProduct (self p : Point3D R) : Point3D R where
  x := self.y * p.z - self.z * p.y
  y := self.z * p.x - self.x * p.z
  z := self.x * p.y - self.y * p.x

def Point3D.absolute (self : Point3D R) : R :=
  TrigMath.sqrt (self.x * self.x + self.y * self.y + self.z * self.z)

def Point3D.projectOnPlane (self p : Point3D R) : Point3D R :=
  let scale :=
    -(self.x * p.x + self.y * p.y + self.z * p.z) / (p.x * p.x + p.y * p.y + p.z * p.z)
  ⟨self.x + scale * p.x, self.y + scale * p.y, self.z + scale * p.z⟩

/-- The division of three variables by the square root of their squares' sum. -/
def Point3D.normalize (self : Point3D R) : Point3D R :=
  let r := self.absolute
  ⟨self.x / r, self.y / r, self.z / r⟩

-----------------------------------------------------------------------------------------
-- The gyro
-----------------------------------------------------------------------------------------

/-- The variable `a_zy`, kept away from zero. -/
def axisRadius (estY estZ : R) : R :=
  let a_zy := TrigMath.sqrt (estY * estY + estZ * estZ)
  if fabs a_zy < epsilon then epsilon else a_zy

/-- The variable `r_zy_z`, the angle of the pair seen from its second axis. -/
def axisAngle (estY estZ a_zy : R) : R :=
  if fabs estY < fabs estZ then
    let r_zy_z :=
      if 0 < estZ then
        TrigMath.asin (estY / a_zy)
      else
        DoubleMath.PI - TrigMath.asin (estY / a_zy)
    if r_zy_z < 0 then r_zy_z + ((2 : Int) : R) * DoubleMath.PI else r_zy_z
  else if estY < 0 then
    ((2 : Int) : R) * DoubleMath.PI - TrigMath.acos (estZ / a_zy)
  else
    TrigMath.acos (estZ / a_zy)

/-- `calculateUniaxialGyroEffect`: `diffRight` and `diffTop`. The front component has no part
in it.
-/
def calculateUniaxialGyroEffect (_lastEstFront lastEstRight lastEstTop gyroRate : R)
    : R × R :=
  let estY := lastEstRight
  let estZ := lastEstTop
  let a_zy := axisRadius estY estZ
  let r_zy_z := axisAngle estY estZ a_zy
  let eg_y_x := DoubleMath.sin (r_zy_z + gyroRate) * a_zy - estY
  let eg_z_x := DoubleMath.cos (r_zy_z + gyroRate) * a_zy - estZ
  (eg_y_x, eg_z_x)

/-- The common body of `iterateGyroAttitude` and `iterateGyroMagnet`: the effects of the three
axes are added up.
-/
def iterateGyro (est turn : Point3D R) : Point3D R :=
  let (rightX, topX) := calculateUniaxialGyroEffect est.x est.y est.z turn.x
  let (rightY, topY) := calculateUniaxialGyroEffect est.y est.z est.x turn.y
  let (rightZ, topZ) := calculateUniaxialGyroEffect est.z est.x est.y turn.z
  let diffX := 0 + topY + rightZ
  let diffY := 0 + rightX + topZ
  let diffZ := 0 + topX + rightY
  ⟨est.x + diffX, est.y + diffY, est.z + diffZ⟩

def Imu.iterateGyroAttitude (imu : Imu R) : Point3D R := iterateGyro imu.m_est imu.m_turn

def Imu.iterateGyroMagnet (imu : Imu R) : Point3D R := iterateGyro imu.m_estMagnet imu.m_turn

-----------------------------------------------------------------------------------------
-- One update
-----------------------------------------------------------------------------------------

/-- The constructor. -/
def Imu.new : Imu R where
  m_rawAcc := ⟨0, 0, 1⟩
  m_rawGyro := ⟨0, 0, 0⟩
  m_acc := ⟨0.0, 0.0, 1.0⟩
  m_turn := ⟨0.0, 0.0, 0.0⟩
  m_estMagnet := ⟨1.0, 0.0, 0.0⟩
  m_est := ⟨0.0, 0.0, 1.0⟩
  m_pitch := 0.0
  m_roll := 0.0
  m_heading := 0.0
  axFilter := FolFilter.new 0.15
  ayFilter := FolFilter.new 0.15
  azFilter := FolFilter.new 0.15

/-- `readData`, with what the sensors leave in the raw members. -/
def Imu.readData (imu : Imu R) (raw : RawReadings) : Imu R :=
  { imu with m_rawAcc := raw.acc, m_rawGyro := raw.gyro }

def Imu.fixData (imu : Imu R) : Imu R :=
  let axFilter := imu.axFilter.filter ((imu.m_rawAcc.x : R) / 128.0)
  let ayFilter := imu.ayFilter.filter ((imu.m_rawAcc.y : R) / 128.0)
  let azFilter := imu.azFilter.filter ((imu.m_rawAcc.z : R) / 128.0)
  { imu with
    axFilter := axFilter
    ayFilter := ayFilter
    azFilter := azFilter
    m_acc := ⟨axFilter.mLastValue, -ayFilter.mLastValue, azFilter.mLastValue⟩
    m_turn :=
      ⟨((imu.m_rawGyro.x : R) + 7.832) * -1.102313212 * 1e-5,
        ((imu.m_rawGyro.y : R) + ((0 : Int) : R)) * 1.102313212 * 1e-5,
        ((imu.m_rawGyro.z : R) + -4.7933333) * -1.064946662 * 1e-5⟩ }

/-- The variable `confidence` of `fusionAttitude`. -/
def Imu.confidence (imu : Imu R) : R :=
  let confidence :=
    imu.m_acc.x * imu.m_acc.x + imu.m_acc.y * imu.m_acc.y + imu.m_acc.z * imu.m_acc.z
  let confidence :=
    if ((1 : Int) : R) < confidence then ((1 : Int) : R) / confidence else confidence
  confidence * 0.08 + 0.002

/-- Step 4 of `fusionAttitude`: the weighted sum of the two attitudes. -/
def mixAttitude (na ge : Point3D R) (confidence : R) : Point3D R where
  x := na.x * confidence + ge.x * (((1 : Int) : R) - confidence)
  y := na.y * confidence + ge.y * (((1 : Int) : R) - confidence)
  z := na.z * confidence + ge.z * (((1 : Int) : R) - confidence)

/-- The angle between a unit axis and its projection on the plane, as `fusionAttitude`
computes it for pitch and roll.
-/
def projectionAngle (unit earthPlane : Point3D R) : R :=
  let onEarth := unit.projectOnPlane earthPlane
  TrigMath.acos (unit.dotProduct onEarth / (unit.absolute * onEarth.absolute))

def Imu.fusionAttitude (imu : Imu R) : Imu R :=
  let na := imu.m_acc.normalize
  let ge := imu.iterateGyroAttitude.normalize
  let est := mixAttitude na ge imu.confidence
  let pitch := projectionAngle ⟨((1 : Int) : R), ((0 : Int) : R), ((0 : Int) : R)⟩ est
  let pitch := if 0 < est.x then -pitch else pitch
  let roll := projectionAngle ⟨((0 : Int) : R), ((1 : Int) : R), ((0 : Int) : R)⟩ est
  let roll := if est.z < 0 then DoubleMath.PI - roll else roll
  let roll := if est.y < 0 then -roll else roll
  { imu with m_est := est, m_pitch := pitch, m_roll := roll }

def Imu.fusionMagnet (imu : Imu R) : Imu R :=
  let magnet := imu.iterateGyroMagnet.normalize
  let unitX : Point3D R := ⟨1.0, 0.0, 0.0⟩
  let earthPlane := imu.m_est
  let xOnEarth := unitX.projectOnPlane earthPlane
  let magnetOnEarth := magnet.projectOnPlane earthPlane
  let inner := (magnetOnEarth.crossProduct xOnEarth).dotProduct earthPlane
  let cosHeading :=
    xOnEarth.dotProduct magnetOnEarth / (xOnEarth.absolute * magnetOnEarth.absolute)
  let heading := TrigMath.acos cosHeading
  let heading :=
    if inner < 0 then ((2 : Int) : R) * DoubleMath.PI - heading else heading
  { imu with m_estMagnet := magnet, m_heading := heading }

def Imu.update (imu : Imu R) (raw : RawReadings) : Imu R :=
  (imu.readData raw).fixData.fusionAttitude.fusionMagnet

def Imu.getAttitude (imu : Imu R) : ImuAttitude R where
  pitch := imu.m_pitch
  roll := imu.m_roll
  heading := imu.m_heading

/-- The unit as a machine over the readings of its updates. -/
def imuUpdates : Machine (Imu R) RawReadings (ImuAttitude R) where
  step imu raw := (imu.update raw, (imu.update raw).getAttitude)

end Cooboc.Inertial
