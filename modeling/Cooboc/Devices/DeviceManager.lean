import Mathlib.Logic.Function.Basic
import Cooboc.Foundations.ArrayCells
import Cooboc.Foundations.Machine

/-! The device manager of `chicken/device_manager.cpp`: the devices it has constructed, and
the array of those that run. Eight getters look for a device before they construct one.
-/

namespace Cooboc.Devices

open Cooboc.Foundations

/-- `DEVICE_TYPE_RADIO`. -/
def deviceTypeRadio : Int := 0x01

/-- `DEVICE_TYPE_IMU`. -/
def deviceTypeImu : Int := 0x02

/-- `DEVICE_TYPE_SERVO_CONTROLLER`. -/
def deviceTypeServoController : Int := 0x03

/-- `DEVICE_TYPE_AOA`. -/
def deviceTypeAoa : Int := 0x04

/-- `DEVICE_TYPE_BEEPER`. -/
def deviceTypeBeeper : Int := 0x05

/-- `DEVICE_TYPE_AGL`. -/
def deviceTypeAgl : Int := 0x06

/-- `DEVICE_TYPE_HR`. -/
def deviceTypeHr : Int := 0x20

/-- `DEVICE_TYPE_HR_DISPLAY`. -/
def deviceTypeHrDisplay : Int := 0x21

/-- `DEVICE_TYPE_VIRTUAL_IMU`. -/
def deviceTypeVirtualImu : Int := 0x80

/-- `MAX_DEVICES_IN_CHICKEN`. -/
def maxDevicesInChicken : Int := 256

/-- The classes derived from `IDevice`. -/
inductive DeviceClass where
  | imu
  | radio
  | servoController
  | aoa
  | beeper
  | agl
  | hr
  | hrDisplay
  | virtualImu
deriving DecidableEq

/-- The type that the constructor of a class hands to that of `IDevice`. -/
def DeviceClass.deviceType : DeviceClass → Int
  | .imu => deviceTypeImu
  | .radio => deviceTypeRadio
  | .servoController => deviceTypeServoController
  | .aoa => deviceTypeAoa
  | .beeper => deviceTypeBeeper
  | .agl => deviceTypeAgl
  | .hr => deviceTypeHr
  | .hrDisplay => deviceTypeHrDisplay
  | .virtualImu => deviceTypeVirtualImu

/-- A device object: where it is allocated, its class, its type tag, and the server's address
and port of an `HrDisplay`.
-/
structure IDevice where
  address : Nat
  deviceClass : DeviceClass
  mDeviceType : Int
  server : Option (String × Int)
deriving DecidableEq

/-- The members of `DeviceManager`, and all devices that it has constructed, in order. -/
structure DeviceManager where
  mNumRunningDevices : Int
  mRunningDevices : Int → IDevice
  constructed : List IDevice

/-- The constructor; it leaves the array as the memory it finds. -/
def DeviceManager.new (memory : Int → IDevice) : DeviceManager := ⟨0, memory, []⟩

/-- The devices that the array holds. -/
def DeviceManager.running (manager : DeviceManager) : List IDevice :=
  contents manager.mRunningDevices manager.mNumRunningDevices

/-- The devices that the destructor deletes, in order. -/
def DeviceManager.deleted (manager : DeviceManager) : List IDevice := manager.running

def DeviceManager.findFirstDeviceByType (manager : DeviceManager) (deviceType : Int)
    : Option IDevice :=
  manager.running.find? (fun device => decide (device.mDeviceType = deviceType))

/-- The object of a `new` expression, allocated apart from all others. -/
def DeviceManager.allocate (manager : DeviceManager) (deviceClass : DeviceClass)
    (server : Option (String × Int))
    : IDevice :=
  ⟨manager.constructed.length, deviceClass, deviceClass.deviceType, server⟩

/-- A new device is stored in the array behind the others. -/
def DeviceManager.store (manager : DeviceManager) (device : IDevice) : DeviceManager where
  mNumRunningDevices := manager.mNumRunningDevices + 1
  mRunningDevices :=
    Function.update manager.mRunningDevices manager.mNumRunningDevices device
  constructed := manager.constructed ++ [device]

/-- What the getters other than `getHrDisplay` do, each with its type and class. -/
def DeviceManager.getDevice (manager : DeviceManager) (deviceType : Int)
    (deviceClass : DeviceClass)
    : DeviceManager × IDevice :=
  match manager.findFirstDeviceByType deviceType with
  | some device => (manager, device)
  | none =>
      let device := manager.allocate deviceClass none
      (manager.store device, device)

def DeviceManager.getImu (manager : DeviceManager) : DeviceManager × IDevice :=
  manager.getDevice deviceTypeImu .imu

def DeviceManager.getRadio (manager : DeviceManager) : DeviceManager × IDevice :=
  manager.getDevice deviceTypeRadio .radio

def DeviceManager.getServoController (manager : DeviceManager) : DeviceManager × IDevice :=
  manager.getDevice deviceTypeServoController .servoController

def DeviceManager.getAoa (manager : DeviceManager) : DeviceManager × IDevice :=
  manager.getDevice deviceTypeAoa .aoa

def DeviceManager.getBeeper (manager : DeviceManager) : DeviceManager × IDevice :=
  manager.getDevice deviceTypeBeeper .beeper

def DeviceManager.getAgl (manager : DeviceManager) : DeviceManager × IDevice :=
  manager.getDevice deviceTypeAgl .agl

def DeviceManager.getHr (manager : DeviceManager) : DeviceManager × IDevice :=
  manager.getDevice deviceTypeHr .hr

def DeviceManager.getVirtualImu (manager : DeviceManager) : DeviceManager × IDevice :=
  manager.getDevice deviceTypeVirtualImu .virtualImu

def DeviceManager.getHrDisplay (manager : DeviceManager) (serverAddress : String) (port : Int)
    : DeviceManager × IDevice :=
  -- It neither looks for a display nor stores the one it constructs.
  let hrDisplayDev := manager.allocate .hrDisplay (some (serverAddress, port))
  ({ manager with constructed := manager.constructed ++ [hrDisplayDev] }, hrDisplayDev)

/-- The calls of getters. -/
inductive DeviceCall where
  | getImu
  | getRadio
  | getServoController
  | getAoa
  | getBeeper
  | getAgl
  | getHr
  | getHrDisplay (serverAddress : String) (port : Int)
  | getVirtualImu
deriving DecidableEq

/-- The class that the getter of a call casts its result to. -/
def DeviceCall.deviceClass : DeviceCall → DeviceClass
  | .getImu => .imu
  | .getRadio => .radio
  | .getServoController => .servoController
  | .getAoa => .aoa
  | .getBeeper => .beeper
  | .getAgl => .agl
  | .getHr => .hr
  | .getHrDisplay _ _ => .hrDisplay
  | .getVirtualImu => .virtualImu

/-- A call of a getter. -/
def DeviceManager.call (manager : DeviceManager) : DeviceCall → DeviceManager × IDevice
  | .getImu => manager.getImu
  | .getRadio => manager.getRadio
  | .getServoController => manager.getServoController
  | .getAoa => manager.getAoa
  | .getBeeper => manager.getBeeper
  | .getAgl => manager.getAgl
  | .getHr => manager.getHr
  | .getHrDisplay serverAddress port => manager.getHrDisplay serverAddress port
  | .getVirtualImu => manager.getVirtualImu

/-- A call that has returned: the device it returned, and those it constructed. -/
structure ServedCall where
  call : DeviceCall
  returned : IDevice
  constructed : List IDevice

/-- The device manager under calls of its getters. -/
def deviceManager : Machine DeviceManager DeviceCall (List ServedCall) where
  step manager call :=
    let after := manager.call call
    (after.1,
      [⟨call, after.2, after.1.constructed.drop manager.constructed.length⟩])

end Cooboc.Devices
