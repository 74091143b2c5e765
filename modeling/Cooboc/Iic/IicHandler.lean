import Mathlib.Logic.Function.Basic
import Cooboc.Foundations.Machine

/-! The I2C handler of `iic_handler.cpp` over the system calls that it makes. Each operation
makes at most one `ioctl`, one `write` and one `read`; what they answer is an input of the
operation.
-/

namespace Cooboc.Iic

open Cooboc.Foundations

/-- The members of `IicHandler` that its operations use, behind a descriptor that is open.
The mutex only keeps operations from overlapping.
-/
structure IicHandler where
  mCurrentDeviceAddr : UInt8
  mBuffer : Nat → UInt8

/-- The constructor; `mBuffer` is the memory it finds. -/
def IicHandler.new (memory : Nat → UInt8) : IicHandler where
  mCurrentDeviceAddr := 0x00
  mBuffer := memory

/-- What the system calls of one operation answer: whether `ioctl` succeeds, the results of
`write` and `read`, and the bytes that `read` receives.
-/
structure SystemCalls where
  ioctl : Bool
  write : Int
  read : Int
  received : Nat → UInt8

/-- The handler, and the slave that the kernel has selected for its descriptor. -/
structure IicWorld where
  handler : IicHandler
  selected : Option UInt8

/-- The handler as constructed, on a descriptor with the given slave. -/
def IicWorld.opened (memory : Nat → UInt8) (selected : Option UInt8) : IicWorld :=
  ⟨IicHandler.new memory, selected⟩

/-- A `write` of some bytes or a `read` of a number of bytes, with the slave that it goes
to.
-/
inductive Transfer where
  | write (selected : Option UInt8) (bytes : List UInt8)
  | read (selected : Option UInt8) (count : Nat)
deriving DecidableEq

/-- The slave of a transfer. -/
def Transfer.selected : Transfer → Option UInt8
  | .write selected _ => selected
  | .read selected _ => selected

/-- `ioctl(mI2cFile, I2C_SLAVE, addr)`: a failed one leaves the kernel's slave as it is. -/
def IicWorld.ioctl (world : IicWorld) (addr : UInt8) (succeeds : Bool) : IicWorld :=
  if succeeds then { world with selected := some addr } else world

/-- An assignment to a cell of `mBuffer`. -/
def IicWorld.store (world : IicWorld) (index : Nat) (byte : UInt8) : IicWorld :=
  { world with
    handler.mBuffer := Function.update world.handler.mBuffer index byte }

/-- `read(mI2cFile, mBuffer, count)`: as many cells as it returns are overwritten. -/
def IicWorld.receive (world : IicWorld) (count : Nat) (calls : SystemCalls) : IicWorld :=
  { world with
    handler.mBuffer := fun i =>
      if i < min count calls.read.toNat then calls.received i else world.handler.mBuffer i }

-----------------------------------------------------------------------------------------
-- The operations
-----------------------------------------------------------------------------------------

/-- The selection at the start of `sendRegAddr` and of `writeByte`: the address is cached
before the `ioctl`, whose result is ignored.
-/
def IicWorld.selectDevice (world : IicWorld) (deviceAddr : UInt8) (calls : SystemCalls)
    : IicWorld :=
  if deviceAddr ≠ world.handler.mCurrentDeviceAddr then
    let world := { world with handler.mCurrentDeviceAddr := deviceAddr }
    world.ioctl world.handler.mCurrentDeviceAddr calls.ioctl
  else
    world

/-- `sendRegAddr`, with its transfer and its return value. -/
def IicWorld.sendRegAddr (world : IicWorld) (deviceAddr regAddr : UInt8)
    (calls : SystemCalls)
    : IicWorld × Transfer × Bool :=
  let world := (world.selectDevice deviceAddr calls).store 0 regAddr
  let transfer := .write world.selected [world.handler.mBuffer 0]
  (world, transfer, if calls.write < 1 then false else true)

/-- `writeByte`, with its transfers and its return value. -/
def IicWorld.writeByte (world : IicWorld) (deviceAddr regAddr value : UInt8)
    (calls : SystemCalls)
    : IicWorld × List Transfer × Bool :=
  let world := ((world.selectDevice deviceAddr calls).store 0 regAddr).store 1 value
  let transfer := .write world.selected [world.handler.mBuffer 0, world.handler.mBuffer 1]
  (world, [transfer], if calls.write < 2 then false else true)

/-- What the four reads share: the register's address goes out, `count` bytes come in, and
`value` is assigned from the buffer only when all of them did. With the transfers, the
value left and the return value.
-/
def IicWorld.readRegister {α : Type} (world : IicWorld) (deviceAddr regAddr : UInt8)
    (count : Nat) (decode : (Nat → UInt8) → α) (value : α) (calls : SystemCalls)
    : IicWorld × List Transfer × α × Bool :=
  let (world, sent, addressed) := world.sendRegAddr deviceAddr regAddr calls
  if addressed then
    let world := world.receive count calls
    let transfers := [sent, .read world.selected count]
    if calls.read = count then
      (world, transfers, decode world.handler.mBuffer, true)
    else
      (world, transfers, value, false)
  else
    (world, [sent], value, false)

def IicWorld.readU8 (world : IicWorld) (deviceAddr regAddr value : UInt8)
    (calls : SystemCalls)
    : IicWorld × List Transfer × UInt8 × Bool :=
  world.readRegister deviceAddr regAddr 1 (fun buffer => buffer 0) value calls

def IicWorld.readS8 (world : IicWorld) (deviceAddr regAddr : UInt8) (value : Int8)
    (calls : SystemCalls)
    : IicWorld × List Transfer × Int8 × Bool :=
  world.readRegister deviceAddr regAddr 1 (fun buffer => (buffer 0).toInt8) value calls

/-- `readU16BE`: the first byte is the high one. -/
def IicWorld.readU16BE (world : IicWorld) (deviceAddr regAddr : UInt8) (value : UInt16)
    (calls : SystemCalls)
    : IicWorld × List Transfer × UInt16 × Bool :=
  world.readRegister deviceAddr regAddr 2
    (fun buffer => (buffer 0).toUInt16 <<< 8 ||| (buffer 1).toUInt16) value calls

/-- `readS16LE`: the second byte is the high one, with its sign. -/
def IicWorld.readS16LE (world : IicWorld) (deviceAddr regAddr : UInt8) (value : Int16)
    (calls : SystemCalls)
    : IicWorld × List Transfer × Int16 × Bool :=
  world.readRegister deviceAddr regAddr 2
    (fun buffer => (buffer 1).toInt8.toInt16 <<< 8 ||| (buffer 0).toUInt16.toInt16) value calls

/-- An operation with its arguments; a read comes with the value of the caller's variable. -/
inductive IicOperation where
  | writeByte (deviceAddr regAddr value : UInt8)
  | readU8 (deviceAddr regAddr value : UInt8)
  | readS8 (deviceAddr regAddr : UInt8) (value : Int8)
  | readU16BE (deviceAddr regAddr : UInt8) (value : UInt16)
  | readS16LE (deviceAddr regAddr : UInt8) (value : Int16)
deriving DecidableEq

/-- The device that an operation is meant for. -/
def IicOperation.deviceAddr : IicOperation → UInt8
  | .writeByte deviceAddr _ _ => deviceAddr
  | .readU8 deviceAddr _ _ => deviceAddr
  | .readS8 deviceAddr _ _ => deviceAddr
  | .readU16BE deviceAddr _ _ => deviceAddr
  | .readS16LE deviceAddr _ _ => deviceAddr

/-- An operation with the answers of its system calls. -/
structure IicCall where
  operation : IicOperation
  calls : SystemCalls

/-- The transfers of an operation and its return value. -/
structure IicOutcome where
  transfers : List Transfer
  returned : Bool
deriving DecidableEq

/-- An operation, with its transfers and its return value. -/
def IicWorld.perform (world : IicWorld) (call : IicCall) : IicWorld × IicOutcome :=
  match call.operation with
  | .writeByte deviceAddr regAddr value =>
      let (world, transfers, ok) := world.writeByte deviceAddr regAddr value call.calls
      (world, ⟨transfers, ok⟩)
  | .readU8 deviceAddr regAddr value =>
      let (world, transfers, _, ok) := world.readU8 deviceAddr regAddr value call.calls
      (world, ⟨transfers, ok⟩)
  | .readS8 deviceAddr regAddr value =>
      let (world, transfers, _, ok) := world.readS8 deviceAddr regAddr value call.calls
      (world, ⟨transfers, ok⟩)
  | .readU16BE deviceAddr regAddr value =>
      let (world, transfers, _, ok) := world.readU16BE deviceAddr regAddr value call.calls
      (world, ⟨transfers, ok⟩)
  | .readS16LE deviceAddr regAddr value =>
      let (world, transfers, _, ok) := world.readS16LE deviceAddr regAddr value call.calls
      (world, ⟨transfers, ok⟩)

/-- One handler under any operations. -/
def iic : Machine IicWorld IicCall IicOutcome where
  step := IicWorld.perform

end Cooboc.Iic
