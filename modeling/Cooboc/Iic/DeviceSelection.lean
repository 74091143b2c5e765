import Cooboc.Iic.IicHandler

/-! Which device an operation reaches. The cached address and the slave that the kernel has
selected agree as long as every selection succeeds; a selection that fails is cached all
the same, and the operation goes on to the slave selected before.
-/

namespace Cooboc.Iic

open Cooboc.Foundations

/-- Behind a selection the address is cached, whatever `ioctl` answered. -/
theorem IicWorld.selectDevice_cached (world : IicWorld) (deviceAddr : UInt8)
    (calls : SystemCalls)
    : (world.selectDevice deviceAddr calls).handler.mCurrentDeviceAddr = deviceAddr := by
  unfold IicWorld.selectDevice IicWorld.ioctl
  split
  · split <;> rfl
  · rename_i same
    exact (not_not.mp same).symm

/-- What an operation for a device does: its address is cached, it issues transfers, and
they all go to the slave that is selected behind it, which its selection has left.
-/
structure IicWorld.Reaches (world : IicWorld) (deviceAddr : UInt8) (calls : SystemCalls)
    (after : IicWorld) (transfers : List Transfer)
    : Prop where
  cached : after.handler.mCurrentDeviceAddr = deviceAddr
  selected : after.selected = (world.selectDevice deviceAddr calls).selected
  issued : transfers ≠ []
  addressed : ∀ transfer ∈ transfers, transfer.selected = after.selected

/-- `writeByte` issues its one transfer to the slave selected. -/
theorem IicWorld.writeByte_reaches (world : IicWorld) (deviceAddr regAddr value : UInt8)
    (calls : SystemCalls)
    : world.Reaches deviceAddr calls (world.writeByte deviceAddr regAddr value calls).1
        (world.writeByte deviceAddr regAddr value calls).2.1 where
  cached := world.selectDevice_cached deviceAddr calls
  selected := rfl
  issued := List.cons_ne_nil _ _
  addressed := by
    intro transfer member
    rw [List.mem_singleton.mp member]
    rfl

/-- A read issues its one or two transfers to the slave selected. Witness: the three ways
through the function.
-/
theorem IicWorld.readRegister_reaches {α : Type} (world : IicWorld)
    (deviceAddr regAddr : UInt8) (count : Nat) (decode : (Nat → UInt8) → α) (value : α)
    (calls : SystemCalls)
    : world.Reaches deviceAddr calls
        (world.readRegister deviceAddr regAddr count decode value calls).1
        (world.readRegister deviceAddr regAddr count decode value calls).2.1 := by
  have cached := world.selectDevice_cached deviceAddr calls
  by_cases unsent : calls.write < 1
  · simp only [IicWorld.readRegister, IicWorld.sendRegAddr, if_pos unsent]
    exact ⟨cached, rfl, List.cons_ne_nil _ _, by simp [Transfer.selected]⟩
  · simp only [IicWorld.readRegister, IicWorld.sendRegAddr, if_neg unsent, if_true]
    by_cases received : calls.read = count
    · rw [if_pos received]
      exact ⟨cached, rfl, List.cons_ne_nil _ _, by simp [Transfer.selected, receive]⟩
    · rw [if_neg received]
      exact ⟨cached, rfl, List.cons_ne_nil _ _, by simp [Transfer.selected, receive]⟩

/-- Each of the five operations does. -/
theorem IicWorld.perform_reaches (world : IicWorld) (call : IicCall)
    : world.Reaches call.operation.deviceAddr call.calls (world.perform call).1
        (world.perform call).2.transfers := by
  obtain ⟨operation, calls⟩ := call
  cases operation with
  | writeByte deviceAddr regAddr value => exact world.writeByte_reaches ..
  | readU8 deviceAddr regAddr value =>
      show world.Reaches deviceAddr calls (world.readU8 deviceAddr regAddr value calls).1
        (world.readU8 deviceAddr regAddr value calls).2.1
      exact world.readRegister_reaches ..
  | readS8 deviceAddr regAddr value =>
      show world.Reaches deviceAddr calls (world.readS8 deviceAddr regAddr value calls).1
        (world.readS8 deviceAddr regAddr value calls).2.1
      exact world.readRegister_reaches ..
  | readU16BE deviceAddr regAddr value =>
      show world.Reaches deviceAddr calls (world.readU16BE deviceAddr regAddr value calls).1
        (world.readU16BE deviceAddr regAddr value calls).2.1
      exact world.readRegister_reaches ..
  | readS16LE deviceAddr regAddr value =>
      show world.Reaches deviceAddr calls (world.readS16LE deviceAddr regAddr value calls).1
        (world.readS16LE deviceAddr regAddr value calls).2.1
      exact world.readRegister_reaches ..

-----------------------------------------------------------------------------------------
-- Operations that reach their device
-----------------------------------------------------------------------------------------

/-- (Meant world call) says that every transfer of the operation goes to the device it is
meant for, and that without this device selected it returns false and issues none.
-/
def Meant (world : IicWorld) (call : IicCall) : Prop :=
  (∀ transfer ∈ (iic.step world call).2.transfers,
    transfer.selected = some call.operation.deviceAddr)
  ∧ ((iic.step world call).1.selected ≠ some call.operation.deviceAddr
    → (iic.step world call).2.returned = false ∧ (iic.step world call).2.transfers = [])

instance Meant.decidable (world : IicWorld) (call : IicCall) : Decidable (Meant world call) :=
  inferInstanceAs (Decidable (_ ∧ (_ → _ ∧ _)))

/-- (Selects world call) says that an `ioctl` that is issued succeeds, and that one is left
out only where some slave has been selected.
-/
def Selects (world : IicWorld) (call : IicCall) : Prop :=
  if call.operation.deviceAddr ≠ world.handler.mCurrentDeviceAddr then
    call.calls.ioctl = true
  else
    world.selected ≠ none

instance Selects.decidable (world : IicWorld) (call : IicCall)
    : Decidable (Selects world call) :=
  inferInstanceAs (Decidable (ite _ _ _))

/-- The slave selected is the one cached, unless none was selected yet. -/
def Coherent (world : IicWorld) : Prop :=
  world.selected = none ∨ world.selected = some world.handler.mCurrentDeviceAddr

/-- A descriptor with no slave selected yet, or with slave 0, agrees with the constructor's
cached address.
-/
theorem opened_coherent (memory : Nat → UInt8) {selected : Option UInt8}
    (fresh : selected = none ∨ selected = some 0)
    : Coherent (IicWorld.opened memory selected) :=
  fresh

/-- Since each operation issues a transfer, it reaches its device exactly when this device
is selected behind it.
-/
theorem meant_iff_selected (world : IicWorld) (call : IicCall)
    : Meant world call
      ↔ (world.selectDevice call.operation.deviceAddr call.calls).selected
        = some call.operation.deviceAddr := by
  obtain ⟨_, selected, issued, addressed⟩ := world.perform_reaches call
  rw [← selected]
  constructor
  · intro ⟨meant, _⟩
    obtain ⟨transfer, member⟩ := List.exists_mem_of_ne_nil _ issued
    rw [← addressed transfer member]
    exact meant transfer member
  · intro reached
    refine ⟨fun transfer member => ?_, fun missed => absurd reached missed⟩
    rw [← reached]
    exact addressed transfer member

/-- From a coherent state the selection leaves the device selected exactly when it is
needed and succeeds, or is not needed.
-/
theorem Coherent.selected_iff {world : IicWorld} (coherent : Coherent world) (call : IicCall)
    : (world.selectDevice call.operation.deviceAddr call.calls).selected
        = some call.operation.deviceAddr
      ↔ Selects world call := by
  unfold IicWorld.selectDevice Selects IicWorld.ioctl
  by_cases other : call.operation.deviceAddr ≠ world.handler.mCurrentDeviceAddr
  · rw [if_pos other, if_pos other]
    cases call.calls.ioctl with
    | true => simp
    | false =>
        rcases coherent with unselected | selected
        · simp [unselected]
        · simp [selected, Ne.symm other]
  · rw [if_neg other, if_neg other, not_not.mp other]
    rcases coherent with unselected | selected
    · simp [unselected]
    · simp [selected]

/-- An operation that reaches its device leaves it both selected and cached. -/
theorem Meant.coherent {world : IicWorld} {call : IicCall} (meant : Meant world call)
    : Coherent (iic.step world call).1 := by
  have reaches := world.perform_reaches call
  right
  show (world.perform call).1.selected = _
  rw [reaches.selected, (meant_iff_selected world call).mp meant]
  exact congrArg some reaches.cached.symm

/-- On a descriptor with no slave selected yet, which some kernels show as slave 0, every
transfer of every operation reaches the device it was meant for exactly when every `ioctl`
that is issued succeeds and none is left out before a slave is selected.
-/
theorem transfers_reach_devices_iff (memory : Nat → UInt8) (selected : Option UInt8)
    (fresh : selected = none ∨ selected = some 0) (calls : List IicCall)
    : iic.Always Meant (IicWorld.opened memory selected) calls
      ↔ iic.Always Selects (IicWorld.opened memory selected) calls :=
  Machine.always_congr Coherent (opened_coherent memory fresh)
    (fun world call coherent =>
      (meant_iff_selected world call).trans (coherent.selected_iff call))
    (fun _ _ _ meant => meant.coherent) calls

/-- The accelerometer and the gyroscope in turn, each selected without failure. -/
theorem transfers_reach_devices_in_turn
    : let answers : SystemCalls := ⟨true, 2, 1, fun _ => 0x0F⟩
      iic.Always Meant (IicWorld.opened (fun _ => 0) none) [
        ⟨.writeByte 0x18 0x0F 0x0C, answers⟩,
        ⟨.readU8 0x68 0x00 0, answers⟩,
        ⟨.readS8 0x68 0x03 0, answers⟩,
        ⟨.readS16LE 0x18 0x02 0, answers⟩
      ] :=
  (transfers_reach_devices_iff (fun _ => 0) none (.inl rfl) _).mpr (by decide)

/-- One selection of the gyroscope that fails: what is written for it goes to the
accelerometer, also by the operations behind it that no longer select it, and all of them
return true.
-/
theorem transfers_miss_device
    : let answers : SystemCalls := ⟨true, 2, 1, fun _ => 0⟩
      let calls : List IicCall := [
          ⟨.writeByte 0x18 0x0F 0x0C, answers⟩,
          ⟨.writeByte 0x68 0x14 0xB6, { answers with ioctl := false }⟩,
          ⟨.writeByte 0x68 0x0F 0x01, answers⟩
        ]
      ¬ iic.Always Meant (IicWorld.opened (fun _ => 0) none) calls
      ∧ iic.outputs (IicWorld.opened (fun _ => 0) none) calls = [
          ⟨[.write (some 0x18) [0x0F, 0x0C]], true⟩,
          ⟨[.write (some 0x18) [0x14, 0xB6]], true⟩,
          ⟨[.write (some 0x18) [0x0F, 0x01]], true⟩
        ] := by
  decide

end Cooboc.Iic
