import Mathlib.Data.List.Perm.Subperm
import Cooboc.Devices.DeviceManager
import Cooboc.Foundations.DistinctKeys
import Cooboc.Foundations.TraceLaw

/-! Which devices the manager owns. The eight getters that look first keep a registry with one
device of each type; a display is constructed behind the registry's back.
-/

namespace Cooboc.Devices

open Cooboc.Foundations

/-- Every device constructed is deleted exactly once, and the array has room for all that run.
-/
structure DeviceManager.Owns (manager : DeviceManager) : Prop where
  once : ∀ device ∈ manager.constructed, manager.deleted.count device = 1
  bounded : manager.mNumRunningDevices ≤ maxDevicesInChicken

/-- A call returns an instance of its getter's class: a device that the call itself constructs
if the getter has not been called before, and else the one returned before.
-/
structure ReturnsOwn (before : List ServedCall) (served : ServedCall) : Prop where
  instance_of : served.returned.deviceClass = served.call.deviceClass
  first
    : (∀ earlier ∈ before, earlier.call.deviceClass ≠ served.call.deviceClass)
      → served.returned ∈ served.constructed
  repeated
    : ∀ earlier ∈ before,
        earlier.call.deviceClass = served.call.deviceClass
        → served.returned = earlier.returned

/-- In every state of the run all devices are owned, and every call returns its own. -/
structure OwnsEachOnce (memory : Int → IDevice) (calls : List DeviceCall) : Prop where
  owned : deviceManager.Throughout DeviceManager.Owns (DeviceManager.new memory) calls
  returned
    : Lawful ReturnsOwn [] (deviceManager.outputs (DeviceManager.new memory) calls).flatten

/-- The call looks for a device before it constructs one. -/
def DeviceCall.Managed (call : DeviceCall) : Prop := call.deviceClass ≠ .hrDisplay

-----------------------------------------------------------------------------------------
-- The getters as a registry
-----------------------------------------------------------------------------------------

/-- The type tells the class. -/
theorem DeviceClass.deviceType_injective {first second : DeviceClass}
    (same : first.deviceType = second.deviceType)
    : first = second := by
  cases first <;> cases second <;> first | rfl | exact absurd same (by decide)

/-- A getter other than `getHrDisplay` is the common one at its class. -/
theorem DeviceManager.call_managed (manager : DeviceManager) {call : DeviceCall}
    (managed : call.Managed)
    : manager.call call = manager.getDevice call.deviceClass.deviceType call.deviceClass := by
  cases call with
  | getHrDisplay serverAddress port => exact absurd rfl managed
  | _ => rfl

/-- `getHrDisplay` constructs a display and leaves the array alone. -/
theorem DeviceManager.call_unmanaged (manager : DeviceManager) {call : DeviceCall}
    (unmanaged : call.deviceClass = .hrDisplay)
    : ∃ display : IDevice,
        display.address = manager.constructed.length
        ∧ display.deviceClass = .hrDisplay
        ∧ display.mDeviceType = display.deviceClass.deviceType
        ∧ manager.call call
          = ({ manager with constructed := manager.constructed ++ [display] }, display) := by
  cases call with
  | getHrDisplay serverAddress port => exact ⟨_, rfl, rfl, rfl, rfl⟩
  | _ => cases unmanaged

theorem DeviceManager.store_running {manager : DeviceManager}
    (nonneg : 0 ≤ manager.mNumRunningDevices) (device : IDevice)
    : (manager.store device).running = manager.running ++ [device] :=
  contents_push _ nonneg _

/-- A managed getter finds a running device of its type, or there is none and it stores a new
one.
-/
theorem DeviceManager.getDevice_cases (manager : DeviceManager) (deviceClass : DeviceClass)
    : (∃ found ∈ manager.running,
        found.mDeviceType = deviceClass.deviceType
        ∧ manager.getDevice deviceClass.deviceType deviceClass = (manager, found))
      ∨ ((∀ other ∈ manager.running, other.mDeviceType ≠ deviceClass.deviceType)
        ∧ manager.getDevice deviceClass.deviceType deviceClass
          = (manager.store (manager.allocate deviceClass none),
            manager.allocate deviceClass none)) := by
  unfold DeviceManager.getDevice
  cases search : manager.findFirstDeviceByType deviceClass.deviceType with
  | some found =>
      have typed : found.mDeviceType = deviceClass.deviceType := by
        simpa using List.find?_some search
      exact .inl ⟨found, List.mem_of_find?_eq_some search, typed, rfl⟩
  | none => exact .inr ⟨by simpa using List.find?_eq_none.mp search, rfl⟩

-----------------------------------------------------------------------------------------
-- The registry over runs
-----------------------------------------------------------------------------------------

/-- The devices that are no displays. -/
def withoutDisplays (devices : List IDevice) : List IDevice :=
  devices.filter (fun device => decide (device.deviceClass ≠ .hrDisplay))

theorem withoutDisplays_concat (devices : List IDevice) {device : IDevice}
    (managed : device.deviceClass ≠ .hrDisplay)
    : withoutDisplays (devices ++ [device]) = withoutDisplays devices ++ [device] := by
  simp [withoutDisplays, managed]

theorem withoutDisplays_display (devices : List IDevice) {display : IDevice}
    (unmanaged : display.deviceClass = .hrDisplay)
    : withoutDisplays (devices ++ [display]) = withoutDisplays devices := by
  simp [withoutDisplays, unmanaged]

/-- What every call keeps: devices are allocated one after the other with the types of their
classes, those that run are all but the displays, and no two of them have the same type.
-/
structure DeviceManager.Registers (manager : DeviceManager) : Prop where
  nonneg : 0 ≤ manager.mNumRunningDevices
  addresses : manager.constructed.map IDevice.address = List.range manager.constructed.length
  typed : ∀ device ∈ manager.constructed, device.mDeviceType = device.deviceClass.deviceType
  running : manager.running = withoutDisplays manager.constructed
  distinct : (manager.running.map IDevice.mDeviceType).Nodup

theorem DeviceManager.new_registers (memory : Int → IDevice)
    : (DeviceManager.new memory).Registers :=
  ⟨Int.le_refl 0, rfl, fun _ member => absurd member List.not_mem_nil, rfl, List.nodup_nil⟩

theorem addresses_concat {devices : List IDevice} {device : IDevice}
    (addresses : devices.map IDevice.address = List.range devices.length)
    (next : device.address = devices.length)
    : (devices ++ [device]).map IDevice.address = List.range (devices ++ [device]).length := by
  rw [List.map_append, addresses, List.map_singleton, next, List.length_append,
    List.length_singleton, List.range_succ]

/-- Storing a new device of a type that none of the others has keeps the registry. -/
theorem DeviceManager.Registers.store {manager : DeviceManager}
    (registers : manager.Registers) {deviceClass : DeviceClass}
    (managed : deviceClass ≠ .hrDisplay)
    (absent : ∀ other ∈ manager.running, other.mDeviceType ≠ deviceClass.deviceType)
    : (manager.store (manager.allocate deviceClass none)).Registers := by
  have stored := DeviceManager.store_running registers.nonneg
    (manager.allocate deviceClass none)
  refine ⟨Int.le_add_one registers.nonneg, addresses_concat registers.addresses rfl, ?_, ?_, ?_⟩
  · intro device member
    rcases List.mem_append.mp member with earlier | last
    · exact registers.typed device earlier
    · rw [List.mem_singleton.mp last]
      rfl
  · rw [stored, registers.running]
    exact (withoutDisplays_concat manager.constructed managed).symm
  · rw [stored]
    exact nodup_keys_concat registers.distinct absent

/-- A display constructed behind the registry's back keeps it. -/
theorem DeviceManager.Registers.display {manager : DeviceManager}
    (registers : manager.Registers) {display : IDevice}
    (next : display.address = manager.constructed.length)
    (unmanaged : display.deviceClass = .hrDisplay)
    (typed : display.mDeviceType = display.deviceClass.deviceType)
    : ({ manager with constructed := manager.constructed ++ [display] }
        : DeviceManager).Registers := by
  refine ⟨registers.nonneg, addresses_concat registers.addresses next, ?_, ?_,
    registers.distinct⟩
  · intro device member
    rcases List.mem_append.mp member with earlier | last
    · exact registers.typed device earlier
    · rw [List.mem_singleton.mp last]
      exact typed
  · exact registers.running.trans (withoutDisplays_display _ unmanaged).symm

/-- Every call keeps the registry. Witness: the three things a call can do. -/
theorem DeviceManager.Registers.call {manager : DeviceManager} (registers : manager.Registers)
    (call : DeviceCall)
    : (manager.call call).1.Registers := by
  by_cases managed : call.Managed
  · rw [manager.call_managed managed]
    rcases manager.getDevice_cases call.deviceClass with ⟨_, _, _, found⟩ | ⟨absent, stored⟩
    · rw [found]
      exact registers
    · rw [stored]
      exact registers.store managed absent
  · obtain ⟨display, next, unmanaged, typed, called⟩ :=
      manager.call_unmanaged (not_not.mp managed)
    rw [called]
    exact registers.display next unmanaged typed

/-- All devices constructed are different objects. -/
theorem DeviceManager.Registers.nodup {manager : DeviceManager}
    (registers : manager.Registers)
    : manager.constructed.Nodup := by
  apply List.Nodup.of_map IDevice.address
  rw [registers.addresses]
  exact List.nodup_range

/-- A running device is an instance of the class of its type. -/
theorem DeviceManager.Registers.class_eq {manager : DeviceManager}
    (registers : manager.Registers) {device : IDevice} (member : device ∈ manager.running)
    {deviceClass : DeviceClass} (typed : device.mDeviceType = deviceClass.deviceType)
    : device.deviceClass = deviceClass := by
  rw [registers.running] at member
  have own := registers.typed device (List.mem_of_mem_filter member)
  exact DeviceClass.deviceType_injective (own.symm.trans typed)

/-- At most as many devices run as there are types. Witness: their types are distinct and all
in the list of types.
-/
theorem DeviceManager.Registers.bounded {manager : DeviceManager}
    (registers : manager.Registers)
    : manager.mNumRunningDevices ≤ 9 := by
  let types : List Int :=
    [deviceTypeRadio, deviceTypeImu, deviceTypeServoController, deviceTypeAoa,
      deviceTypeBeeper, deviceTypeAgl, deviceTypeHr, deviceTypeHrDisplay,
      deviceTypeVirtualImu]
  have known : manager.running.map IDevice.mDeviceType ⊆ types := by
    intro deviceType member
    obtain ⟨device, runs, rfl⟩ := List.mem_map.mp member
    rw [registers.running] at runs
    rw [registers.typed device (List.mem_of_mem_filter runs)]
    cases device.deviceClass <;> decide
  have count := (List.subperm_of_subset registers.distinct known).length_le
  have length : (manager.running.map IDevice.mDeviceType).length
      = manager.mNumRunningDevices.toNat := by
    rw [List.length_map, DeviceManager.running, contents_length]
  have atMost : manager.mNumRunningDevices.toNat ≤ 9 := length ▸ count
  omega

/-- The manager owns all its devices exactly if it has constructed no display. Witness: the
devices that run are the others, and each of them is a different object.
-/
theorem DeviceManager.Registers.owns_iff {manager : DeviceManager}
    (registers : manager.Registers)
    : manager.Owns ↔ ∀ device ∈ manager.constructed, device.deviceClass ≠ .hrDisplay := by
  have deleted : manager.deleted = withoutDisplays manager.constructed := registers.running
  constructor
  · intro owns device member display
    have missing : device ∉ manager.deleted := by
      rw [deleted]
      intro kept
      exact of_decide_eq_true (List.mem_filter.mp kept).2 display
    have once := owns.once device member
    rw [List.count_eq_zero.mpr missing] at once
    exact Nat.zero_ne_one once
  · intro others
    have all : manager.deleted = manager.constructed := by
      rw [deleted]
      exact List.filter_eq_self.mpr (fun device member => decide_eq_true (others device member))
    refine ⟨fun device member => ?_, Int.le_trans registers.bounded (by decide)⟩
    rw [all]
    exact List.count_eq_one_of_mem registers.nodup member

/-- From a state in which all devices are owned, they are owned behind a call exactly if it is
managed. Witness: a managed call constructs no display, and `getHrDisplay` constructs one.
-/
theorem DeviceManager.Registers.owns_call_iff {manager : DeviceManager}
    (registers : manager.Registers) (owns : manager.Owns) (call : DeviceCall)
    : (manager.call call).1.Owns ↔ call.Managed := by
  have others := registers.owns_iff.mp owns
  rw [(registers.call call).owns_iff]
  constructor
  · intro still unmanaged
    obtain ⟨display, _, display_class, _, called⟩ := manager.call_unmanaged unmanaged
    rw [called] at still
    exact still display (List.mem_append_right _ (List.mem_singleton_self _)) display_class
  · intro managed
    rw [manager.call_managed managed]
    rcases manager.getDevice_cases call.deviceClass with ⟨_, _, _, found⟩ | ⟨_, stored⟩
    · rw [found]
      exact others
    · rw [stored]
      intro device member
      rcases List.mem_append.mp member with earlier | last
      · exact others device earlier
      · rw [List.mem_singleton.mp last]
        exact managed

-----------------------------------------------------------------------------------------
-- What the calls return
-----------------------------------------------------------------------------------------

/-- What a run of managed calls keeps: every device returned runs, with the type of its getter,
and every running device was returned by a getter of its class.
-/
structure Remembers (trace : List ServedCall) (manager : DeviceManager) : Prop where
  registers : manager.Registers
  runs
    : ∀ earlier ∈ trace,
        earlier.returned ∈ manager.running
        ∧ earlier.returned.mDeviceType = earlier.call.deviceClass.deviceType
  returned
    : ∀ device ∈ manager.running,
        ∃ earlier ∈ trace, earlier.call.deviceClass = device.deviceClass

/-- A getter that finds its device returns the one it returned before. Witness: no other
running device has its type.
-/
theorem Remembers.found {trace : List ServedCall} {manager : DeviceManager}
    (remembers : Remembers trace manager) {call : DeviceCall} {device : IDevice}
    (runs : device ∈ manager.running)
    (typed : device.mDeviceType = call.deviceClass.deviceType) (constructed : List IDevice)
    : ReturnsOwn trace ⟨call, device, constructed⟩
      ∧ Remembers (trace ++ [⟨call, device, constructed⟩]) manager := by
  have own := remembers.registers.class_eq runs typed
  refine ⟨⟨own, ?_, ?_⟩, remembers.registers, ?_, ?_⟩
  · intro first
    obtain ⟨earlier, member, same⟩ := remembers.returned device runs
    exact absurd (same.trans own) (first earlier member)
  · intro earlier member same
    obtain ⟨earlierRuns, earlierTyped⟩ := remembers.runs earlier member
    apply List.inj_on_of_nodup_map remembers.registers.distinct runs earlierRuns
    rw [typed, earlierTyped, same]
  · intro earlier member
    rcases List.mem_append.mp member with before | last
    · exact remembers.runs earlier before
    · rw [List.mem_singleton.mp last]
      exact ⟨runs, typed⟩
  · intro other otherRuns
    obtain ⟨earlier, member, same⟩ := remembers.returned other otherRuns
    exact ⟨earlier, List.mem_append_left _ member, same⟩

/-- A getter that finds no device returns the one it stores, and has not been called before.
Witness: a device returned before would run.
-/
theorem Remembers.stored {trace : List ServedCall} {manager : DeviceManager}
    (remembers : Remembers trace manager) {call : DeviceCall} (managed : call.Managed)
    (absent : ∀ other ∈ manager.running, other.mDeviceType ≠ call.deviceClass.deviceType)
    {constructed : List IDevice}
    (own : manager.allocate call.deviceClass none ∈ constructed)
    : ReturnsOwn trace ⟨call, manager.allocate call.deviceClass none, constructed⟩
      ∧ Remembers
          (trace ++ [⟨call, manager.allocate call.deviceClass none, constructed⟩])
          (manager.store (manager.allocate call.deviceClass none)) := by
  have running := DeviceManager.store_running remembers.registers.nonneg
    (manager.allocate call.deviceClass none)
  refine ⟨⟨rfl, fun _ => own, ?_⟩, remembers.registers.store managed absent, ?_, ?_⟩
  · intro earlier member same
    obtain ⟨earlierRuns, earlierTyped⟩ := remembers.runs earlier member
    rw [same] at earlierTyped
    exact absurd earlierTyped (absent _ earlierRuns)
  · intro earlier member
    rw [running]
    rcases List.mem_append.mp member with before | last
    · obtain ⟨earlierRuns, earlierTyped⟩ := remembers.runs earlier before
      exact ⟨List.mem_append_left _ earlierRuns, earlierTyped⟩
    · rw [List.mem_singleton.mp last]
      exact ⟨List.mem_append_right _ (List.mem_singleton_self _), rfl⟩
  · intro device runs
    rw [running] at runs
    rcases List.mem_append.mp runs with before | last
    · obtain ⟨earlier, member, same⟩ := remembers.returned device before
      exact ⟨earlier, List.mem_append_left _ member, same⟩
    · rw [List.mem_singleton.mp last]
      exact ⟨_, List.mem_append_right _ (List.mem_singleton_self _), rfl⟩

/-- A managed call returns its own device. Witness: it finds one or stores one. -/
theorem Remembers.step {trace : List ServedCall} {manager : DeviceManager}
    (remembers : Remembers trace manager) {call : DeviceCall} (managed : call.Managed)
    : Lawful ReturnsOwn trace (deviceManager.step manager call).2
      ∧ Remembers (trace ++ (deviceManager.step manager call).2)
          (deviceManager.step manager call).1 := by
  simp only [deviceManager, manager.call_managed managed]
  rcases manager.getDevice_cases call.deviceClass with ⟨found, runs, typed, result⟩ |
    ⟨absent, result⟩
  · rw [result]
    obtain ⟨returns, next⟩ := remembers.found runs typed
      (manager.constructed.drop manager.constructed.length)
    exact ⟨⟨returns, trivial⟩, next⟩
  · rw [result]
    have own : manager.allocate call.deviceClass none
        ∈ (manager.store (manager.allocate call.deviceClass none)).constructed.drop
            manager.constructed.length := by
      rw [DeviceManager.store, List.drop_left]
      exact List.mem_singleton_self _
    obtain ⟨returns, next⟩ := remembers.stored managed absent own
    exact ⟨⟨returns, trivial⟩, next⟩

/-- In a run of getters every device is owned once and every call returns its own, exactly if
no call is one of `getHrDisplay`. Witness: the registry of running devices, call by call.
-/
theorem ownsEachOnce_iff (memory : Int → IDevice) (calls : List DeviceCall)
    : OwnsEachOnce memory calls ↔ ∀ call ∈ calls, call.Managed := by
  have registers := DeviceManager.new_registers memory
  have start : (DeviceManager.new memory).Owns :=
    registers.owns_iff.mpr (fun _ member => absurd member List.not_mem_nil)
  have owned : deviceManager.Throughout DeviceManager.Owns (DeviceManager.new memory) calls
      ↔ deviceManager.Always (fun _ call => call.Managed) (DeviceManager.new memory) calls :=
    (deviceManager.always_true _ calls).throughout_iff DeviceManager.Registers registers start
      (fun _ call registers _ => registers.call call)
      (fun _ call registers owns _ => registers.owns_call_iff owns call)
  constructor
  · intro owns
    exact (deviceManager.always_inputs _).mp (owned.mp owns.owned)
  · intro managed
    have always := (deviceManager.always_inputs (DeviceManager.new memory)).mpr managed
    have empty : Remembers [] (DeviceManager.new memory) :=
      ⟨registers, fun _ member => absurd member List.not_mem_nil,
        fun _ member => absurd member List.not_mem_nil⟩
    exact ⟨owned.mpr always,
      (always.lawful Remembers empty (fun _ _ _ remembers managed =>
        remembers.step managed)).1⟩

/-- Not every run owns its devices: the display that the program gets at first is not stored,
so the destructor does not delete it.
-/
theorem not_ownsEachOnce
    : ¬ ∀ (memory : Int → IDevice) (calls : List DeviceCall), OwnsEachOnce memory calls := by
  intro always
  let memory : Int → IDevice := fun _ => ⟨0, .hr, deviceTypeHr, none⟩
  let display : IDevice := ⟨0, .hrDisplay, deviceTypeHrDisplay, some ("localhost", 8174)⟩
  have owns := (always memory [.getHrDisplay "localhost" 8174]).owned _ (List.prefix_refl _)
  have once := owns.once display (List.mem_singleton_self display)
  exact absurd once (by decide)

end Cooboc.Devices
