import Mathlib.Data.List.Nodup
import Cooboc.Foundations.TraceLaw

/-! `GPIOManager`: what it writes to the files under `/sys/class/gpio`, the pins that it has
exported, and what its `clean` leaves of them. What the kernel does with a write is left out.
-/

namespace Cooboc.Gpio

open Cooboc.Foundations

-----------------------------------------------------------------------------------------
-- The files
-----------------------------------------------------------------------------------------

/-- `DIRECTION`. -/
inductive Direction where
  | input
  | output
deriving DecidableEq

/-- `PIN_VALUE`. -/
inductive PinValue where
  | low
  | high
deriving DecidableEq

/-- What is written to a file under `SYSFS_GPIO_DIR`. -/
inductive SysfsWrite where
  | export (gpio : UInt32)
  | unexport (gpio : UInt32)
  | direction (gpio : UInt32) (direction : Direction)
  | value (gpio : UInt32) (value : PinValue)
deriving DecidableEq

/-- The pin that a write exports. -/
def SysfsWrite.exported : SysfsWrite → Option UInt32
  | .export gpio => some gpio
  | _ => none

/-- A pin is exported once, and the other writes that concern it stand behind that. -/
def Backed (before : List SysfsWrite) : SysfsWrite → Prop
  | .export gpio => .export gpio ∉ before
  | .unexport gpio => .export gpio ∈ before
  | .direction gpio _ => .export gpio ∈ before
  | .value gpio _ => .export gpio ∈ before

theorem export_mem {writes : List SysfsWrite} {gpio : UInt32}
    : .export gpio ∈ writes ↔ gpio ∈ writes.filterMap SysfsWrite.exported := by
  rw [List.mem_filterMap]
  constructor
  · exact fun member => ⟨_, member, rfl⟩
  · rintro ⟨write, member, exported⟩
    cases write with
    | «export» other =>
        cases exported
        exact member
    | _ => cases exported

-----------------------------------------------------------------------------------------
-- The manager
-----------------------------------------------------------------------------------------

/-- `GPIOManager`. -/
structure GPIOManager where
  exportedPins : List UInt32

def GPIOManager.new : GPIOManager := ⟨[]⟩

def GPIOManager.exportPin (manager : GPIOManager) (gpio : UInt32)
    : GPIOManager × List SysfsWrite :=
  (⟨manager.exportedPins ++ [gpio]⟩, [.export gpio])

/-- `std::remove` and `erase` take out every entry of the pin. -/
def GPIOManager.unexportPin (manager : GPIOManager) (gpio : UInt32)
    : GPIOManager × List SysfsWrite :=
  (⟨manager.exportedPins.filter (fun pin => decide (pin ≠ gpio))⟩, [.unexport gpio])

/-- The loop of `clean` from an index on. `unexportPin` takes the pin out of the list that the loop
runs through.
-/
def GPIOManager.cleanFrom (manager : GPIOManager) (i : Nat) : Nat → GPIOManager × List SysfsWrite
  | 0 => (manager, [])
  | fuel + 1 =>
      match manager.exportedPins[i]? with
      | none => (manager, [])
      | some gpio =>
          let (left, writes) := manager.unexportPin gpio
          let (cleaned, later) := left.cleanFrom (i + 1) fuel
          (cleaned, writes ++ later)

/-- The list gets shorter with every turn, so that it has as many turns as pins at most. -/
def GPIOManager.clean (manager : GPIOManager) : GPIOManager × List SysfsWrite :=
  manager.cleanFrom 0 manager.exportedPins.length

-----------------------------------------------------------------------------------------
-- Every second pin
-----------------------------------------------------------------------------------------

/-- The first of a list, the third and so on. -/
def evenPlaces {α : Type*} : List α → List α
  | [] => []
  | [first] => [first]
  | first :: _ :: rest => first :: evenPlaces rest

/-- The second of a list, the fourth and so on. -/
def oddPlaces {α : Type*} : List α → List α
  | [] => []
  | [_] => []
  | _ :: second :: rest => second :: oddPlaces rest

/-- A list without a pin, of which it held one entry. -/
theorem filter_single {kept rest : List UInt32} {gpio : UInt32}
    (distinct : (kept ++ gpio :: rest).Nodup)
    : (kept ++ gpio :: rest).filter (fun pin => decide (pin ≠ gpio)) = kept ++ rest := by
  obtain ⟨_, behind, apart⟩ := List.nodup_append.mp distinct
  obtain ⟨absent, _⟩ := List.nodup_cons.mp behind
  have before : kept.filter (fun pin => decide (pin ≠ gpio)) = kept :=
    List.filter_eq_self.mpr (fun pin member =>
      decide_eq_true (apart pin member gpio List.mem_cons_self))
  have after : rest.filter (fun pin => decide (pin ≠ gpio)) = rest :=
    List.filter_eq_self.mpr (fun pin member =>
      decide_eq_true (fun same => absent (same ▸ member)))
  rw [List.filter_append, List.filter_cons_of_neg (by simp), before, after]

theorem cleanFrom_turn {kept rest : List UInt32} {gpio : UInt32} (fuel : Nat)
    (distinct : (kept ++ gpio :: rest).Nodup)
    : GPIOManager.cleanFrom ⟨kept ++ gpio :: rest⟩ kept.length (fuel + 1)
      = ((GPIOManager.cleanFrom ⟨kept ++ rest⟩ (kept.length + 1) fuel).1,
          .unexport gpio :: (GPIOManager.cleanFrom ⟨kept ++ rest⟩ (kept.length + 1) fuel).2) := by
  have own : (kept ++ gpio :: rest)[kept.length]? = some gpio := by
    rw [List.getElem?_append_right (Nat.le_refl _), Nat.sub_self, List.getElem?_cons_zero]
  simp only [GPIOManager.cleanFrom, own, GPIOManager.unexportPin, filter_single distinct]
  rfl

theorem cleanFrom_done {pins : List UInt32} {i : Nat} (done : pins.length ≤ i) (fuel : Nat)
    : GPIOManager.cleanFrom ⟨pins⟩ i fuel = (⟨pins⟩, []) := by
  cases fuel with
  | zero => rfl
  | succ fuel => simp only [GPIOManager.cleanFrom, List.getElem?_eq_none done]

/-- The pin behind the one that is taken out moves into its place, and is passed over. Witness:
induction over the pins ahead, two at a time.
-/
theorem cleanFrom_eq (rest : List UInt32) {kept : List UInt32} {fuel : Nat}
    (distinct : (kept ++ rest).Nodup) (turns : rest.length ≤ fuel)
    : GPIOManager.cleanFrom ⟨kept ++ rest⟩ kept.length fuel
      = (⟨kept ++ oddPlaces rest⟩, (evenPlaces rest).map .unexport) := by
  induction rest using evenPlaces.induct generalizing kept fuel with
  | case1 => exact cleanFrom_done (by rw [List.append_nil]) fuel
  | case2 first =>
      obtain ⟨fuel, rfl⟩ := Nat.exists_eq_add_of_le' turns
      rw [List.length_singleton, cleanFrom_turn fuel distinct,
        cleanFrom_done (by rw [List.append_nil]; omega)]
      rfl
  | case3 first second rest ih =>
      obtain ⟨fuel, rfl⟩ := Nat.exists_eq_add_of_le' (Nat.le_of_add_left_le turns : 1 ≤ fuel)
      have apart : ((kept ++ [second]) ++ rest).Nodup := by
        rw [List.append_assoc]
        exact distinct.sublist
          (List.Sublist.append_left (List.sublist_cons_self first _) kept)
      have left : rest.length ≤ fuel := by
        rw [List.length_cons, List.length_cons] at turns
        omega
      have later := ih apart left
      rw [List.length_append, List.length_singleton, List.append_assoc, List.singleton_append]
        at later
      rw [cleanFrom_turn fuel distinct, later, List.append_assoc]
      rfl

/-- `clean` unexports every second pin, and leaves the others. -/
theorem clean_eq {pins : List UInt32} (distinct : pins.Nodup)
    : GPIOManager.clean ⟨pins⟩ = (⟨oddPlaces pins⟩, (evenPlaces pins).map .unexport) :=
  @cleanFrom_eq pins [] _ distinct (Nat.le_refl _)

theorem evenPlaces_sublist {α : Type*} (list : List α) : (evenPlaces list).Sublist list := by
  induction list using evenPlaces.induct with
  | case1 => exact List.Sublist.slnil
  | case2 first => exact List.Sublist.refl _
  | case3 first second rest ih => exact (ih.cons second).cons_cons first

end Cooboc.Gpio
