import Cooboc.Gpio.GpioManager

/-! The handlers of pins that `Io` opens, one for each key that is asked for, and what the manager's
`clean` leaves of their pins.
-/

namespace Cooboc.Gpio

open Cooboc.Foundations

-----------------------------------------------------------------------------------------
-- Pins
-----------------------------------------------------------------------------------------

/-- `pinTable`: the keys of the board's pins with their numbers. -/
def pinTable : List (String × UInt32) :=
  [("USR0", 53), ("USR1", 54), ("USR2", 55), ("USR3", 56), ("P8_1", 0), ("P8_2", 0),
   ("P8_3", 38), ("P8_4", 39), ("P8_5", 34), ("P8_6", 35), ("P8_7", 66), ("P8_8", 67),
   ("P8_9", 69), ("P8_10", 68), ("P8_11", 45), ("P8_12", 44), ("P8_13", 23), ("P8_14", 26),
   ("P8_15", 47), ("P8_16", 46), ("P8_17", 27), ("P8_18", 65), ("P8_19", 22), ("P8_20", 63),
   ("P8_21", 62), ("P8_22", 37), ("P8_23", 36), ("P8_24", 33), ("P8_25", 32), ("P8_26", 61),
   ("P8_27", 86), ("P8_28", 88), ("P8_29", 87), ("P8_30", 89), ("P8_31", 10), ("P8_32", 11),
   ("P8_33", 9), ("P8_34", 81), ("P8_35", 8), ("P8_36", 80), ("P8_37", 78), ("P8_38", 79),
   ("P8_39", 76), ("P8_40", 77), ("P8_41", 74), ("P8_42", 75), ("P8_43", 72), ("P8_44", 73),
   ("P8_45", 70), ("P8_46", 71), ("P9_1", 0), ("P9_2", 0), ("P9_3", 0), ("P9_4", 0), ("P9_5", 0),
   ("P9_6", 0), ("P9_7", 0), ("P9_8", 0), ("P9_9", 0), ("P9_10", 0), ("P9_11", 30),
   ("P9_12", 60), ("P9_13", 31), ("P9_14", 50), ("P9_15", 48), ("P9_16", 51), ("P9_17", 5),
   ("P9_18", 4), ("P9_19", 13), ("P9_20", 12), ("P9_21", 3), ("P9_22", 2), ("P9_23", 49),
   ("P9_24", 15), ("P9_25", 117), ("P9_26", 14), ("P9_27", 115), ("P9_28", 113), ("P9_29", 111),
   ("P9_30", 112), ("P9_31", 110), ("P9_32", 0), ("P9_33", 0), ("P9_34", 0), ("P9_35", 0),
   ("P9_36", 0), ("P9_37", 0), ("P9_38", 0), ("P9_39", 0), ("P9_40", 0), ("P9_41", 20),
   ("P9_42", 7), ("P9_43", 0), ("P9_44", 0), ("P9_45", 0), ("P9_46", 0)]

/-- `getGpioByKey`: the first entry of the key; a key without an entry has the number zero, as
have the pins of the power supply.
-/
def getGpioByKey (key : String) : UInt32 :=
  match pinTable.find? (fun pin => pin.1 == key) with
  | some pin => pin.2
  | none => 0

theorem pinTable_distinct
    : ((pinTable.filter (fun pin => decide (pin.2 ≠ 0))).map Prod.snd).Nodup := by
  decide +kernel

theorem getGpioByKey_entry {key : String} (usable : getGpioByKey key ≠ 0)
    : (key, getGpioByKey key) ∈ pinTable.filter (fun pin => decide (pin.2 ≠ 0)) := by
  cases found : pinTable.find? (fun pin => pin.1 == key) with
  | none => exact absurd (by rw [getGpioByKey, found]) usable
  | some pin =>
      have number : getGpioByKey key = pin.2 := by rw [getGpioByKey, found]
      have own : pin.1 = key := by simpa using List.find?_some found
      rw [number] at usable ⊢
      rw [← own]
      exact List.mem_filter.mpr ⟨List.mem_of_find?_eq_some found, decide_eq_true usable⟩

/-- Two keys of one pin are the same key. -/
theorem getGpioByKey_injective {first second : String} (usable : getGpioByKey first ≠ 0)
    (same : getGpioByKey first = getGpioByKey second)
    : first = second := by
  have other : getGpioByKey second ≠ 0 := same ▸ usable
  have entries := List.inj_on_of_nodup_map pinTable_distinct (getGpioByKey_entry usable)
    (getGpioByKey_entry other) same
  exact congrArg Prod.fst entries

-----------------------------------------------------------------------------------------
-- Handlers
-----------------------------------------------------------------------------------------

/-- `GpioHandler`. -/
structure GpioHandler where
  mGpioKey : String
  mGpioPin : UInt32

def GpioHandler.new (gpioKey : String) : GpioHandler := ⟨gpioKey, getGpioByKey gpioKey⟩

/-- Any status but `GPIO_INPUT` makes an output. -/
def GpioHandler.setPinMode (handler : GpioHandler) (status : Int) : List SysfsWrite :=
  [.direction handler.mGpioPin (if status = 0 then .input else .output)]

def GpioHandler.write (handler : GpioHandler) (status : Int) : List SysfsWrite :=
  [.value handler.mGpioPin (if 0 = status then .low else .high)]

/-- The handlers of pins that `Io` has opened, with the one manager that they share. -/
structure Io where
  mOpenedGpioHandler : List GpioHandler
  mGpioManager : GPIOManager

def Io.new : Io := ⟨[], .new⟩

/-- The handler of a key, by its place. A new handler exports its pin. -/
def Io.getGpioHandler (io : Io) (gpioKey : String) : Io × Nat × List SysfsWrite :=
  match io.mOpenedGpioHandler.findIdx? (fun handler => handler.mGpioKey == gpioKey) with
  | some i => (io, i, [])
  | none =>
      let handler := GpioHandler.new gpioKey
      let (manager, writes) := io.mGpioManager.exportPin handler.mGpioPin
      (⟨io.mOpenedGpioHandler ++ [handler], manager⟩, io.mOpenedGpioHandler.length, writes)

/-- A driver asks for a handler, or uses one that has been opened. -/
inductive IoCall where
  | getGpioHandler (gpioKey : String)
  | setPinMode (handler : Nat) (status : Int)
  | write (handler : Nat) (status : Int)

/-- What is written by a handler, if it has been opened. -/
def Io.handled (io : Io) (handler : Nat) (writes : GpioHandler → List SysfsWrite)
    : List SysfsWrite :=
  (io.mOpenedGpioHandler[handler]?.map writes).getD []

/-- The drivers' calls as a machine. -/
def gpioCalls : Machine Io IoCall (List SysfsWrite) where
  step io
    | .getGpioHandler gpioKey =>
        let (next, _, writes) := io.getGpioHandler gpioKey
        (next, writes)
    | .setPinMode handler status => (io, io.handled handler (fun own => own.setPinMode status))
    | .write handler status => (io, io.handled handler (fun own => own.write status))

def IoCall.key? : IoCall → Option String
  | .getGpioHandler gpioKey => some gpioKey
  | _ => none

/-- The keys that are asked for, each at its first time. -/
def keysAsked (calls : List IoCall) : List String := (calls.filterMap IoCall.key?).eraseDups

theorem mem_keysAsked {calls : List IoCall} {key : String}
    : key ∈ keysAsked calls ↔ key ∈ calls.filterMap IoCall.key? := List.mem_eraseDups

theorem keysAsked_again {calls : List IoCall} {key : String} (again : key ∈ keysAsked calls)
    : keysAsked (calls ++ [.getGpioHandler key]) = keysAsked calls := by
  have held : (calls.filterMap IoCall.key?).contains key = true :=
    List.contains_iff_mem.mpr (mem_keysAsked.mp again)
  rw [keysAsked, List.filterMap_append, List.eraseDups_append]
  change keysAsked calls ++ ([key].removeAll (calls.filterMap IoCall.key?)).eraseDups = _
  rw [List.cons_removeAll, List.nil_removeAll, held, if_neg (by decide), List.eraseDups_nil,
    List.append_nil]

theorem keysAsked_new {calls : List IoCall} {key : String} (new : key ∉ keysAsked calls)
    : keysAsked (calls ++ [.getGpioHandler key]) = keysAsked calls ++ [key] := by
  have missing : (calls.filterMap IoCall.key?).contains key = false := by
    rw [← Bool.not_eq_true, List.contains_iff_mem]
    exact fun member => new (mem_keysAsked.mpr member)
  rw [keysAsked, List.filterMap_append, List.eraseDups_append]
  change keysAsked calls ++ ([key].removeAll (calls.filterMap IoCall.key?)).eraseDups = _
  rw [List.cons_removeAll, List.nil_removeAll, missing, if_pos rfl, List.eraseDups_cons,
    List.filter_nil, List.eraseDups_nil]

theorem keysAsked_other {calls : List IoCall} {call : IoCall} (other : call.key? = none)
    : keysAsked (calls ++ [call]) = keysAsked calls := by
  rw [keysAsked, List.filterMap_append, List.filterMap_cons_none other, List.filterMap_nil,
    List.append_nil]
  rfl

theorem keysAsked_nodup (calls : List IoCall) : (keysAsked calls).Nodup := by
  induction calls using List.reverseRecOn with
  | nil => exact List.nodup_nil
  | append_singleton calls call ih =>
      cases call with
      | getGpioHandler key =>
          by_cases again : key ∈ keysAsked calls
          · rw [keysAsked_again again]
            exact ih
          · rw [keysAsked_new again, ← List.concat_eq_append]
            exact ih.concat again
      | setPinMode handler status =>
          rw [keysAsked_other rfl]
          exact ih
      | write handler status =>
          rw [keysAsked_other rfl]
          exact ih

-----------------------------------------------------------------------------------------
-- Runs of calls
-----------------------------------------------------------------------------------------

/-- There is one handler for each key asked for, and the manager's pins are those exported, each
once and before anything else is written to its files.
-/
structure Io.Serves (io : Io) (calls : List IoCall) (writes : List SysfsWrite) : Prop where
  handlers : io.mOpenedGpioHandler = (keysAsked calls).map GpioHandler.new
  pins : io.mGpioManager.exportedPins = (keysAsked calls).map getGpioByKey
  exports : writes.filterMap SysfsWrite.exported = io.mGpioManager.exportedPins
  backed : Lawful Backed [] writes

theorem new_serves : Io.new.Serves [] [] := ⟨rfl, rfl, rfl, trivial⟩

section Calls

variable {io : Io} {calls : List IoCall} {writes : List SysfsWrite}

/-- A write of a handler that exports nothing, behind the export of its pin. -/
theorem Io.Serves.handled (serves : io.Serves calls writes) {call : IoCall}
    (other : call.key? = none) (handler : Nat) {written : GpioHandler → SysfsWrite}
    (silent : ∀ opened, (written opened).exported = none)
    (own : ∀ opened before, .export opened.mGpioPin ∈ before → Backed before (written opened))
    : io.Serves (calls ++ [call])
        (writes ++ io.handled handler (fun opened => [written opened])) := by
  obtain ⟨handlers, pins, exports, backed⟩ := serves
  rw [Io.handled]
  cases found : io.mOpenedGpioHandler[handler]? with
  | none =>
      refine ⟨?_, ?_, ?_, ?_⟩
      · rw [keysAsked_other other, handlers]
      · rw [keysAsked_other other, pins]
      · rw [← exports]
        exact congrArg _ (List.append_nil writes)
      · exact (List.append_nil writes).symm ▸ backed
  | some opened =>
      have exported : .export opened.mGpioPin ∈ writes := by
        rw [handlers] at found
        obtain ⟨key, asked, rfl⟩ := List.mem_map.mp (List.mem_of_getElem? found)
        rw [export_mem, exports, pins]
        exact List.mem_map_of_mem asked
      refine ⟨?_, ?_, ?_, lawful_append.mpr ⟨backed, own opened writes exported, trivial⟩⟩
      · rw [keysAsked_other other, handlers]
      · rw [keysAsked_other other, pins]
      · rw [List.filterMap_append, exports]
        change _ ++ [written opened].filterMap _ = _
        rw [List.filterMap_cons_none (silent opened), List.filterMap_nil, List.append_nil]

/-- The handler that is found for a key is the key's, which has been asked for. -/
theorem Io.Serves.opened (serves : io.Serves calls writes) {gpioKey : String} {i : Nat}
    (found
      : io.mOpenedGpioHandler.findIdx? (fun handler => handler.mGpioKey == gpioKey) = some i)
    : gpioKey ∈ keysAsked calls
      ∧ io.mOpenedGpioHandler[i]? = some (GpioHandler.new gpioKey) := by
  obtain ⟨inside, own, -⟩ := List.findIdx?_eq_some_iff_getElem.mp found
  have member := List.getElem_mem inside
  rw [List.getElem?_eq_getElem inside]
  generalize io.mOpenedGpioHandler[i] = opened at own member
  rw [serves.handlers] at member
  obtain ⟨key, asked, rfl⟩ := List.mem_map.mp member
  obtain rfl : key = gpioKey := eq_of_beq own
  exact ⟨asked, rfl⟩

/-- A handler is opened for a key that has none. -/
theorem Io.Serves.getGpioHandler (serves : io.Serves calls writes) {gpioKey : String}
    (usable : getGpioByKey gpioKey ≠ 0)
    : (io.getGpioHandler gpioKey).1.Serves (calls ++ [.getGpioHandler gpioKey])
        (writes ++ (io.getGpioHandler gpioKey).2.2) := by
  cases found
    : io.mOpenedGpioHandler.findIdx? (fun handler => handler.mGpioKey == gpioKey) with
  | some i =>
      obtain ⟨again, -⟩ := serves.opened found
      obtain ⟨handlers, pins, exports, backed⟩ := serves
      simp only [Io.getGpioHandler, found, List.append_nil]
      refine ⟨?_, ?_, exports, backed⟩
      · rw [keysAsked_again again, handlers]
      · rw [keysAsked_again again, pins]
  | none =>
      obtain ⟨handlers, pins, exports, backed⟩ := serves
      have new : gpioKey ∉ keysAsked calls := by
        intro asked
        have member : GpioHandler.new gpioKey ∈ io.mOpenedGpioHandler := by
          rw [handlers]
          exact List.mem_map_of_mem asked
        have other := List.findIdx?_eq_none_iff.mp found _ member
        exact ne_of_beq_false other rfl
      have unexported : .export (getGpioByKey gpioKey) ∉ writes := by
        rw [export_mem, exports, pins]
        intro member
        obtain ⟨key, asked, same⟩ := List.mem_map.mp member
        exact new (getGpioByKey_injective usable same.symm ▸ asked)
      simp only [Io.getGpioHandler, found]
      refine ⟨?_, ?_, ?_, lawful_append.mpr ⟨backed, unexported, trivial⟩⟩
      · rw [keysAsked_new new, handlers, List.map_append]
        rfl
      · rw [keysAsked_new new, List.map_append, ← pins]
        rfl
      · rw [List.filterMap_append, exports]
        rfl

/-- A request returns the handler of its key. -/
theorem Io.Serves.returns (serves : io.Serves calls writes) (gpioKey : String)
    : (io.getGpioHandler gpioKey).1.mOpenedGpioHandler[(io.getGpioHandler gpioKey).2.1]?
      = some (GpioHandler.new gpioKey) := by
  cases found
    : io.mOpenedGpioHandler.findIdx? (fun handler => handler.mGpioKey == gpioKey) with
  | some i =>
      simp only [Io.getGpioHandler, found]
      exact (serves.opened found).2
  | none =>
      simp only [Io.getGpioHandler, found]
      rw [List.getElem?_append_right (Nat.le_refl _), Nat.sub_self]
      rfl

end Calls

/-- Along every run with keys of usable pins the handlers and the manager serve the calls. Witness:
induction over the calls.
-/
theorem run_serves {calls : List IoCall}
    (usable : ∀ key ∈ calls.filterMap IoCall.key?, getGpioByKey key ≠ 0)
    : (gpioCalls.run Io.new calls).Serves calls (gpioCalls.outputs Io.new calls).flatten := by
  induction calls using List.reverseRecOn with
  | nil => exact new_serves
  | append_singleton calls call ih =>
      rw [List.filterMap_append] at usable
      have serves := ih (fun key member => usable key (List.mem_append_left _ member))
      rw [Machine.run_append, Machine.outputs_append, List.flatten_append, Machine.outputs_cons,
        Machine.outputs_nil, List.flatten_cons, List.flatten_nil, List.append_nil]
      cases call with
      | getGpioHandler key =>
          have own := usable key (List.mem_append_right _ (List.mem_singleton_self key))
          exact serves.getGpioHandler own
      | setPinMode handler status =>
          exact serves.handled rfl handler (fun _ => rfl) (fun _ _ exported => exported)
      | write handler status =>
          exact serves.handled rfl handler (fun _ => rfl) (fun _ _ exported => exported)

/-- In every run of the drivers' calls with keys of usable pins there is one handler for each key,
in the order in which they are first asked for, which a request for its key returns; and each
handler's pin is exported once, before anything else is written to its files. `clean` behind it
unexports the first of these pins, the third, and so on, and keeps the others in the manager's list.
Witness: the run exports each pin once, and the loop of `clean` passes over the pin behind the one
it takes out.
-/
theorem clean_passes_over {calls : List IoCall}
    (usable : ∀ key ∈ calls.filterMap IoCall.key?, getGpioByKey key ≠ 0)
    : let io := gpioCalls.run Io.new calls
      let writes := (gpioCalls.outputs Io.new calls).flatten
      let pins := (keysAsked calls).map getGpioByKey
      io.mOpenedGpioHandler = (keysAsked calls).map GpioHandler.new
        ∧ (∀ gpioKey,
            (io.getGpioHandler gpioKey).1.mOpenedGpioHandler[(io.getGpioHandler gpioKey).2.1]?
              = some (GpioHandler.new gpioKey))
        ∧ writes.filterMap SysfsWrite.exported = pins
        ∧ pins.Nodup
        ∧ Lawful Backed [] (writes ++ io.mGpioManager.clean.2)
        ∧ io.mGpioManager.clean = (⟨oddPlaces pins⟩, (evenPlaces pins).map .unexport) := by
  intro io writes pins
  have serves := run_serves usable
  have distinct : pins.Nodup := by
    refine (keysAsked_nodup calls).map_on (fun first asked second _ same => ?_)
    exact getGpioByKey_injective (usable first (mem_keysAsked.mp asked)) same
  have exports : writes.filterMap SysfsWrite.exported = pins := serves.exports.trans serves.pins
  have manager : io.mGpioManager = ⟨pins⟩ := congrArg GPIOManager.mk serves.pins
  have cleaned : io.mGpioManager.clean = (⟨oddPlaces pins⟩, (evenPlaces pins).map .unexport) := by
    rw [manager, clean_eq distinct]
  refine ⟨serves.handlers, serves.returns, exports, distinct, ?_, cleaned⟩
  rw [cleaned, lawful_append]
  refine ⟨serves.backed, lawful_iff.mpr (fun before write after split => ?_)⟩
  have member : write ∈ (evenPlaces pins).map SysfsWrite.unexport := by
    change (evenPlaces pins).map SysfsWrite.unexport = _ at split
    rw [split]
    exact List.mem_append_right _ List.mem_cons_self
  obtain ⟨gpio, among, rfl⟩ := List.mem_map.mp member
  have exported : .export gpio ∈ writes := by
    rw [export_mem, exports]
    exact (evenPlaces_sublist pins).mem among
  exact List.mem_append_left _ exported

/-- The beeper's pin and another one, of which `clean` leaves the second. -/
theorem clean_passes_over_beeper
    : let calls : List IoCall :=
        [.getGpioHandler "P9_42", .setPinMode 0 1, .getGpioHandler "P8_3", .write 0 1,
          .getGpioHandler "P9_42"]
      let io := gpioCalls.run Io.new calls
      let writes := (gpioCalls.outputs Io.new calls).flatten
      Lawful Backed [] (writes ++ io.mGpioManager.clean.2)
        ∧ io.mGpioManager.clean = (⟨[38]⟩, [.unexport 7]) := by
  intro calls io writes
  obtain ⟨_, _, _, _, backed, cleaned⟩ :=
    @clean_passes_over calls (by decide +kernel)
  have pins : (keysAsked calls).map getGpioByKey = [7, 38] := by decide +kernel
  rw [pins] at cleaned
  exact ⟨backed, cleaned⟩

end Cooboc.Gpio
