import Mathlib.Data.List.Basic
import Cooboc.Foundations.Machine
import Cooboc.Foundations.Replay

/-! A record in shared memory that a writer fills cell by cell, and a flag that it raises behind
the last cell; a reader lowers the flag, and copies the cells one by one behind that. Accesses
of the two may alternate in any way. Nothing is promised of a copy that a writer disturbs, but
one that is left with the flag down and no writer at work is the record as it stands; and where
each cell is written before it is copied, the copies of each show what was written there, and
never go back in time.
-/

namespace Cooboc.Foundations

/-- The accesses of the two sides. -/
inductive RecordAccess (κ α : Type*) where
  | write (cell : κ) (value : α)
  | raise
  | lower
  | copy (cell : κ)
deriving DecidableEq

/-- What an access shows: a value written to a cell, or copied from it. -/
inductive RecordEvent (κ α : Type*) where
  | wrote (cell : κ) (value : α)
  | copied (cell : κ) (value : α)
deriving DecidableEq

/-- The cells and the flag; whether cells were written behind the last raising; and the copies
taken behind the last lowering.
-/
structure FlaggedRecord (κ α : Type*) where
  memory : κ → α
  flag : Bool
  writing : Bool
  copied : κ → Option α

variable {κ α : Type*} [DecidableEq κ]

/-- The record under the accesses of both sides. -/
def flaggedRecord
    : Machine (FlaggedRecord κ α) (RecordAccess κ α) (Option (RecordEvent κ α)) where
  step record
    | .write cell value =>
        (
          { record with memory := Function.update record.memory cell value, writing := true },
          some (.wrote cell value)
        )
    | .raise => ({ record with flag := true, writing := false }, none)
    | .lower => ({ record with flag := false, copied := fun _ => none }, none)
    | .copy cell =>
        (
          { record with
            copied := Function.update record.copied cell (some (record.memory cell)) },
          some (.copied cell (record.memory cell))
        )

namespace FlaggedRecord

/-- The record before any access. -/
def initial (memory : κ → α) : FlaggedRecord κ α where
  memory := memory
  flag := false
  writing := false
  copied _ := none

/-- With no writer at work, and the flag down, the copies are the cells. -/
def Current (record : FlaggedRecord κ α) : Prop :=
  record.writing = false
  → record.flag = false
  → ∀ cell value, record.copied cell = some value → record.memory cell = value

omit [DecidableEq κ] in
theorem initial_current (memory : κ → α) : (initial memory).Current :=
  fun _ _ _ _ copied => absurd copied (by simp [initial])

/-- Every access keeps the copies current. Witness: a write leaves a writer at work, a raising
the flag up, and a lowering no copies.
-/
theorem Current.step {record : FlaggedRecord κ α} (current : record.Current)
    (access : RecordAccess κ α)
    : (flaggedRecord.step record access).1.Current := by
  cases access with
  | write cell value => exact fun still _ => absurd still (by simp [flaggedRecord])
  | raise => exact fun _ down => absurd down (by simp [flaggedRecord])
  | lower => exact fun _ _ _ _ copied => absurd copied (by simp [flaggedRecord])
  | copy cell =>
      intro still down other value copied
      change Function.update record.copied cell (some (record.memory cell)) other = _ at copied
      by_cases own : other = cell
      · subst own
        rw [Function.update_self] at copied
        exact Option.some.inj copied
      · rw [Function.update_of_ne own] at copied
        exact current still down other value copied

-----------------------------------------------------------------------------------------
-- The history of a cell
-----------------------------------------------------------------------------------------

/-- The value written to a cell in a step, if any. -/
def wroteTo (cell : κ) : Option (RecordEvent κ α) → Option α
  | some (.wrote other value) => if other = cell then some value else none
  | _ => none

/-- The value copied from a cell in a step, if any. -/
def copiedFrom (cell : κ) : Option (RecordEvent κ α) → Option α
  | some (.copied other value) => if other = cell then some value else none
  | _ => none

theorem wroteTo_own (cell : κ) (value : α) : wroteTo cell (some (.wrote cell value)) = some value :=
  if_pos rfl

theorem wroteTo_other {cell other : κ} (differs : cell ≠ other) (value : α)
    : wroteTo other (some (.wrote cell value)) = none :=
  if_neg differs

theorem copiedFrom_own (cell : κ) (value : α)
    : copiedFrom cell (some (.copied cell value)) = some value :=
  if_pos rfl

theorem copiedFrom_other {cell other : κ} (differs : cell ≠ other) (value : α)
    : copiedFrom other (some (.copied cell value)) = none :=
  if_neg differs

/-- The values written to a cell, in order. -/
def written (cell : κ) (trace : List (Option (RecordEvent κ α))) : List α :=
  trace.filterMap (wroteTo cell)

/-- The values copied from a cell, in order. -/
def copies (cell : κ) (trace : List (Option (RecordEvent κ α))) : List α :=
  trace.filterMap (copiedFrom cell)

theorem written_concat (cell : κ) (trace : List (Option (RecordEvent κ α)))
    (event : Option (RecordEvent κ α))
    : written cell (trace ++ [event]) = written cell trace ++ (wroteTo cell event).toList := by
  rw [written, List.filterMap_append]
  cases wrote : wroteTo cell event <;> simp [written, wrote]

theorem copies_concat (cell : κ) (trace : List (Option (RecordEvent κ α)))
    (event : Option (RecordEvent κ α))
    : copies cell (trace ++ [event]) = copies cell trace ++ (copiedFrom cell event).toList := by
  rw [copies, List.filterMap_append]
  cases copied : copiedFrom cell event <;> simp [copies, copied]

/-- A step that writes nothing to a cell adds nothing to what was written. -/
theorem written_aside {cell : κ} {event : Option (RecordEvent κ α)}
    (unwritten : wroteTo cell event = none) (trace : List (Option (RecordEvent κ α)))
    : written cell (trace ++ [event]) = written cell trace := by
  rw [written_concat, unwritten, Option.toList_none, List.append_nil]

/-- A step that copies nothing from a cell adds nothing to what was copied. -/
theorem copies_aside {cell : κ} {event : Option (RecordEvent κ α)}
    (uncopied : copiedFrom cell event = none) (trace : List (Option (RecordEvent κ α)))
    : copies cell (trace ++ [event]) = copies cell trace := by
  rw [copies_concat, uncopied, Option.toList_none, List.append_nil]

/-- What was written stays written. -/
theorem written_grows {cell : κ} {trace : List (Option (RecordEvent κ α))}
    {event : Option (RecordEvent κ α)} (filled : written cell trace ≠ [])
    : written cell (trace ++ [event]) ≠ [] := by
  rw [written_concat]
  exact List.append_ne_nil_of_left_ne_nil filled _

/-- Each cell holds what was written to it last, and the values copied from it are read off those
written.
-/
structure InOrder (trace : List (Option (RecordEvent κ α))) (record : FlaggedRecord κ α) : Prop
    where
  holds : ∀ cell value, (written cell trace).getLast? = some value → record.memory cell = value
  replays : ∀ cell, Replays (written cell trace) (copies cell trace)

theorem initial_inOrder (memory : κ → α) : InOrder [] (initial memory) where
  holds _ _ last := by cases last
  replays _ := .nil

/-- An access that leaves the cells as they are keeps the order, if it copies nothing. -/
theorem InOrder.silent {trace : List (Option (RecordEvent κ α))}
    {record next : FlaggedRecord κ α} (inOrder : InOrder trace record)
    (kept : next.memory = record.memory)
    : InOrder (trace ++ [none]) next where
  holds cell := by
    rw [written_aside rfl, kept]
    exact inOrder.holds cell
  replays cell := by
    rw [written_aside rfl, copies_aside rfl]
    exact inOrder.replays cell

/-- A write keeps the order. Witness: the value ends what was written to its cell. -/
theorem InOrder.write {trace : List (Option (RecordEvent κ α))} {record : FlaggedRecord κ α}
    (inOrder : InOrder trace record) (cell : κ) (value : α)
    : InOrder (trace ++ [some (.wrote cell value)])
        (flaggedRecord.step record (.write cell value)).1 where
  holds other last wrote := by
    by_cases own : cell = other
    · subst own
      rw [written_concat, wroteTo_own, Option.toList_some, List.getLast?_concat] at wrote
      rw [← Option.some.inj wrote]
      exact Function.update_self ..
    · rw [written_aside (wroteTo_other own value)] at wrote
      rw [← inOrder.holds other last wrote]
      exact Function.update_of_ne (Ne.symm own) ..
  replays other := by
    rw [copies_aside rfl, written_concat]
    exact (inOrder.replays other).append _

/-- A copy from a cell that was written keeps the order. Witness: it shows what was written last
once more.
-/
theorem InOrder.copy {trace : List (Option (RecordEvent κ α))} {record : FlaggedRecord κ α}
    (inOrder : InOrder trace record) {cell : κ} (filled : written cell trace ≠ [])
    : InOrder (trace ++ [some (.copied cell (record.memory cell))])
        (flaggedRecord.step record (.copy cell)).1 where
  holds other := by
    rw [written_aside rfl]
    exact inOrder.holds other
  replays other := by
    rw [written_aside rfl]
    have replays := inOrder.replays other
    by_cases own : cell = other
    · subst own
      have stands := inOrder.holds cell _ (List.getLast?_eq_some_getLast filled)
      rw [← List.dropLast_append_getLast filled] at replays ⊢
      rw [copies_concat, copiedFrom_own, stands]
      exact replays.concat
    · rw [copies_aside (copiedFrom_other own _)]
      exact replays

end FlaggedRecord

end Cooboc.Foundations
