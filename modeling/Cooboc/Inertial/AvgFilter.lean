import Mathlib.Algebra.Field.Rat
import Mathlib.Logic.Function.Basic
import Cooboc.Foundations.FueledLoop
import Cooboc.Foundations.SlidingWindow

/-! The moving average of `utils/avg_filter.cpp`. The guard of its fill loop is a comma
expression whose value never changes, so the loop does not end and leaves the array.
-/

namespace Cooboc.Inertial

open Cooboc.Foundations

/-- The members of `AvgFilter` and of its base class; `mValueList` is the memory from the
start of the array on.
-/
structure AvgFilter (R : Type*) where
  mLastValue : R
  mValueList : Nat → R
  mValueLength : Nat
  mCurrentHeadIndex : Nat

/-- The fill loop: its variable, the memory, and the cells written so far. -/
structure FillLoop (R : Type*) where
  i : Nat
  mValueList : Nat → R
  written : List Nat

/-- The calls on a filter. -/
inductive AvgCall (R : Type*) where
  | filter (value : R)
  | resetValue (value : R)

variable {R : Type*}

/-- The loop at its start. -/
def FillLoop.start (mValueList : Nat → R) : FillLoop R := ⟨0, mValueList, []⟩

/-- One iteration of `for (i=0; i,mValueLength; ++i)`. -/
def FillLoop.step (mValueLength : Nat) (value : R) (loop : FillLoop R) : Option (FillLoop R) :=
  -- The comma operator drops `i`; the condition is `mValueLength`.
  if mValueLength ≠ 0 then
    some {
      i := loop.i + 1
      mValueList := Function.update loop.mValueList loop.i value
      written := loop.written ++ [loop.i] }
  else
    none

/-- `resetValue`, with the cells it writes, if the loop ends within so many iterations. -/
def AvgFilter.resetValue (filter : AvgFilter R) (fuel : Nat) (value : R)
    : Option (AvgFilter R × List Nat) :=
  (runLoop (FillLoop.step filter.mValueLength value) fuel (.start filter.mValueList)).map
    (fun loop =>
      ({ filter with mValueList := loop.mValueList, mCurrentHeadIndex := 0 }, loop.written))

/-- The constructor: whatever length is asked for, the array has ten cells. `memory` is what
it finds there.
-/
def AvgFilter.new (memory : Nat → R) (length : Int) (lastValue : R) (fuel : Nat)
    : Option (AvgFilter R × List Nat) :=
  -- The parameter is corrected, but no member is assigned from it afterwards.
  let _length := if length ≤ 0 then 10 else length
  let filter : AvgFilter R :=
    { mLastValue := lastValue
      mValueList := memory
      mValueLength := 10
      mCurrentHeadIndex := 0 }
  filter.resetValue fuel filter.mLastValue

/-- `filter`, with its return value. -/
def AvgFilter.filter [Zero R] [Add R] [Div R] [NatCast R] (filter : AvgFilter R) (value : R)
    : AvgFilter R × R :=
  let mValueList := Function.update filter.mValueList filter.mCurrentHeadIndex value
  let mCurrentHeadIndex := (filter.mCurrentHeadIndex + 1) % filter.mValueLength
  let sum := (List.range filter.mValueLength).foldl (fun sum i => sum + mValueList i) 0
  let mLastValue := sum / (filter.mValueLength : R)
  ({ filter with
      mLastValue := mLastValue
      mValueList := mValueList
      mCurrentHeadIndex := mCurrentHeadIndex },
    mLastValue)

-----------------------------------------------------------------------------------------
-- The moving average
-----------------------------------------------------------------------------------------

/-- The mean of the last elements. -/
def latestMean [Zero R] [Add R] [Div R] [NatCast R] (length : Nat) (values : List R) : R :=
  (values.rtake length).sum / (length : R)

/-- The fill of an array ends and writes only cells of the array: the result of the run
satisfies the rest.
-/
def FillsWithin (length : Nat) (fill : Nat → Option (AvgFilter R × List Nat))
    (rest : AvgFilter R → Prop)
    : Prop :=
  ∃ fuel filter written,
    fill fuel = some (filter, written) ∧ (∀ cell ∈ written, cell < length) ∧ rest filter

/-- Each call on the filter does what a moving average over so many values does: `filter`
returns the mean of the latest ones, and `resetValue` fills the array.
-/
def Averages [Zero R] [Add R] [Div R] [NatCast R] (length : Nat) (filter : AvgFilter R)
    (values : List R)
    : List (AvgCall R) → Prop
  | [] => True
  | .filter value :: rest =>
      (filter.filter value).2 = latestMean length (values ++ [value])
      ∧ Averages length (filter.filter value).1 (values ++ [value]) rest
  | .resetValue value :: rest =>
      FillsWithin length (fun fuel => filter.resetValue fuel value)
        (fun filled => Averages length filled (List.replicate length value) rest)

/-- A filter of a length is constructed and then averages. -/
def MovingAverage [Zero R] [Add R] [Div R] [NatCast R] (memory : Nat → R) (length : Nat)
    (lastValue : R) (calls : List (AvgCall R))
    : Prop :=
  FillsWithin length (AvgFilter.new memory length lastValue)
    (fun filled => Averages length filled (List.replicate length lastValue) calls)

/-- A loop over an array that is not empty always continues, with the next cell. -/
theorem FillLoop.step_continues {mValueLength : Nat} (nonempty : mValueLength ≠ 0) (value : R)
    (loop : FillLoop R)
    : ∃ next, loop.step mValueLength value = some next
      ∧ next.i = loop.i + 1
      ∧ next.written = loop.written ++ [loop.i] :=
  ⟨_, if_pos nonempty, rfl, rfl⟩

/-- `resetValue` does not end, however long it runs. -/
theorem AvgFilter.resetValue_never_ends {filter : AvgFilter R}
    (nonempty : filter.mValueLength ≠ 0) (value : R) (fuel : Nat)
    : filter.resetValue fuel value = none := by
  have continues (loop : FillLoop R) (_ : True)
      : ∃ next, loop.step filter.mValueLength value = some next ∧ True := by
    obtain ⟨next, step, _⟩ := loop.step_continues nonempty value
    exact ⟨next, step, trivial⟩
  rw [AvgFilter.resetValue, runLoop_eq_none (fun _ => True) continues trivial]
  rfl

/-- After so many iterations the loop has written all the cells below, so that it leaves an
array of any size. Witness: the loop's variable counts the iterations.
-/
theorem FillLoop.iterations_written {mValueLength : Nat} (nonempty : mValueLength ≠ 0)
    (value : R) (memory : Nat → R) (count : Nat)
    : ∃ reached,
        iterations (FillLoop.step mValueLength value) count (.start memory) = some reached
        ∧ reached.i = count
        ∧ reached.written = List.range count := by
  refine iterations_invariant
    (fun count (loop : FillLoop R) => loop.i = count ∧ loop.written = List.range count) ?_
    ⟨rfl, rfl⟩ count
  intro count loop ⟨index, written⟩
  obtain ⟨next, step, nextIndex, nextWritten⟩ := loop.step_continues nonempty value
  refine ⟨next, step, ?_, ?_⟩
  · rw [nextIndex, index]
  · rw [nextWritten, written, index, List.range_succ]

/-- The constructor does not end. -/
theorem AvgFilter.new_never_ends (memory : Nat → R) (length : Int) (lastValue : R) (fuel : Nat)
    : AvgFilter.new memory length lastValue fuel = none := by
  unfold AvgFilter.new
  exact AvgFilter.resetValue_never_ends (Nat.succ_ne_zero 9) lastValue fuel

/-- For no length, no initial value and no calls is the filter a moving average. Witness: the
constructor does not end.
-/
theorem movingAverage_never [Zero R] [Add R] [Div R] [NatCast R] (memory : Nat → R)
    (length : Nat) (lastValue : R) (calls : List (AvgCall R))
    : ¬ MovingAverage memory length lastValue calls := by
  intro ⟨fuel, filter, written, filled, _⟩
  rw [AvgFilter.new_never_ends] at filled
  cases filled

/-- Ten values of zero, and no call. -/
theorem movingAverage_fails : ¬ MovingAverage (fun _ => (0 : ℚ)) 10 0 [] := by
  intro ⟨fuel, filter, written, filled, _⟩
  rw [AvgFilter.new_never_ends] at filled
  cases filled

-----------------------------------------------------------------------------------------
-- A filled array
-----------------------------------------------------------------------------------------

/-- The cells of the array. -/
def AvgFilter.cells (filter : AvgFilter R) : List R :=
  (List.range filter.mValueLength).map filter.mValueList

/-- `filter` writes the cell at the head. -/
theorem AvgFilter.filter_cells [Zero R] [Add R] [Div R] [NatCast R] (filter : AvgFilter R)
    (value : R)
    : (filter.filter value).1.cells = filter.cells.set filter.mCurrentHeadIndex value := by
  apply List.ext_getElem
  · simp [AvgFilter.cells, AvgFilter.filter]
  · intro i inside _
    simp only [AvgFilter.cells, AvgFilter.filter, List.getElem_map, List.getElem_range,
      List.getElem_set, Function.update_apply, eq_comm]

/-- Over an array that holds the latest values, `filter` returns the mean of as many values
as the array has cells, and keeps it so: only the fill is at fault, and that the array has
not the size asked for. Witness: the cells are a ring.
-/
theorem AvgFilter.filter_mean [DivisionSemiring R] {filter : AvgFilter R} {values : List R}
    (ring : RingHolds filter.cells filter.mCurrentHeadIndex values) (value : R)
    : RingHolds (filter.filter value).1.cells (filter.filter value).1.mCurrentHeadIndex
        (values ++ [value])
      ∧ (filter.filter value).2 = latestMean filter.mValueLength (values ++ [value]) := by
  have size : filter.cells.length = filter.mValueLength := by
    rw [AvgFilter.cells, List.length_map, List.length_range]
  have written := ring.write value
  rw [← filter.filter_cells value, size] at written
  have total : (filter.filter value).1.cells.sum
      = (List.range filter.mValueLength).foldl
          (fun sum i => sum + (filter.filter value).1.mValueList i) 0 := by
    rw [AvgFilter.cells, List.sum_eq_foldl, List.foldl_map]
    rfl
  have nextSize : (filter.filter value).1.cells.length = filter.mValueLength := by
    rw [filter.filter_cells value, List.length_set, size]
  refine ⟨written, ?_⟩
  rw [latestMean, ← nextSize, ← written.sum_eq, total, nextSize]
  rfl

end Cooboc.Inertial
