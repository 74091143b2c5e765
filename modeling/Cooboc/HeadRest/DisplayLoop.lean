import Mathlib.Data.Fin.VecNotation
import Mathlib.Data.List.ReduceOption
import Cooboc.Foundations.FlaggedRecord
import Cooboc.HeadRest.HrDriver

/-! The sensor data in `setupDeviceForFaurecia` of `chicken.cpp`: the main loop displays what the
thread of `HrDriver` publishes. The two share the driver's members without a lock, so a step is
one access to one of them, and the steps of both sides alternate in any way.
-/

namespace Cooboc.HeadRest

open Cooboc.Foundations

/-- The first cell of `mDist`. -/
abbrev cell0 : Fin 2 := 0

/-- The second cell of `mDist`. -/
abbrev cell1 : Fin 2 := 1

/-- The two cells that a publication leaves in `mDist`. -/
def Publication.dist (publication : Publication) : Fin 2 → Int :=
  ![publication.mDist.1, publication.mDist.2]

/-- Where `readData` stands: before the branch of the next accepted packet, or before one of the
later assignments of the branch.
-/
inductive ReadPoint where
  | accept
  | assignDist1 (publication : Publication)
  | assignHrPosition (publication : Publication)
  | assignHasNewData (publication : Publication)
deriving DecidableEq

/-- Where the loop stands: before `hasNewData`, `getHrPosition` or `getDistData`, or before
`sprintf` reads one of its two values through the pointer that `getDistData` has returned.
-/
inductive DisplayPoint where
  | hasNewData
  | getHrPosition
  | getDistData
  | firstValue
  | secondValue (first : Int)
deriving DecidableEq

/-- The members of `HrDriver` that both sides use, what `readData` has still to publish, and
where the two sides stand.
-/
structure DisplayLoop where
  mDist : Fin 2 → Int
  mHrPosition : Int
  mHasNewData : Bool
  coming : List Publication
  reading : ReadPoint
  point : DisplayPoint

/-- The driver as constructed, with what its thread is going to publish. -/
def DisplayLoop.initial (publications : List Publication) : DisplayLoop where
  mDist _ := 0
  mHrPosition := 0
  mHasNewData := false
  coming := publications
  reading := .accept
  point := .hasNewData

/-- The next assignment of `readData`, if there is anything to publish. -/
def DisplayLoop.assign (loop : DisplayLoop) : DisplayLoop :=
  match loop.reading with
  | .accept =>
      match loop.coming with
      | [] => loop
      | publication :: rest =>
          { loop with
            mDist := Function.update loop.mDist 0 (publication.dist 0)
            coming := rest
            reading := .assignDist1 publication }
  | .assignDist1 publication =>
      { loop with
        mDist := Function.update loop.mDist 1 (publication.dist 1)
        reading := .assignHrPosition publication }
  | .assignHrPosition publication =>
      { loop with
        mHrPosition := publication.mHrPosition
        reading := .assignHasNewData publication }
  | .assignHasNewData _ => { loop with mHasNewData := true, reading := .accept }

/-- The next access of the loop, with the two values of a text that it sends. The language leaves
it open which of its arguments `sprintf` reads first. What is printed to the console is left out.
-/
def DisplayLoop.advance (first : Fin 2) (loop : DisplayLoop)
    : DisplayLoop × Option (Fin 2 → Int) :=
  match loop.point with
  | .hasNewData =>
      if loop.mHasNewData then
        ({ loop with point := .getHrPosition }, none)
      else
        (loop, none)
  | .getHrPosition => ({ loop with point := .getDistData }, none)
  | .getDistData => ({ loop with mHasNewData := false, point := .firstValue }, none)
  | .firstValue => ({ loop with point := .secondValue (loop.mDist first) }, none)
  | .secondValue value =>
      ({ loop with point := .hasNewData }, some (Function.update loop.mDist first value))

/-- A step of the thread, or of the loop. -/
inductive DisplayEvent where
  | assign
  | advance
deriving DecidableEq

/-- The two sides, in any order; the outputs are what is displayed. -/
def displayLoop (first : Fin 2)
    : Machine DisplayLoop DisplayEvent (Option (Fin 2 → Int)) where
  step loop
    | .assign => (loop.assign, none)
    | .advance => loop.advance first

/-- The values displayed in a run, in order. -/
def displayed (first : Fin 2) (publications : List Publication) (schedule : List DisplayEvent)
    : List (Fin 2 → Int) :=
  ((displayLoop first).outputs (DisplayLoop.initial publications) schedule).reduceOption

-----------------------------------------------------------------------------------------
-- The loop and the record
-----------------------------------------------------------------------------------------

/-- Whether `readData` stands between its first assignment and the last. -/
def ReadPoint.writing : ReadPoint → Bool
  | .accept => false
  | _ => true

/-- The values of the current publication that are not assigned yet. -/
def ReadPoint.unassigned (cell : Fin 2) : ReadPoint → List Int
  | .assignDist1 publication => if cell = 1 then [publication.dist 1] else []
  | _ => []

/-- The value that `sprintf` has read already. -/
def DisplayPoint.read (first cell : Fin 2) : DisplayPoint → List Int
  | .secondValue value => if cell = first then [value] else []
  | _ => []

/-- Whether the loop stands behind the lowering of the flag. -/
def DisplayPoint.copying : DisplayPoint → Bool
  | .firstValue => true
  | .secondValue _ => true
  | _ => false

/-- The two cells and the flag as a record, with the copies taken since the flag was lowered. -/
def DisplayLoop.record (loop : DisplayLoop) (copied : Fin 2 → Option Int)
    : FlaggedRecord (Fin 2) Int :=
  ⟨loop.mDist, loop.mHasNewData, loop.reading.writing, copied⟩

/-- How far a run has come: what is published or begun, what was copied, and what was displayed.
-/
structure Follows (first : Fin 2) (publications begun : List Publication)
    (trace : List (Option (RecordEvent (Fin 2) Int))) (copied : Fin 2 → Option Int)
    (shown : List (Fin 2 → Int)) (loop : DisplayLoop)
    : Prop where
  current : (loop.record copied).Current
  inOrder : FlaggedRecord.InOrder trace (loop.record copied)
  split : publications = begun ++ loop.coming
  assigned
    : ∀ cell,
        FlaggedRecord.written cell trace ++ loop.reading.unassigned cell
          = begun.map (fun publication => publication.dist cell)
  copies
    : ∀ cell,
        FlaggedRecord.copies cell trace
          = shown.map (fun values => values cell) ++ loop.point.read first cell
  last
    : loop.point.copying = false
      → ∀ values, shown.getLast? = some values → ∀ cell, copied cell = some (values cell)
  half : ∀ value, loop.point = .secondValue value → copied first = some value
  unseen
    : shown = [] → loop.point.copying = false → loop.mHasNewData = false
      → loop.reading = .accept → begun = []
  busy : loop.reading ≠ .accept → begun ≠ []
  ready
    : loop.mHasNewData = true ∨ loop.point ≠ .hasNewData
      → ∀ cell, FlaggedRecord.written cell trace ≠ []

namespace Follows

variable {first : Fin 2} {publications begun : List Publication}
  {trace : List (Option (RecordEvent (Fin 2) Int))} {copied : Fin 2 → Option Int}
  {shown : List (Fin 2 → Int)} {mDist : Fin 2 → Int} {mHrPosition : Int} {mHasNewData : Bool}
  {coming : List Publication} {reading : ReadPoint} {point : DisplayPoint}

theorem start (first : Fin 2) (publications : List Publication)
    : Follows first publications [] [] (fun _ => none) [] (DisplayLoop.initial publications) where
  current := FlaggedRecord.initial_current _
  inOrder := FlaggedRecord.initial_inOrder _
  split := rfl
  assigned _ := rfl
  copies _ := rfl
  last _ values shown := absurd shown (by simp)
  half _ held := absurd held (by simp [DisplayLoop.initial])
  unseen _ _ _ _ := rfl
  busy reading := absurd rfl reading
  ready early := absurd early (by simp [DisplayLoop.initial])

/-- Before anything is published nothing is displayed. -/
theorem nothing {loop : DisplayLoop}
    (follows : Follows first publications [] trace copied shown loop)
    : shown = [] := by
  have assigned := follows.assigned 0
  rw [List.map_nil, List.append_eq_nil_iff] at assigned
  have copies := follows.inOrder.replays 0
  rw [assigned.1, follows.copies 0] at copies
  generalize whole : shown.map (fun values => values 0) ++ loop.point.read first 0 = all at copies
  cases copies
  exact List.map_eq_nil_iff.mp (List.append_eq_nil_iff.mp whole).1

/-- The first assignment begins a publication. -/
theorem accept {publication : Publication}
    (follows
      : Follows first publications begun trace copied shown
          ⟨mDist, mHrPosition, mHasNewData, publication :: coming, .accept, point⟩)
    : Follows first publications (begun ++ [publication])
        (trace ++ [some (.wrote 0 (publication.dist 0))]) copied shown
        (DisplayLoop.assign
          ⟨mDist, mHrPosition, mHasNewData, publication :: coming, .accept, point⟩) where
  current := follows.current.step (.write 0 (publication.dist 0))
  inOrder := follows.inOrder.write 0 (publication.dist 0)
  split := by
    rw [follows.split, List.append_assoc]
    rfl
  assigned cell := by
    have earlier := follows.assigned cell
    rw [List.map_append, ← earlier, FlaggedRecord.written_concat]
    match cell with
    | 0 => simp [ReadPoint.unassigned, FlaggedRecord.wroteTo, DisplayLoop.assign]
    | 1 => simp [ReadPoint.unassigned, FlaggedRecord.wroteTo, DisplayLoop.assign]
  copies cell := by
    rw [FlaggedRecord.copies_aside rfl]
    exact follows.copies cell
  last := follows.last
  half := follows.half
  unseen _ _ _ accepting := absurd accepting (by simp [DisplayLoop.assign])
  busy _ := by simp
  ready early cell := FlaggedRecord.written_grows (follows.ready early cell)

/-- The second assignment completes the cells. -/
theorem assignDist1 {publication : Publication}
    (follows
      : Follows first publications begun trace copied shown
          ⟨mDist, mHrPosition, mHasNewData, coming, .assignDist1 publication, point⟩)
    : Follows first publications begun
        (trace ++ [some (.wrote 1 (publication.dist 1))]) copied shown
        (DisplayLoop.assign
          ⟨mDist, mHrPosition, mHasNewData, coming, .assignDist1 publication, point⟩) where
  current := follows.current.step (.write 1 (publication.dist 1))
  inOrder := follows.inOrder.write 1 (publication.dist 1)
  split := follows.split
  assigned cell := by
    have earlier := follows.assigned cell
    rw [← earlier, FlaggedRecord.written_concat]
    match cell with
    | 0 => simp [ReadPoint.unassigned, FlaggedRecord.wroteTo, DisplayLoop.assign]
    | 1 => simp [ReadPoint.unassigned, FlaggedRecord.wroteTo, DisplayLoop.assign]
  copies cell := by
    rw [FlaggedRecord.copies_aside rfl]
    exact follows.copies cell
  last := follows.last
  half := follows.half
  unseen _ _ _ accepting := absurd accepting (by simp [DisplayLoop.assign])
  busy _ := follows.busy (by simp)
  ready early cell := FlaggedRecord.written_grows (follows.ready early cell)

/-- The third assignment touches neither the cells nor the flag. -/
theorem assignHrPosition {publication : Publication}
    (follows
      : Follows first publications begun trace copied shown
          ⟨mDist, mHrPosition, mHasNewData, coming, .assignHrPosition publication, point⟩)
    : Follows first publications begun trace copied shown
        (DisplayLoop.assign
          ⟨mDist, mHrPosition, mHasNewData, coming, .assignHrPosition publication, point⟩) where
  current := follows.current
  inOrder := follows.inOrder
  split := follows.split
  assigned := follows.assigned
  copies := follows.copies
  last := follows.last
  half := follows.half
  unseen _ _ _ accepting := absurd accepting (by simp [DisplayLoop.assign])
  busy _ := follows.busy (by simp)
  ready := follows.ready

/-- The last assignment raises the flag. -/
theorem assignHasNewData {publication : Publication}
    (follows
      : Follows first publications begun trace copied shown
          ⟨mDist, mHrPosition, mHasNewData, coming, .assignHasNewData publication, point⟩)
    : Follows first publications begun (trace ++ [none]) copied shown
        (DisplayLoop.assign
          ⟨mDist, mHrPosition, mHasNewData, coming, .assignHasNewData publication, point⟩) where
  current := follows.current.step .raise
  inOrder := follows.inOrder.silent rfl
  split := follows.split
  assigned cell := by
    rw [FlaggedRecord.written_aside rfl]
    exact follows.assigned cell
  copies cell := by
    rw [FlaggedRecord.copies_aside rfl]
    exact follows.copies cell
  last := follows.last
  half := follows.half
  unseen _ _ down _ := absurd down (by simp [DisplayLoop.assign])
  busy accepting := absurd rfl accepting
  ready _ cell := by
    have assigned := follows.assigned cell
    rw [show ReadPoint.unassigned cell (.assignHasNewData publication) = [] from rfl,
      List.append_nil] at assigned
    rw [FlaggedRecord.written_aside rfl, assigned]
    exact (List.map_eq_nil_iff.not).mpr (follows.busy (by simp))

/-- An assignment of `readData` keeps the account, one case for each of them. -/
theorem assign {loop : DisplayLoop}
    (follows : Follows first publications begun trace copied shown loop)
    : ∃ begun trace copied, Follows first publications begun trace copied shown loop.assign := by
  obtain ⟨mDist, mHrPosition, mHasNewData, coming, reading, point⟩ := loop
  cases reading with
  | accept =>
      cases coming with
      | nil => exact ⟨_, _, _, follows⟩
      | cons publication rest => exact ⟨_, _, _, follows.accept⟩
  | assignDist1 publication => exact ⟨_, _, _, follows.assignDist1⟩
  | assignHrPosition publication => exact ⟨_, _, _, follows.assignHrPosition⟩
  | assignHasNewData publication => exact ⟨_, _, _, follows.assignHasNewData⟩

-----------------------------------------------------------------------------------------
-- The loop's accesses
-----------------------------------------------------------------------------------------

/-- Moving on before the flag is lowered changes nothing that is shared, once both cells are
written.
-/
theorem move (next : DisplayPoint)
    (follows
      : Follows first publications begun trace copied shown
          ⟨mDist, mHrPosition, mHasNewData, coming, reading, point⟩)
    (before : point.copying = false) (still : next.copying = false)
    (ready : ∀ cell, FlaggedRecord.written cell trace ≠ [])
    (unread : ∀ cell, next.read first cell = point.read first cell)
    : Follows first publications begun trace copied shown
        ⟨mDist, mHrPosition, mHasNewData, coming, reading, next⟩ where
  current := follows.current
  inOrder := follows.inOrder
  split := follows.split
  assigned := follows.assigned
  copies cell := by
    rw [unread cell]
    exact follows.copies cell
  last _ := follows.last before
  half value held := by
    obtain rfl : next = .secondValue value := held
    cases still
  unseen none _ := follows.unseen none before
  busy := follows.busy
  ready _ := ready

/-- Lowering the flag starts a new copy. -/
theorem lower
    (follows
      : Follows first publications begun trace copied shown
          ⟨mDist, mHrPosition, mHasNewData, coming, reading, .getDistData⟩)
    : Follows first publications begun (trace ++ [none]) (fun _ => none) shown
        ⟨mDist, mHrPosition, false, coming, reading, .firstValue⟩ where
  current := follows.current.step .lower
  inOrder := follows.inOrder.silent rfl
  split := follows.split
  assigned cell := by
    rw [FlaggedRecord.written_aside rfl]
    exact follows.assigned cell
  copies cell := by
    rw [FlaggedRecord.copies_aside rfl]
    exact follows.copies cell
  last copying := absurd copying (by simp [DisplayPoint.copying])
  half _ held := absurd held (by simp)
  unseen _ copying := absurd copying (by simp [DisplayPoint.copying])
  busy := follows.busy
  ready _ cell := FlaggedRecord.written_grows (follows.ready (.inr (by simp)) cell)

/-- The first value that `sprintf` reads is copied. -/
theorem firstValue
    (follows
      : Follows first publications begun trace copied shown
          ⟨mDist, mHrPosition, mHasNewData, coming, reading, .firstValue⟩)
    : Follows first publications begun (trace ++ [some (.copied first (mDist first))])
        (Function.update copied first (some (mDist first))) shown
        ⟨mDist, mHrPosition, mHasNewData, coming, reading, .secondValue (mDist first)⟩ where
  current := follows.current.step (.copy first)
  inOrder := follows.inOrder.copy (follows.ready (.inr (by simp)) first)
  split := follows.split
  assigned cell := by
    rw [FlaggedRecord.written_aside rfl]
    exact follows.assigned cell
  copies cell := by
    rw [FlaggedRecord.copies_concat, follows.copies cell]
    by_cases own : first = cell
    · simp [DisplayPoint.read, FlaggedRecord.copiedFrom, own]
    · simp [DisplayPoint.read, FlaggedRecord.copiedFrom, own, Ne.symm own]
  last copying := absurd copying (by simp [DisplayPoint.copying])
  half value held := by
    cases held
    exact Function.update_self ..
  unseen _ copying := absurd copying (by simp [DisplayPoint.copying])
  busy := follows.busy
  ready _ cell := FlaggedRecord.written_grows (follows.ready (.inr (by simp)) cell)

/-- There are two values. -/
theorem first_or_rev (first cell : Fin 2) : cell = first ∨ cell = first.rev := by
  revert first cell
  decide

theorem rev_ne (first : Fin 2) : first.rev ≠ first := by
  revert first
  decide

/-- With the second value both are displayed. -/
theorem secondValue {value : Int}
    (follows
      : Follows first publications begun trace copied shown
          ⟨mDist, mHrPosition, mHasNewData, coming, reading, .secondValue value⟩)
    : Follows first publications begun
        (trace ++ [some (.copied first.rev (mDist first.rev))])
        (Function.update copied first.rev (some (mDist first.rev)))
        (shown ++ [Function.update mDist first value])
        ⟨mDist, mHrPosition, mHasNewData, coming, reading, .hasNewData⟩ where
  current := follows.current.step (.copy first.rev)
  inOrder := follows.inOrder.copy (follows.ready (.inr (by simp)) first.rev)
  split := follows.split
  assigned cell := by
    rw [FlaggedRecord.written_aside rfl]
    exact follows.assigned cell
  copies cell := by
    rw [FlaggedRecord.copies_concat, follows.copies cell, List.map_append]
    rcases first_or_rev first cell with rfl | rfl
    · simp [DisplayPoint.read, FlaggedRecord.copiedFrom, rev_ne]
    · simp [DisplayPoint.read, FlaggedRecord.copiedFrom, rev_ne]
  last _ values last cell := by
    obtain rfl : Function.update mDist first value = values := by simpa using last
    rcases first_or_rev first cell with rfl | rfl
    · rw [Function.update_of_ne (rev_ne cell).symm, Function.update_self]
      exact follows.half value rfl
    · rw [Function.update_self, Function.update_of_ne (rev_ne first)]
  half _ held := absurd held (by simp)
  unseen none := absurd none (by simp)
  busy := follows.busy
  ready _ cell := FlaggedRecord.written_grows (follows.ready (.inr (by simp)) cell)

/-- A step that displays nothing. -/
theorem undisplayed {loop : DisplayLoop}
    (follows : Follows first publications begun trace copied shown loop)
    : ∃ begun trace copied,
        Follows first publications begun trace copied
          (shown ++ Option.toList (none : Option (Fin 2 → Int))) loop := by
  rw [Option.toList_none, List.append_nil]
  exact ⟨begun, trace, copied, follows⟩

/-- An access of the loop keeps the account, one case for each point of the loop. -/
theorem advance {loop : DisplayLoop}
    (follows : Follows first publications begun trace copied shown loop)
    : ∃ begun trace copied,
        Follows first publications begun trace copied
          (shown ++ (loop.advance first).2.toList) (loop.advance first).1 := by
  obtain ⟨mDist, mHrPosition, mHasNewData, coming, reading, point⟩ := loop
  cases point with
  | hasNewData =>
      cases mHasNewData with
      | false => exact follows.undisplayed
      | true =>
          have ready := follows.ready (.inl rfl)
          exact (follows.move .getHrPosition rfl rfl ready (fun _ => rfl)).undisplayed
  | getHrPosition =>
      have ready := follows.ready (.inr (by simp))
      exact (follows.move .getDistData rfl rfl ready (fun _ => rfl)).undisplayed
  | getDistData => exact follows.lower.undisplayed
  | firstValue => exact follows.firstValue.undisplayed
  | secondValue value => exact ⟨_, _, _, follows.secondValue⟩

end Follows

-----------------------------------------------------------------------------------------
-- Runs
-----------------------------------------------------------------------------------------

/-- Every run keeps the account. Witness: induction over the schedule. -/
theorem run_follows (first : Fin 2) (publications : List Publication)
    (schedule : List DisplayEvent)
    : ∃ begun trace copied,
        Follows first publications begun trace copied
          (displayed first publications schedule)
          ((displayLoop first).run (DisplayLoop.initial publications) schedule) := by
  refine (displayLoop first).run_trace
    (fun outputs loop =>
      ∃ begun trace copied,
        Follows first publications begun trace copied outputs.reduceOption loop)
    ⟨_, _, _, .start first publications⟩ ?_ schedule
  intro outputs loop event ⟨begun, trace, copied, follows⟩
  rw [List.reduceOption_append, List.reduceOption_singleton]
  cases event with
  | assign => exact (List.append_nil outputs.reduceOption).symm ▸ follows.assign
  | advance => exact follows.advance

end Cooboc.HeadRest
