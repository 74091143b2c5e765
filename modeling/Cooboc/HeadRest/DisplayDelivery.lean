import Cooboc.HeadRest.DisplayLoop

/-! What is displayed of what `readData` publishes: every reading in the order in which it was
published, and the last one for certain.
-/

namespace Cooboc.HeadRest

open Cooboc.Foundations

-----------------------------------------------------------------------------------------
-- The steps that either side has left
-----------------------------------------------------------------------------------------

/-- The assignments that are left of the publication that `readData` stands in. -/
def ReadPoint.remaining : ReadPoint → Nat
  | .accept => 0
  | .assignDist1 _ => 3
  | .assignHrPosition _ => 2
  | .assignHasNewData _ => 1

/-- The assignments that `readData` has left. -/
def DisplayLoop.unpublished (loop : DisplayLoop) : Nat :=
  4 * loop.coming.length + loop.reading.remaining

/-- The loop's accesses until it finds the flag down, if nothing is published meanwhile. -/
def DisplayLoop.undisplayed (loop : DisplayLoop) : Nat :=
  let again := if loop.mHasNewData then 5 else 0
  match loop.point with
  | .hasNewData => again
  | .getHrPosition => 4
  | .getDistData => 3
  | .firstValue => 2 + again
  | .secondValue _ => 1 + again

/-- The loop rests in front of a flag that is down. -/
theorem DisplayLoop.rests {loop : DisplayLoop} (rests : loop.undisplayed = 0)
    : loop.point = .hasNewData ∧ loop.mHasNewData = false := by
  obtain ⟨mDist, mHrPosition, mHasNewData, coming, reading, point⟩ := loop
  cases point <;> cases mHasNewData <;> simp_all [undisplayed]

/-- With nothing left to publish, `readData` waits for a packet. -/
theorem DisplayLoop.published {loop : DisplayLoop} (published : loop.unpublished = 0)
    : loop.coming = [] ∧ loop.reading = .accept := by
  obtain ⟨mDist, mHrPosition, mHasNewData, coming, reading, point⟩ := loop
  have none : coming.length = 0 := by
    simp only [unpublished] at published
    omega
  refine ⟨List.eq_nil_of_length_eq_zero none, ?_⟩
  cases reading <;> simp_all [unpublished, ReadPoint.remaining]

/-- Every value displayed is read off those published. -/
theorem Follows.replays {first : Fin 2} {publications begun : List Publication}
    {trace : List (Option (RecordEvent (Fin 2) Int))} {copied : Fin 2 → Option Int}
    {shown : List (Fin 2 → Int)} {loop : DisplayLoop}
    (follows : Follows first publications begun trace copied shown loop) (cell : Fin 2)
    : Replays (publications.map (fun publication => publication.dist cell))
        (shown.map (fun values => values cell)) := by
  have copies := follows.inOrder.replays cell
  rw [follows.copies cell] at copies
  have held := (copies.initial (List.prefix_append _ _)).append
    (loop.reading.unassigned cell
      ++ loop.coming.map (fun publication => publication.dist cell))
  rw [← List.append_assoc, follows.assigned cell, ← List.map_append, ← follows.split] at held
  exact held

/-- At rest, with everything published, what was displayed last is what was published last.
Witness: the last copies are current, and the cells hold what was written last.
-/
theorem Follows.latest {first : Fin 2} {publications begun : List Publication}
    {trace : List (Option (RecordEvent (Fin 2) Int))} {copied : Fin 2 → Option Int}
    {shown : List (Fin 2 → Int)} {loop : DisplayLoop}
    (follows : Follows first publications begun trace copied shown loop)
    (published : loop.unpublished = 0) (rested : loop.undisplayed = 0)
    : shown.getLast? = publications.getLast?.map Publication.dist := by
  obtain ⟨coming, accepting⟩ := DisplayLoop.published published
  obtain ⟨polling, down⟩ := DisplayLoop.rests rested
  have whole : publications = begun := by
    rw [follows.split, coming, List.append_nil]
  have still : loop.point.copying = false := by rw [polling]; rfl
  subst whole
  cases last : shown.getLast? with
  | none =>
      have nothing := follows.unseen (List.getLast?_eq_none_iff.mp last) still down accepting
      rw [nothing]
      rfl
  | some values =>
      cases ending : publications.getLast? with
      | none =>
          obtain rfl := List.getLast?_eq_none_iff.mp ending
          rw [follows.nothing] at last
          cases last
      | some publication =>
          refine congrArg some (funext fun cell => ?_)
          have current : loop.mDist cell = values cell :=
            follows.current (by rw [DisplayLoop.record, accepting]; rfl) down cell _
              (follows.last still values last cell)
          have assigned := follows.assigned cell
          have nothing : ReadPoint.accept.unassigned cell = [] := rfl
          rw [accepting, nothing, List.append_nil] at assigned
          rw [← current]
          exact follows.inOrder.holds cell _ (by rw [assigned, List.getLast?_map, ending]; rfl)

end Cooboc.HeadRest
