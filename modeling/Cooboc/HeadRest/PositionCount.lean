import Mathlib.Data.List.DropRight
import Cooboc.Foundations.TraceLaw
import Cooboc.HeadRest.FirmwareLoop

/-! The position count of the head rest: every frame carries the steps made since the last
zeroing, and every step follows an inactive reading of its limit switch.
-/

namespace Cooboc.HeadRest

open Cooboc.Foundations

/-- A zeroing of the position: `moveHrDown` finds the bottom switch active, or a homing is
over.
-/
def HrEvent.zeroes : HrEvent → Bool
  | .limit .down false => true
  | .homed _ => true
  | _ => false

/-- The events behind the last zeroing, or all of them if there is none. -/
def sinceZeroing (trace : List HrEvent) : List HrEvent :=
  trace.rtakeWhile (fun event => !event.zeroes)

/-- Complete steps up minus complete steps down. -/
def netSteps (trace : List HrEvent) : Int :=
  trace.count (.stepped .up) - trace.count (.stepped .down)

/-- The steps since the last zeroing, as the sixteen-bit number that counts them. -/
def countedPosition (trace : List HrEvent) : AvrInt :=
  BitVec.ofInt 16 (netSteps (sinceZeroing trace))

/-- A frame is built from the counted position, and carries it. -/
def Truthful (before : List HrEvent) (hr : Hr) (bytes : List UInt8) : Prop :=
  hr.hrPosition = countedPosition before
  ∧ ∃ d1 d2, bytes = Sample.frame ⟨countedPosition before, d1, d2⟩

/-- A step is made in a call of its motor function that has just read its limit switch, and
found it inactive.
-/
def Guarded (before : List HrEvent) (direction : Direction) : Prop :=
  [.called direction, .limit direction true] <:+ before

/-- What the events of the firmware require of those before them. -/
def PositionLaw (before : List HrEvent) : HrEvent → Prop
  | .sent hr bytes => Truthful before hr bytes
  | .stepped direction => Guarded before direction
  | _ => True

-----------------------------------------------------------------------------------------
-- Counting event by event
-----------------------------------------------------------------------------------------

theorem countedPosition_nil : countedPosition [] = 0 := rfl

theorem countedPosition_zeroing (before : List HrEvent) {event : HrEvent}
    (zeroes : event.zeroes = true)
    : countedPosition (before ++ [event]) = 0 := by
  have restarted : sinceZeroing (before ++ [event]) = [] := by
    unfold sinceZeroing
    rw [List.rtakeWhile_concat_neg]
    simp [zeroes]
  rw [countedPosition, restarted]
  rfl

theorem countedPosition_concat (before : List HrEvent) {event : HrEvent}
    (keeps : event.zeroes = false)
    : countedPosition (before ++ [event])
      = countedPosition before + BitVec.ofInt 16 (netSteps [event]) := by
  have longer : sinceZeroing (before ++ [event]) = sinceZeroing before ++ [event] := by
    unfold sinceZeroing
    rw [List.rtakeWhile_concat_pos]
    simp [keeps]
  rw [countedPosition, countedPosition, longer, ← BitVec.ofInt_add]
  congr 1
  simp only [netSteps, List.count_append, Nat.cast_add]
  omega

/-- An event that is neither a step nor a zeroing. -/
def HrEvent.Idle (event : HrEvent) : Prop :=
  event.zeroes = false ∧ netSteps [event] = 0

/-- Idle events do not count. Witness: induction over the events. -/
theorem countedPosition_idle (before : List HrEvent) {events : List HrEvent}
    (idle : ∀ event ∈ events, event.Idle)
    : countedPosition (before ++ events) = countedPosition before := by
  induction events generalizing before with
  | nil => rw [List.append_nil]
  | cons event rest ih =>
      obtain ⟨⟨keeps, zero⟩, others⟩ := List.forall_mem_cons.mp idle
      have split : before ++ event :: rest = before ++ [event] ++ rest := by simp
      rw [split, ih _ others, countedPosition_concat before keeps, zero]
      exact BitVec.add_zero _

/-- Events that are neither frames nor steps obey the law behind any others. -/
theorem positionLaw_idle {event : HrEvent} (idle : event.Idle)
    (unsent : ∀ hr bytes, event ≠ .sent hr bytes) (before : List HrEvent)
    : PositionLaw before event := by
  cases event with
  | sent hr bytes => exact absurd rfl (unsent hr bytes)
  | stepped direction =>
      have zero := idle.2
      cases direction with
      | up => exact absurd zero (by decide)
      | down => exact absurd zero (by decide)
  | _ => trivial

-----------------------------------------------------------------------------------------
-- The position follows the count
-----------------------------------------------------------------------------------------

/-- What the firmware keeps: its position is the counted one. -/
def Counts (seen : List HrEvent) (hr : Hr) : Prop :=
  hr.hrPosition = countedPosition seen

/-- A call of a motor function does not count before its step. -/
theorem called_idle {direction : Direction} {event : HrEvent}
    (member : event ∈ [HrEvent.called direction, .limit direction true])
    : event.Idle := by
  rcases List.mem_pair.mp member with rfl | rfl
  · exact ⟨rfl, rfl⟩
  · cases direction with
    | up => exact ⟨rfl, rfl⟩
    | down => exact ⟨rfl, rfl⟩

/-- A complete step behind the call and an inactive reading obeys the law and counts. -/
theorem lawful_step (seen : List HrEvent) (direction : Direction)
    : Lawful PositionLaw seen
        [.called direction, .limit direction true, .stepped direction]
      ∧ countedPosition
          (seen ++ [.called direction, .limit direction true, .stepped direction])
        = countedPosition seen + BitVec.ofInt 16 (netSteps [.stepped direction]) := by
  have split
      : seen ++ [.called direction, .limit direction true, .stepped direction]
        = seen ++ [.called direction, .limit direction true] ++ [.stepped direction] := by
    simp
  refine ⟨⟨trivial, trivial, ?_, trivial⟩, ?_⟩
  · exact ⟨seen, by simp⟩
  · rw [split, countedPosition_concat _ rfl,
      countedPosition_idle seen (fun _ member => called_idle member)]

/-- `moveHrUp` obeys the law and keeps the count. -/
theorem Counts.moveHrUp {seen : List HrEvent} {hr : Hr} (counts : Counts seen hr)
    (top : Bool)
    : Lawful PositionLaw seen (hr.moveHrUp top).2
      ∧ Counts (seen ++ (hr.moveHrUp top).2) (hr.moveHrUp top).1 := by
  cases top with
  | false =>
      refine ⟨⟨trivial, trivial, trivial⟩, ?_⟩
      have idle : ∀ event ∈ [HrEvent.called .up, .limit .up false], event.Idle := by
        intro event member
        rcases List.mem_pair.mp member with rfl | rfl
        · exact ⟨rfl, rfl⟩
        · exact ⟨rfl, rfl⟩
      exact counts.trans (countedPosition_idle seen idle).symm
  | true =>
      obtain ⟨lawful, counted⟩ := lawful_step seen .up
      refine ⟨lawful, ?_⟩
      have moved : hr.hrPosition + 1 = countedPosition seen + 1 := by rw [counts]
      exact moved.trans counted.symm

/-- `moveHrDown` obeys the law and keeps the count; it restarts it where it zeroes the
position.
-/
theorem Counts.moveHrDown {seen : List HrEvent} {hr : Hr} (counts : Counts seen hr)
    (bottom : Bool)
    : Lawful PositionLaw seen (hr.moveHrDown bottom).2
      ∧ Counts (seen ++ (hr.moveHrDown bottom).2) (hr.moveHrDown bottom).1 := by
  cases bottom with
  | false =>
      refine ⟨⟨trivial, trivial, trivial⟩, ?_⟩
      have split : seen ++ [.called .down, .limit .down false]
          = seen ++ [.called .down] ++ [.limit .down false] := by
        simp
      have zeroes : (HrEvent.limit .down false).zeroes = true := rfl
      have restarted := countedPosition_zeroing (seen ++ [.called .down]) zeroes
      exact (congrArg countedPosition split).trans restarted |>.symm
  | true =>
      obtain ⟨lawful, counted⟩ := lawful_step seen .down
      refine ⟨lawful, ?_⟩
      have moved : hr.hrPosition - 1 = countedPosition seen + BitVec.ofInt 16 (-1) := by
        rw [counts, BitVec.sub_eq_add_neg]
        rfl
      exact moved.trans counted.symm

/-- The homing loop obeys the law and keeps the count. Witness: induction over its
passes.
-/
theorem Counts.descend {seen : List HrEvent} {hr : Hr} (counts : Counts seen hr)
    (passes : List Bool)
    : Lawful PositionLaw seen (hr.descend passes).2
      ∧ Counts (seen ++ (hr.descend passes).2) (hr.descend passes).1 := by
  have reading (other : Bool) : ∀ event ∈ [HrEvent.homing other], event.Idle := by
    intro event member
    obtain rfl := List.mem_singleton.mp member
    exact ⟨rfl, rfl⟩
  induction passes generalizing seen hr with
  | nil =>
      refine ⟨⟨trivial, trivial⟩, ?_⟩
      exact counts.trans (countedPosition_idle seen (reading false)).symm
  | cons bottom passes ih =>
      have read : Counts (seen ++ [.homing true]) hr :=
        counts.trans (countedPosition_idle seen (reading true)).symm
      obtain ⟨moves, moved⟩ := read.moveHrDown bottom
      obtain ⟨later, arrived⟩ := ih moved
      have split : seen ++ (hr.descend (bottom :: passes)).2
          = seen ++ [.homing true] ++ (hr.moveHrDown bottom).2
            ++ ((hr.moveHrDown bottom).1.descend passes).2 := by
        simp [Hr.descend]
      refine ⟨⟨trivial, lawful_append.mpr ⟨moves, later⟩⟩, ?_⟩
      rw [split]
      exact arrived

/-- A command obeys the law and keeps the count; the end of its homing restarts it. -/
theorem Counts.obey {seen : List HrEvent} {hr : Hr} (counts : Counts seen hr)
    (command : Command)
    : Lawful PositionLaw seen (hr.obey command).2
      ∧ Counts (seen ++ (hr.obey command).2) (hr.obey command).1 := by
  have taken : ∀ event ∈ [HrEvent.command command.c], event.Idle := by
    intro event member
    obtain rfl := List.mem_singleton.mp member
    exact ⟨rfl, rfl⟩
  have read : countedPosition seen = countedPosition (seen ++ [.command command.c]) :=
    (countedPosition_idle seen taken).symm
  by_cases reset : command.c = Char.toUInt8 'r'
  · rw [hr.obey_reset reset]
    have start : Counts (seen ++ [.command command.c]) hr := counts.trans read
    obtain ⟨descends, _⟩ := start.descend command.passes
    have discarded : ∀ event ∈ command.pending.map HrEvent.discard,
        event.Idle ∧ ∀ hr bytes, event ≠ .sent hr bytes := by
      intro event member
      obtain ⟨byte, _, rfl⟩ := List.mem_map.mp member
      exact ⟨⟨rfl, rfl⟩, by simp⟩
    refine ⟨⟨trivial, lawful_append.mpr ⟨descends, trivial, ?_⟩⟩, ?_⟩
    · apply lawful_of_forall
      intro event member before
      obtain ⟨idle, unsent⟩ := discarded event member
      exact positionLaw_idle idle unsent before
    · have split : seen ++ .command command.c :: (hr.reset command).2
          = seen ++ [.command command.c] ++ (hr.descend command.passes).2
            ++ [.homed (hr.reset command).1] ++ command.pending.map .discard := by
        simp [Hr.reset]
      rw [Counts, split, countedPosition_idle _ (fun _ member => (discarded _ member).1),
        countedPosition_zeroing _ rfl]
      rfl
  · obtain ⟨position, events⟩ := hr.obey_other reset
    rw [events]
    exact ⟨⟨trivial, trivial⟩, (position.trans counts).trans read⟩

/-- The motion of an iteration obeys the law and keeps the count. -/
theorem Counts.move {seen : List HrEvent} {hr : Hr} (counts : Counts seen hr)
    (top bottom : Bool)
    : Lawful PositionLaw seen (hr.move top bottom).2
      ∧ Counts (seen ++ (hr.move top bottom).2) (hr.move top bottom).1 := by
  unfold Hr.move
  cases hr.hrMovingStatus with
  | stop =>
      dsimp only
      rw [List.append_nil]
      exact ⟨trivial, counts⟩
  | up => exact counts.moveHrUp top
  | down => exact counts.moveHrDown bottom

/-- An iteration obeys the law and keeps the count; its frame carries the count. -/
theorem Counts.loop {seen : List HrEvent} {hr : Hr} (counts : Counts seen hr)
    (iteration : Iteration)
    : Lawful PositionLaw seen (hr.loop iteration).2
      ∧ Counts (seen ++ (hr.loop iteration).2) (hr.loop iteration).1 := by
  obtain ⟨obeyed, commanded⟩ := (commandReader.always_true hr iteration.commands).lawful Counts
    counts (fun _ _ command current _ => current.obey command)
  obtain ⟨moves, moved⟩ := commanded.move iteration.top iteration.bottom
  have ends
      : countedPosition (seen ++ (hr.loop iteration).2)
        = (hr.loop iteration).1.hrPosition := by
    simp only [Hr.loop]
    rw [← List.append_assoc, countedPosition_idle, ← List.append_assoc]
    · exact moved.symm
    · intro event member
      obtain rfl := List.mem_singleton.mp member
      exact ⟨rfl, rfl⟩
  refine ⟨?_, ends.symm⟩
  apply lawful_append.mpr
  refine ⟨lawful_append.mpr ⟨obeyed, moves⟩, ?_, trivial⟩
  rw [← List.append_assoc]
  refine ⟨moved, iteration.d1, iteration.d2, ?_⟩
  exact congrArg (fun position => Sample.frame ⟨position, iteration.d1, iteration.d2⟩) moved

/-- In every run of the sketch from `setup()`, each frame is built from the number of steps
up minus steps down since the last zeroing and carries it, and each step follows an
inactive reading of its limit switch in the same call of its motor function.
Witness: the position is the counted one after every event, by induction over the
iterations, their commands and the passes of each homing.
-/
theorem position_truthful (iterations : List Iteration)
    : let trace := (firmware.outputs Hr.setup iterations).flatten
      (∀ before hr bytes after,
        trace = before ++ .sent hr bytes :: after → Truthful before hr bytes)
      ∧ ∀ before direction after,
          trace = before ++ .stepped direction :: after → Guarded before direction := by
  have lawful := (firmware.always_true Hr.setup iterations).lawful Counts
    countedPosition_nil.symm (fun _ _ iteration counts _ => counts.loop iteration)
  have law := lawful_iff.mp lawful.1
  constructor
  · intro before hr bytes after split
    exact law before _ after split
  · intro before direction after split
    exact law before _ after split

end Cooboc.HeadRest
