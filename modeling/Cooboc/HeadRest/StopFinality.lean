import Cooboc.Foundations.TraceLaw
import Cooboc.HeadRest.FirmwareLoop

/-! Finality of stop and reset: after a stop command, or after the homing of a reset, the
motor makes no step before a new command.
-/

namespace Cooboc.HeadRest

open Cooboc.Foundations

/-- A command byte that lets the motor move again. -/
def HrEvent.Starts : HrEvent → Prop
  | .command c => c = Char.toUInt8 'w' ∨ c = Char.toUInt8 's' ∨ c = Char.toUInt8 'r'
  | _ => False

/-- A stop byte, whether it is obeyed or discarded, or the end of a homing. -/
def HrEvent.Ends : HrEvent → Prop
  | .command c => c = Char.toUInt8 ' '
  | .discard c => c = Char.toUInt8 ' '
  | .homed _ => True
  | _ => False

/-- At the end of a homing the position is zero and the motor is to stand still. -/
def HrEvent.Homed : HrEvent → Prop
  | .homed hr => hr.hrPosition = 0 ∧ hr.hrMovingStatus = .stop
  | _ => True

/-- Stop and reset are final in a trace: a motor step behind the end of a motion has a
starting command in between, and every homing ends at position zero and at rest. A byte
that the reset discards starts nothing.
-/
structure FinalStops (trace : List HrEvent) : Prop where
  rests
    : ∀ before final between direction after,
        trace = before ++ final :: between ++ .stepped direction :: after
        → final.Ends → ∃ event ∈ between, event.Starts
  homes : ∀ event ∈ trace, event.Homed

/-- A reset settles if it is read at rest, or if the motor function finds the bottom switch
active in some pass of the homing loop.
-/
def Hr.Settles (hr : Hr) (command : Command) : Prop :=
  command.c = Char.toUInt8 'r' → hr.hrMovingStatus = .stop ∨ false ∈ command.passes

instance decidableSettles (hr : Hr) (command : Command) : Decidable (hr.Settles command) :=
  inferInstanceAs (Decidable (_ → _))

/-- Every reset of an iteration settles. -/
def Hr.Settling (hr : Hr) (iteration : Iteration) : Prop :=
  commandReader.Always Hr.Settles hr iteration.commands

instance decidableSettling (hr : Hr) (iteration : Iteration)
    : Decidable (hr.Settling iteration) :=
  inferInstanceAs (Decidable (commandReader.Always Hr.Settles hr iteration.commands))

-----------------------------------------------------------------------------------------
-- The end of a homing
-----------------------------------------------------------------------------------------

/-- The homing loop stops the motion only in a pass that finds the switch active.
Witness: induction over the passes.
-/
theorem Hr.descend_hrMovingStatus (hr : Hr) (passes : List Bool)
    : (hr.descend passes).1.hrMovingStatus
      = if false ∈ passes then .stop else hr.hrMovingStatus := by
  induction passes generalizing hr with
  | nil => rfl
  | cons bottom passes ih =>
      have later := ih (hr.moveHrDown bottom).1
      cases bottom with
      | false => simpa [Hr.descend, Hr.moveHrDown] using later
      | true => simpa [Hr.descend, Hr.moveHrDown] using later

/-- No event of a motor function ends a motion. -/
theorem motorEvents_quiet {direction : Direction} {reading : Bool} {event : HrEvent}
    (member : event ∈ motorEvents direction reading)
    : ¬ event.Ends ∧ event.Homed := by
  rcases List.mem_cons.mp member with rfl | member
  · exact ⟨id, trivial⟩
  rcases List.mem_cons.mp member with rfl | member
  · exact ⟨id, trivial⟩
  cases reading with
  | false => cases member
  | true =>
      obtain rfl := List.mem_singleton.mp member
      exact ⟨id, trivial⟩

/-- The motion of an iteration ends no homing. -/
theorem Hr.move_homed {hr : Hr} {top bottom : Bool} {event : HrEvent}
    (member : event ∈ (hr.move top bottom).2)
    : event.Homed := by
  unfold Hr.move at member
  cases status : hr.hrMovingStatus with
  | stop =>
      rw [status] at member
      cases member
  | up =>
      simp only [status, Hr.moveHrUp_events] at member
      exact (motorEvents_quiet member).2
  | down =>
      simp only [status, Hr.moveHrDown_events] at member
      exact (motorEvents_quiet member).2

/-- The homing loop shows its own reads and what the motor function shows. -/
theorem Hr.descend_events {hr : Hr} {passes : List Bool} {event : HrEvent}
    (member : event ∈ (hr.descend passes).2)
    : ¬ event.Ends ∧ event.Homed := by
  induction passes generalizing hr with
  | nil =>
      obtain rfl := List.mem_singleton.mp member
      exact ⟨id, trivial⟩
  | cons bottom passes ih =>
      rw [Hr.descend_cons] at member
      rcases List.mem_append.mp member with first | later
      · rcases List.mem_cons.mp first with rfl | moved
        · exact ⟨id, trivial⟩
        · exact motorEvents_quiet moved
      · exact ih later

/-- A command's homing ends at rest exactly if the command settles. -/
theorem Hr.obey_homed {hr : Hr} {command : Command}
    : (∀ event ∈ (hr.obey command).2, event.Homed) ↔ hr.Settles command := by
  by_cases reset : command.c = Char.toUInt8 'r'
  · rw [Hr.obey_reset hr reset]
    have status := hr.descend_hrMovingStatus command.passes
    constructor
    · intro homed _
      have ended := homed (.homed (hr.reset command).1) (by simp [Hr.reset])
      have still : (hr.descend command.passes).1.hrMovingStatus = .stop := ended.2
      rw [status] at still
      by_cases found : false ∈ command.passes
      · exact .inr found
      · rw [if_neg found] at still
        exact .inl still
    · intro settles event member
      rcases List.mem_cons.mp member with rfl | later
      · trivial
      rcases List.mem_append.mp later with descent | rest
      · exact (Hr.descend_events descent).2
      rcases List.mem_cons.mp rest with rfl | discarded
      · refine ⟨rfl, status.trans ?_⟩
        rcases settles reset with stopped | found
        · simp [stopped]
        · simp [found]
      · obtain ⟨byte, _, rfl⟩ := List.mem_map.mp discarded
        trivial
  · rw [(hr.obey_other reset).2]
    refine ⟨fun _ same => absurd same reset, fun _ event member => ?_⟩
    obtain rfl := List.mem_singleton.mp member
    trivial

-----------------------------------------------------------------------------------------
-- Rest between the end of a motion and the next start
-----------------------------------------------------------------------------------------

/-- A motion has ended among the events seen, and nothing has started one since. -/
def Resting (seen : List HrEvent) : Prop :=
  ∃ before final between,
    seen = before ++ final :: between ∧ final.Ends ∧ ∀ event ∈ between, ¬ event.Starts

/-- A motor step comes only while the motor may move. -/
def RestLaw (seen : List HrEvent) (event : HrEvent) : Prop :=
  ∀ direction, event = .stepped direction → ¬ Resting seen

theorem resting_nil : ¬ Resting [] := by
  intro ⟨before, final, between, split, _⟩
  exact absurd split.symm (by simp)

/-- Behind one more event the motor rests if that event ends a motion, or if it rested
before and the event starts none. Witness: the events behind the final one are none, or
end with the event added.
-/
theorem Resting.concat {seen : List HrEvent} {event : HrEvent}
    (resting : Resting (seen ++ [event]))
    : event.Ends ∨ (Resting seen ∧ ¬ event.Starts) := by
  obtain ⟨before, final, between, split, ends, quiet⟩ := resting
  rcases List.eq_nil_or_concat' between with rfl | ⟨between, last, rfl⟩
  · obtain ⟨_, same⟩ := List.append_inj' split rfl
    obtain ⟨rfl, _⟩ := List.cons.inj same
    exact .inl ends
  · rw [← List.cons_append, ← List.append_assoc] at split
    obtain ⟨rfl, same⟩ := List.append_inj' split rfl
    obtain ⟨rfl, _⟩ := List.cons.inj same
    refine .inr ⟨⟨before, final, between, rfl, ends, fun other member => ?_⟩, ?_⟩
    · exact quiet other (List.mem_append_left _ member)
    · exact quiet event (List.mem_append_right between List.mem_cons_self)

/-- Events that end no motion do not bring the motor to rest. Witness: induction over the
events, each added behind those seen.
-/
theorem Resting.of_append {seen events : List HrEvent}
    (quiet : ∀ event ∈ events, ¬ event.Ends) (resting : Resting (seen ++ events))
    : Resting seen := by
  induction events generalizing seen with
  | nil => rwa [List.append_nil] at resting
  | cons event rest ih =>
      obtain ⟨first, others⟩ := List.forall_mem_cons.mp quiet
      have split : seen ++ event :: rest = seen ++ [event] ++ rest := by simp
      rw [split] at resting
      rcases (ih others resting).concat with ends | ⟨before, _⟩
      · exact absurd ends first
      · exact before

/-- While the motor may move, events that end no motion obey the law. -/
theorem lawful_moving {seen events : List HrEvent} (moving : ¬ Resting seen)
    (quiet : ∀ event ∈ events, ¬ event.Ends)
    : Lawful RestLaw seen events := by
  apply lawful_iff.mpr
  rintro before event after rfl direction _ resting
  apply moving
  apply resting.of_append
  intro other member
  exact quiet other (List.mem_append_left _ member)

/-- A trace whose steps obey the law has a start between every end and the next step. -/
theorem rests_of_lawful {trace : List HrEvent} (lawful : Lawful RestLaw [] trace)
    {before between after : List HrEvent} {final : HrEvent} {direction : Direction}
    (split : trace = before ++ final :: between ++ .stepped direction :: after)
    (ends : final.Ends)
    : ∃ event ∈ between, event.Starts := by
  have moving := lawful_iff.mp lawful _ _ _ split direction rfl
  by_contra none
  push Not at none
  exact moving ⟨before, final, between, rfl, ends, none⟩

-----------------------------------------------------------------------------------------
-- Commands, motion and iterations
-----------------------------------------------------------------------------------------

/-- What the firmware keeps: a motor at rest is to stand still. -/
def KeepsRest (seen : List HrEvent) (hr : Hr) : Prop :=
  Resting seen → hr.hrMovingStatus = .stop

theorem restLaw_command (seen : List HrEvent) (byte : UInt8) : RestLaw seen (.command byte) := by
  intro direction same
  cases same

/-- A homing that ends at rest moves the motor between its start byte and its end only. -/
theorem KeepsRest.obey_reset {hr : Hr} {command : Command} (settles : hr.Settles command)
    (reset : command.c = Char.toUInt8 'r') (seen : List HrEvent)
    : Lawful RestLaw seen (hr.obey command).2
      ∧ KeepsRest (seen ++ (hr.obey command).2) (hr.obey command).1 := by
  have homed := Hr.obey_homed.mpr settles
  rw [Hr.obey_reset hr reset] at homed ⊢
  have starts : ¬ Resting (seen ++ [.command command.c]) := by
    intro resting
    rcases resting.concat with ends | ⟨_, still⟩
    · exact reset_byte.2.2 (reset.symm.trans ends)
    · exact still (.inr (.inr reset))
  have stopped := homed (.homed (hr.reset command).1) (by simp [Hr.reset])
  refine ⟨⟨restLaw_command seen _, ?_⟩, fun _ => stopped.2⟩
  apply lawful_append.mpr
  refine ⟨lawful_moving starts (fun event member => (Hr.descend_events member).1), ?_⟩
  apply lawful_of_forall
  intro event member before direction same
  rcases List.mem_cons.mp member with rfl | discarded
  · cases same
  · obtain ⟨byte, _, rfl⟩ := List.mem_map.mp discarded
    cases same

/-- Any other command leaves a motor at rest to stand still. Witness: the motor rests behind
the byte only if the byte is the stop command, or no start and the motor rested before.
-/
theorem KeepsRest.obey_other {seen : List HrEvent} {hr : Hr} (keeps : KeepsRest seen hr)
    {command : Command} (other : command.c ≠ Char.toUInt8 'r')
    : Lawful RestLaw seen (hr.obey command).2
      ∧ KeepsRest (seen ++ (hr.obey command).2) (hr.obey command).1 := by
  rw [(hr.obey_other other).2]
  refine ⟨⟨restLaw_command seen _, trivial⟩, fun resting => ?_⟩
  have notStarted := resting.concat
  unfold Hr.obey
  by_cases up : command.c = Char.toUInt8 'w'
  · rcases notStarted with ends | ⟨_, still⟩
    · exact absurd (up.symm.trans ends) (by decide)
    · exact absurd (Or.inl up) still
  by_cases down : command.c = Char.toUInt8 's'
  · rcases notStarted with ends | ⟨_, still⟩
    · exact absurd (down.symm.trans ends) (by decide)
    · exact absurd (Or.inr (.inl down)) still
  simp only [if_neg up, if_neg down, if_neg other]
  by_cases stop : command.c = Char.toUInt8 ' '
  · rw [if_pos stop]
  · rw [if_neg stop]
    rcases notStarted with ends | ⟨before, _⟩
    · exact absurd ends stop
    · exact keeps before

/-- A settling command moves the motor only before its homing is over, and leaves a motor at
rest to stand still.
-/
theorem KeepsRest.obey {seen : List HrEvent} {hr : Hr} (keeps : KeepsRest seen hr)
    {command : Command} (settles : hr.Settles command)
    : Lawful RestLaw seen (hr.obey command).2
      ∧ KeepsRest (seen ++ (hr.obey command).2) (hr.obey command).1 := by
  by_cases reset : command.c = Char.toUInt8 'r'
  · exact KeepsRest.obey_reset settles reset seen
  · exact keeps.obey_other reset

/-- The motion of an iteration moves no motor at rest. -/
theorem KeepsRest.move {seen : List HrEvent} {hr : Hr} (keeps : KeepsRest seen hr)
    (top bottom : Bool)
    : Lawful RestLaw seen (hr.move top bottom).2
      ∧ KeepsRest (seen ++ (hr.move top bottom).2) (hr.move top bottom).1 := by
  have acts (direction : Direction) (reading : Bool) (moving : hr.hrMovingStatus ≠ .stop)
      : Lawful RestLaw seen (motorEvents direction reading)
        ∧ ¬ Resting (seen ++ motorEvents direction reading) := by
    have busy : ¬ Resting seen := fun resting => moving (keeps resting)
    have quiet : ∀ event ∈ motorEvents direction reading, ¬ event.Ends :=
      fun event member => (motorEvents_quiet member).1
    exact ⟨lawful_moving busy quiet, fun resting => busy (resting.of_append quiet)⟩
  unfold Hr.move
  cases status : hr.hrMovingStatus with
  | stop =>
      refine ⟨trivial, fun _ => ?_⟩
      exact status
  | up =>
      obtain ⟨lawful, busy⟩ := acts .up top (by rw [status]; decide)
      simp only [Hr.moveHrUp_events]
      exact ⟨lawful, fun resting => absurd resting busy⟩
  | down =>
      obtain ⟨lawful, busy⟩ := acts .down bottom (by rw [status]; decide)
      simp only [Hr.moveHrDown_events]
      exact ⟨lawful, fun resting => absurd resting busy⟩

/-- An iteration whose resets all settle moves no motor at rest. -/
theorem KeepsRest.loop {seen : List HrEvent} {hr : Hr} (keeps : KeepsRest seen hr)
    {iteration : Iteration} (settling : hr.Settling iteration)
    : Lawful RestLaw seen (hr.loop iteration).2
      ∧ KeepsRest (seen ++ (hr.loop iteration).2) (hr.loop iteration).1 := by
  obtain ⟨obeyed, commanded⟩ := settling.lawful KeepsRest keeps
    (fun _ _ _ current settles => current.obey settles)
  obtain ⟨moves, moved⟩ := commanded.move iteration.top iteration.bottom
  have sends (hr : Hr) (bytes : List UInt8) (before : List HrEvent)
      : Lawful RestLaw before [.sent hr bytes] := by
    refine ⟨?_, trivial⟩
    intro direction same
    cases same
  refine ⟨?_, fun resting => ?_⟩
  · apply lawful_append.mpr
    refine ⟨lawful_append.mpr ⟨obeyed, moves⟩, sends _ _ _⟩
  · apply moved
    have before := resting
    simp only [Hr.loop] at before
    rw [← List.append_assoc] at before
    rcases before.concat with ends | ⟨earlier, _⟩
    · cases ends
    · rwa [List.append_assoc]

/-- The homings of an iteration end at rest exactly if all its resets settle. -/
theorem Hr.loop_homed {hr : Hr} {iteration : Iteration}
    : (∀ event ∈ (hr.loop iteration).2, event.Homed) ↔ hr.Settling iteration := by
  have commands
      : (∀ event ∈ (commandReader.outputs hr iteration.commands).flatten, event.Homed)
        ↔ hr.Settling iteration := by
    rw [← Machine.always_events]
    exact Machine.always_congr (fun _ => True) trivial (fun _ _ _ => Hr.obey_homed)
      (fun _ _ _ _ => trivial) iteration.commands
  rw [← commands]
  constructor
  · intro homed event member
    exact homed event (List.mem_append_left _ (List.mem_append_left _ member))
  · intro homed event member
    rcases List.mem_append.mp member with acted | sent
    · rcases List.mem_append.mp acted with obeyed | moved
      · exact homed event obeyed
      · exact Hr.move_homed moved
    · obtain rfl := List.mem_singleton.mp sent
      trivial

/-- Stop and reset are final in a run exactly if all its resets settle.
Witness: a homing shows the status it ends with, and with every homing at rest the rest is
kept by induction over the iterations and their commands.
-/
theorem stop_final_iff (hr : Hr) (iterations : List Iteration)
    : FinalStops (firmware.outputs hr iterations).flatten
      ↔ firmware.Always Hr.Settling hr iterations := by
  have homes
      : (∀ event ∈ (firmware.outputs hr iterations).flatten, event.Homed)
        ↔ firmware.Always Hr.Settling hr iterations := by
    rw [← Machine.always_events]
    exact Machine.always_congr (fun _ => True) trivial (fun _ _ _ => Hr.loop_homed)
      (fun _ _ _ _ => trivial) iterations
  constructor
  · intro law
    exact homes.mp law.homes
  · intro settling
    refine ⟨?_, homes.mpr settling⟩
    intro before final between direction after split
    have start : KeepsRest [] hr := fun resting => absurd resting resting_nil
    have lawful := settling.lawful KeepsRest start
      (fun _ _ _ keeps settles => keeps.loop settles)
    exact rests_of_lawful lawful.1 split

/-- The head rest is told to move up and then, before it has moved, to reset: it descends
one step to the bottom switch, and goes up again without a further command.
-/
theorem stop_not_final
    : let iteration : Iteration :=
        ⟨[⟨Char.toUInt8 'w', [], []⟩, ⟨Char.toUInt8 'r', [true], []⟩], true, false, 0, 0⟩
      ¬ FinalStops (firmware.outputs Hr.setup [iteration]).flatten := by
  intro iteration law
  have started := law.rests
    [
      .command (Char.toUInt8 'w'), .command (Char.toUInt8 'r'), .homing true,
      .called .down, .limit .down true, .stepped .down, .homing false
    ]
    (.homed ⟨.up, 0⟩) [.called .up, .limit .up true] .up
    [.sent ⟨.up, 1⟩ (Sample.frame ⟨1, 0, 0⟩)] (by decide) trivial
  obtain ⟨event, member, starts⟩ := started
  rcases List.mem_pair.mp member with rfl | rfl
  · exact starts
  · exact starts

end Cooboc.HeadRest
