import Mathlib.Data.BitVec
import Mathlib.Logic.Function.Basic
import Cooboc.Foundations.Composition

/-! The infrared receiver of `IRremote.cpp`: an interrupt that comes every fifty microseconds
measures the marks and spaces on the pin, and records them one by one.
-/

namespace Cooboc.Infrared

open Cooboc.Foundations

/-- An `unsigned int` of the Arduino. -/
abbrev AvrUnsigned := BitVec 16

/-- What the detector shows: `MARK` or `SPACE`. -/
inductive Level where
  | mark
  | space
deriving DecidableEq

def Level.other : Level → Level
  | .mark => .space
  | .space => .mark

/-- The receiver states, `STATE_IDLE` to `STATE_STOP`. -/
inductive RcvState where
  | idle
  | mark
  | space
  | stop
deriving DecidableEq

/-- `RAWBUF` -/
def rawbufLength : Nat := 100

/-- `USECPERTICK` -/
def usecPerTick : Nat := 50

/-- `_GAP` -/
def minimumGap : Nat := 5000

/-- `GAP_TICKS` -/
def gapTicks : Nat := minimumGap / usecPerTick

/-- `irparams_t`, without the pin's number. -/
structure IrParams where
  rcvstate : RcvState
  blinkflag : Bool
  timer : AvrUnsigned
  rawbuf : Nat → AvrUnsigned
  rawlen : Nat

/-- `IRrecv::enableIRIn` -/
def IrParams.enableIRIn (irparams : IrParams) : IrParams :=
  { irparams with rcvstate := .idle, rawlen := 0 }

/-- The first store of `IRrecv::resume`. -/
def IrParams.resumeState (irparams : IrParams) : IrParams := { irparams with rcvstate := .idle }

/-- The second store of `IRrecv::resume`. -/
def IrParams.resumeLength (irparams : IrParams) : IrParams := { irparams with rawlen := 0 }

/-- The three statements that store the timer, restart it and go on in another state. -/
def IrParams.record (irparams : IrParams) (rcvstate : RcvState) : IrParams :=
  { irparams with
    rawbuf := Function.update irparams.rawbuf irparams.rawlen irparams.timer
    rawlen := irparams.rawlen + 1
    timer := 0
    rcvstate := rcvstate }

/-- The switch of the interrupt. -/
def IrParams.switch (irparams : IrParams) (irdata : Level) : IrParams :=
  match irparams.rcvstate, irdata with
  | .idle, .mark =>
      if irparams.timer.toNat < gapTicks then
        { irparams with timer := 0 }
      else
        { irparams with rawlen := 0 }.record .mark
  | .idle, .space => irparams
  | .mark, .space => irparams.record .space
  | .mark, .mark => irparams
  | .space, .mark => irparams.record .mark
  | .space, .space =>
      -- The timer goes on, and so measures the whole gap behind the code.
      if gapTicks < irparams.timer.toNat then { irparams with rcvstate := .stop } else irparams
  | .stop, .mark => { irparams with timer := 0 }
  | .stop, .space => irparams

/-- The interrupt, with what it does to the light on pin 13, if anything. -/
def IrParams.interrupt (irparams : IrParams) (irdata : Level) : IrParams × Option Bool :=
  let ticked := { irparams with timer := irparams.timer + 1 }
  let checked := if rawbufLength ≤ ticked.rawlen then { ticked with rcvstate := .stop } else ticked
  (
    checked.switch irdata,
    if irparams.blinkflag then some (decide (irdata = .mark)) else none
  )

/-- The interrupt over what it reads from the pin. -/
def interrupts : Machine IrParams Level (Option Bool) where
  step := IrParams.interrupt

/-- What has been recorded so far. -/
def IrParams.recording (irparams : IrParams) : List AvrUnsigned :=
  (List.range irparams.rawlen).map irparams.rawbuf

theorem IrParams.recording_length (irparams : IrParams)
    : irparams.recording.length = irparams.rawlen := by
  rw [IrParams.recording, List.length_map, List.length_range]

theorem IrParams.recording_record (irparams : IrParams) (rcvstate : RcvState)
    : (irparams.record rcvstate).recording = irparams.recording ++ [irparams.timer] := by
  have earlier : (List.range irparams.rawlen).map
        (Function.update irparams.rawbuf irparams.rawlen irparams.timer)
      = (List.range irparams.rawlen).map irparams.rawbuf :=
    List.map_congr_left (fun index member =>
      Function.update_of_ne (Nat.ne_of_lt (List.mem_range.mp member)) _ _)
  change (List.range (irparams.rawlen + 1)).map
    (Function.update irparams.rawbuf irparams.rawlen irparams.timer) = _
  rw [List.range_succ, List.map_append, List.map_singleton, Function.update_self, earlier]
  rfl

-----------------------------------------------------------------------------------------
-- The line in runs
-----------------------------------------------------------------------------------------

/-- What the receiver makes of the line: it waits for a mark behind a gap, it measures the runs of
a code, or it has recorded them. The run that is being measured has `count` samples behind its
first one.
-/
inductive Measurement where
  | waiting (timer : AvrUnsigned)
  | measuring (gap : AvrUnsigned) (widths : List Nat) (level : Level) (count : Nat)
  | recorded (gap : AvrUnsigned) (widths : List Nat) (timer : AvrUnsigned)

/-- The timer of a receiver that is not measuring, behind one more sample. -/
def gapTimer (timer : AvrUnsigned) : Level → AvrUnsigned
  | .mark => 0
  | .space => timer + 1

/-- One more sample. A code ends with its hundredth entry, or with a gap. -/
def Measurement.sample : Measurement → Level → Measurement
  | .waiting timer, .mark =>
      if (timer + 1).toNat < gapTicks then .waiting 0 else .measuring (timer + 1) [] .mark 0
  | .waiting timer, .space => .waiting (timer + 1)
  | .measuring gap widths level count, irdata =>
      if widths.length + 1 = rawbufLength then
        .recorded gap widths (gapTimer (BitVec.ofNat 16 count) irdata)
      else if irdata ≠ level then
        .measuring gap (widths ++ [count + 1]) irdata 0
      else if irdata = .space ∧ gapTicks < count + 1 then
        .recorded gap widths (BitVec.ofNat 16 (count + 1))
      else
        .measuring gap widths level (count + 1)
  | .recorded gap widths timer, irdata => .recorded gap widths (gapTimer timer irdata)

/-- The measurement over the samples. -/
def measurements : Machine Measurement Level Unit where
  step measurement irdata := (measurement.sample irdata, ())

/-- The entries of a code: its gap, and the widths as far as the timer counts. -/
def entries (gap : AvrUnsigned) (widths : List Nat) : List AvrUnsigned :=
  gap :: widths.map (BitVec.ofNat 16)

def Level.rcvstate : Level → RcvState
  | .mark => .mark
  | .space => .space

/-- The receiver's state is that of the measurement. -/
def IrParams.Measures (irparams : IrParams) : Measurement → Prop
  | .waiting timer => irparams.rcvstate = .idle ∧ irparams.rawlen = 0 ∧ irparams.timer = timer
  | .measuring gap widths level count =>
      irparams.rcvstate = level.rcvstate
      ∧ irparams.recording = entries gap widths
      ∧ irparams.timer = BitVec.ofNat 16 count
      ∧ widths.length + 1 ≤ rawbufLength
      ∧ (level = .space → count ≤ gapTicks)
  | .recorded gap widths timer =>
      irparams.rcvstate = .stop
      ∧ irparams.recording = entries gap widths
      ∧ irparams.timer = timer
      ∧ widths.length + 1 ≤ rawbufLength

theorem entries_length (gap : AvrUnsigned) (widths : List Nat)
    : (entries gap widths).length = widths.length + 1 := by
  rw [entries, List.length_cons, List.length_map]

theorem rawlen_of_entries {irparams : IrParams} {gap : AvrUnsigned} {widths : List Nat}
    (recording : irparams.recording = entries gap widths)
    : irparams.rawlen = widths.length + 1 := by
  rw [← irparams.recording_length, recording, entries_length]

theorem entries_concat (gap : AvrUnsigned) (widths : List Nat) (width : Nat)
    : entries gap (widths ++ [width]) = entries gap widths ++ [BitVec.ofNat 16 width] := by
  rw [entries, List.map_append, List.map_singleton]
  rfl

/-- A counter of samples goes on with the timer. -/
theorem timer_succ (count : Nat)
    : (BitVec.ofNat 16 count + 1 : AvrUnsigned) = BitVec.ofNat 16 (count + 1) :=
  (BitVec.ofNat_add count 1).symm

/-- An interrupt with room in the buffer. -/
theorem interrupt_room {irparams : IrParams} (room : irparams.rawlen < rawbufLength)
    (irdata : Level)
    : (irparams.interrupt irdata).1
      = { irparams with timer := irparams.timer + 1 }.switch irdata := by
  have unchecked : ¬rawbufLength ≤ irparams.rawlen := Nat.not_le.mpr room
  simp only [IrParams.interrupt, if_neg unchecked]

/-- An interrupt behind the last entry of the buffer stops the recording. -/
theorem interrupt_full {irparams : IrParams} (full : irparams.rawlen = rawbufLength)
    (irdata : Level)
    : (irparams.interrupt irdata).1
      = { irparams with timer := irparams.timer + 1, rcvstate := .stop }.switch irdata := by
  have checked : rawbufLength ≤ irparams.rawlen := Nat.le_of_eq full.symm
  simp only [IrParams.interrupt, if_pos checked]

/-- A receiver that has stopped keeps the recording, whatever the pin shows. -/
theorem switch_stopped (irparams : IrParams) (timer : AvrUnsigned) (irdata : Level)
    : { irparams with timer := timer + 1, rcvstate := .stop }.switch irdata
      = { irparams with timer := gapTimer timer irdata, rcvstate := .stop } := by
  cases irdata with
  | mark => rfl
  | space => rfl

theorem measures_waiting {irparams : IrParams} {timer : AvrUnsigned}
    (measures : irparams.Measures (.waiting timer)) (irdata : Level)
    : (irparams.interrupt irdata).1.Measures ((Measurement.waiting timer).sample irdata) := by
  obtain ⟨idle, empty, rfl⟩ := measures
  have room : irparams.rawlen < rawbufLength := by rw [empty]; decide
  rw [interrupt_room room]
  cases irdata with
  | space =>
      simp only [IrParams.switch, idle]
      exact ⟨rfl, empty, rfl⟩
  | mark =>
      simp only [IrParams.switch, idle, Measurement.sample]
      by_cases short : (irparams.timer + 1).toNat < gapTicks
      · rw [if_pos short, if_pos short]
        exact ⟨rfl, empty, rfl⟩
      · rw [if_neg short, if_neg short]
        refine ⟨rfl, ?_, rfl, by decide, nofun⟩
        rw [IrParams.recording_record]
        rfl

theorem measures_measuring {irparams : IrParams} {gap : AvrUnsigned} {widths : List Nat}
    {level : Level} {count : Nat} (measures : irparams.Measures (.measuring gap widths level count))
    (irdata : Level)
    : (irparams.interrupt irdata).1.Measures
        ((Measurement.measuring gap widths level count).sample irdata) := by
  obtain ⟨state, recording, timer, within, short⟩ := measures
  have rawlen := rawlen_of_entries recording
  simp only [Measurement.sample]
  by_cases full : widths.length + 1 = rawbufLength
  · rw [if_pos full, interrupt_full (rawlen.trans full), switch_stopped, ← timer]
    exact ⟨rfl, recording, rfl, within⟩
  · have room : irparams.rawlen < rawbufLength := by omega
    rw [if_neg full, interrupt_room room]
    by_cases ends : irdata ≠ level
    · have recorded (rcvstate : RcvState)
          : ({ irparams with timer := irparams.timer + 1 }.record rcvstate).recording
            = entries gap (widths ++ [count + 1]) := by
        rw [IrParams.recording_record, entries_concat, ← timer_succ, ← timer, ← recording]
        rfl
      have longer : (widths ++ [count + 1]).length + 1 ≤ rawbufLength := by
        rw [List.length_append, List.length_singleton]
        omega
      rw [if_pos ends]
      cases irdata with
      | mark =>
          cases level with
          | mark => exact absurd rfl ends
          | space =>
              simp only [IrParams.switch, state, Level.rcvstate]
              exact ⟨rfl, recorded .mark, rfl, longer, nofun⟩
      | space =>
          cases level with
          | mark =>
              simp only [IrParams.switch, state, Level.rcvstate]
              exact ⟨rfl, recorded .space, rfl, longer, fun _ => Nat.zero_le _⟩
          | space => exact absurd rfl ends
    · rw [if_neg ends]
      obtain rfl := not_not.mp ends
      have ticked : irparams.timer + 1 = BitVec.ofNat 16 (count + 1) := by
        rw [timer, timer_succ]
      cases irdata with
      | mark =>
          simp only [IrParams.switch, state, Level.rcvstate]
          exact ⟨rfl, recording, ticked, within, nofun⟩
      | space =>
          have counted : (BitVec.ofNat 16 (count + 1) : AvrUnsigned).toNat = count + 1 := by
            have bound := short rfl
            simp only [gapTicks, minimumGap, usecPerTick] at bound
            exact Nat.mod_eq_of_lt (by omega)
          simp only [IrParams.switch, state, Level.rcvstate, ticked, counted, true_and]
          by_cases long : gapTicks < count + 1
          · rw [if_pos long, if_pos long]
            exact ⟨rfl, recording, rfl, within⟩
          · rw [if_neg long, if_neg long]
            exact ⟨rfl, recording, rfl, within, fun _ => Nat.not_lt.mp long⟩

theorem measures_recorded {irparams : IrParams} {gap : AvrUnsigned} {widths : List Nat}
    {timer : AvrUnsigned} (measures : irparams.Measures (.recorded gap widths timer))
    (irdata : Level)
    : (irparams.interrupt irdata).1.Measures
        ((Measurement.recorded gap widths timer).sample irdata) := by
  obtain ⟨state, recording, rfl, within⟩ := measures
  have switched : (irparams.interrupt irdata).1
      = { irparams with timer := gapTimer irparams.timer irdata, rcvstate := .stop } := by
    obtain ⟨_, _, counted, _, rawlen⟩ := irparams
    obtain rfl := state
    rw [← switch_stopped]
    simp only [IrParams.interrupt]
    split
    case isTrue => rfl
    case isFalse => rfl
  rw [switched]
  exact ⟨rfl, recording, rfl, within⟩

/-- The receiver measures the line. -/
theorem interrupts_measure
    : Machine.Simulation interrupts measurements IrParams.Measures (fun _ _ => True) where
  states {irparams measurement} irdata measures := by
    cases measurement with
    | waiting timer => exact measures_waiting measures irdata
    | measuring gap widths level count => exact measures_measuring measures irdata
    | recorded gap widths timer => exact measures_recorded measures irdata
  outputs _ _ := trivial

end Cooboc.Infrared
