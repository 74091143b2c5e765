import Mathlib.Data.List.Forall2
import Cooboc.Foundations.BitOrder
import Cooboc.Foundations.RunLengths
import Cooboc.Infrared.Decoders

/-! The senders of `IRremote.cpp` that have a decoder, and what a receiver sees of their pulses.
-/

namespace Cooboc.Infrared

open Cooboc.Foundations

/-- A level of the output, and the microseconds for which `delayMicroseconds` holds it. -/
abbrev Pulse := Level × Nat

/-- `IRsend::mark` -/
def mark (time : Nat) : Pulse := (.mark, time)

/-- `IRsend::space` -/
def space (time : Nat) : Pulse := (.space, time)

/-- A mark and a space for each pair of times. -/
def pulses (times : List (Nat × Nat)) : List Pulse :=
  times.flatMap (fun time => [mark time.1, space time.2])

/-- The times of bits whose spaces are long for a one and short for a zero. -/
def distanceTimes (bitMark oneSpace zeroSpace : Nat) (bits : List Bool) : List (Nat × Nat) :=
  bits.map (fun bit => (bitMark, if bit then oneSpace else zeroSpace))

/-- `sendNEC`, which tests the topmost bit of `data` and shifts it, `nbits` times. -/
def sendNEC (data : BitVec 32) (nbits : Nat) : List Pulse :=
  pulses ((9000, 4500) :: distanceTimes 560 1600 560 (topBits data nbits) ++ [(560, 0)])

/-- `sendSony` -/
def sendSony (data : BitVec 32) (nbits : Nat) : List Pulse :=
  let data := data <<< (32 - nbits)
  pulses
    ((2400, 600) :: (topBits data nbits).map (fun bit => (if bit then 1200 else 600, 600)))

/-- `sendRC5` -/
def sendRC5 (data : BitVec 32) (nbits : Nat) : List Pulse :=
  let data := data <<< (32 - nbits)
  [mark 889, space 889, mark 889]
    ++ (topBits data nbits).flatMap (fun bit =>
        if bit then [space 889, mark 889] else [mark 889, space 889])
    ++ [space 0]

/-- `sendRC6`; its fourth bit is twice as wide. -/
def sendRC6 (data : BitVec 32) (nbits : Nat) : List Pulse :=
  let data := data <<< (32 - nbits)
  [mark 2666, space 889, mark 444, space 444]
    ++ (topBits data nbits).zipIdx.flatMap (fun (bit, i) =>
        let t := if i = 3 then 2 * 444 else 444
        if bit then [mark t, space t] else [space t, mark t])
    ++ [space 0]

/-- `sendPanasonic`, whose `address` has the sixteen bits of an `unsigned int`. -/
def sendPanasonic (address : AvrUnsigned) (data : BitVec 32) : List Pulse :=
  pulses
    ((3502, 1750) :: distanceTimes 502 1244 400 (topBits address 16 ++ topBits data 32)
      ++ [(502, 0)])

/-- `sendJVC`; a repeat has no header. -/
def sendJVC (data : BitVec 32) (nbits : Nat) (again : Bool) : List Pulse :=
  let data := data <<< (32 - nbits)
  let header := if again then [] else [(8000, 4000)]
  pulses (header ++ distanceTimes 600 1600 550 (topBits data nbits) ++ [(600, 0)])

-----------------------------------------------------------------------------------------
-- What a receiver sees
-----------------------------------------------------------------------------------------

/-- The detector shows marks too long and spaces too short, by the excess that `MARK_EXCESS`
stands for, give or take fifty microseconds.
-/
def Level.Shows (level : Level) (us shown : Nat) : Prop :=
  ∃ excess, 50 ≤ excess ∧ excess ≤ 150
    ∧ match level with
      | .mark => shown = us + excess
      | .space => shown + excess = us

/-- The number of samples in a time is less than one away from the time in ticks. -/
def Sampled (shown ticks : Nat) : Prop :=
  shown < usecPerTick * (ticks + 1) ∧ usecPerTick * ticks < shown + usecPerTick

/-- A run of the line is seen for so many ticks. -/
def Level.Sees (level : Level) (us ticks : Nat) : Prop :=
  ∃ shown, level.Shows us shown ∧ Sampled shown ticks

/-- What a receiver may see of some pulses: the line's runs with their ticks, but for the last
space, which goes on with the gap.
-/
def Received (sent : List Pulse) (seen : List (Level × Nat)) : Prop :=
  List.Forall₂ (fun run shown => shown.1 = run.1 ∧ run.1.Sees run.2 shown.2)
    (merge sent).dropLast seen

theorem Level.Sees.mark_bounds {us ticks : Nat} (sees : Level.mark.Sees us ticks)
    : us < 50 * ticks ∧ 50 * ticks < us + 200 := by
  obtain ⟨shown, ⟨excess, lower, upper, rfl⟩, before, behind⟩ := sees
  simp only [usecPerTick] at before behind
  omega

theorem Level.Sees.space_bounds {us ticks : Nat} (sees : Level.space.Sees us ticks)
    : 50 * ticks < us ∧ us < 50 * ticks + 200 := by
  obtain ⟨shown, ⟨excess, lower, upper, rfl⟩, before, behind⟩ := sees
  simp only [usecPerTick] at before behind
  omega

/-- Only a time of some microseconds is seen. -/
theorem Level.Sees.bounds {level : Level} {us ticks : Nat} (sees : level.Sees us ticks)
    : us < 50 * ticks + 200 ∧ 50 * ticks < us + 200 := by
  cases level with
  | mark =>
      have bounds := sees.mark_bounds
      omega
  | space =>
      have bounds := sees.space_bounds
      omega

/-- A few ticks are the same number as an `int`. -/
theorem toInt_ticks {ticks : Nat} (few : ticks < 32768)
    : (BitVec.ofNat 16 ticks : AvrUnsigned).toInt = ticks := by
  have number : (BitVec.ofNat 16 ticks : AvrUnsigned).toNat = ticks := Nat.mod_eq_of_lt (by omega)
  rw [BitVec.toInt_eq_toNat_of_lt (by omega), number]

theorem matchTicks_eq {ticks : Nat} (few : ticks < 32768) (desired : Int)
    : matchTicks (BitVec.ofNat 16 ticks) desired
      = decide (ticksLow desired ≤ ticks ∧ ticks ≤ ticksHigh desired) := by
  rw [matchTicks, toInt_ticks few]

/-- An entry of the buffer counts the ticks for which a run is seen. -/
def Measured (entry : AvrUnsigned) (run : Pulse) : Prop :=
  ∃ ticks, entry = BitVec.ofNat 16 ticks ∧ run.1.Sees run.2 ticks

/-- A mark matches what its ticks allow. -/
theorem match_mark {entry : AvrUnsigned} {us : Nat} (measured : Measured entry (mark us))
    {desired : Int} (low : 50 * (ticksLow desired - 1) ≤ us)
    (high : us + 200 ≤ 50 * (ticksHigh desired + 1)) (few : us ≤ 32000)
    : matchTicks entry desired = true := by
  obtain ⟨ticks, rfl, sees⟩ := measured
  obtain ⟨before, behind⟩ := sees.mark_bounds
  simp only [mark] at before behind
  rw [matchTicks_eq (by omega), decide_eq_true_iff]
  omega

/-- A mark does not match what is out of its reach. -/
theorem mismatch_mark {entry : AvrUnsigned} {us : Nat} (measured : Measured entry (mark us))
    {desired : Int} (apart : us + 200 ≤ 50 * ticksLow desired ∨ 50 * ticksHigh desired ≤ us)
    (few : us ≤ 32000)
    : matchTicks entry desired = false := by
  obtain ⟨ticks, rfl, sees⟩ := measured
  obtain ⟨before, behind⟩ := sees.mark_bounds
  simp only [mark] at before behind
  rw [matchTicks_eq (by omega), decide_eq_false_iff_not]
  omega

/-- A space matches what its ticks allow. -/
theorem match_space {entry : AvrUnsigned} {us : Nat} (measured : Measured entry (space us))
    {desired : Int} (low : 50 * (ticksLow desired - 1) + 200 ≤ us)
    (high : us ≤ 50 * (ticksHigh desired + 1)) (few : us ≤ 32000)
    : matchTicks entry desired = true := by
  obtain ⟨ticks, rfl, sees⟩ := measured
  obtain ⟨before, behind⟩ := sees.space_bounds
  simp only [space] at before behind
  rw [matchTicks_eq (by omega), decide_eq_true_iff]
  omega

/-- A space does not match what is out of its reach. -/
theorem mismatch_space {entry : AvrUnsigned} {us : Nat} (measured : Measured entry (space us))
    {desired : Int} (apart : us ≤ 50 * ticksLow desired ∨ 50 * ticksHigh desired + 200 ≤ us)
    (few : us ≤ 32000)
    : matchTicks entry desired = false := by
  obtain ⟨ticks, rfl, sees⟩ := measured
  obtain ⟨before, behind⟩ := sees.space_bounds
  simp only [space] at before behind
  rw [matchTicks_eq (by omega), decide_eq_false_iff_not]
  omega

-----------------------------------------------------------------------------------------
-- What is recorded
-----------------------------------------------------------------------------------------

/-- The entries from an offset on measure some runs. -/
def Holds (rawbuf : Nat → AvrUnsigned) : Nat → List Pulse → Prop
  | _, [] => True
  | offset, run :: rest => Measured (rawbuf offset) run ∧ Holds rawbuf (offset + 1) rest

theorem holds_append {rawbuf : Nat → AvrUnsigned} {offset : Nat} {before after : List Pulse}
    : Holds rawbuf offset (before ++ after)
      ↔ Holds rawbuf offset before ∧ Holds rawbuf (offset + before.length) after := by
  induction before generalizing offset with
  | nil => simp [Holds]
  | cons run rest ih =>
      rw [List.cons_append, Holds, Holds, ih, List.length_cons, and_assoc, Nat.add_assoc,
        Nat.add_comm 1]

theorem holds_of_forall₂ {rawbuf : Nat → AvrUnsigned} {offset : Nat} {runs : List Pulse}
    {seen : List (Level × Nat)}
    (received
      : List.Forall₂ (fun run shown => shown.1 = run.1 ∧ run.1.Sees run.2 shown.2) runs seen)
    (cell
      : ∀ index,
          (seen.map (fun run => BitVec.ofNat 16 run.2))[index]?.all
            (rawbuf (offset + index) = ·))
    : Holds rawbuf offset runs := by
  induction received generalizing offset with
  | nil => trivial
  | @cons run shown runs seen sees _ ih =>
      refine ⟨⟨shown.2, by simpa using cell 0, sees.2⟩, ih (fun index => ?_)⟩
      have later := cell (index + 1)
      rwa [List.map_cons, List.getElem?_cons_succ, Nat.add_comm index, ← Nat.add_assoc] at later

/-- The recording of a code measures its runs, behind the gap. -/
theorem recording_holds {irparams : IrParams} {gap : AvrUnsigned} {sent : List Pulse}
    {seen : List (Level × Nat)}
    (recording : irparams.recording = entries gap (seen.map Prod.snd))
    (received : Received sent seen)
    : irparams.rawbuf 0 = gap ∧ Holds irparams.rawbuf 1 (merge sent).dropLast := by
  have rawlen := rawlen_of_entries recording
  rw [List.length_map] at rawlen
  have cell (index : Nat) (within : index < seen.length + 1)
      : some (irparams.rawbuf index) = (entries gap (seen.map Prod.snd))[index]? := by
    rw [← recording, IrParams.recording, List.getElem?_map,
      List.getElem?_range (by omega)]
    rfl
  refine ⟨Option.some.inj (cell 0 (Nat.zero_lt_succ _)), holds_of_forall₂ received ?_⟩
  intro index
  cases held : (seen.map (fun run => (BitVec.ofNat 16 run.2 : AvrUnsigned)))[index]? with
  | none => rfl
  | some entry =>
      obtain ⟨within, -⟩ := List.getElem?_eq_some_iff.mp held
      rw [List.length_map] at within
      have own := cell (index + 1) (Nat.succ_lt_succ within)
      have widths : (seen.map Prod.snd).map (BitVec.ofNat 16 : Nat → AvrUnsigned)
          = seen.map (fun run => BitVec.ofNat 16 run.2) := List.map_map
      rw [entries, List.getElem?_cons_succ, widths, held] at own
      rw [Nat.add_comm]
      exact decide_eq_true (Option.some.inj own)

-----------------------------------------------------------------------------------------
-- Pulses that alternate
-----------------------------------------------------------------------------------------

theorem separate_pulses (times : List (Nat × Nat)) : Separate (pulses times) := by
  induction times with
  | nil => exact List.IsChain.nil
  | cons time rest ih =>
      have unlike : Level.mark ≠ Level.space := nofun
      cases rest with
      | nil => exact List.isChain_cons_cons.mpr ⟨unlike, List.IsChain.singleton _⟩
      | cons next later =>
          exact List.isChain_cons_cons.mpr ⟨unlike, List.isChain_cons_cons.mpr ⟨unlike.symm, ih⟩⟩

/-- The runs of pulses that alternate are the pulses. -/
theorem merge_pulses (times : List (Nat × Nat)) : merge (pulses times) = pulses times :=
  (separate_pulses times).merge_eq

theorem pulses_append (before after : List (Nat × Nat))
    : pulses (before ++ after) = pulses before ++ pulses after :=
  List.flatMap_append

end Cooboc.Infrared
