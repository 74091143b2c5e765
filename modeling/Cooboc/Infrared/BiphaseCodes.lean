import Mathlib.Data.List.Chain
import Cooboc.Infrared.PulseCodes

/-! What the decoders make of the codes of RC5 and RC6, in which a bit is a mark and a space, or a
space and a mark. Where two bits meet, equal levels come in one run of the line, so the decoders
count levels in each run.
-/

namespace Cooboc.Infrared

open Cooboc.Foundations

-----------------------------------------------------------------------------------------
-- Levels in runs
-----------------------------------------------------------------------------------------

/-- The level of an entry: the gap is one of space. -/
def entryLevel (offset : Nat) : Level := if offset % 2 = 1 then .mark else .space

theorem entryLevel_succ (offset : Nat) : entryLevel (offset + 1) = (entryLevel offset).other := by
  simp only [entryLevel]
  by_cases odd : offset % 2 = 1
  · rw [if_pos odd, if_neg (by omega)]
    rfl
  · rw [if_neg odd, if_pos (by omega)]
    rfl

/-- The last entries from an offset on are runs of one to three times a unit of time. -/
def IrParams.Units (irparams : IrParams) (t1 : Nat) : Nat → List (Level × Nat) → Prop
  | offset, [] => irparams.rawlen = offset
  | offset, run :: rest =>
      run.1 = entryLevel offset
      ∧ 1 ≤ run.2
      ∧ run.2 ≤ 3
      ∧ Measured (irparams.rawbuf offset) (scaled t1 run)
      ∧ irparams.Units t1 (offset + 1) rest

theorem IrParams.Units.rawlen {irparams : IrParams} {t1 offset : Nat} {runs : List (Level × Nat)}
    (units : irparams.Units t1 offset runs)
    : irparams.rawlen = offset + runs.length := by
  induction runs generalizing offset with
  | nil => exact units
  | cons run rest ih =>
      rw [ih units.2.2.2.2, List.length_cons]
      ring

/-- The levels that a cursor is in front of: those recorded, and spaces behind them. -/
def LevelCursor.Reads (cursor : LevelCursor) (irparams : IrParams) (t1 : Nat)
    (levels : List Level) : Prop :=
  ∃ runs spaces,
    irparams.Units t1 cursor.offset runs
    ∧ (∀ run ∈ runs.head?, cursor.used < run.2)
    ∧ levels = (expand runs).drop cursor.used ++ List.replicate spaces .space

/-- A unit of time that the decoders tell from its double and its triple. -/
def TellsUnits (t1 : Nat) : Prop :=
  ∀ {entry : AvrUnsigned} {level : Level} {count times : Nat},
    Measured entry (level, t1 * count) → 1 ≤ count → count ≤ 3 → 1 ≤ times → times ≤ count
    → matchTicks entry (times * t1 + if level = .mark then markExcess else -markExcess)
      = decide (times = count)

/-- It is enough to compare the limits of each width with those of the shorter ones. -/
theorem tellsUnits {t1 : Nat} (few : t1 ≤ 10000)
    (own
      : ∀ count ∈ [(1 : Int), 2, 3],
          50 * (ticksLow (count * t1 + markExcess) - 1) ≤ t1 * count
          ∧ t1 * count + 200 ≤ 50 * (ticksHigh (count * t1 + markExcess) + 1)
          ∧ 50 * (ticksLow (count * t1 + -markExcess) - 1) + 200 ≤ t1 * count
          ∧ t1 * count ≤ 50 * (ticksHigh (count * t1 + -markExcess) + 1))
    (apart
      : ∀ times ∈ [(1 : Int), 2],
          50 * ticksHigh (times * t1 + markExcess) ≤ t1 * (times + 1)
          ∧ 50 * ticksHigh (times * t1 + -markExcess) + 200 ≤ t1 * (times + 1))
    : TellsUnits t1 := by
  intro entry level count times measured _ upper _ within
  have short : t1 * count ≤ 32000 :=
    (Nat.mul_le_mul few upper).trans (by decide)
  by_cases same : times = count
  · subst same
    have member : (times : Int) ∈ [(1 : Int), 2, 3] := by simp; omega
    obtain ⟨mark_low, mark_high, space_low, space_high⟩ := own _ member
    rw [decide_eq_true rfl]
    cases level with
    | mark => exact match_mark measured (mod_cast mark_low) (mod_cast mark_high) short
    | space => exact match_space measured (mod_cast space_low) (mod_cast space_high) short
  · have member : (times : Int) ∈ [(1 : Int), 2] := by simp; omega
    obtain ⟨mark_apart, space_apart⟩ := apart _ member
    have longer : (t1 * (times + 1) : Int) ≤ t1 * count := by
      exact_mod_cast Nat.mul_le_mul_left t1 (by omega)
    rw [decide_eq_false same]
    cases level with
    | mark =>
        exact mismatch_mark measured (.inr (by push_cast; exact mark_apart.trans longer)) short
    | space =>
        exact mismatch_space measured (.inr (by push_cast; exact space_apart.trans longer)) short

theorem tellsUnits_rc5 : TellsUnits 889 := tellsUnits (by decide) (by decide) (by decide)

theorem tellsUnits_rc6 : TellsUnits 444 := tellsUnits (by decide) (by decide) (by decide)

/-- Behind the end there is only space. -/
theorem getRClevel_end {irparams : IrParams} {cursor : LevelCursor}
    (done : irparams.rawlen ≤ cursor.offset) (t1 : Int)
    : getRClevel irparams cursor t1 = (some .space, cursor) := by
  rw [getRClevel, if_pos done]

/-- A level of a run, which is the last one of it or not. -/
theorem getRClevel_run {irparams : IrParams} {cursor : LevelCursor} {t1 : Nat}
    {run : Level × Nat} {rest : List (Level × Nat)} (tells : TellsUnits t1)
    (units : irparams.Units t1 cursor.offset (run :: rest))
    : getRClevel irparams cursor t1
      = (some run.1,
          if run.2 ≤ cursor.used + 1 then ⟨cursor.offset + 1, 0⟩
          else { cursor with used := cursor.used + 1 }) := by
  have rawlen := units.rawlen
  obtain ⟨level, lower, upper, measured, -⟩ := units
  have inside : ¬irparams.rawlen ≤ cursor.offset := by
    rw [rawlen, List.length_cons]
    omega
  have own : (if cursor.offset % 2 = 1 then Level.mark else Level.space) = run.1 := level.symm
  have times (count : Nat) (positive : 1 ≤ count) (within : count ≤ run.2)
      : matchTicks (irparams.rawbuf cursor.offset)
          (count * t1 + if run.1 = .mark then markExcess else -markExcess)
        = decide (count = run.2) :=
    tells measured lower upper positive within
  have one := times 1 (by decide) lower
  rw [Nat.cast_one, Int.one_mul] at one
  -- The three comparisons in a row tell how many units wide the run is.
  have avail
      : (if matchTicks (irparams.rawbuf cursor.offset)
            (t1 + if run.1 = .mark then markExcess else -markExcess)
          then 1
          else if matchTicks (irparams.rawbuf cursor.offset)
              (2 * t1 + if run.1 = .mark then markExcess else -markExcess)
            then 2
            else if matchTicks (irparams.rawbuf cursor.offset)
                (3 * t1 + if run.1 = .mark then markExcess else -markExcess)
              then 3
              else 0)
        = run.2 := by
    have width : run.2 = 1 ∨ run.2 = 2 ∨ run.2 = 3 := by omega
    rcases width with single | double | triple
    · rw [one, single, if_pos (by decide)]
    · have two := times 2 (by decide) (by omega)
      rw [Nat.cast_ofNat] at two
      rw [one, two, double, if_neg (by decide), if_pos (by decide)]
    · have two := times 2 (by decide) (by omega)
      have three := times 3 (by decide) (by omega)
      rw [Nat.cast_ofNat] at two three
      rw [one, two, three, triple, if_neg (by decide), if_neg (by decide), if_pos (by decide)]
  simp only [getRClevel, if_neg inside, own, avail, if_neg (Nat.ne_of_gt lower)]
  exact (apply_ite (Prod.mk (some run.1)) _ _ _).symm

section Cursors

variable {irparams : IrParams} {cursor : LevelCursor} {t1 : Nat} {levels : List Level}

/-- Each call returns the next level. Witness: the case where its run ends, and where it does
not.
-/
theorem LevelCursor.Reads.next {level : Level} (tells : TellsUnits t1)
    (reads : cursor.Reads irparams t1 (level :: levels))
    : ∃ behind : LevelCursor,
        getRClevel irparams cursor t1 = (some level, behind)
        ∧ behind.Reads irparams t1 levels := by
  obtain ⟨runs, spaces, units, fresh, read⟩ := reads
  cases runs with
  | nil =>
      rw [expand_nil, List.drop_nil, List.nil_append] at read
      cases spaces with
      | zero => cases read
      | succ spaces =>
          obtain ⟨rfl, rfl⟩ := List.cons.inj read
          exact ⟨cursor, getRClevel_end (Nat.le_of_eq units) t1, [], spaces, units, fresh, by simp⟩
  | cons run rest =>
      have used : cursor.used < run.2 := fresh run rfl
      have here : run.2 - cursor.used = run.2 - (cursor.used + 1) + 1 := by omega
      rw [expand_cons, List.drop_append_of_le_length (by simpa using used.le), List.drop_replicate,
        here, List.replicate_succ, List.cons_append, List.cons_append] at read
      obtain ⟨rfl, rfl⟩ := List.cons.inj read
      refine ⟨_, getRClevel_run tells units, ?_⟩
      by_cases ends : run.2 ≤ cursor.used + 1
      · rw [if_pos ends, Nat.sub_eq_zero_of_le ends, List.replicate_zero, List.nil_append]
        refine ⟨rest, spaces, units.2.2.2.2, ?_, rfl⟩
        intro later member
        cases rest with
        | nil => cases member
        | cons next others =>
            obtain rfl := Option.some.inj member
            exact units.2.2.2.2.2.1
      · rw [if_neg ends]
        refine ⟨run :: rest, spaces, units, ?_, ?_⟩
        · intro later member
          obtain rfl := Option.some.inj member
          exact Nat.not_le.mp ends
        · change _ = (expand (run :: rest)).drop (cursor.used + 1) ++ _
          rw [expand_cons, List.drop_append_of_le_length (by simp; omega), List.drop_replicate]

/-- A mark that is ahead has been recorded. -/
theorem LevelCursor.Reads.inside (reads : cursor.Reads irparams t1 levels)
    (marked : Level.mark ∈ levels)
    : ¬irparams.rawlen ≤ cursor.offset := by
  obtain ⟨runs, spaces, units, -, rfl⟩ := reads
  rw [units.rawlen]
  cases runs with
  | nil => simp at marked
  | cons run rest =>
      rw [List.length_cons]
      omega

/-- A cursor that is in front of nothing has come to the end. -/
theorem LevelCursor.Reads.done (reads : cursor.Reads irparams t1 [])
    : irparams.rawlen ≤ cursor.offset := by
  obtain ⟨runs, spaces, units, fresh, read⟩ := reads
  cases runs with
  | nil => exact Nat.le_of_eq units
  | cons run rest =>
      have used : cursor.used < run.2 := fresh run rfl
      have ahead := congrArg List.length read
      rw [List.length_append, List.length_drop, expand_cons, List.length_append,
        List.length_replicate, List.length_nil] at ahead
      omega

end Cursors

-----------------------------------------------------------------------------------------
-- The ends of the loops
-----------------------------------------------------------------------------------------

/-- How many levels a cursor can be in front of at most. -/
def LevelCursor.left (cursor : LevelCursor) (irparams : IrParams) : Nat :=
  3 * (irparams.rawlen - cursor.offset) - cursor.used

/-- All that a call can do: it assumes a space behind the end, it finds a width that is none of
the code, it returns the last level of a run, or one that is followed by another of the same run.
-/
theorem getRClevel_cases (irparams : IrParams) (cursor : LevelCursor) (t1 : Int)
    : (irparams.rawlen ≤ cursor.offset
        ∧ getRClevel irparams cursor t1 = (some .space, cursor))
      ∨ getRClevel irparams cursor t1 = (none, cursor)
      ∨ ¬irparams.rawlen ≤ cursor.offset
        ∧ getRClevel irparams cursor t1
          = (some (entryLevel cursor.offset), ⟨cursor.offset + 1, 0⟩)
      ∨ ¬irparams.rawlen ≤ cursor.offset ∧ cursor.used < 2
        ∧ getRClevel irparams cursor t1
          = (some (entryLevel cursor.offset), { cursor with used := cursor.used + 1 }) := by
  by_cases ended : irparams.rawlen ≤ cursor.offset
  · exact .inl ⟨ended, getRClevel_end ended t1⟩
  · obtain ⟨avail, few, own⟩ : ∃ avail ≤ 3, getRClevel irparams cursor t1
        = if avail = 0 then (none, cursor)
          else if avail ≤ cursor.used + 1 then
            (some (entryLevel cursor.offset), ⟨cursor.offset + 1, 0⟩)
          else (some (entryLevel cursor.offset), { cursor with used := cursor.used + 1 }) := by
      refine ⟨_, ?_, by rw [getRClevel, if_neg ended]; rfl⟩
      split_ifs <;> decide
    rw [own]
    by_cases mismatch : avail = 0
    · exact .inr (.inl (if_pos mismatch))
    · rw [if_neg mismatch]
      by_cases last : avail ≤ cursor.used + 1
      · exact .inr (.inr (.inl ⟨ended, if_pos last⟩))
      · exact .inr (.inr (.inr ⟨ended, by omega, if_neg last⟩))

/-- A run has three levels at most, so the cursor never uses more than two of one. A level that is
read, and not only assumed behind the end, brings the end closer.
-/
theorem getRClevel_progress {irparams : IrParams} {cursor behind : LevelCursor} {t1 : Int}
    {level : Option Level} (read : getRClevel irparams cursor t1 = (level, behind))
    (within : cursor.used ≤ 2)
    : behind.used ≤ 2
      ∧ behind.left irparams ≤ cursor.left irparams
      ∧ (level ≠ none → ¬irparams.rawlen ≤ cursor.offset
        → behind.left irparams < cursor.left irparams) := by
  simp only [LevelCursor.left]
  rcases getRClevel_cases irparams cursor t1 with
    ⟨ended, own⟩ | own | ⟨inside, own⟩ | ⟨inside, more, own⟩
  · obtain ⟨rfl, rfl⟩ := Prod.mk.inj (own.symm.trans read)
    exact ⟨within, Nat.le_refl _, fun _ inside => absurd ended inside⟩
  · obtain ⟨rfl, rfl⟩ := Prod.mk.inj (own.symm.trans read)
    exact ⟨within, Nat.le_refl _, fun found => absurd rfl found⟩
  · obtain ⟨rfl, rfl⟩ := Prod.mk.inj (own.symm.trans read)
    exact ⟨Nat.zero_le _, by dsimp only; omega, fun _ _ => by dsimp only; omega⟩
  · obtain ⟨rfl, rfl⟩ := Prod.mk.inj (own.symm.trans read)
    exact ⟨by dsimp only; omega, by dsimp only; omega, fun _ _ => by dsimp only; omega⟩

/-- The loop of RC5 comes to its end before the passes run out. Witness: induction over them; each
pass reads a level.
-/
theorem rc5Bits_enough {irparams : IrParams} {fuel passes : Nat} {cursor : LevelCursor}
    (within : cursor.used ≤ 2) (enough : cursor.left irparams < fuel)
    (plenty : cursor.left irparams < passes) (nbits : Nat) (data : BitVec 32)
    : rc5Bits irparams fuel cursor nbits data = rc5Bits irparams passes cursor nbits data := by
  induction fuel generalizing passes cursor nbits data with
  | zero => cases enough
  | succ fuel ih =>
      cases passes with
      | zero => cases plenty
      | succ passes =>
          rw [rc5Bits, rc5Bits]
          by_cases ended : irparams.rawlen ≤ cursor.offset
          · rw [if_pos ended, if_pos ended]
          · rw [if_neg ended, if_neg ended]
            obtain ⟨levelA, first, readA⟩ : ∃ levelA first,
                getRClevel irparams cursor 889 = (levelA, first) := ⟨_, _, rfl⟩
            obtain ⟨levelB, second, readB⟩ : ∃ levelB second,
                getRClevel irparams first 889 = (levelB, second) := ⟨_, _, rfl⟩
            obtain ⟨withinA, _, closerA⟩ := getRClevel_progress readA within
            obtain ⟨withinB, closerB, _⟩ := getRClevel_progress readB withinA
            have again (found : levelA ≠ none) (nbits : Nat) (data : BitVec 32)
                : rc5Bits irparams fuel second nbits data
                  = rc5Bits irparams passes second nbits data := by
              have closer := closerA found ended
              exact ih withinB (by omega) (by omega) nbits data
            simp only [readA, readB]
            split
            case isTrue one => exact again (by rw [one.1]; nofun) _ _
            case isFalse =>
                split
                case isTrue nought => exact again (by rw [nought.1]; nofun) _ _
                case isFalse => rfl

theorem rc6Level_progress {irparams : IrParams} {cursor behind : LevelCursor} {wide : Bool}
    {level : Option Level} (read : rc6Level irparams cursor wide = some (level, behind))
    (within : cursor.used ≤ 2)
    : behind.used ≤ 2
      ∧ behind.left irparams ≤ cursor.left irparams
      ∧ (level ≠ none → ¬irparams.rawlen ≤ cursor.offset
        → behind.left irparams < cursor.left irparams) := by
  obtain ⟨own, first, one⟩ : ∃ own first,
      getRClevel irparams cursor 444 = (own, first) := ⟨_, _, rfl⟩
  obtain ⟨again, second, two⟩ : ∃ again second,
      getRClevel irparams first 444 = (again, second) := ⟨_, _, rfl⟩
  obtain ⟨within_one, left_one, closer_one⟩ := getRClevel_progress one within
  obtain ⟨within_two, left_two, -⟩ := getRClevel_progress two within_one
  simp only [rc6Level, one, two] at read
  cases wide with
  | false =>
      obtain ⟨rfl, rfl⟩ := Prod.mk.inj (Option.some.inj read)
      exact ⟨within_one, left_one, closer_one⟩
  | true =>
      rw [if_pos rfl] at read
      split at read
      case isTrue => cases read
      case isFalse =>
          obtain ⟨rfl, rfl⟩ := Prod.mk.inj (Option.some.inj read)
          exact ⟨within_two, left_two.trans left_one,
            fun found inside => left_two.trans_lt (closer_one found inside)⟩

/-- So does that of RC6. -/
theorem rc6Bits_enough {irparams : IrParams} {fuel passes : Nat} {cursor : LevelCursor}
    (within : cursor.used ≤ 2) (enough : cursor.left irparams < fuel)
    (plenty : cursor.left irparams < passes) (nbits : Nat) (data : BitVec 32)
    : rc6Bits irparams fuel cursor nbits data = rc6Bits irparams passes cursor nbits data := by
  induction fuel generalizing passes cursor nbits data with
  | zero => cases enough
  | succ fuel ih =>
      cases passes with
      | zero => cases plenty
      | succ passes =>
          rw [rc6Bits, rc6Bits]
          by_cases ended : irparams.rawlen ≤ cursor.offset
          · rw [if_pos ended, if_pos ended]
          · rw [if_neg ended, if_neg ended]
            cases readA : rc6Level irparams cursor (nbits = 3) with
            | none => rfl
            | some resultA =>
                obtain ⟨levelA, first⟩ := resultA
                obtain ⟨withinA, _, closerA⟩ := rc6Level_progress readA within
                dsimp only
                cases readB : rc6Level irparams first (nbits = 3) with
                | none => rfl
                | some resultB =>
                    obtain ⟨levelB, second⟩ := resultB
                    obtain ⟨withinB, closerB, _⟩ := rc6Level_progress readB withinA
                    have again (found : levelA ≠ none) (data : BitVec 32)
                        : rc6Bits irparams fuel second (nbits + 1) data
                          = rc6Bits irparams passes second (nbits + 1) data := by
                      have closer := closerA found ended
                      exact ih withinB (by omega) (by omega) _ data
                    dsimp only
                    split
                    case isTrue one => exact again (by rw [one.1]; nofun) _
                    case isFalse =>
                        split
                        case isTrue nought => exact again (by rw [nought.1]; nofun) _
                        case isFalse => rfl

-----------------------------------------------------------------------------------------
-- The loops over cells
-----------------------------------------------------------------------------------------

/-- The two halves of a bit: the first of a level and as long as a number of units, the second of
the other level and as long.
-/
def halves (cell : Level × Nat) : List (Level × Nat) := [cell, (cell.1.other, cell.2)]

/-- The levels of some cells. -/
def cellLevels (cells : List (Level × Nat)) : List Level := expand (cells.flatMap halves)

theorem cellLevels_cons (cell : Level × Nat) (cells : List (Level × Nat))
    : cellLevels (cell :: cells)
      = List.replicate cell.2 cell.1
        ++ (List.replicate cell.2 cell.1.other ++ cellLevels cells) := by
  rw [cellLevels, List.flatMap_cons, expand_append]
  simp [halves, cellLevels]

/-- One of the halves is a mark. -/
theorem cellLevels_marked (cell : Level × Nat) (positive : 0 < cell.2)
    (cells : List (Level × Nat))
    : Level.mark ∈ cellLevels (cell :: cells) := by
  rw [cellLevels_cons]
  obtain ⟨level, units⟩ := cell
  have some_units : units ≠ 0 := positive.ne'
  cases level with
  | mark => simp [some_units]
  | space => simp [some_units, Level.other]

/-- The cells of RC5. -/
def rc5Cells (bits : List Bool) : List (Level × Nat) :=
  bits.map (fun bit => (if bit then .space else .mark, 1))

theorem rc5Cells_cons (bit : Bool) (rest : List Bool)
    : rc5Cells (bit :: rest) = (if bit then .space else .mark, 1) :: rc5Cells rest := rfl

/-- The loop of RC5 reads the bits that are ahead. -/
theorem rc5Bits_reads {irparams : IrParams} {cursor : LevelCursor} {bits : List Bool}
    {fuel : Nat} (reads : cursor.Reads irparams 889 (cellLevels (rc5Cells bits)))
    (enough : bits.length < fuel) (nbits : Nat) (data : BitVec 32)
    : rc5Bits irparams fuel cursor nbits data
      = some (nbits + bits.length, shiftIn data bits) := by
  induction bits generalizing cursor fuel nbits data with
  | nil =>
      cases fuel with
      | zero => cases enough
      | succ fuel =>
          rw [rc5Bits, if_pos reads.done]
          rfl
  | cons bit rest ih =>
      cases fuel with
      | zero => cases enough
      | succ fuel =>
          have inside := reads.inside (cellLevels_marked _ Nat.one_pos _)
          rw [rc5Cells_cons, cellLevels_cons] at reads
          obtain ⟨first, readA, ahead⟩ := reads.next tellsUnits_rc5
          obtain ⟨second, readB, later⟩ := ahead.next tellsUnits_rc5
          have counted : nbits + 1 + rest.length = nbits + (rest.length + 1) := by ring
          have goes_on (data : BitVec 32) :=
            ih later (Nat.lt_of_succ_lt_succ enough) (nbits + 1) data
          rw [rc5Bits, if_neg inside, List.length_cons, ← counted]
          simp only [Nat.cast_ofNat] at readA readB
          simp only [readA, readB]
          cases bit with
          | true => exact goes_on _
          | false => exact goes_on _

/-- The cells of RC6; the one at index three is twice as wide. -/
def rc6Cells (index : Nat) (bits : List Bool) : List (Level × Nat) :=
  (bits.zipIdx index).map
    (fun (bit, i) => (if bit then .mark else .space, if i = 3 then 2 else 1))

theorem rc6Cells_cons (index : Nat) (bit : Bool) (rest : List Bool)
    : rc6Cells index (bit :: rest)
      = (if bit then .mark else .space, if index = 3 then 2 else 1)
        :: rc6Cells (index + 1) rest := by
  rw [rc6Cells, List.zipIdx_cons, List.map_cons]
  rfl

theorem rc6Level_reads {irparams : IrParams} {cursor : LevelCursor} {index : Nat} {level : Level}
    {levels : List Level}
    (reads
      : cursor.Reads irparams 444 (List.replicate (if index = 3 then 2 else 1) level ++ levels))
    : ∃ behind : LevelCursor,
        rc6Level irparams cursor (index = 3) = some (some level, behind)
        ∧ behind.Reads irparams 444 levels := by
  by_cases wide : index = 3
  · rw [if_pos wide] at reads
    obtain ⟨first, one, ahead⟩ := reads.next tellsUnits_rc6
    obtain ⟨second, two, later⟩ := ahead.next tellsUnits_rc6
    simp only [Nat.cast_ofNat] at one two
    exact ⟨second, by simp [rc6Level, wide, one, two], later⟩
  · rw [if_neg wide] at reads
    obtain ⟨first, one, later⟩ := reads.next tellsUnits_rc6
    simp only [Nat.cast_ofNat] at one
    exact ⟨first, by simp [rc6Level, wide, one], later⟩

/-- The loop of RC6 reads the bits that are ahead. -/
theorem rc6Bits_reads {irparams : IrParams} {cursor : LevelCursor} {bits : List Bool}
    {fuel nbits : Nat} (reads : cursor.Reads irparams 444 (cellLevels (rc6Cells nbits bits)))
    (enough : bits.length < fuel) (data : BitVec 32)
    : rc6Bits irparams fuel cursor nbits data
      = some (nbits + bits.length, shiftIn data bits) := by
  induction bits generalizing cursor fuel nbits data with
  | nil =>
      cases fuel with
      | zero => cases enough
      | succ fuel =>
          rw [rc6Bits, if_pos reads.done]
          rfl
  | cons bit rest ih =>
      cases fuel with
      | zero => cases enough
      | succ fuel =>
          rw [rc6Cells_cons] at reads
          have inside := reads.inside (cellLevels_marked _ (by dsimp only; split <;> decide) _)
          rw [cellLevels_cons] at reads
          obtain ⟨first, readA, ahead⟩ := rc6Level_reads reads
          obtain ⟨second, readB, later⟩ := rc6Level_reads ahead
          have counted : nbits + 1 + rest.length = nbits + (rest.length + 1) := by ring
          have goes_on (data : BitVec 32) := ih later (Nat.lt_of_succ_lt_succ enough) data
          rw [rc6Bits, if_neg inside, List.length_cons, ← counted]
          simp only [readA, readB]
          cases bit with
          | true => exact goes_on _
          | false => exact goes_on _

-----------------------------------------------------------------------------------------
-- Cells in runs
-----------------------------------------------------------------------------------------

/-- No two neighbours are longer than three units together. -/
def Fits (cells : List (Level × Nat)) : Prop :=
  (∀ cell ∈ cells, 1 ≤ cell.2 ∧ cell.2 ≤ 2)
  ∧ cells.IsChain (fun cell next => cell.2 + next.2 ≤ 3)

/-- The runs of cells that fit: the first half of the first cell, and then runs of three units at
most, of which each cell ends one.
-/
theorem merge_cells {cells : List (Level × Nat)} (fits : Fits cells)
    : (∀ run ∈ merge (cells.flatMap halves ++ [(.space, 0)]), run.2 ≤ 3)
      ∧ (∀ cell ∈ cells.head?,
          (merge (cells.flatMap halves ++ [(.space, 0)])).head? = some cell)
      ∧ cells.length < (merge (cells.flatMap halves ++ [(.space, 0)])).length := by
  induction cells with
  | nil => exact ⟨by simp, nofun, Nat.one_pos⟩
  | cons cell rest ih =>
      obtain ⟨widths, chain⟩ := fits
      obtain ⟨short, starts, counted⟩ := ih
        ⟨fun other member => widths other (List.mem_cons_of_mem _ member), chain.of_cons⟩
      have own := widths cell List.mem_cons_self
      obtain ⟨next, later, tail, room⟩ : ∃ next later,
          merge (rest.flatMap halves ++ [(.space, 0)]) = next :: later
          ∧ cell.2 + next.2 ≤ 3 := by
        cases rest with
        | nil => exact ⟨(.space, 0), [], rfl, by dsimp only; omega⟩
        | cons neighbour others =>
            have head := starts neighbour rfl
            obtain ⟨later, tail⟩ := List.head?_eq_some_iff.mp head
            exact ⟨neighbour, later, tail, (List.isChain_cons_cons.mp chain).1⟩
      have unlike : cell.1 ≠ cell.1.other := by
        cases cell.1 with
        | mark => nofun
        | space => nofun
      have runs : merge ((cell :: rest).flatMap halves ++ [(.space, 0)])
          = pushRun cell (pushRun (cell.1.other, cell.2) (next :: later)) := by
        rw [← tail]
        rfl
      rw [tail, List.length_cons] at counted
      rw [tail] at short
      by_cases same : cell.1.other = next.1
      · have joined : merge ((cell :: rest).flatMap halves ++ [(.space, 0)])
            = cell :: (cell.1.other, cell.2 + next.2) :: later := by
          rw [runs, @pushRun_same _ _ (cell.1.other, cell.2) next same, pushRun_other unlike]
        rw [joined]
        refine ⟨?_, fun other member => member, by simpa using counted⟩
        simp only [List.forall_mem_cons] at short ⊢
        exact ⟨by omega, room, short.2⟩
      · have apart : merge ((cell :: rest).flatMap halves ++ [(.space, 0)])
            = cell :: (cell.1.other, cell.2) :: next :: later := by
          rw [runs, @pushRun_other _ _ (cell.1.other, cell.2) next same, pushRun_other unlike]
        rw [apart]
        refine ⟨?_, fun other member => member, by simp only [List.length_cons]; omega⟩
        simp only [List.forall_mem_cons] at short ⊢
        exact ⟨by omega, by omega, short⟩

/-- The runs of cells that fit, up to the space that goes on with the gap: they start with the
first half of the first cell, and have one to three units each.
-/
theorem cells_runs {cell : Level × Nat} {cells : List (Level × Nat)} (fits : Fits (cell :: cells))
    : ∃ before spaces,
        merge ((cell :: cells).flatMap halves ++ [(.space, 0)]) = before ++ [(.space, spaces)]
        ∧ before.head? = some cell
        ∧ (∀ run ∈ before, 1 ≤ run.2 ∧ run.2 ≤ 3)
        ∧ cellLevels (cell :: cells) = expand before ++ List.replicate spaces .space := by
  obtain ⟨short, starts, -⟩ := merge_cells fits
  have positive : ∀ run ∈ (cell :: cells).flatMap halves, 0 < run.2 := by
    intro run member
    obtain ⟨own, among, half⟩ := List.mem_flatMap.mp member
    have width := fits.1 own among
    simp only [halves, List.mem_cons, List.not_mem_nil, or_false] at half
    rcases half with rfl | rfl
    · exact width.1
    · exact width.1
  obtain ⟨before, spaces, merged, longer⟩ := merge_last (Level.space, 0) positive
  have levels : cellLevels (cell :: cells) = expand before ++ List.replicate spaces .space := by
    have symbols := expand_merge ((cell :: cells).flatMap halves ++ [(Level.space, 0)])
    rw [merged, expand_append, expand_append] at symbols
    simpa [cellLevels] using symbols.symm
  rw [merged] at short starts
  refine ⟨before, spaces, merged, ?_, ?_, levels⟩
  · cases before with
    | nil =>
        have marked := cellLevels_marked cell (fits.1 cell List.mem_cons_self).1 cells
        rw [levels] at marked
        simp at marked
    | cons first others => exact starts cell rfl
  · exact fun run member => ⟨longer run member, short run (List.mem_append_left _ member)⟩

/-- Runs of which none continues the one before it alternate, as the levels of the entries do. -/
theorem units_of_holds {irparams : IrParams} {t1 offset : Nat} {runs : List (Level × Nat)}
    (holds : Holds irparams.rawbuf offset (runs.map (scaled t1)))
    (rawlen : irparams.rawlen = offset + runs.length) (separate : Separate runs)
    (starts : ∀ run ∈ runs.head?, run.1 = entryLevel offset)
    (widths : ∀ run ∈ runs, 1 ≤ run.2 ∧ run.2 ≤ 3)
    : irparams.Units t1 offset runs := by
  induction runs generalizing offset with
  | nil => exact rawlen
  | cons run rest ih =>
      obtain ⟨measured, later⟩ := holds
      obtain ⟨own, others⟩ := List.forall_mem_cons.mp widths
      have level : run.1 = entryLevel offset := starts run rfl
      refine ⟨level, own.1, own.2, measured, ih later ?_ separate.of_cons ?_ others⟩
      · rw [rawlen, List.length_cons]
        ring
      · intro next member
        obtain ⟨rest, rfl⟩ := List.head?_eq_some_iff.mp member
        have unlike : run.1 ≠ next.1 := (List.isChain_cons_cons.mp separate).1
        rw [entryLevel_succ, ← level]
        revert unlike
        cases run.1 <;> cases next.1 <;> decide

/-- A cursor at the first entry of some cells is in front of their levels. -/
theorem reads_cells {irparams : IrParams} {t1 offset : Nat} {cell : Level × Nat}
    {cells : List (Level × Nat)} (fits : Fits (cell :: cells))
    (level : cell.1 = entryLevel offset)
    (holds
      : Holds irparams.rawbuf offset
          ((merge ((cell :: cells).flatMap halves ++ [(.space, 0)])).dropLast.map (scaled t1)))
    (rawlen
      : irparams.rawlen
        = offset + (merge ((cell :: cells).flatMap halves ++ [(.space, 0)])).dropLast.length)
    : LevelCursor.Reads ⟨offset, 0⟩ irparams t1 (cellLevels (cell :: cells)) := by
  obtain ⟨before, spaces, merged, head, widths, levels⟩ := cells_runs fits
  have separate := separate_merge ((cell :: cells).flatMap halves ++ [(Level.space, 0)])
  rw [merged] at holds rawlen separate
  rw [List.dropLast_concat] at holds rawlen
  have starts : ∀ run ∈ before.head?, run.1 = entryLevel offset := by
    intro run member
    obtain rfl := Option.some.inj (head.symm.trans member)
    exact level
  have units := units_of_holds holds rawlen separate.left_of_append starts widths
  exact ⟨before, spaces, units, fun run member => (widths run (List.mem_of_mem_head? member)).1,
    levels⟩

/-- One more run in front. -/
theorem LevelCursor.Reads.cons {irparams : IrParams} {t1 offset : Nat} {levels : List Level}
    (reads : LevelCursor.Reads ⟨offset + 1, 0⟩ irparams t1 levels)
    (measured : Measured (irparams.rawbuf offset) (scaled t1 (entryLevel offset, 1)))
    : LevelCursor.Reads ⟨offset, 0⟩ irparams t1 (entryLevel offset :: levels) := by
  obtain ⟨runs, spaces, units, -, rfl⟩ := reads
  refine ⟨(entryLevel offset, 1) :: runs, spaces,
    ⟨rfl, Nat.le_refl 1, (by decide : 1 ≤ 3), measured, units⟩, ?_, rfl⟩
  intro run member
  obtain rfl := Option.some.inj member
  exact Nat.one_pos

-----------------------------------------------------------------------------------------
-- The codes
-----------------------------------------------------------------------------------------

theorem fits_rc5 (bits : List Bool) : Fits ((.space, 1) :: rc5Cells bits) := by
  have ones : ∀ cell ∈ (Level.space, 1) :: rc5Cells bits, cell.2 = 1 := by
    intro cell member
    rcases List.mem_cons.mp member with rfl | among
    · rfl
    · obtain ⟨bit, -, rfl⟩ := List.mem_map.mp among
      rfl
  refine ⟨fun cell member => by rw [ones cell member]; decide, ?_⟩
  refine List.Pairwise.isChain (List.pairwise_of_forall_mem_list ?_)
  intro cell member next among
  rw [ones cell member, ones next among]
  decide

/-- A code of RC5 in units of time. -/
theorem sendRC5_units (data : BitVec 32) (nbits : Nat)
    : sendRC5 data nbits
      = ((.mark, 1)
          :: (((.space, 1) :: rc5Cells (topBits (data <<< (32 - nbits)) nbits)).flatMap halves
            ++ [(.space, 0)])).map (scaled 889) := by
  have cells (bits : List Bool)
      : bits.flatMap
          (fun bit => if bit then [space 889, mark 889] else [mark 889, space 889])
        = ((rc5Cells bits).flatMap halves).map (scaled 889) := by
    induction bits with
    | nil => rfl
    | cons bit rest ih =>
        rw [List.flatMap_cons, ih, rc5Cells_cons, List.flatMap_cons, List.map_append]
        cases bit with
        | true => rfl
        | false => rfl
  simp only [sendRC5, cells]
  rw [List.map_cons, List.map_append, List.flatMap_cons, List.map_append]
  rfl

/-- The runs of a code of RC5: a first mark on its own, since the next cell starts with a space,
and the runs of the cells.
-/
theorem rc5_runs (data : BitVec 32) (nbits : Nat)
    : (merge (sendRC5 data nbits)).dropLast
      = mark 889
        :: (merge (((Level.space, 1) :: rc5Cells (topBits (data <<< (32 - nbits)) nbits)).flatMap
            halves ++ [(Level.space, 0)])).dropLast.map (scaled 889) := by
  obtain ⟨-, starts, -⟩ := merge_cells (fits_rc5 (topBits (data <<< (32 - nbits)) nbits))
  obtain ⟨later, own⟩ := List.head?_eq_some_iff.mp (starts _ rfl)
  rw [sendRC5_units, merge_scaled, merge_cons, own, pushRun_other (nofun : Level.mark ≠ .space),
    ← List.map_dropLast, List.dropLast_cons_of_ne_nil (List.cons_ne_nil _ _)]
  rfl

/-- A code of RC5 is decoded. -/
theorem decodes_rc5 {irparams : IrParams} {data : BitVec 32} {nbits : Nat} (enough : 10 ≤ nbits)
    (within : nbits ≤ 32) (recorded : irparams.Recorded (sendRC5 data nbits))
    (results : DecodeResults)
    : tryDecoders irparams results decoders
      = .ok
          { results with
            bits := nbits
            value := BitVec.ofNat 32 (data.toNat % 2 ^ nbits)
            decodeType := .rc5 } := by
  have fits := fits_rc5 (topBits (data <<< (32 - nbits)) nbits)
  obtain ⟨-, -, many⟩ := merge_cells fits
  have holds := recorded.holds
  have counted := recorded.rawlen
  rw [rc5_runs, List.length_cons, List.length_map] at counted
  rw [rc5_runs] at holds
  obtain ⟨header, inner⟩ := holds
  have cells := (reads_cells fits rfl inner (by rw [counted]; ring)).cons header
  rw [cellLevels_cons] at cells
  obtain ⟨first, readA, behindA⟩ := cells.next tellsUnits_rc5
  obtain ⟨second, readB, behindB⟩ := behindA.next tellsUnits_rc5
  obtain ⟨third, readC, bits⟩ := behindB.next tellsUnits_rc5
  obtain ⟨usedA, -⟩ := getRClevel_progress readA (by decide)
  obtain ⟨usedB, -⟩ := getRClevel_progress readB usedA
  obtain ⟨usedC, -⟩ := getRClevel_progress readC usedB
  have loop : rc5Bits irparams (levelFuel irparams) third 0 0#32
      = some (nbits, BitVec.ofNat 32 (data.toNat % 2 ^ nbits)) := by
    have passes := rc5Bits_reads bits
      (Nat.lt_succ_of_le (Nat.le_add_right _ (levelFuel irparams))) 0 0#32
    rw [topBits_length, Nat.zero_add, shiftIn_aligned data within] at passes
    rw [← passes]
    refine rc5Bits_enough usedC ?_ ?_ 0 0#32
    · simp only [LevelCursor.left, levelFuel]
      omega
    · simp only [LevelCursor.left, levelFuel]
      omega
  have long : ¬irparams.rawlen < 11 + 2 := by
    rw [counted, List.length_dropLast]
    rw [List.length_cons, rc5Cells, List.length_map, topBits_length] at many
    rw [rc5Cells]
    omega
  have nec := rejects_nec results
    (mismatch_mark header (.inl (by decide)) (by decide) : matchMark _ 9000 = false)
  have sony := rejects_sony results (Nat.le_trans (by decide) recorded.gap)
    (mismatch_mark header (.inl (by decide)) (by decide) : matchMark _ 2400 = false)
  have sanyo := rejects_sanyo results recorded.gap
    (.inl (mismatch_mark header (.inl (by decide)) (by decide)))
  have mitsubishi := rejects_mitsubishi results
    (mismatch_mark header (.inr (by decide)) (by decide) : matchMark _ 350 = false)
  rw [decoders, tryDecoders_error nec, tryDecoders_error sony, tryDecoders_error sanyo,
    tryDecoders_error mitsubishi]
  refine tryDecoders_ok ?_
  simp only [Nat.cast_ofNat] at readA readB readC
  simp only [decodeRC5, if_neg long, readA, readB, readC, loop]
  rfl

theorem chain_rc6 (bits : List Bool) (index : Nat) (level : Level)
    : ((level, if index = 3 then 2 else 1) :: rc6Cells (index + 1) bits).IsChain
        (fun cell next => cell.2 + next.2 ≤ 3) := by
  induction bits generalizing index level with
  | nil => exact List.IsChain.singleton _
  | cons bit rest ih =>
      rw [rc6Cells_cons]
      refine List.isChain_cons_cons.mpr ⟨?_, ih (index + 1) _⟩
      dsimp only
      split_ifs <;> omega

theorem fits_rc6 (bits : List Bool) : Fits ((.mark, 1) :: rc6Cells 0 bits) := by
  have chain : ((Level.mark, 1) :: rc6Cells 0 bits).IsChain
      (fun cell next => cell.2 + next.2 ≤ 3) := by
    cases bits with
    | nil => exact List.IsChain.singleton _
    | cons bit rest =>
        rw [rc6Cells_cons]
        exact List.isChain_cons_cons.mpr ⟨(by decide : 1 + 1 ≤ 3), chain_rc6 rest 0 _⟩
  refine ⟨?_, chain⟩
  intro cell member
  rcases List.mem_cons.mp member with rfl | among
  · decide
  · obtain ⟨own, -, rfl⟩ := List.mem_map.mp among
    dsimp only
    split <;> decide

/-- A code of RC6 behind its header, in units of time. -/
theorem sendRC6_units (data : BitVec 32) (nbits : Nat)
    : sendRC6 data nbits
      = mark 2666 :: space 889
        :: (((Level.mark, 1) :: rc6Cells 0 (topBits (data <<< (32 - nbits)) nbits)).flatMap halves
            ++ [(Level.space, 0)]).map (scaled 444) := by
  have cells (index : Nat) (bits : List Bool)
      : (bits.zipIdx index).flatMap (fun (bit, i) =>
          let t := if i = 3 then 2 * 444 else 444
          if bit then [mark t, space t] else [space t, mark t])
        = ((rc6Cells index bits).flatMap halves).map (scaled 444) := by
    induction bits generalizing index with
    | nil => rfl
    | cons bit rest ih =>
        rw [List.zipIdx_cons, List.flatMap_cons, ih, rc6Cells_cons, List.flatMap_cons,
          List.map_append]
        by_cases wide : index = 3
        · subst wide
          cases bit with
          | true => rfl
          | false => rfl
        · simp only [if_neg wide]
          cases bit with
          | true => rfl
          | false => rfl
  simp only [sendRC6, cells]
  rw [List.map_append, List.flatMap_cons, List.map_append]
  rfl

/-- The runs of a code of RC6: its header, and the runs of the cells. -/
theorem rc6_runs (data : BitVec 32) (nbits : Nat)
    : (merge (sendRC6 data nbits)).dropLast
      = mark 2666 :: space 889
        :: (merge (((Level.mark, 1) :: rc6Cells 0 (topBits (data <<< (32 - nbits)) nbits)).flatMap
            halves ++ [(Level.space, 0)])).dropLast.map (scaled 444) := by
  obtain ⟨-, starts, -⟩ := merge_cells (fits_rc6 (topBits (data <<< (32 - nbits)) nbits))
  obtain ⟨later, own⟩ := List.head?_eq_some_iff.mp (starts _ rfl)
  rw [sendRC6_units, merge_cons, merge_cons, merge_scaled, own, List.map_cons,
    pushRun_other (nofun : Level.space ≠ .mark), pushRun_other (nofun : Level.mark ≠ .space),
    List.map_dropLast, List.dropLast_cons_of_ne_nil (List.cons_ne_nil _ _),
    List.dropLast_cons_of_ne_nil (List.cons_ne_nil _ _), List.map_cons]

/-- A first mark of three levels is no start of RC5. -/
theorem rejects_rc5_wide {irparams : IrParams} (results : DecodeResults)
    (recorded : 2 ≤ irparams.rawlen) (one : matchTicks (irparams.rawbuf 1) 989 = false)
    (two : matchTicks (irparams.rawbuf 1) 1878 = false)
    : decodeRC5 irparams results = .error results := by
  have inside : ¬irparams.rawlen ≤ 1 := by omega
  cases three : matchTicks (irparams.rawbuf 1) 2767 with
  | false => exact rejects_rc5_width results one two three
  | true =>
      have first : getRClevel irparams ⟨1, 0⟩ 889 = (some .mark, ⟨1, 1⟩) := by
        simp [getRClevel, inside, markExcess, one, two, three]
      have second : getRClevel irparams ⟨1, 1⟩ 889 = (some .mark, ⟨1, 2⟩) := by
        simp [getRClevel, inside, markExcess, one, two, three]
      simp [decodeRC5, first, second]

/-- The header of RC6 may be taken for that of Sony, but no bits follow. -/
theorem rejects_sony_bits {irparams : IrParams} (results : DecodeResults)
    (gap : 500 ≤ (irparams.rawbuf 0).toNat)
    (unlike : matchSpace (irparams.rawbuf 2) 600 = false)
    : decodeSony irparams results = .error results
      ∨ decodeSony irparams results = .error { results with bits := 0 } := by
  simp only [decodeSony, if_neg (Nat.not_lt.mpr gap)]
  split
  case isTrue => exact .inl rfl
  case isFalse =>
      split
      case isTrue => exact .inl rfl
      case isFalse =>
          refine .inr ?_
          cases pairsLeft irparams.rawlen 2 with
          | zero => rfl
          | succ count =>
              rw [widthBits, unlike]
              rfl

/-- A code of RC6 is decoded. -/
theorem decodes_rc6 {irparams : IrParams} {data : BitVec 32} {nbits : Nat}
    (within : nbits ≤ 32) (recorded : irparams.Recorded (sendRC6 data nbits))
    (results : DecodeResults)
    : tryDecoders irparams results decoders
      = .ok
          { results with
            bits := nbits
            value := BitVec.ofNat 32 (data.toNat % 2 ^ nbits)
            decodeType := .rc6 } := by
  have fits := fits_rc6 (topBits (data <<< (32 - nbits)) nbits)
  have holds := recorded.holds
  have counted := recorded.rawlen
  rw [rc6_runs, List.length_cons, List.length_cons, List.length_map] at counted
  rw [rc6_runs] at holds
  obtain ⟨header, gap, inner⟩ := holds
  have cells := reads_cells fits rfl inner (by rw [counted]; ring)
  rw [cellLevels_cons] at cells
  obtain ⟨first, readA, behindA⟩ := cells.next tellsUnits_rc6
  obtain ⟨second, readB, bits⟩ := behindA.next tellsUnits_rc6
  obtain ⟨usedA, -⟩ := getRClevel_progress readA (by decide)
  obtain ⟨usedB, -⟩ := getRClevel_progress readB usedA
  have loop : rc6Bits irparams (levelFuel irparams) second 0 0#32
      = some (nbits, BitVec.ofNat 32 (data.toNat % 2 ^ nbits)) := by
    have passes := rc6Bits_reads bits
      (Nat.lt_succ_of_le (Nat.le_add_right _ (levelFuel irparams))) 0#32
    rw [topBits_length, Nat.zero_add, shiftIn_aligned data within] at passes
    rw [← passes]
    refine rc6Bits_enough usedB ?_ ?_ 0 0#32
    · simp only [LevelCursor.left, levelFuel]
      omega
    · simp only [LevelCursor.left, levelFuel]
      omega
  have own : matchMark (irparams.rawbuf 1) 2666 = true :=
    match_mark header (by decide) (by decide) (by decide)
  have second_own : matchSpace (irparams.rawbuf 2) 889 = true :=
    match_space gap (by decide) (by decide) (by decide)
  have recorded_some : ¬irparams.rawlen < 1 := by omega
  have nec := rejects_nec results
    (mismatch_mark header (.inl (by decide)) (by decide) : matchMark _ 9000 = false)
  have accepts (left : DecodeResults)
      : tryDecoders irparams left [decodeSanyo, decodeMitsubishi, decodeRC5, decodeRC6,
          decodePanasonic, decodeJVC, decodeHash]
        = .ok
          { left with
            bits := nbits
            value := BitVec.ofNat 32 (data.toNat % 2 ^ nbits)
            decodeType := .rc6 } := by
    have sanyo := rejects_sanyo left recorded.gap
      (.inr (mismatch_space gap (.inl (by decide)) (by decide)))
    have mitsubishi := rejects_mitsubishi left
      (mismatch_mark header (.inr (by decide)) (by decide) : matchMark _ 350 = false)
    have rc5 := rejects_rc5_wide left (by omega)
      (mismatch_mark header (.inr (by decide)) (by decide))
      (mismatch_mark header (.inr (by decide)) (by decide))
    rw [tryDecoders_error sanyo, tryDecoders_error mitsubishi, tryDecoders_error rc5]
    refine tryDecoders_ok ?_
    simp only [Nat.cast_ofNat] at readA readB
    simp only [decodeRC6, if_neg recorded_some, own, second_own, readA, readB, loop]
    rfl
  rw [decoders, tryDecoders_error nec]
  rcases rejects_sony_bits results (Nat.le_trans (by decide) recorded.gap)
    (mismatch_space gap (.inr (by decide)) (by decide)) with rejected | rejected
  · rw [tryDecoders_error rejected, accepts results]
  · rw [tryDecoders_error rejected, accepts { results with bits := 0 }]

end Cooboc.Infrared
