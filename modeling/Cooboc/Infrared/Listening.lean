import Cooboc.Infrared.Recordings

/-! A code on the line, from a quiet line to the next one: the passes find it once, whenever they
come.
-/

namespace Cooboc.Infrared

open Cooboc.Foundations

/-- The receiver has nothing to take. -/
def Measurement.Busy (measurement : Measurement) : Prop :=
  measurement.take = (measurement, none)

/-- As long as there is nothing to take, the passes do not matter. -/
theorem listens_busy {listening : Listening} {events : List Event}
    (busy : measurements.Throughout Measurement.Busy listening.measurement (samples events))
    : (listener.run listening events).measurement
        = measurements.run listening.measurement (samples events)
      ∧ (listener.outputs listening events).reduceOption = [] := by
  induction events generalizing listening with
  | nil => exact ⟨rfl, rfl⟩
  | cons event rest ih =>
      obtain ⟨measurement, resuming⟩ := listening
      cases event with
      | tick irdata =>
          exact @ih ⟨measurement.sample irdata, resuming⟩ (measurements.throughout_cons.mp busy).2
      | loop =>
          cases resuming with
          | true => exact @ih ⟨measurement, false⟩ busy
          | false =>
              have nothing : measurement.take = (measurement, none) := busy [] List.nil_prefix
              have taken : listener.step ⟨measurement, false⟩ .loop
                  = (⟨measurement, false⟩, none) := by
                simp [listener, nothing]
              rw [Machine.run_cons, Machine.outputs_cons, taken,
                List.reduceOption_cons_of_none]
              exact @ih ⟨measurement, false⟩ busy

-----------------------------------------------------------------------------------------
-- The code
-----------------------------------------------------------------------------------------

/-- The rest of a run is counted. -/
theorem counts_run {gap : AvrUnsigned} {widths : List Nat} {level : Level} {count more : Nat}
    (room : widths.length + 1 < rawbufLength) (short : level = .space → count + more ≤ gapTicks)
    : measurements.run (.measuring gap widths level count) (List.replicate more level)
        = .measuring gap widths level (count + more)
      ∧ measurements.Throughout Measurement.Busy (.measuring gap widths level count)
          (List.replicate more level) := by
  induction more generalizing count with
  | zero => exact ⟨rfl, measurements.throughout_nil.mpr rfl⟩
  | succ more ih =>
      have step : (Measurement.measuring gap widths level count).sample level
          = .measuring gap widths level (count + 1) := by
        have ungapped : ¬(level = .space ∧ gapTicks < count + 1) := by
          rintro ⟨space, long⟩
          have bound := short space
          omega
        simp only [Measurement.sample]
        rw [if_neg room.ne, if_neg (not_not.mpr rfl), if_neg ungapped]
      have next : (measurements.step (.measuring gap widths level count) level).1
          = .measuring gap widths level (count + 1) := step
      obtain ⟨reached, busy⟩ := @ih (count + 1) (fun space => by have bound := short space; omega)
      rw [List.replicate_succ, Machine.run_cons, Machine.throughout_cons, next, reached]
      exact ⟨by rw [Nat.add_assoc, Nat.add_comm 1], rfl, busy⟩

/-- Widths of a code: no run is empty, and no space so long as a gap. -/
def Audible (level : Level) (widths : List Nat) : Prop :=
  ∀ run ∈ alternate level widths, 0 < run.2 ∧ (run.1 = .space → run.2 ≤ gapTicks)

/-- The first sample of a run ends the run before it. -/
theorem ends_run {gap : AvrUnsigned} {widths : List Nat} {level irdata : Level} {count : Nat}
    (room : widths.length + 1 < rawbufLength) (other : irdata ≠ level)
    : (Measurement.measuring gap widths level count).sample irdata
      = .measuring gap (widths ++ [count + 1]) irdata 0 := by
  simp only [Measurement.sample]
  rw [if_neg room.ne, if_pos other]

/-- The runs behind the one that is measured, up to the first space of the gap. Witness: induction
over them; the first sample of a run ends the run before it.
-/
theorem measures_code {gap : AvrUnsigned} {widths rest : List Nat} {level : Level}
    {count more : Nat} (audible : Audible level.other rest)
    (short : level = .space → count + more ≤ gapTicks)
    (room : widths.length + rest.length + 2 ≤ rawbufLength)
    (ends : Level.space = if rest.length % 2 = 0 then level.other else level)
    : measurements.run (.measuring gap widths level count)
          (List.replicate more level ++ expand (alternate level.other rest) ++ [.space])
        = .measuring gap (widths ++ (count + more + 1) :: rest) .space 0
      ∧ measurements.Throughout Measurement.Busy (.measuring gap widths level count)
          (List.replicate more level ++ expand (alternate level.other rest) ++ [.space]) := by
  induction rest generalizing widths level count more with
  | nil =>
      have other : Level.space ≠ level := by
        intro same
        rw [same] at ends
        cases level <;> cases ends
      have within : widths.length + 1 < rawbufLength := by
        rw [List.length_nil] at room
        omega
      obtain ⟨reached, busy⟩ := @counts_run gap widths level count more within short
      rw [alternate, expand_nil, List.append_nil, Machine.run_append, reached]
      refine ⟨ends_run within other, measurements.throughout_append busy ?_⟩
      rw [reached]
      refine measurements.throughout_cons.mpr ⟨rfl, measurements.throughout_nil.mpr ?_⟩
      exact (congrArg Measurement.Busy (ends_run within other)).mpr rfl
  | cons width rest ih =>
      obtain ⟨⟨positive, small⟩, others⟩ := List.forall_mem_cons.mp audible
      obtain ⟨further, rfl⟩ := Nat.exists_eq_succ_of_ne_zero positive.ne'
      rw [List.length_cons] at room ends
      have other : level.other ≠ level := by cases level <;> decide
      have within : widths.length + 1 < rawbufLength := by omega
      have longer : (widths ++ [count + more + 1]).length = widths.length + 1 :=
        List.length_append
      obtain ⟨reached, busy⟩ := @counts_run gap widths level count more within short
      obtain ⟨finished, later⟩ := @ih (widths ++ [count + more + 1]) level.other 0 further others
        (fun space => by have bound := small space; dsimp only at bound; omega) (by omega) (by
          rw [ends]
          cases level <;> split_ifs <;> first | rfl | omega)
      have whole : List.replicate more level
            ++ expand (alternate level.other (further.succ :: rest)) ++ [.space]
          = List.replicate more level
            ++ level.other :: (List.replicate further level.other
              ++ expand (alternate level.other.other rest) ++ [.space]) := by
        rw [alternate, expand_cons, List.replicate_succ]
        simp
      have next : (measurements.step (.measuring gap widths level (count + more)) level.other).1
          = .measuring gap (widths ++ [count + more + 1]) level.other 0 :=
        ends_run within other
      rw [whole, Machine.run_append, reached, Machine.run_cons, next, finished]
      refine ⟨by simp, measurements.throughout_append busy ?_⟩
      rw [reached]
      refine measurements.throughout_cons.mpr ⟨rfl, ?_⟩
      rw [next]
      exact later

/-- A code behind a gap, up to the first space of the next gap. -/
theorem measures_widths {timer : AvrUnsigned} {widths : List Nat}
    (gap : gapTicks ≤ (timer + 1).toNat) (audible : Audible .mark widths)
    (room : widths.length + 1 ≤ rawbufLength) (odd : widths.length % 2 = 1)
    : measurements.run (.waiting timer) (codeSamples widths ++ [.space])
        = .measuring (timer + 1) widths .space 0
      ∧ measurements.Throughout Measurement.Busy (.waiting timer)
          (codeSamples widths ++ [.space]) := by
  cases widths with
  | nil => cases odd
  | cons width rest =>
      rw [List.length_cons] at room odd
      obtain ⟨⟨positive, -⟩, others⟩ := List.forall_mem_cons.mp audible
      obtain ⟨further, rfl⟩ := Nat.exists_eq_succ_of_ne_zero positive.ne'
      have even : rest.length % 2 = 0 := by omega
      have whole : codeSamples (further.succ :: rest) ++ [.space]
          = Level.mark
            :: (List.replicate further Level.mark ++ expand (alternate Level.mark.other rest)
              ++ [.space]) := by
        rw [codeSamples, alternate, expand_cons, List.replicate_succ]
        simp
      have start : (measurements.step (.waiting timer) .mark).1
          = .measuring (timer + 1) [] .mark 0 :=
        if_neg (Nat.not_lt.mpr gap)
      obtain ⟨finished, busy⟩ := @measures_code (timer + 1) [] rest .mark 0 further others
        (fun space => absurd space (by decide)) (by rw [List.length_nil]; omega)
        (if_pos even).symm
      rw [whole, Machine.run_cons, start, finished]
      refine ⟨by simp, measurements.throughout_cons.mpr ⟨rfl, ?_⟩⟩
      rw [start]
      exact busy

-----------------------------------------------------------------------------------------
-- The gap
-----------------------------------------------------------------------------------------

/-- The receiver sees the gap behind a code that no pass has found yet. -/
def Measurement.Pending (gap : AvrUnsigned) (widths : List Nat) (count : Nat)
    (measurement : Measurement) : Prop :=
  measurement = .measuring gap widths .space count ∧ count ≤ gapTicks
  ∨ measurement = .recorded gap widths (BitVec.ofNat 16 count)

theorem pending_space {gap : AvrUnsigned} {widths : List Nat} {count : Nat}
    {measurement : Measurement} (pending : measurement.Pending gap widths count)
    : (measurement.sample .space).Pending gap widths (count + 1) := by
  rcases pending with ⟨rfl, short⟩ | rfl
  · simp only [Measurement.sample]
    split_ifs with full changes long
    · exact .inr (congrArg _ (timer_succ count))
    · exact absurd rfl changes
    · exact .inr rfl
    · exact .inl ⟨rfl, by simpa using long⟩
  · exact .inr (congrArg _ (timer_succ count))

/-- On a quiet line there is nothing to find, and the timer counts. -/
theorem listens_quiet {listening : Listening} {count quiet : Nat} {events : List Event}
    (waiting : listening.measurement = .waiting (BitVec.ofNat 16 count))
    (spaces : samples events = List.replicate quiet .space)
    : (listener.run listening events).measurement = .waiting (BitVec.ofNat 16 (count + quiet))
      ∧ (listener.outputs listening events).reduceOption = [] := by
  induction events generalizing listening count quiet with
  | nil =>
      obtain rfl : 0 = quiet := by simpa using congrArg List.length spaces
      exact ⟨waiting, rfl⟩
  | cons event rest ih =>
      obtain ⟨measurement, resuming⟩ := listening
      obtain rfl : measurement = _ := waiting
      cases event with
      | loop =>
          cases resuming with
          | true => exact @ih ⟨_, false⟩ count quiet rfl spaces
          | false => exact @ih ⟨_, false⟩ count quiet rfl spaces
      | tick irdata =>
          cases quiet with
          | zero => cases spaces
          | succ quiet =>
              rw [samples_tick, List.replicate_succ] at spaces
              obtain ⟨rfl, others⟩ := List.cons.inj spaces
              have later := @ih ⟨_, resuming⟩ (count + 1) quiet
                (congrArg Measurement.waiting (timer_succ count)) others
              rw [Nat.add_assoc, Nat.add_comm 1] at later
              exact later

/-- In the gap behind a code the passes find it once, or have not found it yet. -/
theorem listens_gap {gap : AvrUnsigned} {widths : List Nat} {count spaces : Nat}
    {listening : Listening} {events : List Event}
    (pending : listening.measurement.Pending gap widths count)
    (sampled : samples events = List.replicate spaces .space)
    : ((listener.outputs listening events).reduceOption = []
        ∧ (listener.run listening events).measurement.Pending gap widths (count + spaces))
      ∨ (listener.outputs listening events).reduceOption = [(gap, widths)]
        ∧ (listener.run listening events).measurement
          = .waiting (BitVec.ofNat 16 (count + spaces)) := by
  induction events generalizing listening count spaces with
  | nil =>
      obtain rfl : 0 = spaces := by simpa using congrArg List.length sampled
      exact .inl ⟨rfl, pending⟩
  | cons event rest ih =>
      obtain ⟨measurement, resuming⟩ := listening
      cases event with
      | tick irdata =>
          cases spaces with
          | zero => cases sampled
          | succ spaces =>
              rw [samples_tick, List.replicate_succ] at sampled
              obtain ⟨rfl, others⟩ := List.cons.inj sampled
              have later := @ih _ _ ⟨_, resuming⟩ (pending_space pending) others
              rw [Nat.add_assoc, Nat.add_comm 1] at later
              exact later
      | loop =>
          cases resuming with
          | true => exact @ih _ _ ⟨measurement, false⟩ pending sampled
          | false =>
              rcases pending with ⟨rfl, short⟩ | rfl
              · exact @ih _ _ ⟨_, false⟩ (.inl ⟨rfl, short⟩) sampled
              · obtain ⟨reached, silent⟩ :=
                  @listens_quiet ⟨_, true⟩ count spaces rest rfl sampled
                exact .inr ⟨congrArg (List.cons (gap, widths)) silent, reached⟩

/-- A recording is found once on a quiet line, if `loop` makes a step that begins a pass: the first
or the second one. Witness: induction over what happens.
-/
theorem listens_recorded {gap : AvrUnsigned} {widths : List Nat} {count quiet : Nat}
    {listening : Listening} {events : List Event}
    (recorded : listening.measurement = .recorded gap widths (BitVec.ofNat 16 count))
    (spaces : samples events = List.replicate quiet .space)
    (passes : (if listening.resuming then 1 else 0) < events.count .loop)
    : (listener.outputs listening events).reduceOption = [(gap, widths)]
      ∧ (listener.run listening events).measurement
        = .waiting (BitVec.ofNat 16 (count + quiet)) := by
  induction events generalizing listening count quiet with
  | nil => exact absurd passes (Nat.not_lt_zero _)
  | cons event rest ih =>
      obtain ⟨measurement, resuming⟩ := listening
      obtain rfl : measurement = _ := recorded
      cases event with
      | tick irdata =>
          cases quiet with
          | zero => cases spaces
          | succ quiet =>
              rw [samples_tick, List.replicate_succ] at spaces
              obtain ⟨rfl, others⟩ := List.cons.inj spaces
              rw [List.count_cons_of_ne (by simp)] at passes
              have ticked
                  : (Measurement.recorded gap widths (BitVec.ofNat 16 count)).sample .space
                    = .recorded gap widths (BitVec.ofNat 16 (count + 1)) :=
                congrArg (Measurement.recorded gap widths) (timer_succ count)
              have later := @ih (count + 1) quiet ⟨_, resuming⟩ ticked others passes
              rw [Nat.add_assoc, Nat.add_comm 1] at later
              exact later
      | loop =>
          cases resuming with
          | true =>
              rw [List.count_cons_self] at passes
              exact @ih count quiet ⟨_, false⟩ rfl spaces (Nat.lt_of_succ_lt_succ passes)
          | false =>
              obtain ⟨reached, silent⟩ :=
                @listens_quiet ⟨_, true⟩ count quiet rest rfl spaces
              exact ⟨congrArg (List.cons (gap, widths)) silent, reached⟩

-----------------------------------------------------------------------------------------
-- A code and the gap behind it
-----------------------------------------------------------------------------------------

/-- What happens while runs are seen, up to the next code: their samples, those of a gap, and a
pause in which `loop` makes at least two steps, one of which begins a pass. Other steps may come
at any time.
-/
def Heard (seen : List (Level × Nat)) (gap : Nat) (events : List Event) : Prop :=
  ∃ code pause quiet,
    events = code ++ pause
    ∧ samples code = expand seen ++ List.replicate (gapTicks + 2) .space
    ∧ samples pause = List.replicate quiet .space
    ∧ 2 ≤ pause.count .loop
    ∧ gap = gapTicks + 2 + quiet

/-- Events can be split where their samples are. -/
theorem split_samples {events : List Event} {first second : List Level}
    (sampled : samples events = first ++ second)
    : ∃ before after,
        events = before ++ after ∧ samples before = first ∧ samples after = second :=
  List.filterMap_eq_append_iff.mp sampled

/-- A code behind a gap is found once. Witness: up to the gap there is nothing to find; a pass in
the pause finds the code, unless one before it did.
-/
theorem listens_code {listening : Listening} {count gap : Nat} {widths : List Nat}
    {events : List Event} (waiting : listening.measurement = .waiting (BitVec.ofNat 16 count))
    (heard : Heard (alternate .mark widths) gap events) (before : gapTicks ≤ count + 1)
    (few : count + 1 < 2 ^ 16) (audible : Audible .mark widths)
    (room : widths.length + 1 ≤ rawbufLength) (odd : widths.length % 2 = 1)
    : (listener.outputs listening events).reduceOption
        = [(BitVec.ofNat 16 (count + 1), widths)]
      ∧ (listener.run listening events).measurement = .waiting (BitVec.ofNat 16 (gap - 1)) := by
  obtain ⟨code, pause, quiet, rfl, sampled, silent, passes, rfl⟩ := heard
  have whole : samples code = (codeSamples widths ++ [.space])
      ++ List.replicate (gapTicks + 1) .space := by
    rw [sampled, List.append_assoc]
    rfl
  obtain ⟨first, second, rfl, measured, spaces⟩ := split_samples whole
  have long : gapTicks ≤ (BitVec.ofNat 16 count + 1 : AvrUnsigned).toNat := by
    rw [timer_succ, BitVec.toNat_ofNat, Nat.mod_eq_of_lt few]
    exact before
  obtain ⟨reached, busy⟩ := measures_widths long audible room odd
  rw [← measured, ← waiting] at reached busy
  obtain ⟨listened, nothing⟩ := listens_busy busy
  have pending : (listener.run listening first).measurement.Pending
      (BitVec.ofNat 16 (count + 1)) widths 0 := by
    rw [listened, reached, timer_succ]
    exact .inl ⟨rfl, Nat.zero_le _⟩
  have ahead : gapTicks + 2 + quiet - 1 = gapTicks + 1 + quiet := by omega
  rw [List.append_assoc, Machine.outputs_append, Machine.outputs_append, Machine.run_append,
    Machine.run_append, List.reduceOption_append, List.reduceOption_append, nothing,
    List.nil_append, ahead]
  rcases listens_gap pending spaces with ⟨silence, ⟨-, short⟩ | recorded⟩ | ⟨found, waits⟩
  · omega
  · rw [Nat.zero_add] at recorded
    rw [silence, List.nil_append]
    refine listens_recorded recorded silent (Nat.lt_of_lt_of_le ?_ passes)
    split <;> decide
  · rw [Nat.zero_add] at waits
    obtain ⟨still, silence⟩ := listens_quiet waits silent
    rw [found, silence]
    exact ⟨rfl, still⟩

end Cooboc.Infrared
