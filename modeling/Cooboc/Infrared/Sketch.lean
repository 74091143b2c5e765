import Cooboc.Infrared.Decoders

/-! The sketch `IRrecvDemo.ino`: passes of `loop`, at any point of which the interrupt can come. The
interrupt leaves a receiver that has stopped as it is, but for its timer, which a pass does not
read: so a pass is one step up to the first store of `resume`. The second store is a step of its
own, and in front of it the receiver is idle with the length of the old recording.
-/

namespace Cooboc.Infrared

open Cooboc.Foundations

/-- What happens: the interrupt reads the pin, or `loop` makes a step. -/
inductive Event where
  | tick (irdata : Level)
  | loop
deriving DecidableEq

/-- What a pass prints, with all of the results. -/
structure Report where
  rawbuf : List AvrUnsigned
  results : DecodeResults

/-- The receiver, and whether `loop` stands between the two stores of `resume`. -/
structure Sketch where
  recv : IrRecv
  resuming : Bool

/-- A step of `loop`: up to the first store of `resume`, or the second one. -/
def Sketch.loop (sketch : Sketch) : Sketch × Option Report :=
  if sketch.resuming then
    (⟨{ sketch.recv with irparams := sketch.recv.irparams.resumeLength }, false⟩, none)
  else
    match sketch.recv.decode with
    | .unready => (sketch, none)
    | .decoded results =>
        (
          ⟨⟨sketch.recv.irparams.resumeState, results⟩, true⟩,
          some ⟨sketch.recv.irparams.recording, results⟩
        )
    | .thrownAway results => (⟨⟨sketch.recv.irparams.resumeState, results⟩, true⟩, none)

/-- The interrupt. -/
def Sketch.tick (sketch : Sketch) (irdata : Level) : Sketch :=
  { sketch with
    recv.irparams := (sketch.recv.irparams.interrupt irdata).1 }

/-- The sketch over what happens. -/
def sketch : Machine Sketch Event (Option Report) where
  step sketch
    | .tick irdata => (sketch.tick irdata, none)
    | .loop => sketch.loop

/-- An interrupt between the two stores of `resume` does no harm if the buffer is not full, and if
no gap ends.
-/
def Sketch.Undisturbed (sketch : Sketch) : Event → Prop
  | .tick irdata =>
      sketch.resuming = true
      → sketch.recv.irparams.rawlen < rawbufLength
        ∧ (irdata = .mark → (sketch.recv.irparams.timer + 1).toNat < gapTicks)
  | .loop => True

instance (sketch : Sketch) : (event : Event) → Decidable (sketch.Undisturbed event)
  | .tick irdata =>
      inferInstanceAs (Decidable
        (sketch.resuming = true
          → sketch.recv.irparams.rawlen < rawbufLength
            ∧ (irdata = .mark → (sketch.recv.irparams.timer + 1).toNat < gapTicks)))
  | .loop => inferInstanceAs (Decidable True)

/-- The sketch behind `setup`. -/
def setup (irparams : IrParams) (results : DecodeResults) : Sketch :=
  ⟨⟨irparams.enableIRIn, results⟩, false⟩

/-- The receiver and the results in the memory of a sketch that starts, before `setup`. -/
def fresh : IrRecv :=
  ⟨⟨.idle, false, 0#16, fun _ => 0#16, 0⟩, ⟨.unset, 0#16, 0#32, 0⟩⟩

/-- What happens divides no `resume`: nothing is disturbed, and each `resume` that is begun is
ended.
-/
def Undivided (events : List Event) : Prop :=
  ∀ current : Sketch, current.resuming = false
    → sketch.Always Sketch.Undisturbed current events
      ∧ (sketch.run current events).resuming = false

theorem Undivided.append {before after : List Event} (first : Undivided before)
    (second : Undivided after)
    : Undivided (before ++ after) := by
  intro current whole
  obtain ⟨always, ended⟩ := first current whole
  obtain ⟨later, last⟩ := second _ ended
  rw [Machine.always_append, Machine.run_append]
  exact ⟨⟨always, later⟩, last⟩

theorem undivided_flatten {chunks : List (List Event)}
    (undivided : ∀ events ∈ chunks, Undivided events)
    : Undivided chunks.flatten := by
  induction chunks with
  | nil => exact fun _ whole => ⟨trivial, whole⟩
  | cons events rest ih =>
      obtain ⟨own, others⟩ := List.forall_mem_cons.mp undivided
      exact own.append (ih others)

/-- Interrupts outside of a `resume` disturb none. -/
theorem undivided_ticks (line : List Level) : Undivided (line.map .tick) := by
  induction line with
  | nil => exact fun _ whole => ⟨trivial, whole⟩
  | cons irdata rest ih =>
      intro current whole
      obtain ⟨always, ended⟩ := ih (current.tick irdata) whole
      exact ⟨⟨fun resuming => absurd resuming (by simp [whole]), always⟩, ended⟩

/-- Two steps of `loop` in a row are a whole pass, or two that find nothing. -/
theorem undivided_pass : Undivided [.loop, .loop] := by
  intro current whole
  refine ⟨⟨trivial, trivial, trivial⟩, ?_⟩
  change (current.loop.1.loop.1).resuming = false
  obtain ⟨recv, resuming⟩ := current
  obtain rfl : resuming = false := whole
  cases ready : recv.decode <;> simp [Sketch.loop, ready]

/-- What the interrupt reads from the pin. -/
def samples (events : List Event) : List Level :=
  events.filterMap (fun event => match event with
    | .tick irdata => some irdata
    | .loop => none)

@[simp] theorem samples_nil : samples [] = [] := rfl

@[simp] theorem samples_tick (irdata : Level) (rest : List Event)
    : samples (.tick irdata :: rest) = irdata :: samples rest := rfl

@[simp] theorem samples_loop (rest : List Event)
    : samples (.loop :: rest) = samples rest := rfl

-----------------------------------------------------------------------------------------
-- What a pass finds
-----------------------------------------------------------------------------------------

/-- A recording: the gap and the widths behind it. -/
abbrev Recording := AvrUnsigned × List Nat

/-- A pass takes what has been recorded, and the measuring goes on. -/
def Measurement.take : Measurement → Measurement × Option Recording
  | .waiting timer => (.waiting timer, none)
  | .measuring gap widths level count => (.measuring gap widths level count, none)
  | .recorded gap widths timer => (.waiting timer, some (gap, widths))

/-- The measurement, and whether `loop` stands between the two stores of `resume`. -/
structure Listening where
  measurement : Measurement
  resuming : Bool

/-- The recordings that the passes find. -/
def listener : Machine Listening Event (Option Recording) where
  step listening
    | .tick irdata => (⟨listening.measurement.sample irdata, listening.resuming⟩, none)
    | .loop =>
        if listening.resuming then
          (⟨listening.measurement, false⟩, none)
        else
          let (measurement, found) := listening.measurement.take
          (⟨measurement, found.isSome⟩, found)

/-- A pass that finds a recording prints it, if a decoder accepts it. -/
def Found (report : Option Report) (found : Option Recording) : Prop :=
  match found with
  | none => report = none
  | some (gap, widths) =>
      ∃ irparams results,
        irparams.recording = entries gap widths
        ∧ report = match tryDecoders irparams results decoders with
          | .ok decoded => some ⟨entries gap widths, decoded⟩
          | .error _ => none

/-- What a sketch says about the line: between the two stores of `resume` the receiver waits, once
its recording is given up.
-/
structure Sketch.Listens (sketch : Sketch) (listening : Listening) : Prop where
  same : sketch.resuming = listening.resuming
  measures : sketch.resuming = false → sketch.recv.irparams.Measures listening.measurement
  waits
    : sketch.resuming = true
      → ∃ timer,
          listening.measurement = .waiting timer
          ∧ sketch.recv.irparams.resumeLength.Measures (.waiting timer)

theorem setup_listens {irparams : IrParams} (started : irparams.timer = 0#16)
    (results : DecodeResults)
    : (setup irparams results).Listens ⟨.waiting 0#16, false⟩ where
  same := rfl
  measures _ := ⟨rfl, rfl, started⟩
  waits resuming := by cases resuming

/-- An interrupt that does no harm between the two stores counts on a receiver that waits. -/
theorem tick_waits {irparams : IrParams} {timer : AvrUnsigned}
    (waits : irparams.resumeLength.Measures (.waiting timer))
    (room : irparams.rawlen < rawbufLength) {irdata : Level}
    (ungapped : irdata = .mark → (irparams.timer + 1).toNat < gapTicks)
    : ∃ later,
        (Measurement.waiting timer).sample irdata = .waiting later
        ∧ (irparams.interrupt irdata).1.resumeLength.Measures (.waiting later) := by
  obtain ⟨idle, -, rfl⟩ := waits
  rw [interrupt_room room]
  cases irdata with
  | space =>
      refine ⟨irparams.timer + 1, rfl, ?_⟩
      simp only [IrParams.switch, show irparams.rcvstate = .idle from idle]
      exact ⟨rfl, rfl, rfl⟩
  | mark =>
      have short := ungapped rfl
      refine ⟨0, if_pos short, ?_⟩
      simp only [IrParams.switch, show irparams.rcvstate = .idle from idle, if_pos short]
      exact ⟨rfl, rfl, rfl⟩

theorem tick_listens {sketch : Sketch} {listening : Listening}
    (listens : sketch.Listens listening) {irdata : Level}
    (undisturbed : sketch.Undisturbed (.tick irdata))
    : (sketch.tick irdata).Listens ⟨listening.measurement.sample irdata, listening.resuming⟩ where
  same := listens.same
  measures measuring := interrupts_measure.states irdata (listens.measures measuring)
  waits resuming := by
    obtain ⟨timer, waiting, waits⟩ := listens.waits resuming
    obtain ⟨room, ungapped⟩ := undisturbed resuming
    rw [waiting]
    exact tick_waits waits room ungapped

/-- A pass over a receiver that has not stopped does nothing. -/
theorem loop_waits {recv : IrRecv} (running : recv.irparams.rcvstate ≠ .stop)
    : Sketch.loop ⟨recv, false⟩ = (⟨recv, false⟩, none) := by
  simp [Sketch.loop, IrRecv.decode, running]

theorem loop_accepts {recv : IrRecv} (stopped : recv.irparams.rcvstate = .stop)
    {decoded : DecodeResults}
    (accepted : tryDecoders recv.irparams recv.results decoders = .ok decoded)
    : Sketch.loop ⟨recv, false⟩
      = (⟨⟨recv.irparams.resumeState, decoded⟩, true⟩,
          some ⟨recv.irparams.recording, decoded⟩) := by
  simp [Sketch.loop, IrRecv.decode, stopped, accepted]

theorem loop_rejects {recv : IrRecv} (stopped : recv.irparams.rcvstate = .stop)
    {left : DecodeResults}
    (rejected : tryDecoders recv.irparams recv.results decoders = .error left)
    : Sketch.loop ⟨recv, false⟩ = (⟨⟨recv.irparams.resumeState, left⟩, true⟩, none) := by
  simp [Sketch.loop, IrRecv.decode, stopped, rejected]

/-- A pass takes what has been recorded. -/
theorem loop_takes {recv : IrRecv} {measurement : Measurement}
    (measures : recv.irparams.Measures measurement)
    : (Sketch.loop ⟨recv, false⟩).1.Listens
          ⟨measurement.take.1, measurement.take.2.isSome⟩
      ∧ Found (Sketch.loop ⟨recv, false⟩).2 measurement.take.2 := by
  cases measurement with
  | waiting timer =>
      rw [loop_waits (by rw [measures.1]; nofun)]
      exact ⟨⟨rfl, fun _ => measures, nofun⟩, rfl⟩
  | measuring gap widths level count =>
      have running : recv.irparams.rcvstate ≠ .stop := by
        rw [measures.1]
        cases level <;> nofun
      rw [loop_waits running]
      exact ⟨⟨rfl, fun _ => measures, nofun⟩, rfl⟩
  | recorded gap widths timer =>
      obtain ⟨stopped, recording, counted, -⟩ := measures
      have waits : ∃ later,
          (Measurement.recorded gap widths timer).take.1 = .waiting later
          ∧ recv.irparams.resumeState.resumeLength.Measures (.waiting later) :=
        ⟨timer, rfl, rfl, rfl, counted⟩
      cases attempt : tryDecoders recv.irparams recv.results decoders with
      | ok decoded =>
          rw [loop_accepts stopped attempt, recording]
          exact ⟨⟨rfl, nofun, fun _ => waits⟩, recv.irparams, recv.results, recording,
            by rw [attempt]⟩
      | error left =>
          rw [loop_rejects stopped attempt]
          exact ⟨⟨rfl, nofun, fun _ => waits⟩, recv.irparams, recv.results, recording,
            by rw [attempt]⟩

/-- A step of the sketch that is not disturbed finds what has been recorded. -/
theorem sketch_listens {current : Sketch} {listening : Listening} (event : Event)
    (listens : current.Listens listening) (undisturbed : current.Undisturbed event)
    : (sketch.step current event).1.Listens (listener.step listening event).1
      ∧ Found (sketch.step current event).2 (listener.step listening event).2 := by
  cases event with
  | tick irdata => exact ⟨tick_listens listens undisturbed, rfl⟩
  | loop =>
      obtain ⟨recv, resuming⟩ := current
      obtain ⟨measurement, same⟩ := listening
      obtain rfl : resuming = same := listens.same
      cases resuming with
      | false => exact loop_takes (listens.measures rfl)
      | true =>
          obtain ⟨timer, rfl, waits⟩ := listens.waits rfl
          exact ⟨⟨rfl, fun _ => waits, nofun⟩, rfl⟩

end Cooboc.Infrared
