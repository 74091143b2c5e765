import Mathlib.Data.List.Chain
import Cooboc.HeadRest.SampleDelivery

/-! Joining the firmware's stream out of step. Nothing in a frame marks its leading byte as
such, so payload bytes may open a false packet, and a steady sensor may repeat it for ever;
frames that contain `S` only in front bring the demodulator back.
-/

namespace Cooboc.HeadRest

open Cooboc.Foundations Cooboc.SerialPacket

/-- (FrameDelivered modem frame sample) says that the demodulator accepts at the tenth byte
of the frame, its checksum, and that `getLastPayload` then returns the sample's payload.
-/
def FrameDelivered (modem : SaModem) (frame : List Arrival) (sample : Sample) : Prop :=
  ∃ before checksum after,
    frame = before ++ checksum :: after
    ∧ before.length = 9
    ∧ ((demodulator.run modem before).demodulateByte checksum).2 = true
    ∧ ((demodulator.run modem before).demodulateByte checksum).1.Delivers sample.payload

/-- (SomeDelivered modem frames samples) says that at least one of the consecutive frames
is delivered with the sample at its place.
-/
def SomeDelivered (modem : SaModem) (frames : List (List Arrival)) (samples : List Sample)
    : Prop :=
  ∃ front frame back sample,
    frames = front ++ frame :: back
    ∧ samples[front.length]? = some sample
    ∧ FrameDelivered (demodulator.run modem front.flatten) frame sample

/-- (sample.LeadsOnce) says that `S` occurs in the frame as its first byte only. -/
def Sample.LeadsOnce (sample : Sample) : Prop := saLeadingByte ∉ sample.frame.tail

instance (sample : Sample) : Decidable sample.LeadsOnce :=
  inferInstanceAs (Decidable (saLeadingByte ∉ sample.frame.tail))

/-- A frame has twelve bytes. -/
theorem Sample.frame_length (sample : Sample) : sample.frame.length = 12 := rfl

/-- A prompt frame read by an idle demodulator is delivered. Witness: the receiver's answers
over the frame's first ten bytes are nine silent ones and the payload.
-/
theorem FrameDelivered.of_idle {modem : SaModem} {frame : List Arrival} {sample : Sample}
    (idle : modem.Represents .idle) (prompt : Prompt frame)
    (sent : frame.map Arrival.byte = sample.frame)
    : FrameDelivered modem frame sample := by
  rw [sample.frame_eq, Framing.packet, List.append_assoc] at sent
  obtain ⟨before, rest, rfl, body, behind⟩ := List.map_eq_append_iff.mp sent
  obtain ⟨checksum, after, rfl, summed, ended⟩ := List.map_eq_cons_iff.mp behind
  have ten : before ++ checksum :: after = (before ++ [checksum]) ++ after := by simp
  have packet : (before ++ [checksum]).map Arrival.byte
      = saFraming.packet sample.payload := by
    rw [List.map_append, body, List.map_singleton, summed]
    rfl
  have promptly : Prompt (before ++ [checksum]) :=
    (ten ▸ prompt : Prompt _).left_of_append
  have answers := (receiver_prompt promptly modem.lastDecodeTime).2
  rw [packet, (saFraming.receiver_packet sample.payload_short).2, modem.receptions_append,
    Machine.outputs_append] at answers
  have last := (List.append_inj' answers rfl).2
  obtain ⟨_, accepted, delivers⟩ := (idle.run before).1.step checksum
  have delivered := (List.cons.inj last).1
  refine ⟨before, checksum, after, rfl, ?_, ?_, delivers _ delivered⟩
  · have length := congrArg List.length body
    simpa [Framing.body, sample.payload_length] using length
  · rw [accepted, delivered]
    rfl

/-- A packet being read has at least its last byte before it. -/
theorem remaining_pos {progress : Progress} (busy : progress ≠ .idle)
    : 0 < progress.remaining := by
  cases progress with
  | idle => exact absurd rfl busy
  | _ => simp [Progress.remaining]

/-- A frame that contains `S` only in front ends the packet being read, or is part of it. -/
theorem frame_settles {progress : Progress} (valid : progress.Valid)
    (busy : progress ≠ .idle) {frame : List Arrival} {sample : Sample}
    (sent : frame.map Arrival.byte = sample.frame) (clean : sample.LeadsOnce)
    (lastTime : UnsignedLong)
    : saFraming.receiver.run progress (receptions lastTime frame) = .idle
      ∨ (saFraming.receiver.run progress (receptions lastTime frame)).remaining + 12
          ≤ progress.remaining := by
  have filler : ∀ reception ∈ (receptions lastTime frame).tail,
      reception.byte ≠ saFraming.lead := by
    intro reception member leading
    apply clean
    rw [← sent, ← receptions_bytes lastTime frame, ← List.map_tail]
    exact List.mem_map.mpr ⟨reception, member, leading⟩
  have twelve : frame.length = 12 := by
    rw [← List.length_map Arrival.byte, sent, sample.frame_length]
  have settled := saFraming.receiver_settles valid busy filler
  rw [receptions_length, twelve] at settled
  exact settled

/-- Among frames that contain `S` only in front, whose bytes outlast the packet being read
by one frame, some frame finds the demodulator idle.
Witness: induction over the frames; each ends the packet or shortens what remains.
-/
theorem realigns {modem : SaModem} {progress : Progress}
    (represents : modem.Represents progress) (valid : progress.Valid)
    {frames : List (List Arrival)} {samples : List Sample}
    (sent : frames.map (List.map Arrival.byte) = samples.map Sample.frame)
    (clean : ∀ sample ∈ samples, sample.LeadsOnce)
    (enough : progress.remaining + 12 ≤ 12 * frames.length)
    : ∃ front frame back,
        frames = front ++ frame :: back
        ∧ (demodulator.run modem front.flatten).Represents .idle := by
  induction frames generalizing modem progress samples with
  | nil => simp at enough
  | cons frame rest ih =>
      rw [List.length_cons] at enough
      by_cases idle : progress = .idle
      · exact ⟨[], frame, rest, rfl, idle ▸ represents⟩
      cases samples with
      | nil => cases sent
      | cons sample later =>
          obtain ⟨first, others⟩ := List.cons.inj sent
          have next := (represents.run frame).1
          rcases frame_settles valid idle first (clean sample List.mem_cons_self)
              modem.lastDecodeTime with ends | shortened
          · cases rest with
            | nil =>
                have positive := remaining_pos idle
                simp only [List.length_nil] at enough
                omega
            | cons second rest =>
                refine ⟨[frame], second, rest, rfl, ?_⟩
                rw [ends] at next
                simpa using next
          · obtain ⟨front, second, back, rfl, ends⟩ := ih next
              (saFraming.receiver_valid valid _) others
              (fun other member => clean other (by simp [member])) (by omega)
            refine ⟨frame :: front, second, back, rfl, ?_⟩
            rw [List.flatten_cons, Machine.run_append]
            exact ends

/-- The sample sent by a frame stands at the frame's place. -/
theorem sample_of_frame {front back : List (List Arrival)} {frame : List Arrival}
    {samples : List Sample}
    (sent
      : (front ++ frame :: back).map (List.map Arrival.byte) = samples.map Sample.frame)
    : ∃ sample,
        samples[front.length]? = some sample ∧ frame.map Arrival.byte = sample.frame := by
  rw [List.map_append, List.map_cons] at sent
  obtain ⟨earlier, rest, rfl, passed, others⟩ := List.map_eq_append_iff.mp sent.symm
  obtain ⟨sample, later, rfl, framed, _⟩ := List.map_eq_cons_iff.mp others
  have place : earlier.length = front.length := by
    simpa only [List.length_map] using congrArg List.length passed
  exact ⟨sample, by simp [← place], framed.symm⟩

/-- Whatever bytes came before, among consecutive prompt frames that include 23 in a row
with `S` as their first byte only, at least one is delivered.
Witness: 22 of these frames outlast any packet, so one of the 23 finds the demodulator idle.
-/
theorem resynchronises (memory : Nat → UInt8) (earlier : List Arrival)
    (frames : List (List Arrival)) (before window after : List Sample)
    (sent : frames.map (List.map Arrival.byte) = (before ++ window ++ after).map Sample.frame)
    (prompt : Prompt frames.flatten)
    (long : window.length = 23)
    (clean : ∀ sample ∈ window, sample.LeadsOnce)
    : SomeDelivered (demodulator.run (SaModem.new memory) earlier) frames
        (before ++ window ++ after) := by
  have split := sent
  rw [List.map_append, List.map_append, List.append_assoc] at split
  obtain ⟨first, rest, rfl, passed, split⟩ := List.map_eq_append_iff.mp split
  obtain ⟨middle, last, rfl, windowed, _⟩ := List.map_eq_append_iff.mp split
  obtain ⟨progress, valid, represents⟩ := SaModem.run_represents memory
    (earlier ++ first.flatten)
  have length : middle.length = 23 := by
    rw [← List.length_map (List.map Arrival.byte), windowed, List.length_map, long]
  have bound := valid.remaining_le
  obtain ⟨front, frame, back, rfl, idle⟩ := realigns represents valid windowed clean
    (by omega)
  rw [← Machine.run_append, List.append_assoc, Machine.run_append,
    ← List.flatten_append] at idle
  have place : first ++ ((front ++ frame :: back) ++ last)
      = (first ++ front) ++ frame :: (back ++ last) := by simp
  rw [place] at sent prompt ⊢
  obtain ⟨sample, located, framed⟩ := sample_of_frame sent
  refine ⟨first ++ front, frame, back ++ last, sample, rfl, located, ?_⟩
  refine FrameDelivered.of_idle idle ?_ framed
  rw [List.flatten_append, List.flatten_cons] at prompt
  exact prompt.right_of_append.left_of_append

/-- Twenty-three frames of a resting sensor, joined within what passes for a packet of 255
bytes.
-/
theorem resynchronises_resting
    : let sample : Sample := ⟨0, 0, 0⟩
      let frames : List (List Arrival) :=
        List.replicate 23 (sample.frame.map (fun byte => ⟨byte, 0, 0⟩))
      SomeDelivered
        (demodulator.run (SaModem.new (fun _ => 0))
          [⟨saLeadingByte, 0, 0⟩, ⟨saCheckByte, 0, 0⟩, ⟨0xFF, 0, 0⟩])
        frames (List.replicate 23 sample) := by
  have delivered := resynchronises (fun _ => 0)
    [⟨saLeadingByte, 0, 0⟩, ⟨saCheckByte, 0, 0⟩, ⟨0xFF, 0, 0⟩]
    (List.replicate 23 ((Sample.frame ⟨0, 0, 0⟩).map (fun byte => ⟨byte, 0, 0⟩)))
    [] (List.replicate 23 ⟨0, 0, 0⟩) [] (by decide +kernel)
    (by unfold Prompt; decide +kernel) (by decide) (by decide +kernel)
  simpa using delivered

-----------------------------------------------------------------------------------------
-- Out of step for ever
-----------------------------------------------------------------------------------------

/-- A delivered frame shows among the answers to all frames. -/
theorem SomeDelivered.accepts {modem : SaModem} {frames : List (List Arrival)}
    {samples : List Sample} (delivered : SomeDelivered modem frames samples)
    : true ∈ demodulator.outputs modem frames.flatten := by
  obtain ⟨front, frame, back, sample, rfl, _, before, checksum, after, rfl, _, accepted, _⟩ :=
    delivered
  rw [List.flatten_append, List.flatten_cons, Machine.outputs_append, Machine.outputs_append,
    Machine.outputs_append, Machine.outputs_cons]
  refine List.mem_append_right _ (List.mem_append_left _ (List.mem_append_right _ ?_))
  exact List.mem_cons.mpr (.inl accepted.symm)

/-- Bytes that the receiver reads from `progress` back to `progress` without delivering
anything are never accepted, however often they are repeated.
-/
theorem receiver_repeats {progress : Progress} {bytes : List UInt8}
    (back : saFraming.receiver.run progress (inTime bytes) = progress)
    (silent : ∀ answer ∈ saFraming.receiver.outputs progress (inTime bytes), answer = none)
    (count : Nat)
    : ∀ answer ∈ saFraming.receiver.outputs progress
          (inTime (List.replicate count bytes).flatten),
        answer = none := by
  induction count with
  | zero => simp
  | succ count ih =>
      rw [List.replicate_succ, List.flatten_cons, inTime_append, Machine.outputs_append, back]
      intro answer member
      rcases List.mem_append.mp member with now | later
      · exact silent answer now
      · exact ih answer later

/-- A resting sensor whose position bytes are `S` and `A`, and whose first distance then
reads as a length.
-/
def restingSample : Sample := ⟨0x4153, 8, 0⟩

/-- The frame of the resting sensor, all within one millisecond. -/
def restingFrame : List Arrival := restingSample.frame.map (fun byte => ⟨byte, 0, 0⟩)

/-- Time stands still during resting frames. -/
theorem restingFrame_still {count : Nat} {arrival : Arrival}
    (member : arrival ∈ (List.replicate count restingFrame).flatten)
    : arrival.decodeTime = 0#64 ∧ arrival.checkTime = 0#64 := by
  obtain ⟨frame, repeated, within⟩ := List.mem_flatten.mp member
  rw [List.eq_of_mem_replicate repeated] at within
  obtain ⟨_, _, rfl⟩ := List.mem_map.mp within
  exact ⟨rfl, rfl⟩

/-- Bytes that all come at one time are prompt. -/
theorem prompt_of_still {time : UnsignedLong} {arrivals : List Arrival}
    (still : ∀ arrival ∈ arrivals, arrival.decodeTime = time ∧ arrival.checkTime = time)
    : Prompt arrivals := by
  induction arrivals with
  | nil => exact List.isChain_nil
  | cons first rest ih =>
      cases rest with
      | nil => exact List.isChain_singleton first
      | cons second rest =>
          have later := ih (fun arrival member => still arrival (by simp [member]))
          refine List.isChain_cons_cons.mpr ⟨?_, later⟩
          simp [isLate, (still first (by simp)).1, (still second (by simp)).2,
            saPacketTimeout]

/-- A demodulator that joins the resting sensor's stream behind a frame's header delivers
none of the frames that follow, however many there are.
Witness: each frame completes the false packet that the payload of the one before opened,
and opens the next.
-/
theorem resting_never_delivered (memory : Nat → UInt8) (count : Nat)
    : ¬ SomeDelivered
        (demodulator.run (SaModem.new memory) (restingFrame.drop 3))
        (List.replicate count restingFrame) (List.replicate count restingSample) := by
  intro delivered
  let part := restingFrame.drop 3
  let frames := (List.replicate count restingFrame).flatten
  have accepted : true ∈ demodulator.outputs (SaModem.new memory) (part ++ frames) := by
    rw [Machine.outputs_append]
    exact List.mem_append_right _ delivered.accepts
  have still : ∀ arrival ∈ part ++ frames,
      arrival.decodeTime = 0#64 ∧ arrival.checkTime = 0#64 := by
    intro arrival member
    rcases List.mem_append.mp member with early | late
    · obtain ⟨_, _, rfl⟩ := List.mem_map.mp (List.mem_of_mem_drop early)
      exact ⟨rfl, rfl⟩
    · exact restingFrame_still late
  have bytes : (part ++ frames).map Arrival.byte
      = restingSample.frame.drop 3
        ++ (List.replicate count restingSample.frame).flatten := by
    rw [List.map_append, List.map_flatten, List.map_replicate]
    rfl
  rw [((SaModem.new_represents memory).run _).2,
    (receiver_prompt (prompt_of_still still) _).2, bytes, inTime_append,
    Machine.outputs_append] at accepted
  obtain ⟨answer, member, accepting⟩ := List.mem_map.mp accepted
  have silent : answer = none := by
    rcases List.mem_append.mp member with early | late
    · have quiet : ∀ answer ∈ saFraming.receiver.outputs .idle
            (inTime (restingSample.frame.drop 3)),
          answer = none := by
        decide +kernel
      exact quiet answer early
    · have joined : saFraming.receiver.run .idle (inTime (restingSample.frame.drop 3))
          = .payload 8 [0, 0, 0, 0x1A, 0x0D, 0x0A] := by decide +kernel
      rw [joined] at late
      exact receiver_repeats (by decide +kernel) (by decide +kernel) count answer late
  rw [silent] at accepting
  cases accepting

/-- No number of frames is enough for every stream: as many frames of the resting sensor leave a
demodulator that joined behind a header as far out of step as it was.
-/
theorem resynchronisation_not_bounded
    : ¬ ∃ bound, ∀ (memory : Nat → UInt8) (earlier : List Arrival)
          (frames : List (List Arrival)) (samples : List Sample),
        samples.length = bound
        → frames.map (List.map Arrival.byte) = samples.map Sample.frame
        → Prompt frames.flatten
        → SomeDelivered (demodulator.run (SaModem.new memory) earlier) frames samples := by
  rintro ⟨count, bounded⟩
  refine resting_never_delivered (fun _ => 0) count (bounded (fun _ => 0) (restingFrame.drop 3)
    (List.replicate count restingFrame) (List.replicate count restingSample) (by simp) ?_ ?_)
  · rw [List.map_replicate, List.map_replicate]
    rfl
  · exact prompt_of_still (fun _ member => restingFrame_still member)

end Cooboc.HeadRest
