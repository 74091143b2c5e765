import Mathlib.Tactic.IntervalCases
import Cooboc.HeadRest.Firmware
import Cooboc.HeadRest.HrDriver
import Cooboc.SerialPacket.SaModemProgress

/-! The firmware's frames are the demodulator's packets, and the driver publishes from each
packet the sample it was built from, however the stream is cut into chunks.
-/

namespace Cooboc.HeadRest

open Cooboc.Foundations Cooboc.SerialPacket

/-- The receiver's 16-bit word is the one the firmware split, sign bit included.
Witness: bit by bit; the low eight come from one byte, the high eight from the other.
-/
theorem joinShort_bytes (word : AvrInt)
    : joinShort (lowByte word) (lowByte (shiftByte word)) = word := by
  apply BitVec.eq_of_getLsbD_eq
  intro i bound
  simp only [joinShort, lowByte, shiftByte, UInt8.toBitVec_ofBitVec, BitVec.getLsbD_or,
    BitVec.getLsbD_shiftLeft, BitVec.getLsbD_setWidth, BitVec.getLsbD_and,
    BitVec.getLsbD_sshiftRight]
  interval_cases i <;> simp

/-- The receiver's 32-bit distance is the reading the firmware split. -/
theorem joinInt_bytes (reading : Fin 1024)
    : (joinInt (lowByte (BitVec.ofNat 16 reading))
        (lowByte (shiftByte (BitVec.ofNat 16 reading)))).toInt
      = (reading : Int) := by
  revert reading
  decide +kernel

/-- The firmware's running checksum is the exclusive or of the payload. -/
theorem frameCrc_eq (hrPosition d1 d2 : AvrInt)
    : frameCrc hrPosition d1 d2 = xorSum (payloadBytes hrPosition d1 d2) := by
  simp [frameCrc, xorSum, payloadBytes]

/-- A frame is a packet of the sample's payload, followed by carriage return and line
feed.
-/
theorem Sample.frame_eq (sample : Sample)
    : sample.frame = saFraming.packet sample.payload ++ [0x0D, 0x0A] := by
  simp only [Sample.frame, sendData, frameCrc_eq]
  rfl

theorem Sample.payload_length (sample : Sample) : sample.payload.length = 6 := rfl

theorem Sample.payload_short (sample : Sample) : sample.payload.length < 256 := by
  rw [sample.payload_length]
  decide

-----------------------------------------------------------------------------------------
-- The driver publishes what the receiver delivers
-----------------------------------------------------------------------------------------

/-- The values built from a payload's first six bytes, with the flag set. -/
def publicationOf (payload : List UInt8) : Publication :=
  ⟨(joinShort (payload.getD 0 0) (payload.getD 1 0)).toInt,
    ((joinInt (payload.getD 2 0) (payload.getD 3 0)).toInt,
      (joinInt (payload.getD 4 0) (payload.getD 5 0)).toInt),
    true⟩

/-- A sample's own values: its signed position and its two readings. -/
def Sample.publication (sample : Sample) : Publication :=
  ⟨sample.hrPosition.toInt, ((sample.d1 : Int), (sample.d2 : Int)), true⟩

theorem Sample.publicationOf_payload (sample : Sample)
    : publicationOf sample.payload = sample.publication := by
  simp only [publicationOf, Sample.payload, payloadBytes, List.getD_cons_zero,
    List.getD_cons_succ, joinShort_bytes, joinInt_bytes, Sample.publication]

/-- A delivered six-byte payload overwrites all six bytes the driver reads. -/
theorem HrDriver.publish_publication {driver : HrDriver} {payload : List UInt8}
    (delivers : driver.mSaModem.Delivers payload) (six : payload.length = 6)
    : driver.publish.publication = publicationOf payload := by
  obtain ⟨_, copied⟩ := delivers driver.mReadDataBuffer
  have read (i : Nat) (bound : i < 6)
      : (driver.mSaModem.getLastPayload driver.mReadDataBuffer).1 i = payload.getD i 0 := by
    have within : i < payload.length := by omega
    rw [copied i within, List.getD_eq_getElem?_getD, List.getElem?_eq_getElem within]
    rfl
  simp only [HrDriver.publication, HrDriver.publish, publicationOf, read 0 (by decide),
    read 1 (by decide), read 2 (by decide), read 3 (by decide), read 4 (by decide),
    read 5 (by decide)]

theorem HrDriver.readByte_mSaModem (driver : HrDriver) (arrival : Arrival)
    : (driver.readByte arrival).1.mSaModem
      = (driver.mSaModem.demodulateByte arrival).1 := by
  unfold HrDriver.readByte
  dsimp only
  split <;> rfl

/-- A byte publishes the values of the packet the receiver delivers with it, if the packet
carries six bytes. Witness: `getLastPayload` follows the acceptance.
-/
theorem HrDriver.readByte_publishes {driver : HrDriver} {progress : Progress}
    (represents : driver.mSaModem.Represents progress) {arrival : Arrival}
    (six
      : ∀ payload,
          (saFraming.receiver.step progress
            (reception driver.mSaModem.lastDecodeTime arrival)).2 = some payload
          → payload.length = 6)
    : (driver.readByte arrival).2
      = (saFraming.receiver.step progress
          (reception driver.mSaModem.lastDecodeTime arrival)).2.map publicationOf := by
  obtain ⟨_, accepted, delivers⟩ := represents.step arrival
  cases delivered : (saFraming.receiver.step progress
      (reception driver.mSaModem.lastDecodeTime arrival)).2 with
  | none =>
      rw [delivered] at accepted
      simp [HrDriver.readByte, accepted]
  | some payload =>
      rw [delivered] at accepted
      have held : { driver with
          mSaModem := (driver.mSaModem.demodulateByte arrival).1 }.mSaModem.Delivers
            payload :=
        delivers payload delivered
      have values := HrDriver.publish_publication held (six payload delivered)
      simp [HrDriver.readByte, accepted, values]

/-- While all packets carry six bytes, the driver publishes the values of exactly the
packets the receiver delivers. Witness: induction over the bytes.
-/
theorem HrDriver.run_publishes {driver : HrDriver} {progress : Progress}
    (represents : driver.mSaModem.Represents progress) (arrivals : List Arrival)
    (six
      : ∀ payload,
          some payload
            ∈ saFraming.receiver.outputs progress
                (receptions driver.mSaModem.lastDecodeTime arrivals)
          → payload.length = 6)
    : (byteReader.run driver arrivals).mSaModem.Represents
        (saFraming.receiver.run progress
          (receptions driver.mSaModem.lastDecodeTime arrivals))
      ∧ byteReader.outputs driver arrivals
        = (saFraming.receiver.outputs progress
            (receptions driver.mSaModem.lastDecodeTime arrivals)).map
            (Option.map publicationOf) := by
  induction arrivals generalizing driver progress with
  | nil => exact ⟨represents, rfl⟩
  | cons arrival rest ih =>
      have stepped := driver.readByte_mSaModem arrival
      have stamped : (driver.readByte arrival).1.mSaModem.lastDecodeTime
          = arrival.decodeTime := by
        rw [stepped, SaModem.demodulateByte_lastDecodeTime]
      have published := HrDriver.readByte_publishes represents
        (fun payload delivered => six payload (delivered ▸ List.mem_cons_self))
      have represented : (driver.readByte arrival).1.mSaModem.Represents _ :=
        stepped ▸ (represents.step arrival).represents
      have later := ih represented (by
        rw [stamped]
        intro payload member
        exact six payload (List.mem_cons_of_mem _ member))
      rw [stamped] at later
      refine ⟨later.1, ?_⟩
      change (driver.readByte arrival).2 :: _ = _ :: _
      rw [published, List.cons_eq_cons]
      exact ⟨rfl, later.2⟩

/-- An idle receiver delivers a frame's payload at its checksum, and is idle at its end.
-/
theorem Sample.receiver_frame (sample : Sample)
    : saFraming.receiver.run .idle (inTime sample.frame) = .idle
      ∧ saFraming.receiver.outputs .idle (inTime sample.frame)
        = List.replicate 9 none ++ [some sample.payload] ++ [none, none] := by
  have unlocking : ∀ reception ∈ inTime [0x0D, 0x0A], reception.byte ≠ saFraming.lead := by
    decide
  obtain ⟨arrived, delivered⟩ := saFraming.receiver_packet sample.payload_short
  obtain ⟨rests, silent⟩ := saFraming.receiver_filler unlocking
  rw [sample.frame_eq, inTime_append, Machine.run_append, Machine.outputs_append, arrived,
    delivered, sample.payload_length]
  exact ⟨rests, congrArg _ silent⟩

/-- A prompt frame leaves the driver's demodulator idle and publishes its sample once. -/
theorem HrDriver.run_frame {driver : HrDriver} {frame : List Arrival} {sample : Sample}
    (idle : driver.mSaModem.Represents .idle) (prompt : Prompt frame)
    (sent : frame.map Arrival.byte = sample.frame)
    : (byteReader.run driver frame).mSaModem.Represents .idle
      ∧ (byteReader.outputs driver frame).filterMap id = [sample.publication] := by
  obtain ⟨ended, delivered⟩ := receiver_prompt prompt driver.mSaModem.lastDecodeTime
  obtain ⟨rests, answers⟩ := sample.receiver_frame
  rw [sent] at ended delivered
  rw [rests] at ended
  rw [answers] at delivered
  obtain ⟨represents, published⟩ := HrDriver.run_publishes idle frame (by
    rw [delivered]
    intro payload member
    have same : payload = sample.payload := by simpa using member
    rw [same, sample.payload_length])
  refine ⟨ended ▸ represents, ?_⟩
  rw [published, delivered]
  simp [sample.publicationOf_payload, List.replicate]

/-- A sequence of prompt frames publishes its samples in order. Witness: induction over
the frames; each starts and ends with an idle demodulator.
-/
theorem HrDriver.run_frames {driver : HrDriver} {frames : List (List Arrival)}
    {samples : List Sample} (idle : driver.mSaModem.Represents .idle)
    (prompt : ∀ frame ∈ frames, Prompt frame)
    (sent : frames.map (List.map Arrival.byte) = samples.map Sample.frame)
    : (byteReader.outputs driver frames.flatten).filterMap id
      = samples.map Sample.publication := by
  induction frames generalizing driver samples with
  | nil =>
      obtain rfl : samples = [] := List.map_eq_nil_iff.mp sent.symm
      rfl
  | cons frame rest ih =>
      cases samples with
      | nil => cases sent
      | cons sample later =>
          obtain ⟨first, others⟩ := List.cons.inj sent
          obtain ⟨again, published⟩ := HrDriver.run_frame idle
            (prompt frame (by simp)) first
          have remaining := ih again
            (fun other member => prompt other (by simp [member])) others
          rw [List.flatten_cons, Machine.outputs_append, List.filterMap_append, published,
            remaining]
          rfl

/-- Reading chunk by chunk publishes the same values as reading byte by byte. -/
theorem HrDriver.readData_outputs (driver : HrDriver) (recvs : List Recv)
    : (chunkReader.outputs driver recvs).flatten
      = (byteReader.outputs driver (recvs.flatMap Recv.arrivals)).filterMap id := by
  induction recvs generalizing driver with
  | nil => rfl
  | cons recv rest ih =>
      rw [Machine.outputs_cons, List.flatten_cons, ih, List.flatMap_cons,
        Machine.outputs_append, List.filterMap_append]
      rfl

/-- Whatever samples the firmware transmits and however `recv` cuts the stream, a fresh
driver publishes exactly these samples in order, provided the bytes of each frame are
demodulated without a gap above the timeout. Witness: chunks do not matter, and each frame
is one packet followed by two bytes that an idle demodulator ignores.
-/
theorem readData_publishes_samples (dataMemory modemMemory : Nat → UInt8)
    (samples : List Sample) (frames : List (List Arrival)) (recvs : List Recv)
    (sent : frames.map (List.map Arrival.byte) = samples.map Sample.frame)
    (prompt : ∀ frame ∈ frames, Prompt frame)
    (cut : recvs.flatMap Recv.arrivals = frames.flatten)
    : (chunkReader.outputs (HrDriver.new dataMemory modemMemory) recvs).flatten
      = samples.map Sample.publication := by
  rw [HrDriver.readData_outputs, cut]
  exact HrDriver.run_frames (SaModem.new_represents modemMemory) prompt sent

/-- A negative position and readings whose low bytes are `S` and `A`, read in four chunks
with a failed and an empty one among them.
-/
theorem readData_publishes_samples_negative
    : let sample : Sample := ⟨-2, 0x153, 0x241⟩
      let frame : List Arrival := sample.frame.map (fun byte => ⟨byte, 0, 500⟩)
      (chunkReader.outputs (HrDriver.new (fun _ => 0) (fun _ => 0xFF))
          [.read (frame.take 5), .failed, .read [], .read (frame.drop 5)]).flatten
        = [⟨-2, (339, 577), true⟩] :=
  readData_publishes_samples (fun _ => 0) (fun _ => 0xFF) [⟨-2, 0x153, 0x241⟩]
    [(Sample.frame ⟨-2, 0x153, 0x241⟩).map (fun byte => ⟨byte, 0, 500⟩)] _
    (by decide +kernel)
    (by unfold Prompt; decide +kernel) (by decide +kernel)

end Cooboc.HeadRest
