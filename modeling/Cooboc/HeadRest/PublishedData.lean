import Cooboc.HeadRest.SampleDelivery

/-! What the driver publishes: a packet of six payload bytes is published from its own bytes,
a packet of any other length from what the data buffer happens to hold.
-/

namespace Cooboc.HeadRest

open Cooboc.Foundations Cooboc.SerialPacket

/-- (driver.PublishesReceived received arrival) says of the loop body of `readData` that it
assigns only what it received: the values come from the six payload bytes of the packet
that ends the bytes received, and a packet of another length leaves all values alone.
-/
structure HrDriver.PublishesReceived (driver : HrDriver) (received : List UInt8)
    (arrival : Arrival) : Prop where
  published
    : ∀ publication,
        (driver.readByte arrival).2 = some publication
        → ∃ payload,
            payload.length = 6
            ∧ 6 :: payload ++ [arrival.byte] <:+ received
            ∧ publication = publicationOf payload
  unchanged
    : ∀ payload,
        (driver.mSaModem.demodulateByte arrival).2 = true
        → (driver.mSaModem.demodulateByte arrival).1.Delivers payload
        → payload.length ≠ 6
        → (driver.readByte arrival).2 = none
          ∧ (driver.readByte arrival).1.publication = driver.publication

/-- The byte completes the packet being read: locked and in time, it is the checksum that
comes behind the payload.
-/
def Completes (modem : SaModem) (arrival : Arrival) : Prop :=
  modem.mIsPacketLocked = true
  ∧ modem.mPacketIndex = 4
  ∧ isLate modem.lastDecodeTime arrival = false
  ∧ arrival.byte = modem.crcCalculated

/-- Elsewhere than at the checksum no byte in time is accepted. -/
theorem demodulateByte_elsewhere {modem : SaModem} {arrival : Arrival}
    (locked : modem.mIsPacketLocked = true)
    (inTime : isLate modem.lastDecodeTime arrival = false)
    (elsewhere : modem.mPacketIndex ≠ 4)
    : (modem.demodulateByte arrival).2 = false := by
  rw [SaModem.demodulateByte_inTime locked inTime]
  split
  · rfl
  · split <;> rfl
  · rfl
  · rfl
  · next index => exact absurd index elsewhere
  · rfl

/-- A byte is accepted exactly if it completes a packet. -/
theorem demodulateByte_accepts_iff (modem : SaModem) (arrival : Arrival)
    : (modem.demodulateByte arrival).2 = true ↔ Completes modem arrival := by
  unfold Completes
  cases locked : modem.mIsPacketLocked with
  | false =>
      rw [SaModem.demodulateByte_unlocked locked]
      split <;> simp
  | true =>
      cases late : isLate modem.lastDecodeTime arrival with
      | true =>
          rw [SaModem.demodulateByte_late locked late]
          simp
      | false =>
          by_cases index : modem.mPacketIndex = 4
          · rw [SaModem.demodulateByte_inTime locked late, index]
            have sum : (modem.stamp arrival).crcCalculated = modem.crcCalculated := rfl
            simp only [SaModem.readCrc, sum]
            by_cases matched : arrival.byte = modem.crcCalculated
            · simp [matched]
            · simp [matched]
          · rw [demodulateByte_elsewhere locked late index]
            exact iff_of_false Bool.false_ne_true (fun completes => index completes.2.1)

/-- The driver's demodulator reads what the driver reads. -/
theorem HrDriver.run_mSaModem (driver : HrDriver) (arrivals : List Arrival)
    : (byteReader.run driver arrivals).mSaModem
      = demodulator.run driver.mSaModem arrivals := by
  induction arrivals generalizing driver with
  | nil => rfl
  | cons arrival rest ih =>
      have fed := driver.readByte_mSaModem arrival
      rw [Machine.run_cons, ih, Machine.run_cons]
      exact congrArg (fun modem => demodulator.run modem rest) fed

/-- Reading chunk by chunk leaves the same driver as reading byte by byte. -/
theorem HrDriver.run_chunks (driver : HrDriver) (recvs : List Recv)
    : chunkReader.run driver recvs
      = byteReader.run driver (recvs.flatMap Recv.arrivals) := by
  induction recvs generalizing driver with
  | nil => rfl
  | cons recv rest ih =>
      rw [Machine.run_cons, ih, List.flatMap_cons, Machine.run_append]
      rfl

/-- The demodulator holds the length and the payload bytes that it read last. -/
def Recalls (history : List Arrival) (modem : SaModem) : Prop :=
  ∃ progress : Progress,
    modem.Represents progress ∧ progress.Recent (history.map Arrival.byte)

/-- Every demodulator recalls what it has read. -/
theorem recalls_run (memory : Nat → UInt8) (arrivals : List Arrival)
    : Recalls arrivals (demodulator.run (SaModem.new memory) arrivals) := by
  apply (demodulator.always_true (SaModem.new memory) arrivals).run_history Recalls
  · exact ⟨.idle, SaModem.new_represents memory, trivial⟩
  · intro history modem arrival ⟨progress, represents, recent⟩ _
    refine ⟨_, (represents.step arrival).represents, ?_⟩
    rw [List.map_append]
    exact (recent.receive (reception modem.lastDecodeTime arrival)).1

/-- An accepted byte ends the length byte, the payload and the checksum of a packet, whose
payload `getLastPayload` returns.
-/
theorem Recalls.accepted {history : List Arrival} {modem : SaModem}
    (recalls : Recalls history modem) {arrival : Arrival}
    (accepted : (modem.demodulateByte arrival).2 = true)
    : ∃ payload,
        (modem.demodulateByte arrival).1.Delivers payload
        ∧ UInt8.ofNat payload.length :: payload ++ [arrival.byte]
          <:+ (history ++ [arrival]).map Arrival.byte := by
  obtain ⟨progress, represents, recent⟩ := recalls
  obtain ⟨_, returned, delivers⟩ := represents.step arrival
  rw [accepted] at returned
  obtain ⟨payload, delivered⟩ := Option.isSome_iff_exists.mp returned.symm
  have behind := (recent.receive (reception modem.lastDecodeTime arrival)).2 payload delivered
  refine ⟨payload, delivers payload delivered, ?_⟩
  rw [List.map_append]
  exact behind

/-- Accepting a byte keeps the payload size. -/
theorem demodulateByte_mPayloadSize {modem : SaModem} {arrival : Arrival}
    (completes : Completes modem arrival)
    : (modem.demodulateByte arrival).1.mPayloadSize = modem.mPayloadSize := by
  obtain ⟨locked, index, inTime, checksum⟩ := completes
  have sum : (modem.stamp arrival).crcCalculated = modem.crcCalculated := rfl
  rw [SaModem.demodulateByte_inTime locked inTime, index]
  simp only [SaModem.readCrc, sum, if_pos checksum]
  rfl

/-- The size of a packet that completes is the length of its payload. -/
theorem Completes.mPayloadSize {modem : SaModem} {arrival : Arrival}
    (completes : Completes modem arrival) {payload : List UInt8}
    (delivers : (modem.demodulateByte arrival).1.Delivers payload)
    : modem.mPayloadSize = payload.length :=
  (demodulateByte_mPayloadSize completes).symm.trans (delivers fun _ => 0).1

/-- An accepted byte is published, whatever the length of its packet. -/
theorem HrDriver.readByte_accepted {driver : HrDriver} {arrival : Arrival}
    (accepted : (driver.mSaModem.demodulateByte arrival).2 = true)
    : (driver.readByte arrival).2
      = some ({ driver with
            mSaModem := (driver.mSaModem.demodulateByte arrival).1 }).publish.publication := by
  simp [HrDriver.readByte, accepted]

/-- Nothing is published at other bytes. -/
theorem HrDriver.readByte_ignored {driver : HrDriver} {arrival : Arrival}
    (ignored : (driver.mSaModem.demodulateByte arrival).2 = false)
    : (driver.readByte arrival).2 = none := by
  simp [HrDriver.readByte, ignored]

/-- A driver that recalls what it has read publishes only that exactly if a packet that the
byte completes has a six-byte payload. Witness: whatever is accepted is published.
-/
theorem HrDriver.publishesReceived_iff {driver : HrDriver} {history : List Arrival}
    (recalls : Recalls history driver.mSaModem) (arrival : Arrival)
    : driver.PublishesReceived ((history ++ [arrival]).map Arrival.byte) arrival
      ↔ (Completes driver.mSaModem arrival → driver.mSaModem.mPayloadSize = 6) := by
  constructor
  · intro publishes completes
    have accepted := (demodulateByte_accepts_iff _ _).mpr completes
    obtain ⟨payload, delivers, _⟩ := recalls.accepted accepted
    rw [completes.mPayloadSize delivers]
    by_contra other
    obtain ⟨none, _⟩ := publishes.unchanged payload accepted delivers other
    rw [HrDriver.readByte_accepted accepted] at none
    cases none
  · intro six
    refine ⟨fun publication published => ?_, fun payload accepted delivers other => ?_⟩
    · cases accepted : (driver.mSaModem.demodulateByte arrival).2 with
      | false =>
          rw [HrDriver.readByte_ignored accepted] at published
          cases published
      | true =>
          have completes := (demodulateByte_accepts_iff _ _).mp accepted
          obtain ⟨payload, delivers, behind⟩ := recalls.accepted accepted
          have length := (completes.mPayloadSize delivers).symm.trans (six completes)
          rw [HrDriver.readByte_accepted accepted] at published
          rw [length] at behind
          refine ⟨payload, length, behind, ?_⟩
          rw [← Option.some.inj published]
          exact HrDriver.publish_publication delivers length
    · have completes := (demodulateByte_accepts_iff _ _).mp accepted
      exact absurd ((completes.mPayloadSize delivers).symm.trans (six completes)) other

/-- For every byte stream, cut into chunks in any way and with any timing, and every byte of
a chunk that `readData` comes to: it publishes only what it received exactly if the byte
completes no packet, or one with six payload bytes. Witness: the demodulator recalls the
bytes it has read, whatever the chunks were.
-/
theorem readData_publishes_received_iff (dataMemory modemMemory : Nat → UInt8)
    (recvs : List Recv) (before : List Arrival) (arrival : Arrival)
    : let driver :=
        byteReader.run (chunkReader.run (HrDriver.new dataMemory modemMemory) recvs) before
      driver.PublishesReceived
          ((recvs.flatMap Recv.arrivals ++ before ++ [arrival]).map Arrival.byte) arrival
      ↔ (Completes driver.mSaModem arrival → driver.mSaModem.mPayloadSize = 6) := by
  intro driver
  have modem : driver.mSaModem
      = demodulator.run (SaModem.new modemMemory) (recvs.flatMap Recv.arrivals ++ before) := by
    rw [HrDriver.run_mSaModem, HrDriver.run_chunks, HrDriver.run_mSaModem,
      Machine.run_append]
    rfl
  have recalls : Recalls (recvs.flatMap Recv.arrivals ++ before) driver.mSaModem := by
    rw [modem]
    exact recalls_run modemMemory _
  exact HrDriver.publishesReceived_iff recalls arrival

/-- An empty packet behind a sample publishes the sample again. -/
theorem readData_publishes_stale
    : let sample : List Arrival :=
        (Sample.frame ⟨-2, 0x153, 0x241⟩).map (fun byte => ⟨byte, 0, 0⟩)
      let header : List Arrival := [0x53, 0x41, 0].map (fun byte => ⟨byte, 0, 0⟩)
      let checksum : Arrival := ⟨0, 0, 0⟩
      let driver := byteReader.run
        (chunkReader.run (HrDriver.new (fun _ => 0) (fun _ => 0)) [.read sample]) header
      ¬ driver.PublishesReceived ((sample ++ header ++ [checksum]).map Arrival.byte)
          checksum := by
  intro sample header checksum driver publishes
  have size : (driver.mSaModem.demodulateByte checksum).1.mPayloadSize
      = ([] : List UInt8).length := by
    decide +kernel
  have delivers := SaModem.delivers_of_stored size rfl
  have unpublished := publishes.unchanged [] (by decide +kernel) delivers (by decide)
  exact absurd unpublished.1 (by decide +kernel)

end Cooboc.HeadRest
