import Cooboc.SerialPacket.SaModemProgress

/-! The state invariant of the demodulator: where its packet index and its payload counter can
stand, which cells of the payload buffer a call touches, and whose bytes the checksum loop
reads.
-/

namespace Cooboc.SerialPacket

open Cooboc.Foundations

/-- The case of the `switch` that a call executes, if it gets there. -/
def SaModem.executedCase (modem : SaModem) (arrival : Arrival) : Option Nat :=
  if modem.mIsPacketLocked = true ∧ isLate modem.lastDecodeTime arrival = false then
    some modem.mPacketIndex
  else
    none

/-- The cells of `mPayloadBuffer` that a call writes. -/
def SaModem.writtenCells (modem : SaModem) (arrival : Arrival) : List Nat :=
  if modem.executedCase arrival = some 3 then [modem.mPayloadIndex] else []

/-- Where the counters of a demodulator stand. -/
structure SaModem.WellFormed (modem : SaModem) : Prop where
  index : modem.mIsPacketLocked = true → 1 ≤ modem.mPacketIndex ∧ modem.mPacketIndex ≤ 4
  reading
    : modem.mIsPacketLocked = true → modem.mPacketIndex = 3
      → modem.mPayloadIndex < modem.mPayloadSize
  complete
    : modem.mIsPacketLocked = true → modem.mPacketIndex = 4 → 0 < modem.mPayloadSize
      → modem.mPayloadIndex = modem.mPayloadSize
  size : modem.mPayloadSize ≤ 255

/-- A call executes neither the case 0 nor the default case, writes below 255, and leaves the
rest of the buffer as it is.
-/
structure SaModem.SafeCall (modem : SaModem) (arrival : Arrival) : Prop where
  cases : ∀ index, modem.executedCase arrival = some index → 1 ≤ index ∧ index ≤ 4
  writes : ∀ cell ∈ modem.writtenCells arrival, cell < 255
  rest
    : ∀ cell, 255 ≤ cell
      → (modem.demodulateByte arrival).1.mPayloadBuffer cell = modem.mPayloadBuffer cell

/-- The bytes that have arrived end with a packet that is still open: an unlocked demodulator
took its leading byte and has stayed locked since. `read` are the last bytes of the packet.
-/
def OpenPacket (start : SaModem) (arrivals : List Arrival) (read : List UInt8) : Prop :=
  ∃ before opening header payload,
    arrivals = before ++ opening :: (header ++ payload)
    ∧ (demodulator.run start before).mIsPacketLocked = false
    ∧ opening.byte = saLeadingByte
    ∧ demodulator.Throughout (fun modem => modem.mIsPacketLocked = true)
        (demodulator.run start (before ++ [opening])) (header ++ payload)
    ∧ payload.map Arrival.byte = read

/-- At most 255 bytes are copied into the caller's buffer. -/
def SaModem.CopiesWithin (modem : SaModem) : Prop :=
  ∀ buffer,
    (modem.getLastPayload buffer).2 ≤ 255
    ∧ ∀ i, 255 ≤ i → (modem.getLastPayload buffer).1 i = buffer i

-----------------------------------------------------------------------------------------
-- Counters
-----------------------------------------------------------------------------------------

/-- Unlocked, only the size matters. -/
theorem SaModem.wellFormed_unlocked {modem : SaModem}
    (unlocked : modem.mIsPacketLocked = false) (size : modem.mPayloadSize ≤ 255)
    : modem.WellFormed := by
  have never (locked : modem.mIsPacketLocked = true) : False :=
    Bool.noConfusion (locked.symm.trans unlocked)
  exact ⟨fun locked => (never locked).elim, fun locked => (never locked).elim,
    fun locked => (never locked).elim, size⟩

/-- Nor does more within the two header bytes. -/
theorem SaModem.wellFormed_header {modem : SaModem}
    (index : modem.mPacketIndex = 1 ∨ modem.mPacketIndex = 2)
    (size : modem.mPayloadSize ≤ 255)
    : modem.WellFormed :=
  ⟨fun _ => by omega, fun _ third => by omega, fun _ fourth => by omega, size⟩

theorem SaModem.new_wellFormed (memory : Nat → UInt8) : (SaModem.new memory).WellFormed :=
  SaModem.wellFormed_unlocked rfl (Nat.zero_le 255)

theorem SaModem.resetStatus_wellFormed (modem : SaModem) : modem.resetStatus.WellFormed :=
  SaModem.wellFormed_unlocked rfl (Nat.zero_le 255)

theorem SaModem.WellFormed.stamp {modem : SaModem} (wellFormed : modem.WellFormed)
    (arrival : Arrival)
    : (modem.stamp arrival).WellFormed :=
  ⟨wellFormed.index, wellFormed.reading, wellFormed.complete, wellFormed.size⟩

/-- The length case leaves the counter at the start of a payload that is not empty. -/
theorem SaModem.readSize_wellFormed (modem : SaModem) (byte : UInt8)
    : (modem.readSize byte).1.WellFormed := by
  have size : byte.toNat ≤ 255 := Nat.le_of_lt_succ byte.toNat_lt
  by_cases empty : byte.toNat = 0
  · have index : (modem.readSize byte).1.mPacketIndex = 4 := if_pos empty
    refine ⟨fun _ => by omega, fun _ three => by omega, fun _ _ positive => ?_, size⟩
    exact absurd empty (Nat.pos_iff_ne_zero.mp positive)
  · have index : (modem.readSize byte).1.mPacketIndex = 3 := if_neg empty
    exact ⟨fun _ => by omega, fun _ _ => Nat.pos_of_ne_zero empty, fun _ four => by omega, size⟩

/-- The payload case moves the counter on, and the packet index with it at the end. -/
theorem SaModem.WellFormed.readPayload {modem : SaModem} (wellFormed : modem.WellFormed)
    (locked : modem.mIsPacketLocked = true) (third : modem.mPacketIndex = 3) (byte : UInt8)
    : (modem.readPayload byte).1.WellFormed := by
  have room := wellFormed.reading locked third
  by_cases last : modem.mPayloadIndex + 1 = modem.mPayloadSize
  · have index : (modem.readPayload byte).1.mPacketIndex = 4 := by
      simp [SaModem.readPayload, last, third]
    exact ⟨fun _ => by omega, fun _ three => by omega, fun _ _ _ => last, wellFormed.size⟩
  · have index : (modem.readPayload byte).1.mPacketIndex = 3 := by
      simp [SaModem.readPayload, last, third]
    refine ⟨fun _ => by omega, fun _ _ => ?_, fun _ four => by omega, wellFormed.size⟩
    change modem.mPayloadIndex + 1 < modem.mPayloadSize
    omega

/-- The checksum case unlocks in either branch. -/
theorem SaModem.WellFormed.readCrc {modem : SaModem} (wellFormed : modem.WellFormed)
    (byte : UInt8)
    : (modem.readCrc byte).1.WellFormed := by
  unfold SaModem.readCrc
  split
  · exact SaModem.wellFormed_unlocked rfl wellFormed.size
  · exact modem.resetStatus_wellFormed

/-- Every call keeps the counters in their places. Witness: unlocked, late, or one case of the
`switch` for each packet index.
-/
theorem SaModem.WellFormed.step {modem : SaModem} (wellFormed : modem.WellFormed)
    (arrival : Arrival)
    : (modem.demodulateByte arrival).1.WellFormed := by
  have stamped := wellFormed.stamp arrival
  cases locked : modem.mIsPacketLocked with
  | false =>
      rw [SaModem.demodulateByte_unlocked locked]
      split
      · exact SaModem.wellFormed_header (.inl rfl) wellFormed.size
      · exact SaModem.resetStatus_wellFormed _
  | true =>
      cases late : isLate modem.lastDecodeTime arrival with
      | true =>
          rw [SaModem.demodulateByte_late locked late]
          exact SaModem.resetStatus_wellFormed _
      | false =>
          have called := SaModem.demodulateByte_inTime locked late
          rw [called]
          split
          · exact SaModem.resetStatus_wellFormed _
          · split
            · exact SaModem.wellFormed_header (.inr rfl) wellFormed.size
            · exact SaModem.readSize_wellFormed _ _
          · exact SaModem.readSize_wellFormed _ _
          next third => exact stamped.readPayload locked third arrival.byte
          · exact stamped.readCrc arrival.byte
          · exact SaModem.resetStatus_wellFormed _

/-- Cells that a call does not write keep their bytes. Witness: only the payload case assigns
to the buffer.
-/
theorem SaModem.demodulateByte_elsewhere (modem : SaModem) (arrival : Arrival) {cell : Nat}
    (elsewhere : cell ∉ modem.writtenCells arrival)
    : (modem.demodulateByte arrival).1.mPayloadBuffer cell = modem.mPayloadBuffer cell := by
  cases locked : modem.mIsPacketLocked with
  | false =>
      rw [SaModem.demodulateByte_unlocked locked]
      split <;> rfl
  | true =>
      cases late : isLate modem.lastDecodeTime arrival with
      | true =>
          rw [SaModem.demodulateByte_late locked late]
          rfl
      | false =>
          rw [SaModem.demodulateByte_inTime locked late]
          split
          · rfl
          · split <;> rfl
          · rfl
          next third =>
            have executed : modem.executedCase arrival = some 3 := by
              rw [SaModem.executedCase, if_pos ⟨locked, late⟩, third]
            rw [SaModem.writtenCells, if_pos executed, List.mem_singleton] at elsewhere
            exact Function.update_of_ne elsewhere _ _
          · unfold SaModem.readCrc
            split <;> rfl
          · rfl

/-- A well-formed demodulator makes safe calls. Witness: it is locked where the `switch` is
reached, and its counter is below a size of at most 255 where a byte is written.
-/
theorem SaModem.WellFormed.safeCall {modem : SaModem} (wellFormed : modem.WellFormed)
    (arrival : Arrival)
    : modem.SafeCall arrival := by
  have reached {index : Nat} (executed : modem.executedCase arrival = some index)
      : modem.mIsPacketLocked = true ∧ modem.mPacketIndex = index := by
    unfold SaModem.executedCase at executed
    split at executed
    next inTime => exact ⟨inTime.1, Option.some.inj executed⟩
    next => cases executed
  have writes (cell : Nat) (member : cell ∈ modem.writtenCells arrival) : cell < 255 := by
    unfold SaModem.writtenCells at member
    split at member
    next executed =>
      obtain ⟨locked, third⟩ := reached executed
      rw [List.mem_singleton.mp member]
      exact (wellFormed.reading locked third).trans_le wellFormed.size
    next => cases member
  refine ⟨fun index executed => ?_, writes, fun cell far => ?_⟩
  · obtain ⟨locked, rfl⟩ := reached executed
    exact wellFormed.index locked
  · exact modem.demodulateByte_elsewhere arrival
      (fun member => absurd (writes cell member) (not_lt.mpr far))

/-- A well-formed demodulator copies at most 255 bytes. -/
theorem SaModem.WellFormed.copiesWithin {modem : SaModem} (wellFormed : modem.WellFormed)
    : modem.CopiesWithin := by
  intro buffer
  refine ⟨wellFormed.size, fun i far => ?_⟩
  have outside : ¬ i < modem.mPayloadSize := not_lt.mpr (wellFormed.size.trans far)
  exact if_neg outside

-----------------------------------------------------------------------------------------
-- The current packet
-----------------------------------------------------------------------------------------

theorem SaModem.Represents.locked_iff {modem : SaModem} {progress : Progress}
    (represents : modem.Represents progress)
    : modem.mIsPacketLocked = true ↔ progress ≠ .idle := by
  cases progress with
  | idle =>
      have unlocked : modem.mIsPacketLocked = false := represents
      simp [unlocked]
  | _ => simp [represents.1]

/-- A leading byte opens a packet behind an unlocked demodulator. -/
theorem OpenPacket.opens {start : SaModem} {arrivals : List Arrival} {opening : Arrival}
    (unlocked : (demodulator.run start arrivals).mIsPacketLocked = false)
    (leading : opening.byte = saLeadingByte)
    (locked : (demodulator.run start (arrivals ++ [opening])).mIsPacketLocked = true)
    : OpenPacket start (arrivals ++ [opening]) [] :=
  ⟨arrivals, opening, [], [], rfl, unlocked, leading,
    demodulator.throughout_nil.mpr locked, rfl⟩

/-- A byte that leaves the demodulator locked belongs to the packet, as one more byte read or
as the last one of the header.
-/
theorem OpenPacket.concat {start : SaModem} {arrivals : List Arrival} {read : List UInt8}
    (packet : OpenPacket start arrivals read) {arrival : Arrival}
    (locked : (demodulator.run start (arrivals ++ [arrival])).mIsPacketLocked = true)
    : OpenPacket start (arrivals ++ [arrival]) (read ++ [arrival.byte])
      ∧ OpenPacket start (arrivals ++ [arrival]) [] := by
  obtain ⟨before, opening, header, payload, rfl, unlocked, leading, within, rfl⟩ := packet
  have still
      : demodulator.Throughout (fun modem => modem.mIsPacketLocked = true)
          (demodulator.run start (before ++ [opening])) (header ++ payload ++ [arrival]) := by
    apply within.concat
    rw [← Machine.run_append]
    simpa using locked
  constructor
  · refine ⟨before, opening, header, payload ++ [arrival], by simp, unlocked, leading, ?_,
      by simp⟩
    rwa [← List.append_assoc]
  · refine ⟨before, opening, header ++ payload ++ [arrival], [], by simp, unlocked, leading,
      ?_, rfl⟩
    rwa [List.append_nil]

/-- Behind the arrivals the demodulator represents a progress; if it is in a packet, the
arrivals end with that packet, and the bytes it holds are the last ones of it.
-/
structure HoldsPacket (start : SaModem) (arrivals : List Arrival) (progress : Progress)
    : Prop where
  represents : (demodulator.run start arrivals).Represents progress
  packet : progress ≠ .idle → OpenPacket start arrivals progress.held

/-- Every call continues the packet, opens one, or leaves it. Witness: what the receiver holds
behind the byte.
-/
theorem HoldsPacket.step {start : SaModem} {arrivals : List Arrival} {progress : Progress}
    (holds : HoldsPacket start arrivals progress) (arrival : Arrival)
    : ∃ next, HoldsPacket start (arrivals ++ [arrival]) next := by
  obtain ⟨represents, packet⟩ := holds
  have next := (represents.step arrival).represents
  have reached : ((demodulator.run start arrivals).demodulateByte arrival).1
      = demodulator.run start (arrivals ++ [arrival]) := by
    rw [Machine.run_append]
    rfl
  rw [reached] at next
  refine ⟨_, next, fun inside => ?_⟩
  have locked := next.locked_iff.mpr inside
  by_cases idle : progress = .idle
  · subst idle
    rcases saFraming.receiver_opens (reception _ arrival) with still | ⟨none, leading⟩
    · exact absurd still inside
    · rw [none]
      exact OpenPacket.opens represents leading locked
  · obtain ⟨longer, header⟩ := (packet idle).concat locked
    rcases saFraming.receiver_holds idle (reception _ arrival) with left | none | more
    · exact absurd left inside
    · rw [none]
      exact header
    · rw [more]
      exact longer

/-- Every run holds its packet, by induction from the last byte. -/
theorem HoldsPacket.run {start : SaModem} (represents : start.Represents .idle)
    (arrivals : List Arrival)
    : ∃ progress, HoldsPacket start arrivals progress := by
  induction arrivals using List.reverseRecOn with
  | nil => exact ⟨.idle, represents, fun inside => absurd rfl inside⟩
  | append_singleton arrivals arrival ih =>
      obtain ⟨progress, holds⟩ := ih
      exact holds.step arrival

/-- Before the checksum the first `mPayloadSize` bytes of the buffer are the last ones of the
current packet. Witness: they are what the packet's progress holds.
-/
theorem HoldsPacket.stored {start : SaModem} {arrivals : List Arrival} {progress : Progress}
    (holds : HoldsPacket start arrivals progress)
    (locked : (demodulator.run start arrivals).mIsPacketLocked = true)
    (fourth : (demodulator.run start arrivals).mPacketIndex = 4)
    : OpenPacket start arrivals
        ((demodulator.run start arrivals).stored
          (demodulator.run start arrivals).mPayloadSize) := by
  have packet := holds.packet (holds.represents.locked_iff.mp locked)
  have represents := holds.represents
  cases progress with
  | idle => exact Bool.noConfusion (locked.symm.trans represents)
  | crc payload =>
      obtain ⟨_, _, sized, stored⟩ := represents
      rw [sized, stored]
      exact packet
  | lead => exact absurd (fourth.symm.trans represents.2) (by decide)
  | check => exact absurd (fourth.symm.trans represents.2) (by decide)
  | payload size read => exact absurd (fourth.symm.trans represents.2.1) (by decide)

/-- Behind any bytes with any timing the counters of the demodulator are in their places. So
every call executes one of the cases 1 to 4 and writes below 255, the checksum loop reads
bytes of the current packet only, and at most 255 bytes are copied out. Witness: the
counters are kept call by call, and so are the bytes of the packet that is being read.
-/
theorem demodulator_invariant (memory : Nat → UInt8) (arrivals : List Arrival)
    : let modem := demodulator.run (SaModem.new memory) arrivals
      modem.WellFormed
      ∧ (∀ arrival, modem.SafeCall arrival)
      ∧ (modem.mIsPacketLocked = true → modem.mPacketIndex = 4
        → OpenPacket (SaModem.new memory) arrivals (modem.stored modem.mPayloadSize))
      ∧ modem.CopiesWithin := by
  intro modem
  have wellFormed : modem.WellFormed :=
    demodulator.run_invariant SaModem.WellFormed (SaModem.new_wellFormed memory)
      (fun _ arrival wellFormed => wellFormed.step arrival) arrivals
  obtain ⟨_, holds⟩ := HoldsPacket.run (SaModem.new_represents memory) arrivals
  exact ⟨wellFormed, wellFormed.safeCall, holds.stored, wellFormed.copiesWithin⟩

end Cooboc.SerialPacket
