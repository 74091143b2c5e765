import Cooboc.Foundations.LengthPrefixed
import Cooboc.SerialPacket.SaModem

/-! The demodulator's five packet positions represent the progress of a lenient receiver of
length-prefixed packets: its counters and buffer hold exactly the bytes read of the packet.
-/

namespace Cooboc.SerialPacket

open Cooboc.Foundations

/-- The header bytes of the demodulator. It is lenient: the missing `break` reads a wrong
second byte as the length.
-/
def saFraming : Framing where
  lead := saLeadingByte
  check := saCheckByte
  lenient := true

/-- The first `count` bytes of the payload buffer. -/
def SaModem.stored (modem : SaModem) (count : Nat) : List UInt8 :=
  (List.range count).map modem.mPayloadBuffer

theorem SaModem.stored_succ (modem : SaModem) (count : Nat)
    : modem.stored (count + 1) = modem.stored count ++ [modem.mPayloadBuffer count] := by
  simp [SaModem.stored, List.range_succ]

theorem SaModem.stored_update (modem : SaModem) (count : Nat) (byte : UInt8)
    : (List.range count).map (Function.update modem.mPayloadBuffer count byte)
      = modem.stored count := by
  refine List.map_congr_left (fun i member => ?_)
  exact Function.update_of_ne (Nat.ne_of_lt (List.mem_range.mp member)) _ _

theorem SaModem.crcCalculated_eq (modem : SaModem)
    : modem.crcCalculated = xorSum (modem.stored modem.mPayloadSize) := by
  simp [SaModem.crcCalculated, xorSum, SaModem.stored, List.foldl_map]

/-- A stored payload of the recorded size is what `getLastPayload` hands out. -/
theorem SaModem.delivers_of_stored {modem : SaModem} {payload : List UInt8}
    (size : modem.mPayloadSize = payload.length)
    (stored : modem.stored payload.length = payload)
    : modem.Delivers payload := by
  intro buffer
  refine ⟨size, fun i bound => ?_⟩
  have copied : (modem.getLastPayload buffer).1 i = modem.mPayloadBuffer i := by
    simp [SaModem.getLastPayload, size, bound]
  have within : i < (modem.stored payload.length).length := by
    simpa [SaModem.stored] using bound
  have read : (modem.stored payload.length)[i] = modem.mPayloadBuffer i := by
    simp [SaModem.stored]
  rw [copied, ← read]
  simp only [stored]

-----------------------------------------------------------------------------------------
-- Representation and its step
-----------------------------------------------------------------------------------------

/-- (modem.Represents progress) reads the five positions: unlocked; after the leading
byte; after the check byte; within the payload; before the checksum.
-/
def SaModem.Represents (modem : SaModem) : Progress → Prop
  | .idle => modem.mIsPacketLocked = false
  | .lead => modem.mIsPacketLocked = true ∧ modem.mPacketIndex = 1
  | .check => modem.mIsPacketLocked = true ∧ modem.mPacketIndex = 2
  | .payload size read =>
      modem.mIsPacketLocked = true
      ∧ modem.mPacketIndex = 3
      ∧ modem.mPayloadSize = size
      ∧ modem.mPayloadIndex = read.length
      ∧ modem.stored read.length = read
  | .crc payload =>
      modem.mIsPacketLocked = true
      ∧ modem.mPacketIndex = 4
      ∧ modem.mPayloadSize = payload.length
      ∧ modem.stored payload.length = payload

theorem SaModem.new_represents (memory : Nat → UInt8)
    : (SaModem.new memory).Represents .idle :=
  rfl

/-- Whether a byte comes more than the timeout after the byte before it. -/
def isLate (lastTime : UnsignedLong) (arrival : Arrival) : Bool :=
  decide (saPacketTimeout < arrival.checkTime - lastTime)

/-- A byte as the receiver sees it. -/
def reception (lastTime : UnsignedLong) (arrival : Arrival) : Reception :=
  ⟨isLate lastTime arrival, arrival.byte⟩

/-- An unlocked call looks for the leading byte only, however late it comes. -/
theorem SaModem.demodulateByte_unlocked {modem : SaModem} {arrival : Arrival}
    (unlocked : modem.mIsPacketLocked = false)
    : modem.demodulateByte arrival
      = if arrival.byte = saLeadingByte then
          ({ modem.stamp arrival with
              mPacketIndex := 1, mPayloadIndex := 0, mIsPacketLocked := true },
            false)
        else
          ((modem.stamp arrival).resetStatus, false) := by
  have still : (modem.stamp arrival).mIsPacketLocked = false := unlocked
  simp [SaModem.demodulateByte, still]

/-- A late call on a locked demodulator resets it and drops the byte. -/
theorem SaModem.demodulateByte_late {modem : SaModem} {arrival : Arrival}
    (locked : modem.mIsPacketLocked = true)
    (late : isLate modem.lastDecodeTime arrival = true)
    : modem.demodulateByte arrival = ((modem.stamp arrival).resetStatus, false) := by
  have still : (modem.stamp arrival).mIsPacketLocked = true := locked
  have expired := of_decide_eq_true late
  simp only [SaModem.demodulateByte, still, if_true, if_pos expired]

/-- A call in time on a locked demodulator reads the byte at its packet index. -/
theorem SaModem.demodulateByte_inTime {modem : SaModem} {arrival : Arrival}
    (locked : modem.mIsPacketLocked = true)
    (inTime : isLate modem.lastDecodeTime arrival = false)
    : modem.demodulateByte arrival
      = match modem.mPacketIndex with
        | 0 => ((modem.stamp arrival).resetStatus, false)
        | 1 =>
            if arrival.byte = saCheckByte then
              ({ modem.stamp arrival with mPacketIndex := 2 }, false)
            else
              (modem.stamp arrival).readSize arrival.byte
        | 2 => (modem.stamp arrival).readSize arrival.byte
        | 3 => (modem.stamp arrival).readPayload arrival.byte
        | 4 => (modem.stamp arrival).readCrc arrival.byte
        | _ => ((modem.stamp arrival).resetStatus, false) := by
  have still : (modem.stamp arrival).mIsPacketLocked = true := locked
  have within := of_decide_eq_false inTime
  simp only [SaModem.demodulateByte, still, if_true, if_neg within]
  rfl

/-- Every call stores its own clock reading. -/
theorem SaModem.demodulateByte_lastDecodeTime (modem : SaModem) (arrival : Arrival)
    : (modem.demodulateByte arrival).1.lastDecodeTime = arrival.decodeTime := by
  cases locked : modem.mIsPacketLocked with
  | false =>
      rw [SaModem.demodulateByte_unlocked locked]
      split <;> rfl
  | true =>
      cases late : isLate modem.lastDecodeTime arrival with
      | true =>
          rw [SaModem.demodulateByte_late locked late]
          rfl
      | false =>
          rw [SaModem.demodulateByte_inTime locked late]
          split
          · rfl
          · split <;> rfl
          · rfl
          · rfl
          · unfold SaModem.readCrc
            split <;> rfl
          · rfl

-----------------------------------------------------------------------------------------
-- One byte keeps the representation
-----------------------------------------------------------------------------------------

/-- The length case represents the receiver's length byte. -/
theorem SaModem.readSize_represents {modem : SaModem} (byte : UInt8)
    (locked : modem.mIsPacketLocked = true)
    : (modem.readSize byte).1.Represents (.ofLength byte) := by
  unfold Progress.ofLength
  by_cases empty : byte = 0
  · subst empty
    exact ⟨locked, rfl, rfl, rfl⟩
  · have nonzero : byte.toNat ≠ 0 := fun zero => empty (UInt8.toNat_inj.mp zero)
    rw [if_neg empty]
    exact ⟨locked, if_neg nonzero, rfl, rfl, rfl⟩

/-- The payload case represents the receiver's next payload byte. -/
theorem SaModem.readPayload_represents {modem : SaModem} {size : Nat} {read : List UInt8}
    (represents : modem.Represents (.payload size read)) (byte : UInt8)
    : (modem.readPayload byte).1.Represents
        (saFraming.advance (.payload size read) byte).1 := by
  obtain ⟨locked, index, sized, filled, stored⟩ := represents
  have kept : (modem.readPayload byte).1.stored (read.length + 1) = read ++ [byte] := by
    have written : (modem.readPayload byte).1.mPayloadBuffer
        = Function.update modem.mPayloadBuffer read.length byte := by
      rw [← filled]
      rfl
    rw [SaModem.stored_succ, written, Function.update_self, SaModem.stored, written,
      SaModem.stored_update, stored]
  by_cases complete : read.length + 1 = size
  · have position : (modem.readPayload byte).1.mPacketIndex = 4 := by
      simp [SaModem.readPayload, filled, sized, complete, index]
    simp only [Framing.advance, if_pos complete]
    refine ⟨locked, position, ?_, ?_⟩
    · simpa [SaModem.readPayload, complete] using sized
    · simpa only [List.length_append, List.length_singleton] using kept
  · have position : (modem.readPayload byte).1.mPacketIndex = 3 := by
      simp [SaModem.readPayload, filled, sized, complete, index]
    simp only [Framing.advance, if_neg complete]
    refine ⟨locked, position, sized, ?_, ?_⟩
    · simp [SaModem.readPayload, filled]
    · simpa only [List.length_append, List.length_singleton] using kept

/-- What a call leaves and returns, against what the receiver does with the same byte: the
demodulator accepts exactly where the receiver delivers, and `getLastPayload` then returns
the delivered payload.
-/
structure SaModem.Follows (call : SaModem × Bool) (received : Progress × Option (List UInt8))
    : Prop where
  represents : call.1.Represents received.1
  accepted : call.2 = received.2.isSome
  delivers : ∀ payload, received.2 = some payload → call.1.Delivers payload

/-- Where the receiver delivers nothing, keeping the representation is enough. -/
theorem SaModem.Follows.of_silent {call : SaModem × Bool}
    {received : Progress × Option (List UInt8)} (represents : call.1.Represents received.1)
    (rejected : call.2 = false) (silent : received.2 = none)
    : SaModem.Follows call received where
  represents := represents
  accepted := by rw [rejected, silent, Option.isSome_none]
  delivers payload delivered := by
    rw [silent] at delivered
    cases delivered

/-- The checksum case accepts exactly the receiver's checksum, and hands out its payload.
-/
theorem SaModem.readCrc_follows {modem : SaModem} {payload : List UInt8}
    (represents : modem.Represents (.crc payload)) (byte : UInt8)
    : SaModem.Follows (modem.readCrc byte) (saFraming.advance (.crc payload) byte) := by
  obtain ⟨_, _, sized, stored⟩ := represents
  have sum : modem.crcCalculated = xorSum payload := by
    rw [SaModem.crcCalculated_eq, sized, stored]
  unfold SaModem.readCrc
  rw [sum]
  by_cases matched : byte = xorSum payload
  · simp only [Framing.advance, if_pos matched]
    refine ⟨rfl, rfl, ?_⟩
    rintro _ ⟨⟩
    exact SaModem.delivers_of_stored sized stored
  · simp only [Framing.advance, if_neg matched]
    exact .of_silent rfl rfl rfl

/-- A byte in time is followed on a locked demodulator. Witness: one case for each position;
the fall-through behind the leading byte is the receiver's leniency.
-/
theorem SaModem.Represents.step_inTime {modem : SaModem} {progress : Progress}
    (represents : modem.Represents progress) {arrival : Arrival}
    (locked : modem.mIsPacketLocked = true)
    (inTime : isLate modem.lastDecodeTime arrival = false)
    : SaModem.Follows (modem.demodulateByte arrival)
        (saFraming.advance progress arrival.byte) := by
  have called := SaModem.demodulateByte_inTime locked inTime
  cases progress with
  | idle => exact absurd (locked.symm.trans represents) (by decide)
  | lead =>
      rw [represents.2] at called
      by_cases checked : arrival.byte = saCheckByte
      · simp only [called, if_pos checked, Framing.advance, saFraming]
        exact .of_silent ⟨locked, rfl⟩ rfl rfl
      · simp only [called, if_neg checked, Framing.advance, saFraming, if_true]
        exact .of_silent (SaModem.readSize_represents arrival.byte locked) rfl rfl
  | check =>
      rw [represents.2] at called
      rw [called]
      exact .of_silent (SaModem.readSize_represents arrival.byte locked) rfl rfl
  | payload size read =>
      rw [represents.2.1] at called
      have silent : (saFraming.advance (.payload size read) arrival.byte).2 = none := by
        simp only [Framing.advance]
        split <;> rfl
      have stamped : (modem.stamp arrival).Represents (.payload size read) := represents
      rw [called]
      exact .of_silent (SaModem.readPayload_represents stamped arrival.byte) rfl silent
  | crc payload =>
      rw [represents.2.1] at called
      have stamped : (modem.stamp arrival).Represents (.crc payload) := represents
      rw [called]
      exact SaModem.readCrc_follows stamped arrival.byte

/-- Every call follows the receiver's step with the same byte. Witness: an unlocked call looks
for the leading byte, a late one resets, and a byte in time is read at its position.
-/
theorem SaModem.Represents.step {modem : SaModem} {progress : Progress}
    (represents : modem.Represents progress) (arrival : Arrival)
    : SaModem.Follows (modem.demodulateByte arrival)
        (saFraming.receiver.step progress (reception modem.lastDecodeTime arrival)) := by
  by_cases idle : progress = .idle
  · subst idle
    rw [SaModem.demodulateByte_unlocked represents, Framing.receiver_idle]
    by_cases leading : arrival.byte = saLeadingByte
    · rw [if_pos leading]
      refine .of_silent ?_ rfl rfl
      simp [leading, reception, Framing.advance, saFraming, SaModem.Represents]
    · rw [if_neg leading]
      refine .of_silent ?_ rfl rfl
      simp [leading, reception, Framing.advance, saFraming, SaModem.Represents,
        SaModem.resetStatus]
  have locked : modem.mIsPacketLocked = true := by
    cases progress with
    | idle => exact absurd rfl idle
    | _ => exact represents.1
  cases late : isLate modem.lastDecodeTime arrival with
  | true =>
      rw [SaModem.demodulateByte_late locked late]
      have dropped : saFraming.receiver.step progress (reception modem.lastDecodeTime arrival)
          = (.idle, none) := by
        simp [reception, late, Framing.receiver, idle]
      rw [dropped]
      exact .of_silent rfl rfl rfl
  | false =>
      have read : reception modem.lastDecodeTime arrival = ⟨false, arrival.byte⟩ := by
        simp [reception, late]
      rw [read, Framing.receiver_inTime]
      exact represents.step_inTime locked late

/-- Arriving bytes as the receiver sees them, each compared with the clock reading stored
by the byte before it.
-/
def receptions (lastTime : UnsignedLong) : List Arrival → List Reception
  | [] => []
  | arrival :: rest => reception lastTime arrival :: receptions arrival.decodeTime rest

theorem receptions_bytes (lastTime : UnsignedLong) (arrivals : List Arrival)
    : (receptions lastTime arrivals).map Reception.byte = arrivals.map Arrival.byte := by
  induction arrivals generalizing lastTime with
  | nil => rfl
  | cons arrival rest ih => exact congrArg _ (ih arrival.decodeTime)

theorem receptions_length (lastTime : UnsignedLong) (arrivals : List Arrival)
    : (receptions lastTime arrivals).length = arrivals.length := by
  simpa using congrArg List.length (receptions_bytes lastTime arrivals)

/-- Consecutive bytes no more than the timeout apart. -/
def Prompt (arrivals : List Arrival) : Prop :=
  arrivals.IsChain (fun before after => isLate before.decodeTime after = false)

/-- Behind its first byte, a prompt sequence is received in time. -/
theorem receptions_prompt {arrival : Arrival} {rest : List Arrival}
    (prompt : Prompt (arrival :: rest))
    : receptions arrival.decodeTime rest = inTime (rest.map Arrival.byte) := by
  induction rest generalizing arrival with
  | nil => rfl
  | cons next rest ih =>
      obtain ⟨soon, later⟩ := List.isChain_cons_cons.mp prompt
      simp only [receptions, reception, soon, ih later]
      rfl

/-- An idle receiver takes a prompt sequence as coming in time, its first byte included.
-/
theorem receiver_prompt {arrivals : List Arrival} (prompt : Prompt arrivals)
    (lastTime : UnsignedLong)
    : saFraming.receiver.run .idle (receptions lastTime arrivals)
        = saFraming.receiver.run .idle (inTime (arrivals.map Arrival.byte))
      ∧ saFraming.receiver.outputs .idle (receptions lastTime arrivals)
        = saFraming.receiver.outputs .idle (inTime (arrivals.map Arrival.byte)) := by
  cases arrivals with
  | nil => exact ⟨rfl, rfl⟩
  | cons arrival rest =>
      simp only [receptions, receptions_prompt prompt, reception, List.map_cons, inTime_cons,
        Machine.run_cons, Machine.outputs_cons, Framing.receiver_idle, and_self]

/-- A demodulator and the receiver stay in step over every run, and accept at the same
bytes.
-/
theorem SaModem.Represents.run {modem : SaModem} {progress : Progress}
    (represents : modem.Represents progress) (arrivals : List Arrival)
    : (demodulator.run modem arrivals).Represents
        (saFraming.receiver.run progress (receptions modem.lastDecodeTime arrivals))
      ∧ demodulator.outputs modem arrivals
        = (saFraming.receiver.outputs progress
            (receptions modem.lastDecodeTime arrivals)).map
            Option.isSome := by
  induction arrivals generalizing modem progress with
  | nil => exact ⟨represents, rfl⟩
  | cons arrival rest ih =>
      obtain ⟨next, accepted, _⟩ := represents.step arrival
      have later := ih next
      rw [SaModem.demodulateByte_lastDecodeTime] at later
      refine ⟨later.1, ?_⟩
      change (modem.demodulateByte arrival).2 :: _ = _ :: _
      rw [accepted, List.cons_eq_cons]
      exact ⟨rfl, later.2⟩

/-- The bytes after a run are received from the clock reading of its last byte. -/
theorem SaModem.receptions_append (modem : SaModem) (before after : List Arrival)
    : receptions modem.lastDecodeTime (before ++ after)
      = receptions modem.lastDecodeTime before
        ++ receptions (demodulator.run modem before).lastDecodeTime after := by
  induction before generalizing modem with
  | nil => rfl
  | cons arrival rest ih =>
      have later := ih (modem.demodulateByte arrival).1
      rw [SaModem.demodulateByte_lastDecodeTime] at later
      exact congrArg _ later

/-- Where the receiver delivers a payload, `getLastPayload` returns it right after the same
byte. Witness: demodulator and receiver stay in step up to that byte.
-/
theorem SaModem.Represents.delivers_at {modem : SaModem} {progress : Progress}
    (represents : modem.Represents progress) {before after : List Arrival}
    {arrival : Arrival} {payload : List UInt8}
    (answered
      : (saFraming.receiver.outputs progress
          (receptions modem.lastDecodeTime (before ++ arrival :: after)))[before.length]?
        = some (some payload))
    : (demodulator.run modem (before ++ [arrival])).Delivers payload := by
  obtain ⟨current, _⟩ := represents.run before
  obtain ⟨_, _, delivers⟩ := current.step arrival
  rw [Machine.run_append]
  apply delivers payload
  have position := receptions_length modem.lastDecodeTime before
  rw [SaModem.receptions_append, receptions, ← position, Machine.outputs_at] at answered
  exact Option.some.inj answered

/-- Every demodulator that any bytes lead to represents some valid progress. -/
theorem SaModem.run_represents (memory : Nat → UInt8) (arrivals : List Arrival)
    : ∃ progress : Progress,
        progress.Valid
        ∧ (demodulator.run (SaModem.new memory) arrivals).Represents progress :=
  have idle : Progress.idle.Valid := trivial
  ⟨_, saFraming.receiver_valid idle _, ((SaModem.new_represents memory).run arrivals).1⟩

end Cooboc.SerialPacket
