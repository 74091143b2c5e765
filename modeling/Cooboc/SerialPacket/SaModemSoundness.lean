import Cooboc.SerialPacket.SaModemProgress

/-! Soundness of acceptance: where the demodulator never takes a byte other than the check
byte for the packet length, every accepted byte ends a complete well-formed packet and
`getLastPayload` returns that packet's payload.
-/

namespace Cooboc.SerialPacket

open Cooboc.Foundations

/-- The call falls through the case of packet index 1: locked and in time, it reads some
other byte than the check byte.
-/
def SaModem.FallsThrough (modem : SaModem) (arrival : Arrival) : Prop :=
  modem.mIsPacketLocked = true
  ∧ modem.mPacketIndex = 1
  ∧ isLate modem.lastDecodeTime arrival = false
  ∧ arrival.byte ≠ saCheckByte

instance (modem : SaModem) (arrival : Arrival) : Decidable (modem.FallsThrough arrival) :=
  inferInstanceAs (Decidable (_ ∧ _ ∧ _ ∧ _))

/-- What a byte sequence that is accepted at its last byte has to look like: it ends with
a well-formed packet whose payload `getLastPayload` returns.
-/
def SaModem.EndsPacket (modem : SaModem) (bytes : List UInt8) : Prop :=
  ∃ payload,
    payload.length < 256
    ∧ saFraming.packet payload <:+ bytes
    ∧ modem.Delivers payload

/-- The demodulator represents a progress that accounts for the last bytes read. -/
def SaModem.Accounts (history : List Arrival) (modem : SaModem) : Prop :=
  ∃ progress,
    modem.Represents progress
    ∧ saFraming.Consumed (history.map Arrival.byte) progress

/-- A byte that does not fall through keeps the account, and is accepted only at the end
of a well-formed packet. Witness: the receiver's own account, through representation.
-/
theorem SaModem.Accounts.step {history : List Arrival} {modem : SaModem}
    (accounts : SaModem.Accounts history modem) {arrival : Arrival}
    (checked : ¬ modem.FallsThrough arrival)
    : SaModem.Accounts (history ++ [arrival]) (modem.demodulateByte arrival).1
      ∧ ((modem.demodulateByte arrival).2 = true
        → (modem.demodulateByte arrival).1.EndsPacket
            ((history ++ [arrival]).map Arrival.byte)) := by
  obtain ⟨progress, represents, consumed⟩ := accounts
  obtain ⟨next, accepted, delivers⟩ := represents.step arrival
  have strict : progress = .lead → (reception modem.lastDecodeTime arrival).late = false
      → (reception modem.lastDecodeTime arrival).byte = saFraming.check := by
    rintro rfl inTime
    refine Decidable.byContradiction (fun other => checked ?_)
    exact ⟨represents.1, represents.2, inTime, other⟩
  obtain ⟨account, ends⟩ := consumed.receive strict
  rw [List.map_append, List.map_singleton]
  refine ⟨⟨_, next, ?_⟩, ?_⟩
  · rw [List.map_append, List.map_singleton]
    exact account
  · intro returned
    rw [accepted, Option.isSome_iff_exists] at returned
    obtain ⟨payload, delivered⟩ := returned
    obtain ⟨short, suffix⟩ := ends payload delivered
    exact ⟨payload, short, suffix, delivers payload delivered⟩

/-- In every run without a fall-through, a byte is accepted only if the bytes up to it end
with a well-formed packet, whose payload `getLastPayload` then returns.
Witness: the account of the bytes read, carried over the run by induction.
-/
theorem demodulateByte_sound (memory : Nat → UInt8) (arrivals : List Arrival)
    (last : Arrival)
    (checked
      : demodulator.Always (fun modem arrival => ¬ modem.FallsThrough arrival)
          (SaModem.new memory) (arrivals ++ [last]))
    (accepted
      : ((demodulator.run (SaModem.new memory) arrivals).demodulateByte last).2 = true)
    : ((demodulator.run (SaModem.new memory) arrivals).demodulateByte last).1.EndsPacket
        ((arrivals ++ [last]).map Arrival.byte) := by
  obtain ⟨before, final⟩ := demodulator.always_append.mp checked
  have accounts := before.run_history SaModem.Accounts
    ⟨.idle, SaModem.new_represents memory, trivial⟩
    (fun _ _ _ current fits => (current.step fits).1)
  exact (accounts.step final.1).2 accepted

/-- The packet carrying the bytes `S` and `A` is accepted at its checksum. -/
theorem demodulateByte_sound_packet
    : let arrivals : List Arrival :=
        [0x53, 0x41, 0x02, 0x53, 0x41].map (fun byte => ⟨byte, 0, 0⟩)
      ((demodulator.run (SaModem.new fun _ => 0) arrivals).demodulateByte
          ⟨0x12, 0, 0⟩).1.EndsPacket
        [0x53, 0x41, 0x02, 0x53, 0x41, 0x12] :=
  demodulateByte_sound (fun _ => 0)
    ([0x53, 0x41, 0x02, 0x53, 0x41].map (fun byte => ⟨byte, 0, 0⟩)) ⟨0x12, 0, 0⟩
    (by decide) (by decide)

/-- The three bytes `S`, 0, 0 are accepted although no packet is that short: the byte after
`S` is not `A` and is read as the length.
-/
theorem demodulateByte_accepts_without_check
    : let arrivals : List Arrival := [⟨0x53, 0, 0⟩, ⟨0x00, 0, 0⟩]
      ((demodulator.run (SaModem.new fun _ => 0) arrivals).demodulateByte
          ⟨0x00, 0, 0⟩).2 = true
      ∧ ¬ ((demodulator.run (SaModem.new fun _ => 0) arrivals).demodulateByte
            ⟨0x00, 0, 0⟩).1.EndsPacket
          [0x53, 0x00, 0x00] := by
  refine ⟨by decide, ?_⟩
  intro ⟨payload, _, suffix, _⟩
  have longer := suffix.length_le
  rw [saFraming.packet_length] at longer
  exact absurd longer (by simp only [List.length_cons, List.length_nil]; omega)

end Cooboc.SerialPacket
