import Cooboc.Foundations.FrameDamage
import Cooboc.SerialPacket.SaModemProgress

/-! Delivery under damage: from a stream of packets the demodulator delivers exactly those
of which no byte was replaced.
-/

namespace Cooboc.SerialPacket

open Cooboc.Foundations

/-- However the packets of a stream are damaged, each in at most one payload or checksum
byte, an unlocked demodulator that reads the stream without a gap above the timeout returns
true exactly at the last byte of each undamaged packet, where `getLastPayload` returns its
payload. Witness: the receiver answers the stream so, and the demodulator stays in step
with it.
-/
theorem demodulator_delivers_undamaged {modem : SaModem}
    (unlocked : modem.mIsPacketLocked = false) {transmissions : List Transmission}
    (transmits : ∀ transmission ∈ transmissions, saFraming.Transmits transmission)
    {trailing : List UInt8} (filler : ∀ byte ∈ trailing, byte ≠ saLeadingByte)
    {arrivals : List Arrival} (prompt : Prompt arrivals)
    (sent
      : arrivals.map Arrival.byte
        = transmissions.flatMap saFraming.transmitted ++ trailing)
    : let answers :=
        transmissions.flatMap Transmission.answers ++ List.replicate trailing.length none
      demodulator.outputs modem arrivals = answers.map Option.isSome
      ∧ ∀ before arrival after payload,
          arrivals = before ++ arrival :: after → answers[before.length]? = some (some payload)
          → (demodulator.run modem (before ++ [arrival])).Delivers payload := by
  have idle : modem.Represents .idle := unlocked
  have answered : saFraming.receiver.outputs .idle (receptions modem.lastDecodeTime arrivals)
      = transmissions.flatMap Transmission.answers
        ++ List.replicate trailing.length none := by
    rw [(receiver_prompt prompt modem.lastDecodeTime).2, sent]
    exact saFraming.receiver_stream transmits filler
  constructor
  · rw [(idle.run arrivals).2, answered]
  · rintro before arrival after payload rfl expected
    rw [← answered] at expected
    exact idle.delivers_at expected

/-- An undamaged packet between two damaged ones: the first lost a payload byte, the last
its checksum.
-/
theorem demodulator_delivers_undamaged_middle
    : let arrivals : List Arrival :=
        [0x53, 0x41, 1, 9, 7, 0, 0x53, 0x41, 1, 7, 7, 0x53, 0x41, 0, 1].map
          (fun byte => ⟨byte, 0, 0⟩)
      demodulator.outputs (SaModem.new fun _ => 0) arrivals
        = [false, false, false, false, false, false, false, false, false, false, true,
            false, false, false, false] := by
  intro arrivals
  have first : saFraming.Transmits ⟨[], [7], some (0, 9)⟩ := by
    refine ⟨by simp, by decide, ?_⟩
    rintro _ _ ⟨⟩
    exact ⟨7, rfl, by decide⟩
  have second : saFraming.Transmits ⟨[0], [7], none⟩ := by
    refine ⟨by simp [saFraming, saLeadingByte], by decide, ?_⟩
    rintro _ _ ⟨⟩
  have third : saFraming.Transmits ⟨[], [], some (0, 1)⟩ := by
    refine ⟨by simp, by decide, ?_⟩
    rintro _ _ ⟨⟩
    exact ⟨0, rfl, by decide⟩
  have transmits : ∀ transmission ∈ ([⟨[], [7], some (0, 9)⟩, ⟨[0], [7], none⟩,
      ⟨[], [], some (0, 1)⟩] : List Transmission), saFraming.Transmits transmission := by
    simp only [List.forall_mem_cons]
    exact ⟨first, second, third, List.forall_mem_nil _⟩
  have unlocked : (SaModem.new fun _ => 0).mIsPacketLocked = false := rfl
  have filler : ∀ byte ∈ ([] : List UInt8), byte ≠ saLeadingByte := List.forall_mem_nil _
  have prompt : Prompt arrivals := by
    unfold Prompt
    decide
  exact (demodulator_delivers_undamaged unlocked transmits filler prompt (by decide)).1

end Cooboc.SerialPacket
