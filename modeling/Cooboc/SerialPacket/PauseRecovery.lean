import Cooboc.SerialPacket.SaModemProgress

/-! Recovery by a pause: a packet that follows a silence longer than the timeout is received
exactly if the demodulator was not locked in a packet when the silence began, since the
byte that ends the silence of a locked demodulator is dropped.
-/

namespace Cooboc.SerialPacket

open Cooboc.Foundations

/-- (modem.Receives arrivals payload) says that `demodulateByte` returns true on the last of
the bytes and that `getLastPayload` then returns the payload.
-/
def SaModem.Receives (modem : SaModem) (arrivals : List Arrival) (payload : List UInt8)
    : Prop :=
  (demodulator.outputs modem arrivals).getLast? = some true
  ∧ (demodulator.run modem arrivals).Delivers payload

theorem SaModem.Delivers.length_eq {modem : SaModem} {first second : List UInt8}
    (one : modem.Delivers first) (other : modem.Delivers second)
    : first.length = second.length :=
  (one fun _ => 0).1.symm.trans (other fun _ => 0).1

/-- A last byte is accepted exactly if the receiver delivers there, which is what
`getLastPayload` then returns.
-/
theorem SaModem.Represents.receives_iff {modem : SaModem} {progress : Progress}
    (represents : modem.Represents progress) (arrivals : List Arrival) (last : Arrival)
    (payload : List UInt8)
    : modem.Receives (arrivals ++ [last]) payload
      ↔ ∃ delivered,
          (saFraming.receiver.step
            (saFraming.receiver.run progress (receptions modem.lastDecodeTime arrivals))
            (reception (demodulator.run modem arrivals).lastDecodeTime last)).2
            = some delivered
          ∧ (demodulator.run modem (arrivals ++ [last])).Delivers delivered
          ∧ (demodulator.run modem (arrivals ++ [last])).Delivers payload := by
  obtain ⟨current, _⟩ := represents.run arrivals
  obtain ⟨_, accepted, delivers⟩ := current.step last
  have ended : (demodulator.outputs modem (arrivals ++ [last])).getLast?
      = some (demodulator.step (demodulator.run modem arrivals) last).2 := by
    rw [Machine.outputs_append, Machine.outputs_cons, Machine.outputs_nil,
      List.getLast?_concat]
  have returned : (demodulator.step (demodulator.run modem arrivals) last).2 = _ := accepted
  rw [SaModem.Receives, ended, returned, Option.some.injEq, Option.isSome_iff_exists]
  constructor
  · intro ⟨⟨delivered, complete⟩, held⟩
    refine ⟨delivered, complete, ?_, held⟩
    rw [Machine.run_append]
    exact delivers delivered complete
  · intro ⟨delivered, complete, _, held⟩
    exact ⟨⟨delivered, complete⟩, held⟩

/-- What is received behind some bytes is what the demodulator they leave receives. -/
theorem SaModem.receives_append (modem : SaModem) (before : List Arrival)
    {after : List Arrival} (nonempty : after ≠ []) (payload : List UInt8)
    : modem.Receives (before ++ after) payload
      ↔ (demodulator.run modem before).Receives after payload := by
  have answered : demodulator.outputs (demodulator.run modem before) after ≠ [] := by
    intro empty
    have lengths := demodulator.outputs_length (demodulator.run modem before) after
    rw [empty] at lengths
    exact nonempty (List.length_eq_zero_iff.mp lengths.symm)
  rw [SaModem.Receives, SaModem.Receives, Machine.outputs_append, Machine.run_append,
    List.getLast?_append_of_ne_nil _ answered]

/-- An unlocked demodulator receives no payload from fewer bytes than its packet has. -/
theorem SaModem.Represents.not_receives_short {modem : SaModem}
    (idle : modem.Represents .idle) {arrivals : List Arrival} {payload : List UInt8}
    (few : arrivals.length < payload.length + 3)
    : ¬ modem.Receives arrivals payload := by
  intro receives
  rcases List.eq_nil_or_concat' arrivals with rfl | ⟨before, last, rfl⟩
  · cases receives.1
  · obtain ⟨delivered, complete, own, held⟩ :=
      (idle.receives_iff before last payload).mp receives
    have bound := saFraming.receiver_delivers_short complete
    have same := own.length_eq held
    rw [receptions_length] at bound
    rw [List.length_append, List.length_singleton] at few
    omega

/-- A packet without a gap above the timeout is received by an unlocked demodulator, however
long the silence before it was.
-/
theorem SaModem.Represents.receives_packet {modem : SaModem}
    (idle : modem.Represents .idle) {payload : List UInt8} (short : payload.length < 256)
    {arrivals : List Arrival} (prompt : Prompt arrivals)
    (sent : arrivals.map Arrival.byte = saFraming.packet payload)
    : modem.Receives arrivals payload := by
  have answered : saFraming.receiver.outputs .idle (receptions modem.lastDecodeTime arrivals)
      = List.replicate (payload.length + 3) none ++ [some payload] := by
    rw [(receiver_prompt prompt modem.lastDecodeTime).2, sent]
    exact (saFraming.receiver_packet short).2
  constructor
  · rw [(idle.run arrivals).2, answered, List.map_append, List.map_singleton,
      List.getLast?_concat]
    rfl
  · have length := congrArg List.length sent
    rw [List.length_map, saFraming.packet_length] at length
    rcases List.eq_nil_or_concat' arrivals with rfl | ⟨before, last, rfl⟩
    · cases length
    · have position : before.length = payload.length + 3 := by
        simp only [List.length_append, List.length_singleton] at length
        omega
      apply idle.delivers_at
      rw [answered, position, List.getElem?_append_right (by simp)]
      simp

/-- A demodulator that is locked when the silence ends is unlocked by the packet's first byte,
which is lost, and by its second, which leads no packet.
-/
theorem SaModem.misses_header {modem : SaModem} (locked : modem.mIsPacketLocked = true)
    {first second : Arrival} (late : isLate modem.lastDecodeTime first = true)
    (check : second.byte = saCheckByte)
    : (demodulator.run modem [first, second]).Represents .idle := by
  have unlocked : (modem.demodulateByte first).1.mIsPacketLocked = false := by
    rw [SaModem.demodulateByte_late locked late]
    rfl
  have other : second.byte ≠ saLeadingByte := by
    rw [check]
    decide
  change ((modem.demodulateByte first).1.demodulateByte second).1.mIsPacketLocked = false
  rw [SaModem.demodulateByte_unlocked unlocked, if_neg other]
  rfl

/-- In whatever state the demodulator is, reachable or not, a packet that comes after more
than the timeout, without such a gap within it, is received exactly if the demodulator was
not locked when the silence began. Witness: a locked demodulator drops the leading byte,
and what follows it is too short to be the packet.
-/
theorem pause_restores_iff (modem : SaModem) {payload : List UInt8}
    (short : payload.length < 256) {first : Arrival} {rest : List Arrival}
    (sent : (first :: rest).map Arrival.byte = saFraming.packet payload)
    (prompt : Prompt (first :: rest)) (paused : isLate modem.lastDecodeTime first = true)
    : modem.Receives (first :: rest) payload ↔ modem.mIsPacketLocked = false := by
  constructor
  · intro receives
    apply Bool.eq_false_iff.mpr
    intro locked
    have length := congrArg List.length sent
    rw [List.length_map, saFraming.packet_length, List.length_cons] at length
    cases rest with
    | nil =>
        simp only [List.length_nil] at length
        omega
    | cons second rest =>
        have check : second.byte = saCheckByte := (List.cons.inj (List.cons.inj sent).2).1
        have idle := SaModem.misses_header locked paused check
        rw [List.length_cons] at length
        have nonempty : rest ≠ [] := List.length_pos_iff.mp (by omega)
        have late := (modem.receives_append [first, second] nonempty payload).mp receives
        apply idle.not_receives_short _ late
        omega
  · intro unlocked
    have idle : modem.Represents .idle := unlocked
    exact idle.receives_packet short prompt sent

/-- Half a second after a complete packet, the next one is received. -/
theorem pause_restores_resting
    : (demodulator.run (SaModem.new fun _ => 0)
          ([0x53, 0x41, 0, 0].map (fun byte => ⟨byte, 0, 0⟩))).Receives
        ([0x53, 0x41, 1, 7, 7].map (fun byte => ⟨byte, 501, 501⟩)) [7] :=
  (pause_restores_iff _ (by decide) (by decide) (by unfold Prompt; decide)
    (by decide)).mpr (by decide)

/-- A single leading byte, then silence: the packet that follows is lost. -/
theorem pause_does_not_restore
    : ¬ (demodulator.run (SaModem.new fun _ => 0) [⟨0x53, 0, 0⟩]).Receives
          [⟨0x53, 501, 501⟩, ⟨0x41, 501, 501⟩, ⟨0, 501, 501⟩, ⟨0, 501, 501⟩] [] := by
  intro receives
  exact absurd receives.1 (by decide)

end Cooboc.SerialPacket
