import Mathlib.Data.List.GetD
import Cooboc.Mavlink.Delivery

/-! Messages damaged on the line, and the messages behind them.
-/

namespace Cooboc.Mavlink

open Cooboc.Foundations

-----------------------------------------------------------------------------------------
-- Damage
-----------------------------------------------------------------------------------------

/-- How a message arrives, behind its `MAVLINK_STX`, when some bytes of it are replaced: one
byte or two neighbouring ones between length and message id, or in the payload, or check
bytes. The length fixes where a message ends, and the message id which extra byte ends its
checksum: with either replaced a message can be reported, so both are left out.
-/
inductive Damaged (message : MavlinkMessage) : List UInt8 → Prop where
  | body (before first second after : List UInt8)
      (sent : message.coreHeader ++ message.payload = before ++ first ++ after)
      (same_length : first.length = second.length) (short : first.length ≤ 2)
      (differs : first ≠ second)
      (place : 1 ≤ before.length ∧ before.length + first.length ≤ 4 ∨ 5 ≤ before.length)
    : Damaged message
        (before ++ second ++ after ++ [lowByte message.checksum, highByte message.checksum])
  | check (low high : UInt8)
      (differs : ¬(low = lowByte message.checksum ∧ high = highByte message.checksum))
    : Damaged message (message.coreHeader ++ message.payload ++ [low, high])

/-- Replaced bytes in front of the message id, or behind it, leave the id as it is. -/
theorem replaced_msgid {before first second after : List UInt8}
    (same_length : first.length = second.length)
    (place : 1 ≤ before.length ∧ before.length + first.length ≤ 4 ∨ 5 ≤ before.length)
    : (before ++ second ++ after).getD 4 0 = (before ++ first ++ after).getD 4 0 := by
  rcases place with ⟨_, front⟩ | behind
  · rw [List.getD_append_right, List.getD_append_right]
    · rw [List.length_append, List.length_append, same_length]
    · rw [List.length_append]
      exact front
    · rw [List.length_append, ← same_length]
      exact front
  · rw [List.append_assoc, List.append_assoc, List.getD_append _ _ _ _ behind,
      List.getD_append _ _ _ _ behind]

/-- The checksum of a body changes with its replaced bytes. Witness: the extra byte is the
same, and a step of the checksum is injective.
-/
theorem replaced_checksum {before first second after : List UInt8}
    (same_length : first.length = second.length) (short : first.length ≤ 2)
    (place : 1 ≤ before.length ∧ before.length + first.length ≤ 4 ∨ 5 ≤ before.length)
    (same
      : bodyChecksum (before ++ first ++ after) = bodyChecksum (before ++ second ++ after))
    : first = second := by
  rw [bodyChecksum, bodyChecksum, replaced_msgid same_length place] at same
  have sums := crcAccumulate_state_injective _ same
  exact (crcCode.sum_eq_iff x25InitCrc before after same_length short).mp sums

/-- A body with other check bytes than its own reports nothing. -/
theorem unchecked_silent {reader : MavlinkReader} (fresh : reader.Fresh)
    (body : mavlinkFormat.Body) {low high : UInt8}
    (other : (low, high) ≠ mavlinkFormat.check body.symbols)
    : messages reader (mavlinkStx :: (body.symbols ++ [low, high])) = [] := by
  have carried := Tracks.messages fresh (mavlinkStx :: (body.symbols ++ [low, high]))
  have nothing
      : mavlinkFormat.received .idle (mavlinkStx :: (body.symbols ++ [low, high])) = [] :=
    FrameFormat.received_damaged body other
  rw [nothing] at carried
  exact List.forall₂_nil_right_iff.mp carried

/-- The body that arrives for a message with replaced bytes. -/
theorem replaced_body {message : MavlinkMessage} {before first second after : List UInt8}
    (sent : message.coreHeader ++ message.payload = before ++ first ++ after)
    (same_length : first.length = second.length) (behind_length : 1 ≤ before.length)
    : ∃ body : mavlinkFormat.Body, body.symbols = before ++ second ++ after := by
  cases before with
  | nil => cases behind_length
  | cons len before =>
      obtain ⟨own, rest⟩ : message.len = len ∧ _ = before ++ first ++ after :=
        List.cons.inj sent
      refine ⟨⟨len, before ++ second ++ after, ?_⟩, rfl⟩
      have sized := message.body.sized
      change _ = message.len.toNat + 4 at sized
      have arrived : (before ++ second ++ after).length = (before ++ first ++ after).length := by
        simp only [List.length_append, same_length]
      rw [arrived, ← rest, ← own]
      exact sized

/-- A damaged message is not reported, nor anything else in its place. Witness: the bytes that
arrive are the frame of a body with the check bytes of another.
-/
theorem damaged_silent {reader : MavlinkReader} (fresh : reader.Fresh)
    {message : MavlinkMessage} (checked : message.Checked) {bytes : List UInt8}
    (damaged : Damaged message bytes)
    : messages reader (mavlinkStx :: bytes) = [] := by
  cases damaged with
  | body before first second after sent same_length short differs place =>
      obtain ⟨body, arrived⟩ := replaced_body sent same_length (by omega)
      rw [← arrived]
      refine unchecked_silent fresh body ?_
      intro matched
      obtain ⟨low, high⟩ := Prod.mk.inj matched
      have same := checksum_ext low high
      rw [checked.checksum, sent, arrived] at same
      exact differs (replaced_checksum same_length short place same)
  | check low high differs =>
      refine unchecked_silent fresh message.body ?_
      intro matched
      obtain ⟨own_low, own_high⟩ := Prod.mk.inj matched
      rw [message.body_symbols, ← checked.checksum] at own_low own_high
      exact differs ⟨own_low, own_high⟩

/-- A message with two payload bytes, the first of which is replaced. -/
theorem damaged_silent_payload
    : let message := (mavlinkMsgPack .zero 35 [1, 2] 1 1 0 (mavlinkMessageCrc 35)).1
      messages (.new .zero .zero)
          (mavlinkStx
            :: (message.coreHeader ++ [9] ++ [2]
              ++ [lowByte message.checksum, highByte message.checksum]))
        = [] := by
  intro message
  have facts : message.Checked ∧ message.content = ⟨0, 1, 1, 35, [1, 2]⟩ :=
    @packed .zero 35 [1, 2] 1 1 0 (mavlinkMessageCrc 35) (by decide) rfl
  clear_value message
  obtain ⟨checked, content⟩ := facts
  have payload : message.payload = [1, 2] := congrArg Content.payload content
  have sent : message.coreHeader ++ message.payload = message.coreHeader ++ [1] ++ [2] := by
    rw [payload, List.append_assoc]
    rfl
  exact damaged_silent (fresh_new .zero .zero) checked
    (.body message.coreHeader [1] [9] [2] sent rfl (by decide) (by decide)
      (.inr (Nat.le_refl 5)))

/-- The message id is no such byte: a `COMMAND_LONG` that arrives as a `MISSION_REQUEST_LIST` is
reported.
-/
example
    : let message := (mavlinkMsgPack .zero 76 (List.replicate 33 0) 1 1 0
        (mavlinkMessageCrc 76)).1
      (messages (.new .zero .zero) ((mavlinkMsgToSendBuffer message).set 5 43)).map
          MavlinkMessage.msgid
        = [43] := by
  decide +kernel

-----------------------------------------------------------------------------------------
-- Resynchronisation
-----------------------------------------------------------------------------------------

/-- A message that holds no `MAVLINK_STX` but its first byte, nor does its filler. -/
def QuietMessage (piece : List UInt8 × MavlinkMessage) : Prop :=
  mavlinkStx ∉ piece.1 ∧ mavlinkStx ∉ (mavlinkMsgToSendBuffer piece.2).tail

/-- After any noise, messages without a second `MAVLINK_STX` leave the channel in no message
as soon as they are 262 bytes long. Witness: no frame is longer than 259 bytes, its length
byte, and two check bytes.
-/
theorem fresh_again {reader : MavlinkReader} (fresh : reader.Fresh) (noise : List UInt8)
    {lost : List (List UInt8 × MavlinkMessage)}
    (settling : ∀ piece ∈ lost, QuietMessage piece ∧ piece.2.Checked)
    (long : 262 ≤ (sentPieces lost).length)
    : (parser.run reader (noise ++ sentPieces lost)).Fresh := by
  have tracks := (parser_simulation.run fresh (noise ++ sentPieces lost)).1
  have bounded (len : UInt8) : mavlinkFormat.size len ≤ 259 := by
    have bound := len.toNat_lt
    change len.toNat + 4 ≤ 259
    omega
  have stream := sentPieces_stream (fun piece member => (settling piece member).2)
  have quiet : ∀ piece ∈ lost.map asPiece, piece.Quiet := by
    intro piece member
    obtain ⟨sent, sending, rfl⟩ := List.mem_map.mp member
    obtain ⟨⟨filler, frame⟩, checked⟩ := settling sent sending
    rw [checked.buffer] at frame
    exact ⟨filler, frame⟩
  have rests := FrameFormat.receiver_rests bounded (mavlinkFormat.receiver.run .idle noise) quiet
    (Nat.le_trans (FrameFormat.Progress.remaining_le bounded _) (stream ▸ long))
  rw [stream, Machine.run_append mavlinkFormat.receiver, rests, ← stream] at tracks
  exact tracks

/-- The messages behind 262 bytes of such messages arrive whole, whatever noise came before.
-/
theorem messages_resynchronised {reader : MavlinkReader} (fresh : reader.Fresh)
    (noise : List UInt8) {lost pieces : List (List UInt8 × MavlinkMessage)}
    (settling : ∀ piece ∈ lost, QuietMessage piece ∧ piece.2.Checked)
    (long : 262 ≤ (sentPieces lost).length)
    (sound : ∀ piece ∈ pieces, mavlinkStx ∉ piece.1 ∧ piece.2.Checked)
    : (messages reader (noise ++ sentPieces lost ++ sentPieces pieces)).map
        MavlinkMessage.content
      = (messages reader (noise ++ sentPieces lost)).map MavlinkMessage.content
        ++ pieces.map (fun piece => piece.2.content) := by
  rw [messages_append, List.map_append,
    messages_received (fresh_again fresh noise settling long) sound]

/-- Two leading bytes in front of thirty-three empty messages, and one more behind them. -/
theorem messages_resynchronised_empty
    : let message := (mavlinkMsgPack .zero 0 [] 1 1 0 (mavlinkMessageCrc 0)).1
      let lost := List.replicate 33 (([] : List UInt8), message)
      (messages (.new .zero .zero)
            ([254, 254] ++ sentPieces lost ++ sentPieces [([], message)])).map
          MavlinkMessage.content
        = (messages (.new .zero .zero) ([254, 254] ++ sentPieces lost)).map
            MavlinkMessage.content
          ++ [(([] : List UInt8), message)].map (fun piece => piece.2.content) := by
  intro message lost
  obtain ⟨checked, -⟩ := @packed .zero 0 [] 1 1 0 (mavlinkMessageCrc 0) (by decide) rfl
  have quiet : QuietMessage (([] : List UInt8), message) :=
    ⟨List.not_mem_nil, by decide +kernel⟩
  refine messages_resynchronised (fresh_new .zero .zero) [254, 254] ?_ ?_ ?_
  · intro piece member
    rw [List.eq_of_mem_replicate member]
    exact ⟨quiet, checked⟩
  · decide +kernel
  · intro piece member
    rw [List.mem_singleton.mp member]
    exact ⟨List.not_mem_nil, checked⟩

end Cooboc.Mavlink
