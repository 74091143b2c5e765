import Cooboc.Mavlink.ParserFrames

/-! What arrives of the messages sent over a channel, and what does not: every message that
the parser reports stands in the bytes it read, an undisturbed stream arrives whole, a message
with damaged bytes is not reported, and the parser finds back to the messages that follow.
-/

namespace Cooboc.Mavlink

open Cooboc.Foundations

/-- A message is well formed: it starts with `MAVLINK_STX`, and its checksum is that of its
header, its payload and the extra byte of its id.
-/
structure MavlinkMessage.Checked (message : MavlinkMessage) : Prop where
  magic : message.magic = mavlinkStx
  checksum : message.checksum = bodyChecksum (message.coreHeader ++ message.payload)

theorem MavlinkMessage.payload_length (message : MavlinkMessage)
    : message.payload.length = message.len.toNat := by
  have bound := message.len.toNat_lt
  rw [payload, List.length_take, Vector.length_toList]
  omega

/-- The body of a message. -/
def MavlinkMessage.body (message : MavlinkMessage) : mavlinkFormat.Body where
  first := message.len
  rest := [message.seq, message.sysid, message.compid, message.msgid] ++ message.payload
  sized := by
    rw [List.length_append, message.payload_length, Nat.add_comm]
    rfl

theorem MavlinkMessage.body_symbols (message : MavlinkMessage)
    : message.body.symbols = message.coreHeader ++ message.payload :=
  rfl

theorem bodyChecksum_message (message : MavlinkMessage)
    : bodyChecksum (message.coreHeader ++ message.payload)
      = crcAccumulate (mavlinkMessageCrc message.msgid)
          (crcCalculate (message.coreHeader ++ message.payload)) :=
  rfl

/-- A well-formed message is sent as the frame of its body. -/
theorem MavlinkMessage.Checked.buffer {message : MavlinkMessage} (checked : message.Checked)
    : mavlinkMsgToSendBuffer message = message.body.frame := by
  rw [mavlinkMsgToSendBuffer, checked.magic, checked.checksum]
  rfl

/-- A message that carries a body is well formed, and has no other body. -/
theorem Carries.checked {body : mavlinkFormat.Body} {message : MavlinkMessage}
    (carries : Carries body message)
    : message.Checked ∧ message.body = body := by
  refine ⟨⟨carries.magic, ?_⟩, FrameFormat.Body.symbols_inj carries.symbols⟩
  rw [carries.checksum, carries.symbols]

-----------------------------------------------------------------------------------------
-- Whatever is read
-----------------------------------------------------------------------------------------

/-- Messages one behind another, each with the filler in front of it, as they are sent. -/
def sentPieces (pieces : List (List UInt8 × MavlinkMessage)) : List UInt8 :=
  pieces.flatMap (fun piece => piece.1 ++ mavlinkMsgToSendBuffer piece.2)

/-- The frames of a stream are its messages as they are sent. Witness: induction over the
messages, each of which carries the body of one piece.
-/
theorem carried_stream {pieces : List mavlinkFormat.Piece} {received : List MavlinkMessage}
    (carried
      : List.Forall₂ (fun message piece => Carries piece.body message) received pieces)
    : ∃ sent : List (List UInt8 × MavlinkMessage),
        sent.map Prod.snd = received
        ∧ FrameFormat.stream pieces = sentPieces sent
        ∧ ∀ message ∈ received, message.Checked := by
  induction carried with
  | nil => exact ⟨[], rfl, rfl, fun _ member => absurd member List.not_mem_nil⟩
  | @cons message piece received pieces carries _ ih =>
      obtain ⟨sent, same, stream, others⟩ := ih
      obtain ⟨checked, body⟩ := carries.checked
      refine ⟨(piece.filler, message) :: sent, congrArg _ same, ?_,
        List.forall_mem_cons.mpr ⟨checked, others⟩⟩
      rw [FrameFormat.stream_cons, stream, ← body, ← checked.buffer]
      rfl

/-- Whatever bytes a channel reads, the messages it reports are well formed, and sent again
they are bytes that it has read: one message behind another, without overlap, in the order of
the reports.
-/
theorem messages_sound {reader : MavlinkReader} (fresh : reader.Fresh) (bytes : List UInt8)
    : ∃ pieces : List (List UInt8 × MavlinkMessage), ∃ rest,
        bytes = sentPieces pieces ++ rest
        ∧ messages reader bytes = pieces.map Prod.snd
        ∧ ∀ message ∈ messages reader bytes, message.Checked := by
  have carried := Tracks.messages fresh bytes
  obtain ⟨pieces, rest, split, delivered⟩ := mavlinkFormat.received_sound bytes
  rw [delivered, List.forall₂_map_right_iff] at carried
  obtain ⟨sent, same, stream, checked⟩ := carried_stream carried
  exact ⟨sent, rest, by rw [split, stream], same.symm, checked⟩

/-- A byte of noise, a whole message, and the first two bytes of another. -/
theorem messages_sound_noise
    : let bytes : List UInt8 := [7, 254, 1, 0, 1, 1, 255, 5, 238, 67, 254, 3]
      (messages (.new .zero .zero) bytes).length = 1
      ∧ ∃ pieces : List (List UInt8 × MavlinkMessage), ∃ rest,
          bytes = sentPieces pieces ++ rest
          ∧ messages (.new .zero .zero) bytes = pieces.map Prod.snd
          ∧ ∀ message ∈ messages (.new .zero .zero) bytes, message.Checked :=
  ⟨by decide +kernel, messages_sound (fresh_new .zero .zero) _⟩

-----------------------------------------------------------------------------------------
-- An undisturbed stream
-----------------------------------------------------------------------------------------

/-- What a message says: its sender, its place in the sequence, its id and its payload. -/
structure Content where
  seq : UInt8
  sysid : UInt8
  compid : UInt8
  msgid : UInt8
  payload : List UInt8
deriving DecidableEq

def MavlinkMessage.content (message : MavlinkMessage) : Content where
  seq := message.seq
  sysid := message.sysid
  compid := message.compid
  msgid := message.msgid
  payload := message.payload

/-- Messages with the same body say the same. -/
theorem MavlinkMessage.content_eq {first second : MavlinkMessage}
    (same : first.body = second.body)
    : first.content = second.content := by
  have rest := congrArg FrameFormat.Body.rest same
  simp only [body, List.cons_append, List.nil_append, List.cons.injEq] at rest
  obtain ⟨seq, sysid, compid, msgid, payload⟩ := rest
  rw [content, content, seq, sysid, compid, msgid, payload]

/-- What the pack functions of `common` do: the packet's bytes are copied to the payload of a
message on the stack, which is then finished with the packet's length and extra byte.
-/
def mavlinkMsgPack (stack : MavlinkMessage) (msgid : UInt8) (packet : List UInt8)
    (systemId componentId currentTxSeq crcExtra : UInt8)
    : MavlinkMessage × UInt8 :=
  mavlinkFinalizeMessageChan { stack.copyPayload packet with msgid := msgid } systemId
    componentId currentTxSeq (UInt8.ofNat packet.length) crcExtra

theorem copyPayload_take (message : MavlinkMessage) {bytes : List UInt8}
    (short : bytes.length < 256)
    : (message.copyPayload bytes).payload64.toList.take bytes.length = bytes := by
  apply List.ext_getElem
  · rw [List.length_take, Vector.length_toList]
    omega
  · intro index _ bound
    simp [MavlinkMessage.copyPayload, bound]

/-- A byte written behind the payload leaves the payload as it is. -/
theorem write_payload (message : MavlinkMessage) {index : Fin 264} (byte : UInt8)
    (behind : message.len.toNat ≤ index)
    : (message.write index byte).payload = message.payload := by
  simp only [MavlinkMessage.write, MavlinkMessage.payload, Vector.toList_set]
  exact List.take_set_of_le behind

/-- A finished message has the given header, the payload that was in the buffer, and the
checksum of both. Witness: the check bytes are written behind the payload.
-/
theorem finalized (message : MavlinkMessage) (systemId componentId currentTxSeq length crcExtra
      : UInt8)
    : let finished :=
        (mavlinkFinalizeMessageChan message systemId componentId currentTxSeq length crcExtra).1
      finished.magic = mavlinkStx
      ∧ finished.coreHeader = [length, currentTxSeq, systemId, componentId, message.msgid]
      ∧ finished.payload = message.payload64.toList.take length.toNat
      ∧ finished.checksum
        = crcAccumulate crcExtra (crcCalculate (finished.coreHeader ++ finished.payload)) := by
  have stored (header : MavlinkMessage) (first last : UInt8)
      : ((header.write (payloadIndex header.len atLength) first).write
          (payloadIndex header.len behindLength) last).payload = header.payload := by
    rw [write_payload, write_payload]
    · exact Nat.le_refl _
    · exact Nat.le_succ _
  intro finished
  have payload : finished.payload = message.payload64.toList.take length.toNat := stored _ _ _
  refine ⟨rfl, rfl, payload, ?_⟩
  rw [payload, crcCalculate, crcAccumulateBuffer_append]
  rfl

/-- A packed message is well formed and says what was packed, under the next sequence number.
-/
theorem packed {stack : MavlinkMessage} {msgid : UInt8} {packet : List UInt8}
    {systemId componentId currentTxSeq crcExtra : UInt8} (short : packet.length < 256)
    (extra : crcExtra = mavlinkMessageCrc msgid)
    : let sent :=
        (mavlinkMsgPack stack msgid packet systemId componentId currentTxSeq crcExtra).1
      sent.Checked ∧ sent.content = ⟨currentTxSeq, systemId, componentId, msgid, packet⟩ := by
  have facts := finalized { stack.copyPayload packet with msgid := msgid } systemId componentId
    currentTxSeq (UInt8.ofNat packet.length) crcExtra
  rw [← mavlinkMsgPack] at facts
  generalize (mavlinkMsgPack stack msgid packet systemId componentId currentTxSeq crcExtra).1
    = sent at facts
  obtain ⟨magic, header, copied, checksum⟩ := facts
  have payload : sent.payload = packet := by
    rw [copied, UInt8.toNat_ofNat_of_lt' short]
    exact copyPayload_take stack short
  simp only [MavlinkMessage.coreHeader, List.cons.injEq] at header
  obtain ⟨_, seq, sysid, compid, id, _⟩ := header
  refine ⟨⟨magic, ?_⟩, ?_⟩
  · rw [checksum, extra, ← id, bodyChecksum_message]
  · rw [MavlinkMessage.content, payload, seq, sysid, compid, id]

/-- A message to be sent: filler that precedes it on the line, the stack it is packed on, and
what is packed.
-/
structure Send where
  filler : List UInt8
  stack : MavlinkMessage
  systemId : UInt8
  componentId : UInt8
  msgid : UInt8
  packet : List UInt8

/-- The filler holds no `MAVLINK_STX`, and the packet fits into a payload. -/
structure Send.Fits (send : Send) : Prop where
  filler : mavlinkStx ∉ send.filler
  packet : send.packet.length < 256

/-- The message, packed with the extra byte of its id. -/
def Send.message (send : Send) (currentTxSeq : UInt8) : MavlinkMessage × UInt8 :=
  mavlinkMsgPack send.stack send.msgid send.packet send.systemId send.componentId currentTxSeq
    (mavlinkMessageCrc send.msgid)

/-- The messages as a channel packs them one after another. -/
def sentMessages (currentTxSeq : UInt8) : List Send → List (List UInt8 × MavlinkMessage)
  | [] => []
  | send :: rest =>
      let (message, currentTxSeq) := send.message currentTxSeq
      (send.filler, message) :: sentMessages currentTxSeq rest

/-- The piece of a stream that a message and its filler are. -/
def asPiece (piece : List UInt8 × MavlinkMessage) : mavlinkFormat.Piece :=
  ⟨piece.1, piece.2.body⟩

/-- Well-formed messages are sent as a stream of the parser's format. -/
theorem sentPieces_stream {pieces : List (List UInt8 × MavlinkMessage)}
    (checked : ∀ piece ∈ pieces, piece.2.Checked)
    : sentPieces pieces = FrameFormat.stream (pieces.map asPiece) := by
  induction pieces with
  | nil => rfl
  | cons piece rest ih =>
      obtain ⟨own, others⟩ := List.forall_mem_cons.mp checked
      rw [List.map_cons, FrameFormat.stream_cons, ← ih others]
      change _ = piece.1 ++ piece.2.body.frame ++ _
      rw [← own.buffer]
      rfl

/-- Messages that carry the bodies of other messages say the same. -/
theorem carried_contents {received : List MavlinkMessage}
    {pieces : List (List UInt8 × MavlinkMessage)}
    (carried
      : List.Forall₂ (fun message body => Carries body message) received
          ((pieces.map asPiece).map FrameFormat.Piece.body))
    : received.map MavlinkMessage.content = pieces.map (fun piece => piece.2.content) := by
  rw [List.map_map, List.forall₂_map_right_iff] at carried
  induction carried with
  | nil => rfl
  | cons carries _ ih =>
      rw [List.map_cons, List.map_cons, ih, MavlinkMessage.content_eq carries.checked.2]

/-- Well-formed messages, with fillers free of `MAVLINK_STX`, arrive as they were sent. -/
theorem messages_received {reader : MavlinkReader} (fresh : reader.Fresh)
    {pieces : List (List UInt8 × MavlinkMessage)}
    (sound : ∀ piece ∈ pieces, mavlinkStx ∉ piece.1 ∧ piece.2.Checked)
    : (messages reader (sentPieces pieces)).map MavlinkMessage.content
      = pieces.map (fun piece => piece.2.content) := by
  have carried := Tracks.messages fresh (sentPieces pieces)
  have quiet : ∀ piece ∈ pieces.map asPiece, mavlinkFormat.lead ∉ piece.filler := by
    intro piece member
    obtain ⟨sent, sending, rfl⟩ := List.mem_map.mp member
    exact (sound sent sending).1
  rw [sentPieces_stream (fun piece member => (sound piece member).2),
    (FrameFormat.receiver_stream quiet).2] at carried
  rw [sentPieces_stream (fun piece member => (sound piece member).2)]
  exact carried_contents carried

/-- The messages that a channel packs are well formed, and say what was packed. Witness:
induction over what is sent, the sequence number counted up by each message.
-/
theorem sentMessages_packed (currentTxSeq : UInt8) {sends : List Send}
    (fits : ∀ send ∈ sends, send.Fits)
    : (∀ piece ∈ sentMessages currentTxSeq sends, mavlinkStx ∉ piece.1 ∧ piece.2.Checked)
      ∧ (sentMessages currentTxSeq sends).map (fun piece => piece.2.content)
        = sends.mapIdx (fun index send =>
            ⟨currentTxSeq + UInt8.ofNat index, send.systemId, send.componentId, send.msgid,
              send.packet⟩) := by
  induction sends generalizing currentTxSeq with
  | nil => exact ⟨fun _ member => absurd member List.not_mem_nil, rfl⟩
  | cons send rest ih =>
      obtain ⟨own, others⟩ := List.forall_mem_cons.mp fits
      obtain ⟨checked, content⟩
          : (send.message currentTxSeq).1.Checked
            ∧ (send.message currentTxSeq).1.content
              = ⟨currentTxSeq, send.systemId, send.componentId, send.msgid, send.packet⟩ :=
        packed own.packet rfl
      obtain ⟨sound, later⟩ := ih (currentTxSeq + 1) others
      have counted : sentMessages currentTxSeq (send :: rest)
          = (send.filler, (send.message currentTxSeq).1)
            :: sentMessages (currentTxSeq + 1) rest :=
        rfl
      rw [counted, List.map_cons, List.mapIdx_cons, content, later]
      refine ⟨List.forall_mem_cons.mpr ⟨⟨own.filler, checked⟩, sound⟩, ?_⟩
      have next (index : Nat)
          : currentTxSeq + 1 + UInt8.ofNat index = currentTxSeq + UInt8.ofNat (index + 1) := by
        rw [UInt8.ofNat_add, UInt8.add_assoc, UInt8.add_comm (UInt8.ofNat index)]
        rfl
      simp only [next]
      rw [show currentTxSeq + UInt8.ofNat 0 = currentTxSeq from UInt8.add_zero currentTxSeq]

/-- Messages packed one after another on a channel, whatever was on the stack and on the line
between them, are reported by the receiver one by one: each with its own id, payload and
sender, and with sequence numbers that count up from the sender's.
-/
theorem messages_transmitted {reader : MavlinkReader} (fresh : reader.Fresh)
    (currentTxSeq : UInt8) {sends : List Send} (fits : ∀ send ∈ sends, send.Fits)
    : (messages reader (sentPieces (sentMessages currentTxSeq sends))).map
        MavlinkMessage.content
      = sends.mapIdx (fun index send =>
          ⟨currentTxSeq + UInt8.ofNat index, send.systemId, send.componentId, send.msgid,
            send.packet⟩) := by
  obtain ⟨sound, contents⟩ := sentMessages_packed currentTxSeq fits
  rw [messages_received fresh sound, contents]

-----------------------------------------------------------------------------------------
-- A stream of which a part has arrived
-----------------------------------------------------------------------------------------

/-- The lengths of the messages, each with its filler, as they are sent. -/
def sentLengths (currentTxSeq : UInt8) (sends : List Send) : List Nat :=
  (sentMessages currentTxSeq sends).map
    (fun piece => piece.1.length + (mavlinkMsgToSendBuffer piece.2).length)

/-- The messages that are whole among the first bytes of what is sent. -/
def arrivedSends (currentTxSeq : UInt8) (sends : List Send) (count : Nat) : List Send :=
  sends.take (wholeCount count (sentLengths currentTxSeq sends))

/-- The first messages are sent as they are in front of others. -/
theorem sentMessages_take (currentTxSeq : UInt8) (sends : List Send) (count : Nat)
    : (sentMessages currentTxSeq sends).take count
      = sentMessages currentTxSeq (sends.take count) := by
  induction sends generalizing currentTxSeq count with
  | nil => simp [sentMessages]
  | cons send rest ih =>
      cases count with
      | zero => rfl
      | succ count => exact congrArg _ (ih _ count)

/-- The lengths of the messages are those of the pieces that they are. -/
theorem sentLengths_pieces (currentTxSeq : UInt8) {sends : List Send}
    (checked : ∀ piece ∈ sentMessages currentTxSeq sends, piece.2.Checked)
    : ((sentMessages currentTxSeq sends).map asPiece).map FrameFormat.Piece.length
      = sentLengths currentTxSeq sends := by
  rw [List.map_map]
  refine List.map_congr_left (fun piece member => ?_)
  rw [(checked piece member).buffer]
  exact List.length_append

/-- Of the messages sent those are reported that have arrived whole: a part of one more is
reported by no message. Witness: an initial part of a stream delivers its whole pieces.
-/
theorem messages_arrived {reader : MavlinkReader} (fresh : reader.Fresh)
    (currentTxSeq : UInt8) {sends : List Send} (fits : ∀ send ∈ sends, send.Fits)
    {bytes : List UInt8} (initial : bytes <+: sentPieces (sentMessages currentTxSeq sends))
    : (messages reader bytes).map MavlinkMessage.content
      = (arrivedSends currentTxSeq sends bytes.length).mapIdx (fun index send =>
          ⟨currentTxSeq + UInt8.ofNat index, send.systemId, send.componentId, send.msgid,
            send.packet⟩) := by
  obtain ⟨sound, _⟩ := sentMessages_packed currentTxSeq fits
  have quiet
      : ∀ piece ∈ (sentMessages currentTxSeq sends).map asPiece,
          mavlinkFormat.lead ∉ piece.filler := by
    intro piece member
    obtain ⟨sent, sending, rfl⟩ := List.mem_map.mp member
    exact (sound sent sending).1
  rw [sentPieces_stream (fun piece member => (sound piece member).2)] at initial
  have carried := Tracks.messages fresh bytes
  rw [FrameFormat.received_initial quiet initial,
    sentLengths_pieces currentTxSeq (fun piece member => (sound piece member).2),
    ← List.map_take, sentMessages_take] at carried
  rw [carried_contents carried]
  exact (sentMessages_packed currentTxSeq
    (fun send member => fits send (List.mem_of_mem_take member))).2

/-- What is read from the messages reported is what was sent in those that have arrived, where
it depends on their ids and payloads.
-/
theorem messages_read {δ : Type*} {reader : MavlinkReader} (fresh : reader.Fresh)
    (currentTxSeq : UInt8) {sends : List Send} (fits : ∀ send ∈ sends, send.Fits)
    {bytes : List UInt8} (initial : bytes <+: sentPieces (sentMessages currentTxSeq sends))
    {received : MavlinkMessage → Option δ} {sent : Send → Option δ}
    (agree
      : ∀ message : MavlinkMessage,
          ∀ send ∈ sends,
            message.msgid = send.msgid → message.payload = send.packet
            → received message = sent send)
    : (messages reader bytes).filterMap received
      = (arrivedSends currentTxSeq sends bytes.length).filterMap sent := by
  have contents := messages_arrived fresh currentTxSeq fits initial
  have options
      : (messages reader bytes).map received
        = (arrivedSends currentTxSeq sends bytes.length).map sent := by
    refine Machine.map_eq_of_mapIdx contents ?_
    intro index message send member same
    exact agree message send (List.mem_of_mem_take member) (congrArg Content.msgid same)
      (congrArg Content.payload same)
  have same := congrArg (List.filterMap id) options
  rw [List.filterMap_map, List.filterMap_map] at same
  exact same

end Cooboc.Mavlink
