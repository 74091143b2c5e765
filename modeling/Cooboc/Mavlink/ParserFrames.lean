import Cooboc.Foundations.Composition
import Cooboc.Foundations.FrameStream
import Cooboc.Mavlink.Parser

/-! What `mavlink_parse_char` receives: it follows the receiver of a frame format whose body
is a message behind its `magic` byte.
-/

namespace Cooboc.Mavlink

open Cooboc.Foundations

/-- The checksum of a body: its bytes, and the extra byte of its message id. -/
def bodyChecksum (symbols : List UInt8) : UInt16 :=
  crcAccumulate (mavlinkMessageCrc (symbols.getD 4 0)) (crcCalculate symbols)

/-- The bytes of a message on the wire. -/
def mavlinkFormat : FrameFormat UInt8 where
  lead := mavlinkStx
  size len := len.toNat + 4
  size_pos len := Nat.succ_pos (len.toNat + 3)
  check symbols := (lowByte (bodyChecksum symbols), highByte (bodyChecksum symbols))

/-- The header behind the `magic` byte, and the whole payload buffer. -/
def MavlinkMessage.bytes (message : MavlinkMessage) : List UInt8 :=
  message.coreHeader ++ message.payload64.toList

/-- The state that reads the byte behind a length byte and some more. -/
def parseStateOf : Nat → MavlinkParseState
  | 0 => .gotLength
  | 1 => .gotSeq
  | 2 => .gotSysid
  | 3 => .gotCompid
  | _ + 4 => .gotMsgid

/-- The buffer of a channel holds the symbols of a body read so far. -/
structure MavlinkReader.Holds (reader : MavlinkReader) (symbols : List UInt8) : Prop where
  magic : reader.rxmsg.magic = mavlinkStx
  bytes : symbols <+: reader.rxmsg.bytes
  packetIdx : reader.status.packetIdx.toNat = symbols.length - 5

/-- The storage of a channel follows a receiver. -/
def Tracks (reader : MavlinkReader) : mavlinkFormat.Progress → Prop
  | .idle => reader.status.parseState = .uninit ∨ reader.status.parseState = .idle
  | .led =>
      reader.status.parseState = .gotStx
      ∧ reader.rxmsg.magic = mavlinkStx
      ∧ reader.rxmsg.checksum = x25InitCrc
  | .reading len read _ =>
      reader.status.parseState = parseStateOf read.length
      ∧ reader.Holds (len :: read)
      ∧ reader.rxmsg.checksum = crcCalculate (len :: read)
  | .check body =>
      reader.status.parseState = .gotPayload
      ∧ reader.Holds body.symbols
      ∧ reader.rxmsg.checksum = crcCalculate body.symbols
  | .last body =>
      reader.status.parseState = .gotCrc1
      ∧ reader.Holds body.symbols
      ∧ reader.rxmsg.checksum = bodyChecksum body.symbols

/-- A message copied out carries a body. -/
structure Carries (body : mavlinkFormat.Body) (message : MavlinkMessage) : Prop where
  magic : message.magic = mavlinkStx
  symbols : message.coreHeader ++ message.payload = body.symbols
  checksum : message.checksum = bodyChecksum body.symbols

/-- A symbol stored behind those held is held as well. -/
theorem prefix_store {α : Type*} {held cells : List α} (within : held <+: cells)
    (room : held.length < cells.length) (symbol : α)
    : held ++ [symbol] <+: cells.set held.length symbol := by
  obtain ⟨rest, rfl⟩ := within
  cases rest with
  | nil => simp at room
  | cons next rest =>
      rw [List.set_append_right _ _ (Nat.le_refl _), Nat.sub_self, List.set_cons_zero]
      exact ⟨rest, by simp⟩

/-- A symbol stored behind those held leaves them as they are. -/
theorem prefix_keep {α : Type*} {held cells : List α} (within : held <+: cells) {index : Nat}
    (behind : held.length ≤ index) (symbol : α)
    : held <+: cells.set index symbol := by
  obtain ⟨rest, rfl⟩ := within
  rw [List.set_append_right _ _ behind]
  exact List.prefix_append _ _

theorem MavlinkMessage.bytes_length (message : MavlinkMessage)
    : message.bytes.length = 269 := by
  simp [bytes, coreHeader]

/-- A byte written to the payload stands in the bytes behind the header. -/
theorem MavlinkMessage.write_bytes (message : MavlinkMessage) (index : Fin 264)
    (byte : UInt8)
    : (message.write index byte).bytes = message.bytes.set (index.val + 5) byte := by
  simp [bytes, write, coreHeader, Vector.toList_set]

-----------------------------------------------------------------------------------------
-- One byte
-----------------------------------------------------------------------------------------

/-- What `parse` leaves of a byte that completes a body, or completes none. -/
def Answers (reader : MavlinkReader) : Option mavlinkFormat.Body → Prop
  | none => reader.status.msgReceived = 0
  | some body => reader.status.msgReceived = 1 ∧ Carries body reader.rMessage

/-- A failed check byte is listened to. -/
theorem tracks_checkFailed {reader : MavlinkReader} (magic : reader.rxmsg.magic = mavlinkStx)
    (c : UInt8)
    : Tracks (reader.checkFailed c) (mavlinkFormat.listen c)
      ∧ (reader.checkFailed c).status.msgReceived = 0 := by
  by_cases leading : c = mavlinkStx
  · have listens : mavlinkFormat.listen c = .led := if_pos leading
    rw [listens, MavlinkReader.checkFailed, if_pos leading]
    exact ⟨⟨rfl, magic, rfl⟩, rfl⟩
  · have listens : mavlinkFormat.listen c = .idle := if_neg leading
    rw [listens, MavlinkReader.checkFailed, if_neg leading]
    exact ⟨.inr rfl, rfl⟩

/-- A check byte stored behind a body leaves the body as it is. -/
theorem MavlinkReader.Holds.store {reader : MavlinkReader} {body : mavlinkFormat.Body}
    (holds : reader.Holds body.symbols) (offset : Fin 3) (c : UInt8)
    : body.symbols <+: (reader.rxmsg.write (reader.index offset) c).bytes := by
  have length : body.symbols.length = body.first.toNat + 4 + 1 := body.symbols_length
  have index := holds.packetIdx
  have behind : body.symbols.length ≤ (reader.index offset).val + 5 := by
    simp only [MavlinkReader.index, payloadIndex]
    omega
  rw [MavlinkMessage.write_bytes]
  exact prefix_keep holds.bytes behind c

/-- One byte is stored behind the length byte and `count` others. -/
structure Stores (reader next : MavlinkReader) (count : Nat) (c : UInt8) : Prop where
  magic : next.rxmsg.magic = reader.rxmsg.magic
  bytes : next.rxmsg.bytes = reader.rxmsg.bytes.set (count + 1) c
  checksum : next.rxmsg.checksum = crcAccumulate c reader.rxmsg.checksum
  packetIdx : next.status.packetIdx.toNat = count + 2 - 5
  msgReceived : next.status.msgReceived = reader.status.msgReceived
  parseState
    : next.status.parseState
      = if count + 1 = reader.rxmsg.len.toNat + 4 then
          .gotPayload
        else
          parseStateOf (count + 1)

/-- Every byte up to the last one of the payload is stored behind those before it. Witness:
one case for each byte of the header, which has its own field; all others are payload.
-/
theorem parse_stores {reader : MavlinkReader} {count : Nat}
    (state : reader.status.parseState = parseStateOf count)
    (packetIdx : reader.status.packetIdx.toNat = count + 1 - 5)
    (room : count < reader.rxmsg.len.toNat + 4) (c : UInt8)
    : Stores reader (reader.parse c) count c := by
  match count with
  | 0 =>
      simp only [MavlinkReader.parse, state, parseStateOf]
      exact ⟨rfl, rfl, rfl, packetIdx, rfl, (if_neg (by omega)).symm⟩
  | 1 =>
      simp only [MavlinkReader.parse, state, parseStateOf]
      exact ⟨rfl, rfl, rfl, packetIdx, rfl, (if_neg (by omega)).symm⟩
  | 2 =>
      simp only [MavlinkReader.parse, state, parseStateOf]
      exact ⟨rfl, rfl, rfl, packetIdx, rfl, (if_neg (by omega)).symm⟩
  | 3 =>
      have empty : reader.rxmsg.len = 0 ↔ 3 + 1 = reader.rxmsg.len.toNat + 4 := by
        rw [← UInt8.toNat_inj]
        change reader.rxmsg.len.toNat = 0 ↔ _
        omega
      simp only [MavlinkReader.parse, state, parseStateOf]
      exact ⟨rfl, rfl, rfl, packetIdx, rfl, if_congr empty rfl rfl⟩
  | count + 4 =>
      have bound := reader.rxmsg.len.toNat_lt
      have next : (reader.status.packetIdx + 1).toNat = count + 1 := by
        have sum : (reader.status.packetIdx + 1).toNat
            = (reader.status.packetIdx.toNat + 1) % 256 :=
          UInt8.toNat_add _ 1
        omega
      have full
          : reader.status.packetIdx + 1 = reader.rxmsg.len
            ↔ count + 4 + 1 = reader.rxmsg.len.toNat + 4 := by
        rw [← UInt8.toNat_inj, next]
        omega
      have index : (reader.index atLength).val + 5 = count + 4 + 1 := by
        simp only [MavlinkReader.index, payloadIndex, packetIdx]
        simp
      simp only [MavlinkReader.parse, state, parseStateOf]
      refine ⟨rfl, ?_, rfl, next, rfl, if_congr full rfl rfl⟩
      rw [← index]
      exact reader.rxmsg.write_bytes (reader.index atLength) c

/-- A reader that holds the symbols of a body read so far knows its length byte. -/
theorem MavlinkReader.Holds.len {reader : MavlinkReader} {len : UInt8} {read : List UInt8}
    (holds : reader.Holds (len :: read))
    : reader.rxmsg.len = len := by
  obtain ⟨rest, split⟩ := holds.bytes
  exact (List.cons.inj split).1.symm

/-- A byte behind those of a body is held with them. -/
theorem Stores.holds {reader next : MavlinkReader} {len : UInt8} {read : List UInt8} {c : UInt8}
    (stores : Stores reader next read.length c) (holds : reader.Holds (len :: read))
    (room : read.length < len.toNat + 4)
    : next.Holds (len :: (read ++ [c])) := by
  refine ⟨stores.magic.trans holds.magic, ?_, ?_⟩
  · have bound := len.toNat_lt
    rw [stores.bytes]
    refine prefix_store holds.bytes ?_ c
    rw [MavlinkMessage.bytes_length, List.length_cons]
    omega
  · rw [stores.packetIdx, List.length_cons, List.length_append, List.length_singleton]

/-- The next state follows the receiver while a body is read. -/
theorem tracks_reading {reader : MavlinkReader} {len : UInt8} {read : List UInt8}
    {short : read.length < mavlinkFormat.size len}
    (tracks : Tracks reader (.reading len read short)) (c : UInt8)
    : Tracks (reader.parse c) (mavlinkFormat.advance (.reading len read short) c).1
      ∧ (reader.parse c).status.msgReceived = reader.status.msgReceived := by
  obtain ⟨state, holds, checksum⟩ := tracks
  have own := holds.len
  have room : read.length < len.toNat + 4 := short
  have stores := parse_stores state holds.packetIdx (own ▸ room) c
  have held := stores.holds holds room
  have summed : (reader.parse c).rxmsg.checksum = crcCalculate (len :: (read ++ [c])) := by
    rw [stores.checksum, checksum, ← List.cons_append, crcCalculate_concat]
  have next := stores.parseState
  rw [own] at next
  refine ⟨?_, stores.msgReceived⟩
  by_cases full : read.length + 1 = mavlinkFormat.size len
  · rw [FrameFormat.advance, dif_pos full]
    exact ⟨next.trans (if_pos full), held, summed⟩
  · rw [FrameFormat.advance, dif_neg full]
    refine ⟨?_, held, summed⟩
    rw [List.length_append, List.length_singleton]
    exact next.trans (if_neg full)

/-- The message of a buffer that holds a body is the body. -/
theorem MavlinkReader.Holds.carried {reader : MavlinkReader} {body : mavlinkFormat.Body}
    (holds : reader.Holds body.symbols)
    : reader.rxmsg.coreHeader ++ reader.rxmsg.payload = body.symbols := by
  have own : reader.rxmsg.len = body.first := MavlinkReader.Holds.len holds
  have length : body.symbols.length = 5 + reader.rxmsg.len.toNat := by
    rw [own, Nat.add_comm]
    exact body.symbols_length
  have whole := List.prefix_iff_eq_take.mp holds.bytes
  have header : reader.rxmsg.coreHeader.length = 5 := rfl
  rw [whole, length, ← header, MavlinkMessage.bytes, List.take_length_add_append]
  rfl

/-- The message id of a body that is held. -/
theorem MavlinkReader.Holds.msgid {reader : MavlinkReader} {body : mavlinkFormat.Body}
    (holds : reader.Holds body.symbols)
    : reader.rxmsg.msgid = body.symbols.getD 4 0 := by
  rw [← holds.carried]
  rfl

/-- One byte keeps the storage of a channel in step with the receiver, and completes a message
exactly if it completes a body, which the message then carries. Witness: one case for each
progress.
-/
theorem Tracks.parse {reader : MavlinkReader} {progress : mavlinkFormat.Progress}
    (tracks : Tracks reader progress) (cleared : reader.status.msgReceived = 0) (c : UInt8)
    : Tracks (reader.parse c) (mavlinkFormat.advance progress c).1
      ∧ Answers (reader.parse c) (mavlinkFormat.advance progress c).2 := by
  cases progress with
  | idle =>
      by_cases leading : c = mavlinkStx
      · have parsed : reader.parse c =
            { reader with
              status := { reader.status with parseState := .gotStx }
              rxmsg := mavlinkStartChecksum { reader.rxmsg with len := 0, magic := c } } := by
          rcases tracks with state | state <;>
            simp only [MavlinkReader.parse, state, if_pos leading]
        have listens : mavlinkFormat.listen c = .led := if_pos leading
        rw [FrameFormat.advance, listens, parsed]
        exact ⟨⟨rfl, leading, rfl⟩, cleared⟩
      · have parsed : reader.parse c = reader := by
          rcases tracks with state | state <;>
            simp only [MavlinkReader.parse, state, if_neg leading]
        have listens : mavlinkFormat.listen c = .idle := if_neg leading
        rw [FrameFormat.advance, listens, parsed]
        exact ⟨tracks, cleared⟩
  | led =>
      obtain ⟨state, magic, checksum⟩ := tracks
      simp only [MavlinkReader.parse, state, cleared, ne_eq, not_true_eq_false, if_false]
      refine ⟨⟨rfl, ⟨magic, ⟨_, rfl⟩, rfl⟩, ?_⟩, rfl⟩
      change crcAccumulate c reader.rxmsg.checksum = crcCalculate [c]
      rw [checksum]
      rfl
  | reading len read short =>
      obtain ⟨next, silent⟩ := tracks_reading tracks c
      have answers : (mavlinkFormat.advance (.reading len read short) c).2 = none := by
        rw [FrameFormat.advance]
        split <;> rfl
      rw [answers]
      exact ⟨next, silent.trans cleared⟩
  | check body =>
      obtain ⟨state, holds, checksum⟩ := tracks
      have extra : crcAccumulate (mavlinkMessageCrc reader.rxmsg.msgid) reader.rxmsg.checksum
          = bodyChecksum body.symbols := by
        rw [checksum, holds.msgid]
        rfl
      simp only [MavlinkReader.parse, state, mavlinkUpdateChecksum, extra]
      by_cases matched : c = lowByte (bodyChecksum body.symbols)
      · have advanced : mavlinkFormat.advance (.check body) c = (.last body, none) :=
          if_pos matched
        rw [if_neg (not_not_intro matched), advanced]
        exact ⟨⟨rfl, ⟨holds.magic, holds.store 0 c, holds.packetIdx⟩, rfl⟩, cleared⟩
      · have advanced
            : mavlinkFormat.advance (.check body) c = (mavlinkFormat.listen c, none) :=
          if_neg matched
        rw [if_pos matched, advanced]
        refine tracks_checkFailed ?_ c
        exact holds.magic
  | last body =>
      obtain ⟨state, holds, checksum⟩ := tracks
      simp only [MavlinkReader.parse, state, checksum]
      by_cases matched : c = highByte (bodyChecksum body.symbols)
      · have advanced : mavlinkFormat.advance (.last body) c = (.idle, some body) :=
          if_pos matched
        rw [if_neg (not_not_intro matched), advanced]
        have stored : MavlinkReader.Holds
            { reader with rxmsg := reader.rxmsg.write (reader.index behindLength) c }
            body.symbols :=
          ⟨holds.magic, holds.store 1 c, holds.packetIdx⟩
        exact ⟨.inr rfl, rfl, stored.magic, stored.carried, checksum⟩
      · have advanced
            : mavlinkFormat.advance (.last body) c = (mavlinkFormat.listen c, none) :=
          if_neg matched
        rw [if_pos matched, advanced]
        exact tracks_checkFailed holds.magic c

-----------------------------------------------------------------------------------------
-- Runs
-----------------------------------------------------------------------------------------

theorem count_state (reader : MavlinkReader)
    : reader.count.status.parseState = reader.status.parseState
      ∧ reader.count.status.packetIdx = reader.status.packetIdx
      ∧ reader.count.status.msgReceived = reader.status.msgReceived
      ∧ reader.count.rxmsg = reader.rxmsg
      ∧ reader.count.rMessage = reader.rMessage := by
  by_cases received : reader.status.msgReceived = 1
  · have counted : reader.count = _ := if_pos received
    rw [counted]
    exact ⟨rfl, rfl, rfl, rfl, rfl⟩
  · have kept : reader.count = reader := if_neg received
    rw [kept]
    exact ⟨rfl, rfl, rfl, rfl, rfl⟩

/-- What a reader follows depends on three members of its storage. -/
theorem Tracks.of_same {reader other : MavlinkReader} {progress : mavlinkFormat.Progress}
    (tracks : Tracks reader progress)
    (state : other.status.parseState = reader.status.parseState)
    (packetIdx : other.status.packetIdx = reader.status.packetIdx)
    (rxmsg : other.rxmsg = reader.rxmsg)
    : Tracks other progress := by
  have held {symbols : List UInt8} (holds : reader.Holds symbols) : other.Holds symbols :=
    ⟨rxmsg ▸ holds.magic, rxmsg ▸ holds.bytes, packetIdx ▸ holds.packetIdx⟩
  cases progress with
  | idle => exact Or.imp state.trans state.trans tracks
  | led => exact ⟨state.trans tracks.1, rxmsg ▸ tracks.2.1, rxmsg ▸ tracks.2.2⟩
  | reading len read short =>
      exact ⟨state.trans tracks.1, held tracks.2.1, rxmsg ▸ tracks.2.2⟩
  | check body => exact ⟨state.trans tracks.1, held tracks.2.1, rxmsg ▸ tracks.2.2⟩
  | last body => exact ⟨state.trans tracks.1, held tracks.2.1, rxmsg ▸ tracks.2.2⟩

/-- The parser follows the receiver of its format. -/
theorem parser_simulation
    : Machine.Simulation parser mavlinkFormat.receiver Tracks
        (Option.Rel (fun message body => Carries body message)) where
  states := by
    intro reader progress c tracks
    have cleared : Tracks reader.clear progress := tracks.of_same rfl rfl rfl
    obtain ⟨state, packetIdx, _, rxmsg, _⟩ := count_state (reader.clear.parse c)
    exact (cleared.parse rfl c).1.of_same state packetIdx rxmsg
  outputs := by
    intro reader progress c tracks
    have cleared : Tracks reader.clear progress := tracks.of_same rfl rfl rfl
    have answers := (cleared.parse rfl c).2
    obtain ⟨_, _, received, _, message⟩ := count_state (reader.clear.parse c)
    change Option.Rel _
      (if (reader.clear.parse c).count.status.msgReceived ≠ 0 then
        some (reader.clear.parse c).count.rMessage
      else
        none)
      (mavlinkFormat.advance progress c).2
    rw [received, message]
    cases delivered : (mavlinkFormat.advance progress c).2 with
    | none =>
        rw [delivered] at answers
        have silent : (reader.clear.parse c).status.msgReceived = 0 := answers
        rw [if_neg (not_not_intro silent)]
        exact .none
    | some body =>
        rw [delivered] at answers
        rw [if_pos (by rw [answers.1]; decide)]
        exact .some answers.2

/-- The messages that a run completes, in order. -/
def messages (reader : MavlinkReader) (bytes : List UInt8) : List MavlinkMessage :=
  (parser.outputs reader bytes).reduceOption

theorem messages_cons (reader : MavlinkReader) (c : UInt8) (rest : List UInt8)
    : messages reader (c :: rest)
      = (parser.step reader c).2.toList ++ messages (parser.step reader c).1 rest := by
  rw [messages, Machine.outputs_cons]
  cases (parser.step reader c).2 <;> rfl

theorem messages_append (reader : MavlinkReader) (before after : List UInt8)
    : messages reader (before ++ after)
      = messages reader before ++ messages (parser.run reader before) after := by
  rw [messages, Machine.outputs_append, List.reduceOption_append]
  rfl

/-- A channel that is in no message. -/
def MavlinkReader.Fresh (reader : MavlinkReader) : Prop := Tracks reader .idle

theorem fresh_new (rMessage : MavlinkMessage) (rMavlinkStatus : MavlinkStatus)
    : (MavlinkReader.new rMessage rMavlinkStatus).Fresh :=
  .inl rfl

/-- The messages that a run completes carry the bodies that a receiver delivers. -/
theorem Tracks.messages {reader : MavlinkReader} {progress : mavlinkFormat.Progress}
    (tracks : Tracks reader progress) (bytes : List UInt8)
    : List.Forall₂ (fun message body => Carries body message) (messages reader bytes)
        (mavlinkFormat.received progress bytes) :=
  Machine.forall₂_reduceOption (parser_simulation.run tracks bytes).2

end Cooboc.Mavlink
