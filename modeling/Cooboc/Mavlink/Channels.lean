import Mathlib.Tactic.IntervalCases
import Cooboc.Mavlink.Reports
import Cooboc.Foundations.Composition

/-! The channels of `getMavlinkComChannel`: the arrays in which a translation unit keeps the storage
of its channels, the devices that are attached to them, and the messages sent on `MAVLINK_COMM_0`.
Devices with places of their own are as good as devices with arrays of their own, which is how the
lines of the servo driver and of the radio are modelled.
-/

namespace Cooboc.Mavlink

open Cooboc.Foundations Machine

variable {κ : Type*}

-----------------------------------------------------------------------------------------
-- Attached devices
-----------------------------------------------------------------------------------------

/-- `mavlink_channel_t`. -/
inductive MavlinkChannel where
  | comm0
  | comm1
  | comm2
  | comm3
deriving DecidableEq

/-- `getMavlinkComChannel`: the counter it leaves, and the channel it hands out. -/
def getMavlinkComChannel (mavComChan : UInt8) : UInt8 × MavlinkChannel :=
  let mavComChan := mavComChan + 1
  (mavComChan,
    if mavComChan = 1 then .comm0
    else if mavComChan = 2 then .comm1
    else if mavComChan = 3 then .comm2
    else if mavComChan = 4 then .comm3
    else .comm0)

/-- The memory of the channels. `mavlink_get_channel_status` and `mavlink_get_channel_buffer` are
compiled into each translation unit, with arrays of their own. A device is known by its unit
and its channel, and keeps the two objects that it passes to the parser.
-/
structure Channels (κ : Type*) where
  mavComChan : UInt8
  mMavlinkStatus : κ × MavlinkChannel → MavlinkStatus
  mMavlinkBuffer : κ × MavlinkChannel → MavlinkMessage
  devices : List (κ × MavlinkChannel)
  rMessage : Nat → MavlinkMessage
  rMavlinkStatus : Nat → MavlinkStatus

/-- The arrays are zero as the program starts, the devices' objects are as they are found. -/
def Channels.initial (memory : Nat → MavlinkMessage × MavlinkStatus) : Channels κ where
  mavComChan := 0
  mMavlinkStatus _ := MavlinkStatus.zero
  mMavlinkBuffer _ := MavlinkMessage.zero
  devices := []
  rMessage device := (memory device).1
  rMavlinkStatus device := (memory device).2

/-- A device of a unit asks for its channel. -/
def Channels.attach (channels : Channels κ) (unit : κ) : Channels κ :=
  let (mavComChan, channel) := getMavlinkComChannel channels.mavComChan
  { channels with
    mavComChan := mavComChan
    devices := channels.devices ++ [(unit, channel)] }

/-- The channel of the device that is attached behind so many others. -/
def channelAt (index : Nat) : MavlinkChannel := (getMavlinkComChannel (UInt8.ofNat index)).2

/-- The counter counts the devices, and each device has the channel of its place in the order. -/
structure Channels.Counted (channels : Channels κ) : Prop where
  counter : channels.mavComChan = UInt8.ofNat channels.devices.length
  handed : channels.devices.map Prod.snd = (List.range channels.devices.length).map channelAt

theorem Channels.attach_devices (channels : Channels κ) (unit : κ)
    : (channels.attach unit).devices
      = channels.devices ++ [(unit, (getMavlinkComChannel channels.mavComChan).2)] := rfl

theorem Channels.Counted.attach {channels : Channels κ} (counted : channels.Counted) (unit : κ)
    : (channels.attach unit).Counted where
  counter := by
    change channels.mavComChan + 1 = UInt8.ofNat (channels.attach unit).devices.length
    rw [channels.attach_devices, counted.counter, List.length_append, UInt8.ofNat_add]
    rfl
  handed := by
    have channel : (getMavlinkComChannel channels.mavComChan).2
        = channelAt channels.devices.length := by
      rw [channelAt, counted.counter]
    rw [channels.attach_devices, List.map_append, counted.handed, List.length_append,
      List.length_singleton, List.range_succ, List.map_append, List.map_singleton,
      List.map_singleton, channel]

/-- Up to four devices have channels of their own. -/
theorem Channels.Counted.distinct {channels : Channels κ} (counted : channels.Counted)
    (few : channels.devices.length ≤ 4)
    : channels.devices.Nodup := by
  apply List.Nodup.of_map Prod.snd
  rw [counted.handed]
  generalize channels.devices.length = count at few
  interval_cases count <;> decide

-----------------------------------------------------------------------------------------
-- The arrays of the channels
-----------------------------------------------------------------------------------------

variable [DecidableEq κ]

/-- What the parser works on for a device. -/
def Channels.reader (channels : Channels κ) (device : Nat) (place : κ × MavlinkChannel)
    : MavlinkReader where
  status := channels.mMavlinkStatus place
  rxmsg := channels.mMavlinkBuffer place
  rMessage := channels.rMessage device
  rMavlinkStatus := channels.rMavlinkStatus device

/-- What the parser leaves. -/
def Channels.keep (channels : Channels κ) (device : Nat) (place : κ × MavlinkChannel)
    (reader : MavlinkReader)
    : Channels κ where
  mavComChan := channels.mavComChan
  mMavlinkStatus := Function.update channels.mMavlinkStatus place reader.status
  mMavlinkBuffer := Function.update channels.mMavlinkBuffer place reader.rxmsg
  devices := channels.devices
  rMessage := Function.update channels.rMessage device reader.rMessage
  rMavlinkStatus := Function.update channels.rMavlinkStatus device reader.rMavlinkStatus

/-- A device asks for its channel, a device reads a byte of its line, or a unit packs a message. -/
inductive ChannelEvent (κ : Type*) where
  | attach (unit : κ)
  | read (device : Nat) (c : UInt8)
  | send (unit : κ) (send : Send)

/-- A byte with the message that it completes, or a message that was packed. -/
inductive ChannelAnswer (κ : Type*) where
  | read (device : Nat) (c : UInt8) (message : Option MavlinkMessage)
  | sent (unit : κ) (send : Send) (message : MavlinkMessage)

/-- A device that is not attached reads nothing. -/
def Channels.read (channels : Channels κ) (device : Nat) (c : UInt8)
    : Channels κ × Option (ChannelAnswer κ) :=
  match channels.devices[device]? with
  | none => (channels, none)
  | some place =>
      let (reader, message) := parser.step (channels.reader device place) c
      (channels.keep device place reader, some (.read device c message))

/-- `mavlink_finalize_message` numbers every message of a unit on `MAVLINK_COMM_0`. -/
def Channels.send (channels : Channels κ) (unit : κ) (send : Send)
    : Channels κ × Option (ChannelAnswer κ) :=
  let status := channels.mMavlinkStatus (unit, .comm0)
  let (message, currentTxSeq) := send.message status.currentTxSeq
  ({ channels with
      mMavlinkStatus :=
        Function.update channels.mMavlinkStatus (unit, .comm0)
          { status with currentTxSeq := currentTxSeq } },
    some (.sent unit send message))

/-- The channels as a machine. -/
def channelStore : Machine (Channels κ) (ChannelEvent κ) (Option (ChannelAnswer κ)) where
  step channels
    | .attach unit => (channels.attach unit, none)
    | .read device c => channels.read device c
    | .send unit send => channels.send unit send

theorem Channels.read_attached {channels : Channels κ} {device : Nat}
    {place : κ × MavlinkChannel} (attached : channels.devices[device]? = some place) (c : UInt8)
    : channels.read device c
      = (channels.keep device place (parser.step (channels.reader device place) c).1,
          some (.read device c (parser.step (channels.reader device place) c).2)) := by
  rw [Channels.read, attached]

theorem Channels.read_unattached {channels : Channels κ} {device : Nat}
    (unattached : channels.devices[device]? = none) (c : UInt8)
    : channels.read device c = (channels, none) := by
  rw [Channels.read, unattached]

theorem Channels.Counted.step {channels : Channels κ} (counted : channels.Counted)
    (event : ChannelEvent κ)
    : (channelStore.step channels event).1.Counted := by
  cases event with
  | attach unit => exact counted.attach unit
  | read device c =>
      change (channels.read device c).1.Counted
      cases attached : channels.devices[device]? with
      | none =>
          rw [Channels.read_unattached attached]
          exact counted
      | some place =>
          rw [Channels.read_attached attached]
          exact ⟨counted.counter, counted.handed⟩
  | send unit send => exact ⟨counted.counter, counted.handed⟩

theorem run_counted (memory : Nat → MavlinkMessage × MavlinkStatus)
    (events : List (ChannelEvent κ))
    : (channelStore.run (Channels.initial memory) events).Counted :=
  channelStore.run_invariant Channels.Counted ⟨rfl, rfl⟩
    (fun _ event counted => counted.step event) events

-----------------------------------------------------------------------------------------
-- Sequence numbers of messages sent
-----------------------------------------------------------------------------------------

/-- A channel with another number for the message it sends next. -/
def MavlinkReader.numbered (reader : MavlinkReader) (currentTxSeq : UInt8) : MavlinkReader :=
  { reader with status := { reader.status with currentTxSeq := currentTxSeq } }

theorem checkFailed_numbered (reader : MavlinkReader) (currentTxSeq c : UInt8)
    : (reader.numbered currentTxSeq).checkFailed c
      = (reader.checkFailed c).numbered currentTxSeq := by
  by_cases leading : c = mavlinkStx
  · rw [MavlinkReader.checkFailed, MavlinkReader.checkFailed, if_pos leading, if_pos leading]
    rfl
  · rw [MavlinkReader.checkFailed, MavlinkReader.checkFailed, if_neg leading, if_neg leading]
    rfl

/-- The parser does not look at the number. Witness: one case for each state. -/
theorem parse_numbered (reader : MavlinkReader) (currentTxSeq c : UInt8)
    : (reader.numbered currentTxSeq).parse c = (reader.parse c).numbered currentTxSeq := by
  have failed (current : MavlinkReader) := checkFailed_numbered current currentTxSeq c
  have same : (reader.numbered currentTxSeq).status.parseState = reader.status.parseState := rfl
  cases state : reader.status.parseState with
  | gotStx =>
      simp only [MavlinkReader.parse, state, same]
      by_cases received : reader.status.msgReceived ≠ 0
      · rw [if_pos received]
        exact if_pos received
      · rw [if_neg received]
        exact if_neg received
  | gotPayload =>
      simp only [MavlinkReader.parse, state, same]
      by_cases differs
        : c ≠ lowByte
            (mavlinkUpdateChecksum reader.rxmsg (mavlinkMessageCrc reader.rxmsg.msgid)).checksum
      · rw [if_pos differs]
        exact (if_pos differs).trans
          (failed
            { reader with
              rxmsg := mavlinkUpdateChecksum reader.rxmsg (mavlinkMessageCrc reader.rxmsg.msgid) })
      · rw [if_neg differs]
        exact if_neg differs
  | gotCrc1 =>
      simp only [MavlinkReader.parse, state, same]
      by_cases differs : c ≠ highByte reader.rxmsg.checksum
      · rw [if_pos differs]
        exact (if_pos differs).trans (failed reader)
      · rw [if_neg differs]
        exact if_neg differs
  | uninit =>
      simp only [MavlinkReader.parse, state, same]
      split <;> rfl
  | idle =>
      simp only [MavlinkReader.parse, state, same]
      split <;> rfl
  | _ =>
      simp only [MavlinkReader.parse, state, same]
      rfl

theorem parser_numbered (reader : MavlinkReader) (currentTxSeq c : UInt8)
    : parser.step (reader.numbered currentTxSeq) c
      = ((parser.step reader c).1.numbered currentTxSeq, (parser.step reader c).2) := by
  have parsed := parse_numbered reader.clear currentTxSeq c
  have counted : ((reader.numbered currentTxSeq).clear.parse c).count
      = (reader.clear.parse c).count.numbered currentTxSeq := by
    change ((reader.clear.numbered currentTxSeq).parse c).count = _
    rw [parsed, MavlinkReader.count, MavlinkReader.count]
    by_cases received : (reader.clear.parse c).status.msgReceived = 1
    · rw [if_pos received]
      exact if_pos received
    · rw [if_neg received]
      exact if_neg received
  have reported : ((reader.numbered currentTxSeq).clear.parse c).count.report
      = (reader.clear.parse c).count.report.numbered currentTxSeq := by
    rw [counted]
    rfl
  simp only [parser, mavlinkParseChar, reported]
  rfl

/-- The messages that a unit packs, from the number of the next one. -/
def sender : Machine UInt8 Send MavlinkMessage where
  step currentTxSeq send :=
    let (message, currentTxSeq) := send.message currentTxSeq
    (currentTxSeq, message)

theorem sender_messages (currentTxSeq : UInt8) (sends : List Send)
    : sender.outputs currentTxSeq sends = (sentMessages currentTxSeq sends).map Prod.snd := by
  induction sends generalizing currentTxSeq with
  | nil => rfl
  | cons send rest ih =>
      rw [outputs_cons, ih, sentMessages, List.map_cons]
      rfl

-----------------------------------------------------------------------------------------
-- Links side by side
-----------------------------------------------------------------------------------------

def ChannelAnswer.reading? : ChannelAnswer κ → Option (Nat × UInt8 × Option MavlinkMessage)
  | .read device c message => some (device, c, message)
  | .sent _ _ _ => none

def ChannelAnswer.sending? : ChannelAnswer κ → Option (κ × Send × MavlinkMessage)
  | .read _ _ _ => none
  | .sent unit send message => some (unit, send, message)

/-- The bytes read, each with its device and the message that it completes. -/
def readings (trace : List (Option (ChannelAnswer κ)))
    : List (Nat × UInt8 × Option MavlinkMessage) :=
  trace.reduceOption.filterMap ChannelAnswer.reading?

/-- The messages sent, each with its unit and what was to be packed. -/
def sendings (trace : List (Option (ChannelAnswer κ))) : List (κ × Send × MavlinkMessage) :=
  trace.reduceOption.filterMap ChannelAnswer.sending?

/-- The bytes that are read by devices that have been attached, as many as so far or later. -/
def reads (attached : Nat) : List (ChannelEvent κ) → List (Nat × UInt8)
  | [] => []
  | .attach _ :: rest => reads (attached + 1) rest
  | .read device c :: rest =>
      if device < attached then (device, c) :: reads attached rest else reads attached rest
  | .send _ _ :: rest => reads attached rest

/-- What the units are to pack. -/
def sends : List (ChannelEvent κ) → List (κ × Send)
  | [] => []
  | .send unit send :: rest => (unit, send) :: sends rest
  | .attach _ :: rest => sends rest
  | .read _ _ :: rest => sends rest

/-- What came in, without the answers. -/
def asked {δ α β : Type*} (entries : List (δ × α × β)) : List (δ × α) :=
  entries.map (fun entry => (entry.1, entry.2.1))

/-- The answers. -/
def answered {δ α β : Type*} (entries : List (δ × α × β)) : List (δ × β) :=
  entries.map (fun entry => (entry.1, entry.2.2))

/-- A channel for each device, as its objects are found. -/
def links (memory : Nat → MavlinkMessage × MavlinkStatus) (device : Nat) : MavlinkReader :=
  .new (memory device).1 (memory device).2

/-- A device and its place, or a device that is not attached yet and a place that is free. -/
def Channels.Fits (channels : Channels κ) (device : Nat) (place : κ × MavlinkChannel) : Prop :=
  channels.devices[device]? = some place
  ∨ channels.devices.length ≤ device ∧ place ∉ channels.devices

/-- The shared memory does what a channel for each device and a counter for each unit do. -/
structure Apart (memory : Nat → MavlinkMessage × MavlinkStatus)
    (trace : List (Option (ChannelAnswer κ))) (channels : Channels κ)
    : Prop where
  received
    : answered (readings trace) = parser.copies.outputs (links memory) (asked (readings trace))
  sent : answered (sendings trace) = sender.copies.outputs (fun _ => 0) (asked (sendings trace))
  readers
    : ∀ {device place},
        channels.Fits device place
        → (channels.reader device place).numbered 0
          = parser.copies.run (links memory) (asked (readings trace)) device
  numbers
    : ∀ unit,
        (channels.mMavlinkStatus (unit, .comm0)).currentTxSeq
          = sender.copies.run (fun _ => 0) (asked (sendings trace)) unit

theorem apart_initial (memory : Nat → MavlinkMessage × MavlinkStatus)
    : Apart memory [] (Channels.initial memory : Channels κ) where
  received := rfl
  sent := rfl
  readers _ := rfl
  numbers _ := rfl

omit [DecidableEq κ] in
theorem readings_concat (trace : List (Option (ChannelAnswer κ)))
    (answer : Option (ChannelAnswer κ))
    : readings (trace ++ [answer])
      = readings trace ++ (answer.bind ChannelAnswer.reading?).toList := by
  rw [readings, readings, List.reduceOption_append, List.filterMap_append]
  cases answer with
  | none => rfl
  | some answer => cases answer <;> rfl

omit [DecidableEq κ] in
theorem sendings_concat (trace : List (Option (ChannelAnswer κ)))
    (answer : Option (ChannelAnswer κ))
    : sendings (trace ++ [answer])
      = sendings trace ++ (answer.bind ChannelAnswer.sending?).toList := by
  rw [sendings, sendings, List.reduceOption_append, List.filterMap_append]
  cases answer with
  | none => rfl
  | some answer => cases answer <;> rfl

omit [DecidableEq κ] in
theorem readings_cons (answer : Option (ChannelAnswer κ)) (rest : List (Option (ChannelAnswer κ)))
    : readings (answer :: rest)
      = (answer.bind ChannelAnswer.reading?).toList ++ readings rest := by
  cases answer with
  | none => rfl
  | some answer => cases answer <;> rfl

omit [DecidableEq κ] in
theorem sendings_cons (answer : Option (ChannelAnswer κ)) (rest : List (Option (ChannelAnswer κ)))
    : sendings (answer :: rest)
      = (answer.bind ChannelAnswer.sending?).toList ++ sendings rest := by
  cases answer with
  | none => rfl
  | some answer => cases answer <;> rfl

/-- Every byte for an attached device is read, and every message is sent. Witness: induction over
the events.
-/
theorem outputs_asked (channels : Channels κ) (events : List (ChannelEvent κ))
    : asked (readings (channelStore.outputs channels events))
        = reads channels.devices.length events
      ∧ asked (sendings (channelStore.outputs channels events)) = sends events := by
  induction events generalizing channels with
  | nil => exact ⟨rfl, rfl⟩
  | cons event rest ih =>
      rw [outputs_cons, readings_cons, sendings_cons]
      obtain ⟨read, sent⟩ := ih (channelStore.step channels event).1
      cases event with
      | attach unit =>
          refine ⟨read.trans ?_, sent⟩
          change reads (channels.attach unit).devices.length rest = reads _ rest
          rw [channels.attach_devices, List.length_append, List.length_singleton]
      | read device c =>
          have own : channelStore.step channels (.read device c) = channels.read device c := rfl
          rw [own] at read sent ⊢
          rw [reads]
          cases attached : channels.devices[device]? with
          | none =>
              rw [Channels.read_unattached attached] at read sent ⊢
              rw [if_neg (Nat.not_lt.mpr (List.getElem?_eq_none_iff.mp attached))]
              exact ⟨read, sent⟩
          | some place =>
              obtain ⟨inside, -⟩ := List.getElem?_eq_some_iff.mp attached
              rw [if_pos inside]
              rw [Channels.read_attached attached] at read sent ⊢
              exact ⟨congrArg (List.cons (device, c)) read, sent⟩
      | send unit send => exact ⟨read, congrArg (List.cons (unit, send)) sent⟩

section Steps

variable {memory : Nat → MavlinkMessage × MavlinkStatus}
  {trace : List (Option (ChannelAnswer κ))} {channels : Channels κ}

/-- Nothing was read or sent. -/
theorem Apart.silent (apart : Apart memory trace channels) {next : Channels κ}
    (same
      : ∀ {device place}, next.Fits device place
        → channels.Fits device place ∧ next.reader device place = channels.reader device place)
    (numbers
      : ∀ unit, (next.mMavlinkStatus (unit, .comm0)).currentTxSeq
        = (channels.mMavlinkStatus (unit, .comm0)).currentTxSeq)
    : Apart memory (trace ++ [none]) next := by
  have read : readings (trace ++ [none]) = readings trace := by
    rw [readings_concat]
    exact List.append_nil _
  have sent : sendings (trace ++ [none]) = sendings trace := by
    rw [sendings_concat]
    exact List.append_nil _
  refine ⟨?_, ?_, ?_, ?_⟩
  · rw [read]
    exact apart.received
  · rw [sent]
    exact apart.sent
  · intro device place fits
    obtain ⟨before, kept⟩ := same fits
    rw [read, kept]
    exact apart.readers before
  · intro unit
    rw [sent, numbers unit]
    exact apart.numbers unit

theorem Channels.keep_own (device : Nat) (place : κ × MavlinkChannel) (reader : MavlinkReader)
    : (channels.keep device place reader).reader device place = reader := by
  simp only [Channels.reader, Channels.keep, Function.update_self]

theorem Channels.keep_other {device other : Nat} {place elsewhere : κ × MavlinkChannel}
    (differs : other ≠ device) (apart : elsewhere ≠ place) (reader : MavlinkReader)
    : (channels.keep device place reader).reader other elsewhere
      = channels.reader other elsewhere := by
  simp only [Channels.reader, Channels.keep, Function.update_of_ne differs,
    Function.update_of_ne apart]

/-- A new device finds its place free. -/
theorem Apart.attach (apart : Apart memory trace channels) {unit : κ}
    (distinct : (channels.attach unit).devices.Nodup)
    : Apart memory (trace ++ [none]) (channels.attach unit) := by
  rw [channels.attach_devices] at distinct
  have free := (List.nodup_append.mp distinct).2.2
  refine apart.silent (fun {device place} fits => ⟨?_, rfl⟩) (fun unit => rfl)
  rcases fits with attached | ⟨later, unused⟩
  · rw [channels.attach_devices, List.getElem?_append] at attached
    by_cases inside : device < channels.devices.length
    · rw [if_pos inside] at attached
      exact .inl attached
    · rw [if_neg inside] at attached
      have own : place = (unit, (getMavlinkComChannel channels.mavComChan).2) :=
        List.mem_singleton.mp (List.mem_of_getElem? attached)
      refine .inr ⟨Nat.not_lt.mp inside, fun member => ?_⟩
      exact free place member _ (List.mem_singleton_self _) own
  · rw [channels.attach_devices] at later unused
    rw [List.length_append] at later
    exact .inr ⟨by omega, fun member => unused (List.mem_append_left _ member)⟩

/-- A device reads into its own place. Witness: no other device has this place, and a place that is
free is another one.
-/
theorem Apart.read (apart : Apart memory trace channels) (distinct : channels.devices.Nodup)
    (device : Nat) (c : UInt8)
    : Apart memory (trace ++ [(channels.read device c).2]) (channels.read device c).1 := by
  cases attached : channels.devices[device]? with
  | none =>
      rw [Channels.read_unattached attached]
      exact apart.silent (fun fits => ⟨fits, rfl⟩) (fun _ => rfl)
  | some place =>
      obtain ⟨inside, -⟩ := List.getElem?_eq_some_iff.mp attached
      have step := parser_numbered (channels.reader device place) 0 c
      rw [apart.readers (.inl attached)] at step
      have number := (parser_counts (channels.reader device place) c).2.2.2.2
      rw [Channels.read_attached attached]
      generalize parser.step (channels.reader device place) c = left at step number
      obtain ⟨reader, message⟩ := left
      change Apart memory (trace ++ [some (.read device c message)])
        (channels.keep device place reader)
      have read : readings (trace ++ [some (.read device c message)])
          = readings trace ++ [(device, c, message)] := readings_concat _ _
      have sent : sendings (trace ++ [some (.read device c message)]) = sendings trace := by
        rw [sendings_concat]
        exact List.append_nil _
      refine ⟨?_, ?_, ?_, ?_⟩
      · rw [read, answered, asked, List.map_append, List.map_append, outputs_append, ← asked,
          ← apart.received]
        change _ ++ [(device, message)] = _ ++ [(device, (parser.step _ c).2)]
        rw [step]
        rfl
      · rw [sent]
        exact apart.sent
      · intro other there fits
        have run
            : parser.copies.run (links memory)
                (asked (readings trace ++ [(device, c, message)]))
              = Function.update (parser.copies.run (links memory) (asked (readings trace))) device
                (reader.numbered 0) := by
          rw [asked, List.map_append, run_append, List.map_singleton, run_cons, run_nil,
            copies_step, ← asked, step]
        rw [read, run]
        by_cases own : other = device
        · subst own
          have same : there = place := by
            rcases fits with found | ⟨later, -⟩
            · exact Option.some.inj (found.symm.trans attached)
            · exact absurd inside (Nat.not_lt.mpr later)
          rw [same, Function.update_self, Channels.keep_own]
        · have elsewhere : there ≠ place := by
            rintro rfl
            rcases fits with found | ⟨-, unused⟩
            · exact own ((List.getElem?_inj inside distinct).mp (attached.trans found.symm)).symm
            · exact unused (List.mem_of_getElem? attached)
          rw [Function.update_of_ne own, Channels.keep_other own elsewhere]
          exact apart.readers fits
      · intro unit
        rw [sent, ← apart.numbers unit]
        change (Function.update channels.mMavlinkStatus place reader.status
          (unit, .comm0)).currentTxSeq = _
        by_cases own : (unit, MavlinkChannel.comm0) = place
        · rw [own, Function.update_self]
          exact number
        · rw [Function.update_of_ne own]

/-- A unit numbers what it sends, and leaves the parsers alone. -/
theorem Apart.send (apart : Apart memory trace channels) (unit : κ) (send : Send)
    : Apart memory (trace ++ [(channels.send unit send).2]) (channels.send unit send).1 := by
  have number := apart.numbers unit
  have read : readings (trace ++ [(channels.send unit send).2]) = readings trace := by
    rw [readings_concat]
    exact List.append_nil _
  have sent : sendings (trace ++ [(channels.send unit send).2])
      = sendings trace
        ++ [(unit, send,
          (send.message (channels.mMavlinkStatus (unit, .comm0)).currentTxSeq).1)] :=
    sendings_concat _ _
  refine ⟨?_, ?_, ?_, ?_⟩
  · rw [read]
    exact apart.received
  · rw [sent, answered, asked, List.map_append, List.map_append, outputs_append, ← asked,
      ← apart.sent, number]
    rfl
  · intro device place fits
    rw [read, ← apart.readers fits]
    by_cases own : place = (unit, .comm0)
    · rw [own]
      simp only [Channels.reader, Channels.send, Function.update_self, MavlinkReader.numbered]
    · simp only [Channels.reader, Channels.send, Function.update_of_ne own]
  · intro other
    have run : sender.copies.run (fun _ => 0)
          (asked (sendings (trace ++ [(channels.send unit send).2])))
        = Function.update (sender.copies.run (fun _ => 0) (asked (sendings trace))) unit
            (send.message (sender.copies.run (fun _ => 0) (asked (sendings trace)) unit)).2 := by
      rw [sent, asked, List.map_append, Machine.run_append, ← asked]
      rfl
    rw [run]
    by_cases own : other = unit
    · rw [own, Function.update_self, ← number]
      simp only [Channels.send, Function.update_self]
    · have elsewhere : (other, MavlinkChannel.comm0) ≠ (unit, MavlinkChannel.comm0) := by
        rintro ⟨⟩
        exact own rfl
      rw [Function.update_of_ne own, ← apart.numbers other]
      simp only [Channels.send, Function.update_of_ne elsewhere]

end Steps

theorem step_distinct {channels : Channels κ} {event : ChannelEvent κ}
    (distinct : (channelStore.step channels event).1.devices.Nodup)
    : channels.devices.Nodup := by
  cases event with
  | attach unit =>
      change (channels.attach unit).devices.Nodup at distinct
      rw [channels.attach_devices] at distinct
      exact distinct.of_append_left
  | read device c =>
      change (channels.read device c).1.devices.Nodup at distinct
      cases attached : channels.devices[device]? with
      | none =>
          rw [Channels.read_unattached attached] at distinct
          exact distinct
      | some place =>
          rw [Channels.read_attached attached] at distinct
          exact distinct
  | send unit send => exact distinct

/-- As long as no two devices share a place, the shared memory keeps them apart. -/
theorem run_apart (memory : Nat → MavlinkMessage × MavlinkStatus) (events : List (ChannelEvent κ))
    : (channelStore.run (Channels.initial memory) events).devices.Nodup
      → Apart memory (channelStore.outputs (Channels.initial memory) events)
          (channelStore.run (Channels.initial memory) events) := by
  refine channelStore.run_trace
    (fun trace channels => channels.devices.Nodup → Apart memory trace channels)
    (fun _ => apart_initial memory) ?_ events
  intro trace channels event apart distinct
  have before := step_distinct distinct
  cases event with
  | attach unit => exact (apart before).attach distinct
  | read device c => exact (apart before).read before device c
  | send unit send => exact (apart before).send unit send

/-- Up to four devices can be attached at once: however the bytes of their lines and the messages
of their units are interleaved, each device gets the messages that a channel of its own reads
in its own bytes, and each unit numbers its messages one after another from zero. Witness: the
arrays are a channel for each device and a counter for each unit.
-/
theorem four_devices_apart (memory : Nat → MavlinkMessage × MavlinkStatus)
    {events : List (ChannelEvent κ)}
    (few : (channelStore.run (Channels.initial memory) events).devices.length ≤ 4)
    : let trace := channelStore.outputs (Channels.initial memory) events
      (∀ device,
          (addressed device (answered (readings trace))).reduceOption
            = messages (links memory device) (addressed device (reads 0 events)))
        ∧ ∀ unit,
            addressed unit (answered (sendings trace))
              = (sentMessages 0 (addressed unit (sends events))).map Prod.snd := by
  intro trace
  have apart := run_apart memory events ((run_counted memory events).distinct few)
  obtain ⟨read, sent⟩ := outputs_asked (Channels.initial memory) events
  constructor
  · intro device
    rw [apart.received, (parser.copies_alone device _ _).2, read]
    rfl
  · intro unit
    rw [apart.sent, (sender.copies_alone unit _ _).2, sender_messages, sent]

/-- Two devices of one unit: one completes a message, the other is in one, and the unit sends
one in between.
-/
theorem four_devices_apart_two
    : let memory : Nat → MavlinkMessage × MavlinkStatus := fun _ => (.zero, .zero)
      let received : List (ChannelEvent Bool) :=
        [1, 0, 1, 1, 255, 5, 238, 67].map (.read 0)
      let events : List (ChannelEvent Bool) :=
        [.attach true, .attach true, .read 0 254, .read 1 254,
          .send true ⟨[], .zero, 1, 1, 0, [7]⟩] ++ received
      let trace := channelStore.outputs (Channels.initial memory) events
      (messages (links memory 0) (addressed 0 (reads 0 events))).length = 1
      ∧ (∀ device,
          (addressed device (answered (readings trace))).reduceOption
            = messages (links memory device) (addressed device (reads 0 events)))
        ∧ ∀ unit,
            addressed unit (answered (sendings trace))
              = (sentMessages 0 (addressed unit (sends events))).map Prod.snd :=
  ⟨by decide +kernel, four_devices_apart (fun _ => (.zero, .zero)) (by decide)⟩

end Cooboc.Mavlink
