import Cooboc.FlightControl.LineRefinement
import Cooboc.FlightControl.ExactArithmetic

/-! What the other end of the line receives: every override that the system writes, in order,
as one message.
-/

namespace Cooboc.FlightControl

open Cooboc.Foundations Cooboc.Mavlink

/-- The channels of a signal, each cut down to sixteen bits. -/
def ServoSignal.channels (signal : ServoSignal) : List UInt16 :=
  [signal.aileron, signal.elevator, signal.throttle, signal.rudder,
    signal.flap, signal.status, signal.aux1, signal.aux2].map
      (fun channel => UInt16.ofInt channel)

/-- The signal of an override that is written. -/
def FlightEvent.overridden : FlightEvent → Option ServoSignal
  | .override _ signal => some signal
  | _ => none

/-- The overrides among some events. -/
def overridesOf (events : List FlightEvent) : List ServoSignal :=
  events.filterMap FlightEvent.overridden

theorem overridesOf_append (before after : List FlightEvent)
    : overridesOf (before ++ after) = overridesOf before ++ overridesOf after :=
  List.filterMap_append

theorem messageChannels_append (before after : List FlightEvent)
    : messageChannels (before ++ after) = messageChannels before ++ messageChannels after :=
  List.filterMap_append

/-- The messages among some events carry the overrides among them. -/
def Emits (events : List FlightEvent) : Prop :=
  messageChannels events = (overridesOf events).map ServoSignal.channels

theorem Emits.append {before after : List FlightEvent} (first : Emits before)
    (second : Emits after)
    : Emits (before ++ after) := by
  rw [Emits, messageChannels_append, overridesOf_append, List.map_append, first, second]

theorem emits_callbacks (navigator : Navigator) (callbacks : List Callback)
    : Emits (callbacks.map (.callback navigator)) := by
  induction callbacks with
  | nil => rfl
  | cons callback rest ih => exact ih

section

variable {R : Type*} [Zero R]

/-- Enabling a navigator makes callbacks only, and leaves the servo driver alone. -/
theorem FlightSystem.setNavigatorEnabled_emits (system : FlightSystem R)
    (navigator : Option Navigator) (isEnabled : Bool)
    : Emits (system.setNavigatorEnabled navigator isEnabled).2
      ∧ (system.setNavigatorEnabled navigator isEnabled).1.servoDriver
        = system.servoDriver := by
  cases navigator with
  | none => exact ⟨rfl, rfl⟩
  | some navigator =>
      cases navigator with
      | manullyNavigator => exact ⟨emits_callbacks _ _, rfl⟩
      | attitudeNavigator => exact ⟨emits_callbacks _ _, rfl⟩

/-- A change of status makes callbacks only. -/
theorem FlightSystem.onFlightStatusChange_emits (system : FlightSystem R)
    (status : FlightStatus)
    : Emits (system.onFlightStatusChange status).2
      ∧ (system.onFlightStatusChange status).1.servoDriver = system.servoDriver := by
  obtain ⟨released, kept⟩ := system.setNavigatorEnabled_emits
    (system.statusController.mNavigators system.statusController.mFlightStatus) false
  obtain ⟨taken, still⟩ := FlightSystem.setNavigatorEnabled_emits
    ((system.setNavigatorEnabled
      (system.statusController.mNavigators system.statusController.mFlightStatus)
      false).1.setFlightStatus status)
    (system.statusController.mNavigators status) true
  exact ⟨released.append taken, still.trans kept⟩

omit [Zero R] in
/-- A task that writes in manual output sends what it writes. -/
theorem FlightSystem.writeServoSignal_emits (system : FlightSystem R) (writer : Writer)
    (signal : Option ServoSignal) (manual : system.servoDriver.mOutputMode = .manully)
    : Emits (system.writeServoSignal writer signal).2
      ∧ (system.writeServoSignal writer signal).1.servoDriver.mOutputMode = .manully := by
  cases signal with
  | none => exact ⟨rfl, manual⟩
  | some signal =>
      refine ⟨?_, manual⟩
      simp only [FlightSystem.writeServoSignal, SerialServoDriver.setOverrideServoSignal,
        if_pos manual]
      rfl

end

variable {R : Type*} [Zero R] [Add R] [Sub R] [Mul R] [Div R] [Neg R] [IntCast R] [LT R]
  [DecidableLT R] [DoubleMath R]

/-- In manual output every step sends exactly the overrides that it writes. -/
theorem FlightSystem.step_emits (system : FlightSystem R) (step : FlightStep R)
    (manual : system.servoDriver.mOutputMode = .manully)
    : Emits (system.step step).2
      ∧ (system.step step).1.servoDriver.mOutputMode = .manully := by
  cases step with
  | statusWork =>
      simp only [FlightSystem.step, FlightSystem.statusWork]
      split
      · obtain ⟨emits, kept⟩ := system.onFlightStatusChange_emits
          (decideFlightStatus system.servoDriver.mRawServoSignal)
        exact ⟨emits, by rw [kept]; exact manual⟩
      · exact ⟨rfl, manual⟩
  | manullyWork => exact system.writeServoSignal_emits _ _ manual
  | attitudeNavigatorWork => exact ⟨rfl, manual⟩
  | attitudeControllerWork =>
      exact FlightSystem.writeServoSignal_emits { system with attitudeLoop := _ } _ _ manual
  | setTunning p i d => exact ⟨rfl, manual⟩
  | decode message => exact ⟨rfl, manual⟩
  | measure attitude => exact ⟨rfl, manual⟩

/-- Along a run in manual output the messages carry the overrides. Witness: induction over the
steps.
-/
theorem flight_emits (system : FlightSystem R) (steps : List (FlightStep R))
    (manual : system.servoDriver.mOutputMode = .manully)
    : Emits (flight.outputs system steps).flatten := by
  induction steps generalizing system with
  | nil => rfl
  | cons step rest ih =>
      obtain ⟨emits, still⟩ := system.step_emits step manual
      exact emits.append (ih _ still)

-----------------------------------------------------------------------------------------
-- The bytes on the line
-----------------------------------------------------------------------------------------

/-- An override message as it is sent: nothing precedes it on the line. -/
def overrideSend (stack : MavlinkMessage) (channels : List UInt16) : Send where
  filler := []
  stack := stack
  systemId := mavlinkTargetSystem
  componentId := mavlinkComponentId
  msgid := mavlinkMsgIdRcChannelsOverride
  packet := overridePacket channels

/-- The messages of a run on the line, with the sequence number each is sent under. -/
theorem emitMessages_sent (stack : MavlinkMessage) (currentTxSeq : UInt8)
    (channels : List (List UInt16)) (rest : List Send)
    : (emitMessages stack currentTxSeq channels).1
        ++ (sentMessages (emitMessages stack currentTxSeq channels).2 rest).map Prod.snd
      = (sentMessages currentTxSeq (channels.map (overrideSend stack) ++ rest)).map
          Prod.snd := by
  induction channels generalizing currentTxSeq with
  | nil => rfl
  | cons first others ih =>
      have extra : mavlinkMsgIdRcChannelsOverrideCrc
          = mavlinkMessageCrc mavlinkMsgIdRcChannelsOverride := by
        decide
      simp only [emitMessages, List.map_cons, List.cons_append, sentMessages]
      rw [ih]
      simp only [emitChannels, Send.message, overrideSend, extra]

/-- What a run on the line sends: one override message for each message event, in order. -/
theorem lineFlight_sends (line : LineFlight R) (steps : List (LineStep R))
    : ∃ sends : List Send,
        (lineFlight.outputs line steps).flatMap LineOutput.sent
          = (sentMessages line.currentTxSeq sends).map Prod.snd
        ∧ List.Forall₂ (fun send channels => ∃ stack, send = overrideSend stack channels) sends
            (messageChannels ((lineFlight.outputs line steps).flatMap LineOutput.events)) := by
  induction steps generalizing line with
  | nil => exact ⟨[], rfl, .nil⟩
  | cons step rest ih =>
      obtain ⟨later, sent, matched⟩ := ih (lineFlight.step line step).1
      rw [Machine.outputs_cons, List.flatMap_cons, List.flatMap_cons, messageChannels_append,
        sent]
      cases step with
      | fetchServos recvs => exact ⟨later, rfl, matched⟩
      | task step work stack =>
          let channels := messageChannels (line.system.step step).2
          refine ⟨channels.map (overrideSend stack) ++ later,
            emitMessages_sent stack line.currentTxSeq channels later, ?_⟩
          refine List.rel_append ?_ matched
          rw [List.forall₂_map_left_iff]
          exact List.forall₂_same.mpr (fun _ _ => ⟨stack, rfl⟩)

/-- The channels of a signal as the fields of a message. -/
def ServoSignal.rcChannels (signal : ServoSignal) : RcChannelsRaw where
  chan1Raw := UInt16.ofInt signal.aileron
  chan2Raw := UInt16.ofInt signal.elevator
  chan3Raw := UInt16.ofInt signal.throttle
  chan4Raw := UInt16.ofInt signal.rudder
  chan5Raw := UInt16.ofInt signal.flap
  chan6Raw := UInt16.ofInt signal.status
  chan7Raw := UInt16.ofInt signal.aux1
  chan8Raw := UInt16.ofInt signal.aux2

theorem ServoSignal.rcChannels_toList (signal : ServoSignal)
    : signal.rcChannels.toList = signal.channels :=
  rfl

/-- An override message is read as the channels it was packed from. -/
theorem rcChannelsOverride_packed {message : MavlinkMessage} {signal : ServoSignal}
    (packed : message.payload = overridePacket signal.channels)
    : rcChannelsOverride message.payload64.toList = signal.rcChannels := by
  obtain ⟨rest, memory⟩ := message.payload_memory
  rw [memory, packed, ← ServoSignal.rcChannels_toList, overridePacket, List.append_assoc]
  exact getChannels_put [] signal.rcChannels _

/-- Override messages are sent without filler, and fit into a payload. -/
theorem overrideSends_fit {sends : List Send} {overrides : List ServoSignal}
    (matched
      : List.Forall₂ (fun send signal => ∃ stack, send = overrideSend stack signal.channels)
          sends overrides)
    : ∀ send ∈ sends, send.Fits ∧ send.filler = [] := by
  induction matched with
  | nil => exact fun _ member => absurd member List.not_mem_nil
  | cons head _ ih =>
      obtain ⟨stack, rfl⟩ := head
      exact List.forall_mem_cons.mpr
        ⟨⟨⟨List.not_mem_nil, (by decide : 18 < 256)⟩, rfl⟩, ih⟩

/-- Messages sent without filler stand on the line one right behind another. -/
theorem sentPieces_unfilled (currentTxSeq : UInt8) {sends : List Send}
    (unfilled : ∀ send ∈ sends, send.filler = [])
    : ((sentMessages currentTxSeq sends).map Prod.snd).flatMap mavlinkMsgToSendBuffer
      = sentPieces (sentMessages currentTxSeq sends) := by
  induction sends generalizing currentTxSeq with
  | nil => rfl
  | cons send rest ih =>
      obtain ⟨own, others⟩ := List.forall_mem_cons.mp unfilled
      have later := ih (send.message currentTxSeq).2 others
      simp only [sentMessages, sentPieces, List.map_cons, List.flatMap_cons, own,
        List.nil_append] at later ⊢
      rw [later]

/-- The messages that arrive are the overrides' messages, numbered consecutively. Witness: the
driver sends in manual output only what is written, and what is packed arrives.
-/
theorem override_contents {receiver : MavlinkReader} (fresh : receiver.Fresh)
    (line : LineFlight R) (manual : line.system.servoDriver.mOutputMode = .manully)
    (steps : List (LineStep R))
    : let outputs := lineFlight.outputs line steps
      (messages receiver
          ((outputs.flatMap LineOutput.sent).flatMap mavlinkMsgToSendBuffer)).map
          MavlinkMessage.content
        = (overridesOf (outputs.flatMap LineOutput.events)).mapIdx (fun index signal =>
            ⟨line.currentTxSeq + UInt8.ofNat index, mavlinkTargetSystem, mavlinkComponentId,
              mavlinkMsgIdRcChannelsOverride, overridePacket signal.channels⟩) := by
  intro outputs
  obtain ⟨sends, sent, matched⟩ := lineFlight_sends line steps
  have emits : messageChannels (outputs.flatMap LineOutput.events)
      = (overridesOf (outputs.flatMap LineOutput.events)).map ServoSignal.channels := by
    have refined := (lineFlight_refines line steps).2.1
    rw [show outputs.flatMap LineOutput.events = _ from refined]
    exact flight_emits _ _ manual
  rw [show messageChannels _ = _ from emits, List.forall₂_map_right_iff] at matched
  have fit := overrideSends_fit matched
  have transmitted := messages_transmitted fresh line.currentTxSeq
    (fun send member => (fit send member).1)
  rw [← sentPieces_unfilled line.currentTxSeq (fun send member => (fit send member).2)]
    at transmitted
  rw [show outputs.flatMap LineOutput.sent = _ from sent]
  refine transmitted.trans (Machine.mapIdx_eq_of_forall₂ matched ?_)
  rintro index _ signal ⟨stack, rfl⟩
  rfl

/-- The messages that arrive are read as the overrides' channels. -/
theorem override_channels {receiver : MavlinkReader} (fresh : receiver.Fresh)
    (line : LineFlight R) (manual : line.system.servoDriver.mOutputMode = .manully)
    (steps : List (LineStep R))
    : let outputs := lineFlight.outputs line steps
      (messages receiver
          ((outputs.flatMap LineOutput.sent).flatMap mavlinkMsgToSendBuffer)).map
          (fun message => rcChannelsOverride message.payload64.toList)
        = (overridesOf (outputs.flatMap LineOutput.events)).map ServoSignal.rcChannels := by
  refine Machine.map_eq_of_mapIdx (override_contents fresh line manual steps) ?_
  intro index message signal _ same
  exact rcChannelsOverride_packed (congrArg Content.payload same)

/-- A receiver of the same protocol at the other end of the line receives one
`RC_CHANNELS_OVERRIDE` message for each override that the system writes in a run, in the same
order, numbered consecutively, with the channels of the override cut down to sixteen bits.
-/
theorem overrides_received {receiver : MavlinkReader} (fresh : receiver.Fresh)
    (line : LineFlight R) (manual : line.system.servoDriver.mOutputMode = .manully)
    (steps : List (LineStep R))
    : let outputs := lineFlight.outputs line steps
      let received := messages receiver
        ((outputs.flatMap LineOutput.sent).flatMap mavlinkMsgToSendBuffer)
      let overrides := overridesOf (outputs.flatMap LineOutput.events)
      received.map MavlinkMessage.content
          = overrides.mapIdx (fun index signal =>
              ⟨line.currentTxSeq + UInt8.ofNat index, mavlinkTargetSystem, mavlinkComponentId,
                mavlinkMsgIdRcChannelsOverride, overridePacket signal.channels⟩)
        ∧ received.map (fun message => rcChannelsOverride message.payload64.toList)
          = overrides.map ServoSignal.rcChannels :=
  ⟨override_contents fresh line manual steps, override_channels fresh line manual steps⟩

/-- The pilot's signal of the start, written once by the manual navigator. -/
theorem overrides_received_manual
    : let _ := levelMath
      let line : LineFlight ℚ :=
        ⟨setupController SerialServoDriver.new ⟨0, 0, 0⟩, .new .zero .zero, 255⟩
      let steps : List (LineStep ℚ) :=
        [.task .statusWork (fun _ => nofun) .zero, .task .manullyWork (fun _ => nofun) .zero]
      let outputs := lineFlight.outputs line steps
      let received := messages (.new .zero .zero)
        ((outputs.flatMap LineOutput.sent).flatMap mavlinkMsgToSendBuffer)
      let overrides := overridesOf (outputs.flatMap LineOutput.events)
      received.map MavlinkMessage.content
          = overrides.mapIdx (fun index signal =>
              ⟨line.currentTxSeq + UInt8.ofNat index, mavlinkTargetSystem, mavlinkComponentId,
                mavlinkMsgIdRcChannelsOverride, overridePacket signal.channels⟩)
        ∧ received.map (fun message => rcChannelsOverride message.payload64.toList)
          = overrides.map ServoSignal.rcChannels :=
  let _ := levelMath
  overrides_received (fresh_new .zero .zero) _ rfl _

end Cooboc.FlightControl
