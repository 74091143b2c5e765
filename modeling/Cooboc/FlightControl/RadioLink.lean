import Cooboc.FlightControl.AttitudeSource
import Cooboc.Mavlink.Packets
import Cooboc.Mavlink.ReceiveLoop

/-! The radio of `device/radio.cpp`: `fetchData` reads `ATTITUDE` messages from the ground and
passes them to the virtual sensor, from which `ADI` takes the attitude. The conversion of the
three `float`s of a message by the constructor of `ImuAttitude` is a parameter.
-/

namespace Cooboc.FlightControl

open Cooboc.Foundations Cooboc.Mavlink
open Cooboc.SerialPacket (UnsignedLong)

/-- `MAVLINK_MSG_ID_ATTITUDE`. -/
def mavlinkMsgIdAttitude : UInt8 := 30

/-- `mavlink_attitude_t`, each `float` by its bits. -/
structure MavlinkAttitude where
  timeBootMs : UInt32
  roll : UInt32
  pitch : UInt32
  yaw : UInt32
  rollspeed : UInt32
  pitchspeed : UInt32
  yawspeed : UInt32
deriving DecidableEq

/-- `mavlink_msg_attitude_decode`. -/
def mavlinkMsgAttitudeDecode (memory : List UInt8) : MavlinkAttitude where
  timeBootMs := getUint32 memory 0
  roll := getUint32 memory 4
  pitch := getUint32 memory 8
  yaw := getUint32 memory 12
  rollspeed := getUint32 memory 16
  pitchspeed := getUint32 memory 20
  yawspeed := getUint32 memory 24

/-- The packet in memory. -/
def MavlinkAttitude.bytes (attitude : MavlinkAttitude) : List UInt8 :=
  [attitude.timeBootMs, attitude.roll, attitude.pitch, attitude.yaw, attitude.rollspeed,
    attitude.pitchspeed, attitude.yawspeed].flatMap putUint32

/-- A byte, and what `millis()` returns if it completes a message. -/
abbrev TimedByte := UnsignedLong × UInt8

/-- `ImuAttitude(pitch, roll, yaw)`, from the bits of the three `float`s. -/
abbrev ImuAttitudeOf (α : Type*) := UInt32 → UInt32 → UInt32 → α

variable {α : Type*}

/-- The radio, with its pointer to the virtual sensor set or not, and the sensor. -/
structure RadioLink (α : Type*) where
  reader : MavlinkReader
  mVirtualImu : Bool
  virtualImu : VirtualImu α

/-- What `fetchData` does with a message, where the pointer is set or not. -/
def VirtualImu.handle (imuAttitude : ImuAttitudeOf α) (mVirtualImu : Bool)
    (virtualImu : VirtualImu α) (timed : TimedByte) (message : MavlinkMessage)
    : VirtualImu α :=
  if message.msgid = mavlinkMsgIdAttitude then
    let attitude := mavlinkMsgAttitudeDecode message.payload64.toList
    if mVirtualImu then
      virtualImu.updateAttitude timed.1
        (imuAttitude attitude.pitch attitude.roll attitude.yaw)
    else
      virtualImu
  else
    virtualImu

/-- `fetchData`, over what its `recv` calls return. -/
def RadioLink.fetchData (imuAttitude : ImuAttitudeOf α) (radio : RadioLink α)
    (recvs : List (List TimedByte))
    : RadioLink α :=
  let (reader, virtualImu) :=
    receiveLoop Prod.snd (VirtualImu.handle imuAttitude radio.mVirtualImu)
      (radio.reader, radio.virtualImu) recvs
  { radio with reader := reader, virtualImu := virtualImu }

/-- A call of `fetchData`, of `setVirtualImu`, or a query of the virtual sensor. -/
inductive RadioStep (α : Type*) where
  | fetchData (recvs : List (List TimedByte))
  | setVirtualImu
  | query (call : SourceCall α) (asks : call.update = none)

/-- One step, with the answer of a query. -/
def RadioLink.step (imuAttitude : ImuAttitudeOf α) (radio : RadioLink α)
    : RadioStep α → RadioLink α × Option (SourceAnswer α)
  | .fetchData recvs => (radio.fetchData imuAttitude recvs, none)
  | .setVirtualImu => ({ radio with mVirtualImu := true }, none)
  | .query call _ =>
      let (virtualImu, answer) := radio.virtualImu.call call
      ({ radio with virtualImu := virtualImu }, some answer)

/-- The radio with the virtual sensor, under any steps. -/
def radioLink (imuAttitude : ImuAttitudeOf α)
    : Machine (RadioLink α) (RadioStep α) (Option (SourceAnswer α)) where
  step := RadioLink.step imuAttitude

-----------------------------------------------------------------------------------------
-- The calls that the bytes make
-----------------------------------------------------------------------------------------

/-- The attitude that `fetchData` takes from a message. -/
def attitudeOf (imuAttitude : ImuAttitudeOf α) (message : MavlinkMessage) : Option α :=
  if message.msgid = mavlinkMsgIdAttitude then
    let attitude := mavlinkMsgAttitudeDecode message.payload64.toList
    some (imuAttitude attitude.pitch attitude.roll attitude.yaw)
  else
    none

/-- The attitudes that some bytes complete, each with the time of its last byte. -/
def attitudeArrivals (imuAttitude : ImuAttitudeOf α) (reader : MavlinkReader)
    (timed : List TimedByte)
    : List (UnsignedLong × α) :=
  (completions Prod.snd reader timed).filterMap (fun completed =>
    (attitudeOf imuAttitude completed.2).map (fun attitude => (completed.1.1, attitude)))

/-- The updates that some bytes make, if the pointer is set. -/
def updates (imuAttitude : ImuAttitudeOf α) (set : Bool) (reader : MavlinkReader)
    (timed : List TimedByte)
    : List (SourceCall α) :=
  if set then
    (attitudeArrivals imuAttitude reader timed).map
      (fun arrival => .updateAttitude arrival.1 arrival.2)
  else
    []

/-- Messages that are handled one after another update the virtual sensor, if the pointer is set.
Witness: induction over the messages.
-/
theorem VirtualImu.handle_all (imuAttitude : ImuAttitudeOf α) (set : Bool)
    (virtualImu : VirtualImu α) (completed : List (TimedByte × MavlinkMessage))
    : completed.foldl (fun virtualImu completed =>
          virtualImu.handle imuAttitude set completed.1 completed.2)
        virtualImu
      = attitudeSource.run virtualImu
          (if set then
            completed.filterMap (fun completed =>
              (attitudeOf imuAttitude completed.2).map
                (fun attitude => .updateAttitude completed.1.1 attitude))
          else
            []) := by
  induction completed generalizing virtualImu with
  | nil => cases set <;> rfl
  | cons first rest ih =>
      rw [List.foldl_cons, ih, VirtualImu.handle, List.filterMap_cons, attitudeOf]
      by_cases attitude : first.2.msgid = mavlinkMsgIdAttitude
      · rw [if_pos attitude, if_pos attitude]
        cases set <;> rfl
      · rw [if_neg attitude, if_neg attitude]
        rfl

/-- A call of `fetchData` makes the updates of the messages that its bytes complete. -/
theorem RadioLink.fetchData_eq (imuAttitude : ImuAttitudeOf α) (radio : RadioLink α)
    (recvs : List (List TimedByte))
    : radio.fetchData imuAttitude recvs
      = { radio with
          reader := parser.run radio.reader ((fetched recvs).map Prod.snd)
          virtualImu :=
            attitudeSource.run radio.virtualImu
              (updates imuAttitude radio.mVirtualImu radio.reader (fetched recvs)) } := by
  rw [fetchData, receiveLoop_eq, VirtualImu.handle_all, updates, attitudeArrivals,
    List.map_filterMap]
  simp only [Option.map_map]
  rfl

/-- The calls of the virtual sensor that some steps make. -/
def radioCalls (imuAttitude : ImuAttitudeOf α) (set : Bool) (reader : MavlinkReader)
    : List (RadioStep α) → List (SourceCall α)
  | [] => []
  | .fetchData recvs :: rest =>
      updates imuAttitude set reader (fetched recvs)
        ++ radioCalls imuAttitude set
            (parser.run reader ((fetched recvs).map Prod.snd)) rest
  | .setVirtualImu :: rest => radioCalls imuAttitude true reader rest
  | .query call _ :: rest => call :: radioCalls imuAttitude set reader rest

/-- The virtual sensor follows the calls that the steps make. Witness: induction over the steps.
-/
theorem radioLink_run (imuAttitude : ImuAttitudeOf α) (radio : RadioLink α)
    (steps : List (RadioStep α))
    : ((radioLink imuAttitude).run radio steps).virtualImu
      = attitudeSource.run radio.virtualImu
          (radioCalls imuAttitude radio.mVirtualImu radio.reader steps) := by
  induction steps generalizing radio with
  | nil => rfl
  | cons step rest ih =>
      rw [Machine.run_cons, ih]
      cases step with
      | fetchData recvs =>
          have read : ((radioLink imuAttitude).step radio (.fetchData recvs)).1 = _ :=
            radio.fetchData_eq imuAttitude recvs
          rw [read, radioCalls, Machine.run_append]
      | setVirtualImu => rfl
      | query call asks => rfl

-----------------------------------------------------------------------------------------
-- The attitude that the ground sends
-----------------------------------------------------------------------------------------

/-- The bytes that a step takes from the radio. -/
def RadioStep.timed : RadioStep α → List TimedByte
  | .fetchData recvs => fetched recvs
  | _ => []

/-- The attitudes of bytes one behind another. -/
theorem attitudeArrivals_append (imuAttitude : ImuAttitudeOf α) (reader : MavlinkReader)
    (before after : List TimedByte)
    : attitudeArrivals imuAttitude reader (before ++ after)
      = attitudeArrivals imuAttitude reader before
        ++ attitudeArrivals imuAttitude (parser.run reader (before.map Prod.snd)) after := by
  rw [attitudeArrivals, completions_append, List.filterMap_append]
  rfl

/-- However the bytes are divided among calls, and whatever is asked in between, the updates are
those that the bytes make. Witness: induction over the steps.
-/
theorem radioCalls_updates (imuAttitude : ImuAttitudeOf α) (reader : MavlinkReader)
    (steps : List (RadioStep α))
    : (radioCalls imuAttitude true reader steps).filterMap SourceCall.update
      = attitudeArrivals imuAttitude reader (steps.flatMap RadioStep.timed) := by
  induction steps generalizing reader with
  | nil => rfl
  | cons step rest ih =>
      rw [List.flatMap_cons, attitudeArrivals_append]
      cases step with
      | fetchData recvs =>
          have made
              : (updates imuAttitude true reader (fetched recvs)).filterMap SourceCall.update
                = attitudeArrivals imuAttitude reader (fetched recvs) := by
            rw [updates, if_pos rfl, List.filterMap_map]
            exact List.filterMap_some
          rw [radioCalls, List.filterMap_append, ih, made]
          rfl
      | setVirtualImu => exact ih reader
      | query call asks =>
          rw [radioCalls, List.filterMap_cons, asks]
          exact ih reader

/-- The attitudes completed are those of the messages completed. -/
theorem attitudeArrivals_messages (imuAttitude : ImuAttitudeOf α) (reader : MavlinkReader)
    (timed : List TimedByte)
    : (attitudeArrivals imuAttitude reader timed).map Prod.snd
      = (messages reader (timed.map Prod.snd)).filterMap (attitudeOf imuAttitude) := by
  rw [← completions_messages, attitudeArrivals, List.map_filterMap, List.filterMap_map]
  refine List.filterMap_congr (fun completed _ => ?_)
  rw [Option.map_map]
  exact Option.map_id'

/-- The attitude of a message that the ground sends. -/
def sentAttitude (imuAttitude : ImuAttitudeOf α) (send : Send) : Option α :=
  if send.msgid = mavlinkMsgIdAttitude then
    let attitude := mavlinkMsgAttitudeDecode send.packet
    some (imuAttitude attitude.pitch attitude.roll attitude.yaw)
  else
    none

/-- A packed `mavlink_attitude_t` is decoded as it was packed. -/
theorem mavlinkAttitude_decode (attitude : MavlinkAttitude)
    : attitude.bytes.length = 28 ∧ mavlinkMsgAttitudeDecode attitude.bytes = attitude := by
  have field (value : UInt32)
      : (joinUint16 (lowByte (value >>> 16).toUInt16) (highByte (value >>> 16).toUInt16)).toUInt32
            <<< 16
          ||| (joinUint16 (lowByte value.toUInt16) (highByte value.toUInt16)).toUInt32
        = value := by
    rw [joinUint16_bytes, joinUint16_bytes]
    exact joinUint32_halves value
  refine ⟨rfl, ?_⟩
  obtain ⟨time, roll, pitch, yaw, rollspeed, pitchspeed, yawspeed⟩ := attitude
  simp only [mavlinkMsgAttitudeDecode, MavlinkAttitude.mk.injEq]
  refine ⟨?_, ?_, ?_, ?_, ?_, ?_, ?_⟩ <;> exact field _

/-- What the ground sends: messages that arrive whole, of which those with an attitude are long
enough to hold it.
-/
structure GroundStream (sends : List Send) : Prop where
  fits : ∀ send ∈ sends, send.Fits
  attitudes : ∀ send ∈ sends, send.msgid = mavlinkMsgIdAttitude → 28 ≤ send.packet.length

/-- An attitude that lies within a payload is read from the payload. -/
theorem attitudeDecode_payload {message : MavlinkMessage} (long : 28 ≤ message.payload.length)
    : mavlinkMsgAttitudeDecode message.payload64.toList
      = mavlinkMsgAttitudeDecode message.payload := by
  obtain ⟨rest, memory⟩ := message.payload_memory
  rw [memory]
  have read {offset : Nat} (within : offset + 4 ≤ 28)
      : getUint32 (message.payload ++ rest) offset = getUint32 message.payload offset := by
    simp only [getUint32, getUint16]
    rw [List.getD_append _ _ _ _ (by omega), List.getD_append _ _ _ _ (by omega),
      List.getD_append _ _ _ _ (by omega), List.getD_append _ _ _ _ (by omega)]
  simp only [mavlinkMsgAttitudeDecode]
  rw [read, read, read, read, read, read, read] <;> decide

/-- Of what the ground sends those messages are decoded that have arrived whole. -/
theorem groundStream_decoded (imuAttitude : ImuAttitudeOf α) {reader : MavlinkReader}
    (fresh : reader.Fresh) {currentTxSeq : UInt8} {sends : List Send}
    (stream : GroundStream sends) {bytes : List UInt8}
    (initial : bytes <+: sentPieces (sentMessages currentTxSeq sends))
    : (messages reader bytes).filterMap (attitudeOf imuAttitude)
      = (arrivedSends currentTxSeq sends bytes.length).filterMap
          (sentAttitude imuAttitude) := by
  refine messages_read fresh currentTxSeq stream.fits initial ?_
  intro message send member id payload
  rw [attitudeOf, sentAttitude, id]
  by_cases attitude : send.msgid = mavlinkMsgIdAttitude
  · have long := stream.attitudes send member attitude
    rw [if_pos attitude, if_pos attitude,
      attitudeDecode_payload (by rw [payload]; exact long), payload]
  · rw [if_neg attitude, if_neg attitude]

/-- What `ADI` shows: the attitude that arrived last while it is fresh, else that of the real
sensor.
-/
def shownAttitude (time : UnsignedLong) (imu : α) : Option (UnsignedLong × α) → α
  | none => imu
  | some (updated, attitude) =>
      if time.toNat - updated.toNat ≤ 500 then attitude else imu

/-- The ground's attitude reaches the instruments: whatever bytes come in, however they are divided
among calls, and whatever is asked in between, `getAttitude` returns the attitude of the last
message whose last byte was read at most 500 milliseconds ago, or that of the real sensor if
there is none. Of what the ground has sent the messages are read that have arrived whole, and an
attitude that it packs is the attitude read. Witness: the virtual sensor follows the updates
that the bytes make.
-/
theorem ground_attitude (imuAttitude : ImuAttitudeOf α) (reader : MavlinkReader) (memory : α)
    (steps : List (RadioStep α)) (time : UnsignedLong) (imu : α)
    (ordered
      : InOrder (radioCalls imuAttitude true reader steps ++ [.getAttitude time imu]))
    : let timed := steps.flatMap RadioStep.timed
      let arrivals := attitudeArrivals imuAttitude reader timed
      let radio : RadioLink α := ⟨reader, true, VirtualImu.new memory⟩
      (RadioLink.step imuAttitude ((radioLink imuAttitude).run radio steps)
            (.query (.getAttitude time imu) rfl)).2
          = some (.attitude (shownAttitude time imu arrivals.getLast?))
        ∧ (∀ currentTxSeq sends,
            reader.Fresh → GroundStream sends
            → timed.map Prod.snd <+: sentPieces (sentMessages currentTxSeq sends)
            → arrivals.map Prod.snd
              = (arrivedSends currentTxSeq sends timed.length).filterMap
                  (sentAttitude imuAttitude))
        ∧ ∀ (attitude : MavlinkAttitude) (send : Send),
            send.msgid = mavlinkMsgIdAttitude → send.packet = attitude.bytes
            → sentAttitude imuAttitude send
              = some (imuAttitude attitude.pitch attitude.roll attitude.yaw) := by
  intro timed arrivals radio
  refine ⟨?_, ?_, ?_⟩
  · have calls := radioCalls_updates imuAttitude reader steps
    obtain ⟨before, _, last⟩ := List.pairwise_append.mp ordered
    have follows := VirtualImu.run_follows memory before
    have answer := (follows.call
      (fun earlier member => last earlier member _ List.mem_cons_self)).1
    have latest : latestUpdate (radioCalls imuAttitude true reader steps)
        = arrivals.getLast? :=
      congrArg List.getLast? calls
    change some (((radioLink imuAttitude).run radio steps).virtualImu.call
      (.getAttitude time imu)).2 = _
    rw [radioLink_run, answer, statelessAnswer, freshAttitude, latest]
    cases arrivals.getLast? with
    | none => rfl
    | some update =>
        simp only [shownAttitude]
        split <;> rfl
  · intro currentTxSeq sends fresh stream initial
    have decoded := groundStream_decoded imuAttitude fresh stream initial
    rw [List.length_map] at decoded
    rw [← decoded]
    exact attitudeArrivals_messages imuAttitude reader timed
  · intro attitude send id packed
    rw [sentAttitude, if_pos id, packed, (mavlinkAttitude_decode attitude).2]

/-- An attitude from the ground whose last byte is read at 900 milliseconds, asked for at 1000
while the next message is partly read.
-/
theorem ground_attitude_once
    : let imuAttitude : ImuAttitudeOf (UInt32 × UInt32 × UInt32) :=
        fun pitch roll yaw => (pitch, roll, yaw)
      let attitude : MavlinkAttitude := ⟨1, 2, 3, 4, 5, 6, 7⟩
      let send : Send := ⟨[], .zero, 1, 1, mavlinkMsgIdAttitude, attitude.bytes⟩
      let bytes := (sentPieces (sentMessages 0 [send, send])).take 40
      let steps : List (RadioStep (UInt32 × UInt32 × UInt32)) :=
        [.fetchData [bytes.map (fun c => (900, c))]]
      let radio : RadioLink (UInt32 × UInt32 × UInt32) :=
        ⟨.new .zero .zero, true, VirtualImu.new (0, 0, 0)⟩
      (RadioLink.step imuAttitude ((radioLink imuAttitude).run radio steps)
            (.query (.getAttitude 1000 (0, 0, 0)) rfl)).2
          = some (.attitude (3, 2, 4))
        ∧ (attitudeArrivals imuAttitude radio.reader (steps.flatMap RadioStep.timed)).map
            Prod.snd
          = [(3, 2, 4)] := by
  intro imuAttitude attitude send bytes steps radio
  have ordered
      : InOrder (radioCalls imuAttitude true (.new .zero .zero) steps
          ++ [.getAttitude 1000 (0, 0, 0)]) := by
    unfold InOrder
    decide +kernel
  have fits : send.Fits := ⟨List.not_mem_nil, by decide⟩
  have long : send.msgid = mavlinkMsgIdAttitude → 28 ≤ send.packet.length :=
    fun _ => by decide
  have stream : GroundStream [send, send] :=
    {
      fits := List.forall_mem_cons.mpr ⟨fits, List.forall_mem_singleton.mpr fits⟩
      attitudes := List.forall_mem_cons.mpr ⟨long, List.forall_mem_singleton.mpr long⟩
    }
  obtain ⟨answer, arrived, packed⟩ :=
    ground_attitude imuAttitude (.new .zero .zero) (0, 0, 0) steps 1000 (0, 0, 0) ordered
  have last
      : (attitudeArrivals imuAttitude (.new .zero .zero)
          (steps.flatMap RadioStep.timed)).getLast?
        = some (900, (3, 2, 4)) := by
    decide +kernel
  have initial
      : (steps.flatMap RadioStep.timed).map Prod.snd
        <+: sentPieces (sentMessages 0 [send, send]) := by
    decide +kernel
  have whole
      : wholeCount (steps.flatMap RadioStep.timed).length (sentLengths 0 [send, send]) = 1 := by
    decide +kernel
  rw [last] at answer
  refine ⟨answer, (arrived 0 [send, send] (fresh_new .zero .zero) stream initial).trans ?_⟩
  rw [arrivedSends, whole]
  exact congrArg Option.toList (packed attitude send rfl rfl)

end Cooboc.FlightControl
