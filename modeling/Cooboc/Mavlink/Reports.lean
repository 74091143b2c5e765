import Cooboc.Mavlink.Delivery

/-! What `mavlink_parse_char` reports beside the messages: how many it has received, and which
sequence number it expects next.
-/

namespace Cooboc.Mavlink

open Cooboc.Foundations

/-- The counters that a byte leaves to the end of `mavlink_parse_char`. -/
structure SameCounters (reader next : MavlinkReader) : Prop where
  success : next.status.packetRxSuccessCount = reader.status.packetRxSuccessCount
  rxSeq : next.status.currentRxSeq = reader.status.currentRxSeq
  txSeq : next.status.currentTxSeq = reader.status.currentTxSeq

theorem checkFailed_counters (reader : MavlinkReader) (c : UInt8)
    : SameCounters reader (reader.checkFailed c)
      ∧ (reader.checkFailed c).status.msgReceived = 0 := by
  by_cases leading : c = mavlinkStx
  · rw [MavlinkReader.checkFailed, if_pos leading]
    exact ⟨⟨rfl, rfl, rfl⟩, rfl⟩
  · rw [MavlinkReader.checkFailed, if_neg leading]
    exact ⟨⟨rfl, rfl, rfl⟩, rfl⟩

/-- Whatever it has read, the state machine leaves the counters alone, and copies the buffer out
when it sets `msg_received`. Witness: one case for each state.
-/
theorem parse_counters {reader : MavlinkReader} (cleared : reader.status.msgReceived = 0)
    (c : UInt8)
    : SameCounters reader (reader.parse c)
      ∧ ((reader.parse c).status.msgReceived = 0
        ∨ (reader.parse c).status.msgReceived = 1
          ∧ (reader.parse c).rMessage = (reader.parse c).rxmsg) := by
  have failed (current : MavlinkReader) := checkFailed_counters current c
  cases state : reader.status.parseState with
  | gotStx =>
      simp only [MavlinkReader.parse, state, cleared, ne_eq, not_true_eq_false, if_false]
      exact ⟨⟨rfl, rfl, rfl⟩, .inl trivial⟩
  | gotPayload =>
      simp only [MavlinkReader.parse, state]
      split
      · exact ⟨⟨(failed _).1.success, (failed _).1.rxSeq, (failed _).1.txSeq⟩,
          .inl (failed _).2⟩
      · exact ⟨⟨rfl, rfl, rfl⟩, .inl cleared⟩
  | gotCrc1 =>
      simp only [MavlinkReader.parse, state]
      split
      · exact ⟨(failed _).1, .inl (failed _).2⟩
      · exact ⟨⟨rfl, rfl, rfl⟩, .inr ⟨rfl, rfl⟩⟩
  | uninit =>
      simp only [MavlinkReader.parse, state]
      split <;> exact ⟨⟨rfl, rfl, rfl⟩, .inl cleared⟩
  | idle =>
      simp only [MavlinkReader.parse, state]
      split <;> exact ⟨⟨rfl, rfl, rfl⟩, .inl cleared⟩
  | _ =>
      simp only [MavlinkReader.parse, state]
      exact ⟨⟨rfl, rfl, rfl⟩, .inl cleared⟩

/-- One byte counts the message it completes, takes over its sequence number, and reports both.
-/
theorem parser_counts (reader : MavlinkReader) (c : UInt8)
    : let next := parser.step reader c
      next.1.status.packetRxSuccessCount
          = reader.status.packetRxSuccessCount + UInt16.ofNat next.2.toList.length
        ∧ next.1.status.currentRxSeq
          = (next.2.map MavlinkMessage.seq).getD reader.status.currentRxSeq
        ∧ next.1.rMavlinkStatus.packetRxSuccessCount = next.1.status.packetRxSuccessCount
        ∧ next.1.rMavlinkStatus.currentRxSeq = next.1.status.currentRxSeq + 1
        ∧ next.1.status.currentTxSeq = reader.status.currentTxSeq := by
  intro next
  obtain ⟨⟨success, rxSeq, txSeq⟩, silent | ⟨received, copied⟩⟩ :=
    @parse_counters reader.clear rfl c
  · have unchanged : (reader.clear.parse c).count = reader.clear.parse c :=
      if_neg (by rw [silent]; decide)
    have none : next.2 = none := if_neg (not_not_intro (by rw [unchanged]; exact silent))
    have left : next.1 = (reader.clear.parse c).count.report := rfl
    rw [none, left, unchanged]
    exact ⟨success.trans (UInt16.add_zero _).symm, rxSeq, rfl, rfl, txSeq⟩
  · have counted : (reader.clear.parse c).count = _ := if_pos received
    have some : next.2 = some (reader.clear.parse c).count.report.rMessage :=
      if_pos (by
        rw [counted]
        change (reader.clear.parse c).status.msgReceived ≠ 0
        rw [received]
        decide)
    have left : next.1 = (reader.clear.parse c).count.report := rfl
    rw [some, left, counted]
    exact ⟨congrArg (· + 1) success, congrArg MavlinkMessage.seq copied.symm, rfl, rfl, txSeq⟩

/-- Along a run the messages are counted, modulo 2^16, and the last one's sequence number is
kept. Witness: induction over the bytes.
-/
theorem run_counts (reader : MavlinkReader) (bytes : List UInt8)
    : (parser.run reader bytes).status.packetRxSuccessCount
        = reader.status.packetRxSuccessCount
          + UInt16.ofNat (messages reader bytes).length
      ∧ (parser.run reader bytes).status.currentRxSeq
        = ((messages reader bytes).getLast?.map MavlinkMessage.seq).getD
            reader.status.currentRxSeq
      ∧ (parser.run reader bytes).status.currentTxSeq = reader.status.currentTxSeq := by
  induction bytes using List.reverseRecOn with
  | nil => exact ⟨(UInt16.add_zero _).symm, rfl, rfl⟩
  | append_singleton bytes c ih =>
      obtain ⟨success, rxSeq, txSeq⟩ := ih
      obtain ⟨counted, last, _, _, kept⟩ := parser_counts (parser.run reader bytes) c
      have nothing (next : MavlinkReader) : messages next [] = [] := rfl
      rw [Machine.run_append, messages_append, messages_cons, nothing, List.append_nil]
      change (parser.step (parser.run reader bytes) c).1.status.packetRxSuccessCount = _
        ∧ (parser.step (parser.run reader bytes) c).1.status.currentRxSeq = _
        ∧ (parser.step (parser.run reader bytes) c).1.status.currentTxSeq = _
      refine ⟨?_, ?_, kept.trans txSeq⟩
      · rw [counted, success, UInt16.add_assoc, ← UInt16.ofNat_add, List.length_append]
      · rw [last, rxSeq]
        cases (parser.step (parser.run reader bytes) c).2 with
        | none => simp
        | some message => simp

/-- The report behind some bytes is that of the last one. -/
theorem run_reports (reader : MavlinkReader) {bytes : List UInt8} (read : bytes ≠ [])
    : (parser.run reader bytes).rMavlinkStatus.packetRxSuccessCount
        = (parser.run reader bytes).status.packetRxSuccessCount
      ∧ (parser.run reader bytes).rMavlinkStatus.currentRxSeq
        = (parser.run reader bytes).status.currentRxSeq + 1 := by
  obtain ⟨before, c, rfl⟩ := bytes.eq_nil_or_concat'.resolve_left read
  obtain ⟨_, _, success, next, _⟩ := parser_counts (parser.run reader before) c
  rw [Machine.run_append]
  exact ⟨success, next⟩

/-- Behind a stream of messages the receiver reports how many it has received, and as the next
sequence number the one that the sender will use next.
-/
theorem transmission_reported {reader : MavlinkReader} (fresh : reader.Fresh)
    (currentTxSeq : UInt8) {sends : List Send} (some_sent : sends ≠ [])
    (fits : ∀ send ∈ sends, send.Fits)
    : let bytes := sentPieces (sentMessages currentTxSeq sends)
      let reported := (parser.run reader bytes).rMavlinkStatus
      (messages reader bytes).map MavlinkMessage.content
          = sends.mapIdx (fun index send =>
              ⟨currentTxSeq + UInt8.ofNat index, send.systemId, send.componentId, send.msgid,
                send.packet⟩)
        ∧ reported.packetRxSuccessCount
          = reader.status.packetRxSuccessCount + UInt16.ofNat sends.length
        ∧ reported.currentRxSeq = currentTxSeq + UInt8.ofNat sends.length := by
  intro bytes reported
  have contents := messages_transmitted fresh currentTxSeq fits
  have length : (messages reader bytes).length = sends.length := by
    have lengths := congrArg List.length contents
    rwa [List.length_map, List.length_mapIdx] at lengths
  have read : bytes ≠ [] := by
    intro empty
    rw [show messages reader bytes = [] from empty ▸ rfl] at length
    exact some_sent (List.length_eq_zero_iff.mp length.symm)
  obtain ⟨success, next⟩ := run_reports reader read
  obtain ⟨counted, last, _⟩ := run_counts reader bytes
  refine ⟨contents, ?_, ?_⟩
  · rw [success, counted, length]
  · have lasts := congrArg List.getLast? contents
    obtain ⟨first, rest, rfl⟩ := List.exists_cons_of_ne_nil some_sent
    rw [List.getLast?_map, List.getLast?_mapIdx, List.getLast?_cons, Option.map_some] at lasts
    obtain ⟨message, found, same⟩ := Option.map_eq_some_iff.mp lasts
    have seq : message.seq = currentTxSeq + UInt8.ofNat rest.length := congrArg Content.seq same
    rw [next, last, found, Option.map_some, Option.getD_some, seq, List.length_cons,
      UInt8.ofNat_add, UInt8.add_assoc]
    rfl

/-- Two messages across the end of the sequence numbers, with noise in between. -/
theorem transmission_reported_wrap
    : let sends : List Send :=
        [⟨[], .zero, 1, 1, 0, [1, 2, 3]⟩, ⟨[7, 253], .zero, 1, 1, 30, [254, 254]⟩]
      let bytes := sentPieces (sentMessages 255 sends)
      let reader := MavlinkReader.new .zero .zero
      let reported := (parser.run reader bytes).rMavlinkStatus
      (messages reader bytes).map MavlinkMessage.content
          = sends.mapIdx (fun index send =>
              ⟨255 + UInt8.ofNat index, send.systemId, send.componentId, send.msgid,
                send.packet⟩)
        ∧ reported.packetRxSuccessCount
          = reader.status.packetRxSuccessCount + UInt16.ofNat sends.length
        ∧ reported.currentRxSeq = 255 + UInt8.ofNat sends.length :=
  transmission_reported (fresh_new .zero .zero) 255 (by simp) (by
    intro send member
    simp only [List.mem_cons, List.not_mem_nil, or_false] at member
    rcases member with rfl | rfl
    · exact ⟨by decide, by decide⟩
    · exact ⟨by decide, by decide⟩)

end Cooboc.Mavlink
