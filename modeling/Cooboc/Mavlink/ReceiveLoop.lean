import Cooboc.Mavlink.ParserFrames

/-! The loop that the devices read their channel in: bytes are fetched until none come, each is
parsed, and a message that it completes is handled. An input is a byte with whatever else the
handler takes.
-/

namespace Cooboc.Mavlink

open Cooboc.Foundations

section

variable {σ β : Type*} (byte : β → UInt8) (handle : σ → β → MavlinkMessage → σ)

/-- The loop body, on the storage of the channel and the state of the device. -/
def receiveByte (receiving : MavlinkReader × σ) (input : β) : MavlinkReader × σ :=
  let (reader, received) := mavlinkParseChar receiving.1 (byte input)
  (reader, if received ≠ 0 then handle receiving.2 input reader.rMessage else receiving.2)

/-- The loop over what its `recv` calls return; it ends with a call that returns no bytes, or
an error.
-/
def receiveLoop (receiving : MavlinkReader × σ) : List (List β) → MavlinkReader × σ
  | [] => receiving
  | [] :: _ => receiving
  | (first :: later) :: rest =>
      receiveLoop ((first :: later).foldl (receiveByte byte handle) receiving) rest

end

variable {σ β : Type*}

/-- The inputs of the `recv` calls that the loop makes. -/
def fetched (recvs : List (List β)) : List β :=
  (recvs.takeWhile (fun chunk => ¬chunk.isEmpty)).flatten

/-- The messages that inputs complete, each behind the input that completes it. -/
def completions (byte : β → UInt8) (reader : MavlinkReader) : List β → List (β × MavlinkMessage)
  | [] => []
  | input :: rest =>
      ((parser.step reader (byte input)).2.map (fun message => (input, message))).toList
        ++ completions byte (parser.step reader (byte input)).1 rest

/-- The messages completed are those of the bytes. -/
theorem completions_messages (byte : β → UInt8) (reader : MavlinkReader) (inputs : List β)
    : (completions byte reader inputs).map Prod.snd = messages reader (inputs.map byte) := by
  induction inputs generalizing reader with
  | nil => rfl
  | cons input rest ih =>
      rw [completions, List.map_append, ih, List.map_cons, messages_cons]
      cases (parser.step reader (byte input)).2 <;> rfl

theorem completions_append (byte : β → UInt8) (reader : MavlinkReader) (before after : List β)
    : completions byte reader (before ++ after)
      = completions byte reader before
        ++ completions byte (parser.run reader (before.map byte)) after := by
  induction before generalizing reader with
  | nil => rfl
  | cons input rest ih =>
      rw [List.cons_append, completions, completions, ih, List.append_assoc]
      rfl

variable (byte : β → UInt8) (handle : σ → β → MavlinkMessage → σ)

/-- A byte is parsed, and the message that it completes is handled, if it completes one. -/
theorem receiveByte_eq (reader : MavlinkReader) (device : σ) (input : β)
    : receiveByte byte handle (reader, device) input
      = ((parser.step reader (byte input)).1,
          (completions byte reader [input]).foldl
            (fun device completed => handle device completed.1 completed.2) device) := by
  let next := (mavlinkParseChar reader (byte input)).1
  rw [completions, completions, List.append_nil]
  by_cases received : (mavlinkParseChar reader (byte input)).2 ≠ 0
  · have reported : (parser.step reader (byte input)).2 = some next.rMessage := if_pos received
    rw [reported]
    exact Prod.ext rfl (if_pos received)
  · have silent : (parser.step reader (byte input)).2 = none := if_neg received
    rw [silent]
    exact Prod.ext rfl (if_neg received)

/-- Inputs that are read one by one have the messages handled that they complete. Witness:
induction over the inputs.
-/
theorem receiveBytes_eq (reader : MavlinkReader) (device : σ) (inputs : List β)
    : inputs.foldl (receiveByte byte handle) (reader, device)
      = (parser.run reader (inputs.map byte),
          (completions byte reader inputs).foldl
            (fun device completed => handle device completed.1 completed.2) device) := by
  induction inputs generalizing reader device with
  | nil => rfl
  | cons input rest ih =>
      have opened
          : completions byte reader (input :: rest)
            = completions byte reader [input]
              ++ completions byte (parser.step reader (byte input)).1 rest :=
        completions_append byte reader [input] rest
      rw [List.foldl_cons, receiveByte_eq, ih, opened, List.foldl_append]
      rfl

/-- The loop reads the inputs of its `recv` calls as if they came in one. Witness: induction over
the calls, up to the first that returns no bytes.
-/
theorem receiveLoop_eq (reader : MavlinkReader) (device : σ) (recvs : List (List β))
    : receiveLoop byte handle (reader, device) recvs
      = (parser.run reader ((fetched recvs).map byte),
          (completions byte reader (fetched recvs)).foldl
            (fun device completed => handle device completed.1 completed.2) device) := by
  rw [← receiveBytes_eq]
  generalize (reader, device) = receiving
  induction recvs generalizing receiving with
  | nil => rfl
  | cons chunk rest ih =>
      cases chunk with
      | nil => rfl
      | cons first later =>
          rw [receiveLoop, ih, ← List.foldl_append]
          rfl

end Cooboc.Mavlink
