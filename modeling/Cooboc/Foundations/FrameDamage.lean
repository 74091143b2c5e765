import Cooboc.Foundations.LengthPrefixed

/-! Streams of length-prefixed packets with damage: a receiver delivers exactly the packets
in which no payload or checksum byte was replaced, as long as at most one was.
-/

namespace Cooboc.Foundations

-----------------------------------------------------------------------------------------
-- What the checksum detects
-----------------------------------------------------------------------------------------

theorem foldl_xor (start : UInt8) (bytes : List UInt8)
    : bytes.foldl (· ^^^ ·) start = start ^^^ xorSum bytes := by
  induction bytes generalizing start with
  | nil => simp [xorSum]
  | cons byte rest ih =>
      have own := ih (0 ^^^ byte)
      rw [xorSum, List.foldl_cons, List.foldl_cons, own, ih (start ^^^ byte),
        UInt8.zero_xor, UInt8.xor_assoc]

theorem xorSum_cons (byte : UInt8) (rest : List UInt8)
    : xorSum (byte :: rest) = byte ^^^ xorSum rest := by
  rw [xorSum, List.foldl_cons, foldl_xor, UInt8.zero_xor]

/-- Replacing one byte keeps the checksum only if the byte stays the same. Witness: induction
over the bytes in front of it, each of which can be cancelled.
-/
theorem xorSum_set {bytes : List UInt8} {index : Nat} (bound : index < bytes.length)
    (byte : UInt8)
    : xorSum (bytes.set index byte) = xorSum bytes ↔ byte = bytes[index] := by
  induction bytes generalizing index with
  | nil => cases bound
  | cons first rest ih =>
      cases index with
      | zero =>
          rw [List.set_cons_zero, xorSum_cons, xorSum_cons, UInt8.xor_left_inj]
          exact Iff.rfl
      | succ index =>
          rw [List.set_cons_succ, xorSum_cons, xorSum_cons, UInt8.xor_right_inj]
          exact ih (Nat.lt_of_succ_lt_succ bound)

-----------------------------------------------------------------------------------------
-- Transmissions
-----------------------------------------------------------------------------------------

/-- A packet with the filler in front of it, and the payload or checksum byte that was
replaced on the way, if any.
-/
structure Transmission where
  filler : List UInt8
  payload : List UInt8
  damage : Option (Nat × UInt8)
deriving DecidableEq

/-- The payload and its checksum as they arrive. -/
def Transmission.received (transmission : Transmission) : List UInt8 :=
  let sent := transmission.payload ++ [xorSum transmission.payload]
  match transmission.damage with
  | none => sent
  | some (index, byte) => sent.set index byte

/-- The bytes of a transmission; header and length arrive as they were sent. -/
def Framing.transmitted (framing : Framing) (transmission : Transmission) : List UInt8 :=
  transmission.filler
    ++ [framing.lead, framing.check, UInt8.ofNat transmission.payload.length]
    ++ transmission.received

/-- What a receiver should answer: the payload at the last byte of an undamaged packet, and
nothing at all other bytes.
-/
def Transmission.answers (transmission : Transmission) : List (Option (List UInt8)) :=
  List.replicate (transmission.filler.length + transmission.payload.length + 3) none
    ++ [if transmission.damage = none then some transmission.payload else none]

/-- The filler holds no leading byte, the payload fits into a packet, and damage replaces a
payload or checksum byte by a different one.
-/
structure Framing.Transmits (framing : Framing) (transmission : Transmission) : Prop where
  filler : ∀ byte ∈ transmission.filler, byte ≠ framing.lead
  short : transmission.payload.length < 256
  damage
    : ∀ index byte,
        transmission.damage = some (index, byte)
        → ∃ old,
            (transmission.payload ++ [xorSum transmission.payload])[index]? = some old
            ∧ old ≠ byte

/-- What arrives of a packet is as long as what was sent, so it is some payload of that
length and some checksum.
-/
theorem Transmission.received_split (transmission : Transmission)
    : ∃ read crc,
        transmission.received = read ++ [crc]
        ∧ read.length = transmission.payload.length := by
  have length : transmission.received.length = transmission.payload.length + 1 := by
    unfold Transmission.received
    dsimp only
    split <;> simp
  rcases List.eq_nil_or_concat' transmission.received with empty | ⟨read, crc, split⟩
  · rw [empty] at length
    cases length
  · refine ⟨read, crc, split, ?_⟩
    simpa [split] using length

/-- What arrives is right exactly if nothing was replaced. Witness: a replaced payload byte
changes the checksum of the payload, a replaced checksum byte is not that checksum.
-/
theorem Framing.Transmits.received_valid {framing : Framing} {transmission : Transmission}
    (transmits : framing.Transmits transmission) {read : List UInt8} {crc : UInt8}
    (split : transmission.received = read ++ [crc])
    : (if crc = xorSum read then some read else none)
      = if transmission.damage = none then some transmission.payload else none := by
  cases damaged : transmission.damage with
  | none =>
      rw [Transmission.received, damaged] at split
      obtain ⟨rfl, same⟩ := List.append_inj' split rfl
      obtain ⟨rfl, _⟩ := List.cons.inj same
      simp
  | some damage =>
      obtain ⟨index, byte⟩ := damage
      obtain ⟨old, found, different⟩ := transmits.damage index byte damaged
      obtain ⟨bound, rfl⟩ := List.getElem?_eq_some_iff.mp found
      rw [Transmission.received, damaged] at split
      dsimp only at split
      have present : some (index, byte) ≠ none := Option.some_ne_none _
      rw [if_neg present, if_neg]
      intro valid
      apply different
      by_cases inside : index < transmission.payload.length
      · rw [List.set_append_left _ _ inside] at split
        obtain ⟨rfl, same⟩ := List.append_inj' split rfl
        obtain ⟨rfl, _⟩ := List.cons.inj same
        rw [List.getElem_append_left inside]
        exact ((xorSum_set inside byte).mp valid.symm).symm
      · have last : index = transmission.payload.length := by
          simp only [List.length_append, List.length_singleton] at bound
          omega
        subst last
        rw [List.set_append_right _ _ (Nat.le_refl _), Nat.sub_self] at split
        obtain ⟨rfl, same⟩ := List.append_inj' split rfl
        obtain ⟨rfl, _⟩ := List.cons.inj same
        simpa using valid.symm

/-- An idle receiver answers a transmission as it should, and is idle again. -/
theorem Framing.Transmits.receiver {framing : Framing} {transmission : Transmission}
    (transmits : framing.Transmits transmission)
    : framing.receiver.run .idle (inTime (framing.transmitted transmission)) = .idle
      ∧ framing.receiver.outputs .idle (inTime (framing.transmitted transmission))
        = transmission.answers := by
  obtain ⟨read, crc, split, length⟩ := transmission.received_split
  have short : read.length < 256 := length ▸ transmits.short
  have unlocking : ∀ reception ∈ inTime transmission.filler,
      reception.byte ≠ framing.lead := by
    intro reception member
    obtain ⟨byte, present, rfl⟩ := List.mem_map.mp member
    exact transmits.filler byte present
  obtain ⟨rests, ignored⟩ := framing.receiver_filler unlocking
  obtain ⟨arrived, silent⟩ := framing.receiver_body short
  have bytes : framing.transmitted transmission
      = transmission.filler ++ framing.body read ++ [crc] := by
    simp [Framing.transmitted, Framing.body, split, length]
  have valid := transmits.received_valid split
  rw [bytes, inTime_append, inTime_append, Machine.run_append, Machine.run_append,
    Machine.outputs_append, Machine.outputs_append, Machine.run_append, rests, ignored,
    arrived, silent]
  refine ⟨by simp [Framing.advance], ?_⟩
  simp only [inTime_cons, inTime_nil, Machine.outputs_cons, Machine.outputs_nil,
    receiver_inTime, Framing.advance, valid, Transmission.answers]
  rw [List.replicate_append_replicate]
  simp only [inTime, List.length_map, length, Nat.add_assoc]

/-- An idle receiver answers a stream of transmissions, each as it should, and ignores the
filler behind the last one. Witness: induction over the transmissions.
-/
theorem Framing.receiver_stream (framing : Framing) {transmissions : List Transmission}
    (transmits : ∀ transmission ∈ transmissions, framing.Transmits transmission)
    {trailing : List UInt8} (filler : ∀ byte ∈ trailing, byte ≠ framing.lead)
    : framing.receiver.outputs .idle
        (inTime (transmissions.flatMap framing.transmitted ++ trailing))
      = transmissions.flatMap Transmission.answers
        ++ List.replicate trailing.length none := by
  induction transmissions with
  | nil =>
      have unlocking : ∀ reception ∈ inTime trailing, reception.byte ≠ framing.lead := by
        intro reception member
        obtain ⟨byte, present, rfl⟩ := List.mem_map.mp member
        exact filler byte present
      have ignored := (framing.receiver_filler unlocking).2
      simpa [inTime] using ignored
  | cons transmission rest ih =>
      obtain ⟨first, others⟩ := List.forall_mem_cons.mp transmits
      obtain ⟨rests, answered⟩ := first.receiver
      rw [List.flatMap_cons, List.append_assoc, inTime_append, Machine.outputs_append,
        answered, rests, ih others, List.flatMap_cons, List.append_assoc]

end Cooboc.Foundations
