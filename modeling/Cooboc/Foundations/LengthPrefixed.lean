import Mathlib.Data.List.Infix
import Cooboc.Foundations.Machine

/-! Length-prefixed byte packets with a two-byte header and an exclusive-or checksum, and
the receiver that reads them one byte at a time. A byte that comes too late for the packet
being read abandons that packet.
-/

namespace Cooboc.Foundations

/-- The exclusive or of all bytes, zero for none. -/
def xorSum (bytes : List UInt8) : UInt8 := bytes.foldl (· ^^^ ·) 0

/-- Header bytes of a packet format. A `lenient` receiver takes a wrong second byte for
the length; a strict one gives the packet up.
-/
structure Framing where
  lead : UInt8
  check : UInt8
  lenient : Bool

/-- Everything of a packet that stands before its checksum. -/
def Framing.body (framing : Framing) (payload : List UInt8) : List UInt8 :=
  [framing.lead, framing.check, UInt8.ofNat payload.length] ++ payload

/-- The bytes of a packet: header, length, payload, checksum. -/
def Framing.packet (framing : Framing) (payload : List UInt8) : List UInt8 :=
  framing.body payload ++ [xorSum payload]

-----------------------------------------------------------------------------------------
-- The receiver
-----------------------------------------------------------------------------------------

theorem Framing.packet_length (framing : Framing) (payload : List UInt8)
    : (framing.packet payload).length = payload.length + 4 := by
  simp [Framing.packet, Framing.body]

/-- What a receiver has read of the packet it is in. -/
inductive Progress where
  | idle
  | lead
  | check
  | payload (size : Nat) (read : List UInt8)
  | crc (payload : List UInt8)
deriving DecidableEq

/-- After the length byte the payload follows, or the checksum if there is none. -/
def Progress.ofLength (length : UInt8) : Progress :=
  if length = 0 then .crc [] else .payload length.toNat []

/-- One byte that comes in time: the next progress, and the payload of a packet that this
byte completes.
-/
def Framing.advance (framing : Framing) (progress : Progress) (byte : UInt8)
    : Progress × Option (List UInt8) :=
  match progress with
  | .idle => (if byte = framing.lead then .lead else .idle, none)
  | .lead =>
      if byte = framing.check then
        (.check, none)
      else if framing.lenient then
        (.ofLength byte, none)
      else
        (.idle, none)
  | .check => (.ofLength byte, none)
  | .payload size read =>
      if read.length + 1 = size then
        (.crc (read ++ [byte]), none)
      else
        (.payload size (read ++ [byte]), none)
  | .crc payload => (.idle, if byte = xorSum payload then some payload else none)

/-- A received byte, marked when it comes too late for the packet being read. -/
structure Reception where
  late : Bool
  byte : UInt8
deriving DecidableEq

/-- The receiver drops a late byte together with the packet it was reading. -/
def Framing.receiver (framing : Framing)
    : Machine Progress Reception (Option (List UInt8)) where
  step progress reception :=
    if reception.late ∧ progress ≠ .idle then
      (.idle, none)
    else
      framing.advance progress reception.byte

/-- Bytes that all come in time. -/
def inTime (bytes : List UInt8) : List Reception := bytes.map (⟨false, ·⟩)

@[simp] theorem inTime_nil : inTime [] = [] := rfl

@[simp] theorem inTime_cons (byte : UInt8) (bytes : List UInt8)
    : inTime (byte :: bytes) = ⟨false, byte⟩ :: inTime bytes :=
  rfl

theorem inTime_append (before after : List UInt8)
    : inTime (before ++ after) = inTime before ++ inTime after :=
  List.map_append

@[simp] theorem Framing.receiver_inTime (framing : Framing) (progress : Progress)
    (byte : UInt8)
    : framing.receiver.step progress ⟨false, byte⟩ = framing.advance progress byte := by
  simp [Framing.receiver]

@[simp] theorem Framing.receiver_idle (framing : Framing) (reception : Reception)
    : framing.receiver.step .idle reception = framing.advance .idle reception.byte := by
  simp [Framing.receiver]

/-- A byte is dropped together with the packet being read, or it is read. -/
theorem Framing.receiver_cases (framing : Framing) (progress : Progress)
    (reception : Reception)
    : (progress ≠ .idle ∧ framing.receiver.step progress reception = (.idle, none))
      ∨ framing.receiver.step progress reception
        = framing.advance progress reception.byte := by
  by_cases dropped : reception.late ∧ progress ≠ .idle
  · exact .inl ⟨dropped.2, if_pos dropped⟩
  · exact .inr (if_neg dropped)

/-- A byte read delivers a payload only as its checksum. Witness: one case for each progress.
-/
theorem Framing.advance_delivers {framing : Framing} {progress : Progress} {byte : UInt8}
    {payload : List UInt8} (delivered : (framing.advance progress byte).2 = some payload)
    : progress = .crc payload ∧ byte = xorSum payload := by
  cases progress with
  | idle => cases delivered
  | lead =>
      simp only [Framing.advance] at delivered
      split at delivered
      · cases delivered
      · split at delivered <;> cases delivered
  | check => cases delivered
  | payload size read =>
      simp only [Framing.advance] at delivered
      split at delivered <;> cases delivered
  | crc stored =>
      simp only [Framing.advance] at delivered
      by_cases matched : byte = xorSum stored
      · rw [if_pos matched] at delivered
        obtain rfl := Option.some.inj delivered
        exact ⟨rfl, matched⟩
      · rw [if_neg matched] at delivered
        cases delivered

/-- A received byte delivers a payload only as its checksum. -/
theorem Framing.receiver_delivers {framing : Framing} {progress : Progress}
    {reception : Reception} {payload : List UInt8}
    (delivered : (framing.receiver.step progress reception).2 = some payload)
    : progress = .crc payload ∧ reception.byte = xorSum payload := by
  rcases framing.receiver_cases progress reception with ⟨_, dropped⟩ | read
  · rw [dropped] at delivered
    cases delivered
  · rw [read] at delivered
    exact Framing.advance_delivers delivered

-----------------------------------------------------------------------------------------
-- Soundness: what the bytes read so far end with
-----------------------------------------------------------------------------------------

/-- (framing.Consumed history progress) says that the bytes read end with the part of a
packet that `progress` stands for.
-/
def Framing.Consumed (framing : Framing) (history : List UInt8) : Progress → Prop
  | .idle => True
  | .lead => [framing.lead] <:+ history
  | .check => [framing.lead, framing.check] <:+ history
  | .payload size read =>
      read.length < size
      ∧ size < 256
      ∧ [framing.lead, framing.check, UInt8.ofNat size] ++ read <:+ history
  | .crc payload => payload.length < 256 ∧ framing.body payload <:+ history

theorem suffix_concat {part history : List UInt8} (suffix : part <:+ history) (byte : UInt8)
    : part ++ [byte] <:+ history ++ [byte] := by
  obtain ⟨before, rfl⟩ := suffix
  exact ⟨before, by rw [List.append_assoc]⟩

/-- The length byte opens the payload it announces. -/
theorem Framing.Consumed.ofLength {framing : Framing} {history : List UInt8}
    (header : [framing.lead, framing.check] <:+ history) (byte : UInt8)
    : framing.Consumed (history ++ [byte]) (.ofLength byte) := by
  have announced := suffix_concat header byte
  unfold Progress.ofLength
  by_cases empty : byte = 0
  · subst empty
    rw [if_pos rfl]
    exact ⟨by simp, announced⟩
  · rw [if_neg empty]
    have positive : byte.toNat ≠ 0 := fun zero => empty (UInt8.toNat_inj.mp zero)
    refine ⟨Nat.pos_of_ne_zero positive, byte.toNat_lt, ?_⟩
    simpa using announced

/-- A byte read in time keeps the account, unless a lenient receiver takes it for the
length in place of the second header byte.
-/
theorem Framing.Consumed.advance {framing : Framing} {history : List UInt8}
    {progress : Progress} (consumed : framing.Consumed history progress) {byte : UInt8}
    (strict : progress = .lead → framing.lenient = true → byte = framing.check)
    : framing.Consumed (history ++ [byte]) (framing.advance progress byte).1 := by
  cases progress with
  | idle =>
      simp only [Framing.advance]
      by_cases leading : byte = framing.lead
      · rw [if_pos leading, leading]
        exact List.suffix_append history [framing.lead]
      · rw [if_neg leading]
        trivial
  | lead =>
      simp only [Framing.advance]
      by_cases checked : byte = framing.check
      · rw [if_pos checked, checked]
        exact suffix_concat consumed framing.check
      · rw [if_neg checked]
        by_cases lenient : framing.lenient
        · exact absurd (strict rfl lenient) checked
        · rw [if_neg lenient]
          trivial
  | check => exact Consumed.ofLength consumed byte
  | payload size read =>
      obtain ⟨room, bound, suffix⟩ := consumed
      have longer := suffix_concat suffix byte
      simp only [Framing.advance]
      by_cases complete : read.length + 1 = size
      · rw [if_pos complete]
        subst complete
        refine ⟨by simpa using bound, ?_⟩
        simpa [Framing.body, List.append_assoc] using longer
      · rw [if_neg complete]
        refine ⟨?_, bound, by simpa [List.append_assoc] using longer⟩
        simp only [List.length_append, List.length_singleton]
        omega
  | crc payload => trivial

/-- A byte that completes a packet is the checksum behind all the rest of it. -/
theorem Framing.Consumed.delivered {framing : Framing} {history : List UInt8}
    {progress : Progress} (consumed : framing.Consumed history progress) {byte : UInt8}
    {payload : List UInt8} (complete : (framing.advance progress byte).2 = some payload)
    : payload.length < 256 ∧ framing.packet payload <:+ history ++ [byte] := by
  obtain ⟨rfl, rfl⟩ := Framing.advance_delivers complete
  exact ⟨consumed.1, suffix_concat consumed.2 _⟩

/-- A received byte keeps the account and completes only well-formed packets, unless a
lenient receiver takes it for the length in place of the second header byte.
-/
theorem Framing.Consumed.receive {framing : Framing} {history : List UInt8}
    {progress : Progress} (consumed : framing.Consumed history progress)
    {reception : Reception}
    (strict
      : progress = .lead → reception.late = false → reception.byte = framing.check)
    : framing.Consumed (history ++ [reception.byte])
        (framing.receiver.step progress reception).1
      ∧ ∀ payload,
          (framing.receiver.step progress reception).2 = some payload
          → payload.length < 256
            ∧ framing.packet payload <:+ history ++ [reception.byte] := by
  by_cases dropped : reception.late ∧ progress ≠ .idle
  · simp [Framing.receiver, dropped, Framing.Consumed]
  · simp only [Framing.receiver, if_neg dropped]
    refine ⟨consumed.advance ?_, fun _ complete => consumed.delivered complete⟩
    intro leading _
    refine strict leading (Bool.eq_false_iff.mpr (fun late => dropped ⟨late, ?_⟩))
    simp [leading]

/-- The bytes read end with the length byte and the payload bytes that a progress holds. This
much is true of a lenient receiver too.
-/
def Progress.Recent (history : List UInt8) : Progress → Prop
  | .payload size read =>
      read.length < size ∧ size < 256 ∧ UInt8.ofNat size :: read <:+ history
  | .crc stored => stored.length < 256 ∧ UInt8.ofNat stored.length :: stored <:+ history
  | _ => True

/-- The length byte opens the payload it announces, whatever stands before it. -/
theorem Progress.Recent.ofLength (history : List UInt8) (byte : UInt8)
    : (Progress.ofLength byte).Recent (history ++ [byte]) := by
  unfold Progress.ofLength
  by_cases empty : byte = 0
  · subst empty
    exact ⟨by simp, List.suffix_append history [0]⟩
  · rw [if_neg empty]
    have positive : byte.toNat ≠ 0 := fun zero => empty (UInt8.toNat_inj.mp zero)
    refine ⟨Nat.pos_of_ne_zero positive, byte.toNat_lt, ?_⟩
    simp

/-- A byte read keeps what is recent. Witness: one case for each progress. -/
theorem Progress.Recent.advance {framing : Framing} {history : List UInt8}
    {progress : Progress} (recent : progress.Recent history) (byte : UInt8)
    : (framing.advance progress byte).1.Recent (history ++ [byte]) := by
  cases progress with
  | idle =>
      simp only [Framing.advance]
      split <;> trivial
  | lead =>
      simp only [Framing.advance]
      split
      · trivial
      · split
        · exact Recent.ofLength history byte
        · trivial
  | check => exact Recent.ofLength history byte
  | payload size read =>
      obtain ⟨room, bound, suffix⟩ := recent
      have longer := suffix_concat suffix byte
      simp only [Framing.advance]
      by_cases complete : read.length + 1 = size
      · rw [if_pos complete]
        subst complete
        refine ⟨by simpa using bound, ?_⟩
        simpa using longer
      · rw [if_neg complete]
        refine ⟨?_, bound, by simpa using longer⟩
        simp only [List.length_append, List.length_singleton]
        omega
  | crc stored => trivial

/-- A received byte keeps what is recent. A byte that completes a packet stands behind its
length byte and its payload.
-/
theorem Progress.Recent.receive {framing : Framing} {history : List UInt8}
    {progress : Progress} (recent : progress.Recent history) (reception : Reception)
    : (framing.receiver.step progress reception).1.Recent (history ++ [reception.byte])
      ∧ ∀ payload,
          (framing.receiver.step progress reception).2 = some payload
          → UInt8.ofNat payload.length :: payload ++ [reception.byte]
            <:+ history ++ [reception.byte] := by
  constructor
  · rcases framing.receiver_cases progress reception with ⟨_, dropped⟩ | read
    · rw [dropped]
      trivial
    · rw [read]
      exact recent.advance reception.byte
  · intro payload delivered
    obtain ⟨rfl, _⟩ := Framing.receiver_delivers delivered
    exact suffix_concat recent.2 reception.byte

/-- The payload bytes that a progress holds. -/
def Progress.held : Progress → List UInt8
  | .payload _ read => read
  | .crc stored => stored
  | _ => []

theorem Progress.ofLength_held (length : UInt8) : (Progress.ofLength length).held = [] := by
  unfold Progress.ofLength
  split <;> rfl

/-- An idle receiver stays idle, or a leading byte opens a packet of which nothing is held. -/
theorem Framing.receiver_opens (framing : Framing) (reception : Reception)
    : (framing.receiver.step .idle reception).1 = .idle
      ∨ (framing.receiver.step .idle reception).1.held = [] ∧ reception.byte = framing.lead := by
  rw [Framing.receiver_idle]
  by_cases leading : reception.byte = framing.lead
  · simp [Framing.advance, leading, Progress.held]
  · simp [Framing.advance, leading]

/-- Within a packet a byte is held behind those before it, or none is held yet, or the packet
is left. Witness: one case for each progress.
-/
theorem Framing.receiver_holds (framing : Framing) {progress : Progress}
    (open_packet : progress ≠ .idle) (reception : Reception)
    : (framing.receiver.step progress reception).1 = .idle
      ∨ (framing.receiver.step progress reception).1.held = []
      ∨ (framing.receiver.step progress reception).1.held
        = progress.held ++ [reception.byte] := by
  rcases framing.receiver_cases progress reception with ⟨_, dropped⟩ | read
  · exact .inl (congrArg Prod.fst dropped)
  · rw [read]
    cases progress with
    | idle => exact absurd rfl open_packet
    | lead =>
        simp only [Framing.advance]
        split
        · exact .inr (.inl rfl)
        · split
          · exact .inr (.inl (Progress.ofLength_held _))
          · exact .inl rfl
    | check => exact .inr (.inl (Progress.ofLength_held _))
    | payload size read =>
        simp only [Framing.advance]
        split <;> exact .inr (.inr rfl)
    | crc stored => exact .inl rfl

-----------------------------------------------------------------------------------------
-- Delivery: a packet that comes in time to an idle receiver
-----------------------------------------------------------------------------------------

/-- Payload bytes in time fill the announced size. Witness: induction over the bytes still
missing; only the last of them moves on to the checksum.
-/
theorem Framing.receiver_payload (framing : Framing) {size : Nat}
    (read : List UInt8) (byte : UInt8) (rest : List UInt8)
    (missing : read.length + (rest.length + 1) = size)
    : framing.receiver.run (.payload size read) (inTime (byte :: rest))
        = .crc (read ++ byte :: rest)
      ∧ framing.receiver.outputs (.payload size read) (inTime (byte :: rest))
        = List.replicate (rest.length + 1) none := by
  induction rest generalizing read byte with
  | nil =>
      have complete : read.length + 1 = size := missing
      simp [Framing.advance, complete]
  | cons second rest ih =>
      have incomplete : read.length + 1 ≠ size := by
        simp only [List.length_cons] at missing
        omega
      have next := ih (read ++ [byte]) second (by
        simp only [List.length_append, List.length_cons, List.length_nil] at missing ⊢
        omega)
      rw [inTime_cons, Machine.run_cons, Machine.outputs_cons, receiver_inTime]
      simp only [Framing.advance, if_neg incomplete]
      refine ⟨by simpa only [List.append_assoc, List.singleton_append] using next.1, ?_⟩
      rw [next.2]
      rfl

/-- The body of a packet in time brings an idle receiver to its checksum, in silence. -/
theorem Framing.receiver_body (framing : Framing) {payload : List UInt8}
    (short : payload.length < 256)
    : framing.receiver.run .idle (inTime (framing.body payload)) = .crc payload
      ∧ framing.receiver.outputs .idle (inTime (framing.body payload))
        = List.replicate (payload.length + 3) none := by
  cases payload with
  | nil => simp [Framing.body, Framing.advance, Progress.ofLength]
  | cons byte rest =>
      have size : (UInt8.ofNat (rest.length + 1)).toNat = rest.length + 1 :=
        UInt8.toNat_ofNat_of_lt' short
      have nonzero : UInt8.ofNat (rest.length + 1) ≠ 0 := by
        intro zero
        rw [zero] at size
        cases size
      have filled := framing.receiver_payload [] byte rest (Nat.zero_add (rest.length + 1))
      simp only [Framing.body, List.cons_append, List.nil_append, List.length_cons,
        inTime_cons framing.lead, inTime_cons framing.check,
        inTime_cons (UInt8.ofNat (rest.length + 1)), Machine.run_cons,
        Machine.outputs_cons, receiver_inTime, Framing.advance, if_true, Progress.ofLength,
        if_neg nonzero, size]
      refine ⟨filled.1, ?_⟩
      rw [filled.2]
      rfl

/-- A packet in time is delivered to an idle receiver at its last byte, and at no other;
the receiver is idle again.
-/
theorem Framing.receiver_packet (framing : Framing) {payload : List UInt8}
    (short : payload.length < 256)
    : framing.receiver.run .idle (inTime (framing.packet payload)) = .idle
      ∧ framing.receiver.outputs .idle (inTime (framing.packet payload))
        = List.replicate (payload.length + 3) none ++ [some payload] := by
  obtain ⟨arrived, silent⟩ := framing.receiver_body short
  simp only [Framing.packet, inTime_append, Machine.run_append, Machine.outputs_append,
    arrived, silent]
  simp [Framing.advance]

/-- Bytes other than the leading one leave an idle receiver idle, in silence. -/
theorem Framing.receiver_filler (framing : Framing) {receptions : List Reception}
    (filler : ∀ reception ∈ receptions, reception.byte ≠ framing.lead)
    : framing.receiver.run .idle receptions = .idle
      ∧ framing.receiver.outputs .idle receptions
        = List.replicate receptions.length none := by
  induction receptions with
  | nil => exact ⟨rfl, rfl⟩
  | cons reception rest ih =>
      have later := ih (fun other member => filler other (by simp [member]))
      have ignored : framing.advance .idle reception.byte = (.idle, none) := by
        simp [Framing.advance, filler reception (by simp)]
      rw [Machine.run_cons, Machine.outputs_cons, receiver_idle, ignored]
      exact ⟨later.1, by rw [later.2]; rfl⟩

/-- A payload being read is short of its size, which fits in one byte. -/
def Progress.Valid : Progress → Prop
  | .payload size read => read.length < size ∧ size < 256
  | _ => True

/-- The most bytes a receiver can still read before it is idle. -/
def Progress.remaining : Progress → Nat
  | .idle => 0
  | .lead => 258
  | .check => 257
  | .payload size read => size - read.length + 1
  | .crc _ => 1

/-- A valid progress is at most a whole packet away from its end. -/
theorem Progress.Valid.remaining_le {progress : Progress} (valid : progress.Valid)
    : progress.remaining ≤ 258 := by
  cases progress with
  | payload size read =>
      have bound := valid.2
      simp only [Progress.remaining]
      omega
  | _ => simp [Progress.remaining]

/-- The length byte announces at most 255 payload bytes and a checksum. -/
theorem Progress.ofLength_valid (length : UInt8)
    : (Progress.ofLength length).Valid ∧ (Progress.ofLength length).remaining < 257 := by
  have bound := length.toNat_lt
  unfold Progress.ofLength
  by_cases empty : length = 0
  · simp [empty, Progress.Valid, Progress.remaining]
  · have positive : length.toNat ≠ 0 := fun zero => empty (UInt8.toNat_inj.mp zero)
    rw [if_neg empty]
    simp only [Progress.Valid, Progress.remaining, List.length_nil]
    omega

/-- Each byte in a packet brings its end closer, in time or not.
Witness: one case for each progress; a late byte ends the packet at once.
-/
theorem Framing.receiver_remaining (framing : Framing) {progress : Progress}
    (valid : progress.Valid) (reception : Reception)
    : (framing.receiver.step progress reception).1.Valid
      ∧ (progress ≠ .idle
        → (framing.receiver.step progress reception).1.remaining < progress.remaining) := by
  rcases framing.receiver_cases progress reception with ⟨busy, dropped⟩ | read
  · rw [dropped]
    refine ⟨trivial, fun _ => ?_⟩
    cases progress with
    | idle => exact absurd rfl busy
    | _ => simp [Progress.remaining]
  · rw [read]
    cases progress with
    | idle =>
        refine ⟨?_, fun busy => absurd rfl busy⟩
        simp only [Framing.advance]
        split <;> trivial
    | lead =>
        have announced := Progress.ofLength_valid reception.byte
        simp only [Framing.advance]
        split
        · exact ⟨trivial, fun _ => by simp [Progress.remaining]⟩
        · split
          · exact ⟨announced.1, fun _ => Nat.lt_succ_of_lt announced.2⟩
          · exact ⟨trivial, fun _ => by simp [Progress.remaining]⟩
    | check =>
        have announced := Progress.ofLength_valid reception.byte
        exact ⟨announced.1, fun _ => announced.2⟩
    | payload size read =>
        obtain ⟨room, bound⟩ := valid
        simp only [Framing.advance]
        split
        · refine ⟨trivial, fun _ => ?_⟩
          simp only [Progress.remaining]
          omega
        · simp only [Progress.Valid, Progress.remaining, List.length_append,
            List.length_singleton]
          omega
    | crc payload => exact ⟨trivial, fun _ => by simp [Framing.advance, Progress.remaining]⟩

theorem Framing.receiver_valid (framing : Framing) {progress : Progress}
    (valid : progress.Valid) (receptions : List Reception)
    : (framing.receiver.run progress receptions).Valid :=
  framing.receiver.run_invariant Progress.Valid valid
    (fun _ reception current => (framing.receiver_remaining current reception).1) receptions

/-- Bytes read within a packet each shorten what remains of it, unless it ends among them.
Witness: induction over the bytes; the packet ends at the first that leaves idle.
-/
theorem Framing.receiver_shortens (framing : Framing) {progress : Progress}
    (valid : progress.Valid) (receptions : List Reception)
    : (∃ before after,
        receptions = before ++ after ∧ framing.receiver.run progress before = .idle)
      ∨ (framing.receiver.run progress receptions).remaining + receptions.length
        ≤ progress.remaining := by
  induction receptions generalizing progress with
  | nil => exact .inr (Nat.le_refl _)
  | cons reception rest ih =>
      by_cases still : progress = .idle
      · exact .inl ⟨[], reception :: rest, rfl, still⟩
      · obtain ⟨next, shorter⟩ := framing.receiver_remaining valid reception
        have bound := shorter still
        rcases ih next with ⟨before, after, rfl, ends⟩ | shortened
        · exact .inl ⟨reception :: before, after, rfl, ends⟩
        · refine .inr ?_
          rw [Machine.run_cons, List.length_cons]
          omega

/-- Bytes of which only the first may be the leading one end a packet being read and leave
the receiver idle, or each shorten what remains of it.
Witness: whatever follows the end of the packet is filler to an idle receiver.
-/
theorem Framing.receiver_settles (framing : Framing) {progress : Progress}
    (valid : progress.Valid) (busy : progress ≠ .idle) {receptions : List Reception}
    (filler : ∀ reception ∈ receptions.tail, reception.byte ≠ framing.lead)
    : framing.receiver.run progress receptions = .idle
      ∨ (framing.receiver.run progress receptions).remaining + receptions.length
        ≤ progress.remaining := by
  rcases framing.receiver_shortens valid receptions with
    ⟨before, after, rfl, ends⟩ | shortened
  · cases before with
    | nil => exact absurd ends busy
    | cons first before =>
        have unlocking : ∀ reception ∈ after, reception.byte ≠ framing.lead :=
          fun reception member => filler reception (by simp [member])
        rw [Machine.run_append, ends]
        exact .inl (framing.receiver_filler unlocking).1
  · exact .inr shortened

-----------------------------------------------------------------------------------------
-- The bytes a delivery takes
-----------------------------------------------------------------------------------------

/-- The fewest bytes that bring an idle receiver to a progress. -/
def Progress.taken : Progress → Nat
  | .idle => 0
  | .lead => 1
  | .check => 2
  | .payload _ read => read.length + 2
  | .crc stored => stored.length + 2

/-- The length byte is the second one at the earliest. -/
theorem Progress.ofLength_taken (length : UInt8) : (Progress.ofLength length).taken = 2 := by
  unfold Progress.ofLength
  split <;> rfl

/-- Each byte takes a packet at most one byte further, and a delivered payload has taken its
length and three more. Witness: one case for each progress.
-/
theorem Framing.receiver_taken (framing : Framing) (progress : Progress)
    (reception : Reception)
    : (framing.receiver.step progress reception).1.taken ≤ progress.taken + 1
      ∧ ∀ payload,
          (framing.receiver.step progress reception).2 = some payload
          → payload.length + 3 ≤ progress.taken + 1 := by
  constructor
  · rcases framing.receiver_cases progress reception with ⟨_, dropped⟩ | read
    · rw [dropped]
      exact Nat.zero_le _
    rw [read]
    cases progress with
    | idle =>
        simp only [Framing.advance]
        split <;> simp [Progress.taken]
    | lead =>
        simp only [Framing.advance]
        split
        · exact Nat.le_refl _
        · split
          · exact (Progress.ofLength_taken _).le
          · exact Nat.zero_le _
    | check =>
        have second := Progress.ofLength_taken reception.byte
        simp only [Framing.advance, second]
        decide
    | payload size read =>
        simp only [Framing.advance]
        split <;> simp [Progress.taken]
    | crc stored => exact Nat.zero_le _
  · intro payload delivered
    obtain ⟨rfl, _⟩ := Framing.receiver_delivers delivered
    exact Nat.le_refl _

/-- A run of some bytes takes a packet no further than their number. -/
theorem Framing.receiver_run_taken (framing : Framing) (progress : Progress)
    (receptions : List Reception)
    : (framing.receiver.run progress receptions).taken
      ≤ progress.taken + receptions.length := by
  induction receptions generalizing progress with
  | nil => exact Nat.le_refl _
  | cons reception rest ih =>
      have first := (framing.receiver_taken progress reception).1
      have later := ih (framing.receiver.step progress reception).1
      rw [Machine.run_cons, List.length_cons]
      omega

/-- A payload delivered at the last of some bytes, from an idle receiver, is at least three
bytes shorter than they are.
-/
theorem Framing.receiver_delivers_short (framing : Framing) {receptions : List Reception}
    {last : Reception} {payload : List UInt8}
    (delivered
      : (framing.receiver.step (framing.receiver.run .idle receptions) last).2
        = some payload)
    : payload.length + 3 ≤ receptions.length + 1 := by
  have taken := framing.receiver_run_taken .idle receptions
  have short := (framing.receiver_taken _ last).2 payload delivered
  rw [Progress.taken] at taken
  omega

end Cooboc.Foundations
