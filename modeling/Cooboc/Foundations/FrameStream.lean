import Mathlib.Data.List.ReduceOption
import Cooboc.Foundations.Machine

/-! Frames in a stream of symbols: a leading symbol, a body whose first symbol fixes its
length, and two check symbols computed from the body. The receiver listens for the leading
symbol whenever it is in no frame, and again at a check symbol that does not match.
-/

namespace Cooboc.Foundations

/-- How many of some sizes, one behind another, are within a length. -/
def wholeCount (length : Nat) : List Nat → Nat
  | [] => 0
  | size :: rest => if size ≤ length then wholeCount (length - size) rest + 1 else 0

/-- A frame format. -/
structure FrameFormat (α : Type*) where
  lead : α
  /-- How many symbols follow the first one of a body. -/
  size : α → Nat
  size_pos : ∀ first, 0 < size first
  check : List α → α × α

namespace FrameFormat

variable {α : Type*}

/-- A body has the length that its first symbol fixes. -/
structure Body (format : FrameFormat α) where
  first : α
  rest : List α
  sized : rest.length = format.size first

variable {format : FrameFormat α}

def Body.symbols (body : format.Body) : List α := body.first :: body.rest

/-- The symbols of a frame. -/
def Body.frame (body : format.Body) : List α :=
  format.lead :: body.symbols
    ++ [(format.check body.symbols).1, (format.check body.symbols).2]

/-- Bodies with the same symbols are the same. -/
theorem Body.symbols_inj {body other : format.Body} (same : body.symbols = other.symbols)
    : body = other := by
  cases body
  cases other
  simp only [symbols, List.cons.injEq] at same
  obtain ⟨rfl, rfl⟩ := same
  rfl

theorem Body.symbols_length (body : format.Body)
    : body.symbols.length = format.size body.first + 1 := by
  rw [symbols, List.length_cons, body.sized]

-----------------------------------------------------------------------------------------
-- The receiver
-----------------------------------------------------------------------------------------

/-- What a receiver has read of the frame it is in. -/
inductive Progress (format : FrameFormat α) where
  | idle
  | led
  | reading (first : α) (read : List α) (short : read.length < format.size first)
  | check (body : format.Body)
  | last (body : format.Body)

/-- The symbols of the frame being read. -/
def Progress.held : format.Progress → List α
  | .idle => []
  | .led => [format.lead]
  | .reading first read _ => format.lead :: first :: read
  | .check body => format.lead :: body.symbols
  | .last body => format.lead :: body.symbols ++ [(format.check body.symbols).1]

variable [DecidableEq α]

/-- Outside of a frame only the leading symbol counts. -/
def listen (format : FrameFormat α) (symbol : α) : format.Progress :=
  if symbol = format.lead then .led else .idle

/-- One symbol: the next progress, and the body of a frame that this symbol completes. -/
def advance (format : FrameFormat α)
    : format.Progress → α → format.Progress × Option format.Body
  | .idle, symbol => (format.listen symbol, none)
  | .led, symbol => (.reading symbol [] (format.size_pos symbol), none)
  | .reading first read short, symbol =>
      if full : read.length + 1 = format.size first then
        (.check ⟨first, read ++ [symbol], by simpa using full⟩, none)
      else
        (.reading first (read ++ [symbol])
            (by
              rw [List.length_append, List.length_singleton]
              omega),
          none)
  | .check body, symbol =>
      if symbol = (format.check body.symbols).1 then
        (.last body, none)
      else
        (format.listen symbol, none)
  | .last body, symbol =>
      if symbol = (format.check body.symbols).2 then
        (.idle, some body)
      else
        (format.listen symbol, none)

def receiver (format : FrameFormat α) : Machine format.Progress α (Option format.Body) where
  step := format.advance

/-- The bodies that a run delivers, in order. -/
def received (format : FrameFormat α) (progress : format.Progress) (symbols : List α)
    : List format.Body :=
  (format.receiver.outputs progress symbols).reduceOption

@[simp] theorem received_nil (progress : format.Progress)
    : format.received progress [] = [] :=
  rfl

theorem received_cons (progress : format.Progress) (symbol : α) (rest : List α)
    : format.received progress (symbol :: rest)
      = (format.advance progress symbol).2.toList
        ++ format.received (format.advance progress symbol).1 rest := by
  rw [received, Machine.outputs_cons]
  change List.reduceOption ((format.advance progress symbol).2 :: _) = _
  cases (format.advance progress symbol).2 <;> rfl

theorem received_append (progress : format.Progress) (before after : List α)
    : format.received progress (before ++ after)
      = format.received progress before
        ++ format.received (format.receiver.run progress before) after := by
  rw [received, Machine.outputs_append, List.reduceOption_append]
  rfl

theorem run_cons (progress : format.Progress) (symbol : α) (rest : List α)
    : format.receiver.run progress (symbol :: rest)
      = format.receiver.run (format.advance progress symbol).1 rest :=
  rfl

/-- A progress after one symbol: the symbol is held behind the others, or it leaves the frame
being read, or it completes a frame.
-/
inductive Advanced (progress : format.Progress) (symbol : α)
    : format.Progress × Option format.Body → Prop where
  | held (next : format.Progress) (held : next.held = progress.held ++ [symbol])
    : Advanced progress symbol (next, none)
  | left : Advanced progress symbol (format.listen symbol, none)
  | complete (body : format.Body) (frame : progress.held ++ [symbol] = body.frame)
    : Advanced progress symbol (.idle, some body)

/-- Every symbol does one of the three. Witness: one case for each progress. -/
theorem advance_cases (progress : format.Progress) (symbol : α)
    : Advanced progress symbol (format.advance progress symbol) := by
  cases progress with
  | idle => exact .left
  | led => exact .held _ rfl
  | reading first read short =>
      by_cases full : read.length + 1 = format.size first
      · rw [advance, dif_pos full]
        exact .held _ rfl
      · rw [advance, dif_neg full]
        exact .held _ rfl
  | check body =>
      by_cases matched : symbol = (format.check body.symbols).1
      · rw [advance, if_pos matched, matched]
        exact .held _ rfl
      · rw [advance, if_neg matched]
        exact .left
  | last body =>
      by_cases matched : symbol = (format.check body.symbols).2
      · rw [advance, if_pos matched, matched]
        exact .complete body (by simp [Progress.held, Body.frame])
      · rw [advance, if_neg matched]
        exact .left

/-- A receiver that listens holds the leading symbol or nothing. -/
theorem listen_held (format : FrameFormat α) (symbol : α)
    : ∃ dropped, [symbol] = dropped ++ (format.listen symbol).held := by
  by_cases leading : symbol = format.lead
  · exact ⟨[], by simp [listen, leading, Progress.held]⟩
  · exact ⟨[symbol], by simp [listen, leading, Progress.held]⟩

-----------------------------------------------------------------------------------------
-- Streams of frames
-----------------------------------------------------------------------------------------

/-- A frame with the filler in front of it. -/
structure Piece (format : FrameFormat α) where
  filler : List α
  body : format.Body

omit [DecidableEq α] in
/-- The symbols of frames one behind another, each with its filler. -/
def stream (pieces : List format.Piece) : List α :=
  pieces.flatMap (fun piece => piece.filler ++ piece.body.frame)

omit [DecidableEq α] in
@[simp] theorem stream_nil : stream ([] : List format.Piece) = [] := rfl

omit [DecidableEq α] in
@[simp] theorem stream_cons (piece : format.Piece) (rest : List format.Piece)
    : stream (piece :: rest) = piece.filler ++ piece.body.frame ++ stream rest :=
  rfl

omit [DecidableEq α] in
@[simp] theorem stream_append (before after : List format.Piece)
    : stream (before ++ after) = stream before ++ stream after :=
  List.flatMap_append

/-- What is delivered, and what is held, accounts for the symbols read: they are the frames
of the delivered bodies, one behind another, and then the symbols held.
-/
structure Accounted (history : List α) (delivered : List format.Body)
    (progress : format.Progress)
    : Prop where
  split
    : ∃ pieces : List format.Piece, ∃ filler,
        pieces.map Piece.body = delivered
        ∧ history = stream pieces ++ filler ++ progress.held

/-- One symbol keeps the account. Witness: a symbol held extends what is held; one that
leaves the frame turns what is held into filler; one that completes a frame turns the filler
and the frame into a piece.
-/
theorem Accounted.advance {history : List α} {delivered : List format.Body}
    {progress : format.Progress} (accounted : Accounted history delivered progress)
    (symbol : α)
    : Accounted (history ++ [symbol])
        (delivered ++ (format.advance progress symbol).2.toList)
        (format.advance progress symbol).1 := by
  obtain ⟨pieces, filler, rfl, rfl⟩ := accounted.split
  have step := advance_cases progress symbol
  generalize format.advance progress symbol = result at step
  cases step with
  | held next held =>
      refine ⟨pieces, filler, by simp, ?_⟩
      rw [held, ← List.append_assoc]
  | left =>
      obtain ⟨dropped, own⟩ := format.listen_held symbol
      refine ⟨pieces, filler ++ progress.held ++ dropped, by simp, ?_⟩
      rw [own]
      simp only [List.append_assoc]
  | complete body frame =>
      refine ⟨pieces ++ [⟨filler, body⟩], [], by simp, ?_⟩
      rw [List.append_assoc, frame]
      simp [Progress.held]

/-- The account holds after every run. Witness: induction over the symbols from the last one.
-/
theorem accounted_run (symbols : List α)
    : Accounted symbols (format.received .idle symbols)
        (format.receiver.run .idle symbols) := by
  induction symbols using List.reverseRecOn with
  | nil => exact ⟨[], [], rfl, rfl⟩
  | append_singleton symbols symbol ih =>
      have next := ih.advance symbol
      rw [received_append, Machine.run_append, received_cons, received_nil, List.append_nil]
      exact next

/-- Whatever is read, the bodies delivered are those of frames that stand in it one behind
another, without overlap, in the order of delivery.
-/
theorem received_sound (symbols : List α)
    : ∃ pieces : List format.Piece, ∃ rest,
        symbols = stream pieces ++ rest
        ∧ format.received .idle symbols = pieces.map Piece.body := by
  have account : Accounted symbols (format.received .idle symbols) _ := accounted_run symbols
  obtain ⟨pieces, filler, delivered, history⟩ := account.split
  exact ⟨pieces, filler ++ (format.receiver.run .idle symbols).held,
    by rw [← List.append_assoc]; exact history, delivered.symm⟩

-----------------------------------------------------------------------------------------
-- Delivery
-----------------------------------------------------------------------------------------

/-- Symbols other than the leading one leave an idle receiver idle, in silence. -/
theorem receiver_filler {filler : List α} (quiet : format.lead ∉ filler)
    : format.receiver.run .idle filler = .idle ∧ format.received .idle filler = [] := by
  induction filler with
  | nil => exact ⟨rfl, rfl⟩
  | cons symbol rest ih =>
      obtain ⟨other, later⟩ := not_or.mp (fun member => quiet (List.mem_cons.mpr member))
      have ignored : format.advance .idle symbol = (.idle, none) := by
        rw [FrameFormat.advance, listen, if_neg (Ne.symm other)]
      rw [run_cons, received_cons, ignored]
      exact ih later

/-- The symbols of a body still missing complete it, in silence. Witness: induction over
them; only the last one moves on to the check symbols.
-/
theorem receiver_rest (body : format.Body) {read missing : List α}
    (short : read.length < format.size body.first) (whole : read ++ missing = body.rest)
    : format.receiver.run (.reading body.first read short) missing = .check body
      ∧ format.received (.reading body.first read short) missing = [] := by
  have total : read.length + missing.length = format.size body.first := by
    rw [← body.sized, ← whole, List.length_append]
  induction missing generalizing read with
  | nil => exact absurd short (by rw [← total]; exact Nat.lt_irrefl _)
  | cons symbol later ih =>
      rw [run_cons, received_cons]
      by_cases full : read.length + 1 = format.size body.first
      · rw [List.length_cons] at total
        obtain rfl : later = [] := List.length_eq_zero_iff.mp (by omega)
        rw [FrameFormat.advance, dif_pos full]
        refine ⟨?_, rfl⟩
        obtain ⟨first, rest, sized⟩ := body
        obtain rfl : read ++ [symbol] = rest := whole
        rfl
      · rw [FrameFormat.advance, dif_neg full]
        have longer : (read ++ [symbol]).length = read.length + 1 := List.length_append
        rw [List.length_cons] at total
        exact ih (by omega) (by rw [← whole, List.append_assoc]; rfl) (by omega)

/-- Behind the leading symbol a body is read in silence. -/
theorem receiver_body (body : format.Body)
    : format.receiver.run .led body.symbols = .check body
      ∧ format.received .led body.symbols = [] := by
  have none_read : ([] : List α).length < format.size body.first := format.size_pos body.first
  rw [Body.symbols, run_cons, received_cons]
  exact receiver_rest body none_read rfl

/-- Behind its leading symbol a frame is delivered, and the receiver is idle again. -/
theorem receiver_frame (body : format.Body)
    : format.receiver.run .led body.frame.tail = .idle
      ∧ format.received .led body.frame.tail = [body] := by
  obtain ⟨arrived, silent⟩ := receiver_body body
  rw [Body.frame, List.cons_append, List.tail_cons, Machine.run_append, received_append,
    arrived, silent]
  simp only [run_cons, received_cons, FrameFormat.advance, if_true]
  exact ⟨rfl, rfl⟩

theorem listen_lead : format.advance .idle format.lead = (.led, none) := by
  rw [FrameFormat.advance, listen, if_pos rfl]

/-- Filler free of leading symbols, and a frame: an idle receiver delivers the frame. -/
theorem receiver_piece {piece : format.Piece} (quiet : format.lead ∉ piece.filler)
    : format.receiver.run .idle (piece.filler ++ piece.body.frame) = .idle
      ∧ format.received .idle (piece.filler ++ piece.body.frame) = [piece.body] := by
  obtain ⟨still, silent⟩ := receiver_filler quiet
  have delivered := receiver_frame piece.body
  have opened : piece.body.frame = format.lead :: piece.body.frame.tail := rfl
  rw [Machine.run_append, received_append, still, silent, opened, run_cons, received_cons,
    listen_lead]
  exact delivered

/-- A stream with fillers free of leading symbols is delivered whole. Witness: induction over
its pieces, the receiver being idle in front of each.
-/
theorem receiver_stream {pieces : List format.Piece}
    (quiet : ∀ piece ∈ pieces, format.lead ∉ piece.filler)
    : format.receiver.run .idle (stream pieces) = .idle
      ∧ format.received .idle (stream pieces) = pieces.map Piece.body := by
  induction pieces with
  | nil => exact ⟨rfl, rfl⟩
  | cons piece rest ih =>
      obtain ⟨own, others⟩ := List.forall_mem_cons.mp quiet
      obtain ⟨arrived, delivered⟩ := receiver_piece own
      obtain ⟨finished, later⟩ := ih others
      rw [stream_cons, Machine.run_append, received_append, arrived, delivered, finished, later]
      exact ⟨rfl, rfl⟩

/-- What is read of a piece delivers nothing before the piece's last symbol. -/
theorem receiver_part {piece : format.Piece} (quiet : format.lead ∉ piece.filler)
    {part : List α} (initial : part <+: piece.filler ++ piece.body.frame)
    (short : part.length < (piece.filler ++ piece.body.frame).length)
    : format.received .idle part = [] := by
  let body := piece.body
  let opened := piece.filler ++ (format.lead :: body.symbols ++ [(format.check body.symbols).1])
  have whole : piece.filler ++ body.frame = opened ++ [(format.check body.symbols).2] := by
    simp [opened, Body.frame]
  have silent : format.received .idle opened = [] := by
    obtain ⟨still, nothing⟩ := receiver_filler quiet
    obtain ⟨arrived, unread⟩ := receiver_body body
    rw [received_append, still, nothing, List.cons_append, received_cons, listen_lead,
      received_append, arrived, unread]
    simp [received_cons, FrameFormat.advance]
  rw [whole] at initial short
  rw [List.length_append, List.length_singleton] at short
  obtain ⟨missing, split⟩ :=
    List.prefix_of_prefix_length_le initial (List.prefix_append opened _) (by omega)
  rw [← split, received_append] at silent
  exact (List.append_eq_nil_iff.mp silent).1

omit [DecidableEq α] in
/-- The length of a piece. -/
def Piece.length (piece : format.Piece) : Nat := (piece.filler ++ piece.body.frame).length

/-- Of an initial part of a stream the pieces that stand in it whole are delivered. Witness:
induction over the pieces; the part reaches behind the first piece, or it is in it.
-/
theorem received_initial {pieces : List format.Piece}
    (quiet : ∀ piece ∈ pieces, format.lead ∉ piece.filler) {symbols : List α}
    (initial : symbols <+: stream pieces)
    : format.received .idle symbols
      = (pieces.take (wholeCount symbols.length (pieces.map Piece.length))).map
          Piece.body := by
  induction pieces generalizing symbols with
  | nil =>
      obtain rfl := List.prefix_nil.mp initial
      rfl
  | cons piece rest ih =>
      obtain ⟨own, others⟩ := List.forall_mem_cons.mp quiet
      rw [stream_cons] at initial
      have first := List.prefix_append (piece.filler ++ piece.body.frame) (stream rest)
      rw [List.map_cons, wholeCount]
      by_cases whole : piece.length ≤ symbols.length
      · obtain ⟨later, rfl⟩ := List.prefix_of_prefix_length_le first initial whole
        obtain ⟨arrived, delivered⟩ := receiver_piece own
        have behind : (piece.filler ++ piece.body.frame ++ later).length - piece.length
            = later.length := by
          rw [List.length_append, Piece.length, Nat.add_sub_cancel_left]
        rw [if_pos whole, behind, List.take_succ_cons, List.map_cons, received_append, arrived,
          delivered, ih others ((List.prefix_append_right_inj _).mp initial)]
        rfl
      · have short := Nat.lt_of_not_le whole
        have part := List.prefix_of_prefix_length_le initial first short.le
        rw [if_neg whole, receiver_part own part short]
        rfl

/-- The symbol that follows a check symbol out of place completes no frame. -/
theorem advance_listen (symbol next : α)
    : (format.advance (format.listen symbol) next).2 = none := by
  by_cases leading : symbol = format.lead
  · rw [listen, if_pos leading]
    rfl
  · rw [listen, if_neg leading]
    rfl

/-- A body with other check symbols than its own is not delivered, nor anything else. -/
theorem received_damaged (body : format.Body) {first second : α}
    (damaged : (first, second) ≠ format.check body.symbols)
    : format.received .idle (format.lead :: body.symbols ++ [first, second]) = [] := by
  obtain ⟨arrived, silent⟩ := receiver_body body
  rw [List.cons_append, received_cons, listen_lead, received_append, arrived, silent]
  by_cases matched : first = (format.check body.symbols).1
  · have other : second ≠ (format.check body.symbols).2 :=
      fun same => damaged (Prod.ext matched same)
    simp [received_cons, FrameFormat.advance, matched, other]
  · have left : format.advance (.check body) first = (format.listen first, none) :=
      if_neg matched
    simp [received_cons, left, advance_listen]

-----------------------------------------------------------------------------------------
-- Resynchronisation
-----------------------------------------------------------------------------------------

/-- The most symbols a receiver can still read in the frame it is in, where no body is longer
than `bound` symbols and its first one.
-/
def Progress.remaining (bound : Nat) : format.Progress → Nat
  | .idle => 0
  | .led => bound + 3
  | .reading first read _ => format.size first - read.length + 2
  | .check _ => 2
  | .last _ => 1

omit [DecidableEq α] in
theorem Progress.remaining_le {bound : Nat} (bounded : ∀ first, format.size first ≤ bound)
    (progress : format.Progress)
    : progress.remaining bound ≤ bound + 3 := by
  cases progress with
  | reading first read short =>
      have fits := bounded first
      simp only [remaining]
      omega
  | _ => simp [remaining]

/-- Within a frame a symbol shortens what remains, or completes it, or leaves it to be
listened to. Witness: one case for each progress.
-/
theorem advance_remaining {bound : Nat} (bounded : ∀ first, format.size first ≤ bound)
    {progress : format.Progress} (busy : progress ≠ .idle) (symbol : α)
    : (format.advance progress symbol).1.remaining bound + 1 ≤ progress.remaining bound
      ∨ (format.advance progress symbol).1 = .idle
      ∨ (format.advance progress symbol).1 = format.listen symbol := by
  cases progress with
  | idle => exact absurd rfl busy
  | led =>
      have fits := bounded symbol
      simp only [FrameFormat.advance, Progress.remaining, List.length_nil]
      omega
  | reading first read short =>
      refine .inl ?_
      by_cases full : read.length + 1 = format.size first
      · rw [FrameFormat.advance, dif_pos full]
        simp only [Progress.remaining]
        omega
      · rw [FrameFormat.advance, dif_neg full]
        simp only [Progress.remaining, List.length_append, List.length_singleton]
        omega
  | check body =>
      by_cases matched : symbol = (format.check body.symbols).1
      · rw [FrameFormat.advance, if_pos matched]
        exact .inl (Nat.le_refl _)
      · rw [FrameFormat.advance, if_neg matched]
        exact .inr (.inr rfl)
  | last body =>
      by_cases matched : symbol = (format.check body.symbols).2
      · rw [FrameFormat.advance, if_pos matched]
        exact .inr (.inl rfl)
      · rw [FrameFormat.advance, if_neg matched]
        exact .inr (.inr rfl)

/-- Symbols other than the leading one end the frame being read, or each shorten what remains
of it. Witness: induction over them; whatever follows the end is filler.
-/
theorem receiver_quiet {bound : Nat} (bounded : ∀ first, format.size first ≤ bound)
    (progress : format.Progress) {symbols : List α} (quiet : format.lead ∉ symbols)
    : format.receiver.run progress symbols = .idle
      ∨ (format.receiver.run progress symbols).remaining bound + symbols.length
        ≤ progress.remaining bound := by
  induction symbols generalizing progress with
  | nil => exact .inr (Nat.le_refl _)
  | cons symbol rest ih =>
      obtain ⟨other, later⟩ := not_or.mp (fun member => quiet (List.mem_cons.mpr member))
      have ignored : format.listen symbol = .idle := by
        rw [listen, if_neg (Ne.symm other)]
      rw [run_cons]
      have settled (idle : (format.advance progress symbol).1 = .idle)
          : format.receiver.run (format.advance progress symbol).1 rest = .idle := by
        rw [idle]
        exact (receiver_filler later).1
      by_cases still : progress = .idle
      · exact .inl (settled (by rw [still]; exact ignored))
      · rcases advance_remaining bounded still symbol with shorter | idle | listens
        · rcases ih (format.advance progress symbol).1 later with idle | shortened
          · exact .inl idle
          · refine .inr ?_
            rw [List.length_cons]
            omega
        · exact .inl (settled idle)
        · exact .inl (settled (listens.trans ignored))

/-- A frame, with its filler, in which only the first symbol of the frame is the leading one.
-/
def Piece.Quiet (piece : format.Piece) : Prop :=
  format.lead ∉ piece.filler ∧ format.lead ∉ piece.body.frame.tail

/-- A quiet piece brings a receiver to rest, or shortens the frame it is in by the length of
the piece. Witness: at the leading symbol the receiver opens the frame, which it then reads
whole, or it goes on with the frame it is in.
-/
theorem receiver_settles {bound : Nat} (bounded : ∀ first, format.size first ≤ bound)
    (progress : format.Progress) {piece : format.Piece} (quiet : piece.Quiet)
    : format.receiver.run progress (piece.filler ++ piece.body.frame) = .idle
      ∨ (format.receiver.run progress (piece.filler ++ piece.body.frame)).remaining bound
          + (piece.filler ++ piece.body.frame).length
        ≤ progress.remaining bound := by
  have opened : piece.body.frame = format.lead :: piece.body.frame.tail := rfl
  rw [Machine.run_append, List.length_append, opened, run_cons, List.length_cons]
  have delivered (led : (format.advance (format.receiver.run progress piece.filler)
        format.lead).1 = format.listen format.lead)
      : format.receiver.run (format.advance (format.receiver.run progress piece.filler)
          format.lead).1 piece.body.frame.tail = .idle := by
    rw [led, listen, if_pos rfl]
    exact (receiver_frame piece.body).1
  rcases receiver_quiet bounded progress quiet.1 with idle | before
  · exact .inl (delivered (by rw [idle]; rfl))
  · generalize format.receiver.run progress piece.filler = busy at before delivered ⊢
    by_cases still : busy = .idle
    · exact .inl (delivered (by rw [still]; rfl))
    · rcases advance_remaining bounded still format.lead with shorter | idle | listens
      · rcases receiver_quiet bounded (format.advance busy format.lead).1 quiet.2 with
          idle | after
        · exact .inl idle
        · exact .inr (by omega)
      · rw [idle]
        exact .inl (receiver_filler quiet.2).1
      · exact .inl (delivered listens)

/-- A stream of quiet pieces at least as long as a frame brings every receiver to rest.
Witness: induction over the pieces; once the receiver rests it is idle behind each of them.
-/
theorem receiver_rests {bound : Nat} (bounded : ∀ first, format.size first ≤ bound)
    (progress : format.Progress) {pieces : List format.Piece}
    (quiet : ∀ piece ∈ pieces, piece.Quiet)
    (long : progress.remaining bound ≤ (stream pieces).length)
    : format.receiver.run progress (stream pieces) = .idle := by
  induction pieces generalizing progress with
  | nil =>
      cases progress with
      | idle => rfl
      | _ => exact absurd long (by simp [Progress.remaining])
  | cons piece rest ih =>
      obtain ⟨own, others⟩ := List.forall_mem_cons.mp quiet
      rw [stream_cons, Machine.run_append]
      rw [stream_cons, List.length_append] at long
      rcases receiver_settles bounded progress own with idle | shorter
      · rw [idle]
        exact (receiver_stream (fun piece member => (others piece member).1)).1
      · exact ih _ others (by omega)

end FrameFormat

end Cooboc.Foundations
