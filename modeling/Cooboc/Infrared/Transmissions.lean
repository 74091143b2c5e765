import Cooboc.Infrared.BiphaseCodes
import Cooboc.Infrared.Listening

/-! What is sent is reported: any sequence of codes that the senders of `IRremote.cpp` send, with a
pause behind each of them, is printed by the sketch, in order and each code once.
-/

namespace Cooboc.Infrared

open Cooboc.Foundations

/-- The codes that are sent, with the numbers of bits that their decoders expect. -/
inductive Transmission where
  | nec (data : BitVec 32)
  | sony (data : BitVec 32) (nbits : Nat)
  | rc5 (data : BitVec 32) (nbits : Nat)
  | rc6 (data : BitVec 32) (nbits : Nat)
  | panasonic (address : AvrUnsigned) (data : BitVec 32)
  | jvc (data : BitVec 32)
  | jvcRepeat (data : BitVec 32)

/-- The pulses of a code. -/
def Transmission.pulses : Transmission → List Pulse
  | .nec data => sendNEC data 32
  | .sony data nbits => sendSony data nbits
  | .rc5 data nbits => sendRC5 data nbits
  | .rc6 data nbits => sendRC6 data nbits
  | .panasonic address data => sendPanasonic address data
  | .jvc data => sendJVC data 16 false
  | .jvcRepeat data => sendJVC data 16 true

/-- The numbers of bits for which a decoder accepts the code: with fewer bits it is too short. -/
def Transmission.Valid : Transmission → Prop
  | .sony _ nbits => 12 ≤ nbits ∧ nbits ≤ 32
  | .rc5 _ nbits => 10 ≤ nbits ∧ nbits ≤ 32
  | .rc6 _ nbits => nbits ≤ 32
  | _ => True

/-- What the results say about a code. -/
def Transmission.Decoded (transmission : Transmission) (results : DecodeResults) : Prop :=
  match transmission with
  | .nec data => results.decodeType = .nec ∧ results.bits = 32 ∧ results.value = data
  | .sony data nbits =>
      results.decodeType = .sony ∧ results.bits = nbits
      ∧ results.value = BitVec.ofNat 32 (data.toNat % 2 ^ nbits)
  | .rc5 data nbits =>
      results.decodeType = .rc5 ∧ results.bits = nbits
      ∧ results.value = BitVec.ofNat 32 (data.toNat % 2 ^ nbits)
  | .rc6 data nbits =>
      results.decodeType = .rc6 ∧ results.bits = nbits
      ∧ results.value = BitVec.ofNat 32 (data.toNat % 2 ^ nbits)
  | .panasonic address data =>
      results.decodeType = .panasonic ∧ results.bits = 48 ∧ results.value = data
      ∧ results.panasonicAddress = address
  | .jvc data =>
      results.decodeType = .jvc ∧ results.bits = 16
      ∧ results.value = BitVec.ofNat 32 (data.toNat % 2 ^ 16)
  | .jvcRepeat _ => results.decodeType = .jvc ∧ results.bits = 0 ∧ results.value = repeatValue

/-- A code that has been recorded is decoded, whatever the results were before. -/
theorem decodes {transmission : Transmission} (valid : transmission.Valid) {irparams : IrParams}
    (recorded : irparams.Recorded transmission.pulses) (results : DecodeResults)
    : ∃ decoded,
        tryDecoders irparams results decoders = .ok decoded ∧ transmission.Decoded decoded := by
  cases transmission with
  | nec data => exact ⟨_, decodes_nec recorded results, rfl, rfl, rfl⟩
  | sony data nbits =>
      exact ⟨_, decodes_sony valid.1 valid.2 recorded results, rfl, rfl, rfl⟩
  | rc5 data nbits => exact ⟨_, decodes_rc5 valid.1 valid.2 recorded results, rfl, rfl, rfl⟩
  | rc6 data nbits => exact ⟨_, decodes_rc6 valid recorded results, rfl, rfl, rfl⟩
  | panasonic address data =>
      exact ⟨_, decodes_panasonic recorded results, rfl, rfl, rfl, rfl⟩
  | jvc data => exact ⟨_, decodes_jvc recorded results, rfl, rfl, rfl⟩
  | jvcRepeat data => exact ⟨_, decodes_jvc_repeat recorded results, rfl, rfl, rfl⟩

-----------------------------------------------------------------------------------------
-- The runs of the codes
-----------------------------------------------------------------------------------------

/-- Runs that the receiver tells apart and takes for one code: it starts and ends with a mark, no
space in it is taken for a gap, and the buffer holds it.
-/
structure Transmittable (sent : List Pulse) : Prop where
  first : ∃ us rest, (merge sent).dropLast = mark us :: rest
  last : ∃ before us, (merge sent).dropLast = before ++ [mark us]
  bounds : ∀ run ∈ (merge sent).dropLast, 200 ≤ run.2 ∧ (run.1 = .space → run.2 ≤ 5000)
  short : (merge sent).dropLast.length + 1 ≤ rawbufLength

/-- Runs that are separate alternate. -/
theorem separate_alternate {runs : List (Level × Nat)} (separate : Separate runs) {level : Level}
    (starts : ∀ run ∈ runs.head?, run.1 = level)
    : runs = alternate level (runs.map Prod.snd) := by
  induction runs generalizing level with
  | nil => rfl
  | cons run rest ih =>
      obtain rfl : run.1 = level := starts run rfl
      have later : rest = alternate run.1.other (rest.map Prod.snd) := by
        refine ih separate.of_cons (fun next member => ?_)
        obtain ⟨others, rfl⟩ := List.head?_eq_some_iff.mp member
        have unlike : run.1 ≠ next.1 := (List.isChain_cons_cons.mp separate).1
        revert unlike
        cases run.1 <;> cases next.1 <;> decide
      rw [List.map_cons, alternate, ← later]

/-- Each run that is seen is one that was sent. -/
theorem seen_sent {runs seen : List (Level × Nat)}
    (received
      : List.Forall₂ (fun run shown => shown.1 = run.1 ∧ run.1.Sees run.2 shown.2) runs seen)
    : ∀ shown ∈ seen, ∃ run ∈ runs, shown.1 = run.1 ∧ run.1.Sees run.2 shown.2 := by
  induction received with
  | nil => nofun
  | @cons run shown runs seen own _ ih =>
      refine List.forall_mem_cons.mpr ⟨⟨run, List.mem_cons_self, own⟩, fun other member => ?_⟩
      obtain ⟨sent, among, same⟩ := ih other member
      exact ⟨sent, List.mem_cons_of_mem _ among, same⟩

/-- The levels are seen as they were sent. -/
theorem seen_levels {runs seen : List (Level × Nat)}
    (received
      : List.Forall₂ (fun run shown => shown.1 = run.1 ∧ run.1.Sees run.2 shown.2) runs seen)
    : seen.map Prod.fst = runs.map Prod.fst := by
  induction received with
  | nil => rfl
  | cons own _ ih => rw [List.map_cons, List.map_cons, ih, own.1]

/-- What is seen of such runs. -/
theorem Transmittable.seen {sent : List Pulse} (transmittable : Transmittable sent)
    {seen : List (Level × Nat)} (received : Received sent seen)
    : seen = alternate .mark (seen.map Prod.snd)
      ∧ Audible .mark (seen.map Prod.snd)
      ∧ (seen.map Prod.snd).length + 1 ≤ rawbufLength
      ∧ (seen.map Prod.snd).length % 2 = 1 := by
  obtain ⟨us, rest, first⟩ := transmittable.first
  obtain ⟨before, last_us, last⟩ := transmittable.last
  have levels := seen_levels received
  have separate : Separate seen := by
    have kept := (List.isChain_map Prod.fst).mpr (separate_merge sent).dropLast
    rw [← levels] at kept
    exact (List.isChain_map Prod.fst).mp kept
  have starts : ∀ run ∈ seen.head?, run.1 = .mark := by
    intro run member
    obtain ⟨others, rfl⟩ := List.head?_eq_some_iff.mp member
    rw [first] at levels
    exact (List.cons.inj levels).1
  have alternates := separate_alternate separate starts
  have count := received.length_eq
  refine ⟨alternates, ?_, ?_, ?_⟩
  · rw [Audible, ← alternates]
    intro shown member
    obtain ⟨run, among, same, sees⟩ := seen_sent received shown member
    obtain ⟨long, small⟩ := transmittable.bounds run among
    have bounds := sees.bounds
    refine ⟨by omega, fun space => ?_⟩
    rw [← same, space] at sees
    have above := sees.space_bounds
    have below := small (same.symm.trans space)
    simp only [gapTicks, minimumGap, usecPerTick]
    omega
  · rw [List.length_map, ← count]
    exact transmittable.short
  · rw [alternates, last, List.map_append] at levels
    rcases List.eq_nil_or_concat (seen.map Prod.snd) with none_seen | ⟨widths, width, whole⟩
    · rw [none_seen] at levels
      exact absurd levels (by simp [alternate])
    · rw [List.concat_eq_append] at whole
      rw [whole, alternate_concat, List.map_append] at levels
      have marked := (List.append_inj' levels rfl).2
      by_contra even
      rw [whole, List.length_append, List.length_singleton] at even
      rw [if_neg (by omega)] at marked
      cases marked

theorem pulses_bounds {times : List (Nat × Nat)}
    (bounds : ∀ time ∈ times, 200 ≤ time.1 ∧ 200 ≤ time.2 ∧ time.2 ≤ 5000)
    : ∀ run ∈ pulses times, 200 ≤ run.2 ∧ (run.1 = .space → run.2 ≤ 5000) := by
  intro run member
  obtain ⟨time, among, own⟩ := List.mem_flatMap.mp member
  obtain ⟨marks, spaces, small⟩ := bounds time among
  simp only [List.mem_cons, List.not_mem_nil, or_false] at own
  rcases own with rfl | rfl
  · exact ⟨marks, nofun⟩
  · exact ⟨spaces, fun _ => small⟩

/-- Pulses of some hundred microseconds, of which the last space goes on with the gap. -/
theorem transmittable_pulses {times : List (Nat × Nat)} {final : Nat × Nat}
    (bounds : ∀ time ∈ times, 200 ≤ time.1 ∧ 200 ≤ time.2 ∧ time.2 ≤ 5000)
    (ends : 200 ≤ final.1) (short : times.length ≤ 49)
    : Transmittable (pulses (times ++ [final])) := by
  have runs : (merge (pulses (times ++ [final]))).dropLast = pulses times ++ [mark final.1] := by
    rw [merge_pulses, pulses_append]
    exact List.dropLast_append_of_ne_nil (List.cons_ne_nil _ _)
  refine ⟨?_, ⟨_, _, runs⟩, ?_, ?_⟩
  · rw [runs]
    cases times with
    | nil => exact ⟨_, _, rfl⟩
    | cons time rest => exact ⟨_, _, rfl⟩
  · rw [runs]
    intro run member
    rcases List.mem_append.mp member with among | last
    · exact pulses_bounds bounds run among
    · obtain rfl := List.mem_singleton.mp last
      exact ⟨ends, nofun⟩
  · rw [runs, List.length_append, pulses_length, List.length_singleton]
    simp only [rawbufLength]
    omega

theorem distanceTimes_bounds {bitMark oneSpace zeroSpace : Nat} (bits : List Bool)
    (marks : 200 ≤ bitMark) (ones : 200 ≤ oneSpace ∧ oneSpace ≤ 5000)
    (zeros : 200 ≤ zeroSpace ∧ zeroSpace ≤ 5000)
    : ∀ time ∈ distanceTimes bitMark oneSpace zeroSpace bits,
        200 ≤ time.1 ∧ 200 ≤ time.2 ∧ time.2 ≤ 5000 := by
  intro time member
  obtain ⟨bit, -, rfl⟩ := List.mem_map.mp member
  cases bit with
  | true => exact ⟨marks, ones⟩
  | false => exact ⟨marks, zeros⟩

/-- Cells behind a header; the last of their runs that comes before a space is a mark. -/
theorem transmittable_cells {sent header : List Pulse} {us t1 : Nat} {cell : Level × Nat}
    {cells : List (Level × Nat)} (fits : Fits (cell :: cells))
    (runs
      : (merge sent).dropLast
        = mark us :: header
          ++ (merge ((cell :: cells).flatMap halves ++ [(.space, 0)])).dropLast.map (scaled t1))
    (bounds : ∀ run ∈ mark us :: header, 200 ≤ run.2 ∧ (run.1 = .space → run.2 ≤ 5000))
    (long : 200 ≤ t1) (small : 3 * t1 ≤ 5000)
    (short : header.length + 2 * cells.length + 4 ≤ rawbufLength)
    : Transmittable sent := by
  obtain ⟨before, spaces, merged, head, widths, -⟩ := cells_runs fits
  have separate := separate_merge ((cell :: cells).flatMap halves ++ [(Level.space, 0)])
  have counted := merge_length ((cell :: cells).flatMap halves ++ [(Level.space, 0)])
  rw [merged] at separate counted
  rw [merged, List.dropLast_concat] at runs
  refine ⟨⟨us, _, runs⟩, ?_, ?_, ?_⟩
  · rcases List.eq_nil_or_concat before with empty | ⟨earlier, run, whole⟩
    · rw [empty] at head
      cases head
    · rw [List.concat_eq_append] at whole
      rw [whole, List.append_assoc] at separate
      have unlike : run.1 ≠ .space := (List.isChain_append_cons_cons.mp separate).2.1
      have marked : scaled t1 run = mark (t1 * run.2) := by
        obtain ⟨level, units⟩ := run
        cases level with
        | mark => rfl
        | space => exact absurd rfl unlike
      refine ⟨mark us :: header ++ earlier.map (scaled t1), t1 * run.2, ?_⟩
      rw [runs, whole, List.map_append, List.map_singleton, marked, List.append_assoc]
  · rw [runs]
    intro run member
    rcases List.mem_append.mp member with first | later
    · exact bounds run first
    · obtain ⟨own, among, rfl⟩ := List.mem_map.mp later
      obtain ⟨lower, upper⟩ := widths own among
      have least := Nat.mul_le_mul_left t1 lower
      have most := Nat.mul_le_mul_left t1 upper
      simp only [scaled]
      exact ⟨by omega, fun _ => by omega⟩
  · have halved (cells : List (Level × Nat))
        : (cells.flatMap halves).length = 2 * cells.length := by
      induction cells with
      | nil => rfl
      | cons cell rest ih =>
          rw [List.flatMap_cons, List.length_append, ih, List.length_cons]
          simp only [halves, List.length_cons, List.length_nil]
          ring
    rw [List.length_append, List.length_append, halved, List.length_singleton,
      List.length_singleton, List.length_cons] at counted
    rw [runs, List.length_append, List.length_map, List.length_cons]
    omega

/-- Each of the codes is one that the receiver can record. -/
theorem transmittable {transmission : Transmission} (valid : transmission.Valid)
    : Transmittable transmission.pulses := by
  cases transmission with
  | nec data =>
      refine @transmittable_pulses
        ((9000, 4500) :: distanceTimes 560 1600 560 (topBits data 32)) (560, 0) ?_ (by decide) ?_
      · exact List.forall_mem_cons.mpr
          ⟨by decide, distanceTimes_bounds _ (by decide) (by decide) (by decide)⟩
      · rw [List.length_cons, distanceTimes, List.length_map, topBits_length]
        decide
  | sony data nbits =>
      rcases List.eq_nil_or_concat (topBits (data <<< (32 - nbits)) nbits) with
        none_sent | ⟨bits, bit, whole⟩
      · have few := congrArg List.length none_sent
        rw [topBits_length, List.length_nil] at few
        have many := valid.1
        omega
      · rw [List.concat_eq_append] at whole
        have counted := congrArg List.length whole
        rw [topBits_length, List.length_append, List.length_singleton] at counted
        have pulses_sent : Transmission.pulses (.sony data nbits)
            = pulses ((2400, 600) :: bits.map (fun bit => (if bit then 1200 else 600, 600))
              ++ [(if bit then 1200 else 600, 600)]) := by
          rw [Transmission.pulses, sendSony, whole, List.map_append]
          rfl
        rw [pulses_sent]
        refine transmittable_pulses (List.forall_mem_cons.mpr ⟨by decide, ?_⟩) ?_ ?_
        · intro time member
          obtain ⟨bit, -, rfl⟩ := List.mem_map.mp member
          cases bit <;> decide
        · cases bit <;> decide
        · rw [List.length_cons, List.length_map]
          have few := valid.2
          omega
  | rc5 data nbits =>
      refine @transmittable_cells _ [] 889 889 _ _
        (fits_rc5 (topBits (data <<< (32 - nbits)) nbits)) (rc5_runs data nbits) ?_ (by decide)
        (by decide) ?_
      · exact List.forall_mem_singleton.mpr (by decide)
      · rw [rc5Cells, List.length_map, topBits_length, List.length_nil]
        have within := valid.2
        simp only [rawbufLength]
        omega
  | rc6 data nbits =>
      refine @transmittable_cells _ [space 889] 2666 444 _ _
        (fits_rc6 (topBits (data <<< (32 - nbits)) nbits)) (rc6_runs data nbits) ?_ (by decide)
        (by decide) ?_
      · exact List.forall_mem_cons.mpr
          ⟨by decide, List.forall_mem_singleton.mpr (by decide)⟩
      · rw [rc6Cells, List.length_map, List.length_zipIdx, topBits_length, List.length_singleton]
        have within : nbits ≤ 32 := valid
        simp only [rawbufLength]
        omega
  | panasonic address data =>
      refine @transmittable_pulses ((3502, 1750)
        :: distanceTimes 502 1244 400 (topBits address 16 ++ topBits data 32)) (502, 0) ?_
        (by decide) ?_
      · exact List.forall_mem_cons.mpr
          ⟨by decide, distanceTimes_bounds _ (by decide) (by decide) (by decide)⟩
      · rw [List.length_cons, distanceTimes, List.length_map, List.length_append, topBits_length,
          topBits_length]
  | jvc data =>
      refine @transmittable_pulses ((8000, 4000)
        :: distanceTimes 600 1600 550 (topBits (data <<< (32 - 16)) 16)) (600, 0) ?_
        (by decide) ?_
      · exact List.forall_mem_cons.mpr
          ⟨by decide, distanceTimes_bounds _ (by decide) (by decide) (by decide)⟩
      · rw [List.length_cons, distanceTimes, List.length_map, topBits_length]
        decide
  | jvcRepeat data =>
      refine @transmittable_pulses
        (distanceTimes 600 1600 550 (topBits (data <<< (32 - 16)) 16)) (600, 0) ?_ (by decide) ?_
      · exact distanceTimes_bounds _ (by decide) (by decide) (by decide)
      · rw [distanceTimes, List.length_map, topBits_length]
        decide

-----------------------------------------------------------------------------------------
-- What is reported
-----------------------------------------------------------------------------------------

/-- What happens while a code is sent: what is seen of it, and a gap that is long enough for the
decoders not to take the next code for a repeat.
-/
def Transmission.Heard (transmission : Transmission) (events : List Event) : Prop :=
  ∃ seen gap,
    Received transmission.pulses seen ∧ Infrared.Heard seen gap events
    ∧ 800 ≤ gap ∧ gap < 2 ^ 16

/-- A recording of a code. -/
def Transmission.RecordedAs (transmission : Transmission) (recording : Recording) : Prop :=
  800 ≤ recording.1.toNat
  ∧ ∃ seen, Received transmission.pulses seen ∧ recording.2 = seen.map Prod.snd

/-- The passes find what is sent. Witness: induction over the codes; behind each of them the line
is as it was in front of it.
-/
theorem transmissions_found {transmissions : List Transmission} {chunks : List (List Event)}
    (heard : List.Forall₂ Transmission.Heard transmissions chunks)
    (valid : ∀ transmission ∈ transmissions, transmission.Valid) {listening : Listening}
    {count : Nat} (waiting : listening.measurement = .waiting (BitVec.ofNat 16 count))
    (long : 800 ≤ count + 1) (few : count + 1 < 2 ^ 16)
    : List.Forall₂ Transmission.RecordedAs transmissions
        (listener.outputs listening chunks.flatten).reduceOption := by
  induction heard generalizing listening count with
  | nil => exact .nil
  | @cons transmission events transmissions chunks own _ ih =>
      obtain ⟨own_valid, others_valid⟩ := List.forall_mem_cons.mp valid
      obtain ⟨seen, gap, received, own_heard, gap_long, gap_few⟩ := own
      obtain ⟨alternates, audible, room, odd⟩ := (transmittable own_valid).seen received
      rw [alternates] at own_heard
      obtain ⟨found, reached⟩ := listens_code waiting own_heard
        (Nat.le_trans (by decide) long) few audible room odd
      have later := ih others_valid reached (by omega) (by omega)
      rw [List.flatten_cons, Machine.outputs_append, List.reduceOption_append, found]
      refine .cons ⟨?_, seen, received, rfl⟩ later
      rw [BitVec.toNat_ofNat, Nat.mod_eq_of_lt few]
      exact long

/-- A recording of a code is reported as that code. -/
theorem found_reported {transmission : Transmission} (valid : transmission.Valid)
    {recording : Recording} (recorded : transmission.RecordedAs recording)
    {report : Option Report} (found : Found report (some recording))
    : ∃ shown : Report, report = some shown ∧ transmission.Decoded shown.results := by
  obtain ⟨long, seen, received, widths⟩ := recorded
  obtain ⟨irparams, results, recording_same, own⟩ := found
  rw [widths] at recording_same own
  obtain ⟨gap, holds⟩ := recording_holds recording_same received
  have rawlen := rawlen_of_entries recording_same
  have held : irparams.Recorded transmission.pulses :=
    ⟨by rw [gap]; exact long, holds, by rw [rawlen, List.length_map, ← received.length_eq]⟩
  obtain ⟨decoded, accepted, same⟩ := decodes valid held results
  rw [accepted] at own
  exact ⟨_, own, same⟩

theorem all_reported {transmissions : List Transmission} {reports : List (Option Report)}
    {found : List (Option Recording)} (matched : List.Forall₂ Found reports found)
    (valid : ∀ transmission ∈ transmissions, transmission.Valid)
    (recorded : List.Forall₂ Transmission.RecordedAs transmissions found.reduceOption)
    : List.Forall₂ (fun transmission report => transmission.Decoded report.results)
        transmissions reports.reduceOption := by
  induction matched generalizing transmissions with
  | nil =>
      cases recorded
      exact .nil
  | @cons report recording reports found own _ ih =>
      cases recording with
      | none =>
          obtain rfl : report = none := own
          exact ih valid recorded
      | some recording =>
          rw [List.reduceOption_cons_of_some] at recorded
          cases recorded with
          | cons first others =>
              obtain ⟨own_valid, others_valid⟩ := List.forall_mem_cons.mp valid
              obtain ⟨shown, rfl, same⟩ := found_reported own_valid first own
              rw [List.reduceOption_cons_of_some]
              exact .cons same (ih others_valid others)

/-- What is sent is reported: each code once, in order, as what it was, wherever the passes come
between the interrupts, if there is one in the gap behind each code and no interrupt disturbs a
`resume`.
-/
theorem transmissions_reported {transmissions : List Transmission} {chunks : List (List Event)}
    (valid : ∀ transmission ∈ transmissions, transmission.Valid)
    (heard : List.Forall₂ Transmission.Heard transmissions chunks) {before : List Event}
    {quiet : Nat} (silent : samples before = List.replicate quiet .space) (long : 800 ≤ quiet)
    (few : quiet + 1 < 2 ^ 16) (irparams : IrParams) (started : irparams.timer = 0#16)
    (results : DecodeResults)
    (undisturbed
      : sketch.Always Sketch.Undisturbed (setup irparams results) (before ++ chunks.flatten))
    : List.Forall₂ (fun transmission report => transmission.Decoded report.results)
        transmissions
        (sketch.outputs (setup irparams results) (before ++ chunks.flatten)).reduceOption := by
  have matched : List.Forall₂ Found
      (sketch.outputs (setup irparams results) (before ++ chunks.flatten))
      (listener.outputs ⟨.waiting 0#16, false⟩ (before ++ chunks.flatten)) :=
    undisturbed.simulates sketch_listens (setup_listens started results)
  obtain ⟨reached, nothing⟩ := @listens_quiet ⟨.waiting 0#16, false⟩ 0 quiet before rfl silent
  rw [Nat.zero_add] at reached
  refine all_reported matched valid ?_
  have found := transmissions_found heard valid reached (by omega) few
  rwa [← List.nil_append (List.reduceOption _), ← nothing, ← List.reduceOption_append,
    ← Machine.outputs_append] at found

/-- The samples of a run that is seen as usual: a mark is 100 microseconds too long, and a space
as much too short.
-/
def usual (run : Pulse) : Level × Nat :=
  match run with
  | (.mark, us) => (.mark, (us + 100) / 50)
  | (.space, us) => (.space, (us - 100) / 50)

/-- A code that is seen as usual, with one pass in the gap behind it, which no interrupt divides.
-/
def usualEvents (transmission : Transmission) : List Event :=
  (expand ((merge transmission.pulses).dropLast.map usual)
    ++ List.replicate (gapTicks + 2) Level.space).map .tick
  ++ .loop :: .loop :: (List.replicate 700 Level.space).map .tick

theorem samples_ticks (line : List Level) : samples (line.map .tick) = line := by
  induction line with
  | nil => rfl
  | cons irdata rest ih => rw [List.map_cons, samples_tick, ih]

theorem usual_received {runs : List Pulse} (long : ∀ run ∈ runs, 200 ≤ run.2)
    : List.Forall₂ (fun run shown => shown.1 = run.1 ∧ run.1.Sees run.2 shown.2) runs
        (runs.map usual) := by
  refine List.forall₂_map_right_iff.mpr (List.forall₂_same.mpr (fun run member => ?_))
  have own := long run member
  obtain ⟨level, us⟩ := run
  dsimp only at own
  cases level with
  | mark =>
      refine ⟨rfl, us + 100, ⟨100, by decide, by decide, rfl⟩, ?_⟩
      simp only [usual, Sampled, usecPerTick]
      omega
  | space =>
      refine ⟨rfl, us - 100, ⟨100, by decide, by decide, Nat.sub_add_cancel (by omega)⟩, ?_⟩
      simp only [usual, Sampled, usecPerTick]
      omega

/-- Any code can be heard. -/
theorem usual_heard {transmission : Transmission} (valid : transmission.Valid)
    : transmission.Heard (usualEvents transmission) := by
  have received := usual_received
    (fun run member => ((transmittable valid).bounds run member).1)
  have passes (pause : List Event) : 2 ≤ (.loop :: .loop :: pause).count Event.loop := by
    rw [List.count_cons_self, List.count_cons_self]
    exact Nat.le_add_left 2 _
  exact ⟨_, _, received,
    ⟨_, _, 700, rfl, samples_ticks _, samples_ticks _, passes _, rfl⟩, by decide, by decide⟩

theorem usual_undivided (transmission : Transmission) : Undivided (usualEvents transmission) := by
  have gap := undivided_pass.append (undivided_ticks (List.replicate 700 Level.space))
  exact (undivided_ticks _).append gap

/-- A code of Sony and one of RC5. -/
def twoCodes : List Transmission := [.sony 0xa90#32 12, .rc5 0x175#32 11]

theorem twoCodes_valid : ∀ transmission ∈ twoCodes, transmission.Valid := by
  simp [twoCodes, Transmission.Valid]

theorem transmissions_reported_both
    : List.Forall₂ (fun transmission report => transmission.Decoded report.results) twoCodes
        (sketch.outputs (setup fresh.irparams fresh.results)
          ((List.replicate 900 Level.space).map .tick
            ++ (twoCodes.map usualEvents).flatten)).reduceOption := by
  have undivided : Undivided ((List.replicate 900 Level.space).map .tick
      ++ (twoCodes.map usualEvents).flatten) := by
    refine (undivided_ticks _).append (undivided_flatten ?_)
    exact List.forall_mem_map.mpr (fun transmission _ => usual_undivided transmission)
  exact transmissions_reported twoCodes_valid
    (List.forall₂_map_right_iff.mpr
      (List.forall₂_same.mpr (fun transmission member =>
        usual_heard (twoCodes_valid transmission member))))
    (samples_ticks _) (by decide) (by decide) fresh.irparams rfl fresh.results
    (undivided (setup fresh.irparams fresh.results) rfl).1

end Cooboc.Infrared
