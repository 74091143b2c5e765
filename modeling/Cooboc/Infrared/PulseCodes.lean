import Cooboc.Infrared.Senders

/-! What the decoders make of the codes of NEC, Sony, Panasonic and JVC, in which a pulse stands
for a bit. A decoder is tried on the codes of the others as well, and has to reject them.
-/

namespace Cooboc.Infrared

open Cooboc.Foundations

/-- The buffer holds a code, behind a gap that no decoder takes for that of a repeat. -/
structure IrParams.Recorded (irparams : IrParams) (sent : List Pulse) : Prop where
  gap : 800 ≤ (irparams.rawbuf 0).toNat
  holds : Holds irparams.rawbuf 1 (merge sent).dropLast
  rawlen : irparams.rawlen = (merge sent).dropLast.length + 1

-----------------------------------------------------------------------------------------
-- The loops over pulses
-----------------------------------------------------------------------------------------

/-- The times of such a code tell its ones from its zeros. -/
structure DistanceCode (bitMark oneSpace zeroSpace : Nat) : Prop where
  marks : ∀ {entry}, Measured entry (mark bitMark) → matchMark entry bitMark = true
  ones : ∀ {entry}, Measured entry (space oneSpace) → matchSpace entry oneSpace = true
  zeros : ∀ {entry}, Measured entry (space zeroSpace) → matchSpace entry zeroSpace = true
  differ : ∀ {entry}, Measured entry (space zeroSpace) → matchSpace entry oneSpace = false

theorem necCode : DistanceCode 560 1600 560 where
  marks measured := match_mark measured (by decide) (by decide) (by decide)
  ones measured := match_space measured (by decide) (by decide) (by decide)
  zeros measured := match_space measured (by decide) (by decide) (by decide)
  differ measured := mismatch_space measured (.inl (by decide)) (by decide)

theorem panasonicCode : DistanceCode 502 1244 400 where
  marks measured := match_mark measured (by decide) (by decide) (by decide)
  ones measured := match_space measured (by decide) (by decide) (by decide)
  zeros measured := match_space measured (by decide) (by decide) (by decide)
  differ measured := mismatch_space measured (.inl (by decide)) (by decide)

theorem jvcCode : DistanceCode 600 1600 550 where
  marks measured := match_mark measured (by decide) (by decide) (by decide)
  ones measured := match_space measured (by decide) (by decide) (by decide)
  zeros measured := match_space measured (by decide) (by decide) (by decide)
  differ measured := mismatch_space measured (.inl (by decide)) (by decide)

theorem pulses_cons (time : Nat × Nat) (rest : List (Nat × Nat))
    : pulses (time :: rest) = mark time.1 :: space time.2 :: pulses rest := rfl

theorem pulses_length (times : List (Nat × Nat)) : (pulses times).length = 2 * times.length := by
  induction times with
  | nil => rfl
  | cons time rest ih =>
      rw [pulses_cons, List.length_cons, List.length_cons, List.length_cons, ih]
      ring

/-- The loop reads the bits that were sent. Witness: induction over them. -/
theorem DistanceCode.distanceBits {bitMark oneSpace zeroSpace w : Nat}
    (code : DistanceCode bitMark oneSpace zeroSpace) {rawbuf : Nat → AvrUnsigned} {offset : Nat}
    {bits : List Bool}
    (holds : Holds rawbuf offset (pulses (distanceTimes bitMark oneSpace zeroSpace bits)))
    (data : BitVec w)
    : distanceBits rawbuf bitMark oneSpace zeroSpace bits.length offset data
      = some (shiftIn data bits) := by
  induction bits generalizing offset data with
  | nil => rfl
  | cons bit rest ih =>
      obtain ⟨first, second, later⟩ := holds
      rw [List.length_cons, Infrared.distanceBits, code.marks first, if_pos rfl]
      cases bit with
      | true =>
          rw [code.ones second, if_pos rfl, ih later]
          rfl
      | false =>
          rw [code.differ second, if_neg Bool.false_ne_true, code.zeros second, if_pos rfl,
            ih later]
          rfl

/-- The pulses of a code that starts with a header and ends with a mark. -/
theorem Holds.code {rawbuf : Nat → AvrUnsigned} {header final : Nat × Nat}
    {times : List (Nat × Nat)}
    (holds : Holds rawbuf 1 (merge (pulses (header :: times ++ [final]))).dropLast)
    : Measured (rawbuf 1) (mark header.1)
      ∧ Measured (rawbuf 2) (space header.2)
      ∧ Holds rawbuf 3 (pulses times)
      ∧ Measured (rawbuf (3 + 2 * times.length)) (mark final.1) := by
  have runs : (merge (pulses (header :: times ++ [final]))).dropLast
      = mark header.1 :: space header.2 :: (pulses times ++ [mark final.1]) := by
    rw [merge_pulses, List.cons_append, pulses_cons, pulses_append]
    change ((mark header.1 :: space header.2 :: pulses times)
      ++ [mark final.1, space final.2]).dropLast = _
    rw [List.dropLast_append_of_ne_nil (List.cons_ne_nil _ _)]
    rfl
  rw [runs] at holds
  obtain ⟨first, second, later⟩ := holds
  obtain ⟨inner, last, -⟩ := holds_append.mp later
  rw [pulses_length] at last
  exact ⟨first, second, inner, last⟩

/-- The number of entries of such a code. -/
theorem code_length (header final : Nat × Nat) (times : List (Nat × Nat))
    : (merge (pulses (header :: times ++ [final]))).dropLast.length = 2 * times.length + 3 := by
  rw [merge_pulses, List.length_dropLast, pulses_length, List.length_append, List.length_cons]
  rfl

/-- The loop of Sony reads the bits that were sent. -/
theorem widthBits_holds {rawbuf : Nat → AvrUnsigned} {offset : Nat} {bits : List Bool}
    (holds
      : Holds rawbuf offset
          (bits.flatMap (fun bit => [space 600, mark (if bit then 1200 else 600)])))
    (data : BitVec 32)
    : widthBits rawbuf 600 1200 600 bits.length offset data
      = some (offset + 2 * bits.length, shiftIn data bits) := by
  induction bits generalizing offset data with
  | nil => rfl
  | cons bit rest ih =>
      obtain ⟨first, second, later⟩ := holds
      have apart : matchSpace (rawbuf offset) 600 = true :=
        match_space first (by decide) (by decide) (by decide)
      have next : offset + 2 + 2 * rest.length = offset + 2 * (rest.length + 1) := by ring
      rw [List.length_cons, widthBits, apart, if_pos rfl, ← next]
      cases bit with
      | true =>
          have one : matchMark (rawbuf (offset + 1)) 1200 = true :=
            match_mark second (by decide) (by decide) (by decide)
          rw [one, if_pos rfl, ih later]
          rfl
      | false =>
          have differ : matchMark (rawbuf (offset + 1)) 1200 = false :=
            mismatch_mark second (.inl (by decide)) (by decide)
          have nought : matchMark (rawbuf (offset + 1)) 600 = true :=
            match_mark second (by decide) (by decide) (by decide)
          rw [differ, if_neg Bool.false_ne_true, nought, if_pos rfl, ih later]
          rfl

/-- The last space of a code of Sony goes on with the gap. -/
theorem sony_runs (bits : List Bool)
    : (merge (pulses
        ((2400, 600) :: bits.map (fun bit => (if bit then 1200 else 600, 600))))).dropLast
      = mark 2400
        :: bits.flatMap (fun bit => [space 600, mark (if bit then 1200 else 600)]) := by
  have tail : (space 600
        :: pulses (bits.map (fun bit => (if bit then 1200 else 600, 600)))).dropLast
      = bits.flatMap (fun bit => [space 600, mark (if bit then 1200 else 600)]) := by
    induction bits with
    | nil => rfl
    | cons bit rest ih =>
        rw [List.map_cons, pulses_cons, List.flatMap_cons, ← ih]
        rfl
  rw [merge_pulses, ← tail]
  rfl

-----------------------------------------------------------------------------------------
-- Rejections
-----------------------------------------------------------------------------------------

section Rejections

variable {irparams : IrParams} (results : DecodeResults)

theorem rejects_nec (header : matchMark (irparams.rawbuf 1) 9000 = false)
    : decodeNEC irparams results = .error results := by
  simp [decodeNEC, header]

theorem rejects_nec_short (repeated : irparams.rawlen ≠ 4) (short : irparams.rawlen < 68)
    : decodeNEC irparams results = .error results := by
  simp [decodeNEC, repeated, short]

theorem rejects_sony (gap : 500 ≤ (irparams.rawbuf 0).toNat)
    (header : matchMark (irparams.rawbuf 1) 2400 = false)
    : decodeSony irparams results = .error results := by
  simp [decodeSony, header, Nat.not_lt.mpr gap]

theorem rejects_sanyo (gap : 800 ≤ (irparams.rawbuf 0).toNat)
    (header
      : matchMark (irparams.rawbuf 1) 3500 = false ∨ matchMark (irparams.rawbuf 2) 3500 = false)
    : decodeSanyo irparams results = .error results := by
  rcases header with first | second
  · simp [decodeSanyo, first, Nat.not_lt.mpr gap]
  · simp [decodeSanyo, second, Nat.not_lt.mpr gap]

theorem rejects_mitsubishi (header : matchMark (irparams.rawbuf 1) 350 = false)
    : decodeMitsubishi irparams results = .error results := by
  simp [decodeMitsubishi, header]

theorem rejects_rc5 (first : (getRClevel irparams ⟨1, 0⟩ 889).1 ≠ some .mark)
    : decodeRC5 irparams results = .error results := by
  simp [decodeRC5, first]

/-- A first mark of a width that is none of RC5. -/
theorem rejects_rc5_width (one : matchTicks (irparams.rawbuf 1) 989 = false)
    (two : matchTicks (irparams.rawbuf 1) 1878 = false)
    (three : matchTicks (irparams.rawbuf 1) 2767 = false)
    : decodeRC5 irparams results = .error results := by
  refine rejects_rc5 results ?_
  simp only [getRClevel]
  split
  case isTrue => nofun
  case isFalse => simp [markExcess, one, two, three]

theorem rejects_rc6 (header : matchMark (irparams.rawbuf 1) 2666 = false)
    : decodeRC6 irparams results = .error results := by
  simp [decodeRC6, header]

theorem rejects_panasonic (header : matchMark (irparams.rawbuf 1) 3502 = false)
    : decodePanasonic irparams results = .error results := by
  simp [decodePanasonic, header]

end Rejections

theorem tryDecoders_error {irparams : IrParams} {results left : DecodeResults}
    {decoder : IrParams → DecodeResults → Attempt}
    {rest : List (IrParams → DecodeResults → Attempt)}
    (rejects : decoder irparams results = .error left)
    : tryDecoders irparams results (decoder :: rest) = tryDecoders irparams left rest := by
  rw [tryDecoders, rejects]

theorem tryDecoders_ok {irparams : IrParams} {results decoded : DecodeResults}
    {decoder : IrParams → DecodeResults → Attempt}
    {rest : List (IrParams → DecodeResults → Attempt)}
    (accepts : decoder irparams results = .ok decoded)
    : tryDecoders irparams results (decoder :: rest) = .ok decoded := by
  rw [tryDecoders, accepts]

/-- Behind a gap, a first mark out of the reach of Sony, Mitsubishi and RC6 leaves a recording to
the decoders behind them, if it is none of NEC, Sanyo and RC5 either.
-/
theorem tryDecoders_foreign {irparams : IrParams} (results : DecodeResults) {us : Nat}
    (gap : 800 ≤ (irparams.rawbuf 0).toNat) (header : Measured (irparams.rawbuf 1) (mark us))
    (few : us ≤ 32000)
    (apart
      : ∀ desired ∈ [2400, 350, 2666],
          us + 200 ≤ 50 * ticksLow (desired + markExcess)
          ∨ 50 * ticksHigh (desired + markExcess) ≤ us)
    (nec : decodeNEC irparams results = .error results)
    (sanyo
      : matchMark (irparams.rawbuf 1) 3500 = false ∨ matchMark (irparams.rawbuf 2) 3500 = false)
    (rc5 : decodeRC5 irparams results = .error results)
    : tryDecoders irparams results decoders
      = tryDecoders irparams results [decodePanasonic, decodeJVC, decodeHash] := by
  have foreign (desired : Int) (among : desired ∈ [2400, 350, 2666])
      : matchMark (irparams.rawbuf 1) desired = false :=
    mismatch_mark header (apart desired among) few
  have sony := rejects_sony results (Nat.le_trans (by decide) gap) (foreign 2400 (by decide))
  have mitsubishi := rejects_mitsubishi results (foreign 350 (by decide))
  have rc6 := rejects_rc6 results (foreign 2666 (by decide))
  rw [decoders, tryDecoders_error nec, tryDecoders_error sony,
    tryDecoders_error (rejects_sanyo results gap sanyo), tryDecoders_error mitsubishi,
    tryDecoders_error rc5, tryDecoders_error rc6]

-----------------------------------------------------------------------------------------
-- The codes
-----------------------------------------------------------------------------------------

/-- A code of NEC is decoded. -/
theorem decodes_nec {irparams : IrParams} {data : BitVec 32}
    (recorded : irparams.Recorded (sendNEC data 32)) (results : DecodeResults)
    : tryDecoders irparams results decoders
      = .ok { results with bits := 32, value := data, decodeType := .nec } := by
  obtain ⟨header, gap, inner, -⟩ := recorded.holds.code
  have loop : distanceBits irparams.rawbuf 560 1600 560 32 3 0#32 = some data := by
    have bits := necCode.distanceBits inner 0#32
    rw [topBits_length, shiftIn_topBits] at bits
    exact bits
  have rawlen : irparams.rawlen = 68 := by
    rw [recorded.rawlen, sendNEC, code_length, distanceTimes, List.length_map, topBits_length]
  have first : matchMark (irparams.rawbuf 1) 9000 = true :=
    match_mark header (by decide) (by decide) (by decide)
  have second : matchSpace (irparams.rawbuf 2) 4500 = true :=
    match_space gap (by decide) (by decide) (by decide)
  refine tryDecoders_ok ?_
  simp [decodeNEC, first, second, rawlen, loop]

/-- A code of Sony is decoded. -/
theorem decodes_sony {irparams : IrParams} {data : BitVec 32} {nbits : Nat} (enough : 12 ≤ nbits)
    (fits : nbits ≤ 32) (recorded : irparams.Recorded (sendSony data nbits))
    (results : DecodeResults)
    : tryDecoders irparams results decoders
      = .ok
          { results with
            bits := nbits
            value := BitVec.ofNat 32 (data.toNat % 2 ^ nbits)
            decodeType := .sony } := by
  have holds := recorded.holds
  have counted := recorded.rawlen
  rw [sendSony, sony_runs] at holds counted
  obtain ⟨header, inner⟩ := holds
  have rawlen : irparams.rawlen = 2 * nbits + 2 := by
    have pairs (bits : List Bool)
        : (bits.flatMap (fun bit => [space 600, mark (if bit then 1200 else 600)])).length
          = 2 * bits.length := by
      induction bits with
      | nil => rfl
      | cons bit rest ih =>
          rw [List.flatMap_cons, List.length_append, ih, List.length_cons, List.length_cons]
          simp only [List.length_cons, List.length_nil]
          ring
    rw [counted, List.length_cons, pairs, topBits_length]
  have loop : widthBits irparams.rawbuf 600 1200 600 (pairsLeft irparams.rawlen 2) 2 0#32
      = some (2 + 2 * nbits, BitVec.ofNat 32 (data.toNat % 2 ^ nbits)) := by
    have read := widthBits_holds inner 0#32
    have pairs : pairsLeft irparams.rawlen 2 = nbits := by
      rw [pairsLeft, rawlen]
      omega
    rw [topBits_length] at read
    rw [pairs, read]
    exact congrArg (fun word => some (2 + 2 * nbits, word)) (shiftIn_aligned data fits)
  have foreign : matchMark (irparams.rawbuf 1) 9000 = false :=
    mismatch_mark header (.inl (by decide)) (by decide)
  have own : matchMark (irparams.rawbuf 1) 2400 = true :=
    match_mark header (by decide) (by decide) (by decide)
  have gap : ¬(irparams.rawbuf 0).toNat < 500 := by
    have long := recorded.gap
    omega
  have long : ¬irparams.rawlen < 2 * 12 + 2 := by omega
  have count : (2 + 2 * nbits - 1) / 2 = nbits := by omega
  refine (tryDecoders_error (rejects_nec results foreign)).trans (tryDecoders_ok ?_)
  simp only [decodeSony, if_neg long, if_neg gap, own, loop, finishWidths, count]
  simp [Nat.not_lt.mpr enough]

theorem binary_word (word : BitVec 64) {high low : Nat} (fits : low < 2 ^ 32)
    (own : word = BitVec.ofNat 64 (high * 2 ^ 32 + low))
    : word.setWidth 32 = BitVec.ofNat 32 low
      ∧ (word >>> 32).setWidth 16 = BitVec.ofNat 16 high := by
  subst own
  constructor
  · refine BitVec.eq_of_toNat_eq ?_
    simp only [BitVec.toNat_setWidth, BitVec.toNat_ofNat]
    omega
  · refine BitVec.eq_of_toNat_eq ?_
    simp only [BitVec.toNat_setWidth, BitVec.toNat_ushiftRight, BitVec.toNat_ofNat,
      Nat.shiftRight_eq_div_pow]
    omega

/-- A code of Panasonic is decoded. It fills the buffer. -/
theorem decodes_panasonic {irparams : IrParams} {address : AvrUnsigned} {data : BitVec 32}
    (recorded : irparams.Recorded (sendPanasonic address data)) (results : DecodeResults)
    : tryDecoders irparams results decoders
      = .ok
          { results with
            bits := 48
            value := data
            panasonicAddress := address
            decodeType := .panasonic } := by
  obtain ⟨header, gap, inner, -⟩ := recorded.holds.code
  let bits := topBits address 16 ++ topBits data 32
  have spelled : shiftIn 0#64 bits = BitVec.ofNat 64 (address.toNat * 2 ^ 32 + data.toNat) := by
    rw [shiftIn_eq, binary_append, topBits_length, binary_topBits _ (Nat.le_refl _),
      binary_topBits _ (Nat.le_refl _)]
    simp
  have loop : distanceBits irparams.rawbuf 502 1244 400 48 3 0#64 = some (shiftIn 0#64 bits) := by
    have read := panasonicCode.distanceBits inner 0#64
    rw [List.length_append, topBits_length, topBits_length] at read
    exact read
  obtain ⟨low, high⟩ := binary_word _ data.isLt spelled
  rw [BitVec.ofNat_toNat, BitVec.setWidth_eq] at low high
  have own : matchMark (irparams.rawbuf 1) 3502 = true :=
    match_mark header (by decide) (by decide) (by decide)
  have second : matchMark (irparams.rawbuf 2) 1750 = true :=
    match_space gap (by decide) (by decide) (by decide)
  have nec := rejects_nec results
    (mismatch_mark header (.inl (by decide)) (by decide) : matchMark _ 9000 = false)
  have rc5 := rejects_rc5_width results
    (mismatch_mark header (.inr (by decide)) (by decide))
    (mismatch_mark header (.inr (by decide)) (by decide))
    (mismatch_mark header (.inr (by decide)) (by decide))
  rw [tryDecoders_foreign results recorded.gap header (by decide) (by decide) nec
    (.inr (mismatch_space gap (.inl (by decide)) (by decide))) rc5]
  refine tryDecoders_ok ?_
  simp only [decodePanasonic, own, second, loop, low, high]
  rfl

/-- A code of JVC is decoded. -/
theorem decodes_jvc {irparams : IrParams} {data : BitVec 32}
    (recorded : irparams.Recorded (sendJVC data 16 false)) (results : DecodeResults)
    : tryDecoders irparams results decoders
      = .ok
          { results with
            bits := 16
            value := BitVec.ofNat 32 (data.toNat % 2 ^ 16)
            decodeType := .jvc } := by
  have code : irparams.Recorded (pulses ((8000, 4000)
      :: distanceTimes 600 1600 550 (topBits (data <<< (32 - 16)) 16) ++ [(600, 0)])) :=
    recorded
  obtain ⟨header, gap, inner, final⟩ := code.holds.code
  rw [distanceTimes, List.length_map, topBits_length] at final
  have loop : distanceBits irparams.rawbuf 600 1600 550 16 3 0#32
      = some (BitVec.ofNat 32 (data.toNat % 2 ^ 16)) := by
    have read := jvcCode.distanceBits inner 0#32
    rw [topBits_length, shiftIn_aligned data (by decide : 16 ≤ 32)] at read
    exact read
  have rawlen : irparams.rawlen = 36 := by
    rw [code.rawlen, code_length, distanceTimes, List.length_map, topBits_length]
  have own : matchMark (irparams.rawbuf 1) 8000 = true :=
    match_mark header (by decide) (by decide) (by decide)
  have second : matchSpace (irparams.rawbuf 2) 4000 = true :=
    match_space gap (by decide) (by decide) (by decide)
  have stop : matchMark (irparams.rawbuf (3 + 2 * 16)) 600 = true :=
    match_mark final (by decide) (by decide) (by decide)
  have nec := @rejects_nec_short irparams results (by omega) (by omega)
  have rc5 := rejects_rc5_width results
    (mismatch_mark header (.inr (by decide)) (by decide))
    (mismatch_mark header (.inr (by decide)) (by decide))
    (mismatch_mark header (.inr (by decide)) (by decide))
  have panasonic := rejects_panasonic results
    (mismatch_mark header (.inr (by decide)) (by decide) : matchMark _ 3502 = false)
  rw [tryDecoders_foreign results recorded.gap header (by decide) (by decide) nec
    (.inl (mismatch_mark header (.inr (by decide)) (by decide))) rc5,
    tryDecoders_error panasonic]
  refine tryDecoders_ok ?_
  simp only [decodeJVC, own, second, stop, loop, rawlen]
  rfl

/-- In front of a space that is none of RC5, or twice as wide as its first one, a mark is no start
of RC5.
-/
theorem rejects_rc5_space {irparams : IrParams} (results : DecodeResults)
    (recorded : 3 ≤ irparams.rawlen)
    (two : matchTicks (irparams.rawbuf 1) 1878 = false)
    (three : matchTicks (irparams.rawbuf 1) 2767 = false)
    (space_one : matchTicks (irparams.rawbuf 2) 789 = false)
    (space_three : matchTicks (irparams.rawbuf 2) 2567 = false)
    : decodeRC5 irparams results = .error results := by
  have first : ¬irparams.rawlen ≤ 1 := by omega
  have second : ¬irparams.rawlen ≤ 2 := by omega
  cases mark_one : matchTicks (irparams.rawbuf 1) 989 with
  | false => exact rejects_rc5_width results mark_one two three
  | true =>
      have start : getRClevel irparams ⟨1, 0⟩ 889 = (some .mark, ⟨2, 0⟩) := by
        simp [getRClevel, first, markExcess, mark_one]
      cases space_two : matchTicks (irparams.rawbuf 2) 1678 with
      | false =>
          have next : getRClevel irparams ⟨2, 0⟩ 889 = (none, ⟨2, 0⟩) := by
            simp [getRClevel, second, markExcess, space_one, space_two, space_three]
          simp [decodeRC5, start, next]
      | true =>
          have next : getRClevel irparams ⟨2, 0⟩ 889 = (some .space, ⟨2, 1⟩) := by
            simp [getRClevel, second, markExcess, space_one, space_two]
          have last : getRClevel irparams ⟨2, 1⟩ 889 = (some .space, ⟨3, 0⟩) := by
            simp [getRClevel, second, markExcess, space_one, space_two]
          simp [decodeRC5, start, next, last]

/-- A repeat of JVC, which is any code of it without a header, is decoded as a repeat. -/
theorem decodes_jvc_repeat {irparams : IrParams} {data : BitVec 32}
    (recorded : irparams.Recorded (sendJVC data 16 true)) (results : DecodeResults)
    : tryDecoders irparams results decoders
      = .ok { results with bits := 0, value := repeatValue, decodeType := .jvc } := by
  have runs : (merge (sendJVC data 16 true)).dropLast
      = pulses (distanceTimes 600 1600 550 (topBits (data <<< (32 - 16)) 16)) ++ [mark 600] := by
    change (merge (pulses (distanceTimes 600 1600 550 (topBits (data <<< (32 - 16)) 16)
      ++ [(600, 0)]))).dropLast = _
    rw [merge_pulses, pulses_append]
    exact List.dropLast_append_of_ne_nil (List.cons_ne_nil _ _)
  have holds := recorded.holds
  have counted := recorded.rawlen
  have length : (pulses
      (distanceTimes 600 1600 550 (topBits (data <<< (32 - 16)) 16))).length = 32 := by
    rw [pulses_length, distanceTimes, List.length_map, topBits_length]
  rw [runs, List.length_append, length] at counted
  rw [runs, holds_append, length] at holds
  obtain ⟨⟨first_mark, first_space, -⟩, final, -⟩ := holds
  have header : Measured (irparams.rawbuf 1) (mark 600) := first_mark
  have gap : Measured (irparams.rawbuf 2)
      (space (if (data <<< (32 - 16)).msb then 1600 else 550)) := first_space
  have rawlen : irparams.rawlen = 34 := counted
  have first : matchMark (irparams.rawbuf 1) 600 = true :=
    match_mark header (by decide) (by decide) (by decide)
  have last : matchMark (irparams.rawbuf 33) 600 = true :=
    match_mark final (by decide) (by decide) (by decide)
  have nec := rejects_nec results
    (mismatch_mark header (.inl (by decide)) (by decide) : matchMark _ 9000 = false)
  have rc5 : decodeRC5 irparams results = .error results := by
    have two : matchTicks (irparams.rawbuf 1) 1878 = false :=
      mismatch_mark header (.inl (by decide)) (by decide)
    have three : matchTicks (irparams.rawbuf 1) 2767 = false :=
      mismatch_mark header (.inl (by decide)) (by decide)
    cases bit : (data <<< (32 - 16)).msb with
    | true =>
        rw [bit] at gap
        exact rejects_rc5_space results (by omega) two three
          (mismatch_space gap (.inr (by decide)) (by decide))
          (mismatch_space gap (.inl (by decide)) (by decide))
    | false =>
        rw [bit] at gap
        exact rejects_rc5_space results (by omega) two three
          (mismatch_space gap (.inl (by decide)) (by decide))
          (mismatch_space gap (.inl (by decide)) (by decide))
  have panasonic := rejects_panasonic results
    (mismatch_mark header (.inl (by decide)) (by decide) : matchMark _ 3502 = false)
  rw [tryDecoders_foreign results recorded.gap header (by decide) (by decide) nec
    (.inl (mismatch_mark header (.inl (by decide)) (by decide))) rc5,
    tryDecoders_error panasonic]
  refine tryDecoders_ok ?_
  simp [decodeJVC, first, last, rawlen]

end Cooboc.Infrared
