import Cooboc.Foundations.RunLengths
import Cooboc.Infrared.Sketch

/-! What the sketch finds was on the line: the runs of the line in order, each code behind a gap
and in front of one, and nothing twice.
-/

namespace Cooboc.Infrared

open Cooboc.Foundations

/-- Widths as runs whose levels alternate. -/
def alternate : Level → List Nat → List (Level × Nat)
  | _, [] => []
  | level, width :: rest => (level, width) :: alternate level.other rest

theorem alternate_concat (level : Level) (widths : List Nat) (width : Nat)
    : alternate level (widths ++ [width])
      = alternate level widths
        ++ [(if widths.length % 2 = 0 then level else level.other, width)] := by
  induction widths generalizing level with
  | nil => rfl
  | cons first rest ih =>
      rw [List.cons_append, alternate, ih, alternate, List.cons_append, List.length_cons]
      have twice : level.other.other = level := by cases level <;> rfl
      rw [twice]
      by_cases even : rest.length % 2 = 0
      · rw [if_pos even, if_neg (by omega)]
      · rw [if_neg even, if_pos (by omega)]

/-- The samples of a code. -/
def codeSamples (widths : List Nat) : List Level := expand (alternate .mark widths)

/-- What surrounds a recording on the line: no run is empty, the last one is a mark and ends where
the recording does, and there is a gap in front. Behind it there is a gap as well, unless it has
filled the buffer.
-/
structure Surrounded (before : List Level) (widths : List Nat) (after : List Level) : Prop where
  positive : ∀ width ∈ widths, 0 < width
  marked : widths.length % 2 = 1
  behind : List.replicate (gapTicks - 1) .space <:+ before
  ends : [.space] <+: after
  closed : widths.length + 1 = rawbufLength ∨ List.replicate (gapTicks + 2) .space <+: after

/-- Recordings that are found on the line one behind the other. -/
def OnLine : List Recording → List Level → Prop
  | [], _ => True
  | recording :: later, line =>
      ∃ before after,
        line = before ++ codeSamples recording.2 ++ after
        ∧ Surrounded before recording.2 after
        ∧ OnLine later after

theorem Surrounded.longer {before after : List Level} {widths : List Nat}
    (surrounded : Surrounded before widths after) (later : List Level)
    : Surrounded before widths (after ++ later) where
  positive := surrounded.positive
  marked := surrounded.marked
  behind := surrounded.behind
  ends := surrounded.ends.trans (List.prefix_append _ _)
  closed := surrounded.closed.imp_right (fun gap => gap.trans (List.prefix_append _ _))

/-- A report shows a recording, and what a decoder makes of it. -/
def Report.Shows (report : Report) (recording : Recording) : Prop :=
  report.rawbuf = entries recording.1 recording.2
  ∧ ∃ irparams results,
      irparams.recording = report.rawbuf
      ∧ tryDecoders irparams results decoders = .ok report.results

/-- A line can be longer in front. -/
theorem OnLine.behind {recordings : List Recording} {line : List Level}
    (onLine : OnLine recordings line) (earlier : List Level)
    : OnLine recordings (earlier ++ line) := by
  cases recordings with
  | nil => trivial
  | cons recording later =>
      obtain ⟨before, after, rfl, surrounded, others⟩ := onLine
      refine ⟨earlier ++ before, after, by simp, ?_, others⟩
      exact { surrounded with behind := surrounded.behind.trans (List.suffix_append _ _) }

/-- Recordings that no decoder accepts can be left out. -/
theorem OnLine.sublist {fewer recordings : List Recording} (some_of : fewer.Sublist recordings)
    {line : List Level} (onLine : OnLine recordings line)
    : OnLine fewer line := by
  induction some_of generalizing line with
  | slnil => trivial
  | cons recording _ ih =>
      obtain ⟨before, after, rfl, _, others⟩ := onLine
      exact (ih others).behind _
  | cons_cons recording _ ih =>
      obtain ⟨before, after, whole, surrounded, others⟩ := onLine
      exact ⟨before, after, whole, surrounded, ih others⟩

end Cooboc.Infrared
