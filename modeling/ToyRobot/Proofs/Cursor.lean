import Mathlib.Data.List.DropRight
import ToyRobot.Script

/-!
# The cursor of a script

Lines are asked of a script one at a time or all that are left, and a rewind starts it over. The
cursor is nothing but a number. What it means is said by the lines that were handed out: those that
came since the last rewind are the first lines of the script, as many as the cursor counts
(`Script.Counts`). Each of the three requests keeps this up (`Counts.answer`), so it holds after any
requests at all (`counts_after`), and with it the cursor never runs past the end.
-/

namespace ToyRobot

namespace Script

/-! ## Requests -/

/-- What can be asked of a script. -/
inductive Request where
  /-- The next line. -/
  | next
  /-- All lines that are left. -/
  | remaining
  /-- To start over at the first line. -/
  | rewind
deriving Repr, DecidableEq

/-- The lines that a request gets, and the script after it. -/
def answer (s : Script) : Request → List String × Script
  | .next => (s.next.1.toList, s.next.2)
  | .remaining => s.remaining
  | .rewind => ([], s.rewind)

def after : Script → List Request → Script
  | s, [] => s
  | s, r :: rest => (s.answer r).2.after rest

/-- Requests, one after another, each with the lines that it gets. -/
def answers : Script → List Request → List (Request × List String)
  | _, [] => []
  | s, r :: rest => (r, (s.answer r).1) :: (s.answer r).2.answers rest

/-- The lines that were handed out after the last rewind, or from the start where there was none. -/
def sinceRewind (answered : List (Request × List String)) : List String :=
  (answered.rtakeWhile fun a => a.1 ≠ .rewind).flatMap Prod.snd

variable {s : Script} {handed : List String}

theorem after_concat (s : Script) (requests : List Request) (r : Request) :
    s.after (requests ++ [r]) = ((s.after requests).answer r).2 := by
  induction requests generalizing s with
  | nil => rfl
  | cons first rest ih => exact ih (s.answer first).2

theorem answers_concat (s : Script) (requests : List Request) (r : Request) :
    s.answers (requests ++ [r]) = s.answers requests ++ [(r, ((s.after requests).answer r).1)] := by
  induction requests generalizing s with
  | nil => rfl
  | cons first rest ih =>
    rw [List.cons_append, answers, answers, ih, after, List.cons_append]

/-- After a rewind nothing has been handed out. -/
theorem sinceRewind_concat_rewind (answered : List (Request × List String)) (lines : List String) :
    sinceRewind (answered ++ [(.rewind, lines)]) = [] := by
  rw [sinceRewind, List.rtakeWhile_concat_neg _ _ _ (by simp), List.flatMap_nil]

/-- Any other request adds its lines to those that were handed out. -/
theorem sinceRewind_concat {r : Request} (hr : r ≠ .rewind)
    (answered : List (Request × List String)) (lines : List String) :
    sinceRewind (answered ++ [(r, lines)]) = sinceRewind answered ++ lines := by
  rw [sinceRewind, List.rtakeWhile_concat_pos _ _ _ (by simpa using hr), List.flatMap_append,
    List.flatMap_singleton]
  rfl

/-! ## What requests leave alone -/

/-- No request changes the path or the lines. -/
theorem answer_keeps (s : Script) (r : Request) :
    (s.answer r).2.path = s.path ∧ (s.answer r).2.lines = s.lines := by
  cases r with
  | next =>
    -- whether or not there is a line, only the cursor can change
    simp only [answer, next]
    split
    · exact ⟨rfl, rfl⟩
    · exact ⟨rfl, rfl⟩
  | remaining => exact ⟨rfl, rfl⟩
  | rewind => exact ⟨rfl, rfl⟩

/-- Nor do any requests, one after another. -/
theorem after_keeps (s : Script) (requests : List Request) :
    (s.after requests).path = s.path ∧ (s.after requests).lines = s.lines := by
  induction requests generalizing s with
  | nil => exact ⟨rfl, rfl⟩
  | cons r rest ih =>
    obtain ⟨hpath, hlines⟩ := ih (s.answer r).2
    obtain ⟨hpath', hlines'⟩ := s.answer_keeps r
    exact ⟨hpath.trans hpath', hlines.trans hlines'⟩

/-! ## What the cursor counts -/

/-- The lines that have been handed out are the first ones of the script, as many as the cursor
counts. -/
structure Counts (s : Script) (handed : List String) : Prop where
  within : s.cursor ≤ s.total
  handed_eq : handed = s.lines.take s.cursor

/-- Nothing has been handed out yet. -/
theorem counts_rewind (s : Script) : s.rewind.Counts [] where
  within := Nat.zero_le _
  handed_eq := rfl

/-- The next line follows those that were handed out before, and at the end there is none. -/
theorem Counts.next (h : s.Counts handed) :
    (s.answer .next).2.Counts (handed ++ (s.answer .next).1) := by
  cases hunread : s.unread with
  | nil =>
    have hnext : s.answer .next = ([], s) := by
      simp only [answer, next_of_unread_nil hunread, Option.toList]
    rw [hnext, List.append_nil]
    exact h
  | cons line rest =>
    have hnext : s.answer .next = ([line], { s with cursor := s.cursor + 1 }) := by
      simp only [answer, next_of_unread_cons hunread, Option.toList]
    -- the first unread line is the one at the cursor
    have hline : s.lines[s.cursor]? = some line := by
      rw [← List.head?_drop, ← unread, hunread, List.head?_cons]
    have hlength : s.cursor < s.lines.length := (List.getElem?_eq_some_iff.mp hline).1
    rw [hnext]
    refine ⟨hlength, ?_⟩
    show handed ++ [line] = s.lines.take (s.cursor + 1)
    rw [List.take_add_one, hline, h.handed_eq]
    rfl

/-- With the lines that are left, all have been handed out. -/
theorem Counts.remaining (h : s.Counts handed) :
    (s.answer .remaining).2.Counts (handed ++ (s.answer .remaining).1) where
  within := Nat.le_refl _
  handed_eq := by
    show handed ++ s.lines.drop s.cursor = s.lines.take s.lines.length
    rw [h.handed_eq, List.take_append_drop, List.take_length]

/-- From the first line on, the cursor counts what was handed out since the last rewind. -/
theorem counts_after (hstart : s.cursor = 0) (requests : List Request) :
    (s.after requests).Counts (sinceRewind (s.answers requests)) := by
  -- from the end backwards: the last request is a rewind, or adds to the lines since the last one
  induction requests using List.reverseRecOn with
  | nil =>
    -- a script at its first line is as good as rewound
    have hrewound : s.rewind = s := by rw [rewind, ← hstart]
    have hcounts := s.counts_rewind
    rw [hrewound] at hcounts
    exact hcounts
  | append_singleton requests r ih =>
    rw [after_concat, answers_concat]
    cases r with
    | next =>
      rw [sinceRewind_concat (by decide)]
      exact ih.next
    | remaining =>
      rw [sinceRewind_concat (by decide)]
      exact ih.remaining
    | rewind =>
      rw [sinceRewind_concat_rewind]
      exact counts_rewind _

/-! ## The end -/

/-- Nothing is left just where there is no more. -/
theorem unread_eq_nil_iff : s.unread = [] ↔ s.hasMore = false := by
  rw [unread, List.drop_eq_nil_iff, hasMore, decide_eq_false_iff_not, Nat.not_lt, total]

/-- No line comes just where there are no more, and then nothing is changed. -/
theorem next_eq_none_iff : s.next.1 = none ↔ s.hasMore = false := by
  rw [← unread_eq_nil_iff]
  constructor
  · intro hnone
    cases hunread : s.unread with
    | nil => rfl
    | cons line rest =>
      rw [next_of_unread_cons hunread] at hnone
      cases hnone
  · intro hunread
    rw [next_of_unread_nil hunread]

end Script

/-- The cursor loses and repeats nothing. Let any requests be made, in any order, of a script that
starts at its first line. Its path and its lines are then what they were, the cursor is not past the
end, and there is more just where it is before the end. The lines that were handed out since the
last rewind, one at a time or all that were left, are in order the first lines of the script, and
the cursor says how many. A request for the next line gets none just where there is no more, and
then the script is left as it is. -/
theorem cursor_loses_and_repeats_nothing (path : String) (lines : List String)
    (requests : List Script.Request) :
    let start : Script := ⟨path, lines, 0⟩
    let s := start.after requests
    s.path = path ∧ s.lines = lines ∧ s.total = lines.length ∧
      s.cursor ≤ s.total ∧ (s.hasMore = true ↔ s.cursor < s.total) ∧
      Script.sinceRewind (start.answers requests) = lines.take s.cursor ∧
      (s.next.1 = none ↔ s.hasMore = false) ∧ (s.next = (none, s) ↔ s.hasMore = false) := by
  intro start s
  have hcounts : s.Counts (Script.sinceRewind (start.answers requests)) :=
    Script.counts_after rfl requests
  obtain ⟨hpath, hlines⟩ : s.path = path ∧ s.lines = lines := start.after_keeps requests
  have hhanded := hcounts.handed_eq
  rw [hlines] at hhanded
  refine ⟨hpath, hlines, congrArg List.length hlines, hcounts.within, decide_eq_true_iff, hhanded,
    Script.next_eq_none_iff, ?_⟩
  constructor
  · intro hnext
    rw [← Script.next_eq_none_iff, hnext]
  · intro hend
    exact Script.next_of_unread_nil (Script.unread_eq_nil_iff.mpr hend)

/-- All that is left, then nothing, and after a rewind the first line again. -/
example : (Script.mk "demo.txt" ["PLACE 0,0,NORTH", "MOVE", "REPORT"] 0).answers
    [.next, .remaining, .next, .rewind, .next] =
      [(.next, ["PLACE 0,0,NORTH"]), (.remaining, ["MOVE", "REPORT"]), (.next, []), (.rewind, []),
        (.next, ["PLACE 0,0,NORTH"])] := by
  decide

end ToyRobot
