import Mathlib.Data.List.Forall2
import ToyRobot.Proofs.OnTable

/-!
# A larger table rejects no more

Take a session, and set its robot down in the same pose on a table with at least as many columns and
rows (`Session.onto`). A line asks the table only whether a cell is on it, and a cell of the smaller
table is one of the larger; so as long as the smaller table rejects no placement and no move, every
step of the one session is the step of the other, set down on the larger table
(`Session.perform_onto`), and the two traces are alike from beginning to end (`Session.trace_onto`).
-/

namespace ToyRobot

/-! ## Larger tables -/

/-- A table that could be laid on another, south-west corner on south-west corner. -/
structure Table.FitsOn (small large : Table) : Prop where
  width : small.width ≤ large.width
  height : small.height ≤ large.height

namespace Table.FitsOn

variable {small large : Table}

/-- A cell of the smaller table is one of the larger. -/
theorem hasCell (h : small.FitsOn large) {cell : Cell} (hcell : small.hasCell cell) :
    large.hasCell cell := by
  have hwidth := UInt32.le_iff_toNat_le.mp h.width
  have hheight := UInt32.le_iff_toNat_le.mp h.height
  rw [Table.hasCell_iff] at hcell ⊢
  omega

/-- What is found on the smaller table is found on the larger. -/
theorem cellAt? (h : small.FitsOn large) {x y : UInt64} {cell : Cell}
    (hcell : small.cellAt? x y = some cell) : large.cellAt? x y = some cell := by
  obtain ⟨hread, hsmall⟩ := Option.filter_eq_some_iff.mp hcell
  exact Option.filter_eq_some_iff.mpr ⟨hread, h.hasCell hsmall⟩

end Table.FitsOn

/-- The robot in the same pose on another table. -/
def Robot.onto (t : Table) (r : Robot) : Robot := { r with table := t }

/-- The session with its robot on another table. -/
def Session.onto (t : Table) (s : Session) : Session := { s with robot := s.robot.onto t }

/-- The step with its robot on another table. -/
def Step.onto (t : Table) (step : Step) : Step :=
  { step with before := step.before.onto t, after := step.after.onto t }

/-! ## Commands -/

/-- What is not rejected comes to the same on a larger table. -/
theorem Command.Executes.onto {t : Table} {c : Command} {r r' : Robot} {o : Outcome}
    (h : Command.Executes r c o r') (hfits : r.table.FitsOn t)
    (haccepted : c.isPlace = true ∨ c = .move → o.success = true) :
    Command.Executes (r.onto t) c o (r'.onto t) := by
  cases h with
  | withheld hneeds hpose => exact .withheld hneeds hpose
  | placed hcell => exact .placed (hfits.cellAt? hcell)
  | moved hpose hahead hcell => exact .moved hpose hahead (hfits.hasCell hcell)
  | turnedLeft hpose => exact .turnedLeft hpose
  | turnedRight hpose => exact .turnedRight hpose
  | reported hpose => exact .reported hpose
  | misplaced _ => cases haccepted (.inl rfl)
  | blocked _ _ => cases haccepted (.inr rfl)

/-! ## Steps -/

/-- The line of a step was a placement or a move, and it was rejected. -/
def Step.Rejected (step : Step) : Prop :=
  match step.operation with
  | .line text =>
    (∃ c ∈ Command.ofLine? text, c.isPlace = true ∨ c = .move) ∧
      ∃ o ∈ step.outcome, o.success = false
  | .reset => False

instance (step : Step) : Decidable step.Rejected :=
  match step with
  | ⟨_, .line _, _, _, _⟩ => inferInstanceAs (Decidable (_ ∧ _))
  | ⟨_, .reset, _, _, _⟩ => inferInstanceAs (Decidable False)

namespace Session

variable {t : Table} {s : Session}

/-- A placement or a move of a step that is not rejected succeeds. -/
theorem success_of_not_rejected {line : String} {c : Command}
    (h : ¬ (s.perform (.line line)).Rejected) (hread : Command.ofLine? line = some c)
    (hc : c.isPlace = true ∨ c = .move) : (s.process line).outcome.success = true := by
  rw [perform_line] at h
  by_contra hfail
  rw [Bool.not_eq_true] at hfail
  exact h ⟨⟨c, hread, hc⟩, _, rfl, hfail⟩

/-- A line that is not rejected gets the same answer on a larger table. -/
theorem process_onto (hfits : s.robot.table.FitsOn t) {line : String}
    (h : ¬ (s.perform (.line line)).Rejected) :
    (s.onto t).process line =
      ⟨(s.process line).outcome, (s.process line).notices, (s.process line).session.onto t⟩ := by
  cases hread : Command.ofLine? line with
  | none => rw [process_unrecognized hread, process_unrecognized hread]
  | some c =>
    cases hadmits : s.admits c with
    | false =>
      have hadmits' : (s.onto t).admits c = false := hadmits
      rw [process_passedOver hread hadmits, process_passedOver hread hadmits']
    | true =>
      -- the gate does not ask the table
      have hadmits' : (s.onto t).admits c = true := hadmits
      have haccepted := success_of_not_rejected h hread
      rw [process_admitted hread hadmits] at haccepted ⊢
      rw [process_admitted hread hadmits']
      have hexecute := ((Command.executes_execute c s.robot).onto hfits haccepted).eq_execute
      rw [obey_of_execute hexecute]
      rfl

/-- A step that is not rejected is the same step on a larger table. -/
theorem perform_onto (hfits : s.robot.table.FitsOn t) {op : Operation}
    (h : ¬ (s.perform op).Rejected) : (s.onto t).perform op = (s.perform op).onto t := by
  cases op with
  | line text =>
    rw [perform_line, perform_line, process_onto hfits h]
    rfl
  | reset => rfl

/-- As long as nothing is rejected, the trace on a larger table is the same trace there. -/
theorem trace_onto (hfits : s.robot.table.FitsOn t) {ops : List Operation}
    (h : ∀ step ∈ s.trace ops, ¬ step.Rejected) :
    (s.onto t).trace ops = (s.trace ops).map (Step.onto t) := by
  induction ops generalizing s with
  | nil => rfl
  | cons op rest ih =>
    rw [trace, List.forall_mem_cons] at h
    obtain ⟨hfirst, hrest⟩ := h
    -- no step changes the table, so it still fits
    have hlater : (s.perform op).after.robot.table.FitsOn t := by
      rw [(s.perform_keeps op).table]
      exact hfits
    rw [trace, trace, perform_onto hfits hfirst, List.map_cons]
    exact congrArg _ (ih hlater hrest)

end Session

/-- A larger table never rejects more. Let any operations happen to a new session on a table, among
them no placement and no move that the table rejects; and let the same happen to a new session on a
table with at least as many columns and at least as many rows. Then after every operation the two
have answered and said the same, both gates are open or both are closed, and the robots are in the
same pose. -/
theorem larger_table_never_rejects_more {small large : Table} (hwidth : small.width ≤ large.width)
    (hheight : small.height ≤ large.height) {ops : List Operation}
    (haccepted : ∀ step ∈ (Session.fresh small).trace ops, ¬ step.Rejected) :
    List.Forall₂ (fun a b => b.operation = a.operation ∧ b.outcome = a.outcome ∧
        b.notices = a.notices ∧ b.after.gateOpen = a.after.gateOpen ∧
        b.after.robot.pose = a.after.robot.pose)
      ((Session.fresh small).trace ops) ((Session.fresh large).trace ops) := by
  have htrace : (Session.fresh large).trace ops =
      ((Session.fresh small).trace ops).map (Step.onto large) :=
    Session.trace_onto (s := Session.fresh small) ⟨hwidth, hheight⟩ haccepted
  -- what is compared is untouched when the robot is set down on another table
  rw [htrace, List.forall₂_map_right_iff, List.forall₂_same]
  intro step _
  exact ⟨rfl, rfl, rfl, rfl, rfl⟩

/-- A table of two columns and two rows, and one with another column: a robot in the corner of the
smaller table, with lines that are no commands or are passed over. -/
theorem larger_table_rejects_no_more_than_square :
    let small : Table := ⟨2, 2, by decide, by decide⟩
    let large : Table := ⟨3, 2, by decide, by decide⟩
    let ops : List Operation := [.line "MOVE", .line "PLACE 1,0,NORTH", .line "move", .line "JUMP",
      .line "LEFT", .reset, .line "REPORT", .line "place 01,1,west", .line "REPORT", .line "MOVE"]
    let smallSteps := (Session.fresh small).trace ops
    let largeSteps := (Session.fresh large).trace ops
    small.width ≤ large.width ∧ small.height ≤ large.height ∧
      (∀ step ∈ smallSteps, ¬ step.Rejected) ∧
      List.Forall₂ (fun a b => b.operation = a.operation ∧ b.outcome = a.outcome ∧
        b.notices = a.notices ∧ b.after.gateOpen = a.after.gateOpen ∧
        b.after.robot.pose = a.after.robot.pose) smallSteps largeSteps := by
  intro small large ops smallSteps largeSteps
  have hwidth : small.width ≤ large.width := by decide
  have hheight : small.height ≤ large.height := by decide
  have haccepted : ∀ step ∈ smallSteps, ¬ step.Rejected := by decide +kernel
  refine ⟨hwidth, hheight, ?_, ?_⟩
  · exact haccepted
  · exact larger_table_never_rejects_more hwidth hheight haccepted

end ToyRobot
