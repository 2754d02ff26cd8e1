import ToyRobot.Proofs.Failures

/-!
# The contract of a command

Every command says when it can be carried out (`Command.Feasible`) and what it then does to the
robot (`Command.Achieves`), in numbers that have no largest one. Where it cannot be carried out the
robot is left as it was, and the error is that of the command, unless the command needs a robot that
is somewhere and this one is nowhere. The contract is read off the rules by which a command can end,
one clause of it at a time.
-/

namespace ToyRobot

/-- A cell is at the end of a step just where it is the square in front. -/
theorem Cell.point_eq_ahead_iff {cell : Cell} {p : Pose} :
    cell.point = p.cell.ahead p.heading ↔
      ((cell.x.toNat, cell.y.toNat) : Int × Int) = p.front := by
  rw [Cell.point_eq_iff, Pose.front_eq, Prod.mk.injEq, eq_comm, eq_comm (b := (cell.y.toNat : Int))]

/-- If the cell at the end of a step is on the table, so is the square in front. -/
theorem Table.covers_front_of_ahead {t : Table} {p : Pose} {cell : Cell}
    (hahead : cell.point = p.cell.ahead p.heading) (hcell : t.hasCell cell) :
    t.Covers p.front := by
  rw [← Table.hasPoint_ahead_iff, ← hahead, Table.hasPoint_point]
  exact hcell

/-- A robot is unplaced if it has no pose. -/
theorem Robot.isPlaced_eq_false_iff {r : Robot} : r.isPlaced = false ↔ r.pose = none := by
  rw [isPlaced, Option.isSome_eq_false_iff, Option.isNone_iff_eq_none]

namespace Command

/-- When a robot can carry out a command: a placement if its cell is on the table, a move if the
robot is somewhere and the square in front of it is on the table, and anything else if the robot is
somewhere. -/
def Feasible (r : Robot) : Command → Prop
  | place x y _ => x.toNat < r.table.width.toNat ∧ y.toNat < r.table.height.toNat
  | move => ∃ p, r.pose = some p ∧ r.table.Covers p.front
  | _ => r.isPlaced = true

/-- A robot that is somewhere can move if the square in front of it is on the table. -/
theorem feasible_move_iff {r : Robot} {p : Pose} (hpose : r.pose = some p) :
    move.Feasible r ↔ r.table.Covers p.front := by
  constructor
  · rintro ⟨q, hq, hcovers⟩
    rw [hpose] at hq
    cases hq
    exact hcovers
  · intro hcovers
    exact ⟨p, hpose, hcovers⟩

/-- What a command that is carried out says and does: a placement sets the cell and the heading that
it names, a move leads to the square in front and keeps the heading, a turn changes the heading
alone, and a report says where the robot is and leaves it there. -/
def Achieves (r : Robot) (o : Outcome) (r' : Robot) : Command → Prop
  | place x y heading => o = .done ∧ ∃ cell : Cell,
      cell.x.toNat = x.toNat ∧ cell.y.toNat = y.toNat ∧ r' = ⟨r.table, some ⟨cell, heading⟩⟩
  | move => o = .done ∧ ∃ (p : Pose) (cell : Cell), r.pose = some p ∧
      ((cell.x.toNat, cell.y.toNat) : Int × Int) = p.front ∧
      r' = ⟨r.table, some ⟨cell, p.heading⟩⟩
  | left => o = .done ∧ ∃ p, r.pose = some p ∧ r' = ⟨r.table, some ⟨p.cell, p.heading.left⟩⟩
  | right => o = .done ∧ ∃ p, r.pose = some p ∧ r' = ⟨r.table, some ⟨p.cell, p.heading.right⟩⟩
  | report => ∃ p, r.pose = some p ∧ o = .printing p.text ∧ r' = r

/-- An unplaced robot can only carry out a placement. -/
theorem not_feasible_of_unplaced {c : Command} {r : Robot} (hneeds : c.needsPlacement)
    (hpose : r.pose = none) : ¬ c.Feasible r := by
  have hunplaced : ¬ r.isPlaced = true := by
    rw [Robot.isPlaced_eq_false_iff.mpr hpose]
    exact Bool.false_ne_true
  intro hfeasible
  cases c with
  | place x y heading => cases hneeds
  | move =>
    rcases hfeasible with ⟨p, hp, _⟩
    rw [hpose] at hp
    cases hp
  | left => exact hunplaced hfeasible
  | right => exact hunplaced hfeasible
  | report => exact hunplaced hfeasible

namespace Executes

variable {c : Command} {r r' : Robot} {o : Outcome}

/-- A command succeeds where it is feasible, and nowhere else. -/
theorem success_iff_feasible (h : Executes r c o r') : o.success = true ↔ c.Feasible r := by
  cases h with
  | withheld hneeds hpose =>
    exact iff_of_false Bool.false_ne_true (not_feasible_of_unplaced hneeds hpose)
  | placed hcell =>
    exact iff_of_true rfl (Table.lt_of_cellAt? hcell)
  | misplaced hcell =>
    exact iff_of_false Bool.false_ne_true (Table.cellAt?_eq_none_iff.mp hcell)
  | moved hpose hahead hcell =>
    exact iff_of_true rfl
      ((feasible_move_iff hpose).mpr (Table.covers_front_of_ahead hahead hcell))
  | blocked hpose hpoint =>
    -- the signed test of the point ahead asks for the square in front
    apply iff_of_false Bool.false_ne_true
    rw [feasible_move_iff hpose, ← Table.hasPoint_ahead_iff, hpoint]
    exact Bool.false_ne_true
  | turnedLeft hpose => exact iff_of_true rfl (Option.isSome_of_eq_some hpose)
  | turnedRight hpose => exact iff_of_true rfl (Option.isSome_of_eq_some hpose)
  | reported hpose => exact iff_of_true rfl (Option.isSome_of_eq_some hpose)

/-- A command that fails gives one of two errors. -/
theorem outcome_of_failure (h : Executes r c o r') (hfail : o.success = false) :
    o = .failed (if c.isPlace = false ∧ r.isPlaced = false then "Robot is not placed on the table"
      else c.refusal) := by
  cases h with
  | withheld hneeds hpose =>
    have hplace : c.isPlace = false := by simpa [needsPlacement] using hneeds
    rw [if_pos ⟨hplace, Robot.isPlaced_eq_false_iff.mpr hpose⟩]
    rfl
  | misplaced _ =>
    rw [if_neg]
    rintro ⟨hplace, _⟩
    cases hplace
  | blocked hpose _ =>
    rw [if_neg]
    -- a blocked robot is somewhere
    rintro ⟨_, hunplaced⟩
    rw [Robot.isPlaced_eq_false_iff, hpose] at hunplaced
    cases hunplaced
  | placed _ => cases hfail
  | moved _ _ _ => cases hfail
  | turnedLeft _ => cases hfail
  | turnedRight _ => cases hfail
  | reported _ => cases hfail

/-- A command that succeeds does what it is there for. -/
theorem achieves_of_success (h : Executes r c o r') (hsuccess : o.success = true) :
    c.Achieves r o r' := by
  cases h with
  | placed hcell =>
    rcases Table.toNat_of_cellAt? hcell with ⟨hx, hy⟩
    exact ⟨rfl, _, hx, hy, rfl⟩
  | moved hpose hahead _ =>
    exact ⟨rfl, _, _, hpose, Cell.point_eq_ahead_iff.mp hahead, rfl⟩
  | turnedLeft hpose => exact ⟨rfl, _, hpose, rfl⟩
  | turnedRight hpose => exact ⟨rfl, _, hpose, rfl⟩
  | reported hpose => exact ⟨_, hpose, rfl, rfl⟩
  | withheld _ _ => cases hsuccess
  | misplaced _ => cases hsuccess
  | blocked _ _ => cases hsuccess

end Executes

end Command

/-- A command is carried out or leaves the robot alone. It succeeds exactly if it is feasible. If it
fails, the robot is exactly as before, and the error is that the robot is not placed, for a command
other than a placement and a robot that is nowhere, and otherwise the command's own. If it succeeds,
it does to the robot what it is there for, and nothing else. -/
theorem succeeds_or_leaves_robot_alone (c : Command) (r : Robot) :
    let outcome := (c.execute r).1
    let after := (c.execute r).2
    (outcome.success = true ↔ c.Feasible r) ∧
      (outcome.success = false → after = r ∧ outcome = .failed
        (if c.isPlace = false ∧ r.isPlaced = false then "Robot is not placed on the table"
          else c.refusal)) ∧
      (outcome.success = true → c.Achieves r outcome after) := by
  intro outcome after
  have hrule : Command.Executes r c outcome after := Command.executes_execute c r
  refine ⟨hrule.success_iff_feasible, ?_, hrule.achieves_of_success⟩
  intro hfail
  exact ⟨hrule.robot_eq_of_failure hfail, hrule.outcome_of_failure hfail⟩

end ToyRobot
