import ToyRobot.Command.Execution
import ToyRobot.Proofs.Cells

/-!
# What a command can come to

One rule for each way in which a command can end (`Command.Executes`): it is withheld from an
unplaced robot, it is refused and leaves the robot as it was, or it succeeds and changes the robot
in its own way. Each command ends by one of the rules, and the rules agree on how, so whatever is
said about commands is said by a case for each rule.
-/

namespace ToyRobot

/-! ## Actions -/

/-- The cell of a table with the given coordinates, if the table has it. -/
def Table.cellAt? (t : Table) (x y : UInt64) : Option Cell :=
  (Command.cell? x y).filter t.hasCell

/-- A cell that is found on a table is on it. -/
theorem Table.hasCell_of_cellAt? {t : Table} {x y : UInt64} {cell : Cell}
    (h : t.cellAt? x y = some cell) : t.hasCell cell :=
  (Option.filter_eq_some_iff.mp h).2

/-- The cell with some coordinates has the same numbers. -/
theorem Command.toNat_of_cell? {x y : UInt64} {cell : Cell} (h : cell? x y = some cell) :
    cell.x.toNat = x.toNat ∧ cell.y.toNat = y.toNat := by
  unfold cell? at h
  split at h
  · -- a small coordinate is not changed by being narrowed
    rename_i hsmall
    cases h
    simp only [UInt64.le_iff_toNat_le] at hsmall
    constructor
    · rw [UInt64.toNat_toUInt32]
      exact Nat.mod_eq_of_lt (Nat.lt_succ_of_le hsmall.1)
    · rw [UInt64.toNat_toUInt32]
      exact Nat.mod_eq_of_lt (Nat.lt_succ_of_le hsmall.2)
  · cases h

/-- A cell that is found has the coordinates that it was looked for by. -/
theorem Table.toNat_of_cellAt? {t : Table} {x y : UInt64} {cell : Cell}
    (h : t.cellAt? x y = some cell) : cell.x.toNat = x.toNat ∧ cell.y.toNat = y.toNat :=
  Command.toNat_of_cell? (Option.filter_eq_some_iff.mp h).1

/-- A table has the cell with some coordinates just where both are below its sides. -/
theorem Table.isSome_cellAt?_iff {t : Table} {x y : UInt64} :
    (t.cellAt? x y).isSome ↔ x.toNat < t.width.toNat ∧ y.toNat < t.height.toNat := by
  unfold Table.cellAt?
  cases hcell : Command.cell? x y with
  | some cell =>
    rcases Command.toNat_of_cell? hcell with ⟨hx, hy⟩
    rw [Option.isSome_filter, Option.any_some, Table.hasCell_iff, hx, hy]
  | none =>
    -- coordinates of no cell are beyond the sides of any table
    constructor
    · intro h
      cases h
    · rintro ⟨hx, hy⟩
      have hw := t.width.toNat_lt
      have hh := t.height.toNat_lt
      have hlargest : (0xFFFFFFFF : UInt64).toNat = 4294967295 := rfl
      have hsmall : x ≤ 0xFFFFFFFF ∧ y ≤ 0xFFFFFFFF := by
        simp only [UInt64.le_iff_toNat_le]
        omega
      rw [Command.cell?, if_pos hsmall] at hcell
      cases hcell

/-- The coordinates of a cell that is found are below the sides. -/
theorem Table.lt_of_cellAt? {t : Table} {x y : UInt64} {cell : Cell}
    (h : t.cellAt? x y = some cell) : x.toNat < t.width.toNat ∧ y.toNat < t.height.toNat :=
  isSome_cellAt?_iff.mp (Option.isSome_of_eq_some h)

theorem Table.cellAt?_eq_none_iff {t : Table} {x y : UInt64} :
    t.cellAt? x y = none ↔ ¬ (x.toNat < t.width.toNat ∧ y.toNat < t.height.toNat) := by
  rw [← Option.not_isSome_iff_eq_none, isSome_cellAt?_iff]

namespace Robot

variable {r : Robot} {p : Pose} {cell : Cell} {heading : Heading} {quarter : Heading → Heading}

/-- A placement on the table is made. -/
theorem tryPlace_of_hasCell (hcell : r.table.hasCell cell) :
    r.tryPlace cell heading = ⟨true, r.withPose ⟨cell, heading⟩⟩ := by
  simp [tryPlace, hcell]

/-- A placement off the table is not, and the robot stays as it was. -/
theorem tryPlace_of_off (hcell : r.table.hasCell cell = false) :
    r.tryPlace cell heading = ⟨false, r⟩ := by
  simp [tryPlace, hcell]

/-- A step leads to the cell ahead, if the table has it. -/
theorem tryAdvance_of_ahead (hpose : r.pose = some p)
    (hahead : cell.point = p.cell.ahead p.heading) (hcell : r.table.hasCell cell) :
    r.tryAdvance = ⟨true, r.withPose ⟨cell, p.heading⟩⟩ := by
  have hpoint : r.table.hasPoint (p.cell.ahead p.heading) := by
    rw [← hahead, Table.hasPoint_point]
    exact hcell
  -- the conversion undoes the one by which the point ahead was found
  have hback : Cell.ofPoint (p.cell.ahead p.heading) = .ok cell := Cell.ofPoint_eq_ok_iff.mpr hahead
  simp [tryAdvance, hpose, hpoint, hback]

/-- A step that would leave the table is not made. -/
theorem tryAdvance_of_edge (hpose : r.pose = some p)
    (hedge : r.table.hasPoint (p.cell.ahead p.heading) = false) : r.tryAdvance = ⟨false, r⟩ := by
  simp [tryAdvance, hpose, hedge]

/-- A robot that is nowhere makes no step. -/
theorem tryAdvance_of_unplaced (hpose : r.pose = none) : r.tryAdvance = ⟨false, r⟩ := by
  simp [tryAdvance, hpose]

/-- A turn stays on its cell. -/
theorem tryTurn_of_pose (hpose : r.pose = some p) :
    r.tryTurn quarter = ⟨true, r.withPose ⟨p.cell, quarter p.heading⟩⟩ := by
  simp [tryTurn, hpose]

/-- A robot that is nowhere does not turn. -/
theorem tryTurn_of_unplaced (hpose : r.pose = none) : r.tryTurn quarter = ⟨false, r⟩ := by
  simp [tryTurn, hpose]

end Robot

/-! ## The rules -/

namespace Command

/-- The ways in which a command can end: what came of it, and the robot afterwards. -/
inductive Executes (r : Robot) : Command → Outcome → Robot → Prop where
  | withheld {c : Command} : c.needsPlacement → r.pose = none →
      Executes r c (.failed Verdict.unplacedMessage) r
  | placed {x y : UInt64} {heading : Heading} {cell : Cell} : r.table.cellAt? x y = some cell →
      Executes r (.place x y heading) .done (r.withPose ⟨cell, heading⟩)
  | misplaced {x y : UInt64} {heading : Heading} : r.table.cellAt? x y = none →
      Executes r (.place x y heading) (.failed (refusal (.place x y heading))) r
  | moved {p : Pose} {cell : Cell} : r.pose = some p → cell.point = p.cell.ahead p.heading →
      r.table.hasCell cell → Executes r .move .done (r.withPose ⟨cell, p.heading⟩)
  | blocked {p : Pose} : r.pose = some p → r.table.hasPoint (p.cell.ahead p.heading) = false →
      Executes r .move (.failed (refusal .move)) r
  | turnedLeft {p : Pose} : r.pose = some p →
      Executes r .left .done (r.withPose ⟨p.cell, p.heading.left⟩)
  | turnedRight {p : Pose} : r.pose = some p →
      Executes r .right .done (r.withPose ⟨p.cell, p.heading.right⟩)
  | reported {p : Pose} : r.pose = some p → Executes r .report (.printing p.text) r

/-- A placement asks only the table, not where the robot is. -/
theorem execute_place (x y : UInt64) (heading : Heading) (r : Robot) :
    (place x y heading).execute r =
      match r.table.cellAt? x y with
      | some cell => (.done, r.withPose ⟨cell, heading⟩)
      | none => (.failed (refusal (.place x y heading)), r) := by
  have heffect : effect (.place x y heading) r =
      match r.table.cellAt? x y with
      | some cell => ⟨r.withPose ⟨cell, heading⟩, true, none⟩
      | none => ⟨r, false, none⟩ := by
    simp only [effect, Table.cellAt?]
    cases cell? x y with
    | none => rfl
    | some cell =>
      -- there is such a cell, and whether the table has it is for the table to say
      cases hcell : r.table.hasCell cell with
      | true => simp [Robot.tryPlace_of_hasCell hcell, Effect.ofTried, Option.filter, hcell]
      | false => simp [Robot.tryPlace_of_off hcell, Effect.ofTried, Option.filter, hcell]
  simp only [execute, Robot.attempt, heffect]
  rcases r.table.cellAt? x y with _ | cell <;> rfl

/-- What needs a placed robot is withheld from one that is nowhere. -/
theorem execute_unplaced {c : Command} {r : Robot} (hneeds : c.needsPlacement)
    (hpose : r.pose = none) : c.execute r = (.failed Verdict.unplacedMessage, r) := by
  simp [execute, Robot.attempt, hneeds, Robot.isPlaced, hpose, Verdict.outcome]

/-- On a placed robot every command but a placement is its own action. -/
theorem execute_placed {c : Command} {r : Robot} {p : Pose} (hpose : r.pose = some p) :
    c.execute r =
      ((if (c.effect r).success then Verdict.obeyed (c.effect r).output else .refused).outcome
        c.refusal, (c.effect r).robot) := by
  simp [execute, Robot.attempt, Robot.isPlaced, hpose]

/-- A rule gives what the command comes to, so no two of them disagree. -/
theorem Executes.eq_execute {c : Command} {r r' : Robot} {o : Outcome} (h : Executes r c o r') :
    c.execute r = (o, r') := by
  cases h with
  | withheld hneeds hpose => exact execute_unplaced hneeds hpose
  | placed hcell => rw [execute_place, hcell]
  | misplaced hcell => rw [execute_place, hcell]
  | moved hpose hahead hcell =>
    rw [execute_placed hpose]
    simp only [effect, Robot.tryAdvance_of_ahead hpose hahead hcell]
    rfl
  | blocked hpose hpoint =>
    rw [execute_placed hpose]
    simp only [effect, Robot.tryAdvance_of_edge hpose hpoint]
    rfl
  | turnedLeft hpose =>
    rw [execute_placed hpose]
    simp only [effect, Robot.tryTurnLeft, Robot.tryTurn_of_pose hpose]
    rfl
  | turnedRight hpose =>
    rw [execute_placed hpose]
    simp only [effect, Robot.tryTurnRight, Robot.tryTurn_of_pose hpose]
    rfl
  | reported hpose =>
    rw [execute_placed hpose]
    simp only [effect, Robot.report, hpose, Option.map_some]
    rfl

/-- For every command and every robot there is a rule. -/
theorem exists_executes (c : Command) (r : Robot) : ∃ o r', Executes r c o r' := by
  cases hneeds : c.needsPlacement with
  | false =>
    -- only a placement needs no placed robot
    cases c with
    | place x y heading =>
      cases hcell : r.table.cellAt? x y with
      | some cell => exact ⟨_, _, .placed hcell⟩
      | none => exact ⟨_, _, .misplaced hcell⟩
    | move => cases hneeds
    | left => cases hneeds
    | right => cases hneeds
    | report => cases hneeds
  | true =>
    cases hpose : r.pose with
    | none => exact ⟨_, _, .withheld hneeds hpose⟩
    | some p =>
      -- a placed robot does what it is told, but for a move off the table
      cases c with
      | place x y heading => cases hneeds
      | move =>
        cases hpoint : r.table.hasPoint (p.cell.ahead p.heading) with
        | true =>
          -- on the table the point ahead is a cell, so turning it into one cannot fail
          rcases Table.exists_cell_of_hasPoint hpoint with ⟨cell, hahead, hcell⟩
          exact ⟨_, _, .moved hpose hahead hcell⟩
        | false => exact ⟨_, _, .blocked hpose hpoint⟩
      | left => exact ⟨_, _, .turnedLeft hpose⟩
      | right => exact ⟨_, _, .turnedRight hpose⟩
      | report => exact ⟨_, _, .reported hpose⟩

/-- What a command comes to is given by one of the rules. -/
theorem executes_execute (c : Command) (r : Robot) :
    Executes r c (c.execute r).1 (c.execute r).2 := by
  rcases exists_executes c r with ⟨o, r', h⟩
  rw [h.eq_execute]
  exact h

namespace Executes

variable {c : Command} {r r' : Robot} {o : Outcome}

/-- A command that fails leaves the robot as it was. -/
theorem robot_eq_of_failure (h : Executes r c o r') (hfail : o.success = false) : r' = r := by
  cases h with
  | withheld _ _ => rfl
  | misplaced _ => rfl
  | blocked _ _ => rfl
  | reported _ => rfl
  | placed _ => cases hfail
  | moved _ _ _ => cases hfail
  | turnedLeft _ => cases hfail
  | turnedRight _ => cases hfail

/-- A report leaves the robot as it was. -/
theorem robot_eq_of_report (h : Executes r .report o r') : r' = r := by
  cases h <;> rfl

/-- A command fails with a message, succeeds in silence, or is a report that prints a line. -/
theorem outcome_cases (h : Executes r c o r') :
    (∃ message, o = .failed message) ∨ o = .done ∨
      (c = .report ∧ ∃ line, o = .printing line) := by
  cases h with
  | withheld _ _ => exact .inl ⟨_, rfl⟩
  | misplaced _ => exact .inl ⟨_, rfl⟩
  | blocked _ _ => exact .inl ⟨_, rfl⟩
  | placed _ => exact .inr (.inl rfl)
  | moved _ _ _ => exact .inr (.inl rfl)
  | turnedLeft _ => exact .inr (.inl rfl)
  | turnedRight _ => exact .inr (.inl rfl)
  | reported _ => exact .inr (.inr ⟨rfl, _, rfl⟩)

end Executes

end Command

/-! ## Command after command -/

/-- What commands come to one after another, each with the robot that it leaves to the next. -/
def Robot.executeAll : Robot → List Command → List (Outcome × Robot)
  | _, [] => []
  | r, c :: rest => c.execute r :: (c.execute r).2.executeAll rest

end ToyRobot
