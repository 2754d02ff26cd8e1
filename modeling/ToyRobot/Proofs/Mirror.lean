import Mathlib.Data.List.Forall2
import ToyRobot.Proofs.Execution

/-!
# The two axes are treated alike

The mirror along the diagonal swaps columns and rows. It is defined for each thing that has a place
or a direction, and what is asked about a thing is answered alike for its mirror image: which cell is
on the table, which point is a step ahead, where a turn leads to (a left turn in the mirror is a
right turn). So every rule by which a command can end is mirrored by a rule
(`Command.Executes.mirror`), and a robot and its mirror image stay mirror images of each other
through any commands (`Robot.executeAll_mirror`).
-/

namespace ToyRobot

/-! ## Mirror images -/

/-- The direction along the other axis that points the same way. -/
def Heading.mirror : Heading → Heading
  | north => east
  | east => north
  | south => west
  | west => south

/-- The point with its coordinates swapped. -/
def Point.mirror (p : Point) : Point := ⟨p.y, p.x⟩

/-- The cell with column and row swapped. -/
def Cell.mirror (c : Cell) : Cell := ⟨c.y, c.x⟩

/-- The table with as many columns as the other has rows. -/
def Table.mirror (t : Table) : Table := ⟨t.height, t.width, t.height_pos, t.width_pos⟩

/-- The pose on the mirrored cell, looking in the mirrored direction. -/
def Pose.mirror (p : Pose) : Pose := ⟨p.cell.mirror, p.heading.mirror⟩

/-- The robot on the mirrored table, in the mirrored pose if it has one. -/
def Robot.mirror (r : Robot) : Robot := ⟨r.table.mirror, r.pose.map Pose.mirror⟩

/-- The command that asks a mirrored robot for the same. -/
def Command.mirror : Command → Command
  | place x y heading => place y x heading.mirror
  | move => move
  | left => right
  | right => left
  | report => report

/-! ## What is asked on the way -/

/-- A left turn in the mirror is a right turn. -/
@[simp] theorem Heading.left_mirror (h : Heading) : h.mirror.left = h.right.mirror := by
  cases h <;> rfl

/-- A right turn in the mirror is a left turn. -/
@[simp] theorem Heading.right_mirror (h : Heading) : h.mirror.right = h.left.mirror := by
  cases h <;> rfl

@[simp] theorem Heading.step_mirror (h : Heading) : h.mirror.step = h.step.mirror := by
  cases h <;> rfl

@[simp] theorem Cell.point_mirror (c : Cell) : c.mirror.point = c.point.mirror := rfl

/-- The point ahead in the mirror is the mirror image of the point ahead. -/
theorem Cell.ahead_mirror (c : Cell) (h : Heading) :
    c.mirror.ahead h.mirror = (c.ahead h).mirror := by
  rw [Cell.ahead, Heading.step_mirror, Cell.point_mirror]
  rfl

@[simp] theorem Table.hasCell_mirror (t : Table) (c : Cell) :
    t.mirror.hasCell c.mirror = t.hasCell c :=
  Bool.and_comm _ _

/-- A table has a point just where its mirror image has that of the point. -/
theorem Table.hasPoint_mirror (t : Table) (p : Point) :
    t.mirror.hasPoint p.mirror = t.hasPoint p := by
  rw [Bool.eq_iff_iff, Table.hasPoint_iff, Table.hasPoint_iff]
  unfold Table.mirror Point.mirror
  constructor
  · rintro ⟨hy, hheight, hx, hwidth⟩
    exact ⟨hx, hwidth, hy, hheight⟩
  · rintro ⟨hx, hwidth, hy, hheight⟩
    exact ⟨hy, hheight, hx, hwidth⟩

theorem Table.hasPoint_ahead_mirror (t : Table) (p : Pose) :
    t.mirror.hasPoint (p.mirror.cell.ahead p.mirror.heading) =
      t.hasPoint (p.cell.ahead p.heading) := by
  rw [Pose.mirror, Cell.ahead_mirror, Table.hasPoint_mirror]

theorem Command.cell?_mirror (x y : UInt64) : cell? y x = (cell? x y).map Cell.mirror := by
  unfold cell?
  by_cases hsmall : x ≤ 0xFFFFFFFF ∧ y ≤ 0xFFFFFFFF
  · -- the bound is the same for both coordinates
    rw [if_pos hsmall, if_pos hsmall.symm]
    rfl
  · rw [if_neg hsmall, if_neg fun hswapped => hsmall hswapped.symm]
    rfl

/-- A cell is found in the mirror under the coordinates the other way round. -/
theorem Table.cellAt?_mirror (t : Table) (x y : UInt64) :
    t.mirror.cellAt? y x = (t.cellAt? x y).map Cell.mirror := by
  unfold Table.cellAt?
  rw [Command.cell?_mirror]
  cases Command.cell? x y with
  | none => rfl
  | some cell =>
    cases hcell : t.hasCell cell <;> simp [Option.filter, hcell]

theorem Robot.pose_mirror {r : Robot} {p : Pose} (hpose : r.pose = some p) :
    r.mirror.pose = some p.mirror := by
  rw [Robot.mirror, hpose, Option.map_some]

theorem Command.needsPlacement_mirror (c : Command) : c.mirror.needsPlacement = c.needsPlacement := by
  cases c <;> rfl

/-! ## Commands -/

namespace Command

/-- The mirrored command ends with the mirrored robot. Only what is said about it may differ. -/
theorem Executes.mirror {c : Command} {r r' : Robot} {o : Outcome} (h : Executes r c o r') :
    ∃ o', o'.success = o.success ∧ Executes r.mirror c.mirror o' r'.mirror := by
  cases h with
  | withheld hneeds hpose =>
    have hneeds' : c.mirror.needsPlacement := (needsPlacement_mirror c).trans hneeds
    have hpose' : r.mirror.pose = none := by rw [Robot.mirror, hpose, Option.map_none]
    exact ⟨_, rfl, .withheld hneeds' hpose'⟩
  | @placed x y _ _ hcell =>
    have hcell' := r.table.cellAt?_mirror x y
    rw [hcell, Option.map_some] at hcell'
    exact ⟨_, rfl, .placed hcell'⟩
  | @misplaced x y heading hcell =>
    have hcell' := r.table.cellAt?_mirror x y
    rw [hcell, Option.map_none] at hcell'
    -- the refusal names the coordinates the other way round
    exact ⟨.failed (refusal (.place y x heading.mirror)), rfl, .misplaced hcell'⟩
  | @moved p cell hpose hahead hcell =>
    have hahead' : cell.mirror.point = p.mirror.cell.ahead p.mirror.heading := by
      rw [Cell.point_mirror, hahead]
      exact (Cell.ahead_mirror p.cell p.heading).symm
    have hcell' : r.mirror.table.hasCell cell.mirror := (r.table.hasCell_mirror cell).trans hcell
    exact ⟨_, rfl, .moved (Robot.pose_mirror hpose) hahead' hcell'⟩
  | @blocked p hpose hpoint =>
    have hpoint' := (r.table.hasPoint_ahead_mirror p).trans hpoint
    exact ⟨_, rfl, .blocked (Robot.pose_mirror hpose) hpoint'⟩
  | @turnedLeft p hpose =>
    -- in the mirror the robot turns right
    have hturn := Executes.turnedRight (Robot.pose_mirror hpose)
    rw [Pose.mirror, Heading.right_mirror] at hturn
    exact ⟨_, rfl, hturn⟩
  | @turnedRight p hpose =>
    have hturn := Executes.turnedLeft (Robot.pose_mirror hpose)
    rw [Pose.mirror, Heading.left_mirror] at hturn
    exact ⟨_, rfl, hturn⟩
  | @reported p hpose =>
    exact ⟨.printing p.mirror.text, rfl, .reported (Robot.pose_mirror hpose)⟩

/-- A command and its mirror image both succeed or both fail, and leave mirror images. -/
theorem execute_mirror (c : Command) (r : Robot) :
    (c.mirror.execute r.mirror).1.success = (c.execute r).1.success ∧
      (c.mirror.execute r.mirror).2 = (c.execute r).2.mirror := by
  rcases (executes_execute c r).mirror with ⟨o, hsuccess, hmirror⟩
  rw [hmirror.eq_execute]
  exact ⟨hsuccess, rfl⟩

end Command

/-- Mirror images stay mirror images through any commands. -/
theorem Robot.executeAll_mirror (r : Robot) (commands : List Command) :
    List.Forall₂ (fun plain mirrored =>
        mirrored.1.success = plain.1.success ∧ mirrored.2 = plain.2.mirror)
      (r.executeAll commands) (r.mirror.executeAll (commands.map Command.mirror)) := by
  induction commands generalizing r with
  | nil => exact .nil
  | cons c rest ih =>
    have hstep := Command.execute_mirror c r
    rw [List.map_cons, executeAll, executeAll]
    refine .cons hstep ?_
    rw [hstep.2]
    exact ih (c.execute r).2

/-- The two axes are treated alike. Give any commands to a new robot on a table, and the mirrored
commands to a new robot on the table with the sides swapped. After every command the two have both
succeeded or both failed, and they are both nowhere, or the one is on the cell with the coordinates
of the other swapped and looks in the mirrored direction. -/
theorem axes_are_treated_alike (t : Table) (commands : List Command) :
    let turned : Table := ⟨t.height, t.width, t.height_pos, t.width_pos⟩
    let plain := (Robot.unplaced t).executeAll commands
    let mirrored := (Robot.unplaced turned).executeAll (commands.map Command.mirror)
    List.Forall₂ (fun a b => b.1.success = a.1.success ∧
      b.2.pose = a.2.pose.map fun p => ⟨⟨p.cell.y, p.cell.x⟩, p.heading.mirror⟩) plain mirrored := by
  intro turned plain mirrored
  have hsteps := (Robot.unplaced t).executeAll_mirror commands
  refine hsteps.imp ?_
  rintro ⟨_, r⟩ ⟨_, _⟩ ⟨hsuccess, rfl⟩
  exact ⟨hsuccess, rfl⟩

end ToyRobot
