import ToyRobot.Proofs.OnTable
import ToyRobot.Proofs.Placement

/-!
# A report restores the robot

A report is what is written behind the keyword of a placement (`Pose.text_placement`), so it can be
given back as one. What it then asks for is a cell that some robot of the table was on, and a robot
is never anywhere but on its table: the placement is accepted, whatever the session that is told,
and brings its robot to where the other one was. In this way a report holds all there is to know of
a placed robot (`Pose.text_inj`).
-/

namespace ToyRobot

/-! ## Reports as placements -/

namespace Pose

/-- The placement that brings a robot into a pose. -/
def placement (p : Pose) : Command :=
  .place p.cell.x.toUInt64 p.cell.y.toUInt64 p.heading

/-- With the keyword in front of it, a report is the normal spelling of a placement. -/
theorem text_placement (p : Pose) : p.placement.text = "PLACE " ++ p.text := by
  show "PLACE " ++ Command.coordinates p.cell.x.toUInt64 p.cell.y.toUInt64 ++ "," ++
    p.heading.name = "PLACE " ++ (p.cell.text ++ "," ++ p.heading.name)
  have hcell : Command.coordinates p.cell.x.toUInt64 p.cell.y.toUInt64 = p.cell.text := by
    rw [Command.coordinates, Cell.text, UInt32.toNat_toUInt64, UInt32.toNat_toUInt64]
  rw [hcell]
  simp only [String.append_assoc]

/-- With the keyword in front of it, a report is read as the placement of its pose. -/
theorem ofLine?_text (p : Pose) : Command.ofLine? ("PLACE " ++ p.text) = some p.placement := by
  rw [← text_placement, Command.ofLine?_text]

/-- A placement tells the pose that it is for. -/
theorem placement_inj {p q : Pose} (h : p.placement = q.placement) : p = q := by
  rcases Command.place.inj h with ⟨hx64, hy64, hheading⟩
  have hx : p.cell.x = q.cell.x := UInt32.toUInt64_inj.mp hx64
  have hy : p.cell.y = q.cell.y := UInt32.toUInt64_inj.mp hy64
  rcases p with ⟨⟨_, _⟩, _⟩
  rcases q with ⟨⟨_, _⟩, _⟩
  cases hx
  cases hy
  cases hheading
  rfl

/-- Robots that report the same are in the same pose. -/
theorem text_inj {p q : Pose} (h : p.text = q.text) : p = q := by
  apply placement_inj
  apply Command.text_inj
  rw [text_placement, text_placement, h]

end Pose

/-- A robot reports the text of its pose. -/
theorem Robot.report_eq_some_iff {r : Robot} {text : String} :
    r.report = some text ↔ ∃ p, r.pose = some p ∧ p.text = text :=
  Option.map_eq_some_iff

/-! ## Placements of a reported pose -/

/-- A cell of the table is found by its own coordinates. -/
theorem Table.cellAt?_of_hasCell {t : Table} {cell : Cell} (h : t.hasCell cell) :
    t.cellAt? cell.x.toUInt64 cell.y.toUInt64 = some cell := by
  have hsome : (t.cellAt? cell.x.toUInt64 cell.y.toUInt64).isSome := by
    rw [Table.isSome_cellAt?_iff, UInt32.toNat_toUInt64, UInt32.toNat_toUInt64]
    exact Table.hasCell_iff.mp h
  rcases Option.isSome_iff_exists.mp hsome with ⟨found, hfound⟩
  -- what is found has the same coordinates, so it is the same cell
  rcases Table.toNat_of_cellAt? hfound with ⟨hx, hy⟩
  rw [UInt32.toNat_toUInt64, UInt32.toNat_inj] at hx hy
  rcases found with ⟨x, y⟩
  cases hx
  cases hy
  exact hfound

/-- A session that is told a pose on its table takes it over, whatever it was before. -/
theorem Session.process_pose_text (s : Session) {p : Pose} (h : s.robot.table.hasCell p.cell) :
    s.process ("PLACE " ++ p.text) = ⟨.done, [], ⟨s.robot.withPose p, true⟩⟩ :=
  process_placed p.ofLine?_text (Table.cellAt?_of_hasCell h)

/-- A report restores the robot. Take any robot that has come from a new one, by its own actions and
through a session, and is somewhere. To put the keyword of a placement in front of its report and
give the line to any session on the same table succeeds, opens the gate, and makes the robot of that
session the same as the one that reported; so the next report is the same again. In particular two
placed robots that report the same are in the same pose. -/
theorem report_restores_robot (t : Table) (actions : List Robot.Action) (ops : List Operation)
    {text : String} :
    let robot := (Session.run ⟨(Robot.unplaced t).actAll actions, false⟩ ops).robot
    (robot.report = some text → ∀ s : Session, s.robot.table = t →
      let restored := s.process ("PLACE " ++ text)
      restored.outcome = .done ∧ restored.session.gateOpen = true ∧
        restored.session.robot = robot ∧
        restored.session.process "REPORT" =
          ⟨.printing text, [⟨.report, text⟩], restored.session⟩) ∧
      ∀ a b : Robot, a.isPlaced = true → b.isPlaced = true → a.report = b.report →
        a.pose = b.pose := by
  intro robot
  have hkeeps : (Robot.unplaced t).Keeps robot := Session.run_actAll_keeps t actions ops
  have htable : robot.table = t := hkeeps.table
  constructor
  · intro hreport s hs restored
    rcases Robot.report_eq_some_iff.mp hreport with ⟨p, hpose, rfl⟩
    -- wherever a robot of the table has come to, it is on the table
    have hcell : s.robot.table.hasCell p.cell := by
      rw [hs, ← htable]
      exact hkeeps.onTable (Robot.onTable_unplaced t) p hpose
    have hrobot : s.robot.withPose p = robot := by
      rw [Robot.withPose, hs, ← htable, ← hpose]
    have hrestored : restored = ⟨.done, [], ⟨robot, true⟩⟩ := by
      rw [← hrobot]
      exact s.process_pose_text hcell
    have hread : Command.ofLine? "REPORT" = some .report := Command.ofLine?_text .report
    rw [hrestored]
    exact ⟨rfl, rfl, rfl, Session.process_reported hread rfl hpose⟩
  · intro a b ha hb hsame
    rcases Option.isSome_iff_exists.mp ha with ⟨p, hp⟩
    rcases Option.isSome_iff_exists.mp hb with ⟨q, hq⟩
    rw [Robot.report, Robot.report, hp, hq, Option.map_some, Option.map_some,
      Option.some_inj] at hsame
    rw [hp, hq, Pose.text_inj hsame]

/-- A robot in a corner, after a move that was refused, a turn and a reset: its report brings over a
robot that was elsewhere behind an open gate, and no robot that reports the same, on whatever table,
is in another pose. -/
theorem report_from_corner_restores_robot :
    let t := Table.standard
    let actions : List Robot.Action := [.place ⟨3, 1⟩ .north, .turnLeft]
    let ops : List Operation :=
      [.line "PLACE 4,0,EAST", .line "MOVE", .line "LEFT", .reset, .line "RIGHT"]
    let robot := (Session.run ⟨(Robot.unplaced t).actAll actions, false⟩ ops).robot
    let text := "4,0,NORTH"
    let s : Session := ⟨(Robot.unplaced t).withPose ⟨⟨0, 2⟩, .south⟩, true⟩
    let other := (Robot.unplaced ⟨9, 1, by decide, by decide⟩).withPose ⟨⟨4, 0⟩, .north⟩
    robot.report = some text ∧ s.robot.table = t ∧ other.report = robot.report ∧
      (s.process ("PLACE " ++ text)).session.robot = robot ∧ other.pose = robot.pose := by
  intro t actions ops robot text s other
  have hreport : robot.report = some text := by decide +kernel
  have hplaced : robot.isPlaced = true := by decide +kernel
  have hsame : other.report = robot.report := by decide +kernel
  rcases report_restores_robot t actions ops with ⟨hrestores, hpose⟩
  rcases hrestores hreport s rfl with ⟨_, _, hrobot, _⟩
  exact ⟨hreport, rfl, hsame, hrobot, hpose other robot rfl hplaced hsame⟩

end ToyRobot
