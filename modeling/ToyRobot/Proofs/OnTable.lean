import ToyRobot.Proofs.History

/-!
# The robot stays on the table

The invariant is `Robot.OnTable`. Whatever a robot tries, it is left as it was or gets a new pose on
its table (`Robot.Yields`), so what one step does to it is bounded by `Robot.Keeps`: the table stays
the same, a robot on it stays on it, and a placed robot stays placed. The relation is reflexive and
transitive, so it passes from steps to runs, of a robot that is told directly what to do and of a
session that reads its orders.
-/

namespace ToyRobot

/-! ## What is kept -/

namespace Robot

/-- If the robot is somewhere, it is on a cell of its table. -/
def OnTable (r : Robot) : Prop :=
  ∀ p, r.pose = some p → r.table.hasCell p.cell

/-- A robot that is nowhere is on no wrong cell. -/
theorem onTable_unplaced (t : Table) : (unplaced t).OnTable := by
  intro p hp
  cases hp

theorem onTable_of_hasCell {t : Table} {p : Pose} (h : t.hasCell p.cell) :
    OnTable ⟨t, some p⟩ := by
  intro q hq
  cases hq
  exact h

/-- Nothing that the second robot has lost of the first. -/
structure Keeps (r r' : Robot) : Prop where
  table : r'.table = r.table
  onTable : r.OnTable → r'.OnTable
  placed : r.isPlaced → r'.isPlaced

theorem Keeps.refl (r : Robot) : r.Keeps r :=
  ⟨rfl, id, id⟩

theorem Keeps.trans {a b c : Robot} (hab : a.Keeps b) (hbc : b.Keeps c) : a.Keeps c where
  table := hbc.table.trans hab.table
  onTable h := hbc.onTable (hab.onTable h)
  placed h := hbc.placed (hab.placed h)

/-- A new pose on the table keeps all. -/
theorem Keeps.withPose {r : Robot} {p : Pose} (h : r.OnTable → r.table.hasCell p.cell) :
    r.Keeps (r.withPose p) where
  table := rfl
  onTable hr q hq := by
    cases hq
    exact h hr
  placed _ := rfl

/-! ## What an attempt leads to -/

/-- What any attempt leads to: it leaves the robot as it was, refused or not, or it succeeds with a
new pose that is on the table if the old one was. -/
inductive Yields (r : Robot) : Tried → Prop where
  | refused : Yields r ⟨false, r⟩
  | unmoved : Yields r ⟨true, r⟩
  | posed {p : Pose} : (r.OnTable → r.table.hasCell p.cell) → Yields r ⟨true, r.withPose p⟩

theorem Yields.keeps {r : Robot} {t : Tried} (h : r.Yields t) : r.Keeps t.robot := by
  cases h with
  | refused => exact .refl r
  | unmoved => exact .refl r
  | posed hcell => exact .withPose hcell

/-- A refused attempt leaves the robot as it was. -/
theorem Yields.robot_eq_of_refused {r : Robot} {t : Tried} (h : r.Yields t)
    (hrefused : t.success = false) : t.robot = r := by
  cases h with
  | refused => rfl
  | unmoved => rfl
  | posed _ => cases hrefused

end Robot

namespace Command.Executes

variable {c : Command} {r r' : Robot} {o : Outcome}

/-- A command is an attempt like those of the robot itself. -/
theorem yields (h : Executes r c o r') : r.Yields ⟨o.success, r'⟩ := by
  cases h with
  | withheld _ _ => exact .refused
  | misplaced _ => exact .refused
  | blocked _ _ => exact .refused
  | reported _ => exact .unmoved
  | placed hcell => exact .posed fun _ => Table.hasCell_of_cellAt? hcell
  | moved _ _ hcell => exact .posed fun _ => hcell
  -- a turn stays on the cell that the robot was on
  | @turnedLeft p hpose => exact .posed fun hr => hr p hpose
  | @turnedRight p hpose => exact .posed fun hr => hr p hpose

/-- Whatever a command comes to, it keeps the robot on its table. -/
theorem keeps (h : Executes r c o r') : r.Keeps r' :=
  h.yields.keeps

end Command.Executes

/-! ## Robots that are told what to do -/

namespace Robot

/-- One thing that a robot can be told to do. -/
inductive Action where
  | place (cell : Cell) (heading : Heading)
  | advance
  | turnLeft
  | turnRight
  | execute (c : Command)
deriving Repr, DecidableEq

/-- Tries an action. A command was possible if it succeeds. -/
def tryAction (r : Robot) : Action → Tried
  | .place cell heading => r.tryPlace cell heading
  | .advance => r.tryAdvance
  | .turnLeft => r.tryTurnLeft
  | .turnRight => r.tryTurnRight
  | .execute c => ⟨(c.execute r).1.success, (c.execute r).2⟩

/-- The robot after an action, possible or not. -/
def act (r : Robot) (a : Action) : Robot := (r.tryAction a).robot

def actAll (r : Robot) (actions : List Action) : Robot :=
  actions.foldl act r

/-- A placement is refused, or puts the robot on the table. -/
theorem tryPlace_yields (r : Robot) (cell : Cell) (heading : Heading) :
    r.Yields (r.tryPlace cell heading) := by
  cases hcell : r.table.hasCell cell with
  | true =>
    rw [tryPlace_of_hasCell hcell]
    exact .posed fun _ => hcell
  | false =>
    rw [tryPlace_of_off hcell]
    exact .refused

/-- A step is refused, or leads to a cell of the table. -/
theorem tryAdvance_yields (r : Robot) : r.Yields r.tryAdvance := by
  cases hpose : r.pose with
  | none =>
    rw [tryAdvance_of_unplaced hpose]
    exact .refused
  | some p =>
    cases hpoint : r.table.hasPoint (p.cell.ahead p.heading) with
    | true =>
      -- on the table the point ahead is a cell, wherever the robot comes from
      rcases Table.exists_cell_of_hasPoint hpoint with ⟨cell, hahead, hcell⟩
      rw [tryAdvance_of_ahead hpose hahead hcell]
      exact .posed fun _ => hcell
    | false =>
      rw [tryAdvance_of_edge hpose hpoint]
      exact .refused

/-- A turn is refused, or leaves the robot on its cell. -/
theorem tryTurn_yields (r : Robot) (quarter : Heading → Heading) :
    r.Yields (r.tryTurn quarter) := by
  cases hpose : r.pose with
  | none =>
    rw [tryTurn_of_unplaced hpose]
    exact .refused
  | some p =>
    rw [tryTurn_of_pose hpose]
    -- a turn stays on the cell that the robot was on
    exact .posed fun hr => hr p hpose

/-- Whatever a robot is told to do, it is left as it was or gets a new pose on its table. -/
theorem tryAction_yields (r : Robot) (a : Action) : r.Yields (r.tryAction a) := by
  cases a with
  | place cell heading => exact r.tryPlace_yields cell heading
  | advance => exact r.tryAdvance_yields
  | turnLeft => exact r.tryTurn_yields Heading.left
  | turnRight => exact r.tryTurn_yields Heading.right
  | execute c => exact (Command.executes_execute c r).yields

/-- An action keeps the robot on its table, possible or not. -/
theorem act_keeps (r : Robot) (a : Action) : r.Keeps (r.act a) :=
  (r.tryAction_yields a).keeps

/-- An action that is not possible leaves the robot as it was. -/
theorem act_of_refused {r : Robot} {a : Action} (h : (r.tryAction a).success = false) :
    r.act a = r :=
  (r.tryAction_yields a).robot_eq_of_refused h

theorem actAll_keeps (r : Robot) (actions : List Action) : r.Keeps (r.actAll actions) := by
  induction actions generalizing r with
  | nil => exact .refl r
  | cons a rest ih => exact (r.act_keeps a).trans (ih (r.act a))

end Robot

/-! ## Sessions -/

namespace Session

/-- A line keeps the robot on its table, whatever it says. -/
theorem process_keeps (s : Session) (line : String) :
    s.robot.Keeps (s.process line).session.robot := by
  rcases s.process_cases line with ⟨_, hprocess⟩ | ⟨c, _, _, hprocess⟩ | ⟨c, _, _, hprocess⟩
  · -- a line that is no command, or is passed over, does not reach the robot
    rw [hprocess]
    exact .refl s.robot
  · rw [hprocess]
    exact .refl s.robot
  · rw [hprocess]
    exact (Command.executes_execute c s.robot).keeps

theorem perform_keeps (s : Session) (op : Operation) :
    s.robot.Keeps (s.perform op).after.robot := by
  cases op with
  | line text =>
    rw [perform_line]
    exact s.process_keeps text
  | reset => exact .refl s.robot

theorem run_keeps (s : Session) (ops : List Operation) : s.robot.Keeps (s.run ops).robot := by
  induction ops generalizing s with
  | nil => exact .refl s.robot
  | cons op rest ih => exact (s.perform_keeps op).trans (ih (s.perform op).after)

/-- A robot is kept from when it is new, through its own actions and then through a session. -/
theorem run_actAll_keeps (t : Table) (actions : List Robot.Action) (ops : List Operation) :
    (Robot.unplaced t).Keeps (run ⟨(Robot.unplaced t).actAll actions, false⟩ ops).robot := by
  have hsession := run_keeps ⟨(Robot.unplaced t).actAll actions, false⟩ ops
  exact (Robot.actAll_keeps _ actions).trans hsession

end Session

/-! ## The bounds law -/

/-- From one robot to the next the table `t` stays the table, the next robot is on it or nowhere,
and it is somewhere if the first one was. -/
def Table.Holds (t : Table) (before after : Robot) : Prop :=
  after.table = t ∧
  (∀ p, after.pose = some p → p.cell.x < t.width ∧ p.cell.y < t.height) ∧
  (before.isPlaced → after.isPlaced)

/-- A robot that has come from a new one and goes on is held by its table. -/
theorem Table.holds_of_keeps {t : Table} {before after : Robot}
    (hbefore : (Robot.unplaced t).Keeps before) (hstep : before.Keeps after) :
    t.Holds before after := by
  have hafter := hbefore.trans hstep
  have htable : after.table = t := hafter.table
  have hon : after.OnTable := hafter.onTable (Robot.onTable_unplaced t)
  refine ⟨htable, ?_, hstep.placed⟩
  intro p hp
  have hcell := hon p hp
  rw [htable] at hcell
  exact Table.hasCell_iff_lt.mp hcell

/-- The robot never leaves the table. Two positive numbers are the size of a table, and whatever a
robot of that table is told to do, in any order, every step leaves it on the table, and right where
it was if the step is not possible; and every step of a session around such a robot leaves it on the
table too. -/
theorem robot_never_leaves_table {w h : UInt32} (hw : 0 < w) (hh : 0 < h) :
    ∃ t : Table, Table.ofSize w h = .ok t ∧ t.width = w ∧ t.height = h ∧
      (∀ (actions : List Robot.Action) (action : Robot.Action),
        let before := (Robot.unplaced t).actAll actions
        t.Holds before (before.act action) ∧
          ((before.tryAction action).success = false → before.act action = before)) ∧
      (∀ (actions : List Robot.Action) (ops : List Operation) (op : Operation),
        let before := Session.run ⟨(Robot.unplaced t).actAll actions, false⟩ ops
        t.Holds before.robot (before.perform op).after.robot) := by
  refine ⟨⟨w, h, hw, hh⟩, ?_, rfl, rfl, ?_, ?_⟩
  · simp [Table.ofSize, hw, hh]
  · intro actions action before
    -- a new robot is on its table, and all its actions keep it there
    have hbefore := Robot.actAll_keeps (Robot.unplaced ⟨w, h, hw, hh⟩) actions
    exact ⟨Table.holds_of_keeps hbefore (before.act_keeps action), Robot.act_of_refused⟩
  · intro actions ops op before
    -- the session takes the robot over where its own actions have left it
    have hsession := Session.run_keeps ⟨(Robot.unplaced ⟨w, h, hw, hh⟩).actAll actions, false⟩ ops
    have hbefore := (Robot.actAll_keeps _ actions).trans hsession
    exact Table.holds_of_keeps hbefore (before.perform_keeps op)

/-- The table of one column and as many rows as there can be: a robot in the last row cannot step
out of it. -/
theorem robot_never_leaves_longest_column :
    (0 : UInt32) < 1 ∧ (0 : UInt32) < 0xFFFFFFFF ∧
      ∃ t : Table, Table.ofSize 1 0xFFFFFFFF = .ok t ∧
        let before := (Robot.unplaced t).actAll [.place ⟨0, 0xFFFFFFFE⟩ .north]
        before.isPlaced ∧ t.Holds before (before.act .advance) ∧ before.act .advance = before := by
  have hw : (0 : UInt32) < 1 := by decide
  have hh : (0 : UInt32) < 0xFFFFFFFF := by decide
  rcases robot_never_leaves_table hw hh with ⟨t, ht, _, _, hact, _⟩
  rcases hact [.place ⟨0, 0xFFFFFFFE⟩ .north] .advance with ⟨hholds, hrefused⟩
  cases ht
  exact ⟨hw, hh, _, rfl, by decide, hholds, hrefused (by decide)⟩

end ToyRobot
