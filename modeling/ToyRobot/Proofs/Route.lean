import Mathlib.Tactic.Ring
import ToyRobot.Proofs.Reckoning
import ToyRobot.Proofs.Walk

/-!
# A route to every pose

From a pose on a table a robot comes to any other by going along its row to the right column and then
along that column to the right row (`Pose.route`). The corner where it turns is on the table, as its
column is that of the one pose and its row that of the other; so the route is two straight lines, and
a straight line between two cells of a table does not leave it (`walk_straight`). The turns before,
between and after the lines are never more than five.
-/

namespace ToyRobot

/-! ## Turning on the spot -/

namespace Heading

/-- The turns from one direction to another, no more of them than it takes. -/
def turnTo (h goal : Heading) : List Command :=
  if goal = h then []
  else if goal = h.right then [.right]
  else if goal = h.left then [.left]
  else [.left, .left]

/-- A direction is ahead, to the right, to the left or behind. -/
theorem turnTo_cases (h goal : Heading) :
    (goal = h ∧ h.turnTo goal = []) ∨ (goal = h.right ∧ h.turnTo goal = [.right]) ∨
      (goal = h.left ∧ h.turnTo goal = [.left]) ∨
      (goal = h.about ∧ h.turnTo goal = [.left, .left]) := by
  cases h <;> cases goal <;> decide

/-- Two turns are enough for any direction. -/
theorem length_turnTo_le (h goal : Heading) : (h.turnTo goal).length ≤ 2 := by
  rcases h.turnTo_cases goal with ⟨_, hturns⟩ | ⟨_, hturns⟩ | ⟨_, hturns⟩ | ⟨_, hturns⟩
  · simp [hturns]
  · simp [hturns]
  · simp [hturns]
  · simp [hturns]

/-- Unless the robot has to turn about, one turn is enough. -/
theorem length_turnTo_le_one {h goal : Heading} (hbehind : goal ≠ h.about) :
    (h.turnTo goal).length ≤ 1 := by
  rcases h.turnTo_cases goal with ⟨_, hturns⟩ | ⟨_, hturns⟩ | ⟨_, hturns⟩ | ⟨habout, _⟩
  · simp [hturns]
  · simp [hturns]
  · simp [hturns]
  · exact absurd habout hbehind

end Heading

variable {t : Table}

/-- The turns to a direction are a walk on the spot. -/
theorem walk_turnTo (t : Table) (cell : Cell) (h goal : Heading) :
    Walk t ⟨cell, h⟩ (h.turnTo goal) ⟨cell, goal⟩ := by
  rcases h.turnTo_cases goal with ⟨rfl, hturns⟩ | ⟨rfl, hturns⟩ | ⟨rfl, hturns⟩ | ⟨rfl, hturns⟩
  · rw [hturns]
    exact .rest
  · rw [hturns]
    exact .step .turnedRight .rest
  · rw [hturns]
    exact .step .turnedLeft .rest
  · rw [hturns]
    exact walk_about t ⟨cell, h⟩

/-! ## Straight on -/

/-- Between two cells of a table that lie in line, a robot walks straight on from the one to the
other. -/
theorem walk_straight {h : Heading} {n : Nat} {start goal : Cell} (hstart : t.hasCell start)
    (hgoal : t.hasCell goal) (hx : (goal.x.toNat : Int) = start.x.toNat + n * h.unit.1)
    (hy : (goal.y.toNat : Int) = start.y.toNat + n * h.unit.2) :
    Walk t ⟨start, h⟩ (List.replicate n .move) ⟨goal, h⟩ := by
  induction n generalizing start with
  | zero =>
    rw [Int.natCast_zero, Int.zero_mul, Int.add_zero] at hx hy
    have hsame : goal = start := Cell.eq_of_toNat_eq (by omega) (by omega)
    rw [hsame]
    exact .rest
  | succ n ih =>
    -- the square in front lies between the two cells, so it is on the table as well
    have hcovers : t.Covers (Pose.front ⟨start, h⟩) := by
      rw [Table.hasCell_iff] at hstart hgoal
      cases h <;> simp only [Heading.unit, Table.Covers, Pose.front] at hx hy ⊢ <;> omega
    obtain ⟨next, hahead, hnext⟩ :=
      Table.exists_cell_of_hasPoint (Table.hasPoint_ahead_iff.mpr hcovers)
    have hfront : ((next.x.toNat, next.y.toNat) : Int × Int) = Pose.front ⟨start, h⟩ :=
      Cell.point_eq_ahead_iff.mp hahead
    rw [Pose.front_eq_square_add_unit, Prod.mk.injEq] at hfront
    obtain ⟨hfrontX, hfrontY⟩ := hfront
    simp only [Pose.square] at hfrontX hfrontY
    -- one step less is left from there
    have hrest : Walk t ⟨next, h⟩ (List.replicate n .move) ⟨goal, h⟩ := by
      apply ih hnext
      · rw [hx, hfrontX]
        push_cast
        ring
      · rw [hy, hfrontY]
        push_cast
        ring
    exact .step (.moved hahead hnext) hrest

/-! ## The route -/

/-- How many steps there are between two coordinates. -/
def stepsBetween (start goal : UInt32) : Nat :=
  ((goal.toNat : Int) - start.toNat).natAbs

/-- By how much each of the steps changes the coordinate. -/
def stepToward (start goal : UInt32) : Int :=
  if start ≤ goal then 1 else -1

/-- The steps lead from the one coordinate to the other. -/
theorem toNat_eq_add_steps (start goal : UInt32) :
    (goal.toNat : Int) = start.toNat + stepsBetween start goal * stepToward start goal := by
  unfold stepsBetween stepToward
  split
  · rename_i hle
    rw [UInt32.le_iff_toNat_le] at hle
    omega
  · rename_i hle
    rw [UInt32.le_iff_toNat_le] at hle
    omega

/-- The direction along a row in which the column of another cell lies. -/
def Cell.sideways (start goal : Cell) : Heading :=
  if start.x ≤ goal.x then .east else .west

/-- The direction along a column in which the row of another cell lies. -/
def Cell.upright (start goal : Cell) : Heading :=
  if start.y ≤ goal.y then .north else .south

/-- Along the row, along the column, and each time a turn to where it goes on. -/
def Pose.route (p q : Pose) : List Command :=
  p.heading.turnTo (p.cell.sideways q.cell) ++
    List.replicate (stepsBetween p.cell.x q.cell.x) .move ++
    (p.cell.sideways q.cell).turnTo (p.cell.upright q.cell) ++
    List.replicate (stepsBetween p.cell.y q.cell.y) .move ++
    (p.cell.upright q.cell).turnTo q.heading

namespace Cell

variable {start goal : Cell}

/-- To go sideways is to step toward the column of the goal. -/
theorem unit_sideways : (start.sideways goal).unit = (stepToward start.x goal.x, 0) := by
  unfold sideways stepToward
  split <;> rfl

/-- To go upright is to step toward the row of the goal. -/
theorem unit_upright : (start.upright goal).unit = (0, stepToward start.y goal.y) := by
  unfold upright stepToward
  split <;> rfl

/-- At the corner the robot never has to turn about. -/
theorem upright_ne_about_sideways (other : Cell) :
    start.upright goal ≠ (start.sideways other).about := by
  unfold upright sideways
  split <;> split <;> decide

end Cell

/-- The route leads along both lines to its goal. -/
theorem walk_route {p q : Pose} (hp : t.hasCell p.cell) (hq : t.hasCell q.cell) :
    Walk t p (p.route q) q := by
  obtain ⟨start, h⟩ := p
  obtain ⟨goal, h'⟩ := q
  -- the corner has the column of the goal and the row of the start
  have hcorner : t.hasCell ⟨goal.x, start.y⟩ := by
    rw [Table.hasCell_iff] at hp hq ⊢
    exact ⟨hq.1, hp.2⟩
  have hrow : Walk t ⟨start, start.sideways goal⟩
      (List.replicate (stepsBetween start.x goal.x) .move)
      ⟨⟨goal.x, start.y⟩, start.sideways goal⟩ := by
    apply walk_straight hp hcorner
    · rw [Cell.unit_sideways]
      exact toNat_eq_add_steps start.x goal.x
    · rw [Cell.unit_sideways, Int.mul_zero, Int.add_zero]
  have hcolumn : Walk t ⟨⟨goal.x, start.y⟩, start.upright goal⟩
      (List.replicate (stepsBetween start.y goal.y) .move) ⟨goal, start.upright goal⟩ := by
    apply walk_straight hcorner hq
    · rw [Cell.unit_upright, Int.mul_zero, Int.add_zero]
    · rw [Cell.unit_upright]
      exact toNat_eq_add_steps start.y goal.y
  exact ((((walk_turnTo t start h _).append hrow).append (walk_turnTo t _ _ _)).append
    hcolumn).append (walk_turnTo t goal _ h')

/-- A route takes as many moves as there are columns and rows between, and five turns at most. -/
theorem length_route_le (p q : Pose) :
    (p.route q).length ≤ stepsBetween p.cell.x q.cell.x + stepsBetween p.cell.y q.cell.y + 5 := by
  have hfirst := Heading.length_turnTo_le p.heading (p.cell.sideways q.cell)
  have hcorner : ((p.cell.sideways q.cell).turnTo (p.cell.upright q.cell)).length ≤ 1 :=
    Heading.length_turnTo_le_one (Cell.upright_ne_about_sideways q.cell)
  have hlast := Heading.length_turnTo_le (p.cell.upright q.cell) q.heading
  simp only [Pose.route, List.length_append, List.length_replicate]
  omega

/-- A route with as many turns as there can be. -/
example : Pose.route ⟨⟨0, 0⟩, .west⟩ ⟨⟨1, 1⟩, .south⟩ =
    [.left, .left, .move, .left, .move, .left, .left] := by
  decide

/-- Every pose is reachable. For a robot that is placed on its table and any pose on that table there
are moves and turns, as many as there are columns and rows between the two cells and at most five
more, that all succeed and lead to exactly that pose. And no moves and turns, whether they succeed or
not, lead to any other pose than those on the table. -/
theorem every_pose_is_reachable {r : Robot} {p : Pose} (hpose : r.pose = some p)
    (hcell : r.table.hasCell p.cell) (q : Pose) :
    let columns := ((q.cell.x.toNat : Int) - p.cell.x.toNat).natAbs
    let rows := ((q.cell.y.toNat : Int) - p.cell.y.toNat).natAbs
    let onTable := q.cell.x < r.table.width ∧ q.cell.y < r.table.height
    (onTable → ∃ commands : List Command, (∀ c ∈ commands, c.isStride = true) ∧
      commands.length ≤ columns + rows + 5 ∧ r.obeyAll? commands = some (r.withPose q)) ∧
    ((∃ commands : List Command, (∀ c ∈ commands, c.isStride = true) ∧
      (r.actAll (commands.map .execute)).pose = some q) ↔ onTable) := by
  intro columns rows onTable
  obtain ⟨t, pose⟩ := r
  cases hpose
  have hroute : onTable → Walk t p (p.route q) q := by
    intro hq
    exact walk_route hcell (Table.hasCell_iff_lt.mpr hq)
  refine ⟨?_, ?_, ?_⟩
  · intro hq
    exact ⟨p.route q, (hroute hq).isStride, length_route_le p q, (hroute hq).obeyAll?⟩
  · -- whatever the commands, the robot has not left its table
    rintro ⟨commands, _, hq⟩
    have hkeeps := Robot.actAll_keeps ⟨t, some p⟩ (commands.map .execute)
    have hqcell := hkeeps.onTable (Robot.onTable_of_hasCell hcell) q hq
    rw [hkeeps.table] at hqcell
    exact Table.hasCell_iff_lt.mp hqcell
  · intro hq
    have hled := (Robot.obeyAll?_eq_some_iff.mp (hroute hq).obeyAll?).2
    refine ⟨p.route q, (hroute hq).isStride, ?_⟩
    rw [hled]

/-- On the table of one column and as many rows as there can be, from the one end to the other. -/
theorem far_end_of_longest_column_is_reachable :
    let t : Table := ⟨1, 0xFFFFFFFF, by decide, by decide⟩
    let r : Robot := ⟨t, some ⟨⟨0, 0⟩, .south⟩⟩
    let goal : Pose := ⟨⟨0, 0xFFFFFFFE⟩, .west⟩
    t.hasCell ⟨0, 0⟩ = true ∧ ∃ commands : List Command,
      (∀ c ∈ commands, c.isStride = true) ∧ commands.length ≤ 4294967299 ∧
        r.obeyAll? commands = some (r.withPose goal) := by
  intro t r goal
  have hpose : r.pose = some ⟨⟨0, 0⟩, .south⟩ := rfl
  have hcell : t.hasCell ⟨0, 0⟩ = true := by decide
  have hgoal : goal.cell.x < t.width ∧ goal.cell.y < t.height := by decide
  obtain ⟨commands, hstrides, hlength, hobeyed⟩ :=
    (every_pose_is_reachable hpose hcell goal).1 hgoal
  have hbound : commands.length ≤ 4294967299 := hlength.trans (by decide +kernel)
  exact ⟨hcell, commands, hstrides, hbound, hobeyed⟩

end ToyRobot
