import ToyRobot.Heading

/-!
# The robot

A robot belongs to one table and is nowhere until it is placed. To try an action is to be told
whether it was possible, and to be left with a robot, whichever way it went (`Tried`). The type does
not say that an action which is not possible leaves the robot as it was.
-/

namespace ToyRobot

/-- Where a placed robot is and where it looks. -/
structure Pose where
  cell : Cell
  heading : Heading
deriving Repr, DecidableEq

/-- The text of a pose, as a robot reports it. -/
def Pose.text (p : Pose) : String :=
  p.cell.text ++ "," ++ p.heading.name

/-- A robot and the table it belongs to. -/
structure Robot where
  table : Table
  /-- Where the robot is, once it has been placed. -/
  pose : Option Pose
deriving Repr, DecidableEq

/-- What trying an action led to. -/
structure Tried where
  /-- Whether the action was possible. -/
  success : Bool
  /-- The robot afterwards. -/
  robot : Robot
deriving Repr, DecidableEq

/-- The robot that an action has led to, if it was possible. -/
def Tried.result (t : Tried) : Option Robot :=
  if t.success then some t.robot else none

namespace Robot

/-- A robot that has not been placed yet. -/
def unplaced (table : Table) : Robot := ⟨table, none⟩

def isPlaced (r : Robot) : Bool := r.pose.isSome

def withPose (r : Robot) (p : Pose) : Robot := { r with pose := some p }

/-- Puts the robot on a cell, wherever it was before. Not possible if the cell is off the table. -/
def tryPlace (r : Robot) (cell : Cell) (heading : Heading) : Tried :=
  if !r.table.hasCell cell then
    ⟨false, r⟩
  else
    ⟨true, r.withPose ⟨cell, heading⟩⟩

/-- One step forward. Not possible if the robot is unplaced or would leave the table. -/
def tryAdvance (r : Robot) : Tried :=
  match r.pose with
  | none => ⟨false, r⟩
  | some p =>
    let target := p.cell.ahead p.heading
    if !r.table.hasPoint target then
      ⟨false, r⟩
    else
      match Cell.ofPoint target with
      | .ok cell => ⟨true, r.withPose { p with cell }⟩
      | .error _ => ⟨false, r⟩

/-- A turn on the spot. Not possible if the robot is unplaced. -/
def tryTurn (r : Robot) (quarter : Heading → Heading) : Tried :=
  match r.pose with
  | some p => ⟨true, r.withPose { p with heading := quarter p.heading }⟩
  | none => ⟨false, r⟩

def tryTurnLeft (r : Robot) : Tried := r.tryTurn Heading.left

def tryTurnRight (r : Robot) : Tried := r.tryTurn Heading.right

/-- The line that says where the robot is; an unplaced robot has none. -/
def report (r : Robot) : Option String := r.pose.map Pose.text

/-! ## Actions that are possible -/

/-- The robot on another cell, where it can be put there. -/
def place (r : Robot) (cell : Cell) (heading : Heading) : Option Robot :=
  (r.tryPlace cell heading).result

/-- The robot one step ahead, where it can make the step. -/
def advance (r : Robot) : Option Robot := r.tryAdvance.result

def turnLeft (r : Robot) : Option Robot := r.tryTurnLeft.result

def turnRight (r : Robot) : Option Robot := r.tryTurnRight.result

end Robot

end ToyRobot
