import ToyRobot.Command
import ToyRobot.Robot

/-!
# Carrying out a command

Every command is carried out under one contract. Where the command needs a placed robot and the
robot is unplaced, nothing is tried. Otherwise the command is tried once, and if it is refused only
its own refusal is said, whatever the attempt had to say.
-/

namespace ToyRobot

/-! ## Outcomes -/

/-- What came of a line: whether it succeeded, a line to print, and what went wrong. -/
structure Outcome where
  success : Bool
  output : Option String
  error : Option String
deriving Repr, DecidableEq

/-- A success with nothing to print. -/
def Outcome.done : Outcome := ⟨true, none, none⟩

/-- A success that prints a line. -/
def Outcome.printing (output : String) : Outcome := ⟨true, some output, none⟩

def Outcome.failed (error : String) : Outcome := ⟨false, none, some error⟩

/-! ## The contract -/

/-- What an attempt led to. -/
structure Effect where
  /-- The robot afterwards. -/
  robot : Robot
  /-- Whether the attempt succeeded. -/
  success : Bool
  /-- What the attempt had to say. -/
  output : Option String
deriving Repr, DecidableEq

/-- An action has nothing to say. -/
def Effect.ofTried (t : Tried) : Effect := ⟨t.robot, t.success, none⟩

/-- How far an attempt came. -/
inductive Verdict where
  /-- It was not made, because the robot was unplaced. -/
  | withheld
  /-- It was made, and refused. -/
  | refused
  /-- It was made, and succeeded. -/
  | obeyed (output : Option String)
deriving Repr, DecidableEq

namespace Verdict

def unplacedMessage : String := "Robot is not placed on the table"

def attempted : Verdict → Bool
  | withheld => false
  | _ => true

/-- What came of it, given what is said of a refusal. -/
def outcome (refusal : String) : Verdict → Outcome
  | withheld => .failed unplacedMessage
  | refused => .failed refusal
  | obeyed none => .done
  | obeyed (some output) => .printing output

end Verdict

/-- Tries something on a robot under the contract: the verdict, and the robot afterwards. -/
def Robot.attempt (r : Robot) (needsPlacement : Bool) (effect : Robot → Effect) :
    Verdict × Robot :=
  if needsPlacement && !r.isPlaced then
    (.withheld, r)
  else
    let e := effect r
    (if e.success then .obeyed e.output else .refused, e.robot)

/-! ## Commands -/

namespace Command

/-- The cell with the given coordinates, if they are small enough to be those of a cell. -/
def cell? (x y : UInt64) : Option Cell :=
  if x ≤ 0xFFFFFFFF ∧ y ≤ 0xFFFFFFFF then some ⟨x.toUInt32, y.toUInt32⟩ else none

/-- What trying a command does to a robot. A placement beyond all cells does not reach it. -/
def effect : Command → Robot → Effect
  | place x y heading, r =>
    match cell? x y with
    | some cell => .ofTried (r.tryPlace cell heading)
    | none => ⟨r, false, none⟩
  | move, r => .ofTried r.tryAdvance
  | left, r => .ofTried r.tryTurnLeft
  | right, r => .ofTried r.tryTurnRight
  | report, r => ⟨r, r.report.isSome, r.report⟩

/-- Carries out a command: what came of it, and the robot afterwards. -/
def execute (c : Command) (r : Robot) : Outcome × Robot :=
  let attempt := r.attempt c.needsPlacement c.effect
  (attempt.1.outcome c.refusal, attempt.2)

end Command

end ToyRobot
