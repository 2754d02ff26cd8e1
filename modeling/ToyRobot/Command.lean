import ToyRobot.Heading

/-!
# Commands

What a line can ask of the robot. The coordinates of a placement are the numbers that were asked
for; whether a table has such a cell is not known yet.
-/

namespace ToyRobot

open Text

/-- One thing to ask of a robot. -/
inductive Command where
  | place (x y : UInt64) (heading : Heading)
  | move
  | left
  | right
  | report
deriving Repr, DecidableEq

namespace Command

def isPlace : Command → Bool
  | place .. => true
  | _ => false

/-- Whether only a placed robot can obey: every command but a placement. -/
def needsPlacement (c : Command) : Bool := !c.isPlace

def coordinates (x y : UInt64) : String :=
  Decimal.natText x.toNat ++ "," ++ Decimal.natText y.toNat

/-- The command in its normal spelling. -/
def text : Command → String
  | place x y heading => "PLACE " ++ coordinates x y ++ "," ++ heading.name
  | move => "MOVE"
  | left => "LEFT"
  | right => "RIGHT"
  | report => "REPORT"

/-- What is said when the command was tried and refused. -/
def refusal : Command → String
  | place x y _ =>
    "Cannot place robot at position " ++ coordinates x y ++ " - position is invalid"
  | move => "Cannot move robot - would fall off the table"
  | left => "Cannot rotate robot left"
  | right => "Cannot rotate robot right"
  | report => "Cannot generate report - robot state is invalid"

end Command

end ToyRobot
