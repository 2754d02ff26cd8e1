import ToyRobot.Table

/-!
# Settings

What can be chosen before a simulation starts, and what holds where nothing is chosen.
-/

namespace ToyRobot

/-- The size of the table, and whether the console shows colors. -/
structure Settings where
  width : UInt32 := Table.standardSide
  height : UInt32 := Table.standardSide
  color : Bool := true
deriving Repr, DecidableEq

def Settings.table (s : Settings) : Except Table.SizeError Table :=
  Table.ofSize s.width s.height

end ToyRobot
