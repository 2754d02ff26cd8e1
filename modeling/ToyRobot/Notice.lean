/-!
# Notices

Everything the program says is a notice: one line of text on a channel. Which channel a line
belongs to is decided where it is said; what a channel looks like is decided where it is shown.
-/

namespace ToyRobot

/-- What kind of line a notice is. -/
inductive Channel where
  | plain
  | error
  | success
  | info
  | warning
  /-- The echo of a line that was read from a file. -/
  | command
  /-- Where the robot says it is. -/
  | report
deriving Repr, DecidableEq

/-- One line of text on a channel. -/
structure Notice where
  channel : Channel
  text : String
deriving Repr, DecidableEq

/-- Notices in the order in which they were given. -/
abbrev Log := List Notice

/-- The texts on one channel, in order. -/
def Log.on (log : Log) (channel : Channel) : List String :=
  (log.filter fun n => n.channel == channel).map Notice.text

theorem Log.on_append (a b : Log) (channel : Channel) :
    Log.on (a ++ b) channel = a.on channel ++ b.on channel := by
  simp [Log.on]

def Log.write (log : Log) (notice : Notice) : Log :=
  log ++ [notice]

end ToyRobot
