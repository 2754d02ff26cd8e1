import ToyRobot.Command.Execution
import ToyRobot.Command.Reading
import ToyRobot.Notice

/-!
# Sessions

A session is one robot and a gate. Until a placement has succeeded the gate is closed, and every
other command is passed over: the robot does not see it, a warning is given, and the line counts as
a success, so that commands in the wrong order do not stop a batch. A reset closes the gate again
and leaves the robot where it is.
-/

namespace ToyRobot

/-- A robot and whether it listens to commands other than placements. -/
structure Session where
  robot : Robot
  gateOpen : Bool
deriving Repr, DecidableEq

/-- What a session makes of a line. -/
structure Response where
  /-- What came of the line. -/
  outcome : Outcome
  /-- What was said about it, in order. -/
  notices : Log
  /-- The session afterwards. -/
  session : Session
deriving Repr, DecidableEq

/-- How the failure of a line is said to the user. -/
def Outcome.complaint (o : Outcome) : Log :=
  match o.success, o.error with
  | false, some error => [⟨.error, "Error: " ++ error⟩]
  | _, _ => []

/-- How the output of a command is said: a report on its own channel, any other output plainly. -/
def Outcome.announcement (o : Outcome) (c : Command) : Log :=
  match o.output with
  | some output => [⟨if c = .report then .report else .plain, output⟩]
  | none => []

namespace Session

/-- A session with an unplaced robot and a closed gate. -/
def fresh (table : Table) : Session := ⟨.unplaced table, false⟩

/-- The warning given for a command that is passed over. -/
def passedOver : Notice :=
  ⟨.warning,
    "Command ignored: Robot must be placed on the table before executing other commands"⟩

/-- Whether a command reaches the robot. -/
def admits (s : Session) (c : Command) : Bool := s.gateOpen || c.isPlace

/-- Hands a command to the robot. A placement that succeeds opens the gate. -/
def obey (s : Session) (c : Command) : Response :=
  let result := c.execute s.robot
  { outcome := result.1
    notices := result.1.announcement c
    session := ⟨result.2, s.gateOpen || (c.isPlace && result.1.success)⟩ }

/-- What a session makes of a line: a line that is no command fails, a command that is not admitted
is passed over, and any other reaches the robot. -/
def process (s : Session) (line : String) : Response :=
  match Command.ofLine line with
  | .error e => ⟨.failed e.message, [], s⟩
  | .ok c => if s.admits c then s.obey c else ⟨.done, [passedOver], s⟩

/-- Processes a line and complains if it fails. -/
def handle (s : Session) (line : String) : Response :=
  let r := s.process line
  { r with notices := r.notices ++ r.outcome.complaint }

/-- Closes the gate. -/
def reset (s : Session) : Session := { s with gateOpen := false }

/-- Processes lines one after another: what came of each, and the session at the end. -/
def processAll : Session → List String → List Response × Session
  | s, [] => ([], s)
  | s, line :: rest =>
    let r := s.process line
    let later := r.session.processAll rest
    (r :: later.1, later.2)

end Session

end ToyRobot
