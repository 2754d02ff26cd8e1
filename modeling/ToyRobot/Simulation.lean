import ToyRobot.Keyboard
import ToyRobot.Script
import ToyRobot.Session
import ToyRobot.Settings
import ToyRobot.Transcript

/-!
# Simulations

A simulation is a session whose notices are kept in a log. It can be driven line by line, by a
conversation over a keyboard, or by a script; a script can be played, with every line echoed, or
transcribed, with one entry for every line.

What a session says during a conversation or a script does not depend on the log, so it is given by
functions on sessions. Only a transcription looks at the log: it takes everything the log holds
after each line.
-/

namespace ToyRobot

/-! ## What is said -/

/-- What is said before a conversation. -/
def banner : Log := [
  ⟨.success, "Robot Simulation Started"⟩,
  ⟨.info, "Available commands: PLACE X,Y,F | MOVE | LEFT | RIGHT | REPORT"⟩,
  ⟨.info, "Type EXIT or QUIT to exit, or press Ctrl+C"⟩,
  ⟨.info, "Commands are case-insensitive (e.g., 'place', 'PLACE', 'Place' all work)"⟩,
  ⟨.info, "Valid directions for F parameter: NORTH, SOUTH, EAST, WEST"⟩,
  ⟨.warning,
    "Note: Robot must be placed on the table before other commands can be executed."⟩,
  ⟨.plain, ""⟩]

def echo (line : String) : Notice := ⟨.command, "> " ++ line⟩

def Script.opening (path : String) : Log :=
  [⟨.info, "Reading commands from: " ++ path⟩, ⟨.plain, ""⟩]

def Script.closing : Log :=
  [⟨.plain, ""⟩, ⟨.success, "File processing completed."⟩]

namespace Session

/-- Handles lines one after another: what is said about each, and the session at the end. -/
def converse : Session → List String → List Log × Session
  | s, [] => ([], s)
  | s, line :: rest =>
    let r := s.handle line
    let later := r.session.converse rest
    (r.notices :: later.1, later.2)

/-- Handles lines one after another and echoes each before what is said about it. -/
def play : Session → List String → Log × Session
  | s, [] => ([], s)
  | s, line :: rest =>
    let r := s.handle line
    let later := r.session.play rest
    (echo line :: r.notices ++ later.1, later.2)

/-- All that is said when the unread lines of a script are played. -/
def playScript (s : Session) (script : Script) : Log × Session :=
  let played := s.play script.drain.1
  (Script.opening script.path ++ played.1 ++ Script.closing, played.2)

end Session

/-! ## Simulations -/

/-- A session and what has been said in it. -/
structure Simulation where
  session : Session
  log : Log
deriving Repr, DecidableEq

/-- What a conversation leaves behind. -/
structure Conversation where
  /-- How often the user was asked for a line. -/
  prompts : Nat
  keyboard : Keyboard
  simulation : Simulation
deriving Repr, DecidableEq

namespace Simulation

def fresh (table : Table) : Simulation := ⟨.fresh table, []⟩

def ofSettings (settings : Settings) : Except Table.SizeError Simulation :=
  settings.table.map fresh

/-- Keeps notices in the log. -/
def say (sim : Simulation) (notices : Log) : Simulation := { sim with log := sim.log ++ notices }

/-- Takes over what a session made of a line. -/
def absorb (sim : Simulation) (r : Response) : Outcome × Simulation :=
  (r.outcome, ⟨r.session, sim.log ++ r.notices⟩)

def process (sim : Simulation) (line : String) : Outcome × Simulation :=
  sim.absorb (sim.session.process line)

def handle (sim : Simulation) (line : String) : Outcome × Simulation :=
  sim.absorb (sim.session.handle line)

def processAll (sim : Simulation) (lines : List String) : List Outcome × Simulation :=
  let done := sim.session.processAll lines
  (done.1.map Response.outcome, ⟨done.2, sim.log ++ done.1.flatMap Response.notices⟩)

def reset (sim : Simulation) : Simulation := { sim with session := sim.session.reset }

def greet (sim : Simulation) : Simulation := sim.say banner

/-- Says the banner and handles lines from a keyboard until there are no more. The user is asked for
each line, and once more for the line that does not come. -/
def converse (sim : Simulation) (keyboard : Keyboard) : Conversation :=
  let typed := keyboard.lines
  let answered := sim.session.converse typed.1
  { prompts := typed.1.length + 1
    keyboard := typed.2
    simulation := ⟨answered.2, sim.log ++ banner ++ answered.1.flatten⟩ }

/-- Plays the unread lines of a script. -/
def play (sim : Simulation) (script : Script) : Script × Simulation :=
  let played := sim.session.playScript script
  (script.drain.2, ⟨played.2, sim.log ++ played.1⟩)

/-- Processes lines without echo. After each line the log is emptied into its entry, which keeps the
warnings. -/
def transcribeLines : Simulation → List String → List Entry × Simulation
  | sim, [] => ([], sim)
  | sim, line :: rest =>
    let processed := sim.process line
    let entry : Entry := ⟨line, processed.1, processed.2.log.on .warning⟩
    let later := transcribeLines ⟨processed.2.session, []⟩ rest
    (entry :: later.1, later.2)

/-- Transcribes the unread lines of a script. -/
def transcribe (sim : Simulation) (script : Script) : List Entry × Script × Simulation :=
  let drained := script.drain
  let written := sim.transcribeLines drained.1
  (written.1, drained.2, written.2)

end Simulation

end ToyRobot
