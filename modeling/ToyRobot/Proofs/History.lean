import ToyRobot.Proofs.Execution
import ToyRobot.Session

/-!
# The history of a session

A session is driven by operations: lines to process, and resets. A run of operations leaves a trace
with one step for each of them, which records the session before and after and what came of it in
between. The three ways in which a session takes a line (`Session.process_cases`) are what every
fact about steps rests on.
-/

namespace ToyRobot

/-- One thing that is done to a session. -/
inductive Operation where
  | line (text : String)
  | reset
deriving Repr, DecidableEq

/-- One operation and what came of it. -/
structure Step where
  before : Session
  operation : Operation
  /-- What came of the line; nothing comes of a reset. -/
  outcome : Option Outcome
  /-- What was said, in order. -/
  notices : Log
  after : Session
deriving Repr, DecidableEq

namespace Session

/-- The step that an operation leads to. -/
def perform (s : Session) : Operation → Step
  | .line text =>
    let r := s.process text
    ⟨s, .line text, some r.outcome, r.notices, r.session⟩
  | .reset => ⟨s, .reset, none, [], s.reset⟩

/-- The steps that operations lead to, one after another. -/
def trace : Session → List Operation → List Step
  | _, [] => []
  | s, op :: rest => s.perform op :: (s.perform op).after.trace rest

/-- The session after operations. -/
def run : Session → List Operation → Session
  | s, [] => s
  | s, op :: rest => (s.perform op).after.run rest

theorem perform_line (s : Session) (text : String) :
    s.perform (.line text) =
      ⟨s, .line text, some (s.process text).outcome, (s.process text).notices,
        (s.process text).session⟩ := rfl

@[simp] theorem perform_before (s : Session) (op : Operation) : (s.perform op).before = s := by
  cases op <;> rfl

@[simp] theorem perform_operation (s : Session) (op : Operation) :
    (s.perform op).operation = op := by
  cases op <;> rfl

/-- Operations are traced in two parts, the later ones from where the earlier ones have led. -/
theorem trace_append (s : Session) (earlier later : List Operation) :
    s.trace (earlier ++ later) = s.trace earlier ++ (s.run earlier).trace later := by
  induction earlier generalizing s with
  | nil => rfl
  | cons op rest ih => rw [List.cons_append, trace, trace, ih, List.cons_append, run]

/-! ## How a session takes a line -/

/-- Behind an open gate every command is admitted. -/
theorem admits_of_open {s : Session} {c : Command} (hopen : s.gateOpen = true) :
    s.admits c = true := by
  rw [admits, hopen, Bool.true_or]

/-- A placement is admitted whether the gate is open or not. -/
theorem admits_of_isPlace {s : Session} {c : Command} (hplace : c.isPlace = true) :
    s.admits c = true := by
  rw [admits, hplace, Bool.or_true]

/-- Behind a closed gate only placements are admitted. -/
theorem admits_of_closed {s : Session} {c : Command} (hgate : s.gateOpen = false) :
    s.admits c = c.isPlace := by
  simp [admits, hgate]

/-- A line that is no command fails and changes nothing. -/
theorem process_unrecognized {s : Session} {line : String} (hread : Command.ofLine? line = none) :
    s.process line = ⟨.failed (Command.Unrecognized.ofLine line).message, [], s⟩ := by
  simp [process, Command.ofLine, hread]

/-- A command that is not admitted is passed over with a warning. -/
theorem process_passedOver {s : Session} {line : String} {c : Command}
    (hread : Command.ofLine? line = some c) (hadmits : s.admits c = false) :
    s.process line = ⟨.done, [passedOver], s⟩ := by
  simp [process, Command.ofLine, hread, hadmits]

/-- A command that is admitted is obeyed. -/
theorem process_admitted {s : Session} {line : String} {c : Command}
    (hread : Command.ofLine? line = some c) (hadmits : s.admits c = true) :
    s.process line = s.obey c := by
  simp [process, Command.ofLine, hread, hadmits]

/-- A line is no command, or a command that is passed over, or a command that is obeyed. -/
theorem process_cases (s : Session) (line : String) :
    (Command.ofLine? line = none ∧
      s.process line = ⟨.failed (Command.Unrecognized.ofLine line).message, [], s⟩) ∨
    (∃ c, Command.ofLine? line = some c ∧ s.admits c = false ∧
      s.process line = ⟨.done, [passedOver], s⟩) ∨
    (∃ c, Command.ofLine? line = some c ∧ s.admits c = true ∧ s.process line = s.obey c) := by
  cases hread : Command.ofLine? line with
  | none => exact .inl ⟨rfl, process_unrecognized hread⟩
  | some c =>
    right
    cases hadmits : s.admits c with
    | false => exact .inl ⟨c, rfl, hadmits, process_passedOver hread hadmits⟩
    | true => exact .inr ⟨c, rfl, hadmits, process_admitted hread hadmits⟩

/-- Obeying a command, given what the command comes to. -/
theorem obey_of_execute {s : Session} {c : Command} {o : Outcome} {r : Robot}
    (h : c.execute s.robot = (o, r)) :
    s.obey c = ⟨o, o.announcement c, ⟨r, s.gateOpen || (c.isPlace && o.success)⟩⟩ := by
  simp [obey, h]

/-- While a command is obeyed nothing is said but what it has to print. -/
theorem obey_notices (s : Session) (c : Command) :
    (s.obey c).notices = (s.obey c).outcome.announcement c := rfl

/-- An obeyed command fails with a message, succeeds in silence, or is a report that prints a line. -/
theorem obey_outcome_cases (s : Session) (c : Command) :
    (∃ message, (s.obey c).outcome = .failed message) ∨ (s.obey c).outcome = .done ∨
      (c = .report ∧ ∃ text, (s.obey c).outcome = .printing text) :=
  (Command.executes_execute c s.robot).outcome_cases

/-- A placement on the table puts the robot there and opens the gate, whatever was before. -/
theorem process_placed {s : Session} {line : String} {x y : UInt64} {heading : Heading}
    {cell : Cell} (hread : Command.ofLine? line = some (.place x y heading))
    (hcell : s.robot.table.cellAt? x y = some cell) :
    s.process line = ⟨.done, [], ⟨s.robot.withPose ⟨cell, heading⟩, true⟩⟩ := by
  have hexecute : (Command.place x y heading).execute s.robot =
      (.done, s.robot.withPose ⟨cell, heading⟩) := (Command.Executes.placed hcell).eq_execute
  rw [process_admitted hread (admits_of_isPlace rfl), obey_of_execute hexecute]
  simp [Outcome.announcement, Outcome.done, Command.isPlace]

/-- A placement off the table is refused and leaves the session as it was. -/
theorem process_misplaced {s : Session} {line : String} {x y : UInt64} {heading : Heading}
    (hread : Command.ofLine? line = some (.place x y heading))
    (hcell : s.robot.table.cellAt? x y = none) :
    s.process line = ⟨.failed (Command.refusal (.place x y heading)), [], s⟩ := by
  have hexecute : (Command.place x y heading).execute s.robot =
      (.failed (Command.refusal (.place x y heading)), s.robot) :=
    (Command.Executes.misplaced hcell).eq_execute
  rw [process_admitted hread (admits_of_isPlace rfl), obey_of_execute hexecute]
  simp [Outcome.announcement, Outcome.failed]

/-- Behind an open gate a report says where the robot is and leaves the session as it was. -/
theorem process_reported {s : Session} {line : String} {p : Pose}
    (hread : Command.ofLine? line = some .report) (hopen : s.gateOpen = true)
    (hpose : s.robot.pose = some p) :
    s.process line = ⟨.printing p.text, [⟨.report, p.text⟩], s⟩ := by
  have hexecute := (Command.Executes.reported hpose).eq_execute
  rw [process_admitted hread (admits_of_open hopen), obey_of_execute hexecute]
  simp [Outcome.announcement, Outcome.printing, Command.isPlace]

/-- Handling a line is processing it and complaining of a failure. -/
theorem handle_eq (s : Session) (line : String) :
    s.handle line =
      ⟨(s.process line).outcome, (s.process line).notices ++ (s.process line).outcome.complaint,
        (s.process line).session⟩ := rfl

/-- A line that is no command is complained of and changes nothing. -/
theorem handle_unrecognized {s : Session} {line : String} (hread : Command.ofLine? line = none) :
    s.handle line =
      ⟨.failed (Command.Unrecognized.ofLine line).message,
        [⟨.error, "Error: " ++ (Command.Unrecognized.ofLine line).message⟩], s⟩ := by
  rw [handle_eq, process_unrecognized hread]
  rfl

end Session

end ToyRobot
