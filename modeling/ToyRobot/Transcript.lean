import ToyRobot.Command.Execution
import ToyRobot.Text.Json

/-!
# Transcripts

The record of a batch: one entry for each line that was processed. An entry is written as one line
of JSON; a field that has nothing to say is left out.
-/

namespace ToyRobot

open Text

/-- What came of one line of a batch. -/
structure Entry where
  /-- The line. -/
  command : String
  /-- What came of it. -/
  outcome : Outcome
  /-- The warnings that were given. -/
  warnings : List String
deriving Repr, DecidableEq

namespace Entry

/-- A field that is there only if it has a value. -/
def optional (name : String) : Option String → Json.Record
  | some value => [(name, .text value)]
  | none => []

def record (e : Entry) : Json.Record :=
  [("command", .text e.command), ("success", .flag e.outcome.success)] ++
    optional "output" e.outcome.output ++ optional "error" e.outcome.error ++
    (if e.warnings.isEmpty then [] else [("warnings", .texts e.warnings)])

def json (e : Entry) : String := e.record.write

end Entry

end ToyRobot
