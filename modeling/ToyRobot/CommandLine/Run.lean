import ToyRobot.CommandLine.Arguments
import ToyRobot.Console
import ToyRobot.Simulation

/-!
# Running the program

A whole run as a function: from the command line, the environment, the files and what is typed to
what is printed and how the program ends. A batch runs its files in order in one simulation, with
the gate closed between them, and stops at the first file that cannot be read; what was printed
before it stays.

What is printed is the output of the program itself. The program also keeps a log for its
maintainers, whose lines go to the error stream among the others (from warnings on, unless another
level is asked for; there is one, say, for a file that is not UTF-8). These lines carry a time and
are left out of `Output.stderr`.
-/

namespace ToyRobot.CommandLine

open Text

/-! ## Failures -/

/-- What the program gives up on, and why: each cause explains the one before it. -/
structure Failure where
  headline : String
  causes : List String
deriving Repr, DecidableEq

namespace Failure

/-- A cause with a text in front of its first line and blanks in front of the others. -/
def hang (first others : String) (cause : String) : String :=
  first ++ ("\n" ++ others).intercalate ((split '\n' cause.toList).map String.ofList) ++ "\n"

/-- Several causes, numbered. -/
def numbered : Nat → List String → String
  | _, [] => ""
  | n, cause :: rest =>
    hang ("    " ++ Decimal.natText n ++ ": ") "       " cause ++ numbered (n + 1) rest

/-- The causes as they are printed: a single one without a number. -/
def causeText : List String → String
  | [cause] => hang "    " "    " cause
  | causes => numbered 0 causes

def report (f : Failure) : String :=
  "Error: " ++ f.headline ++ "\n" ++
    if f.causes.isEmpty then "" else "\nCaused by:\n" ++ causeText f.causes

def ofSize (e : Table.SizeError) : Failure :=
  ⟨"Invalid table configuration", [e.message]⟩

def ofUnreadable (e : Script.Unreadable) : Failure :=
  ⟨"Failed to process file: " ++ e.path, [e.message, e.cause.message]⟩

end Failure

/-- How a run ends. -/
inductive Ending where
  /-- The command line made no sense, and nothing was done. -/
  | misused (why : Misuse)
  /-- All was done. -/
  | finished (output : Output)
  /-- Something could not be done. -/
  | failed (output : Output) (why : Failure)
deriving Repr, DecidableEq

namespace Ending

/-- The number that the program leaves behind. -/
def exitCode : Ending → Nat
  | finished _ => 0
  | failed .. => 1
  | misused _ => 2

/-- What was printed. A failure is the last thing on the error stream. -/
def output : Ending → Output
  | finished output => output
  | failed output why => output ++ ⟨"", why.report⟩
  | misused why => ⟨"", why.message ++ "\n"⟩

end Ending

/-! ## Conversations -/

/-- What stands before each line that is typed. -/
def prompt : Output := .ofText "> "

/-- What is printed in a conversation: the banner, an answer for each line, and an end of line after
the last prompt. -/
def converse (console : Console) (s : Session) (lines : List String) : Output :=
  console.printAll banner ++
    .join ((s.converse lines).1.map fun log => prompt ++ console.printAll log) ++
    prompt ++ .ofText "\n"

/-! ## Batches -/

/-- A file by name and what came of reading it. -/
abbrev Source := String × Except ReadFailure (List UInt8)

def entryLines (entries : List Entry) : String :=
  String.join (entries.map fun e => e.json ++ "\n")

/-- Runs one file of a batch: what is printed, and the simulation afterwards. -/
def runScript (mode : Mode) (console : Console) (sim : Simulation) (script : Script) :
    Output × Simulation :=
  match mode with
  | .text =>
    let played := sim.session.playScript script
    (console.printAll played.1, { sim with session := played.2 })
  | .json =>
    let written := sim.transcribe script
    (.ofText (entryLines written.1), written.2.2)

/-- Runs files in order, with the gate closed before each of them but the first: what is printed, and
the file at which the run stopped, if it did. -/
def runFiles (mode : Mode) (console : Console) (first : Bool) :
    Simulation → List Source → Output × Option Script.Unreadable
  | _, [] => (.empty, none)
  | sim, source :: rest =>
    match Script.ofRead source.1 source.2 with
    | .error e => (.empty, some e)
    | .ok script =>
      let ready := if first then sim else sim.reset
      let done := runScript mode console ready script
      let later := runFiles mode console false done.2 rest
      (done.1 ++ later.1, later.2)

def runBatch (mode : Mode) (console : Console) (sim : Simulation) (sources : List Source) :
    Output × Option Script.Unreadable :=
  runFiles mode console true sim sources

/-! ## The program -/

def versionText : String := "table-robot 0.1.0\n"

def helpText : String := String.join [
  "Toy robot simulator on a square table\n",
  "\n",
  "Usage: table-robot [OPTIONS] [FILES]...\n",
  "\n",
  "Options:\n",
  "      --width <WIDTH>    Table width [default: 5]\n",
  "      --height <HEIGHT>  Table height [default: 5]\n",
  "      --no-color         Disable ANSI colors\n",
  "      --json             Print one JSON result per command line (file mode only)\n",
  "  -d, --debug            Enable debug logging\n",
  "  -v, --verbose          Enable verbose logging\n",
  "  -h, --help             Print help\n",
  "  -V, --version          Print version\n"]

/-- All that a run depends on. -/
structure Surroundings where
  arguments : List String
  /-- The variables of the environment, by name. -/
  environment : String → Option String
  folder : Folder
  /-- What is typed. -/
  input : List UInt8

def Ending.ofBatch : Output × Option Script.Unreadable → Ending
  | (output, none) => .finished output
  | (output, some e) => .failed output (.ofUnreadable e)

/-- What the program does with a plan. The table is made before any file is read. -/
def carryOut (around : Surroundings) : Plan → Ending
  | .version => .finished (.ofText versionText)
  | .help => .finished (.ofText helpText)
  | .converse settings =>
    match settings.table with
    | .error e => .failed .empty (.ofSize e)
    | .ok table =>
      let typed := (Keyboard.ofBytes around.input false).lines
      .finished (converse ⟨settings.color⟩ (.fresh table) typed.1)
  | .batch settings mode files =>
    match settings.table with
    | .error e => .failed .empty (.ofSize e)
    | .ok table =>
      .ofBatch (runBatch mode ⟨settings.color⟩ (.fresh table)
        (files.map fun path => (path, around.folder.read path)))

/-- A run of the program. -/
def run (around : Surroundings) : Ending :=
  match plan around.arguments around.environment with
  | .error why => .misused why
  | .ok plan => carryOut around plan

end ToyRobot.CommandLine
