import ToyRobot.CommandLine.Run

/-!
# The program

The outer layer of the program: it reads arguments, variables, files and typed bytes, and writes to
the two streams as soon as there is something to write. What is written is decided by the functions
that it calls.
-/

namespace ToyRobot.CommandLine

def emit (output : Output) : IO Unit := do
  let out ← IO.getStdout
  let err ← IO.getStderr
  out.putStr output.stdout
  out.flush
  err.putStr output.stderr
  err.flush

/-- The bytes up to the next newline, and whether there was one. -/
partial def readPiece (stream : IO.FS.Stream) (piece : ByteArray) : IO (ByteArray × Bool) := do
  let next ← stream.read 1
  match next.toList with
  | [] => return (piece, false)
  | b :: _ => if b == newline then return (piece.push b, true) else readPiece stream (piece.push b)

/-- Asks for lines and answers them until there are no more. -/
partial def answer (console : Console) (session : Session) : IO Unit := do
  emit prompt
  let (piece, complete) ← readPiece (← IO.getStdin) ByteArray.empty
  match ((Keyboard.ofBytes piece.toList false).next).1 with
  | none => emit (.ofText "\n")
  | some line =>
    let r := session.handle line
    emit (console.printAll r.notices)
    if complete then answer console r.session else emit (prompt ++ .ofText "\n")

/-- The number of a system error, which may come negated. -/
def errorNumber (code : UInt32) : UInt32 := min code (0 - code)

def readFailure : IO.Error → ReadFailure
  | .noFileOrDirectory .. => .missing
  | .permissionDenied .. => .denied
  | .inappropriateType _ code _ =>
    if errorNumber code == 20 then .notDirectory else .isDirectory
  | .invalidArgument file code details =>
    if errorNumber code == 36 then .nameTooLong
    else .other (toString (IO.Error.invalidArgument file code details))
  | e => .other (toString e)

def load (path : String) : IO (Except ReadFailure (List UInt8)) := do
  try
    return .ok (← IO.FS.readBinFile path).toList
  catch e =>
    return .error (readFailure e)

/-- Runs files in order, as a batch does, and prints what each has to say before the next is read. -/
def playFiles (mode : Mode) (console : Console) (first : Bool) :
    Simulation → List String → IO (Option Script.Unreadable)
  | _, [] => return none
  | sim, path :: rest => do
    match Script.ofRead path (← load path) with
    | .error e => return some e
    | .ok script =>
      let done := runScript mode console (if first then sim else sim.reset) script
      emit done.1
      playFiles mode console false done.2 rest

def giveUp (why : Failure) : IO UInt32 := do
  emit (Ending.failed .empty why).output
  return 1

def start (arguments : List String) : IO UInt32 := do
  let width ← IO.getEnv Side.width.variable
  let height ← IO.getEnv Side.height.variable
  let environment := fun name =>
    if name == Side.width.variable then width
    else if name == Side.height.variable then height
    else none
  match plan arguments environment with
  | .error why =>
    emit (Ending.misused why).output
    return 2
  | .ok .version =>
    emit (.ofText versionText)
    return 0
  | .ok .help =>
    emit (.ofText helpText)
    return 0
  | .ok (.converse settings) =>
    match settings.table with
    | .error e => giveUp (.ofSize e)
    | .ok table =>
      emit (Console.printAll ⟨settings.color⟩ banner)
      answer ⟨settings.color⟩ (.fresh table)
      return 0
  | .ok (.batch settings mode files) =>
    match settings.table with
    | .error e => giveUp (.ofSize e)
    | .ok table =>
      match ← playFiles mode ⟨settings.color⟩ true (.fresh table) files with
      | none => return 0
      | some e => giveUp (.ofUnreadable e)

end ToyRobot.CommandLine

def main (arguments : List String) : IO UInt32 :=
  ToyRobot.CommandLine.start arguments
