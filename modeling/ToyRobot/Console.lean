import ToyRobot.Notice

/-!
# The console

How notices look on a terminal. Every channel but the plain one has a color; errors go to the error
stream and all else to the output stream, each notice as one line.
-/

namespace ToyRobot

/-- The code that switches a color on, for the channels that have one. -/
def Channel.colorCode : Channel → Option String
  | .plain => none
  | .error => some "\x1b[31m"
  | .success => some "\x1b[32m"
  | .info => some "\x1b[36m"
  | .warning => some "\x1b[33m"
  | .command => some "\x1b[90m"
  | .report => some "\x1b[1m\x1b[35m"

def colorReset : String := "\x1b[0m"

/-- What has been written to the two streams. -/
structure Output where
  stdout : String
  stderr : String
deriving Repr, DecidableEq

namespace Output

def empty : Output := ⟨"", ""⟩

def ofText (text : String) : Output := ⟨text, ""⟩

def append (a b : Output) : Output := ⟨a.stdout ++ b.stdout, a.stderr ++ b.stderr⟩

instance : Append Output := ⟨append⟩

def join (outputs : List Output) : Output :=
  ⟨String.join (outputs.map stdout), String.join (outputs.map stderr)⟩

theorem append_eq (a b : Output) : a ++ b = ⟨a.stdout ++ b.stdout, a.stderr ++ b.stderr⟩ := rfl

@[simp] theorem empty_append (a : Output) : empty ++ a = a := by
  simp [append_eq, empty]

@[simp] theorem append_empty (a : Output) : a ++ empty = a := by
  simp [append_eq, empty]

theorem append_assoc (a b c : Output) : a ++ b ++ c = a ++ (b ++ c) := by
  simp [append_eq, String.append_assoc]

@[simp] theorem join_nil : join [] = empty := rfl

@[simp] theorem join_cons (a : Output) (rest : List Output) : join (a :: rest) = a ++ join rest := by
  simp [append_eq, join]

end Output

/-- A terminal, with or without colors. -/
structure Console where
  colored : Bool := true
deriving Repr, DecidableEq

namespace Console

/-- A notice as the terminal shows it. -/
def styled (console : Console) (n : Notice) : String :=
  match console.colored, n.channel.colorCode with
  | true, some code => code ++ n.text ++ colorReset
  | _, _ => n.text

/-- A notice as one line on its stream. -/
def print (console : Console) (n : Notice) : Output :=
  let line := console.styled n ++ "\n"
  match n.channel with
  | .error => ⟨"", line⟩
  | _ => ⟨line, ""⟩

def printAll (console : Console) (log : Log) : Output :=
  .join (log.map console.print)

end Console

end ToyRobot
