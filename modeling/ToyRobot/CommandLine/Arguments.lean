import ToyRobot.Settings

/-!
# Arguments

What the words on the command line ask for. Words are read from left to right, and the first one
that is wrong decides. A word that starts with a hyphen is an option, except for a lone hyphen; all
other words are files, and so is everything after `--`. A question for the version or for help is
answered as soon as it is reached.
-/

namespace ToyRobot.CommandLine

open Text

/-! ## Words -/

/-- An option that is either on or off. -/
inductive Switch where
  | noColor
  | json
  | debug
  | verbose
deriving Repr, DecidableEq

inductive Side where
  | width
  | height
deriving Repr, DecidableEq

/-- What an option is about. -/
inductive Keyword where
  | switch (s : Switch)
  | side (s : Side)
  | version
  | help
deriving Repr, DecidableEq

def Keyword.longNames : List (String × Keyword) := [
  ("no-color", .switch .noColor),
  ("json", .switch .json),
  ("debug", .switch .debug),
  ("verbose", .switch .verbose),
  ("width", .side .width),
  ("height", .side .height),
  ("version", .version),
  ("help", .help)]

def Keyword.letters : List (Char × Keyword) := [
  ('d', .switch .debug),
  ('v', .switch .verbose),
  ('V', .version),
  ('h', .help)]

def Keyword.ofLongName? (name : List Char) : Option Keyword :=
  (longNames.find? fun entry => entry.1.toList == name).map Prod.snd

def Keyword.ofLetter? (letter : Char) : Option Keyword :=
  (letters.find? fun entry => entry.1 == letter).map Prod.snd

/-- What a word on the command line looks like. -/
inductive Word where
  /-- The end of the options. -/
  | terminator
  /-- A long option, with the value that an equals sign attaches to it. -/
  | long (name : List Char) (value : Option (List Char))
  /-- A group of options by letter. -/
  | group (letters : List Char)
  /-- Anything else. -/
  | bare
deriving Repr, DecidableEq

/-- A long option and its value, cut at the first equals sign. -/
def Word.ofLong (text : List Char) : Word :=
  .long (text.takeWhile (· ≠ '=')) ((text.dropWhile (· ≠ '=')).tail?)

def Word.ofText (text : String) : Word :=
  match text.toList with
  | ['-', '-'] => .terminator
  | '-' :: '-' :: rest => .ofLong rest
  | ['-'] => .bare
  | '-' :: letters => .group letters
  | _ => .bare

/-! ## Misuse -/

/-- What is wrong with a command line. -/
inductive Misuse where
  | unknownOption (word : String)
  | repeated (word : String)
  | missingValue (word : String)
  | unwantedValue (word : String)
  | badNumber (text : String)
  | emptyFileName
  | jsonWithoutFiles
deriving Repr, DecidableEq

def Misuse.message : Misuse → String
  | .unknownOption word => "error: unexpected argument: " ++ word
  | .repeated word => "error: argument given more than once: " ++ word
  | .missingValue word => "error: a value is required for: " ++ word
  | .unwantedValue word => "error: no value is allowed in: " ++ word
  | .badNumber text => "error: not the side of a table: " ++ text
  | .emptyFileName => "error: a file name must not be empty"
  | .jsonWithoutFiles => "error: --json needs at least one file"

/-! ## Options -/

/-- What has been asked for so far. -/
structure Options where
  switches : List Switch := []
  width : Option UInt32 := none
  height : Option UInt32 := none
  files : List String := []
deriving Repr, DecidableEq

/-- A side of the table, written with or without a sign; the number must be one that a side can
have. -/
def readSide (text : String) : Except Misuse UInt32 :=
  match Decimal.readSigned? text.toList with
  | some n => if 0 ≤ n ∧ n ≤ 0xFFFFFFFF then .ok (UInt32.ofNat n.toNat) else .error (.badNumber text)
  | none => .error (.badNumber text)

namespace Options

def isOn (o : Options) (s : Switch) : Bool := o.switches.contains s

def turnOn (o : Options) (word : String) (s : Switch) : Except Misuse Options :=
  if o.isOn s then .error (.repeated word) else .ok { o with switches := s :: o.switches }

def side (o : Options) : Side → Option UInt32
  | .width => o.width
  | .height => o.height

/-- Sets a side that has not been set. -/
def setSide (o : Options) (word : String) (s : Side) (text : String) : Except Misuse Options :=
  match readSide text with
  | .error e => .error e
  | .ok n =>
    if (o.side s).isSome then .error (.repeated word)
    else
      match s with
      | .width => .ok { o with width := some n }
      | .height => .ok { o with height := some n }

def addFile (o : Options) (name : String) : Except Misuse Options :=
  if name.isEmpty then .error .emptyFileName else .ok { o with files := o.files ++ [name] }

end Options

/-- What a command line asks for. -/
inductive Request where
  | version
  | help
  | run (options : Options)
deriving Repr, DecidableEq

/-- A group of letters, read from left to right: the options afterwards, unless a letter asks for
something else. -/
def readLetters (word : String) : Options → List Char → Except Misuse Request
  | o, [] => .ok (.run o)
  | o, letter :: rest =>
    match Keyword.ofLetter? letter with
    | some (.switch s) =>
      match o.turnOn word s with
      | .ok o => readLetters word o rest
      | .error e => .error e
    | some .version => .ok .version
    | some .help => .ok .help
    | _ => .error (.unknownOption word)

/-- Reads files only. -/
def readFiles : Options → List String → Except Misuse Request
  | o, [] => .ok (.run o)
  | o, word :: rest =>
    match o.addFile word with
    | .ok o => readFiles o rest
    | .error e => .error e

/-- Reads the words of a command line. -/
def readWords : Options → List String → Except Misuse Request
  | o, [] => .ok (.run o)
  | o, word :: rest =>
    match Word.ofText word with
    | .terminator => readFiles o rest
    | .bare =>
      match o.addFile word with
      | .ok o => readWords o rest
      | .error e => .error e
    | .group letters =>
      match readLetters word o letters with
      | .ok (.run o) => readWords o rest
      | answer => answer
    | .long name value =>
      match Keyword.ofLongName? name, value with
      | none, _ => .error (.unknownOption word)
      | some (.side s), some text =>
        match o.setSide word s (String.ofList text) with
        | .ok o => readWords o rest
        | .error e => .error e
      | some (.side s), none =>
        match rest with
        | [] => .error (.missingValue word)
        | text :: rest =>
          if Word.ofText text = .bare then
            match o.setSide word s text with
            | .ok o => readWords o rest
            | .error e => .error e
          else
            .error (.missingValue word)
      | some _, some _ => .error (.unwantedValue word)
      | some (.switch s), none =>
        match o.turnOn word s with
        | .ok o => readWords o rest
        | .error e => .error e
      | some .version, none => .ok .version
      | some .help, none => .ok .help

/-! ## The plan -/

/-- How a batch is told. -/
inductive Mode where
  /-- Lines for a reader, on both streams. -/
  | text
  /-- One JSON entry for each line of a file. -/
  | json
deriving Repr, DecidableEq

/-- What the program is to do. -/
inductive Plan where
  | version
  | help
  | converse (settings : Settings)
  | batch (settings : Settings) (mode : Mode) (files : List String)
deriving Repr, DecidableEq

/-- The name of the variable that sets a side where no option does. -/
def Side.variable : Side → String
  | .width => "TABLE_ROBOT_WIDTH"
  | .height => "TABLE_ROBOT_HEIGHT"

/-- A side of the table: what the option says, else what the environment says, else the standard. -/
def Options.sideIn (o : Options) (environment : String → Option String) (s : Side) :
    Except Misuse UInt32 :=
  match o.side s, environment s.variable with
  | some n, _ => .ok n
  | none, some text => readSide text
  | none, none => .ok Table.standardSide

/-- The plan that options amount to. -/
def Options.plan (o : Options) (environment : String → Option String) : Except Misuse Plan :=
  if o.isOn .json && o.files.isEmpty then
    .error .jsonWithoutFiles
  else
    match o.sideIn environment .width, o.sideIn environment .height with
    | .error e, _ => .error e
    | .ok _, .error e => .error e
    | .ok width, .ok height =>
      let settings : Settings := { width, height, color := !o.isOn .noColor }
      if o.files.isEmpty then .ok (.converse settings)
      else .ok (.batch settings (if o.isOn .json then .json else .text) o.files)

/-- The plan that a command line amounts to. -/
def plan (words : List String) (environment : String → Option String) : Except Misuse Plan :=
  match readWords {} words with
  | .error e => .error e
  | .ok .version => .ok .version
  | .ok .help => .ok .help
  | .ok (.run o) => o.plan environment

end ToyRobot.CommandLine
