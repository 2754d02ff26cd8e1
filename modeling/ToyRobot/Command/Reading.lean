import ToyRobot.Command
import ToyRobot.Text.Blank
import ToyRobot.Text.Decimal
import ToyRobot.Text.Split
import ToyRobot.Text.UpperCase

/-!
# Reading a command

A line is trimmed and put into upper case; the text that is left is a command word by itself, or
`PLACE`, one space, any further blanks, and three fields with commas between them. Nothing else is
a command. A coordinate too large for its type is read as the largest there is, which is on no
table.
-/

namespace ToyRobot

open Text

namespace Command

/-- The keyword of a placement together with the one space that must follow it. -/
def placeKeyword : List Char := "PLACE ".toList

/-- What is left of a text after an opening that it must have. -/
def afterOpening? (opening text : List Char) : Option (List Char) :=
  if opening.isPrefixOf text then some (text.drop opening.length) else none

/-- A coordinate: one or more digits. -/
def coordinate? (field : List Char) : Option UInt64 :=
  (Decimal.read? field).map fun n => UInt64.ofNat (min n 0xFFFFFFFFFFFFFFFF)

/-- Whether a field has the form of a name: one or more letters `A` to `Z`. -/
def isNameField (field : List Char) : Bool :=
  !field.isEmpty && field.all Char.isUpper

/-- A placement, from its three fields. -/
def ofFields? : List (List Char) → Option Command
  | [x, y, name] =>
    match coordinate? x, coordinate? y with
    | some x, some y =>
      if isNameField name then
        match Heading.ofName (String.ofList name) with
        | .ok heading => some (place x y heading)
        | .error _ => none
      else
        none
    | _, _ => none
  | _ => none

def ofWord? (text : List Char) : Option Command :=
  [move, left, right, report].find? fun c => c.text.toList == text

/-- The command that a text spells, blanks at its ends and small letters not allowed for. -/
def ofUpperCase? (text : List Char) : Option Command :=
  match afterOpening? placeKeyword text with
  | some rest => ofFields? (split ',' (trimStart rest))
  | none => ofWord? text

/-- The command on a line, if the line holds one. -/
def ofLine? (line : String) : Option Command :=
  ofUpperCase? (upperCase (trim line.toList))

/-- A line that holds no command, without the blanks at its ends. -/
structure Unrecognized where
  line : String
deriving Repr, DecidableEq

def Unrecognized.ofLine (line : String) : Unrecognized :=
  ⟨String.ofList (trim line.toList)⟩

def Unrecognized.message (e : Unrecognized) : String :=
  "Invalid command: " ++ e.line

/-- The command on a line, or what is wrong with it. -/
def ofLine (line : String) : Except Unrecognized Command :=
  match ofLine? line with
  | some c => .ok c
  | none => .error (.ofLine line)

end Command

end ToyRobot
