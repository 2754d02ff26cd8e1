import ToyRobot.Table
import ToyRobot.Text.UpperCase

/-!
# Headings

The four directions that a robot can face, how it turns between them, and where one step leads.
-/

namespace ToyRobot

open Text

/-- A direction of the compass, in clockwise order. -/
inductive Heading where
  | north
  | east
  | south
  | west
deriving Repr, DecidableEq

namespace Heading

def all : List Heading := [north, east, south, west]

/-- A quarter turn to the left. -/
def left : Heading → Heading
  | north => west
  | west => south
  | south => east
  | east => north

/-- A quarter turn to the right. -/
def right : Heading → Heading
  | north => east
  | east => south
  | south => west
  | west => north

/-- One step forward: north counts rows up, east counts columns up. -/
def step : Heading → Point
  | north => ⟨0, 1⟩
  | east => ⟨1, 0⟩
  | south => ⟨0, -1⟩
  | west => ⟨-1, 0⟩

def name : Heading → String
  | north => "NORTH"
  | east => "EAST"
  | south => "SOUTH"
  | west => "WEST"

/-- The heading with exactly this name. -/
def named? (text : List Char) : Option Heading :=
  all.find? fun h => h.name.toList == text

/-- A name that no heading has, in ASCII upper case. -/
structure UnknownName where
  name : String
deriving Repr, DecidableEq

def UnknownName.message (e : UnknownName) : String :=
  "Invalid direction: " ++ e.name ++ ". Valid values are: NORTH, SOUTH, EAST, WEST"

/-- The heading with a given name in any mixture of cases. Blanks are not taken off. -/
def ofName (text : String) : Except UnknownName Heading :=
  let upper := asciiUpperCase text.toList
  match named? upper with
  | some h => .ok h
  | none => .error ⟨String.ofList upper⟩

end Heading

/-- The point one step from a cell, on the table or not. -/
def Cell.ahead (c : Cell) (h : Heading) : Point :=
  c.point.plus h.step

theorem Cell.toInt_ahead_x (c : Cell) (h : Heading) :
    (c.ahead h).x.toInt = c.x.toNat + h.step.x.toInt := by
  have := c.x.toNat_lt
  simp only [Cell.ahead, Point.plus, Cell.point, Int64.toInt_add, toInt_signed]
  apply Int.bmod_eq_of_le <;> cases h <;> simp [Heading.step] <;> omega

theorem Cell.toInt_ahead_y (c : Cell) (h : Heading) :
    (c.ahead h).y.toInt = c.y.toNat + h.step.y.toInt := by
  have := c.y.toNat_lt
  simp only [Cell.ahead, Point.plus, Cell.point, Int64.toInt_add, toInt_signed]
  apply Int.bmod_eq_of_le <;> cases h <;> simp [Heading.step] <;> omega

end ToyRobot
