import ToyRobot.Text.Decimal

/-!
# The table

A table is a grid of cells, addressed from `(0, 0)` in the south-west corner. A cell is unsigned
and may lie on a table or not. A point is signed: it is what a step from a cell leads to before
anyone has asked whether there is a cell.
-/

namespace ToyRobot

open Text

/-! ## Tables -/

/-- A grid with at least one column and one row. -/
structure Table where
  /-- The number of columns. -/
  width : UInt32
  /-- The number of rows. -/
  height : UInt32
  width_pos : 0 < width
  height_pos : 0 < height
deriving Repr, DecidableEq

/-- Why two numbers are not the size of a table. -/
inductive Table.SizeError where
  | zeroWidth
  | zeroHeight
deriving Repr, DecidableEq

/-- The side that is at fault. -/
def Table.SizeError.side : Table.SizeError → String
  | .zeroWidth => "width"
  | .zeroHeight => "height"

def Table.SizeError.message (e : Table.SizeError) : String :=
  "Invalid table " ++ e.side ++ ": 0. Must be a positive integer"

/-- The table of a given size. When both sides are zero, the width is at fault. -/
def Table.ofSize (width height : UInt32) : Except Table.SizeError Table :=
  if hw : 0 < width then
    if hh : 0 < height then .ok ⟨width, height, hw, hh⟩ else .error .zeroHeight
  else
    .error .zeroWidth

/-- The side of a table for which nothing else is asked. -/
def Table.standardSide : UInt32 := 5

def Table.standard : Table :=
  ⟨Table.standardSide, Table.standardSide, by decide, by decide⟩

instance : Inhabited Table := ⟨Table.standard⟩

/-! ## Cells and points -/

/-- A square of the grid, by column and row. -/
structure Cell where
  x : UInt32
  y : UInt32
deriving Repr, DecidableEq

def Cell.origin : Cell := ⟨0, 0⟩

def Cell.text (c : Cell) : String :=
  Decimal.natText c.x.toNat ++ "," ++ Decimal.natText c.y.toNat

/-- A pair of signed coordinates, which need not be a cell; also the step between two of them. -/
structure Point where
  x : Int64
  y : Int64
deriving Repr, DecidableEq

def Point.plus (p step : Point) : Point := ⟨p.x + step.x, p.y + step.y⟩

/-- An unsigned number as a signed one, which has room for it. -/
def signed (n : UInt32) : Int64 := Int64.ofNat n.toNat

theorem toInt_signed (n : UInt32) : (signed n).toInt = n.toNat := by
  have := n.toNat_lt
  exact Int64.toInt_ofNat_of_lt (by omega)

def Cell.point (c : Cell) : Point := ⟨signed c.x, signed c.y⟩

/-- Why a point is not a cell: the coordinate that is negative or too large. -/
inductive Cell.RangeError where
  | x (value : Int64)
  | y (value : Int64)
deriving Repr, DecidableEq

def Cell.RangeError.axis : Cell.RangeError → String
  | .x _ => "x"
  | .y _ => "y"

def Cell.RangeError.value : Cell.RangeError → Int64
  | .x value => value
  | .y value => value

def Cell.RangeError.message (e : Cell.RangeError) : String :=
  "Invalid " ++ e.axis ++ " coordinate: " ++ Decimal.intText e.value.toInt ++
    ". Must be a non-negative integer"

/-- A signed coordinate as an unsigned one, where it is neither negative nor too large. -/
def Cell.coordinate? (value : Int64) : Option UInt32 :=
  if 0 ≤ value ∧ value ≤ signed 0xFFFFFFFF then some (UInt32.ofNat value.toInt.toNat) else none

/-- The cell at a point. When neither coordinate will do, `x` is at fault. -/
def Cell.ofPoint (p : Point) : Except Cell.RangeError Cell :=
  match Cell.coordinate? p.x, Cell.coordinate? p.y with
  | some x, some y => .ok ⟨x, y⟩
  | none, _ => .error (.x p.x)
  | some _, none => .error (.y p.y)

/-- A signed coordinate becomes the unsigned one of the same value, where there is one. -/
theorem Cell.coordinate?_eq_some_iff {value : Int64} {n : UInt32} :
    Cell.coordinate? value = some n ↔ value.toInt = n.toNat := by
  have hn := n.toNat_lt
  have htop : (signed 0xFFFFFFFF).toInt = 4294967295 := toInt_signed _
  simp only [Cell.coordinate?, Int64.le_iff_toInt_le, htop, Int64.toInt_zero]
  split
  · rename_i h
    have hlt : value.toInt.toNat < UInt32.size := by simp only [UInt32.size]; omega
    rw [Option.some.injEq, ← UInt32.toNat_inj, UInt32.toNat_ofNat_of_lt' hlt]
    omega
  · rename_i h
    simp only [reduceCtorEq, false_iff]
    omega

/-! ## What lies on a table -/

/-- Whether a cell lies on the table. -/
def Table.hasCell (t : Table) (c : Cell) : Bool :=
  c.x < t.width && c.y < t.height

/-- Whether a point lies on the table. -/
def Table.hasPoint (t : Table) (p : Point) : Bool :=
  0 ≤ p.x && p.x < signed t.width && 0 ≤ p.y && p.y < signed t.height

theorem Table.hasCell_iff {t : Table} {c : Cell} :
    t.hasCell c ↔ c.x.toNat < t.width.toNat ∧ c.y.toNat < t.height.toNat := by
  simp only [Table.hasCell, Bool.and_eq_true, decide_eq_true_eq, UInt32.lt_iff_toNat_lt]

theorem Table.hasPoint_iff {t : Table} {p : Point} :
    t.hasPoint p ↔ 0 ≤ p.x.toInt ∧ p.x.toInt < t.width.toNat ∧
      0 ≤ p.y.toInt ∧ p.y.toInt < t.height.toNat := by
  simp only [Table.hasPoint, Bool.and_eq_true, decide_eq_true_eq, Int64.le_iff_toInt_le,
    Int64.lt_iff_toInt_lt, toInt_signed, Int64.toInt_zero, and_assoc]

end ToyRobot
