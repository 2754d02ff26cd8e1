import ToyRobot.Proofs.Execution

/-!
# Signed and unsigned bounds

A placement asks with unsigned numbers whether a cell is on the table. A step asks the same with
signed ones, before it is known that there is a cell, and turns the point into a cell afterwards.
The two tests, the conversions and the step are written apart, and here they are held together: a
point becomes a cell just where both of its numbers are in the range of a coordinate
(`Cell.exists_ofPoint_iff`), every point of a table does (`Table.exists_ofPoint_of_hasPoint`), and a
step is a placement on the cell ahead (`Robot.advance_eq_some_iff`).
-/

namespace ToyRobot

/-! ## Points that are cells -/

/-- Whether a signed number can be that of a column or a row. -/
def Cell.IsCoordinate (value : Int64) : Prop :=
  0 ≤ value.toInt ∧ value.toInt ≤ 0xFFFFFFFF

namespace Cell

variable {p : Point}

/-- A signed number is that of a column or a row just where it is in their range. -/
theorem exists_coordinate?_iff {value : Int64} :
    (∃ n, coordinate? value = some n) ↔ IsCoordinate value := by
  rw [← Option.ne_none_iff_exists', ne_eq, coordinate?_eq_none_iff]
  exact Decidable.not_not

/-- If the column is at fault, the row is not looked at. -/
theorem ofPoint_of_not_x (hx : ¬ IsCoordinate p.x) : ofPoint p = .error (.x p.x) := by
  rw [ofPoint, coordinate?_eq_none_iff.mpr hx]

/-- If the row alone is at fault, it is the one that is named. -/
theorem ofPoint_of_not_y (hx : IsCoordinate p.x) (hy : ¬ IsCoordinate p.y) :
    ofPoint p = .error (.y p.y) := by
  obtain ⟨n, hn⟩ := exists_coordinate?_iff.mpr hx
  rw [ofPoint, hn, coordinate?_eq_none_iff.mpr hy]

/-- A point becomes a cell just where both of its numbers are coordinates. -/
theorem exists_ofPoint_iff :
    (∃ c, ofPoint p = .ok c) ↔ IsCoordinate p.x ∧ IsCoordinate p.y := by
  constructor
  · -- a number out of range would have been named as the fault
    rintro ⟨c, hc⟩
    by_cases hx : IsCoordinate p.x
    · by_cases hy : IsCoordinate p.y
      · exact ⟨hx, hy⟩
      · rw [ofPoint_of_not_y hx hy] at hc
        cases hc
    · rw [ofPoint_of_not_x hx] at hc
      cases hc
  · rintro ⟨hx, hy⟩
    obtain ⟨m, hm⟩ := exists_coordinate?_iff.mpr hx
    obtain ⟨n, hn⟩ := exists_coordinate?_iff.mpr hy
    refine ⟨⟨m, n⟩, ?_⟩
    rw [ofPoint, hm, hn]

/-- One step east of the largest coordinate there is a point, and no cell. -/
example : ofPoint (ahead ⟨0xFFFFFFFF, 0⟩ .east) = .error (.x 0x100000000) := rfl

/-- A cell lies at a point that has no negative number and the same numbers otherwise. -/
theorem point_eq_iff_toNat {c : Cell} :
    c.point = p ↔ 0 ≤ p.x.toInt ∧ 0 ≤ p.y.toInt ∧
      c.x.toNat = p.x.toInt.toNat ∧ c.y.toNat = p.y.toInt.toNat := by
  rw [point_eq_iff]
  omega

end Cell

/-- Whatever is on a table is a cell, so after the signed test no conversion fails. -/
theorem Table.exists_ofPoint_of_hasPoint {t : Table} {p : Point} (h : t.hasPoint p) :
    ∃ c, Cell.ofPoint p = .ok c := by
  obtain ⟨c, hc, _⟩ := Table.exists_cell_of_hasPoint h
  exact ⟨c, Cell.ofPoint_eq_ok_iff.mpr hc⟩

/-! ## Steps and placements -/

namespace Robot

variable {r r' : Robot} {p : Pose} {cell : Cell} {heading : Heading}

/-- A step leads to the cell ahead, if the table has it. -/
theorem advance_of_ahead (hpose : r.pose = some p) (hahead : cell.point = p.cell.ahead p.heading)
    (hcell : r.table.hasCell cell) : r.advance = some (r.withPose ⟨cell, p.heading⟩) := by
  rw [advance, tryAdvance_of_ahead hpose hahead hcell]
  rfl

/-- A step that would leave the table is refused. -/
theorem advance_of_edge (hpose : r.pose = some p)
    (hedge : r.table.hasPoint (p.cell.ahead p.heading) = false) : r.advance = none := by
  rw [advance, tryAdvance_of_edge hpose hedge]
  rfl

/-- A step succeeds just where the signed test does. -/
theorem isSome_advance (hpose : r.pose = some p) :
    r.advance.isSome = r.table.hasPoint (p.cell.ahead p.heading) := by
  cases hpoint : r.table.hasPoint (p.cell.ahead p.heading) with
  | false => rw [advance_of_edge hpose hpoint, Option.isSome_none]
  | true =>
    obtain ⟨cell, hahead, hcell⟩ := Table.exists_cell_of_hasPoint hpoint
    rw [advance_of_ahead hpose hahead hcell, Option.isSome_some]

/-- A placement succeeds just where the unsigned test does. -/
theorem place_eq_some_iff :
    r.place cell heading = some r' ↔ r.table.hasCell cell ∧ r.withPose ⟨cell, heading⟩ = r' := by
  cases hcell : r.table.hasCell cell with
  | true => simp [place, tryPlace_of_hasCell hcell, Tried.result]
  | false => simp [place, tryPlace_of_off hcell, Tried.result]

/-- A step is a placement on the cell ahead, if there is such a cell. -/
theorem advance_eq_some_iff (hpose : r.pose = some p) :
    r.advance = some r' ↔
      ∃ next : Cell, next.point = p.cell.ahead p.heading ∧ r.place next p.heading = some r' := by
  constructor
  · intro hadvance
    -- a step that is made has passed the signed test, so there is a cell ahead
    have hpoint : r.table.hasPoint (p.cell.ahead p.heading) := by
      rw [← isSome_advance hpose, hadvance, Option.isSome_some]
    obtain ⟨next, hahead, hcell⟩ := Table.exists_cell_of_hasPoint hpoint
    rw [advance_of_ahead hpose hahead hcell, Option.some_inj] at hadvance
    exact ⟨next, hahead, place_eq_some_iff.mpr ⟨hcell, hadvance⟩⟩
  · rintro ⟨next, hahead, hplace⟩
    obtain ⟨hcell, rfl⟩ := place_eq_some_iff.mp hplace
    exact advance_of_ahead hpose hahead hcell

end Robot

/-- The signed and the unsigned way of saying where something is agree, on every table, at every
cell, on the table or not, and in every direction. The two tests give the same answer for a cell,
and a cell that has become a point becomes itself again. A point becomes a cell just where both of
its numbers are from 0 to the largest coordinate, and then the cell lies at that point; if the number
of the column is not, it is the one at fault, and else that of the row; and a point on the table
becomes a cell, so a step can fail only at the test. The point ahead has the sum of the numbers, with
no overflow. And a step from the cell succeeds just where neither number of the point ahead is
negative and the robot can be placed on the cell with these numbers, and both lead to the same
robot. -/
theorem signed_and_unsigned_bounds_agree (t : Table) (cell : Cell) (heading : Heading) :
    let ahead := cell.ahead heading
    let r : Robot := ⟨t, some ⟨cell, heading⟩⟩
    t.hasPoint cell.point = t.hasCell cell ∧
    Cell.ofPoint cell.point = .ok cell ∧
    (∀ p : Point,
      let fitsX := 0 ≤ p.x.toInt ∧ p.x.toInt ≤ 0xFFFFFFFF
      let fitsY := 0 ≤ p.y.toInt ∧ p.y.toInt ≤ 0xFFFFFFFF
      ((∃ c, Cell.ofPoint p = .ok c) ↔ fitsX ∧ fitsY) ∧
      (∀ c, Cell.ofPoint p = .ok c → c.point = p) ∧
      (¬ fitsX → Cell.ofPoint p = .error (.x p.x)) ∧
      (fitsX → ¬ fitsY → Cell.ofPoint p = .error (.y p.y)) ∧
      (t.hasPoint p = true → ∃ c, Cell.ofPoint p = .ok c)) ∧
    r.advance.isSome = t.hasPoint ahead ∧
    ahead.x.toInt = cell.point.x.toInt + heading.step.x.toInt ∧
    ahead.y.toInt = cell.point.y.toInt + heading.step.y.toInt ∧
    ∀ r', r.advance = some r' ↔
      0 ≤ ahead.x.toInt ∧ 0 ≤ ahead.y.toInt ∧
        ∃ next : Cell, next.x.toNat = ahead.x.toInt.toNat ∧ next.y.toNat = ahead.y.toInt.toNat ∧
          r.place next heading = some r' := by
  intro ahead r
  have hpose : r.pose = some ⟨cell, heading⟩ := rfl
  have hsucceeds := Robot.isSome_advance hpose
  refine ⟨t.hasPoint_point cell, Cell.ofPoint_eq_ok_iff.mpr rfl, ?_, hsucceeds, ?_, ?_, ?_⟩
  · intro p fitsX fitsY
    refine ⟨Cell.exists_ofPoint_iff, ?_, ?_, ?_, Table.exists_ofPoint_of_hasPoint⟩
    · intro c hc
      exact Cell.ofPoint_eq_ok_iff.mp hc
    · intro hx
      exact Cell.ofPoint_of_not_x hx
    · intro hx hy
      exact Cell.ofPoint_of_not_y hx hy
  · -- the point ahead is as far as the heading says, in integers
    rw [cell.toInt_point_x]
    exact cell.toInt_ahead_x heading
  · rw [cell.toInt_point_y]
    exact cell.toInt_ahead_y heading
  · -- a cell at the point ahead is a cell with its numbers
    intro r'
    rw [Robot.advance_eq_some_iff hpose]
    constructor
    · rintro ⟨next, hpoint, hplace⟩
      obtain ⟨hx, hy, hnextx, hnexty⟩ := Cell.point_eq_iff_toNat.mp hpoint
      exact ⟨hx, hy, next, hnextx, hnexty, hplace⟩
    · rintro ⟨hx, hy, next, hnextx, hnexty, hplace⟩
      exact ⟨next, Cell.point_eq_iff_toNat.mpr ⟨hx, hy, hnextx, hnexty⟩, hplace⟩

end ToyRobot
