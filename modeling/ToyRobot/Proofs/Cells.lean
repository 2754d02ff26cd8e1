import ToyRobot.Heading

/-!
# Cells and points

The two ways of saying where something is, compared. A cell keeps its numbers when it becomes a
point, the point turns back into that cell, and a table has a point just where it has the cell.
-/

namespace ToyRobot

/-- No column is too large for a signed number. -/
theorem Cell.toInt_point_x (c : Cell) : c.point.x.toInt = c.x.toNat :=
  toInt_signed c.x

/-- No row is too large for a signed number. -/
theorem Cell.toInt_point_y (c : Cell) : c.point.y.toInt = c.y.toNat :=
  toInt_signed c.y

/-- Cells with the same numbers are the same. -/
theorem Cell.eq_of_toNat_eq {a b : Cell} (hx : a.x.toNat = b.x.toNat)
    (hy : a.y.toNat = b.y.toNat) : a = b := by
  obtain ⟨x, y⟩ := a
  have hx' : x = b.x := UInt32.toNat_inj.mp hx
  have hy' : y = b.y := UInt32.toNat_inj.mp hy
  rw [hx', hy']

/-- A cell lies at the point that has the same numbers. -/
theorem Cell.point_eq_iff {c : Cell} {p : Point} :
    c.point = p ↔ p.x.toInt = c.x.toNat ∧ p.y.toInt = c.y.toNat := by
  rcases p with ⟨x, y⟩
  constructor
  · intro h
    have hx : c.point.x = x := congrArg Point.x h
    have hy : c.point.y = y := congrArg Point.y h
    rw [← hx, ← hy]
    exact ⟨c.toInt_point_x, c.toInt_point_y⟩
  · rintro ⟨hx, hy⟩
    have hx' : c.point.x = x := Int64.toInt_inj.mp (c.toInt_point_x.trans hx.symm)
    have hy' : c.point.y = y := Int64.toInt_inj.mp (c.toInt_point_y.trans hy.symm)
    rw [← hx', ← hy']

/-- Turning a point into a cell undoes turning the cell into a point. -/
theorem Cell.ofPoint_eq_ok_iff {p : Point} {c : Cell} : Cell.ofPoint p = .ok c ↔ c.point = p := by
  rcases c with ⟨x, y⟩
  rw [Cell.point_eq_iff, ← Cell.coordinate?_eq_some_iff, ← Cell.coordinate?_eq_some_iff]
  unfold Cell.ofPoint
  constructor
  · intro h
    split at h
    · rename_i hx hy
      cases h
      exact ⟨hx, hy⟩
    · cases h
    · cases h
  · rintro ⟨hx, hy⟩
    rw [hx, hy]

/-- A signed number is no coordinate if it is negative or too large. -/
theorem Cell.coordinate?_eq_none_iff {value : Int64} :
    Cell.coordinate? value = none ↔ ¬ (0 ≤ value.toInt ∧ value.toInt ≤ 0xFFFFFFFF) := by
  have htop : (signed 0xFFFFFFFF).toInt = 0xFFFFFFFF := toInt_signed _
  simp [Cell.coordinate?, Int64.le_iff_toInt_le, htop]

theorem Table.hasCell_iff_lt {t : Table} {c : Cell} :
    t.hasCell c ↔ c.x < t.width ∧ c.y < t.height := by
  rw [hasCell, Bool.and_eq_true, decide_eq_true_eq, decide_eq_true_eq]

/-- The signed and the unsigned test of what lies on a table agree on cells. -/
theorem Table.hasPoint_point (t : Table) (c : Cell) : t.hasPoint c.point = t.hasCell c := by
  rw [Bool.eq_iff_iff, Table.hasPoint_iff, Table.hasCell_iff, c.toInt_point_x, c.toInt_point_y]
  omega

/-- Every point of a table is a cell of it. -/
theorem Table.exists_cell_of_hasPoint {t : Table} {p : Point} (h : t.hasPoint p) :
    ∃ c : Cell, c.point = p ∧ t.hasCell c := by
  have hp := Table.hasPoint_iff.mp h
  have hw := t.width.toNat_lt
  have hh := t.height.toNat_lt
  -- the sides of a table bound both numbers, so nothing is cut off
  have hx : (UInt32.ofNat p.x.toInt.toNat).toNat = p.x.toInt.toNat :=
    UInt32.toNat_ofNat_of_lt' (by simp only [UInt32.size]; omega)
  have hy : (UInt32.ofNat p.y.toInt.toNat).toNat = p.y.toInt.toNat :=
    UInt32.toNat_ofNat_of_lt' (by simp only [UInt32.size]; omega)
  have hpoint : Cell.point ⟨UInt32.ofNat p.x.toInt.toNat, UInt32.ofNat p.y.toInt.toNat⟩ = p := by
    rw [Cell.point_eq_iff, hx, hy]
    omega
  refine ⟨_, hpoint, ?_⟩
  rw [← Table.hasPoint_point, hpoint]
  exact h

end ToyRobot
