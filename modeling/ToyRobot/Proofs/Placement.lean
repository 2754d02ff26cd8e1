import ToyRobot.Proofs.History
import ToyRobot.Proofs.Spelling

/-!
# The numbers of a placement

A number goes a long way from the line on which it is written to the cell of a table: it is cut off
at the largest coordinate, taken for a cell only if it is small enough for one, and compared with a
side of the table. Each of these steps has a limit of its own, and every side of a table is below
all of them. So a numeral denotes a coordinate below a side just where it is worth less than the
side (`Denotes.lt_side_iff`), and a placement is accepted by what is written, not by what became of
it on the way. Nothing that is too large comes back onto the table.
-/

namespace ToyRobot

open Text

/-! ## Numerals without a limit -/

/-- A numeral for a number, without zeros in front. -/
structure IsPlainNumeral (text : String) (n : Nat) : Prop where
  numeral : IsNumeral text.toList
  unpadded : Decimal.Unpadded text.toList
  value : Decimal.value text.toList = n

/-- Numbers are printed as plain numerals. -/
theorem isPlainNumeral_natText (n : Nat) : IsPlainNumeral (Decimal.natText n) n where
  numeral := isNumeral_natText n
  unpadded := by
    rw [Decimal.natText, String.toList_ofList]
    exact Decimal.unpadded_digits n
  value := by rw [Decimal.natText, String.toList_ofList, Decimal.value_digits]

/-- To be cut off at the largest coordinate does not bring a number below the side of a table. -/
theorem Denotes.lt_side_iff {numeral : List Char} {coordinate : UInt64}
    (h : Denotes numeral coordinate) (side : UInt32) :
    coordinate.toNat < side.toNat ↔ Decimal.value numeral < side.toNat := by
  have hside := side.toNat_lt
  rw [h]
  omega

/-- Below the side of a table nothing is cut off. -/
theorem Denotes.toNat_eq_value {numeral : List Char} {coordinate : UInt64}
    (h : Denotes numeral coordinate) {side : UInt32} (hside : coordinate.toNat < side.toNat) :
    coordinate.toNat = Decimal.value numeral := by
  have hlargest := side.toNat_lt
  rw [h] at hside ⊢
  omega

/-! ## Placements -/

/-- The refusal of a placement shows both coordinates as plain numerals. -/
theorem Command.exists_refusal_shows (x y : UInt64) (heading : Heading) :
    ∃ shownX shownY, IsPlainNumeral shownX x.toNat ∧ IsPlainNumeral shownY y.toNat ∧
      refusal (.place x y heading) = "Cannot place robot at position " ++ shownX ++ "," ++ shownY ++
        " - position is invalid" := by
  refine ⟨Decimal.natText x.toNat, Decimal.natText y.toNat, isPlainNumeral_natText x.toNat,
    isPlainNumeral_natText y.toNat, ?_⟩
  show "Cannot place robot at position " ++ (Decimal.natText x.toNat ++ "," ++
    Decimal.natText y.toNat) ++ " - position is invalid" = _
  simp only [String.append_assoc]

/-- A table has a cell for two numerals just where both are worth less than its sides. -/
theorem Table.isSome_cellAt?_iff_value_lt {t : Table} {dx dy : List Char} {x y : UInt64}
    (hx : Denotes dx x) (hy : Denotes dy y) :
    (t.cellAt? x y).isSome ↔
      Decimal.value dx < t.width.toNat ∧ Decimal.value dy < t.height.toNat := by
  rw [Table.isSome_cellAt?_iff, hx.lt_side_iff, hy.lt_side_iff]

/-- The cell for two numerals has what they are worth for its numbers. -/
theorem Table.value_of_cellAt? {t : Table} {dx dy : List Char} {x y : UInt64} {cell : Cell}
    (hx : Denotes dx x) (hy : Denotes dy y) (hcell : t.cellAt? x y = some cell) :
    cell.x.toNat = Decimal.value dx ∧ cell.y.toNat = Decimal.value dy := by
  rcases Table.toNat_of_cellAt? hcell with ⟨hcx, hcy⟩
  rcases Table.lt_of_cellAt? hcell with ⟨hwidth, hheight⟩
  constructor
  · rw [hcx, hx.toNat_eq_value hwidth]
  · rw [hcy, hy.toNat_eq_value hheight]

/-- A placement is accepted exactly if the numbers that are written on it fit the table. Whatever
the session, and however many digits two numerals have, the line that places the robot there
succeeds if and only if the first numeral is worth less than the width of the table and the second
less than its height. If it succeeds, the gate is open and the robot is on the cell with exactly
these numbers and has the heading of the line. If it does not, robot and gate are as they were, and
the error shows both numbers without zeros in front, or the largest coordinate in place of a number
beyond it. -/
theorem placement_accepted_iff_numbers_fit (s : Session) {dx dy : String}
    (hdx : IsNumeral dx.toList) (hdy : IsNumeral dy.toList) (heading : Heading) :
    let x := Decimal.value dx.toList
    let y := Decimal.value dy.toList
    let t := s.robot.table
    let r := s.process ("PLACE " ++ dx ++ "," ++ dy ++ "," ++ heading.name)
    (r.outcome.success = true ↔ x < t.width.toNat ∧ y < t.height.toNat) ∧
      (r.outcome.success = true → r.session.gateOpen = true ∧
        ∃ cell : Cell, cell.x.toNat = x ∧ cell.y.toNat = y ∧
          r.session.robot = ⟨t, some ⟨cell, heading⟩⟩) ∧
      (r.outcome.success = false → r.session = s ∧
        ∃ shownX shownY, IsPlainNumeral shownX (min x 0xFFFFFFFFFFFFFFFF) ∧
          IsPlainNumeral shownY (min y 0xFFFFFFFFFFFFFFFF) ∧
          r.outcome = .failed ("Cannot place robot at position " ++ shownX ++ "," ++ shownY ++
            " - position is invalid")) := by
  intro x y t r
  have hx := denotes_ofNat dx.toList
  have hy := denotes_ofNat dy.toList
  have hread := Command.ofLine?_of_spells (Command.spells_placement hdx hdy hx hy heading)
  rw [String.ofList_toList] at hread
  have hfits := Table.isSome_cellAt?_iff_value_lt (t := t) hx hy
  -- from here on the coordinates matter only for what the numerals denote
  generalize UInt64.ofNat (min x 0xFFFFFFFFFFFFFFFF) = cx,
    UInt64.ofNat (min y 0xFFFFFFFFFFFFFFFF) = cy at hx hy hread hfits
  cases hcell : t.cellAt? cx cy with
  | some cell =>
    rcases Table.value_of_cellAt? hx hy hcell with ⟨hcellx, hcelly⟩
    -- the table has the cell: both numerals are worth less than its sides
    have hr : r = ⟨.done, [], ⟨s.robot.withPose ⟨cell, heading⟩, true⟩⟩ :=
      Session.process_placed hread hcell
    rw [hcell] at hfits
    rw [hr]
    refine ⟨iff_of_true rfl (hfits.mp rfl), ?_, ?_⟩
    · intro _
      exact ⟨rfl, cell, hcellx, hcelly, rfl⟩
    · intro hfail
      cases hfail
  | none =>
    -- it has none: one of the numerals is worth too much
    have hr : r = ⟨.failed (Command.refusal (.place cx cy heading)), [], s⟩ :=
      Session.process_misplaced hread hcell
    rw [hcell] at hfits
    rw [hr]
    refine ⟨iff_of_false Bool.false_ne_true fun h => Bool.false_ne_true (hfits.mpr h), ?_, ?_⟩
    · intro hsuccess
      cases hsuccess
    · intro _
      rcases Command.exists_refusal_shows cx cy heading with ⟨shownX, shownY, hshownX, hshownY, htext⟩
      rw [hx] at hshownX
      rw [hy] at hshownY
      exact ⟨rfl, shownX, shownY, hshownX, hshownY, congrArg Outcome.failed htext⟩

/-- On the widest table a number with zeros in front is that of the last column, and 2 to the power
of 64, which is beyond every coordinate, does not come back as that of the first. -/
theorem placement_beyond_largest_coordinate :
    let s := Session.fresh ⟨0xFFFFFFFF, 3, by decide, by decide⟩
    let last := "0004294967294"
    let beyond := "18446744073709551616"
    let y := "2"
    IsNumeral last.toList ∧ IsNumeral beyond.toList ∧ IsNumeral y.toList ∧
      (s.process ("PLACE " ++ last ++ "," ++ y ++ "," ++ Heading.south.name)).session.gateOpen =
        true ∧
      (s.process ("PLACE " ++ beyond ++ "," ++ y ++ "," ++ Heading.south.name)).session = s := by
  intro s last beyond y
  have hlast : IsNumeral last.toList := by simp [last, IsNumeral, Decimal.isDigit]
  have hbeyond : IsNumeral beyond.toList := by simp [beyond, IsNumeral, Decimal.isDigit]
  have hy : IsNumeral y.toList := by simp [y, IsNumeral, Decimal.isDigit]
  have hfit : Decimal.value last.toList < s.robot.table.width.toNat ∧
      Decimal.value y.toList < s.robot.table.height.toNat := by decide +kernel
  have htoolarge : ¬ Decimal.value beyond.toList < s.robot.table.width.toNat := by decide +kernel
  rcases placement_accepted_iff_numbers_fit s hlast hy .south with ⟨haccepted, hplaced, _⟩
  rcases placement_accepted_iff_numbers_fit s hbeyond hy .south with ⟨haccepted', _, hrefused⟩
  have hsuccess := haccepted.mpr hfit
  have hfailure := Bool.eq_false_iff.mpr fun hsuccess' => htoolarge (haccepted'.mp hsuccess').1
  exact ⟨hlast, hbeyond, hy, (hplaced hsuccess).1, (hrefused hfailure).1⟩

end ToyRobot
