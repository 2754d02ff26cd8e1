import ToyRobot.Proofs.Contract

/-!
# Walks and the way back

A stride is a move or a turn that succeeds, from one pose to the next; a walk is stride after stride.
A robot takes a stride when it is told to (`Stride.execute_eq`), and a move or a turn comes to nothing
else when it succeeds (`exists_stride_of_success`); so walks are what moves and turns come to that all
succeed (`Walk.obeyAll?`, `exists_walk_of_obeyAll?`).

A robot that has turned about retraces its last stride with one more stride: a move leads back to
the cell that it came from, which was on the table, and a turn is taken back by the opposite turn
(`Stride.retrace`). So every walk has a way back, stride by stride from its end.
-/

namespace ToyRobot

/-! ## Commands that all succeed -/

namespace Robot

/-- The robot after commands, one after another, if every one of them succeeds. -/
def obeyAll? : Robot → List Command → Option Robot
  | r, [] => some r
  | r, c :: rest => if (c.execute r).1.success then (c.execute r).2.obeyAll? rest else none

theorem obeyAll?_cons_eq_some_iff {r r' : Robot} {c : Command} {rest : List Command} :
    r.obeyAll? (c :: rest) = some r' ↔
      (c.execute r).1.success = true ∧ (c.execute r).2.obeyAll? rest = some r' := by
  rw [obeyAll?, Option.ite_none_right_eq_some]

/-- Commands all succeed just if each of them succeeds where the ones before have led, and then the
robot is where its actions lead. -/
theorem obeyAll?_eq_some_iff {r r' : Robot} {commands : List Command} :
    r.obeyAll? commands = some r' ↔
      (∀ done ∈ r.executeAll commands, done.1.success = true) ∧
        r.actAll (commands.map .execute) = r' := by
  induction commands generalizing r with
  | nil => simp [obeyAll?, executeAll, actAll]
  | cons c rest ih =>
    rw [obeyAll?_cons_eq_some_iff, ih, executeAll, List.forall_mem_cons, and_assoc]
    rfl

end Robot

/-- The commands that walk: a move and the two turns. -/
def Command.isStride : Command → Bool
  | move => true
  | left => true
  | right => true
  | _ => false

/-! ## Strides and walks -/

/-- One stride on a table: from which pose, by which command, to which pose. -/
inductive Stride (t : Table) : Pose → Command → Pose → Prop where
  | moved {p : Pose} {cell : Cell} : cell.point = p.cell.ahead p.heading → t.hasCell cell →
      Stride t p .move ⟨cell, p.heading⟩
  | turnedLeft {p : Pose} : Stride t p .left ⟨p.cell, p.heading.left⟩
  | turnedRight {p : Pose} : Stride t p .right ⟨p.cell, p.heading.right⟩

/-- Stride after stride on a table. -/
inductive Walk (t : Table) : Pose → List Command → Pose → Prop where
  | rest {p : Pose} : Walk t p [] p
  | step {p q last : Pose} {c : Command} {later : List Command} :
      Stride t p c q → Walk t q later last → Walk t p (c :: later) last

variable {t : Table} {p q last : Pose} {c : Command} {commands : List Command}

namespace Stride

/-- A stride stays on the table. -/
theorem hasCell (h : Stride t p c q) (hcell : t.hasCell p.cell) : t.hasCell q.cell := by
  cases h with
  | moved _ hnext => exact hnext
  | turnedLeft => exact hcell
  | turnedRight => exact hcell

/-- A stride is a move or a turn. -/
theorem isStride (h : Stride t p c q) : c.isStride = true := by
  cases h <;> rfl

/-- A robot that is told to takes the stride. -/
theorem execute_eq (h : Stride t p c q) : c.execute ⟨t, some p⟩ = (.done, ⟨t, some q⟩) := by
  cases h with
  | moved hahead hcell => exact (Command.Executes.moved rfl hahead hcell).eq_execute
  | turnedLeft => exact (Command.Executes.turnedLeft rfl).eq_execute
  | turnedRight => exact (Command.Executes.turnedRight rfl).eq_execute

end Stride

/-- A move or a turn that succeeds is a stride. -/
theorem exists_stride_of_success (hstride : c.isStride = true)
    (hsuccess : (c.execute ⟨t, some p⟩).1.success = true) :
    ∃ q, Stride t p c q ∧ (c.execute ⟨t, some p⟩).2 = ⟨t, some q⟩ := by
  have hrule := Command.executes_execute c ⟨t, some p⟩
  generalize hresult : c.execute ⟨t, some p⟩ = result at hrule hsuccess
  obtain ⟨o, r⟩ := result
  cases hrule with
  | moved hpose hahead hcell =>
    cases hpose
    exact ⟨_, .moved hahead hcell, rfl⟩
  | turnedLeft hpose =>
    cases hpose
    exact ⟨_, .turnedLeft, rfl⟩
  | turnedRight hpose =>
    cases hpose
    exact ⟨_, .turnedRight, rfl⟩
  | withheld _ hnowhere => cases hnowhere
  | blocked _ _ => cases hsuccess
  -- a placement and a report are no strides
  | placed _ => cases hstride
  | misplaced _ => cases hstride
  | reported _ => cases hstride

namespace Walk

theorem append {middle : Pose} {later : List Command} (h : Walk t p commands middle)
    (h' : Walk t middle later last) : Walk t p (commands ++ later) last := by
  induction h with
  | rest => exact h'
  | step hstride _ ih => exact .step hstride (ih h')

/-- A walk is obeyed command by command. -/
theorem obeyAll? (h : Walk t p commands q) :
    Robot.obeyAll? ⟨t, some p⟩ commands = some ⟨t, some q⟩ := by
  induction h with
  | rest => rfl
  | step hstride _ ih =>
    rw [Robot.obeyAll?_cons_eq_some_iff, hstride.execute_eq]
    exact ⟨rfl, ih⟩

theorem isStride (h : Walk t p commands q) : ∀ c ∈ commands, c.isStride = true := by
  induction h with
  | rest => simp
  | step hstride _ ih => exact List.forall_mem_cons.mpr ⟨hstride.isStride, ih⟩

end Walk

/-- Moves and turns that all succeed are a walk. -/
theorem exists_walk_of_obeyAll? {r : Robot} (hstrides : ∀ c ∈ commands, c.isStride = true)
    (hobeyed : Robot.obeyAll? ⟨t, some p⟩ commands = some r) :
    ∃ q, Walk t p commands q ∧ r = ⟨t, some q⟩ := by
  induction commands generalizing p with
  | nil =>
    cases hobeyed
    exact ⟨p, .rest, rfl⟩
  | cons c rest ih =>
    rw [List.forall_mem_cons] at hstrides
    rw [Robot.obeyAll?_cons_eq_some_iff] at hobeyed
    obtain ⟨hsuccess, hrest⟩ := hobeyed
    -- the first command is a stride, and the others walk on from where it leads
    obtain ⟨next, hstride, hnext⟩ := exists_stride_of_success hstrides.1 hsuccess
    rw [hnext] at hrest
    obtain ⟨q, hwalk, hr⟩ := ih hstrides.2 hrest
    exact ⟨q, .step hstride hwalk, hr⟩

/-! ## Turning about -/

/-- The opposite direction. -/
def Heading.about : Heading → Heading
  | north => south
  | east => west
  | south => north
  | west => east

/-- The same cell, looking in the opposite direction. -/
def Pose.about (p : Pose) : Pose := ⟨p.cell, p.heading.about⟩

/-- The command that leads back when the robot has turned about: turns change sides. -/
def Command.back : Command → Command
  | left => right
  | right => left
  | c => c

theorem Heading.about_about (h : Heading) : h.about.about = h := by
  cases h <;> rfl

theorem Heading.left_left (h : Heading) : h.left.left = h.about := by
  cases h <;> rfl

theorem Heading.right_about_left (h : Heading) : h.left.about.right = h.about := by
  cases h <;> rfl

theorem Heading.left_about_right (h : Heading) : h.right.about.left = h.about := by
  cases h <;> rfl

theorem Pose.about_about (p : Pose) : p.about.about = p := by
  rw [about, about, Heading.about_about]

/-- Two turns to the left turn a robot about. -/
theorem walk_about (t : Table) (p : Pose) : Walk t p [.left, .left] p.about := by
  have hturns : Walk t p [.left, .left] ⟨p.cell, p.heading.left.left⟩ :=
    .step .turnedLeft (.step .turnedLeft .rest)
  rw [Heading.left_left] at hturns
  exact hturns

/-- From the cell ahead, the way back lies ahead of a robot that has turned about. -/
theorem Pose.point_eq_ahead_about {p : Pose} {cell : Cell}
    (hahead : cell.point = p.cell.ahead p.heading) :
    p.cell.point = cell.ahead p.heading.about := by
  obtain ⟨start, heading⟩ := p
  have hfront : ((cell.x.toNat, cell.y.toNat) : Int × Int) = Pose.front ⟨start, heading⟩ :=
    Cell.point_eq_ahead_iff.mp hahead
  -- one step forward and one back, by whole numbers
  have hback : ((start.x.toNat, start.y.toNat) : Int × Int) = Pose.front ⟨cell, heading.about⟩ := by
    rw [Prod.ext_iff] at hfront ⊢
    cases heading <;> simp only [Pose.front, Heading.about] at hfront ⊢ <;> omega
  exact (Cell.point_eq_ahead_iff (p := ⟨cell, heading.about⟩)).mpr hback

/-- A stride is retraced by a stride. -/
theorem Stride.retrace (h : Stride t p c q) (hcell : t.hasCell p.cell) :
    Stride t q.about c.back p.about := by
  cases h with
  | moved hahead _ => exact .moved (Pose.point_eq_ahead_about hahead) hcell
  | turnedLeft =>
    -- the robot looks about, so the turn back is to the other side
    have hturn : Stride t ⟨p.cell, p.heading.left.about⟩ .right
        ⟨p.cell, p.heading.left.about.right⟩ := .turnedRight
    rw [Heading.right_about_left] at hturn
    exact hturn
  | turnedRight =>
    have hturn : Stride t ⟨p.cell, p.heading.right.about⟩ .left
        ⟨p.cell, p.heading.right.about.left⟩ := .turnedLeft
    rw [Heading.left_about_right] at hturn
    exact hturn

/-- A walk is retraced stride by stride, from its end. -/
theorem Walk.retrace (h : Walk t p commands q) (hcell : t.hasCell p.cell) :
    Walk t q.about (commands.map Command.back).reverse p.about := by
  induction h with
  | rest => exact .rest
  | step hstride _ ih =>
    -- the last strides are taken back first, and then this one
    have hback := ih (hstride.hasCell hcell)
    rw [List.map_cons, List.reverse_cons]
    exact hback.append (.step (hstride.retrace hcell) .rest)

/-- Every walk can be retraced. Give a robot that is placed on its table any moves and turns that all
succeed. Then it succeeds as well in turning about by two turns to the left, in carrying out the same
commands from the last to the first, with the turns to the other side, and in turning about again;
and after that it is the robot that it was at first, on the same cell and looking in the same
direction. -/
theorem walk_can_be_retraced {r there : Robot} {p : Pose} {commands : List Command}
    (hpose : r.pose = some p) (hcell : r.table.hasCell p.cell)
    (hstrides : ∀ c ∈ commands, c.isStride = true) (hthere : r.obeyAll? commands = some there) :
    there.obeyAll? ([.left, .left] ++ (commands.map Command.back).reverse ++ [.left, .left]) =
      some r := by
  obtain ⟨t, pose⟩ := r
  cases hpose
  obtain ⟨q, hwalk, rfl⟩ := exists_walk_of_obeyAll? hstrides hthere
  have hback : Walk t q ([.left, .left] ++ (commands.map Command.back).reverse ++ [.left, .left])
      p.about.about :=
    ((walk_about t q).append (hwalk.retrace hcell)).append (walk_about t p.about)
  rw [Pose.about_about] at hback
  exact hback.obeyAll?

/-- On a table with as many columns as there can be, to the last of them, down its edge and off along
the lower row. -/
theorem walk_around_last_column_can_be_retraced :
    let t : Table := ⟨0xFFFFFFFF, 2, by decide, by decide⟩
    let r : Robot := ⟨t, some ⟨⟨0xFFFFFFFD, 1⟩, .east⟩⟩
    let there : Robot := ⟨t, some ⟨⟨0xFFFFFFFD, 0⟩, .west⟩⟩
    let commands : List Command := [.move, .right, .move, .right, .move]
    let back : List Command := [.left, .left, .move, .left, .move, .left, .move, .left, .left]
    t.hasCell ⟨0xFFFFFFFD, 1⟩ = true ∧ (∀ c ∈ commands, c.isStride = true) ∧
      r.obeyAll? commands = some there ∧
      there.obeyAll? back = some r := by
  intro t r there commands back
  have hpose : r.pose = some ⟨⟨0xFFFFFFFD, 1⟩, .east⟩ := rfl
  have hcell : t.hasCell ⟨0xFFFFFFFD, 1⟩ = true := by decide
  have hstrides : ∀ c ∈ commands, c.isStride = true := by decide
  have hthere : r.obeyAll? commands = some there := by decide +kernel
  have hback : [.left, .left] ++ (commands.map Command.back).reverse ++ [.left, .left] = back := rfl
  refine ⟨hcell, hstrides, ?_, ?_⟩
  · exact hthere
  · rw [← hback]
    exact walk_can_be_retraced hpose hcell hstrides hthere

end ToyRobot
