import Mathlib.Logic.Function.Iterate
import ToyRobot.Proofs.Contract

/-!
# Dead reckoning

A walker is a square in whole numbers and a count of quarter turns. It asks nothing of the table but
to be held back at its edges (`Table.clamp`), and nothing that it is told can be refused. Still it
always knows where the robot of a session is (`Walker.Tracks`), as long as the gate is open and no
placement puts the robot somewhere else: the robot refuses a step exactly where holding the walker
back undoes it (`Table.clamp_front_eq_square_iff`), and the heading of the robot is the count of
turns up to full circles (`Heading.ofTurns`).
-/

namespace ToyRobot

/-! ## Headings by quarter turns -/

namespace Heading

/-- The number of quarter turns clockwise from north to a heading. -/
def turns : Heading → Int
  | north => 0
  | east => 1
  | south => 2
  | west => 3

/-- The heading after a number of quarter turns clockwise from north. -/
def ofTurns (n : Int) : Heading :=
  match n % 4 with
  | 0 => north
  | 1 => east
  | 2 => south
  | _ => west

/-- A number of turns leads to a heading just where it is that of the heading, up to full circles.
-/
theorem ofTurns_eq_iff {n : Int} {h : Heading} : ofTurns n = h ↔ n % 4 = h.turns := by
  constructor
  · rintro rfl
    have hquarters : n % 4 = 0 ∨ n % 4 = 1 ∨ n % 4 = 2 ∨ n % 4 = 3 := by omega
    rcases hquarters with hn | hn | hn | hn <;> rw [ofTurns, hn] <;> rfl
  · intro hn
    rw [ofTurns, hn]
    cases h <;> rfl

theorem ofTurns_turns (h : Heading) : ofTurns h.turns = h := by
  cases h <;> rfl

/-- Full circles make no difference. -/
theorem ofTurns_congr {m n : Int} (h : m % 4 = n % 4) : ofTurns m = ofTurns n := by
  rw [ofTurns, h, ofTurns]

/-- A turn to the right adds one to the count. -/
theorem right_ofTurns (n : Int) : (ofTurns n).right = ofTurns (n + 1) := by
  symm
  rw [ofTurns_eq_iff]
  generalize hn : ofTurns n = h
  rw [ofTurns_eq_iff] at hn
  cases h <;> simp only [right, turns] at hn ⊢ <;> omega

/-- A turn to the left takes back a turn to the right. -/
theorem left_right (h : Heading) : h.right.left = h := by
  cases h <;> rfl

/-- A turn to the left takes one off. -/
theorem left_ofTurns (n : Int) : (ofTurns n).left = ofTurns (n - 1) := by
  have hright := right_ofTurns (n - 1)
  rw [Int.sub_add_cancel] at hright
  rw [← hright, left_right]

/-- Turns to the right add up. -/
theorem iterate_right_ofTurns (n : Int) (k : Nat) : right^[k] (ofTurns n) = ofTurns (n + k) := by
  induction k with
  | zero => rw [Function.iterate_zero_apply, Int.natCast_zero, Int.add_zero]
  | succ k ih => rw [Function.iterate_succ_apply', ih, right_ofTurns, Int.add_assoc, Int.natCast_succ]

/-- One step forward, by whole numbers. -/
def unit : Heading → Int × Int
  | north => (0, 1)
  | east => (1, 0)
  | south => (0, -1)
  | west => (-1, 0)

end Heading

/-! ## Held back at the edge -/

/-- The square of a pose, by whole numbers. -/
def Pose.square (p : Pose) : Int × Int :=
  (p.cell.x.toNat, p.cell.y.toNat)

/-- The square in front is one step on from the square of the pose. -/
theorem Pose.front_eq_square_add_unit (p : Pose) :
    p.front = (p.square.1 + p.heading.unit.1, p.square.2 + p.heading.unit.2) := by
  rcases p with ⟨cell, heading⟩
  apply Prod.ext <;> cases heading <;>
    simp only [Pose.front, Pose.square, Heading.unit] <;> omega

namespace Table

/-- The square of the table that is nearest to a given one, on the table or not. -/
def clamp (t : Table) (square : Int × Int) : Int × Int :=
  (max 0 (min square.1 (t.width.toNat - 1)), max 0 (min square.2 (t.height.toNat - 1)))

variable {t : Table}

/-- A square of the table is left where it is. -/
theorem clamp_of_covers {square : Int × Int} (h : t.Covers square) : t.clamp square = square := by
  rcases h with ⟨hx, hwidth, hy, hheight⟩
  apply Prod.ext
  · simp only [clamp]
    omega
  · simp only [clamp]
    omega

/-- From a square in front that is off the table, one is held back on the square behind it. -/
theorem clamp_front_of_not_covers {p : Pose} (hcell : t.hasCell p.cell)
    (hfront : ¬ t.Covers p.front) : t.clamp p.front = p.square := by
  rcases hasCell_iff.mp hcell with ⟨hx, hy⟩
  rcases p with ⟨cell, heading⟩
  -- one side of the table is passed, the one in the direction of the heading
  cases heading <;> simp only [Covers, Pose.front] at hfront hx hy <;>
    apply Prod.ext <;> simp only [clamp, Pose.front, Pose.square] <;> omega

/-- Holding back undoes a step just where the step would leave the table. -/
theorem clamp_front_eq_square_iff {p : Pose} (hcell : t.hasCell p.cell) :
    t.clamp p.front = p.square ↔ ¬ t.Covers p.front := by
  constructor
  · -- a step on the table is not held back, and it does lead away
    intro hclamp hcovers
    rw [clamp_of_covers hcovers, p.front_eq_square_add_unit, Prod.ext_iff] at hclamp
    rcases p with ⟨cell, heading⟩
    cases heading <;> simp only [Heading.unit] at hclamp <;> omega
  · exact clamp_front_of_not_covers hcell

end Table

/-! ## The walker -/

/-- A square, and a direction by quarter turns clockwise from north. -/
structure Walker where
  square : Int × Int
  turns : Int
deriving Repr, DecidableEq

namespace Walker

/-- The walker that sets out from a pose. -/
def ofPose (p : Pose) : Walker := ⟨p.square, p.heading.turns⟩

def unit (w : Walker) : Int × Int := (Heading.ofTurns w.turns).unit

/-- What the walker makes of a command. It moves by a step and is then held back on the table; it
counts its turns; and any other command leaves it in place. -/
def walk (t : Table) (w : Walker) : Command → Walker
  | .move => { w with square := t.clamp (w.square.1 + w.unit.1, w.square.2 + w.unit.2) }
  | .left => { w with turns := w.turns - 1 }
  | .right => { w with turns := w.turns + 1 }
  | .place _ _ _ => w
  | .report => w

/-- What the walker makes of a line. A line that is no command leaves it in place. -/
def heed (t : Table) (w : Walker) (line : String) : Walker :=
  match Command.ofLine? line with
  | some c => w.walk t c
  | none => w

def heedAll (t : Table) (w : Walker) (lines : List String) : Walker :=
  lines.foldl (heed t) w

variable {t : Table} {w : Walker} {line : String}

theorem heed_unrecognized (hread : Command.ofLine? line = none) : w.heed t line = w := by
  rw [heed, hread]

theorem heed_command {c : Command} (hread : Command.ofLine? line = some c) :
    w.heed t line = w.walk t c := by
  rw [heed, hread]

/-- A line adds to the turns what it is: a turn to the right, to the left, or none. -/
theorem turns_heed : (w.heed t line).turns = w.turns +
    (if Command.ofLine? line = some .right then 1 else 0) -
    (if Command.ofLine? line = some .left then 1 else 0) := by
  cases hread : Command.ofLine? line with
  | none => simp [heed_unrecognized hread]
  | some c =>
    rw [heed_command hread]
    cases c <;> simp [walk]

/-- The turns are those to the right less those to the left. -/
theorem turns_heedAll (t : Table) (w : Walker) (lines : List String) :
    (w.heedAll t lines).turns = w.turns +
      lines.countP (fun line => Command.ofLine? line = some .right) -
      lines.countP (fun line => Command.ofLine? line = some .left) := by
  induction lines generalizing w with
  | nil => simp [heedAll]
  | cons line rest ih =>
    have hrest : (w.heedAll t (line :: rest)).turns = ((w.heed t line).heedAll t rest).turns := rfl
    rw [hrest, ih, turns_heed, List.countP_cons, List.countP_cons]
    simp only [decide_eq_true_eq]
    split <;> split <;> omega

/-! ## Where the robot is -/

/-- The walker is on the square of a pose and looks the same way. -/
structure StandsFor (w : Walker) (p : Pose) : Prop where
  square : w.square = p.square
  heading : p.heading = .ofTurns w.turns

/-- A walker that sets out from a pose stands for it. -/
theorem standsFor_ofPose (p : Pose) : (ofPose p).StandsFor p :=
  ⟨rfl, (Heading.ofTurns_turns p.heading).symm⟩

namespace StandsFor

variable {p : Pose} {r r' : Robot} {o : Outcome}

/-- What the walker is held back from is the square in front of the robot. -/
theorem square_move (h : w.StandsFor p) : (w.walk t .move).square = t.clamp p.front := by
  rw [p.front_eq_square_add_unit, h.heading, ← h.square]
  rfl

/-- Only a placement that succeeds takes the robot away from the walker. -/
theorem executes {c : Command} (h : w.StandsFor p) (hpose : r.pose = some p)
    (hcell : r.table.hasCell p.cell) (hrule : Command.Executes r c o r')
    (hlands : ¬ c.LandsOn r.table) :
    ∃ q, r'.pose = some q ∧ (w.walk r.table c).StandsFor q := by
  rcases r with ⟨table, _⟩
  cases hpose
  cases hrule with
  | withheld _ hnowhere => cases hnowhere
  | placed hfound =>
    exact absurd (Table.lt_of_cellAt? hfound) hlands
  | misplaced _ => exact ⟨p, rfl, h⟩
  | @moved _ cell hpose hahead hnext =>
    cases hpose
    -- the cell that the robot moves to is the square in front, and holding back leaves it there
    have hfront : (Pose.mk cell p.heading).square = p.front := Cell.point_eq_ahead_iff.mp hahead
    have hcovers : table.Covers p.front := Table.covers_front_of_ahead hahead hnext
    refine ⟨_, rfl, ?_, h.heading⟩
    rw [h.square_move, Table.clamp_of_covers hcovers, hfront]
  | blocked hpose hpoint =>
    cases hpose
    -- the square in front is off the table, so the walker is held back on the one it came from
    have hfront : ¬ table.Covers p.front := by
      rw [← Table.hasPoint_ahead_iff, hpoint]
      exact Bool.false_ne_true
    refine ⟨p, rfl, ?_, h.heading⟩
    rw [h.square_move, Table.clamp_front_of_not_covers hcell hfront]
  | turnedLeft hpose =>
    cases hpose
    refine ⟨_, rfl, h.square, ?_⟩
    rw [h.heading, Heading.left_ofTurns]
    rfl
  | turnedRight hpose =>
    cases hpose
    refine ⟨_, rfl, h.square, ?_⟩
    rw [h.heading, Heading.right_ofTurns]
    rfl
  | reported _ => exact ⟨p, rfl, h⟩

/-- A move fails just where the walker is held back to where it was. -/
theorem move_fails_iff (h : w.StandsFor p) (hpose : r.pose = some p)
    (hcell : r.table.hasCell p.cell) (hrule : Command.Executes r .move o r') :
    o.success = false ↔ (w.walk r.table .move).square = w.square := by
  rw [h.square_move, h.square, Table.clamp_front_eq_square_iff hcell,
    ← Command.feasible_move_iff hpose, ← hrule.success_iff_feasible, Bool.not_eq_true]

end StandsFor

end Walker

/-! ## Behind an open gate -/

/-- The line of a step was a placement, and it succeeded. -/
def Step.Landed (step : Step) : Prop :=
  match step.operation with
  | .line text =>
    (∃ c ∈ Command.ofLine? text, c.isPlace = true) ∧ ∃ o ∈ step.outcome, o.success = true
  | .reset => False

instance (step : Step) : Decidable step.Landed :=
  match step with
  | ⟨_, .line _, _, _, _⟩ => inferInstanceAs (Decidable (_ ∧ _))
  | ⟨_, .reset, _, _, _⟩ => inferInstanceAs (Decidable False)

/-- A placement on the table succeeds. -/
theorem Session.landed_of_landsOn {s : Session} {line : String} {c : Command}
    (hread : Command.ofLine? line = some c) (hlands : c.LandsOn s.robot.table) :
    (s.perform (.line line)).Landed := by
  have hopens := (Command.executes_execute c s.robot).opens_iff.mpr hlands
  rcases Bool.and_eq_true_iff.mp hopens with ⟨hplace, hsuccess⟩
  rw [perform_line, process_admitted hread (admits_of_isPlace hplace)]
  exact ⟨⟨c, hread, hplace⟩, _, rfl, hsuccess⟩

namespace Walker

variable {t : Table} {w : Walker} {s : Session} {line : String}

/-- The gate of a session on the table is open, and the walker stands for where its robot is. -/
structure Tracks (t : Table) (w : Walker) (s : Session) : Prop where
  gate : s.gateOpen = true
  table : s.robot.table = t
  onTable : s.robot.OnTable
  pose : ∃ p, s.robot.pose = some p ∧ w.StandsFor p

namespace Tracks

/-- Session and walker take a line that does not place the robot. -/
theorem process (h : w.Tracks t s) (hlanded : ¬ (s.perform (.line line)).Landed) :
    (w.heed t line).Tracks t (s.process line).session := by
  have hkeeps := s.process_keeps line
  have hopen : (s.process line).session.gateOpen = true :=
    (s.process_gateOpen_iff line).mpr (.inl h.gate)
  refine ⟨hopen, hkeeps.table.trans h.table, hkeeps.onTable h.onTable, ?_⟩
  cases hread : Command.ofLine? line with
  | none =>
    rw [Session.process_unrecognized hread, heed_unrecognized hread]
    exact h.pose
  | some c =>
    rcases h.pose with ⟨p, hpose, hstands⟩
    have hrule := Command.executes_execute c s.robot
    have hstays : ¬ c.LandsOn s.robot.table := fun hlands =>
      hlanded (Session.landed_of_landsOn hread hlands)
    rw [Session.process_admitted hread (Session.admits_of_open h.gate), heed_command hread,
      ← h.table]
    exact hstands.executes hpose (h.onTable p hpose) hrule hstays

/-- So they do with any number of such lines, one after another. -/
theorem run (h : w.Tracks t s) {lines : List String}
    (hlanded : ∀ step ∈ s.trace (lines.map .line), ¬ step.Landed) :
    (w.heedAll t lines).Tracks t (s.run (lines.map .line)) := by
  induction lines generalizing w s with
  | nil => exact h
  | cons line rest ih =>
    rw [List.map_cons, Session.trace, List.forall_mem_cons] at hlanded
    rcases hlanded with ⟨hline, hrest⟩
    exact ih (h.process hline) hrest

theorem move_fails_iff (h : w.Tracks t s) (hread : Command.ofLine? line = some .move) :
    (s.process line).outcome.success = false ↔ (w.heed t line).square = w.square := by
  rcases h.pose with ⟨p, hpose, hstands⟩
  rw [Session.process_admitted hread (Session.admits_of_open h.gate), heed_command hread, ← h.table]
  exact hstands.move_fails_iff hpose (h.onTable p hpose) (Command.executes_execute .move s.robot)

end Tracks

end Walker

/-- Dead reckoning. Take any session of a robot that has come from a new one, with the gate open, and
any lines among which no placement succeeds. A walker sets out from where the robot is; it is never
refused a step, but is held back at the edges of the table. After every line the robot is on the
square where the walker is, and a move fails exactly if holding the walker back has undone the step.
At the end the robot looks in the direction in which it looked first, turned clockwise as often as
there were more turns to the right than to the left, up to full circles. -/
theorem dead_reckoning (t : Table) (actions : List Robot.Action) (earlier : List Operation)
    {lines : List String} :
    let s := Session.run ⟨(Robot.unplaced t).actAll actions, false⟩ earlier
    let rights : Int := lines.countP (fun line => Command.ofLine? line = some .right)
    let lefts : Int := lines.countP (fun line => Command.ofLine? line = some .left)
    s.gateOpen = true → (∀ step ∈ s.trace (lines.map .line), ¬ step.Landed) →
      ∃ start, s.robot.pose = some start ∧
        (∃ last, (s.run (lines.map .line)).robot.pose = some last ∧
          last.heading = Heading.right^[((rights - lefts) % 4).toNat] start.heading) ∧
        ∀ heard line later, lines = heard ++ line :: later →
          let before := s.run (heard.map .line)
          let walker := (Walker.ofPose start).heedAll t heard
          (∃ p, (before.process line).session.robot.pose = some p ∧
            p.square = (walker.heed t line).square) ∧
          (Command.ofLine? line = some .move →
            ((before.process line).outcome.success = false ↔
              (walker.heed t line).square = walker.square)) := by
  intro s rights lefts hopen hlanded
  have hkeeps : (Robot.unplaced t).Keeps s.robot := Session.run_actAll_keeps t actions earlier
  have hsound : s.Sound := (Session.sound_of_closed rfl).run earlier
  rcases Option.isSome_iff_exists.mp (hsound hopen) with ⟨start, hstart⟩
  -- the walker sets out from where the open gate says that the robot is
  have htracks : (Walker.ofPose start).Tracks t s :=
    ⟨hopen, hkeeps.table, hkeeps.onTable (Robot.onTable_unplaced t), start, hstart,
      Walker.standsFor_ofPose start⟩
  refine ⟨start, hstart, ?_, ?_⟩
  · rcases (htracks.run hlanded).pose with ⟨last, hlast, hstands⟩
    have hturns : ((Walker.ofPose start).heedAll t lines).turns =
        start.heading.turns + rights - lefts := Walker.turns_heedAll t _ lines
    refine ⟨last, hlast, ?_⟩
    calc last.heading
      _ = .ofTurns (start.heading.turns + rights - lefts) := by rw [hstands.heading, hturns]
      _ = .ofTurns (start.heading.turns + ((rights - lefts) % 4).toNat) :=
        Heading.ofTurns_congr (by omega)
      _ = Heading.right^[((rights - lefts) % 4).toNat] start.heading := by
        rw [← Heading.iterate_right_ofTurns, Heading.ofTurns_turns]
  · intro heard line later hlines before walker
    subst hlines
    rw [List.map_append, List.map_cons, Session.trace_append, List.forall_mem_append,
      Session.trace, List.forall_mem_cons] at hlanded
    -- no line before this one has landed a placement, nor does this one
    rcases hlanded with ⟨hheard, hline, _⟩
    have hbefore : walker.Tracks t before := htracks.run hheard
    rcases (hbefore.process hline).pose with ⟨p, hp, hstands⟩
    exact ⟨⟨p, hp, hstands.square.symm⟩, hbefore.move_fails_iff⟩

/-- On a table of three columns and two rows, a robot that begins in the upper row: its first move
leads to the first column, where the second is refused. A placement off the table, a line that is no
command and a report do not lead it away, and three turns to the right and one to the left are half
a circle. -/
theorem dead_reckoning_to_first_column :
    let t : Table := ⟨3, 2, by decide, by decide⟩
    let earlier : List Operation := [.line "PLACE 1,1,NORTH"]
    let heard := ["LEFT", "move", "PLACE 3,0,EAST", "JUMP", "REPORT"]
    let lines := heard ++ "MOVE" :: ["RIGHT", " right ", "RIGHT"]
    let s := Session.run ⟨(Robot.unplaced t).actAll [.turnLeft], false⟩ earlier
    s.gateOpen = true ∧ (∀ step ∈ s.trace (lines.map .line), ¬ step.Landed) ∧
      ((s.run (heard.map .line)).process "MOVE").outcome.success = false ∧
      ∃ last, (s.run (lines.map .line)).robot.pose = some last ∧ last.heading = .south := by
  intro t earlier heard lines s
  have hs : s = Session.run ⟨(Robot.unplaced t).actAll [.turnLeft], false⟩ earlier := rfl
  have hopen : s.gateOpen = true := by decide +kernel
  have hlanded : ∀ step ∈ s.trace (lines.map .line), ¬ step.Landed := by decide +kernel
  have hmove : Command.ofLine? "MOVE" = some .move := by decide +kernel
  have hpose : s.robot.pose = some ⟨⟨1, 1⟩, .north⟩ := by decide +kernel
  have hreckoning := dead_reckoning t [.turnLeft] earlier hopen hlanded
  rw [← hs] at hreckoning
  -- what is left to say does not ask which session this is
  clear_value s
  rcases hreckoning with ⟨start, hstart, ⟨last, hlast, hheading⟩, hlines⟩
  rw [hpose] at hstart
  cases hstart
  rcases hlines heard "MOVE" _ rfl with ⟨_, hfails⟩
  have hfailure := (hfails hmove).mpr (by decide +kernel)
  have hsouth : last.heading = .south := by
    rw [hheading]
    decide +kernel
  exact ⟨hopen, hlanded, hfailure, last, hlast, hsouth⟩

end ToyRobot
