import ToyRobot.Proofs.Gate
import ToyRobot.Proofs.Grammar

/-!
# How a line can fail

A session has seven texts for what can go wrong, and four of them are never heard. Behind an open
gate there is a placed robot (`Session.Sound`): this is kept by every operation, whatever robot the
session began with, and a placed robot can be turned and can report. What is left are three failures
(`LineFailure`), each with the condition under which a line meets it (`Session.Fails`). Since their
messages can be told apart, and that of a placement even tells its coordinates, a message that is
heard says which condition was met (`Session.Sound.process_failed_iff`).
-/

namespace ToyRobot

open Text

/-! ## The square in front -/

/-- The square in front of a pose, by whole numbers. -/
def Pose.front (p : Pose) : Int × Int :=
  match p.heading with
  | .north => (p.cell.x.toNat, p.cell.y.toNat + 1)
  | .east => (p.cell.x.toNat + 1, p.cell.y.toNat)
  | .south => (p.cell.x.toNat, p.cell.y.toNat - 1)
  | .west => (p.cell.x.toNat - 1, p.cell.y.toNat)

/-- The squares of a table, by whole numbers. -/
def Table.Covers (t : Table) (square : Int × Int) : Prop :=
  0 ≤ square.1 ∧ square.1 < t.width.toNat ∧ 0 ≤ square.2 ∧ square.2 < t.height.toNat

/-- The square in front of a pose is the point that a step from it leads to. -/
theorem Pose.front_eq (p : Pose) :
    p.front = ((p.cell.ahead p.heading).x.toInt, (p.cell.ahead p.heading).y.toInt) := by
  rcases p with ⟨cell, heading⟩
  have hzero : Int64.toInt 0 = 0 := rfl
  have hone : Int64.toInt 1 = 1 := rfl
  have hback : Int64.toInt (-1) = -1 := rfl
  rw [Cell.toInt_ahead_x, Cell.toInt_ahead_y]
  apply Prod.ext <;> cases heading <;>
    simp only [Pose.front, Heading.step, hzero, hone, hback] <;> omega

/-- What a robot looks at before a step is the square in front of it. -/
theorem Table.hasPoint_ahead_iff {t : Table} {p : Pose} :
    t.hasPoint (p.cell.ahead p.heading) ↔ t.Covers p.front := by
  rw [Table.hasPoint_iff, Table.Covers, Pose.front_eq]

/-! ## Texts that tell their cause -/

namespace Command

/-- The two coordinates are found again on both sides of the comma. -/
theorem split_coordinates (x y : UInt64) :
    split ',' (coordinates x y).toList = [Decimal.digits x.toNat, Decimal.digits y.toNat] := by
  have hcomma : ∀ n, ',' ∉ Decimal.digits n := fun n =>
    comma_not_mem_of_isNumeral (isNumeral_digits n)
  have htext : (coordinates x y).toList =
      Decimal.digits x.toNat ++ ',' :: Decimal.digits y.toNat := by
    simp [coordinates, Decimal.natText]
  rw [htext, split_append_cons, split_of_not_mem (hcomma _), split_of_not_mem (hcomma _),
    List.singleton_append]

/-- Two coordinates are told by their text. -/
theorem coordinates_inj {x y x' y' : UInt64} (h : coordinates x y = coordinates x' y') :
    x = x' ∧ y = y' := by
  have hsplit := split_coordinates x y
  rw [h, split_coordinates, List.cons.injEq, List.cons.injEq] at hsplit
  rcases hsplit with ⟨hx, hy, _⟩
  exact ⟨UInt64.toNat_inj.mp (Decimal.digits_injective hx.symm),
    UInt64.toNat_inj.mp (Decimal.digits_injective hy.symm)⟩

end Command

/-! ## The three failures -/

/-- A way in which a line can fail. -/
inductive LineFailure where
  | unrecognized (text : String)
  | misplaced (x y : UInt64)
  | blocked
deriving Repr, DecidableEq

namespace LineFailure

def message : LineFailure → String
  | unrecognized text => "Invalid command: " ++ text
  | misplaced x y =>
    "Cannot place robot at position " ++ Command.coordinates x y ++ " - position is invalid"
  | blocked => "Cannot move robot - would fall off the table"

/-- The eighth letter of a message, which differs from one failure to the other. -/
def tell (message : String) : Option Char :=
  message.toList[7]?

/-- The letter that tells a failure. -/
def letter : LineFailure → Char
  | unrecognized _ => ' '
  | misplaced _ _ => 'p'
  | blocked => 'm'

/-- What follows a long enough text does not change its eighth letter. -/
theorem tell_append {text : String} (h : 7 < text.toList.length) (rest : String) :
    tell (text ++ rest) = tell text := by
  unfold tell
  rw [String.toList_append, List.getElem?_append_left h]

/-- The eighth letter of a message is that of its failure. -/
theorem tell_message (f : LineFailure) : tell f.message = some f.letter := by
  cases f with
  | unrecognized text =>
    show tell ("Invalid command: " ++ text) = some ' '
    rw [tell_append (by decide)]
    decide
  | misplaced x y =>
    show tell ("Cannot place robot at position " ++ Command.coordinates x y ++
      " - position is invalid") = some 'p'
    rw [String.append_assoc, tell_append (by decide)]
    decide
  | blocked => decide

/-- A message says what failed, and where. -/
theorem message_inj {f g : LineFailure} (h : f.message = g.message) : f = g := by
  -- failures of different kinds differ in the eighth letter
  have hletter : f.letter = g.letter := by
    rw [← Option.some_inj, ← tell_message, ← tell_message, h]
  cases f with
  | unrecognized text =>
    cases g with
    | unrecognized text' => rw [(String.append_right_inj _).mp h]
    | misplaced _ _ => cases hletter
    | blocked => cases hletter
  | misplaced x y =>
    cases g with
    | unrecognized _ => cases hletter
    | misplaced x' y' =>
      change "Cannot place robot at position " ++ Command.coordinates x y ++
        " - position is invalid" = "Cannot place robot at position " ++
        Command.coordinates x' y' ++ " - position is invalid" at h
      rw [String.append_left_inj, String.append_right_inj] at h
      rcases Command.coordinates_inj h with ⟨rfl, rfl⟩
      rfl
    | blocked => cases hletter
  | blocked =>
    cases g with
    | unrecognized _ => cases hletter
    | misplaced _ _ => cases hletter
    | blocked => rfl

/-- The messages of a robot that is nowhere are not among them. -/
theorem message_not_mem (f : LineFailure) :
    f.message ∉ ["Robot is not placed on the table", "Cannot rotate robot left",
      "Cannot rotate robot right", "Cannot generate report - robot state is invalid"] := by
  -- none of these has the eighth letter of a failure
  have hnever : ∀ text ∈ ["Robot is not placed on the table", "Cannot rotate robot left",
      "Cannot rotate robot right", "Cannot generate report - robot state is invalid"],
      tell text ∉ [some ' ', some 'p', some 'm'] := by decide
  intro hmem
  apply hnever _ hmem
  rw [tell_message]
  cases f <;> simp [letter]

end LineFailure

/-! ## Behind an open gate -/

namespace Session

/-- If the gate is open, the robot is somewhere. -/
def Sound (s : Session) : Prop :=
  s.gateOpen = true → s.robot.isPlaced = true

/-- Behind a closed gate the robot may be anywhere. -/
theorem sound_of_closed {s : Session} (hclosed : s.gateOpen = false) : s.Sound := by
  intro hopen
  rw [hclosed] at hopen
  cases hopen

/-- A line that opens the gate places the robot. -/
theorem Sound.process {s : Session} (h : s.Sound) (line : String) : (s.process line).session.Sound := by
  intro hopen
  rw [process_gateOpen_iff] at hopen
  rw [process_isPlaced_iff]
  rcases hopen with hopen | hplaces
  · exact .inl (h hopen)
  · exact .inr hplaces

/-- An operation cannot open the gate before a robot that is nowhere. -/
theorem Sound.perform {s : Session} (h : s.Sound) (op : Operation) : (s.perform op).after.Sound := by
  cases op with
  | line text =>
    rw [perform_line]
    exact h.process text
  | reset => exact sound_of_closed rfl

/-- No run of operations can, either. -/
theorem Sound.run {s : Session} (h : s.Sound) (ops : List Operation) : (s.run ops).Sound := by
  induction ops generalizing s with
  | nil => exact h
  | cons op rest ih => exact ih (h.perform op)

/-- A command that reaches the robot and needs it placed finds it placed. -/
theorem Sound.isPlaced_of_admits {s : Session} (h : s.Sound) {c : Command}
    (hadmits : s.admits c = true) (hneeds : c.needsPlacement) : s.robot.isPlaced = true := by
  have hplace : c.isPlace = false := by simpa [Command.needsPlacement] using hneeds
  rw [admits, hplace, Bool.or_false] at hadmits
  exact h hadmits

/-! ## How a line fails -/

/-- When a line fails, and in which way. -/
def Fails (s : Session) (line : String) : LineFailure → Prop
  | .unrecognized text => Command.ofLine? line = none ∧ text = String.ofList (trim line.toList)
  | .misplaced x y =>
    ∃ heading, Command.ofLine? line = some (.place x y heading) ∧
      ¬ (x.toNat < s.robot.table.width.toNat ∧ y.toNat < s.robot.table.height.toNat)
  | .blocked =>
    Command.ofLine? line = some .move ∧ s.gateOpen = true ∧
      ∃ p, s.robot.pose = some p ∧ ¬ s.robot.table.Covers p.front

/-- Where the condition of a failure is met, the line fails in that way. -/
theorem outcome_of_fails {s : Session} {line : String} {f : LineFailure} (h : s.Fails line f) :
    (s.process line).outcome = .failed f.message := by
  cases f with
  | unrecognized text =>
    rcases h with ⟨hread, rfl⟩
    rw [process_unrecognized hread]
    rfl
  | misplaced x y =>
    rcases h with ⟨heading, hread, hoff⟩
    rw [process_misplaced hread (Table.cellAt?_eq_none_iff.mpr hoff)]
    rfl
  | blocked =>
    rcases h with ⟨hread, hopen, p, hpose, hfront⟩
    have hpoint : s.robot.table.hasPoint (p.cell.ahead p.heading) = false := by
      rw [Bool.eq_false_iff]
      exact fun hpoint => hfront (Table.hasPoint_ahead_iff.mp hpoint)
    -- the gate is open, so the move reaches the robot at the edge
    have hexecute := Command.execute_placed (c := .move) hpose
    simp only [Command.effect, Robot.tryAdvance_of_edge hpose hpoint] at hexecute
    rw [process_admitted hread (admits_of_open hopen), obey_of_execute hexecute]
    rfl

/-- An obeyed command fails in one of the ways. -/
theorem Sound.fails_of_obey {s : Session} (h : s.Sound) {line : String} {c : Command}
    (hread : Command.ofLine? line = some c) (hadmits : s.admits c = true) {message : String}
    (hfailed : (s.obey c).outcome = .failed message) :
    ∃ f, s.Fails line f ∧ message = f.message := by
  have hexecutes := Command.executes_execute c s.robot
  have houtcome : (c.execute s.robot).1 = .failed message := hfailed
  rw [houtcome] at hexecutes
  -- the outcome has to be a variable before the rules can be told apart
  generalize (c.execute s.robot).2 = after, hsame : Outcome.failed message = o at hexecutes
  cases hexecutes with
  | withheld hneeds hpose =>
    -- the gate would have to be open before an unplaced robot
    have hplaced := h.isPlaced_of_admits hadmits hneeds
    rw [Robot.isPlaced, hpose] at hplaced
    cases hplaced
  | misplaced hcell =>
    cases hsame
    exact ⟨.misplaced _ _, ⟨_, hread, Table.cellAt?_eq_none_iff.mp hcell⟩, rfl⟩
  | blocked hpose hpoint =>
    cases hsame
    have hopen : s.gateOpen = true := (Bool.or_false _).symm.trans hadmits
    refine ⟨.blocked, ⟨hread, hopen, _, hpose, ?_⟩, rfl⟩
    intro hcovers
    rw [Table.hasPoint_ahead_iff.mpr hcovers] at hpoint
    cases hpoint
  -- every other rule ends in a success
  | placed _ => cases hsame
  | moved _ _ _ => cases hsame
  | turnedLeft _ => cases hsame
  | turnedRight _ => cases hsame
  | reported _ => cases hsame

/-- A line that fails does so in one of the ways. -/
theorem Sound.exists_fails {s : Session} (h : s.Sound) {line message : String}
    (hfailed : (s.process line).outcome = .failed message) :
    ∃ f, s.Fails line f ∧ message = f.message := by
  rcases s.process_cases line with ⟨hread, hprocess⟩ | ⟨c, _, _, hprocess⟩ |
    ⟨c, hread, hadmits, hprocess⟩
  · rw [hprocess] at hfailed
    cases hfailed
    exact ⟨.unrecognized _, ⟨hread, rfl⟩, rfl⟩
  · -- a command that is passed over does not fail
    rw [hprocess] at hfailed
    cases hfailed
  · rw [hprocess] at hfailed
    exact h.fails_of_obey hread hadmits hfailed

/-- The message of a failure is heard exactly where its condition is met. -/
theorem Sound.process_failed_iff {s : Session} (h : s.Sound) {line : String} (f : LineFailure) :
    (s.process line).outcome = .failed f.message ↔ s.Fails line f := by
  constructor
  · intro hfailed
    rcases h.exists_fails hfailed with ⟨g, hfails, hmessage⟩
    rw [LineFailure.message_inj hmessage]
    exact hfails
  · exact outcome_of_fails

/-- An outcome carries an error only if it is a failure, and then its own. -/
theorem process_outcome_cases (s : Session) (line : String) :
    (∃ message, (s.process line).outcome = .failed message) ∨
      ((s.process line).outcome.success = true ∧ (s.process line).outcome.error = none) := by
  rcases s.process_cases line with ⟨_, hprocess⟩ | ⟨c, _, _, hprocess⟩ | ⟨c, _, _, hprocess⟩
  · rw [hprocess]
    exact .inl ⟨_, rfl⟩
  · rw [hprocess]
    exact .inr ⟨rfl, rfl⟩
  · rw [hprocess]
    rcases s.obey_outcome_cases c with hfailed | hdone | ⟨_, text, hprinting⟩
    · exact .inl hfailed
    · rw [hdone]
      exact .inr ⟨rfl, rfl⟩
    · rw [hprinting]
      exact .inr ⟨rfl, rfl⟩

end Session

/-- Only three failures reach the user. Take any robot into a new session, and let any operations
happen. Then a line that fails says that it is no command, that a placement is not on the table, or
that a move would leave it: the first exactly if it is no command, the second exactly if it is a
placement with those coordinates and they are not on the table, the third exactly if it is a move,
the gate is open, and the square in front of the robot is not on the table. It never says that the
robot is unplaced, or cannot turn, or cannot report. -/
theorem only_three_failures_reach_user (r : Robot) (ops : List Operation) (line : String) :
    let s := Session.run ⟨r, false⟩ ops
    let outcome := (s.process line).outcome
    let unrecognized := "Invalid command: " ++ String.ofList (trim line.toList)
    let misplaced x y := "Cannot place robot at position " ++ Command.coordinates x y ++
      " - position is invalid"
    let blocked := "Cannot move robot - would fall off the table"
    (outcome.success = false → outcome = .failed unrecognized ∨
        (∃ x y, outcome = .failed (misplaced x y)) ∨ outcome = .failed blocked) ∧
      (outcome = .failed unrecognized ↔ Command.ofLine? line = none) ∧
      (∀ x y, outcome = .failed (misplaced x y) ↔
        ∃ heading, Command.ofLine? line = some (.place x y heading) ∧
          ¬ (x.toNat < r.table.width.toNat ∧ y.toNat < r.table.height.toNat)) ∧
      (outcome = .failed blocked ↔ Command.ofLine? line = some .move ∧ s.gateOpen = true ∧
        ∃ p, s.robot.pose = some p ∧ ¬ r.table.Covers p.front) ∧
      ∀ message ∈ ["Robot is not placed on the table", "Cannot rotate robot left",
          "Cannot rotate robot right", "Cannot generate report - robot state is invalid"],
        outcome.error ≠ some message := by
  intro s outcome unrecognized misplaced blocked
  have hsound : s.Sound := (Session.sound_of_closed rfl).run ops
  have htable : s.robot.table = r.table := (Session.run_keeps ⟨r, false⟩ ops).table
  have hfailed : ∀ f : LineFailure, outcome = .failed f.message ↔ s.Fails line f :=
    hsound.process_failed_iff
  have houtcome : (∃ message, outcome = .failed message) ∨
      (outcome.success = true ∧ outcome.error = none) := s.process_outcome_cases line
  refine ⟨?_, ?_, ?_, ?_, ?_⟩
  · intro hfailure
    rcases houtcome with ⟨message, hmessage⟩ | ⟨hsuccess, _⟩
    · rw [hmessage]
      rcases hsound.exists_fails hmessage with ⟨f, hfails, rfl⟩
      cases f with
      | unrecognized text =>
        rcases hfails with ⟨_, rfl⟩
        exact .inl rfl
      | misplaced x y => exact .inr (.inl ⟨x, y, rfl⟩)
      | blocked => exact .inr (.inr rfl)
    · rw [hsuccess] at hfailure
      cases hfailure
  · exact (hfailed (.unrecognized _)).trans (and_iff_left rfl)
  · intro x y
    rw [← htable]
    exact hfailed (.misplaced x y)
  · rw [← htable]
    exact hfailed .blocked
  · -- an error that is heard is the message of a failure
    intro message hmem herror
    rcases houtcome with ⟨heard, hheard⟩ | ⟨_, hnone⟩
    · rw [hheard] at herror
      cases herror
      rcases hsound.exists_fails hheard with ⟨f, _, rfl⟩
      exact f.message_not_mem hmem
    · rw [hnone] at herror
      cases herror

end ToyRobot
