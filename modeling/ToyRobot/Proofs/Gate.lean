import Mathlib.Data.List.DropRight
import ToyRobot.Proofs.OnTable

/-!
# What the gate means

The gate, the robot and the history of a session are kept apart: the gate is set from what came of a
command, the robot by its own actions, and the history by nobody. They agree through the lines that
place a robot (`Operation.Places`):

* the gate is open where such a line was read since the last reset;
* the robot is somewhere where such a line was read at all.

A step says which operations change either one, and a run is followed from its end backwards, where
the last reset is.
-/

namespace ToyRobot

/-! ## Placements on the table -/

/-- A placement on a cell that the table has. -/
def Command.LandsOn (t : Table) : Command → Prop
  | place x y _ => x.toNat < t.width.toNat ∧ y.toNat < t.height.toNat
  | _ => False

/-- A line that places a robot of the table, wherever the robot was. -/
def Operation.Places (t : Table) (op : Operation) : Prop :=
  ∃ text c, op = .line text ∧ Command.ofLine? text = some c ∧ c.LandsOn t

/-- A line with a command places a robot just where the command lands on the table. -/
theorem Operation.places_line_iff {t : Table} {text : String} {c : Command}
    (hread : Command.ofLine? text = some c) : (Operation.line text).Places t ↔ c.LandsOn t := by
  constructor
  · rintro ⟨_, c', hop, hread', hlands⟩
    cases hop
    rw [hread] at hread'
    cases hread'
    exact hlands
  · intro hlands
    exact ⟨text, c, rfl, hread, hlands⟩

/-- A line without a command places nothing. -/
theorem Operation.not_places_unrecognized {t : Table} {text : String}
    (hread : Command.ofLine? text = none) : ¬ (Operation.line text).Places t := by
  rintro ⟨_, c, hop, hread', _⟩
  cases hop
  rw [hread] at hread'
  cases hread'

theorem Operation.exists_places_concat {t : Table} (ops : List Operation) (op : Operation) :
    (∃ o ∈ ops ++ [op], o.Places t) ↔ (∃ o ∈ ops, o.Places t) ∨ op.Places t := by
  simp only [List.mem_append, List.mem_singleton, or_and_right, exists_or, exists_eq_left]

theorem Operation.not_places_reset {t : Table} : ¬ Operation.reset.Places t := by
  rintro ⟨_, _, hop, _⟩
  cases hop

namespace Command

theorem not_landsOn_of_not_place {t : Table} {c : Command} (hplace : c.isPlace = false) :
    ¬ c.LandsOn t := by
  intro hlands
  cases c with
  | place x y heading => cases hplace
  | move => exact hlands
  | left => exact hlands
  | right => exact hlands
  | report => exact hlands

namespace Executes

variable {c : Command} {r r' : Robot} {o : Outcome}

/-- What opens the gate, a placement that succeeds, is a placement on the table. -/
theorem opens_iff (h : Executes r c o r') :
    (c.isPlace && o.success) = true ↔ c.LandsOn r.table := by
  cases h with
  | placed hcell =>
    exact iff_of_true rfl (Table.lt_of_cellAt? hcell)
  | misplaced hcell =>
    exact iff_of_false Bool.false_ne_true (Table.cellAt?_eq_none_iff.mp hcell)
  | withheld hneeds _ =>
    have hplace : c.isPlace = false := by simpa [needsPlacement] using hneeds
    rw [hplace]
    exact iff_of_false Bool.false_ne_true (not_landsOn_of_not_place hplace)
  -- no other command is a placement
  | moved _ _ _ => exact iff_of_false Bool.false_ne_true id
  | blocked _ _ => exact iff_of_false Bool.false_ne_true id
  | turnedLeft _ => exact iff_of_false Bool.false_ne_true id
  | turnedRight _ => exact iff_of_false Bool.false_ne_true id
  | reported _ => exact iff_of_false Bool.false_ne_true id

/-- A robot is somewhere if it was already or is placed now. -/
theorem isPlaced_iff (h : Executes r c o r') :
    r'.isPlaced = true ↔ r.isPlaced = true ∨ c.LandsOn r.table := by
  constructor
  · intro hplaced
    cases h with
    | placed hcell => exact .inr (Table.lt_of_cellAt? hcell)
    | moved hpose _ _ => exact .inl (Option.isSome_of_eq_some hpose)
    | turnedLeft hpose => exact .inl (Option.isSome_of_eq_some hpose)
    | turnedRight hpose => exact .inl (Option.isSome_of_eq_some hpose)
    -- the robot is the one that it was
    | withheld _ _ => exact .inl hplaced
    | misplaced _ => exact .inl hplaced
    | blocked _ _ => exact .inl hplaced
    | reported _ => exact .inl hplaced
  · rintro (hplaced | hlands)
    · exact h.keeps.placed hplaced
    · -- a placement on the table succeeds, so the rule is the one for that
      have hopens := h.opens_iff.mpr hlands
      cases h with
      | placed _ => rfl
      | withheld _ _ => simp [Outcome.failed] at hopens
      | misplaced _ => cases hopens
      | moved _ _ _ => cases hopens
      | blocked _ _ => cases hopens
      | turnedLeft _ => cases hopens
      | turnedRight _ => cases hopens
      | reported _ => cases hopens

end Executes

end Command

/-! ## Steps -/

namespace Session

/-- A line that does not place the robot may be ignored; any other is a command that is obeyed. -/
theorem process_ignored_or_obeyed (s : Session) (line : String) :
    ((s.process line).session = s ∧ ¬ (Operation.line line).Places s.robot.table) ∨
      ∃ c, Command.ofLine? line = some c ∧ s.process line = s.obey c := by
  rcases s.process_cases line with ⟨hread, hprocess⟩ | ⟨c, hread, hadmits, hprocess⟩ |
    ⟨c, hread, _, hprocess⟩
  · left
    rw [hprocess]
    exact ⟨rfl, Operation.not_places_unrecognized hread⟩
  · -- a command that is passed over is no placement
    have hplace : c.isPlace = false := (Bool.or_eq_false_iff.mp hadmits).2
    left
    rw [hprocess, Operation.places_line_iff hread]
    exact ⟨rfl, Command.not_landsOn_of_not_place hplace⟩
  · exact .inr ⟨c, hread, hprocess⟩

/-- After a line the gate is open just where it was before or the line places a robot. -/
theorem process_gateOpen_iff (s : Session) (line : String) :
    (s.process line).session.gateOpen = true ↔
      s.gateOpen = true ∨ (Operation.line line).Places s.robot.table := by
  rcases s.process_ignored_or_obeyed line with ⟨hsession, hplaces⟩ | ⟨c, hread, hprocess⟩
  · rw [hsession, or_iff_left hplaces]
  · -- an obeyed command opens the gate by succeeding as a placement
    have hopens := (Command.executes_execute c s.robot).opens_iff
    rw [hprocess, Operation.places_line_iff hread, ← hopens]
    exact Bool.or_eq_true_iff

/-- After a line the robot is somewhere just where it was before or the line places it. -/
theorem process_isPlaced_iff (s : Session) (line : String) :
    (s.process line).session.robot.isPlaced = true ↔
      s.robot.isPlaced = true ∨ (Operation.line line).Places s.robot.table := by
  rcases s.process_ignored_or_obeyed line with ⟨hsession, hplaces⟩ | ⟨c, hread, hprocess⟩
  · rw [hsession, or_iff_left hplaces]
  · rw [hprocess, Operation.places_line_iff hread]
    exact (Command.executes_execute c s.robot).isPlaced_iff

/-! ## Runs -/

/-- The operations after the last reset, or all of them where there was none. -/
def sinceReset (ops : List Operation) : List Operation :=
  ops.rtakeWhile (· ≠ .reset)

/-- Nothing has happened since a reset that has just been made. -/
theorem sinceReset_concat_reset (ops : List Operation) : sinceReset (ops ++ [.reset]) = [] :=
  List.rtakeWhile_concat_neg _ _ _ (by decide)

/-- A line adds to what has happened since the last reset. -/
theorem sinceReset_concat_line (ops : List Operation) (text : String) :
    sinceReset (ops ++ [.line text]) = sinceReset ops ++ [.line text] :=
  List.rtakeWhile_concat_pos _ _ _ (by simp)

/-- The last operation of a run comes after all the others. -/
theorem run_concat (s : Session) (ops : List Operation) (op : Operation) :
    s.run (ops ++ [op]) = ((s.run ops).perform op).after := by
  induction ops generalizing s with
  | nil => rfl
  | cons first rest ih => exact ih (s.perform first).after

/-- From a closed gate, the gate is open where a robot was placed since the last reset. -/
theorem run_gateOpen_iff {s : Session} (hclosed : s.gateOpen = false) (ops : List Operation) :
    (s.run ops).gateOpen = true ↔ ∃ op ∈ sinceReset ops, op.Places s.robot.table := by
  -- from the end backwards: the last operation is a reset, or it comes after the last reset
  induction ops using List.reverseRecOn with
  | nil =>
    rw [run, hclosed]
    simp [sinceReset]
  | append_singleton ops op ih =>
    have htable : (s.run ops).robot.table = s.robot.table := (s.run_keeps ops).table
    rw [run_concat]
    cases op with
    | reset =>
      rw [sinceReset_concat_reset]
      simp [perform, reset]
    | line text =>
      rw [perform_line, process_gateOpen_iff, htable, ih, sinceReset_concat_line,
        Operation.exists_places_concat]

/-- An unplaced robot is somewhere afterwards where it was placed in between. -/
theorem run_isPlaced_iff {s : Session} (hunplaced : s.robot.isPlaced = false)
    (ops : List Operation) :
    (s.run ops).robot.isPlaced = true ↔ ∃ op ∈ ops, op.Places s.robot.table := by
  induction ops using List.reverseRecOn with
  | nil =>
    rw [run, hunplaced]
    simp
  | append_singleton ops op ih =>
    have htable : (s.run ops).robot.table = s.robot.table := (s.run_keeps ops).table
    rw [run_concat, Operation.exists_places_concat]
    cases op with
    | reset =>
      -- a reset leaves the robot where it is
      rw [or_iff_left Operation.not_places_reset]
      exact ih
    | line text => rw [perform_line, process_isPlaced_iff, htable, ih]

/-- Without a reset an open gate stays open. -/
theorem run_gateOpen_of_open {s : Session} (hopen : s.gateOpen = true) {ops : List Operation}
    (hreset : Operation.reset ∉ ops) : (s.run ops).gateOpen = true := by
  induction ops generalizing s with
  | nil => exact hopen
  | cons op rest ih =>
    rw [List.mem_cons, not_or] at hreset
    -- one step keeps the gate open, and the rest has no reset either
    apply ih _ hreset.2
    cases op with
    | reset => exact absurd rfl hreset.1
    | line text =>
      rw [perform_line, process_gateOpen_iff]
      exact .inl hopen

end Session

/-- What the gate means. After any operations on a fresh session, the gate is open just where a line
since the last reset has placed the robot on the table, and the robot is somewhere just where any
line has. So an open gate means a placed robot; and as long as there is no reset, an open gate stays
open, whatever fails. -/
theorem gate_open_iff_placed_since_reset (t : Table) (ops : List Operation) :
    let last := (Session.fresh t).run ops
    (last.gateOpen = true ↔ ∃ op ∈ Session.sinceReset ops, op.Places t) ∧
      (last.robot.isPlaced = true ↔ ∃ op ∈ ops, op.Places t) ∧
      (last.gateOpen = true → last.robot.isPlaced = true) ∧
      ∀ more, Operation.reset ∉ more → last.gateOpen = true →
        (last.run more).gateOpen = true := by
  intro last
  have hgate : last.gateOpen = true ↔ ∃ op ∈ Session.sinceReset ops, op.Places t :=
    Session.run_gateOpen_iff rfl ops
  have hplaced : last.robot.isPlaced = true ↔ ∃ op ∈ ops, op.Places t :=
    Session.run_isPlaced_iff rfl ops
  refine ⟨hgate, hplaced, ?_, ?_⟩
  · intro hopen
    rcases hgate.mp hopen with ⟨op, hop, hplaces⟩
    have hsuffix : Session.sinceReset ops <:+ ops := List.rtakeWhile_suffix _ _
    exact hplaced.mpr ⟨op, hsuffix.subset hop, hplaces⟩
  · intro more hreset hopen
    exact Session.run_gateOpen_of_open hopen hreset

end ToyRobot
