import ToyRobot.Proofs.Failures

/-!
# The gate only softens

Take a session and beside it a bare robot that carries out every command it is given
(`Robot.follow`). The gate of the session keeps commands from the robot, but only such commands as
the robot could not have obeyed: as long as there is no reset, the gate is open just where the robot
is somewhere (`Session.InStep`). So the two robots go the same way, and what the gate changes is one
answer: a command before the first placement is passed over with a warning, where the bare robot
fails because it is nowhere.
-/

namespace ToyRobot

/-! ## A robot without a session -/

namespace Command

theorem ofLine_eq_ok_iff {line : String} {c : Command} :
    ofLine line = .ok c ↔ ofLine? line = some c := by
  unfold ofLine
  cases ofLine? line with
  | none => simp
  | some c' => simp

theorem ofLine_eq_error_iff {line : String} {e : Unrecognized} :
    ofLine line = .error e ↔ ofLine? line = none ∧ e = .ofLine line := by
  unfold ofLine
  cases ofLine? line with
  | none => simp [eq_comm]
  | some c' => simp

end Command

namespace Robot

/-- What a robot makes of a line by itself: it carries out the command on it. -/
def follow (r : Robot) (line : String) : Except Command.Unrecognized Outcome × Robot :=
  match Command.ofLine line with
  | .error e => (.error e, r)
  | .ok c => (.ok (c.execute r).1, (c.execute r).2)

def followAll (r : Robot) (lines : List String) : Robot :=
  lines.foldl (fun r line => (r.follow line).2) r

/-- The line is a placement, and the robot obeys it. -/
def Lands (r : Robot) (line : String) : Prop :=
  ∃ c o, Command.ofLine line = .ok c ∧ c.isPlace = true ∧ (r.follow line).1 = .ok o ∧
    o.success = true

/-- One of the lines was a placement, and the robot obeyed it when it came. -/
def HasLanded (r : Robot) (lines : List String) : Prop :=
  ∃ earlier line later, lines = earlier ++ line :: later ∧ (r.followAll earlier).Lands line

variable {r : Robot} {line : String}

/-- A bare robot does nothing on a line that is no command. -/
theorem follow_unrecognized (hread : Command.ofLine? line = none) :
    r.follow line = (.error (.ofLine line), r) := by
  unfold follow
  rw [Command.ofLine_eq_error_iff.mpr ⟨hread, rfl⟩]

theorem follow_command {c : Command} (hread : Command.ofLine? line = some c) :
    r.follow line = (.ok (c.execute r).1, (c.execute r).2) := by
  unfold follow
  rw [Command.ofLine_eq_ok_iff.mpr hread]

/-- A placement lands just where its cell is on the table. -/
theorem lands_iff {c : Command} (hread : Command.ofLine? line = some c) :
    r.Lands line ↔ c.LandsOn r.table := by
  rw [← (Command.executes_execute c r).opens_iff, Bool.and_eq_true]
  unfold Lands
  rw [follow_command hread, Command.ofLine_eq_ok_iff.mpr hread]
  constructor
  · rintro ⟨_, _, hc, hplace, ho, hsuccess⟩
    cases hc
    cases ho
    exact ⟨hplace, hsuccess⟩
  · rintro ⟨hplace, hsuccess⟩
    exact ⟨c, _, rfl, hplace, rfl, hsuccess⟩

/-- A robot is somewhere if it was already or lands now. -/
theorem follow_isPlaced_iff :
    (r.follow line).2.isPlaced = true ↔ r.isPlaced = true ∨ r.Lands line := by
  cases hread : Command.ofLine? line with
  | none =>
    have hlands : ¬ r.Lands line := by
      rintro ⟨c, _, hc, _⟩
      rw [Command.ofLine_eq_ok_iff, hread] at hc
      cases hc
    rw [follow_unrecognized hread, or_iff_left hlands]
  | some c =>
    rw [lands_iff hread, follow_command hread]
    exact (Command.executes_execute c r).isPlaced_iff

theorem followAll_concat (lines : List String) :
    r.followAll (lines ++ [line]) = ((r.followAll lines).follow line).2 := by
  unfold followAll
  rw [List.foldl_append]
  rfl

/-- A landing among the lines is one before the last line, or the last line itself. -/
theorem hasLanded_concat {lines : List String} :
    r.HasLanded (lines ++ [line]) ↔ r.HasLanded lines ∨ (r.followAll lines).Lands line := by
  constructor
  · rintro ⟨earlier, landing, later, hlines, hlands⟩
    -- the landing is the last line, or it comes before that
    rcases List.eq_nil_or_concat later with rfl | ⟨between, last, rfl⟩
    · rcases List.append_inj' hlines rfl with ⟨rfl, hline⟩
      cases hline
      exact .inr hlands
    · have hcut : lines ++ [line] = (earlier ++ landing :: between) ++ [last] := by
        rw [hlines]
        simp
      exact .inl ⟨earlier, landing, between, List.append_inj_left' hcut rfl, hlands⟩
  · rintro (⟨earlier, landing, later, rfl, hlands⟩ | hlands)
    · refine ⟨earlier, landing, later ++ [line], ?_, hlands⟩
      rw [List.append_assoc, List.cons_append]
    · exact ⟨lines, line, [], rfl, hlands⟩

/-- A robot that was nowhere is somewhere once it has landed. -/
theorem followAll_isPlaced_iff (hunplaced : r.isPlaced = false) (lines : List String) :
    (r.followAll lines).isPlaced = true ↔ r.HasLanded lines := by
  induction lines using List.reverseRecOn with
  | nil =>
    have hnever : ¬ r.HasLanded [] := by
      rintro ⟨earlier, landing, later, hlines, _⟩
      simp at hlines
    show r.isPlaced = true ↔ _
    rw [hunplaced]
    exact iff_of_false Bool.false_ne_true hnever
  | append_singleton lines line ih =>
    rw [followAll_concat, follow_isPlaced_iff, ih, hasLanded_concat]

end Robot

/-! ## In step -/

namespace Session

/-- A session around the same robot, with the gate open just where that robot is somewhere. -/
structure InStep (s : Session) (r : Robot) : Prop where
  robot : s.robot = r
  gate : s.gateOpen = true ↔ r.isPlaced = true

variable {s : Session} {r : Robot}

/-- A fresh session and an unplaced robot are in step. -/
theorem inStep_fresh (t : Table) : (fresh t).InStep (.unplaced t) :=
  ⟨rfl, Iff.rfl⟩

/-- In step, an open gate means a placed robot. -/
theorem InStep.sound (h : s.InStep r) : s.Sound := by
  intro hopen
  rw [h.robot]
  exact h.gate.mp hopen

/-- A command that is passed over is one that the robot could not have obeyed. -/
theorem InStep.execute_passedOver (h : s.InStep r) {c : Command} (hadmits : s.admits c = false) :
    c.execute r = (.failed "Robot is not placed on the table", r) := by
  rcases Bool.or_eq_false_iff.mp hadmits with ⟨hclosed, hplace⟩
  have hneeds : c.needsPlacement := by simp [Command.needsPlacement, hplace]
  have hunplaced : ¬ r.isPlaced = true := by
    rw [← h.gate, hclosed]
    exact Bool.false_ne_true
  have hpose : r.pose = none := by simpa [Robot.isPlaced] using hunplaced
  exact Command.execute_unplaced hneeds hpose

/-- Session and robot take a line and are in step again. -/
theorem InStep.process (h : s.InStep r) (line : String) :
    (s.process line).session.InStep (r.follow line).2 := by
  have hrobot : (s.process line).session.robot = (r.follow line).2 := by
    rcases s.process_cases line with ⟨hread, hprocess⟩ | ⟨c, hread, hadmits, hprocess⟩ |
      ⟨c, hread, _, hprocess⟩
    · rw [hprocess, Robot.follow_unrecognized hread]
      exact h.robot
    · -- what is passed over, the bare robot refuses and stays where it is
      rw [hprocess, Robot.follow_command hread, h.execute_passedOver hadmits]
      exact h.robot
    · rw [hprocess, Robot.follow_command hread, ← h.robot]
      rfl
  refine ⟨hrobot, ?_⟩
  -- a line opens the gate just where it places the robot
  rw [← hrobot, process_gateOpen_iff, process_isPlaced_iff, h.gate, h.robot]

/-- They stay in step through any lines. -/
theorem InStep.run (h : s.InStep r) (lines : List String) :
    (s.run (lines.map .line)).InStep (r.followAll lines) := by
  induction lines generalizing s r with
  | nil => exact h
  | cons line rest ih =>
    have hline := h.process line
    rw [List.map_cons, Session.run, perform_line]
    exact ih hline

/-! ## The answers -/

/-- A line that is no command is answered in the same words. -/
theorem InStep.error_iff (h : s.InStep r) {line : String} {e : Command.Unrecognized} :
    (r.follow line).1 = .error e ↔
      e = .ofLine line ∧ (s.process line).outcome = .failed e.message := by
  constructor
  · intro herror
    cases hread : Command.ofLine? line with
    | none =>
      rw [Robot.follow_unrecognized hread] at herror
      cases herror
      rw [process_unrecognized hread]
      exact ⟨rfl, rfl⟩
    | some c =>
      rw [Robot.follow_command hread] at herror
      cases herror
  · rintro ⟨rfl, hfailed⟩
    rcases (h.sound.process_failed_iff (.unrecognized _)).mp hfailed with ⟨hread, _⟩
    rw [Robot.follow_unrecognized hread]

/-- A command that is admitted is answered as the robot answers it. -/
theorem InStep.outcome_of_admits (h : s.InStep r) {line : String} {c : Command}
    (hread : Command.ofLine? line = some c) (hadmits : s.admits c = true) :
    (s.process line).outcome = (c.execute r).1 := by
  rw [process_admitted hread hadmits, ← h.robot]
  rfl

end Session

/-- The gate only softens what comes of a line, and never changes what the robot does. Lines without
a reset are given to a fresh session and to a bare robot, which reads each of them and carries it
out. After every line the two robots are the same. A line is no command for the bare robot exactly
when it fails in the session, with the same words. On a command the two give the same outcome, but
for a command that is no placement before the first placement that succeeds: the session passes it
over, which is a success with a warning, and the bare robot fails because it is nowhere. -/
theorem gate_only_softens (t : Table) (earlier : List String) (line : String) :
    let s := (Session.fresh t).run (earlier.map .line)
    let r := (Robot.unplaced t).followAll earlier
    let gated := s.process line
    let bare := r.follow line
    let ignored : Notice := ⟨.warning,
      "Command ignored: Robot must be placed on the table before executing other commands"⟩
    s.robot = r ∧ gated.session.robot = bare.2 ∧
      (∀ e, bare.1 = .error e ↔ e = .ofLine line ∧ gated.outcome = .failed e.message) ∧
      ∀ c, Command.ofLine line = .ok c → ∃ o, bare.1 = .ok o ∧
        (c.isPlace = false ∧ ¬ (Robot.unplaced t).HasLanded earlier →
          gated.outcome = .done ∧ gated.notices = [ignored] ∧
            o = .failed "Robot is not placed on the table") ∧
        (c.isPlace = true ∨ (Robot.unplaced t).HasLanded earlier → gated.outcome = o) := by
  intro s r gated bare ignored
  have hstep : s.InStep r := (Session.inStep_fresh t).run earlier
  have hlanded : s.gateOpen = true ↔ (Robot.unplaced t).HasLanded earlier :=
    hstep.gate.trans (Robot.followAll_isPlaced_iff rfl earlier)
  refine ⟨hstep.robot, (hstep.process line).robot, fun _ => hstep.error_iff, ?_⟩
  intro c hc
  have hread := Command.ofLine_eq_ok_iff.mp hc
  have hbare : bare.1 = .ok (c.execute r).1 := congrArg Prod.fst (Robot.follow_command hread)
  refine ⟨(c.execute r).1, hbare, ?_, ?_⟩
  · rintro ⟨hplace, hnever⟩
    -- no landing yet, so the gate is closed
    have hclosed : s.gateOpen = false := by
      rw [← Bool.not_eq_true, hlanded]
      exact hnever
    have hadmits := (Session.admits_of_closed hclosed).trans hplace
    have hgated : gated = ⟨.done, [Session.passedOver], s⟩ :=
      Session.process_passedOver hread hadmits
    rw [hgated, hstep.execute_passedOver hadmits]
    exact ⟨rfl, rfl, rfl⟩
  · -- a placement, or any command behind the open gate
    intro hready
    have hadmits : s.admits c = true := by
      rw [Session.admits, Bool.or_eq_true, hlanded]
      exact hready.symm
    exact hstep.outcome_of_admits hread hadmits

end ToyRobot
