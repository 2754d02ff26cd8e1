import ToyRobot.Proofs.Failures
import ToyRobot.Simulation

/-!
# Every notice is accounted for

What came of a line and what is said about it are decided in different places: the gate warns, the
session announces a report, and the failure of a line is complained of after all else. Still the two
go together in four ways only (`Session.Takes`): a command is passed over with a warning, a report
is announced, a failure is complained of, and of anything else nothing is said. So a log only grows,
and what a run of calls adds to it tells the outcomes of the run in order (`Log.Tells`): their
outputs on the channel of reports, their errors on that of errors, and nothing plainly.
-/

namespace ToyRobot

open Text

/-! ## One line -/

namespace Session

/-- The line has a command that is no placement, and the gate is closed. -/
def PassesOver (s : Session) (line : String) : Prop :=
  ∃ c, Command.ofLine? line = some c ∧ c.isPlace = false ∧ s.gateOpen = false

/-- The line asks where the robot is, and the gate is open. -/
def Reports (s : Session) (line : String) : Prop :=
  Command.ofLine? line = some .report ∧ s.gateOpen = true

/-- The ways in which a line can be handled: what came of it, and what is said. -/
inductive Takes (s : Session) (line : String) : Outcome → Log → Prop where
  | passedOver : s.PassesOver line → Takes s line .done
      [⟨.warning,
        "Command ignored: Robot must be placed on the table before executing other commands"⟩]
  | reported {p : Pose} : s.Reports line → s.robot.pose = some p →
      Takes s line (.printing p.text) [⟨.report, p.text⟩]
  | failed {error : String} : ¬ s.PassesOver line → ¬ s.Reports line →
      Takes s line (.failed error) [⟨.error, "Error: " ++ error⟩]
  | silent : ¬ s.PassesOver line → ¬ s.Reports line → Takes s line .done []

variable {s : Session} {line : String}

/-- A line that is passed over finds the gate closed, so it reports nothing. -/
theorem not_reports_of_passesOver (h : s.PassesOver line) : ¬ s.Reports line := by
  rintro ⟨_, hopen⟩
  rcases h with ⟨_, _, _, hclosed⟩
  rw [hopen] at hclosed
  cases hclosed

/-- A command that is admitted is not passed over. -/
theorem not_passesOver_of_admits {c : Command} (hread : Command.ofLine? line = some c)
    (hadmits : s.admits c = true) : ¬ s.PassesOver line := by
  rintro ⟨c', hread', hplace, hclosed⟩
  rw [hread] at hread'
  cases hread'
  -- the gate is closed and the command is no placement: nothing would admit it
  rw [admits, hclosed, hplace] at hadmits
  cases hadmits

/-- A report that is admitted finds the robot somewhere. -/
theorem Sound.exists_pose_of_admits_report (h : s.Sound) (hadmits : s.admits .report = true) :
    ∃ p, s.robot.pose = some p :=
  Option.isSome_iff_exists.mp (h.isPlaced_of_admits hadmits rfl)

/-- An obeyed command, handled in one of the ways. -/
theorem Sound.takes_obey (h : s.Sound) {c : Command} (hread : Command.ofLine? line = some c)
    (hadmits : s.admits c = true) :
    s.Takes line (s.obey c).outcome ((s.obey c).notices ++ (s.obey c).outcome.complaint) := by
  have hnot := not_passesOver_of_admits hread hadmits
  by_cases hreport : c = .report
  · -- a report: the gate is open, and the robot stands somewhere
    subst hreport
    have hopen : s.gateOpen = true := (Bool.or_false _).symm.trans hadmits
    rcases h.exists_pose_of_admits_report hadmits with ⟨p, hpose⟩
    rw [obey_of_execute (Command.Executes.reported hpose).eq_execute]
    exact .reported ⟨hread, hopen⟩ hpose
  · -- any other command fails with a message or is silent
    have hnever : ¬ s.Reports line := by
      rintro ⟨hread', _⟩
      rw [hread, Option.some_inj] at hread'
      exact hreport hread'
    rw [obey_notices]
    rcases s.obey_outcome_cases c with ⟨message, houtcome⟩ | houtcome | ⟨habsurd, _⟩
    · rw [houtcome]
      exact .failed hnot hnever
    · rw [houtcome]
      exact .silent hnot hnever
    · exact absurd habsurd hreport

/-- Every line is handled in one of the ways. -/
theorem Sound.takes_handle (h : s.Sound) (line : String) :
    s.Takes line (s.handle line).outcome (s.handle line).notices := by
  rw [handle_eq]
  rcases s.process_cases line with ⟨hread, hprocess⟩ | ⟨c, hread, hadmits, hprocess⟩ |
    ⟨c, hread, hadmits, hprocess⟩
  · -- there is no command in the line that could be passed over or report
    rw [hprocess]
    apply Takes.failed
    · rintro ⟨_, hread', _⟩
      rw [hread] at hread'
      cases hread'
    · rintro ⟨hread', _⟩
      rw [hread] at hread'
      cases hread'
  · -- a command that the gate keeps out
    rcases Bool.or_eq_false_iff.mp hadmits with ⟨hclosed, hplace⟩
    rw [hprocess]
    exact .passedOver ⟨c, hread, hplace, hclosed⟩
  · -- a command that is obeyed
    rw [hprocess]
    exact h.takes_obey hread hadmits

namespace Takes

variable {o : Outcome} {added : Log}

theorem added_of_passesOver (h : s.Takes line o added) (hpasses : s.PassesOver line) :
    added = [⟨.warning,
      "Command ignored: Robot must be placed on the table before executing other commands"⟩] := by
  cases h with
  | passedOver _ => rfl
  | reported hreports _ => exact absurd hreports (not_reports_of_passesOver hpasses)
  | failed hnot _ => exact absurd hpasses hnot
  | silent hnot _ => exact absurd hpasses hnot

theorem added_of_reports (h : s.Takes line o added) (hreports : s.Reports line) :
    ∃ p, s.robot.pose = some p ∧ o.output = some p.text ∧ added = [⟨.report, p.text⟩] := by
  cases h with
  | passedOver hpasses => exact absurd hreports (not_reports_of_passesOver hpasses)
  | reported _ hpose => exact ⟨_, hpose, rfl, rfl⟩
  | failed _ hnot => exact absurd hreports hnot
  | silent _ hnot => exact absurd hreports hnot

/-- All that is said about a line that fails is its error. -/
theorem added_of_failure (h : s.Takes line o added) (hfail : o.success = false) :
    ∃ error, o.error = some error ∧ added = [⟨.error, "Error: " ++ error⟩] := by
  cases h with
  | failed _ _ => exact ⟨_, rfl, rfl⟩
  | passedOver _ => cases hfail
  | reported _ _ => cases hfail
  | silent _ _ => cases hfail

theorem added_of_none (h : s.Takes line o added) (hpasses : ¬ s.PassesOver line)
    (hreports : ¬ s.Reports line) (hsuccess : o.success = true) : added = [] := by
  cases h with
  | passedOver hpasses' => exact absurd hpasses' hpasses
  | reported hreports' _ => exact absurd hreports' hreports
  | failed _ _ => cases hsuccess
  | silent _ _ => rfl

/-- There is an error just where the line fails. -/
theorem error_iff (h : s.Takes line o added) : o.error.isSome = true ↔ o.success = false := by
  cases h <;> simp [Outcome.done, Outcome.printing, Outcome.failed]

/-- There is an output just where the line is a report that is carried out. -/
theorem output_iff (h : s.Takes line o added) : o.output.isSome = true ↔ s.Reports line := by
  cases h with
  | passedOver hpasses => exact iff_of_false Bool.false_ne_true (not_reports_of_passesOver hpasses)
  | reported hreports _ => exact iff_of_true rfl hreports
  | failed _ hnot => exact iff_of_false Bool.false_ne_true hnot
  | silent _ hnot => exact iff_of_false Bool.false_ne_true hnot

end Takes

end Session

/-! ## A run of calls -/

/-- Notices that tell of some outcomes in order: the outputs as reports, the errors as complaints,
and nothing plainly. -/
structure Log.Tells (added : Log) (outcomes : List Outcome) : Prop where
  reports : added.on .report = outcomes.filterMap Outcome.output
  errors : added.on .error = (outcomes.filterMap Outcome.error).map ("Error: " ++ ·)
  plain : added.on .plain = []

theorem Log.Tells.nil : Log.Tells [] [] :=
  ⟨rfl, rfl, rfl⟩

theorem Log.Tells.append {a b : Log} {first second : List Outcome} (ha : a.Tells first)
    (hb : b.Tells second) : Log.Tells (a ++ b) (first ++ second) where
  reports := by rw [Log.on_append, List.filterMap_append, ha.reports, hb.reports]
  errors := by rw [Log.on_append, List.filterMap_append, List.map_append, ha.errors, hb.errors]
  plain := by rw [Log.on_append, ha.plain, hb.plain, List.nil_append]

theorem Session.Takes.tells {s : Session} {line : String} {o : Outcome} {added : Log}
    (h : s.Takes line o added) : added.Tells [o] := by
  cases h <;> exact ⟨rfl, rfl, rfl⟩

namespace Simulation

/-- One call: a line is handled, or the gate is closed. Nothing comes of a reset. -/
def call (sim : Simulation) : Operation → Option Outcome × Simulation
  | .line text => (some (sim.handle text).1, (sim.handle text).2)
  | .reset => (none, sim.reset)

/-- Calls one after another: what came of the lines, and the simulation at the end. -/
def callAll : Simulation → List Operation → List Outcome × Simulation
  | sim, [] => ([], sim)
  | sim, op :: rest =>
    ((sim.call op).1.toList ++ ((sim.call op).2.callAll rest).1, ((sim.call op).2.callAll rest).2)

theorem handle_eq (sim : Simulation) (line : String) :
    sim.handle line = ((sim.session.handle line).outcome,
      ⟨(sim.session.handle line).session, sim.log ++ (sim.session.handle line).notices⟩) := rfl

/-- What a handled line adds to the log is what is said about it. -/
theorem exists_handle_takes {sim : Simulation} (h : sim.session.Sound) (line : String) :
    ∃ added, (sim.handle line).2.log = sim.log ++ added ∧
      sim.session.Takes line (sim.handle line).1 added := by
  simp only [handle_eq]
  exact ⟨_, rfl, h.takes_handle line⟩

/-- A call does to the session what the operation does. -/
theorem call_session (sim : Simulation) (op : Operation) :
    (sim.call op).2.session = (sim.session.perform op).after := by
  cases op with
  | line text => rw [call, handle_eq, Session.handle_eq, Session.perform_line]
  | reset => rfl

/-- Calls do to the session what the operations do. -/
theorem callAll_session (sim : Simulation) (ops : List Operation) :
    (sim.callAll ops).2.session = sim.session.run ops := by
  induction ops generalizing sim with
  | nil => rfl
  | cons op rest ih => rw [callAll, Session.run, ih, call_session]

/-- What a call adds to the log tells what came of it. -/
theorem exists_call_tells {sim : Simulation} (h : sim.session.Sound) (op : Operation) :
    ∃ added, (sim.call op).2.log = sim.log ++ added ∧ added.Tells (sim.call op).1.toList := by
  cases op with
  | line text =>
    rcases exists_handle_takes h text with ⟨added, hlog, htakes⟩
    exact ⟨added, hlog, htakes.tells⟩
  | reset => exact ⟨[], (List.append_nil _).symm, .nil⟩

/-- A run of calls adds to the log, and what it adds tells the outcomes in order. -/
theorem exists_callAll_tells {sim : Simulation} (h : sim.session.Sound) (ops : List Operation) :
    ∃ added, (sim.callAll ops).2.log = sim.log ++ added ∧ added.Tells (sim.callAll ops).1 := by
  induction ops generalizing sim with
  | nil => exact ⟨[], (List.append_nil _).symm, .nil⟩
  | cons op rest ih =>
    -- the calls that follow start from what the first one leaves, which is sound again
    have hsound : (sim.call op).2.session.Sound := by
      rw [call_session]
      exact h.perform op
    rcases exists_call_tells h op with ⟨first, hfirst, htells⟩
    rcases ih hsound with ⟨later, hlater, htells'⟩
    rw [callAll]
    refine ⟨first ++ later, ?_, htells.append htells'⟩
    rw [hlater, hfirst, List.append_assoc]

end Simulation

/-- Every notice is accounted for. Take any robot into a new session, let any operations happen, and
keep a log that holds anything; then make any calls that handle lines or close the gate. Each call
only adds to the log. A line adds one warning if its command is passed over, one report with its
output if it asks where the robot is and the gate is open, one complaint with its error if it fails,
and nothing otherwise; a reset adds nothing. There is an error just where the line fails, and an
output just where it is a report that is carried out, and then it gives the column, the row and the
heading of the robot with commas between them. So the reports that a run adds are its outputs in
order, the complaints are its errors in order, and nothing is said plainly. -/
theorem every_notice_is_accounted_for (r : Robot) (earlier : List Operation) (log : Log)
    (ops : List Operation) :
    let start : Simulation := ⟨Session.run ⟨r, false⟩ earlier, log⟩
    let outcomes := (start.callAll ops).1
    let sim := (start.callAll ops).2
    (∀ line,
      let outcome := (sim.handle line).1
      ∃ added, (sim.handle line).2.log = sim.log ++ added ∧
        (sim.session.PassesOver line → added = [⟨.warning,
          "Command ignored: Robot must be placed on the table before executing other commands"⟩]) ∧
        (sim.session.Reports line → ∃ p, sim.session.robot.pose = some p ∧
          let shown := Decimal.natText p.cell.x.toNat ++ "," ++ Decimal.natText p.cell.y.toNat ++
            "," ++ p.heading.name
          outcome.output = some shown ∧ added = [⟨.report, shown⟩]) ∧
        (outcome.success = false → ∃ error, outcome.error = some error ∧
          added = [⟨.error, "Error: " ++ error⟩]) ∧
        (¬ sim.session.PassesOver line → ¬ sim.session.Reports line → outcome.success = true →
          added = []) ∧
        (outcome.error.isSome = true ↔ outcome.success = false) ∧
        (outcome.output.isSome = true ↔ sim.session.Reports line)) ∧
      sim.reset.log = sim.log ∧
      ∃ added, sim.log = log ++ added ∧
        added.on .report = outcomes.filterMap Outcome.output ∧
        added.on .error = (outcomes.filterMap Outcome.error).map ("Error: " ++ ·) ∧
        added.on .plain = [] := by
  intro start outcomes sim
  have hstart : start.session.Sound := (Session.sound_of_closed rfl).run earlier
  have hsim : sim.session.Sound := by
    show (start.callAll ops).2.session.Sound
    rw [Simulation.callAll_session]
    exact hstart.run ops
  refine ⟨?_, rfl, ?_⟩
  · intro line outcome
    rcases Simulation.exists_handle_takes hsim line with ⟨added, hlog, htakes⟩
    exact ⟨added, hlog, htakes.added_of_passesOver, htakes.added_of_reports,
      htakes.added_of_failure, htakes.added_of_none, htakes.error_iff, htakes.output_iff⟩
  · rcases Simulation.exists_callAll_tells hstart ops with ⟨added, hlog, htells⟩
    exact ⟨added, hlog, htells.reports, htells.errors, htells.plain⟩

end ToyRobot
