import ToyRobot.Proofs.History

/-!
# Lines without effect

A line that is no command, one that is passed over, a placement or a move that is refused, and a
report: each of them leaves the session exactly as it was. So they can be taken out of a run, any
of them and any number, and nothing else in the run changes.
-/

namespace ToyRobot

/-- The ways in which a line can be without effect. -/
inductive Step.Ineffective (step : Step) : Prop where
  | unrecognized {line : String} : step.operation = .line line →
      Command.ofLine? line = none → Ineffective step
  | passedOver {line : String} {c : Command} : step.operation = .line line →
      Command.ofLine? line = some c → c.isPlace = false → step.before.gateOpen = false →
      Ineffective step
  | refused {line : String} {c : Command} {o : Outcome} : step.operation = .line line →
      Command.ofLine? line = some c → c.isPlace = true ∨ c = .move → step.outcome = some o →
      o.success = false → Ineffective step
  | reported {line : String} : step.operation = .line line →
      Command.ofLine? line = some .report → step.before.gateOpen = true → Ineffective step

/-- The steps that are left when some that are without effect are taken out. -/
inductive Thinned : List Step → List Step → Prop where
  | nil : Thinned [] []
  | keep {step : Step} {steps left : List Step} :
      Thinned steps left → Thinned (step :: steps) (step :: left)
  | drop {step : Step} {steps left : List Step} :
      step.Ineffective → Thinned steps left → Thinned (step :: steps) left

namespace Session

/-- A command that fails leaves the session as it was. -/
theorem obey_session_of_failure {s : Session} {c : Command}
    (hfail : (s.obey c).outcome.success = false) : (s.obey c).session = s := by
  have hsuccess : (c.execute s.robot).1.success = false := hfail
  have hrobot := (Command.executes_execute c s.robot).robot_eq_of_failure hsuccess
  simp [obey, hrobot, hsuccess]

/-- A report leaves the session as it was. -/
theorem obey_session_of_report (s : Session) : (s.obey .report).session = s := by
  have hrobot := (Command.executes_execute .report s.robot).robot_eq_of_report
  simp [obey, hrobot, Command.isPlace]

/-- A line that fails leaves the session as it was. -/
theorem process_session_of_failure {s : Session} {line : String}
    (hfail : (s.process line).outcome.success = false) : (s.process line).session = s := by
  rcases s.process_cases line with ⟨_, hprocess⟩ | ⟨c, _, _, hprocess⟩ | ⟨c, _, _, hprocess⟩
  -- the robot has not seen a line that is no command or is passed over
  · rw [hprocess]
  · rw [hprocess]
  · rw [hprocess] at hfail ⊢
    exact obey_session_of_failure hfail

/-- A step without effect ends in the session that it began with. -/
theorem perform_after_of_ineffective {s : Session} {op : Operation}
    (h : (s.perform op).Ineffective) : (s.perform op).after = s := by
  cases h with
  | unrecognized hop hread =>
    rw [perform_operation] at hop
    subst hop
    rw [perform_line, process_unrecognized hread]
  | passedOver hop hread hplace hgate =>
    rw [perform_operation] at hop
    rw [perform_before] at hgate
    subst hop
    -- behind a closed gate only a placement is admitted
    have hadmits := (admits_of_closed hgate).trans hplace
    rw [perform_line, process_passedOver hread hadmits]
  | refused hop _ _ houtcome hfail =>
    rw [perform_operation] at hop
    subst hop
    rw [perform_line] at houtcome ⊢
    rw [← Option.some.inj houtcome] at hfail
    exact process_session_of_failure hfail
  | reported hop hread hgate =>
    rw [perform_operation] at hop
    rw [perform_before] at hgate
    subst hop
    rw [perform_line, process_admitted hread (admits_of_open hgate)]
    exact s.obey_session_of_report

end Session

/-- Lines without effect can be dropped from a run, any of them: every step that is left is the step
that it was, with the same outcome and the same notices, and the run ends in the same session. -/
theorem ineffective_lines_can_be_dropped {s : Session} {ops : List Operation} {left : List Step}
    (h : Thinned (s.trace ops) left) :
    s.trace (left.map Step.operation) = left ∧
      s.run (left.map Step.operation) = s.run ops := by
  induction ops generalizing s left with
  | nil =>
    cases h
    exact ⟨rfl, rfl⟩
  | cons op rest ih =>
    cases h with
    | keep hrest =>
      -- the step stays, and so does the session that the rest starts from
      rcases ih hrest with ⟨htrace, hrun⟩
      simp only [List.map_cons, Session.perform_operation, Session.trace, Session.run]
      exact ⟨congrArg _ htrace, hrun⟩
    | drop hstep hrest =>
      -- the rest of the run starts where the dropped step did, so it may stand in its place
      have hafter := Session.perform_after_of_ineffective hstep
      rw [hafter] at hrest
      rcases ih hrest with ⟨htrace, hrun⟩
      refine ⟨htrace, ?_⟩
      rw [Session.run, hafter]
      exact hrun

/-- A line of each kind is dropped; a report and a line behind the closed gate are kept although
they could be dropped too. -/
theorem ineffective_lines_dropped_around_placement :
    let start := Session.fresh Table.standard
    let ops : List Operation := [.line "MOVE", .line "PLACE 9,0,NORTH", .line "place 0,4,north",
      .line "jump", .line "MOVE", .line "REPORT", .line "RIGHT", .line "REPORT", .reset,
      .line "LEFT"]
    let steps := start.trace ops
    let left := [steps[2], steps[6], steps[7], steps[8], steps[9]]
    Thinned steps left ∧ start.trace (left.map Step.operation) = left ∧
      start.run (left.map Step.operation) = start.run ops := by
  intro start ops steps left
  have hmove : Command.ofLine? "MOVE" = some .move := by decide +kernel
  have hplace : Command.ofLine? "PLACE 9,0,NORTH" = some (.place 9 0 .north) := by decide +kernel
  have hjump : Command.ofLine? "jump" = none := by decide +kernel
  have hreport : Command.ofLine? "REPORT" = some .report := by decide +kernel
  have hkept : Thinned (steps.drop 6) (left.drop 1) := .keep (.keep (.keep (.keep .nil)))
  have hplaced : Thinned (steps.drop 2) left :=
    .keep <| .drop (.unrecognized rfl hjump) <|
      .drop (.refused rfl hmove (.inr rfl) rfl (by decide +kernel)) <|
      .drop (.reported rfl hreport (by decide +kernel)) hkept
  have h : Thinned steps left :=
    .drop (.passedOver rfl hmove rfl rfl) <|
      .drop (.refused rfl hplace (.inl rfl) rfl (by decide +kernel)) hplaced
  exact ⟨h, ineffective_lines_can_be_dropped h⟩

end ToyRobot
