import ToyRobot.Proofs.Retelling

/-!
# What a transcript warns of

A line warns of one thing at most: that its command was passed over. A transcription learns of it by
taking all that the log holds after the line, and before the first line nobody empties the log. So
the warnings of a transcript are those of its lines, but for the first entry, which has all the
earlier warnings in front of its own (`Simulation.transcribeLines_warnings`). They are kept apart
just where there is no line, or no earlier warning (`modifyHead_append_eq_self_iff`). A simulation
of which nothing but resets and transcripts has been asked has no earlier warning, because each
transcript leaves the log empty (`Simulation.log_useAll_of_transcripts`).
-/

namespace ToyRobot

/-! ## What a line warns of -/

def Step.warnings (step : Step) : List String :=
  step.notices.on .warning

/-- A step in which a command was passed over: a line with a command that is no placement, behind a
closed gate. -/
def Step.PassesOver (step : Step) : Prop :=
  ∃ line c, step.operation = .line line ∧ Command.ofLine? line = some c ∧ c.isPlace = false ∧
    step.before.gateOpen = false

/-- A step warns that a command was passed over if that is so, and of nothing else. -/
def Step.WarnsOfItself (step : Step) : Prop :=
  (step.PassesOver → step.warnings =
    ["Command ignored: Robot must be placed on the table before executing other commands"]) ∧
  (¬ step.PassesOver → step.warnings = [])

/-- The output of a command is no warning. -/
theorem Outcome.announcement_on_warning (o : Outcome) (c : Command) :
    Log.on (o.announcement c) .warning = [] := by
  rcases o with ⟨success, output, error⟩
  rcases output with _ | text
  · rfl
  · by_cases hreport : c = .report
    · simp [announcement, Log.on, hreport]
    · simp [announcement, Log.on, hreport]

namespace Session

theorem admits_eq_false_iff {s : Session} {c : Command} :
    s.admits c = false ↔ s.gateOpen = false ∧ c.isPlace = false :=
  Bool.or_eq_false_iff

/-- Whether a line is passed over is seen from the command on it. -/
theorem passesOver_line_iff {s : Session} {line : String} :
    (s.perform (.line line)).PassesOver ↔
      ∃ c, Command.ofLine? line = some c ∧ s.admits c = false := by
  rw [perform_line]
  constructor
  · rintro ⟨_, c, hop, hread, hplace, hgate⟩
    cases hop
    exact ⟨c, hread, admits_eq_false_iff.mpr ⟨hgate, hplace⟩⟩
  · rintro ⟨c, hread, hadmits⟩
    rcases admits_eq_false_iff.mp hadmits with ⟨hgate, hplace⟩
    exact ⟨line, c, rfl, hread, hplace, hgate⟩

/-- The three ways in which a session takes a line: only the second one warns. -/
theorem perform_line_warnsOfItself (s : Session) (line : String) :
    (s.perform (.line line)).WarnsOfItself := by
  have hwarnings : (s.perform (.line line)).warnings = (s.process line).notices.on .warning := rfl
  unfold Step.WarnsOfItself
  rw [passesOver_line_iff, hwarnings]
  rcases s.process_cases line with ⟨hread, hprocess⟩ | ⟨c, hread, hadmits, hprocess⟩ |
    ⟨c, hread, hadmits, hprocess⟩
  · rw [hprocess]
    constructor
    · -- a line that is no command is not passed over
      rintro ⟨c, hread', _⟩
      rw [hread] at hread'
      cases hread'
    · intro _
      rfl
  · rw [hprocess]
    constructor
    · intro _
      rfl
    · intro hnot
      exact absurd ⟨c, hread, hadmits⟩ hnot
  · rw [hprocess]
    constructor
    · -- the command was admitted, so it was not passed over
      rintro ⟨c', hread', hadmits'⟩
      rw [hread] at hread'
      cases hread'
      rw [hadmits] at hadmits'
      cases hadmits'
    · intro _
      exact Outcome.announcement_on_warning _ c

/-- In a run over lines every step warns of itself alone. -/
theorem trace_warnsOfItself {s : Session} {lines : List String} {step : Step}
    (h : step ∈ s.trace (lines.map .line)) : step.WarnsOfItself := by
  induction lines generalizing s with
  | nil => cases h
  | cons line rest ih =>
    rw [List.map_cons, trace, List.mem_cons] at h
    rcases h with rfl | hrest
    · exact s.perform_line_warnsOfItself line
    · exact ih hrest

end Session

/-! ## What a transcript warns of -/

/-- Something put in front of the first list changes nothing only where there is nothing to put, or
no list. -/
theorem modifyHead_append_eq_self_iff {α : Type} {front : List α} {lists : List (List α)} :
    lists.modifyHead (front ++ ·) = lists ↔ lists = [] ∨ front = [] := by
  cases lists with
  | nil => simp
  | cons first rest => simp

namespace Simulation

/-- The first line of a transcription takes all that the log holds. -/
theorem transcribeLines_cons_log (sim : Simulation) (line : String) (rest : List String) :
    sim.transcribeLines (line :: rest) =
      (⟨line, (sim.session.process line).outcome,
          sim.log.on .warning ++ (sim.session.process line).notices.on .warning⟩ ::
        (transcribeLines ⟨(sim.session.process line).session, []⟩ rest).1,
        (transcribeLines ⟨(sim.session.process line).session, []⟩ rest).2) := by
  simp only [transcribeLines, process, absorb, Log.on_append]

/-- With nothing in the log, each entry has the warnings of its own line. -/
theorem transcribeLines_warnings_of_empty (s : Session) (lines : List String) :
    (transcribeLines ⟨s, []⟩ lines).1.map Entry.warnings =
      (s.trace (lines.map .line)).map Step.warnings := by
  induction lines generalizing s with
  | nil => rfl
  | cons line rest ih =>
    rw [transcribeLines_cons, List.map_cons, ih, List.map_cons, Session.trace, List.map_cons,
      Session.perform_line]
    rfl

/-- The warnings of a transcript are those of its lines, and the first entry has the earlier ones
in front. -/
theorem transcribeLines_warnings (sim : Simulation) (lines : List String) :
    (sim.transcribeLines lines).1.map Entry.warnings =
      ((sim.session.trace (lines.map .line)).map Step.warnings).modifyHead
        (sim.log.on .warning ++ ·) := by
  cases lines with
  | nil => rfl
  | cons line rest =>
    rw [transcribeLines_cons_log, List.map_cons, transcribeLines_warnings_of_empty, List.map_cons,
      Session.trace, List.map_cons, List.modifyHead_cons, Session.perform_line]
    rfl

/-- A transcription that finds an empty log leaves one behind. -/
theorem transcribeLines_log (s : Session) (lines : List String) :
    (transcribeLines ⟨s, []⟩ lines).2.log = [] := by
  induction lines generalizing s with
  | nil => rfl
  | cons line rest ih =>
    rw [transcribeLines_cons]
    exact ih (s.process line).session

/-! ## What is done with a simulation -/

/-- One thing that is done with a simulation. -/
inductive Use where
  | handle (line : String)
  | reset
  | greet
  | converse (keyboard : Keyboard)
  | play (script : Script)
  | transcribe (script : Script)
deriving Repr, DecidableEq

def use (sim : Simulation) : Use → Simulation
  | .handle line => (sim.handle line).2
  | .reset => sim.reset
  | .greet => sim.greet
  | .converse keyboard => (sim.converse keyboard).simulation
  | .play script => (sim.play script).2
  | .transcribe script => (sim.transcribe script).2.2

def useAll (sim : Simulation) (uses : List Use) : Simulation :=
  uses.foldl use sim

/-- Where all that is done are resets and transcripts, an empty log stays empty. -/
theorem log_useAll_of_transcripts {sim : Simulation} (hlog : sim.log = []) {uses : List Use}
    (h : ∀ u ∈ uses, u = .reset ∨ ∃ script, u = .transcribe script) :
    (sim.useAll uses).log = [] := by
  induction uses generalizing sim with
  | nil => exact hlog
  | cons u rest ih =>
    rw [List.forall_mem_cons] at h
    apply ih _ h.2
    rcases sim with ⟨session, log⟩
    cases hlog
    rcases h.1 with rfl | ⟨script, rfl⟩
    · rfl
    · exact transcribeLines_log session script.drain.1

end Simulation

/-- The first entry of a transcript takes the earlier warnings. Whatever has been done with a
simulation and whichever script is transcribed, each line warns that its command was passed over, if
it was, and of nothing else. Every entry but the first has the warnings of its own line; the first
one has those that the log held before the transcription as well, in front of its own. So the
warnings of a transcript belong to their own lines exactly where there is no line to take the
earlier ones, or there are none, as after nothing but resets and transcripts. -/
theorem first_entry_takes_earlier_warnings (t : Table) (uses : List Simulation.Use)
    (script : Script) :
    let sim := (Simulation.fresh t).useAll uses
    let steps := sim.session.trace (script.unread.map .line)
    let warnings := (sim.transcribe script).1.map Entry.warnings
    (∀ step ∈ steps, step.WarnsOfItself) ∧
      warnings = (steps.map Step.warnings).modifyHead (sim.log.on .warning ++ ·) ∧
      (warnings = steps.map Step.warnings ↔ script.unread = [] ∨ sim.log.on .warning = []) ∧
      ((∀ u ∈ uses, u = .reset ∨ ∃ earlier, u = .transcribe earlier) →
        warnings = steps.map Step.warnings) := by
  intro sim steps warnings
  have hlines : script.drain.1 = script.unread := congrArg Prod.fst script.drain_eq
  have hwarnings : warnings = (steps.map Step.warnings).modifyHead (sim.log.on .warning ++ ·) := by
    show (sim.transcribeLines script.drain.1).1.map Entry.warnings = _
    rw [hlines]
    exact sim.transcribeLines_warnings script.unread
  have hnone : steps.map Step.warnings = [] ↔ script.unread = [] := by
    rw [List.map_eq_nil_iff]
    cases hunread : script.unread <;> simp [steps, hunread, Session.trace]
  have happart : warnings = steps.map Step.warnings ↔
      script.unread = [] ∨ sim.log.on .warning = [] := by
    rw [hwarnings, modifyHead_append_eq_self_iff, hnone]
  refine ⟨fun _ => Session.trace_warnsOfItself, hwarnings, happart, ?_⟩
  -- resets and transcripts leave no earlier warnings behind
  intro huses
  have hlog : sim.log = [] := Simulation.log_useAll_of_transcripts rfl huses
  rw [happart, hlog]
  exact .inr rfl

/-- A turn is passed over, and the placement that is transcribed after it is warned of in its
place. -/
theorem placement_takes_warning_of_turn :
    let sim := (Simulation.fresh Table.standard).useAll [.handle "LEFT"]
    let script := Script.ofText "placement" "PLACE 1,2,EAST".toList
    let own := (sim.session.trace (script.unread.map .line)).map Step.warnings
    own = [[]] ∧ (sim.transcribe script).1.map Entry.warnings ≠ own := by
  decide +kernel

end ToyRobot
