import ToyRobot.Proofs.History
import ToyRobot.Simulation

/-!
# A transcript tells the whole story

A script can be played, which says everything aloud, or transcribed, which says nothing and keeps an
entry for every line. The two are written apart: playing echoes the lines and complains of failures,
transcribing empties the log after each line and picks out the warnings. Still an entry has all that
it takes to retell its line (`Entry.told`), and the entries retold are what playing says.
-/

namespace ToyRobot

/-- What is said when a line is played, as its entry in a transcript has it: the echo, the warnings,
the output as a report, and the error as a complaint. -/
def Entry.told (e : Entry) : Log :=
  [⟨.command, "> " ++ e.command⟩] ++
    e.warnings.map (Notice.mk .warning) ++
    e.outcome.output.toList.map (Notice.mk .report) ++
    e.outcome.error.toList.map fun error => ⟨.error, "Error: " ++ error⟩

/-- The entry for a line that got a response with nothing in the log before it. -/
def Response.entry (r : Response) (line : String) : Entry :=
  ⟨line, r.outcome, r.notices.on .warning⟩

namespace Session

/-- A command that is obeyed says no more than its outcome does: only a report prints a line. -/
theorem told_obey (s : Session) (c : Command) (line : String) :
    echo line :: ((s.obey c).notices ++ (s.obey c).outcome.complaint) =
      ((s.obey c).entry line).told := by
  unfold Response.entry
  rw [obey_notices]
  rcases s.obey_outcome_cases c with ⟨message, houtcome⟩ | houtcome | ⟨hreport, text, houtcome⟩
  -- nothing is said of a failure until the complaint, and nothing at all of a silent success
  · rw [houtcome]
    rfl
  · rw [houtcome]
    rfl
  · rw [houtcome, hreport]
    rfl

/-- Handling a line after its echo says what the entry for the line tells. -/
theorem told_handle (s : Session) (line : String) :
    echo line :: (s.handle line).notices = ((s.process line).entry line).told := by
  rw [handle_eq]
  rcases s.process_cases line with ⟨_, hprocess⟩ | ⟨c, _, _, hprocess⟩ | ⟨c, _, _, hprocess⟩
  · rw [hprocess]
    rfl
  · rw [hprocess]
    rfl
  · rw [hprocess]
    exact s.told_obey c line

end Session

namespace Simulation

/-- Transcribing the first line into an empty log and the others after it. -/
theorem transcribeLines_cons (s : Session) (line : String) (rest : List String) :
    transcribeLines ⟨s, []⟩ (line :: rest) =
      ((s.process line).entry line :: (transcribeLines ⟨(s.process line).session, []⟩ rest).1,
        (transcribeLines ⟨(s.process line).session, []⟩ rest).2) := by
  simp only [transcribeLines, process, absorb, Response.entry, List.nil_append]

/-- A transcript has an entry for every line, in order. -/
theorem transcribeLines_commands (s : Session) (lines : List String) :
    (transcribeLines ⟨s, []⟩ lines).1.map Entry.command = lines := by
  induction lines generalizing s with
  | nil => rfl
  | cons line rest ih =>
    rw [transcribeLines_cons, List.map_cons, ih]
    rfl

/-- Line by line, the entries retold are what playing says, and both leave the same session. -/
theorem play_eq_told (s : Session) (lines : List String) :
    s.play lines =
      ((transcribeLines ⟨s, []⟩ lines).1.flatMap Entry.told,
        (transcribeLines ⟨s, []⟩ lines).2.session) := by
  induction lines generalizing s with
  | nil => rfl
  | cons line rest ih =>
    -- the first line says what its entry tells, whatever session it leaves to the others
    have hline := s.told_handle line
    rw [s.handle_eq] at hline
    rw [transcribeLines_cons, List.flatMap_cons, ← hline, Session.play, s.handle_eq, ih]

end Simulation

/-- Playing a script and transcribing it tell the same story. With an empty log to begin with, the
transcript has an entry for every unread line, in order; what playing says is an opening, the
entries retold, and a closing; and both end with the same session and the same script, which has
been read to its end. -/
theorem playing_is_transcript_retold (session : Session) (script : Script) :
    let start : Simulation := ⟨session, []⟩
    let written := start.transcribe script
    let played := start.play script
    written.1.map Entry.command = script.unread ∧
      played.2.log =
        [⟨.info, "Reading commands from: " ++ script.path⟩, ⟨.plain, ""⟩] ++
          written.1.flatMap Entry.told ++
          [⟨.plain, ""⟩, ⟨.success, "File processing completed."⟩] ∧
      played.2.session = written.2.2.session ∧
      played.1 = written.2.1 ∧ played.1.hasMore = false := by
  intro start written played
  have hlines : script.drain.1 = script.unread := congrArg Prod.fst script.drain_eq
  have hplay := Simulation.play_eq_told session script.unread
  refine ⟨?_, ?_, ?_, rfl, ?_⟩
  · change (Simulation.transcribeLines start script.drain.1).1.map Entry.command = script.unread
    rw [hlines]
    exact Simulation.transcribeLines_commands session script.unread
  · change [] ++ (Script.opening script.path ++ (session.play script.drain.1).1 ++ Script.closing) =
      Script.opening script.path ++
        (Simulation.transcribeLines start script.drain.1).1.flatMap Entry.told ++ Script.closing
    rw [hlines, hplay, List.nil_append]
  · change (session.play script.drain.1).2 =
      (Simulation.transcribeLines start script.drain.1).2.session
    rw [hlines, hplay]
  · change script.drain.2.hasMore = false
    have hend : ¬ max script.cursor script.total < script.total :=
      Nat.not_lt.mpr (Nat.le_max_right ..)
    rw [script.drain_eq]
    exact decide_eq_false hend

end ToyRobot
