import ToyRobot.Proofs.History
import ToyRobot.Proofs.Pieces
import ToyRobot.Simulation

/-!
# A pipe drives like a file

Bytes that are piped into a conversation and bytes in a file that is played meet the same session.
The two hand out the same lines but for blank ones, and a blank line is a failure that the session
forgets: it is complained of, and nothing else is said or done (`Session.handle_blank`). What a
conversation adds to a script is its banner and those complaints, and what a script adds is the echo
of its lines, so on the channels for warnings and for reports the two say the same.
-/

namespace ToyRobot

namespace Session

/-- A blank line is no command: it is complained of and changes nothing. -/
theorem handle_blank (s : Session) :
    s.handle "" = ⟨.failed "Invalid command: ", [⟨.error, "Error: Invalid command: "⟩], s⟩ := by
  have hread : Command.ofLine? "" = none := by decide +kernel
  have hmessage : (Command.Unrecognized.ofLine "").message = "Invalid command: " := by
    decide +kernel
  rw [handle_unrecognized hread, hmessage]
  rfl

theorem converse_cons (s : Session) (line : String) (rest : List String) :
    s.converse (line :: rest) =
      ((s.handle line).notices :: ((s.handle line).session.converse rest).1,
        ((s.handle line).session.converse rest).2) := by
  rw [converse]

theorem play_cons (s : Session) (line : String) (rest : List String) :
    s.play (line :: rest) =
      (echo line :: (s.handle line).notices ++ ((s.handle line).session.play rest).1,
        ((s.handle line).session.play rest).2) := by
  rw [play]

/-- Lines that are typed leave the session as those among them that are not blank do when they are
played. -/
theorem converse_session_eq_play (s : Session) (lines : List String) :
    (s.converse lines).2 = (s.play (lines.filter (· ≠ ""))).2 := by
  induction lines generalizing s with
  | nil => rfl
  | cons line rest ih =>
    rw [converse_cons]
    by_cases hblank : line = ""
    · -- a blank line is typed but not played, and leaves the session as it is
      subst hblank
      rw [handle_blank, List.filter_cons_of_neg (by simp)]
      exact ih s
    · rw [List.filter_cons_of_pos (by simpa using hblank), play_cons]
      exact ih (s.handle line).session

/-- On every channel but those of the echoes and of the complaints, what is said about lines that
are typed is what is said when those that are not blank are played. -/
theorem converse_on_eq_play {channel : Channel} (hecho : channel ≠ .command)
    (hcomplaint : channel ≠ .error) (s : Session) (lines : List String) :
    Log.on (s.converse lines).1.flatten channel =
      Log.on (s.play (lines.filter (· ≠ ""))).1 channel := by
  induction lines generalizing s with
  | nil => rfl
  | cons line rest ih =>
    rw [converse_cons, List.flatten_cons, Log.on_append]
    by_cases hblank : line = ""
    · -- the complaint of a blank line goes to another channel
      subst hblank
      have hquiet : Log.on [⟨.error, "Error: Invalid command: "⟩] channel = [] := by
        simp [Log.on, Ne.symm hcomplaint]
      rw [handle_blank, List.filter_cons_of_neg (by simp), hquiet, List.nil_append]
      exact ih s
    · -- so does the echo of any other line
      have hquiet : Log.on [echo line] channel = [] := by
        simp [Log.on, echo, Ne.symm hecho]
      rw [List.filter_cons_of_pos (by simpa using hblank), play_cons, ih]
      show _ = Log.on ([echo line] ++ (s.handle line).notices ++ _) channel
      rw [Log.on_append, Log.on_append, hquiet, List.nil_append]

/-- Around the lines of a script nothing is warned of and nothing is reported. -/
theorem playScript_on {channel : Channel} (hwarning : channel = .warning ∨ channel = .report)
    (s : Session) (script : Script) :
    Log.on (s.playScript script).1 channel = Log.on (s.play script.unread).1 channel := by
  have hopening : Log.on (Script.opening script.path) channel = [] := by
    rcases hwarning with rfl | rfl <;> rfl
  have hclosing : Log.on Script.closing channel = [] := by
    rcases hwarning with rfl | rfl <;> rfl
  show Log.on (Script.opening script.path ++ (s.play script.drain.1).1 ++ Script.closing) channel = _
  rw [script.drain_eq, Log.on_append, Log.on_append, hopening, hclosing, List.nil_append,
    List.append_nil]

end Session

/-- Piped bytes and a file of the same bytes drive the robot alike. Of the lines of the file, take
those before the first farewell: they are the lines that a keyboard over the bytes hands out, blank
ones aside. A conversation over the bytes and a script of those lines, from one and the same
simulation, end with the same session, report the same in the same order, and give the same warnings,
apart from the banner's own. -/
theorem piped_bytes_drive_like_file (bytes : List UInt8) (file path : String)
    (start : Simulation) :
    let lines := (Script.ofBytes file bytes).lines.takeWhile fun line => !isFarewell line
    let keyboard := Keyboard.ofBytes bytes false
    let typed := (start.converse keyboard).simulation
    let played := (start.play ⟨path, lines, 0⟩).2
    keyboard.lines.1.filter (· ≠ "") = lines ∧
      typed.session = played.session ∧
      ∃ said told : Log, typed.log = start.log ++ said ∧ played.log = start.log ++ told ∧
        said.on .report = told.on .report ∧
        said.on .warning = banner.on .warning ++ told.on .warning := by
  intro lines keyboard typed played
  have hlines : keyboard.lines.1.filter (· ≠ "") = lines := Keyboard.filter_lines file bytes
  have hunread : (Script.mk path lines 0).unread = lines := rfl
  have hsession := start.session.converse_session_eq_play keyboard.lines.1
  rw [hlines] at hsession
  -- what both say on a channel, once what stands around the lines is taken off
  have hsaid : ∀ channel, channel = .warning ∨ channel = .report →
      Log.on (start.session.converse keyboard.lines.1).1.flatten channel =
        Log.on (start.session.playScript ⟨path, lines, 0⟩).1 channel := by
    intro channel hchannel
    have hecho : channel ≠ .command := by rcases hchannel with rfl | rfl <;> decide
    have hcomplaint : channel ≠ .error := by rcases hchannel with rfl | rfl <;> decide
    rw [Session.playScript_on hchannel, hunread, ← hlines]
    exact Session.converse_on_eq_play hecho hcomplaint start.session keyboard.lines.1
  refine ⟨hlines, ?_, banner ++ (start.session.converse keyboard.lines.1).1.flatten,
    (start.session.playScript ⟨path, lines, 0⟩).1, ?_, rfl, ?_, ?_⟩
  · show (start.session.converse keyboard.lines.1).2 =
      (start.session.play (Script.mk path lines 0).drain.1).2
    rw [Script.drain_eq, hunread]
    exact hsession
  · exact List.append_assoc start.log banner _
  · rw [Log.on_append, hsaid .report (.inr rfl)]
    rfl
  · rw [Log.on_append, hsaid .warning (.inl rfl)]

end ToyRobot
