import ToyRobot.CommandLine.Run
import ToyRobot.Proofs.Failures
import ToyRobot.Proofs.Piped

/-!
# One notice, one line

Whatever is typed or stands in a file, it cannot make the program print a line of its own. What a
line says goes into the echo of the line and into the error of a line that is no command, and both
readers cut at newlines before anything else sees the text; every other notice is made of fixed
texts, names and numbers. So no notice has a newline in it (`Session.ofLines_handle`, and from there
by induction over the lines), and what a console writes to a stream, cut at the newlines, is the
notices for that stream (`Console.split_printAll_on`). A conversation puts prompts between them,
which only ever stand in front of a line (`CommandLine.displays_converse`).
-/

namespace ToyRobot

open Text

/-! ## Texts without newlines -/

namespace Text

def IsLine (text : String) : Prop :=
  '\n' ∉ text.toList

/-- A fixed text is best looked at through its characters, not through its bytes. -/
theorem isLine_ofList {text : List Char} : IsLine (String.ofList text) ↔ '\n' ∉ text := by
  rw [IsLine, String.toList_ofList]

/-- Two texts make one line together just when each of them is one. -/
theorem isLine_append {a b : String} : IsLine (a ++ b) ↔ IsLine a ∧ IsLine b := by
  rw [IsLine, String.toList_append, List.mem_append, not_or, IsLine, IsLine]

/-- A numeral is digits only. -/
theorem isLine_natText (n : Nat) : IsLine (Decimal.natText n) := by
  rw [Decimal.natText, isLine_ofList]
  intro hmem
  have hdigit : Decimal.isDigit '\n' = true :=
    List.all_eq_true.mp (Decimal.all_isDigit_digits n) '\n' hmem
  exact absurd hdigit (by decide)

end Text

namespace Command

theorem isLine_coordinates (x y : UInt64) : IsLine (coordinates x y) := by
  have hcomma : IsLine "," := isLine_ofList.mpr (by decide)
  simp only [coordinates, isLine_append, isLine_natText, hcomma, and_self]

/-- What a command says when it is refused is one line. -/
theorem isLine_refusal (c : Command) : IsLine c.refusal := by
  cases c with
  | place x y heading =>
    have hbefore : IsLine "Cannot place robot at position " := isLine_ofList.mpr (by decide)
    have hafter : IsLine " - position is invalid" := isLine_ofList.mpr (by decide)
    exact isLine_append.mpr ⟨isLine_append.mpr ⟨hbefore, isLine_coordinates x y⟩, hafter⟩
  | move => exact isLine_ofList.mpr (by decide)
  | left => exact isLine_ofList.mpr (by decide)
  | right => exact isLine_ofList.mpr (by decide)
  | report => exact isLine_ofList.mpr (by decide)

end Command

/-- The report of a pose is one line. -/
theorem Pose.isLine_text (p : Pose) : IsLine p.text := by
  have hcomma : IsLine "," := isLine_ofList.mpr (by decide)
  have hname : IsLine p.heading.name := by
    cases p.heading <;> exact isLine_ofList.mpr (by decide)
  simp only [text, Cell.text, isLine_append, isLine_natText, hcomma, hname, and_self]

/-! ## Lines that are read -/

namespace Keyboard

/-- A piece without a newline spells a line without one. -/
theorem isLine_lineOfBytes {piece : List UInt8} (h : newline ∉ piece) :
    IsLine (lineOfBytes piece) := by
  have hdecode : '\n' ∉ Utf8.decode piece :=
    Utf8.newline_not_mem_decodeFrom Utf8.beyondAscii_none h
  rw [lineOfBytes, isLine_ofList]
  exact fun hmem => hdecode (mem_of_mem_trim hmem)

/-- What is typed is cut into lines without newlines. -/
theorem isLine_of_mem_lines {bytes : List UInt8} {broken : Bool} {line : String}
    (h : line ∈ (ofBytes bytes broken).lines.1) : IsLine line := by
  rw [lines_eq_takeWhile_pieces rfl] at h
  obtain ⟨piece, hpiece, rfl⟩ := List.mem_map.mp ((List.takeWhile_prefix _).subset h)
  apply isLine_lineOfBytes
  -- the last piece of a stream may be missing, but what is left was cut at newlines
  unfold pieces at hpiece
  split at hpiece
  · exact not_mem_of_mem_split (List.dropLast_subset _ hpiece)
  · exact not_mem_of_mem_split hpiece

end Keyboard

/-- What stands in a script is cut into lines without newlines. -/
theorem Script.isLine_of_mem_lines {path : String} {bytes : List UInt8} {line : String}
    (h : line ∈ (ofBytes path bytes).lines) : IsLine line := by
  rw [lines_ofBytes] at h
  obtain ⟨piece, hpiece, rfl⟩ := List.mem_map.mp (List.mem_filter.mp h).1
  exact Keyboard.isLine_lineOfBytes (not_mem_of_mem_split hpiece)

/-! ## Notices without newlines -/

/-- Every notice is one line. -/
def Log.OfLines (log : Log) : Prop :=
  ∀ n ∈ log, IsLine n.text

theorem Log.ofLines_nil : Log.OfLines [] :=
  List.forall_mem_nil _

theorem Log.ofLines_append {a b : Log} : Log.OfLines (a ++ b) ↔ a.OfLines ∧ b.OfLines :=
  List.forall_mem_append

theorem Log.ofLines_cons {n : Notice} {log : Log} :
    Log.OfLines (n :: log) ↔ IsLine n.text ∧ log.OfLines :=
  List.forall_mem_cons

/-- What there is to print and what went wrong are one line each. -/
structure Outcome.OfLines (o : Outcome) : Prop where
  output : ∀ text ∈ o.output, IsLine text
  error : ∀ text ∈ o.error, IsLine text

namespace Outcome

theorem ofLines_done : done.OfLines where
  output _ htext := nomatch htext
  error _ htext := nomatch htext

theorem ofLines_failed {message : String} (h : IsLine message) : (failed message).OfLines where
  output _ htext := nomatch htext
  error _ htext := by
    cases htext
    exact h

theorem ofLines_printing {line : String} (h : IsLine line) : (printing line).OfLines where
  output _ htext := by
    cases htext
    exact h
  error _ htext := nomatch htext

/-- An output of one line is announced in one line. -/
theorem OfLines.announcement {o : Outcome} (h : o.OfLines) (c : Command) :
    (o.announcement c).OfLines := by
  intro n hn
  unfold Outcome.announcement at hn
  split at hn
  · rename_i output houtput
    rw [List.mem_singleton] at hn
    rw [hn]
    exact h.output output houtput
  · cases hn

/-- An error of one line is complained of in one line. -/
theorem OfLines.complaint {o : Outcome} (h : o.OfLines) : o.complaint.OfLines := by
  intro n hn
  unfold Outcome.complaint at hn
  split at hn
  · rename_i error _ herror
    rw [List.mem_singleton] at hn
    have hopening : IsLine "Error: " := isLine_ofList.mpr (by decide)
    rw [hn]
    exact isLine_append.mpr ⟨hopening, h.error error herror⟩
  · cases hn

end Outcome

/-- Whatever a command comes to is said in texts of one line. -/
theorem Command.Executes.ofLines {c : Command} {r r' : Robot} {o : Outcome}
    (h : Command.Executes r c o r') : o.OfLines := by
  cases h with
  | withheld _ _ => exact Outcome.ofLines_failed (isLine_ofList.mpr (by decide))
  | misplaced _ => exact Outcome.ofLines_failed (isLine_refusal _)
  | blocked _ _ => exact Outcome.ofLines_failed (isLine_refusal _)
  | placed _ => exact Outcome.ofLines_done
  | moved _ _ _ => exact Outcome.ofLines_done
  | turnedLeft _ => exact Outcome.ofLines_done
  | turnedRight _ => exact Outcome.ofLines_done
  | reported _ => exact Outcome.ofLines_printing (Pose.isLine_text _)

/-- The error of a line that is no command quotes the line. -/
theorem Command.Unrecognized.isLine_message {line : String} (h : IsLine line) :
    IsLine (ofLine line).message := by
  have hopening : IsLine "Invalid command: " := isLine_ofList.mpr (by decide)
  have hquoted : IsLine (ofLine line).line :=
    isLine_ofList.mpr fun hmem => h (mem_of_mem_trim hmem)
  exact isLine_append.mpr ⟨hopening, hquoted⟩

namespace Session

/-- What comes of one line, and what is said about it, is said in texts of one line. -/
theorem ofLines_process (s : Session) {line : String} (h : IsLine line) :
    (s.process line).notices.OfLines ∧ (s.process line).outcome.OfLines := by
  rcases s.process_cases line with ⟨_, hprocess⟩ | ⟨c, _, _, hprocess⟩ | ⟨c, _, _, hprocess⟩
  · rw [hprocess]
    exact ⟨Log.ofLines_nil, Outcome.ofLines_failed (Command.Unrecognized.isLine_message h)⟩
  · have hpassed : IsLine passedOver.text := isLine_ofList.mpr (by decide)
    rw [hprocess]
    exact ⟨Log.ofLines_cons.mpr ⟨hpassed, Log.ofLines_nil⟩, Outcome.ofLines_done⟩
  · have hobeys : (s.obey c).outcome.OfLines := (Command.executes_execute c s.robot).ofLines
    rw [hprocess]
    exact ⟨hobeys.announcement c, hobeys⟩

/-- A line is answered in notices of one line each. -/
theorem ofLines_handle (s : Session) {line : String} (h : IsLine line) :
    (s.handle line).notices.OfLines := by
  obtain ⟨hnotices, houtcome⟩ := s.ofLines_process h
  rw [handle_eq, Log.ofLines_append]
  exact ⟨hnotices, houtcome.complaint⟩

/-- A conversation has notices of one line each. -/
theorem ofLines_converse (s : Session) {lines : List String} (h : ∀ line ∈ lines, IsLine line) :
    Log.OfLines (s.converse lines).1.flatten := by
  induction lines generalizing s with
  | nil => exact Log.ofLines_nil
  | cons line rest ih =>
    rw [List.forall_mem_cons] at h
    rw [converse_cons, List.flatten_cons, Log.ofLines_append]
    exact ⟨s.ofLines_handle h.1, ih _ h.2⟩

/-- A script that is played has notices of one line each, the echoes included. -/
theorem ofLines_play (s : Session) {lines : List String} (h : ∀ line ∈ lines, IsLine line) :
    (s.play lines).1.OfLines := by
  induction lines generalizing s with
  | nil => exact Log.ofLines_nil
  | cons line rest ih =>
    rw [List.forall_mem_cons] at h
    have hmark : IsLine "> " := isLine_ofList.mpr (by decide)
    have hecho : IsLine (echo line).text := isLine_append.mpr ⟨hmark, h.1⟩
    rw [play_cons, List.cons_append, Log.ofLines_cons, Log.ofLines_append]
    exact ⟨hecho, s.ofLines_handle h.1, ih _ h.2⟩

/-- All that is said when a script is played is one line each, if the path of the script is. -/
theorem ofLines_playScript (s : Session) {script : Script} (hpath : IsLine script.path)
    (h : ∀ line ∈ script.unread, IsLine line) : (s.playScript script).1.OfLines := by
  have hempty : IsLine "" := isLine_ofList.mpr List.not_mem_nil
  have hreading : IsLine ("Reading commands from: " ++ script.path) :=
    isLine_append.mpr ⟨isLine_ofList.mpr (by decide), hpath⟩
  have hcompleted : IsLine "File processing completed." := isLine_ofList.mpr (by decide)
  have hopening : (Script.opening script.path).OfLines := by
    simp only [Script.opening, Log.ofLines_cons, Log.ofLines_nil, hreading, hempty, and_self]
  have hclosing : Script.closing.OfLines := by
    simp only [Script.closing, Log.ofLines_cons, Log.ofLines_nil, hcompleted, hempty, and_self]
  rw [playScript, Log.ofLines_append, Log.ofLines_append, script.drain_eq]
  exact ⟨⟨hopening, s.ofLines_play h⟩, hclosing⟩

end Session

/-! ## The two streams -/

/-- One of the streams that a program writes to. -/
inductive Stream where
  | output
  | error
deriving DecidableEq

def Output.on (written : Output) : Stream → String
  | .output => written.stdout
  | .error => written.stderr

def Channel.stream : Channel → Stream
  | .error => .error
  | _ => .output

/-- The notices for a stream, in order. -/
def Log.sentTo (log : Log) (stream : Stream) : Log :=
  log.filter (·.channel.stream = stream)

theorem Output.on_append (a b : Output) (stream : Stream) :
    (a ++ b).on stream = a.on stream ++ b.on stream := by
  cases stream <;> rfl

namespace Log

variable {stream : Stream}

theorem sentTo_append (a b : Log) : sentTo (a ++ b) stream = a.sentTo stream ++ b.sentTo stream :=
  List.filter_append ..

theorem sentTo_cons_of_eq {n : Notice} {log : Log} (h : n.channel.stream = stream) :
    sentTo (n :: log) stream = n :: log.sentTo stream :=
  List.filter_cons_of_pos (decide_eq_true h)

theorem sentTo_cons_of_ne {n : Notice} {log : Log} (h : n.channel.stream ≠ stream) :
    sentTo (n :: log) stream = log.sentTo stream :=
  List.filter_cons_of_neg (by simpa using h)

end Log

/-! ## Complaints -/

/-- No output of a command is a complaint. -/
theorem Outcome.sentTo_error_announcement (o : Outcome) (c : Command) :
    (o.announcement c).sentTo .error = [] := by
  unfold announcement
  split
  · by_cases hreport : c = .report <;> simp [Log.sentTo, Channel.stream, hreport]
  · rfl

namespace Session

/-- A line that fails is complained of once, and no other line is. -/
theorem length_complaints_handle (s : Session) (line : String) :
    ((s.handle line).notices.sentTo .error).length =
      if (s.process line).outcome.success then 0 else 1 := by
  -- what is said while a line is handled is no complaint
  have hnotices : (s.process line).notices.sentTo .error = [] := by
    rcases s.process_cases line with ⟨_, hprocess⟩ | ⟨c, _, _, hprocess⟩ | ⟨c, _, _, hprocess⟩
    · rw [hprocess]
      rfl
    · rw [hprocess]
      rfl
    · rw [hprocess]
      exact Outcome.sentTo_error_announcement _ c
  have houtcome := s.process_outcome_cases line
  rw [handle_eq, Log.sentTo_append, hnotices, List.nil_append]
  generalize (s.process line).outcome = o at houtcome
  -- the complaint comes with the failure
  rcases houtcome with ⟨message, rfl⟩ | ⟨hsuccess, _⟩
  · rfl
  · have hsilent : o.complaint = [] := by simp [Outcome.complaint, hsuccess]
    rw [hsilent, if_pos hsuccess]
    rfl

/-- How many of the lines fail. -/
def failures (s : Session) (lines : List String) : Nat :=
  (s.processAll lines).1.countP fun r => !r.outcome.success

/-- The lines that fail are counted by the complaints. -/
theorem failures_cons (s : Session) (line : String) (rest : List String) :
    s.failures (line :: rest) =
      ((s.handle line).notices.sentTo .error).length + (s.handle line).session.failures rest := by
  have hsession : (s.handle line).session = (s.process line).session := by rw [handle_eq]
  rw [failures, processAll, List.countP_cons, length_complaints_handle, hsession, Nat.add_comm,
    failures]
  -- only whether the line succeeds still matters
  generalize (s.process line).outcome.success = success
  cases success with
  | true => rfl
  | false => rfl

/-- A conversation has as many complaints as lines that fail. -/
theorem length_complaints_converse (s : Session) (lines : List String) :
    (Log.sentTo (s.converse lines).1.flatten .error).length = s.failures lines := by
  induction lines generalizing s with
  | nil => rfl
  | cons line rest ih =>
    rw [converse_cons, List.flatten_cons, Log.sentTo_append, List.length_append, ih, failures_cons]

/-- The echoes of lines are no complaints. -/
theorem length_complaints_play (s : Session) (lines : List String) :
    ((s.play lines).1.sentTo .error).length = s.failures lines := by
  induction lines generalizing s with
  | nil => rfl
  | cons line rest ih =>
    have hecho : (echo line).channel.stream ≠ .error := by simp [echo, Channel.stream]
    rw [play_cons, List.cons_append, Log.sentTo_cons_of_ne hecho, Log.sentTo_append,
      List.length_append, ih, failures_cons]

/-- Nothing is complained of before a script or after it. -/
theorem length_complaints_playScript (s : Session) (script : Script) :
    ((s.playScript script).1.sentTo .error).length = s.failures script.unread := by
  have hopening : (Script.opening script.path).sentTo .error = [] := rfl
  have hclosing : Script.closing.sentTo .error = [] := rfl
  rw [playScript, Log.sentTo_append, Log.sentTo_append, hopening, hclosing, List.nil_append,
    List.append_nil, length_complaints_play, script.drain_eq]

end Session

/-! ## What a console shows -/

theorem Channel.isLine_colorCode {channel : Channel} {code : String}
    (h : channel.colorCode = some code) : IsLine code := by
  cases channel <;> cases h <;> exact isLine_ofList.mpr (by decide)

namespace Console

variable (console : Console)

def lines (log : Log) : List (List Char) :=
  log.map fun n => (console.styled n).toList

/-- Colors do not break a line. -/
theorem isLine_styled {n : Notice} (h : IsLine n.text) : IsLine (console.styled n) := by
  unfold styled
  split
  · rename_i hcode
    rw [isLine_append, isLine_append]
    exact ⟨⟨Channel.isLine_colorCode hcode, h⟩, isLine_ofList.mpr (by decide)⟩
  · exact h

/-- What a console shows of notices without newlines has none either. -/
theorem newline_not_mem_lines {log : Log} (h : log.OfLines) (stream : Stream) :
    ∀ line ∈ console.lines (log.sentTo stream), '\n' ∉ line := by
  intro line hline
  obtain ⟨n, hn, rfl⟩ := List.mem_map.mp hline
  exact console.isLine_styled (h n (List.mem_filter.mp hn).1)

/-- A notice is written to its own stream and to no other. -/
theorem print_on (n : Notice) (stream : Stream) :
    (console.print n).on stream =
      if n.channel.stream = stream then console.styled n ++ "\n" else "" := by
  rcases n with ⟨channel, text⟩
  cases channel <;> cases stream <;> rfl

/-- Each notice goes to its stream, with a newline behind it. -/
theorem toList_printAll_on (log : Log) (stream : Stream) :
    ((console.printAll log).on stream).toList =
      (console.lines (log.sentTo stream)).flatMap (· ++ ['\n']) := by
  induction log with
  | nil => cases stream <;> rfl
  | cons n rest ih =>
    have hcons : console.printAll (n :: rest) = console.print n ++ console.printAll rest :=
      Output.join_cons ..
    rw [hcons, Output.on_append, print_on, String.toList_append, ih]
    by_cases hstream : n.channel.stream = stream
    · rw [if_pos hstream, Log.sentTo_cons_of_eq hstream]
      simp [lines]
    · rw [if_neg hstream, Log.sentTo_cons_of_ne hstream]
      rfl

/-- If notices are one line each, the lines on a stream are the notices for it. -/
theorem split_printAll_on {log : Log} (h : log.OfLines) (stream : Stream) :
    split '\n' ((console.printAll log).on stream).toList =
      console.lines (log.sentTo stream) ++ [[]] := by
  rw [toList_printAll_on, split_flatMap_concat (console.newline_not_mem_lines h stream)]

end Console

/-! ## Prompts between the lines -/

namespace CommandLine

/-- A text that puts lines on a terminal, with a newline behind each and prompts between them. -/
inductive Displays : List Char → List (List Char) → Prop where
  | nothing : Displays [] []
  | prompted {text : List Char} {lines : List (List Char)} :
      Displays text lines → Displays (prompt.stdout.toList ++ text) lines
  | line {line text : List Char} {lines : List (List Char)} :
      '\n' ∉ line → Displays text lines → Displays (line ++ '\n' :: text) (line :: lines)

namespace Displays

variable {a b text : List Char} {first later lines : List (List Char)}

/-- A text after another puts its lines after those of the other. -/
theorem append (ha : Displays a first) (hb : Displays b later) :
    Displays (a ++ b) (first ++ later) := by
  induction ha with
  | nothing => exact hb
  | prompted _ ih =>
    rw [List.append_assoc]
    exact .prompted ih
  | line hline _ ih =>
    rw [List.append_assoc, List.cons_append, List.cons_append]
    exact .line hline ih

/-- There is one newline for each of the lines. -/
theorem count_newline (h : Displays text lines) : text.count '\n' = lines.length := by
  induction h with
  | nothing => rfl
  | prompted _ ih =>
    -- a prompt has no newline, so it adds none
    have hprompt : prompt.stdout.toList.count '\n' = 0 := by decide
    rw [List.count_append, hprompt, ih, Nat.zero_add]
  | line hline _ ih =>
    rw [List.count_append, List.count_eq_zero_of_not_mem hline, List.count_cons_self, ih,
      Nat.zero_add, List.length_cons]

end Displays

/-- Lines with a newline behind each are displayed as they are. -/
theorem displays_flatMap {lines : List (List Char)} (h : ∀ line ∈ lines, '\n' ∉ line) :
    Displays (lines.flatMap (· ++ ['\n'])) lines := by
  induction lines with
  | nil => exact .nothing
  | cons line rest ih =>
    rw [List.forall_mem_cons] at h
    rw [List.flatMap_cons, List.append_assoc, List.singleton_append]
    exact .line h.1 (ih h.2)

section

variable (console : Console)

theorem displays_printAll {log : Log} (h : log.OfLines) :
    Displays (console.printAll log).stdout.toList (console.lines (log.sentTo .output)) := by
  have htext := console.toList_printAll_on log .output
  rw [Output.on] at htext
  rw [htext]
  exact displays_flatMap (console.newline_not_mem_lines h .output)

def answers (logs : List Log) : Output :=
  .join (logs.map fun log => prompt ++ console.printAll log)

theorem answers_cons (log : Log) (rest : List Log) :
    answers console (log :: rest) = prompt ++ console.printAll log ++ answers console rest :=
  Output.join_cons ..

/-- No prompt is written to the error stream. -/
theorem stderr_answers (logs : List Log) :
    (answers console logs).stderr.toList =
      (console.lines (Log.sentTo logs.flatten .error)).flatMap (· ++ ['\n']) := by
  induction logs with
  | nil => rfl
  | cons log rest ih =>
    have hlog := console.toList_printAll_on log .error
    rw [Output.on] at hlog
    rw [answers_cons, List.flatten_cons, Log.sentTo_append]
    simp [Output.append_eq, prompt, Output.ofText, hlog, ih, Console.lines]

/-- The answers are displayed as the notices for the output stream, whatever the prompts. -/
theorem displays_answers {logs : List Log} (h : Log.OfLines logs.flatten) :
    Displays (answers console logs).stdout.toList
      (console.lines (Log.sentTo logs.flatten .output)) := by
  induction logs with
  | nil => exact .nothing
  | cons log rest ih =>
    rw [List.flatten_cons, Log.ofLines_append] at h
    have htext : (answers console (log :: rest)).stdout.toList =
        prompt.stdout.toList ++ ((console.printAll log).stdout.toList ++
          (answers console rest).stdout.toList) := by
      simp [answers_cons, Output.append_eq]
    rw [htext, List.flatten_cons, Log.sentTo_append, Console.lines, List.map_append]
    exact .prompted ((displays_printAll console h.1).append (ih h.2))

end

/-! ## Conversations -/

theorem ofLines_banner : banner.OfLines := by
  simp only [banner, Log.ofLines_cons]
  refine ⟨?_, ?_, ?_, ?_, ?_, ?_, ?_, Log.ofLines_nil⟩
  all_goals exact isLine_ofList.mpr (by decide)

section

variable (console : Console) (s : Session) (lines : List String)

/-- All that is said in a conversation. -/
def spoken : Log := banner ++ (s.converse lines).1.flatten

theorem ofLines_spoken (h : ∀ line ∈ lines, IsLine line) : (spoken s lines).OfLines :=
  Log.ofLines_append.mpr ⟨ofLines_banner, s.ofLines_converse h⟩

/-- There is nothing to complain of in the banner. -/
theorem length_complaints_spoken :
    ((spoken s lines).sentTo .error).length = s.failures lines := by
  have hbanner : banner.sentTo .error = [] := rfl
  rw [spoken, Log.sentTo_append, hbanner, List.nil_append, s.length_complaints_converse]

theorem converse_eq :
    converse console s lines =
      console.printAll banner ++ answers console (s.converse lines).1 ++ prompt ++ .ofText "\n" :=
  rfl

/-- The lines on the error stream are the complaints. -/
theorem split_stderr_converse (h : (spoken s lines).OfLines) :
    split '\n' (converse console s lines).stderr.toList =
      console.lines ((spoken s lines).sentTo .error) ++ [[]] := by
  have hbanner := console.toList_printAll_on banner .error
  rw [Output.on] at hbanner
  -- prompts and the newline at the end go to the other stream
  have htext : (converse console s lines).stderr.toList =
      (console.lines ((spoken s lines).sentTo .error)).flatMap (· ++ ['\n']) := by
    rw [converse_eq, spoken, Log.sentTo_append]
    simp [Output.append_eq, prompt, Output.ofText, hbanner, stderr_answers, Console.lines]
  rw [htext, split_flatMap_concat (console.newline_not_mem_lines h .error)]

/-- On the output stream there is, after all that is said, one line more: the end of the last
prompt. -/
theorem displays_converse (h : (spoken s lines).OfLines) :
    Displays (converse console s lines).stdout.toList
      (console.lines ((spoken s lines).sentTo .output) ++ [[]]) := by
  rw [spoken, Log.ofLines_append] at h
  -- the last prompt has no answer, only the newline that ends the conversation
  have hend : Displays (prompt.stdout.toList ++ ['\n']) [[]] :=
    .prompted (.line List.not_mem_nil .nothing)
  have htext : (converse console s lines).stdout.toList =
      (console.printAll banner).stdout.toList ++
        (answers console (s.converse lines).1).stdout.toList ++ (prompt.stdout.toList ++ ['\n']) := by
    rw [converse_eq]
    simp [Output.append_eq, Output.ofText]
  rw [htext, spoken, Log.sentTo_append, Console.lines, List.map_append]
  exact ((displays_printAll console h.1).append (displays_answers console h.2)).append hend

end

end CommandLine

/-- Input cannot forge lines. Take any session, any console, any bytes, and a path that is one line.
Whether the bytes are played as a script under that path, or typed, after which the stream ends or
breaks: every notice, on every channel, is one line. The lines on the error stream are the
complaints, in order and as many as there are lines of input that fail; the lines on the output
stream are all other notices, in order. In a conversation there are prompts between them, which do
not make lines, and one end of line more, after the last prompt. -/
theorem input_cannot_forge_lines (session : Session) (console : Console) (bytes : List UInt8)
    (broken : Bool) {path : String} (hpath : '\n' ∉ path.toList) :
    let start : Simulation := ⟨session, []⟩
    let failures (lines : List String) : Nat :=
      (start.processAll lines).1.countP fun o => !o.success
    let script := Script.ofBytes path bytes
    let told := (start.play script).2.log
    let played := (CommandLine.runScript .text console start script).1
    let keyboard := Keyboard.ofBytes bytes broken
    let said := (start.converse keyboard).simulation.log
    let typed := CommandLine.converse console session keyboard.lines.1
    ((∀ n ∈ told, '\n' ∉ n.text.toList) ∧
      split '\n' played.stderr.toList = console.lines (told.sentTo .error) ++ [[]] ∧
      (told.sentTo .error).length = failures script.lines ∧
      split '\n' played.stdout.toList = console.lines (told.sentTo .output) ++ [[]]) ∧
    (∀ n ∈ said, '\n' ∉ n.text.toList) ∧
      split '\n' typed.stderr.toList = console.lines (said.sentTo .error) ++ [[]] ∧
      (said.sentTo .error).length = failures keyboard.lines.1 ∧
      CommandLine.Displays typed.stdout.toList (console.lines (said.sentTo .output) ++ [[]]) ∧
      typed.stdout.toList.count '\n' = (said.sentTo .output).length + 1 := by
  intro start failures script told played keyboard said typed
  -- outcomes of a simulation are those of its session
  have hfailures : ∀ lines, failures lines = session.failures lines := by
    intro lines
    show ((session.processAll lines).1.map Response.outcome).countP _ = _
    rw [List.countP_map]
    rfl
  have htold : told.OfLines :=
    session.ofLines_playScript hpath fun _ => Script.isLine_of_mem_lines
  have hsaid : said.OfLines :=
    CommandLine.ofLines_spoken session keyboard.lines.1 fun _ => Keyboard.isLine_of_mem_lines
  have hshown := CommandLine.displays_converse console session keyboard.lines.1 hsaid
  refine ⟨⟨htold, console.split_printAll_on htold .error, ?_, console.split_printAll_on htold .output⟩,
    hsaid, CommandLine.split_stderr_converse console session keyboard.lines.1 hsaid, ?_, hshown, ?_⟩
  · rw [hfailures]
    exact session.length_complaints_playScript script
  · rw [hfailures]
    exact CommandLine.length_complaints_spoken session keyboard.lines.1
  · rw [hshown.count_newline, List.length_append, Console.lines, List.length_map]
    rfl

/-- A character that is cut off by a newline and a carriage return within a line: each complaint of
them is one line. -/
theorem broken_character_shown_as_one_line :
    let path := "demo.txt"
    let bytes := "jump\nPLACE 1,2,EAST\r\n".toUTF8.toList ++ [0xE2, 0x82, 0x0A] ++
      "MO\rVE\nREPORT".toUTF8.toList
    let script := Script.ofBytes path bytes
    let start : Simulation := .fresh .standard
    let played := (CommandLine.runScript .text ⟨false⟩ start script).1
    '\n' ∉ path.toList ∧
      split '\n' played.stderr.toList = ["Error: Invalid command: jump".toList,
        "Error: Invalid command: \uFFFD".toList, "Error: Invalid command: MO\rVE".toList, []] ∧
      ((start.play script).2.log.sentTo .error).length = 3 := by
  intro path bytes script start played
  have hpath : '\n' ∉ path.toList := by decide
  obtain ⟨⟨_, herror, hfailures, _⟩, _⟩ :=
    input_cannot_forge_lines (.fresh .standard) ⟨false⟩ bytes false hpath
  refine ⟨hpath, herror.trans ?_, hfailures.trans ?_⟩
  · decide +kernel
  · decide +kernel

end ToyRobot
