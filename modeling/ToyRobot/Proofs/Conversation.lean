import ToyRobot.Proofs.Accounting
import ToyRobot.Proofs.Pieces
import ToyRobot.Proofs.Piped

/-!
# Conversations come to an end

A conversation goes in turns: the user is asked for a line, and what comes is a line, which is
answered, or the end. `Conversation.Runs` says how it goes, turn after turn, and promises no end by
itself. There is one because a turn with a line takes bytes off the keyboard and a turn without one
is the last: so every conversation runs in exactly one way (`Conversation.runs_iff`), which is what
`Simulation.converse` gives.

What keeps the end an end is the keyboard: the request that gets no line finishes it
(`Keyboard.finished_of_next_none`), and a finished keyboard is never read again.
-/

namespace ToyRobot

open Text

/-! ## Requests for lines -/

namespace Keyboard

variable {k last : Keyboard}

/-- What comes of a number of requests for a line, one after another. -/
def reads (k : Keyboard) : Nat → List (Option String)
  | 0 => []
  | n + 1 => k.next.1 :: k.next.2.reads n

/-- A finished keyboard stays as it is. -/
theorem next_of_finished (h : k.finished = true) : k.next = (none, k) := by
  rw [next, if_pos h]

/-- A piece that is not delivered is the last. -/
theorem finished_of_deliver_none {bytes rest : List UInt8}
    (h : k.deliver bytes rest = (none, last)) : last.finished = true := by
  simp only [deliver] at h
  split at h
  · cases h
    rfl
  · cases h

/-- A request that gets no line finishes the keyboard. -/
theorem finished_of_next_none (h : k.next = (none, last)) : last.finished = true := by
  simp only [next] at h
  split at h
  · -- a finished keyboard is handed back as it is
    rename_i hfinished
    cases h
    exact hfinished
  · -- otherwise a piece is ended by a newline, or by the end of the stream
    split at h
    · exact finished_of_deliver_none h
    · split at h
      · cases h
        rfl
      · exact finished_of_deliver_none h

/-- A finished keyboard has no lines. -/
theorem lines_of_finished (h : k.finished = true) : k.lines = ([], k) :=
  lines_of_next_none (next_of_finished h)

/-- When all lines have been handed out, the keyboard is finished. -/
theorem finished_lines (k : Keyboard) : k.lines.2.finished = true := by
  induction k using lines.induct with
  | case1 k last hnext =>
    rw [lines_of_next_none hnext]
    exact finished_of_next_none hnext
  | case2 k line rest hnext ih =>
    rw [lines_of_next_some hnext]
    exact ih

/-- Requests get the lines of the keyboard, one each, and nothing after them. -/
theorem reads_eq (k : Keyboard) (n : Nat) :
    k.reads n = (k.lines.1.take n).map some ++ List.replicate (n - k.lines.1.length) none := by
  induction n generalizing k with
  | zero => simp [reads]
  | succ n ih =>
    rw [reads, ih]
    rcases hnext : k.next with ⟨_ | line, rest⟩
    · -- no line now, and none later
      have hrest : rest.lines = ([], rest) := lines_of_finished (finished_of_next_none hnext)
      rw [lines_of_next_none hnext, hrest]
      simp [List.replicate_succ]
    · rw [lines_of_next_some hnext]
      simp

/-- A blank line is handed out, and after the farewell nothing is. -/
example : (ofBytes "MOVE\n\n exit \nLEFT".toUTF8.toList false).reads 4 =
    [some "MOVE", some "", none, none] := by
  decide +kernel

end Keyboard

/-! ## Turn after turn -/

namespace Conversation

/-- How a conversation runs to its end: the lines that are answered, and what it leaves behind. In
each turn the user is asked once. -/
inductive Runs : Conversation → List String → Conversation → Prop where
  | ends {c : Conversation} {keyboard : Keyboard} : c.keyboard.next = (none, keyboard) →
      Runs c [] ⟨c.prompts + 1, keyboard, c.simulation⟩
  | answered {c last : Conversation} {keyboard : Keyboard} {line : String} {later : List String} :
      c.keyboard.next = (some line, keyboard) →
      Runs ⟨c.prompts + 1, keyboard, (c.simulation.handle line).2⟩ later last →
      Runs c (line :: later) last

/-- What a conversation leaves behind when it has answered all the lines of its keyboard. -/
def outcome (c : Conversation) : Conversation where
  prompts := c.prompts + c.keyboard.lines.1.length + 1
  keyboard := c.keyboard.lines.2
  simulation := (c.simulation.callAll (c.keyboard.lines.1.map .line)).2

/-- The turn without a line asks once more and leaves the simulation alone. -/
theorem outcome_of_next_none {c : Conversation} {last : Keyboard}
    (hnext : c.keyboard.next = (none, last)) : c.outcome = ⟨c.prompts + 1, last, c.simulation⟩ := by
  rw [outcome, Keyboard.lines_of_next_none hnext]
  rfl

/-- A turn with a line leaves the rest to the turns after it. -/
theorem outcome_of_next_some {c : Conversation} {rest : Keyboard} {line : String}
    (hnext : c.keyboard.next = (some line, rest)) :
    c.outcome = outcome ⟨c.prompts + 1, rest, (c.simulation.handle line).2⟩ := by
  have hprompts : c.prompts + (rest.lines.1.length + 1) + 1 =
      c.prompts + 1 + rest.lines.1.length + 1 := by omega
  rw [outcome, Keyboard.lines_of_next_some hnext, List.length_cons, List.map_cons,
    Simulation.callAll, Simulation.call, hprompts, outcome]

/-- Every conversation runs to an end: all the lines of its keyboard are answered. -/
theorem runs_lines (c : Conversation) : c.Runs c.keyboard.lines.1 c.outcome := by
  -- the keyboard has fewer bytes to be read after every turn with a line
  induction hkeyboard : c.keyboard using Keyboard.lines.induct generalizing c with
  | case1 k last hnext =>
    subst hkeyboard
    rw [Keyboard.lines_of_next_none hnext, outcome_of_next_none hnext]
    exact .ends hnext
  | case2 k line rest hnext ih =>
    subst hkeyboard
    rw [Keyboard.lines_of_next_some hnext, outcome_of_next_some hnext]
    exact .answered hnext (ih _ rfl)

/-- There is only one way in which a conversation can run. -/
theorem Runs.unique {c last last' : Conversation} {lines lines' : List String}
    (h : c.Runs lines last) (h' : c.Runs lines' last') : lines' = lines ∧ last' = last := by
  induction h generalizing lines' last' with
  | ends hnext =>
    cases h' with
    | ends hnext' =>
      rw [hnext] at hnext'
      cases hnext'
      exact ⟨rfl, rfl⟩
    | answered hnext' _ =>
      rw [hnext] at hnext'
      cases hnext'
  | answered hnext _ ih =>
    cases h' with
    | ends hnext' =>
      rw [hnext] at hnext'
      cases hnext'
    | answered hnext' hlater' =>
      rw [hnext] at hnext'
      cases hnext'
      -- the same line was answered, so the turns after it are of one conversation
      obtain ⟨hlines, hlast⟩ := ih hlater'
      exact ⟨congrArg _ hlines, hlast⟩

/-- A conversation runs in the one way in which all its lines are answered. -/
theorem runs_iff {c last : Conversation} {lines : List String} :
    c.Runs lines last ↔ lines = c.keyboard.lines.1 ∧ last = c.outcome := by
  constructor
  · intro h
    exact c.runs_lines.unique h
  · rintro ⟨rfl, rfl⟩
    exact c.runs_lines

end Conversation

/-! ## Sessions in conversation -/

/-- To handle lines one after another is to converse over them. -/
theorem Simulation.callAll_lines (sim : Simulation) (lines : List String) :
    (sim.callAll (lines.map .line)).2 =
      ⟨(sim.session.converse lines).2, sim.log ++ (sim.session.converse lines).1.flatten⟩ := by
  induction lines generalizing sim with
  | nil => simp [callAll, Session.converse]
  | cons line rest ih =>
    have hcall : (sim.call (.line line)).2 =
        ⟨(sim.session.handle line).session, sim.log ++ (sim.session.handle line).notices⟩ := by
      rw [call, handle_eq]
    rw [List.map_cons, callAll, hcall, ih, Session.converse_cons, List.flatten_cons,
      List.append_assoc]

/-- After the banner, what a conversation leaves behind is what its turns do. -/
theorem Simulation.converse_eq_outcome (sim : Simulation) (k : Keyboard) :
    sim.converse k = Conversation.outcome ⟨0, k, sim.greet⟩ := by
  rw [Conversation.outcome, callAll_lines, Nat.zero_add]
  rfl

/-- Conversations end, and answer exactly the right lines. Let any bytes be typed, after which the
stream ends or breaks, and cut them at newlines; the last piece does not count if it is empty or if
the stream breaks. The pieces, decoded and trimmed, blank ones included, up to the first farewell,
are the lines that a conversation in any simulation answers, in order; it runs in this one way, and
then it is over and the keyboard finished. The user is asked once for each line and once more.
Requests to the keyboard get these lines, one each, and from then on nothing, however often they are
made. -/
theorem conversation_ends_after_its_lines (bytes : List UInt8) (broken : Bool)
    (start : Simulation) :
    let keyboard := Keyboard.ofBytes bytes broken
    let pieces := split newline bytes
    let counted :=
      if broken = true ∨ pieces.getLast? = some [] then pieces.dropLast else pieces
    let spelled := counted.map fun piece => String.ofList (trim (Utf8.decode piece))
    let lines := spelled.takeWhile fun line => !isFarewell line
    let last := start.converse keyboard
    (∀ answered final, Conversation.Runs ⟨0, keyboard, start.greet⟩ answered final ↔
      answered = lines ∧ final = last) ∧
    last.keyboard.finished = true ∧
    last.prompts = lines.length + 1 ∧
    last.simulation = (start.greet.callAll (lines.map .line)).2 ∧
    (∀ n, keyboard.reads n =
      (lines.take n).map some ++ List.replicate (n - lines.length) none) ∧
    ∀ n, last.keyboard.reads n = List.replicate n none := by
  intro keyboard pieces counted spelled lines last
  have hlines : keyboard.lines.1 = lines := Keyboard.lines_eq_takeWhile_pieces rfl
  have hlast : last = Conversation.outcome ⟨0, keyboard, start.greet⟩ :=
    start.converse_eq_outcome keyboard
  have hfinished : last.keyboard.finished = true := keyboard.finished_lines
  refine ⟨?_, hfinished, ?_, ?_, ?_, ?_⟩
  · intro answered final
    rw [Conversation.runs_iff, hlast, ← hlines]
  · rw [← hlines]
    rfl
  · rw [hlast, ← hlines]
    rfl
  · intro n
    rw [Keyboard.reads_eq, hlines]
  · intro n
    rw [Keyboard.reads_eq, Keyboard.lines_of_finished hfinished]
    simp

end ToyRobot
