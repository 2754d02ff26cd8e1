import ToyRobot.Folder
import ToyRobot.Text.Blank
import ToyRobot.Text.Split
import ToyRobot.Text.Utf8

/-!
# Scripts

A script is a file of commands, loaded as a whole: its lines without the blanks at their ends, and
without the lines that hold nothing else. A cursor counts the lines that have been handed out.
-/

namespace ToyRobot

open Text

/-- The lines of a file and how many of them have been handed out. -/
structure Script where
  /-- The path under which the file was asked for. -/
  path : String
  lines : List String
  cursor : Nat
deriving Repr, DecidableEq

namespace Script

structure Unreadable where
  path : String
  cause : ReadFailure
deriving Repr, DecidableEq

def Unreadable.message (e : Unreadable) : String :=
  "Failed to read file " ++ e.path ++ ": " ++ e.cause.message

/-- The lines of a text that hold more than blanks, without the blanks at their ends. -/
def linesOf (text : List Char) : List (List Char) :=
  ((split '\n' text).map trim).filter fun line => !line.isEmpty

def ofText (path : String) (text : List Char) : Script :=
  ⟨path, (linesOf text).map String.ofList, 0⟩

def ofBytes (path : String) (bytes : List UInt8) : Script :=
  ofText path (Utf8.decode bytes)

/-- The script that comes of an attempt to read a file. -/
def ofRead (path : String) : Except ReadFailure (List UInt8) → Except Unreadable Script
  | .ok bytes => .ok (ofBytes path bytes)
  | .error cause => .error ⟨path, cause⟩

def total (s : Script) : Nat := s.lines.length

def hasMore (s : Script) : Bool := s.cursor < s.total

/-- The lines that have not been handed out. -/
def unread (s : Script) : List String := s.lines.drop s.cursor

/-- Hands out the next line. -/
def next (s : Script) : Option String × Script :=
  match s.lines[s.cursor]? with
  | some line => (some line, { s with cursor := s.cursor + 1 })
  | none => (none, s)

/-- Hands out all the lines that are left. -/
def remaining (s : Script) : List String × Script :=
  (s.unread, { s with cursor := s.total })

/-- Starts again at the first line. -/
def rewind (s : Script) : Script := { s with cursor := 0 }

/-- A line that is handed out moves the cursor towards the end. -/
theorem unread_length_lt {s s' : Script} {line : String} (h : s.next = (some line, s')) :
    s'.unread.length < s.unread.length := by
  simp only [next] at h
  split at h
  · rename_i text htext
    cases h
    have hcursor : s.cursor < s.lines.length := (List.getElem?_eq_some_iff.mp htext).1
    simp only [unread, List.length_drop]
    omega
  · cases h

/-- All lines that are still to come, taken one at a time, and the script after them. -/
def drain (s : Script) : List String × Script :=
  match _ : s.next with
  | (none, last) => ([], last)
  | (some line, rest) =>
    let later := rest.drain
    (line :: later.1, later.2)
termination_by s.unread.length
decreasing_by exact unread_length_lt ‹_›

theorem next_of_unread_nil {s : Script} (h : s.unread = []) : s.next = (none, s) := by
  have hlength : s.lines.length ≤ s.cursor := List.drop_eq_nil_iff.mp h
  simp [next, List.getElem?_eq_none hlength]

theorem next_of_unread_cons {s : Script} {line : String} {rest : List String}
    (h : s.unread = line :: rest) : s.next = (some line, { s with cursor := s.cursor + 1 }) := by
  have hline : s.lines[s.cursor]? = some line := by
    rw [← List.head?_drop, ← unread, h, List.head?_cons]
  simp [next, hline]

/-- Taking lines one at a time gives all the unread ones and leaves the cursor at the end. -/
theorem drain_eq (s : Script) :
    s.drain = (s.unread, { s with cursor := max s.cursor s.total }) := by
  generalize hunread : s.unread = lines
  induction lines generalizing s with
  | nil =>
    have hend : s.total ≤ s.cursor := List.drop_eq_nil_iff.mp hunread
    rw [drain, next_of_unread_nil hunread, Nat.max_eq_left hend]
  | cons line rest ih =>
    -- past the first unread line the others are left
    have hrest : unread { s with cursor := s.cursor + 1 } = rest := by
      rw [unread, ← List.tail_drop, ← unread, hunread, List.tail_cons]
    have hcursor : s.cursor < s.total := by
      have hlength := congrArg List.length hunread
      rw [unread, List.length_drop, List.length_cons] at hlength
      unfold total
      omega
    have hmax : max (s.cursor + 1) s.total = max s.cursor s.total := by omega
    rw [drain, next_of_unread_cons hunread]
    simp only [ih _ hrest, total] at hmax ⊢
    rw [hmax]

end Script

end ToyRobot
