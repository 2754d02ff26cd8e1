import ToyRobot.Text.Blank
import ToyRobot.Text.UpperCase
import ToyRobot.Text.Utf8

/-!
# Lines from a keyboard

A keyboard is a stream of bytes from which lines are taken one at a time. A conversation over it is
finished at the end of the stream, where the stream breaks, or when the user asks for it, and then
no line is handed out any more. Blank lines are handed out like any other.
-/

namespace ToyRobot

open Text

/-- The words with which a user ends a conversation. -/
def farewells : List String := ["EXIT", "QUIT"]

/-- Whether a line asks for the end: one of the words, in any case, with blanks around it or not. -/
def isFarewell (line : String) : Bool :=
  farewells.any fun word => word.toList == asciiUpperCase (trim line.toList)

def newline : UInt8 := 0x0A

/-- A stream of typed bytes. -/
structure Keyboard where
  /-- The bytes that have not been read. -/
  unread : List UInt8
  /-- Whether the stream fails, and does not merely end, after those bytes. -/
  broken : Bool
  /-- Whether the conversation is over. -/
  finished : Bool
deriving Repr, DecidableEq

namespace Keyboard

/-- A keyboard on which nothing has been read yet. -/
def ofBytes (bytes : List UInt8) (broken : Bool) : Keyboard := ⟨bytes, broken, false⟩

/-- The line that bytes spell: decoded, without the blanks at its ends. -/
def lineOfBytes (bytes : List UInt8) : String :=
  String.ofList (trim (Utf8.decode bytes))

/-- The conversation is over, with some bytes left unread. -/
def close (k : Keyboard) (unread : List UInt8) : Keyboard := { k with unread, finished := true }

/-- Hands out the line that some bytes spell, unless it is a farewell. -/
def deliver (k : Keyboard) (bytes rest : List UInt8) : Option String × Keyboard :=
  let line := lineOfBytes bytes
  if isFarewell line then (none, k.close rest) else (some line, { k with unread := rest })

/-- The next line. A last line that no newline ends counts if the stream ends, and is lost if the
stream breaks. -/
def next (k : Keyboard) : Option String × Keyboard :=
  if k.finished then
    (none, k)
  else
    match k.unread.dropWhile (· ≠ newline) with
    | _ :: rest => k.deliver (k.unread.takeWhile (· ≠ newline)) rest
    | [] => if k.unread = [] ∨ k.broken then (none, k.close []) else k.deliver k.unread []

/-- A line that is handed out leaves the bytes after it. -/
theorem unread_of_deliver {k k' : Keyboard} {bytes rest : List UInt8} {line : String}
    (h : k.deliver bytes rest = (some line, k')) : k'.unread = rest := by
  simp only [deliver] at h
  split at h
  · cases h
  · cases h
    rfl

/-- A line that is handed out takes bytes off the stream. -/
theorem unread_length_lt {k k' : Keyboard} {line : String} (h : k.next = (some line, k')) :
    k'.unread.length < k.unread.length := by
  simp only [next] at h
  split at h
  · cases h
  · split at h
    · rename_i b rest hdrop
      have hsuffix : b :: rest <:+ k.unread := hdrop ▸ List.dropWhile_suffix _
      have hlength := hsuffix.length_le
      rw [unread_of_deliver h]
      exact hlength
    · split at h
      · cases h
      · rename_i hunread
        rw [unread_of_deliver h]
        exact List.length_pos_iff.mpr fun hnil => hunread (.inl hnil)

/-- All lines that are still to come, and the keyboard after them. -/
def lines (k : Keyboard) : List String × Keyboard :=
  match _ : k.next with
  | (none, last) => ([], last)
  | (some line, rest) =>
    let later := rest.lines
    (line :: later.1, later.2)
termination_by k.unread.length
decreasing_by exact unread_length_lt ‹_›

end Keyboard

end ToyRobot
