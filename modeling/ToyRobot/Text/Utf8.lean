/-!
# Reading UTF-8 that may be damaged

Bytes become text without ever failing. Well-formed sequences give their character; a sequence
that breaks off gives one replacement character for all the bytes that still fitted, and a byte
that can start nothing gives one of its own. The decoder is a machine that takes one byte at a
time and remembers only the sequence it is in the middle of.
-/

namespace ToyRobot.Text.Utf8

/-- U+FFFD, which stands for bytes that are no character. -/
def replacement : Char :=
  '\uFFFD'

/-- A character whose first bytes have been read and whose next byte must lie between two bounds. -/
structure Unfinished where
  /-- How many more bytes the character takes after the next one. -/
  more : Nat
  /-- The least value that the next byte may have. -/
  low : UInt8
  /-- The greatest value that the next byte may have. -/
  high : UInt8
  /-- The bits of the code point so far. -/
  bits : Nat
  /-- No ASCII byte continues a character. -/
  ascii_lt : 0x7F < low
deriving Repr, DecidableEq

/-- What one byte makes of the sequence before it: the characters that are now known, and the
character that is still unfinished. -/
abbrev Step := List Char × Option Unfinished

/-- The first byte of a character. The bounds on the second byte keep out overlong forms,
surrogates and code points above U+10FFFF. -/
def start (b : UInt8) : Step :=
  let n := b.toNat
  if b ≤ 0x7F then ([Char.ofNat n], none)
  else if b < 0xC2 then ([replacement], none)
  else if b ≤ 0xDF then ([], some ⟨0, 0x80, 0xBF, n - 0xC0, by decide⟩)
  else if b = 0xE0 then ([], some ⟨1, 0xA0, 0xBF, n - 0xE0, by decide⟩)
  else if b = 0xED then ([], some ⟨1, 0x80, 0x9F, n - 0xE0, by decide⟩)
  else if b ≤ 0xEF then ([], some ⟨1, 0x80, 0xBF, n - 0xE0, by decide⟩)
  else if b = 0xF0 then ([], some ⟨2, 0x90, 0xBF, n - 0xF0, by decide⟩)
  else if b ≤ 0xF3 then ([], some ⟨2, 0x80, 0xBF, n - 0xF0, by decide⟩)
  else if b = 0xF4 then ([], some ⟨2, 0x80, 0x8F, n - 0xF0, by decide⟩)
  else ([replacement], none)

/-- One byte more. A byte outside the bounds ends the unfinished character as a replacement and is
then read as a first byte. -/
def step : Option Unfinished → UInt8 → Step
  | none, b => start b
  | some u, b =>
    if u.low ≤ b && b ≤ u.high then
      let bits := u.bits * 64 + (b.toNat - 0x80)
      match u.more with
      | 0 => ([Char.ofNat bits], none)
      | more + 1 => ([], some ⟨more, 0x80, 0xBF, bits, by decide⟩)
    else
      let next := start b
      (replacement :: next.1, next.2)

/-- The text of bytes that continue an unfinished character. At the end of the bytes a character
that is still unfinished is a replacement. -/
def decodeFrom : Option Unfinished → List UInt8 → List Char
  | none, [] => []
  | some _, [] => [replacement]
  | state, b :: rest =>
    let next := step state b
    next.1 ++ decodeFrom next.2 rest

def decode (bytes : List UInt8) : List Char :=
  decodeFrom none bytes

/-! ## Lines -/

theorem start_newline : start 0x0A = (['\n'], none) := by decide

theorem step_newline (u : Unfinished) : step (some u) 0x0A = ([replacement, '\n'], none) := by
  -- a newline is an ASCII byte, and those are below the bounds of every next byte
  have h : ¬ u.low ≤ 0x0A := by
    have := u.ascii_lt
    simp only [UInt8.lt_iff_toNat_lt, UInt8.le_iff_toNat_le] at this ⊢
    exact fun hle => absurd (Nat.lt_of_lt_of_le this hle) (by decide)
  simp [step, h, start_newline]

/-- A newline byte is a newline wherever it stands, and what comes after it is read afresh: it makes
no difference whether text is cut into lines before or after it is decoded. -/
theorem decodeFrom_append_newline (state : Option Unfinished) (a b : List UInt8) :
    decodeFrom state (a ++ 0x0A :: b) = decodeFrom state a ++ '\n' :: decode b := by
  induction a generalizing state with
  | nil =>
    cases state with
    | none => simp [decodeFrom, step, start_newline, decode]
    | some u => simp [decodeFrom, step_newline, decode]
  | cons x a ih => simp [decodeFrom, ih]

theorem decode_append_newline (a b : List UInt8) :
    decode (a ++ 0x0A :: b) = decode a ++ '\n' :: decode b :=
  decodeFrom_append_newline none a b

end ToyRobot.Text.Utf8
