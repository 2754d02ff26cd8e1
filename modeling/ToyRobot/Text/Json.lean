/-!
# JSON text of flat records

A record is written as one JSON object on one line: its fields in order, without spaces. Values
are flags, texts and lists of texts; nothing is nested deeper. In a text only the quote, the
backslash and the characters below U+0020 are escaped, and every other character stands for itself.
So whatever the texts hold, no character below U+0020 is written (`Record.printable_write`).
-/

namespace ToyRobot.Text.Json

/-- What a field of a record may hold. -/
inductive Value where
  | flag (value : Bool)
  | text (value : String)
  | texts (values : List String)
deriving Repr, DecidableEq

/-- A record: named fields in the order in which they are written. -/
abbrev Record := List (String × Value)

/-- The hexadecimal digit for a number below sixteen, in lower case. -/
def hexDigit (n : Nat) : Char :=
  Char.ofNat (if n < 10 then 48 + n else 87 + n)

/-- A character as it stands between quotes. -/
def escape (c : Char) : List Char :=
  match c.toNat with
  | 0x22 => ['\\', '\x22']
  | 0x5C => ['\\', '\\']
  | 0x08 => ['\\', 'b']
  | 0x09 => ['\\', 't']
  | 0x0A => ['\\', 'n']
  | 0x0C => ['\\', 'f']
  | 0x0D => ['\\', 'r']
  | n => if n < 0x20 then ['\\', 'u', '0', '0', hexDigit (n / 16), hexDigit (n % 16)] else [c]

/-- A text between quotes. -/
def quote (text : String) : List Char :=
  '\x22' :: text.toList.flatMap escape ++ ['\x22']

def commaList : List (List Char) → List Char
  | [] => []
  | [item] => item
  | item :: items => item ++ ',' :: commaList items

def Value.write : Value → List Char
  | .flag true => ['t', 'r', 'u', 'e']
  | .flag false => ['f', 'a', 'l', 's', 'e']
  | .text value => quote value
  | .texts values => '[' :: commaList (values.map quote) ++ [']']

def writeField (field : String × Value) : List Char :=
  quote field.1 ++ ':' :: field.2.write

def Record.write (record : Record) : String :=
  String.ofList ('\x7b' :: commaList (record.map writeField) ++ ['\x7d'])

/-! ## What is never written -/

/-- A text without characters below U+0020. -/
def Printable (text : List Char) : Prop :=
  ∀ c ∈ text, 0x20 ≤ c.toNat

theorem printable_cons {c : Char} {text : List Char} :
    Printable (c :: text) ↔ 0x20 ≤ c.toNat ∧ Printable text :=
  List.forall_mem_cons

theorem printable_append {a b : List Char} : Printable (a ++ b) ↔ Printable a ∧ Printable b :=
  List.forall_mem_append

theorem le_toNat_hexDigit {n : Nat} (h : n < 16) : 0x20 ≤ (hexDigit n).toNat := by
  have all : ∀ m ∈ List.range 16, 0x20 ≤ (hexDigit m).toNat := by decide
  exact all n (List.mem_range.mpr h)

theorem printable_escape (c : Char) : Printable (escape c) := by
  unfold escape
  split
  case h_8 =>
    split
    · rename_i hcontrol
      have hhigh := le_toNat_hexDigit (show c.toNat / 16 < 16 by omega)
      have hlow := le_toNat_hexDigit (show c.toNat % 16 < 16 by omega)
      simp [Printable, hhigh, hlow]
    · rename_i hplain
      simpa [Printable] using Nat.le_of_not_lt hplain
  all_goals simp [Printable]

theorem printable_quote (text : String) : Printable (quote text) := by
  have hescaped : Printable (text.toList.flatMap escape) := by
    intro c hc
    rcases List.mem_flatMap.mp hc with ⟨d, _, hd⟩
    exact printable_escape d c hd
  rw [quote, List.cons_append, printable_cons, printable_append]
  exact ⟨by decide, hescaped, by simp [Printable]⟩

theorem printable_commaList {items : List (List Char)} (h : ∀ item ∈ items, Printable item) :
    Printable (commaList items) := by
  induction items with
  | nil => simp [commaList, Printable]
  | cons first others ih =>
    rw [List.forall_mem_cons] at h
    cases others with
    | nil => exact h.1
    | cons second others =>
      rw [commaList, printable_append, printable_cons]
      · exact ⟨h.1, by decide, ih h.2⟩
      · simp

theorem Value.printable_write (value : Value) : Printable value.write := by
  cases value with
  | flag b => cases b <;> simp [write, Printable]
  | text s => exact printable_quote s
  | texts items =>
    have hitems : Printable (commaList (items.map quote)) := by
      apply printable_commaList
      intro item hitem
      rcases List.mem_map.mp hitem with ⟨s, _, rfl⟩
      exact printable_quote s
    rw [write, List.cons_append, printable_cons, printable_append]
    exact ⟨by decide, hitems, by simp [Printable]⟩

theorem printable_writeField (field : String × Value) : Printable (writeField field) := by
  rw [writeField, printable_append, printable_cons]
  exact ⟨printable_quote field.1, by decide, field.2.printable_write⟩

/-- No character below U+0020 is written, whatever the texts of a record hold. -/
theorem Record.printable_write (record : Record) : Printable record.write.toList := by
  have hfields : Printable (commaList (record.map writeField)) := by
    apply printable_commaList
    intro item hitem
    rcases List.mem_map.mp hitem with ⟨field, _, rfl⟩
    exact printable_writeField field
  rw [write, String.toList_ofList, List.cons_append, printable_cons, printable_append]
  exact ⟨by decide, hfields, by simp [Printable]⟩

end ToyRobot.Text.Json
