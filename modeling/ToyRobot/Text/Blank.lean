/-!
# Blank characters

The characters that count as white space around a line, and the text that is left when they are
taken off its two ends. The class is the Unicode property `White_Space`: controls such as U+001F
and marks such as U+200B or U+FEFF are not in it.
-/

namespace ToyRobot.Text

/-- Whether a character has the Unicode property `White_Space`. -/
def isBlank (c : Char) : Bool :=
  let n := c.toNat
  (0x09 ≤ n && n ≤ 0x0D) || n == 0x20 || n == 0x85 || n == 0xA0 || n == 0x1680 ||
    (0x2000 ≤ n && n ≤ 0x200A) || n == 0x2028 || n == 0x2029 || n == 0x202F || n == 0x205F ||
    n == 0x3000

def trimStart (text : List Char) : List Char :=
  text.dropWhile isBlank

def trimEnd (text : List Char) : List Char :=
  (text.reverse.dropWhile isBlank).reverse

/-- A text without the blanks at either end. -/
def trim (text : List Char) : List Char :=
  trimEnd (trimStart text)

theorem trimStart_append {blanks : List Char} (h : ∀ c ∈ blanks, isBlank c) (text : List Char) :
    trimStart (blanks ++ text) = trimStart text := by
  rw [trimStart, List.dropWhile_append_of_pos h]
  rfl

theorem trimEnd_append {blanks : List Char} (h : ∀ c ∈ blanks, isBlank c) (text : List Char) :
    trimEnd (text ++ blanks) = trimEnd text := by
  rw [trimEnd, List.reverse_append, List.dropWhile_append_of_pos (by simpa using h)]
  rfl

theorem trimStart_eq_self {text : List Char} (h : ∀ c ∈ text.head?, isBlank c = false) :
    trimStart text = text := by
  cases text with
  | nil => rfl
  | cons c rest => exact List.dropWhile_cons_of_neg (by simpa using h c rfl)

theorem trimEnd_eq_self {text : List Char} (h : ∀ c ∈ text.getLast?, isBlank c = false) :
    trimEnd text = text := by
  rw [← List.head?_reverse] at h
  have hreverse : text.reverse.dropWhile isBlank = text.reverse := trimStart_eq_self h
  rw [trimEnd, hreverse, List.reverse_reverse]

/-- A text without blanks at its ends is left as it is. -/
theorem trim_eq_self {text : List Char} (hfirst : ∀ c ∈ text.head?, isBlank c = false)
    (hlast : ∀ c ∈ text.getLast?, isBlank c = false) : trim text = text := by
  rw [trim, trimStart_eq_self hfirst, trimEnd_eq_self hlast]

/-- Blanks in front of a text are taken off with its own. -/
theorem trim_blanks_append {blanks : List Char} (h : ∀ c ∈ blanks, isBlank c) (text : List Char) :
    trim (blanks ++ text) = trim text := by
  rw [trim, trim, trimStart_append h]

/-- Blanks behind a text are taken off with its own. -/
theorem trim_append_blanks {blanks : List Char} (h : ∀ c ∈ blanks, isBlank c) (text : List Char) :
    trim (text ++ blanks) = trim text := by
  rw [trim, trim, trimStart, List.dropWhile_append]
  split
  · -- the text is nothing but blanks itself
    rename_i hempty
    have htext : trimStart text = [] := List.isEmpty_iff.mp hempty
    have hblanks : blanks.dropWhile isBlank = [] := by
      have hall := trimStart_append h []
      rw [List.append_nil] at hall
      exact hall
    rw [htext, hblanks]
  · exact trimEnd_append h (trimStart text)

/-- What is taken off the start of a text are blanks. -/
theorem exists_blanks_append_trimStart (text : List Char) :
    ∃ blanks, (∀ c ∈ blanks, isBlank c) ∧ text = blanks ++ trimStart text := by
  refine ⟨text.takeWhile isBlank, ?_, List.takeWhile_append_dropWhile.symm⟩
  exact List.all_eq_true.mp List.all_takeWhile

/-- What is taken off the end of a text are blanks. -/
theorem exists_trimEnd_append_blanks (text : List Char) :
    ∃ blanks, (∀ c ∈ blanks, isBlank c) ∧ text = trimEnd text ++ blanks := by
  obtain ⟨blanks, hblanks, hreverse⟩ := exists_blanks_append_trimStart text.reverse
  refine ⟨blanks.reverse, by simpa using hblanks, ?_⟩
  rw [List.reverse_eq_iff, List.reverse_append] at hreverse
  exact hreverse

/-- What is taken off a text are blanks at its two ends. -/
theorem exists_blanks_trim_blanks (text : List Char) :
    ∃ before after, (∀ c ∈ before, isBlank c) ∧ (∀ c ∈ after, isBlank c) ∧
      text = before ++ trim text ++ after := by
  obtain ⟨before, hbefore, hstart⟩ := exists_blanks_append_trimStart text
  obtain ⟨after, hafter, hend⟩ := exists_trimEnd_append_blanks (trimStart text)
  refine ⟨before, after, hbefore, hafter, ?_⟩
  rw [trim, List.append_assoc, ← hend]
  exact hstart

theorem mem_of_mem_trim {text : List Char} {c : Char} (h : c ∈ trim text) : c ∈ text := by
  obtain ⟨before, after, _, _, htext⟩ := exists_blanks_trim_blanks text
  rw [htext]
  simp [h]

theorem isBlank_head?_trimStart (text : List Char) :
    ∀ c ∈ (trimStart text).head?, isBlank c = false := by
  intro c hc
  have hfirst := List.head?_dropWhile_not isBlank text
  rw [show (text.dropWhile isBlank).head? = some c from hc] at hfirst
  exact hfirst

theorem isBlank_getLast?_trimEnd (text : List Char) :
    ∀ c ∈ (trimEnd text).getLast?, isBlank c = false := by
  intro c hc
  rw [trimEnd, List.getLast?_reverse] at hc
  exact isBlank_head?_trimStart text.reverse c hc

/-- No blank is left at the start of a text. -/
theorem isBlank_head?_trim (text : List Char) : ∀ c ∈ (trim text).head?, isBlank c = false := by
  intro c hc
  obtain ⟨after, _, hend⟩ := exists_trimEnd_append_blanks (trimStart text)
  apply isBlank_head?_trimStart text c
  rw [hend, List.head?_append, show (trimEnd (trimStart text)).head? = some c from hc]
  rfl

/-- No blank is left at the end of a text. -/
theorem isBlank_getLast?_trim (text : List Char) :
    ∀ c ∈ (trim text).getLast?, isBlank c = false :=
  isBlank_getLast?_trimEnd (trimStart text)

theorem trim_trim (text : List Char) : trim (trim text) = trim text :=
  trim_eq_self (isBlank_head?_trim text) (isBlank_getLast?_trim text)

end ToyRobot.Text
