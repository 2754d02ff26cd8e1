import ToyRobot.Text.Json

/-!
# Reading JSON text of flat records

The reader takes any JSON text of a flat record, and not only what the writer makes of one: blanks
may stand between the parts, a character may be escaped in any of the ways that there are, and the
fields may come in any order. Each stage takes its part off the front of a text and gives it with
what is left. Main statements: what was written is read back, at each stage with anything behind it
(`quoted?_quote`, `list?_commaList`, `value?_write`, `field?_writeField`) and in the end as a whole
(`Record.read?_write`).
-/

namespace ToyRobot.Text.Json

/-! ## Texts -/

/-- What a hexadecimal digit is worth, in either case. -/
def hexValue? (c : Char) : Option Nat :=
  if 48 ≤ c.toNat ∧ c.toNat ≤ 57 then some (c.toNat - 48)
  else if 97 ≤ c.toNat ∧ c.toNat ≤ 102 then some (c.toNat - 87)
  else if 65 ≤ c.toNat ∧ c.toNat ≤ 70 then some (c.toNat - 55)
  else none

/-- The code unit that four hexadecimal digits spell. -/
def unit? (a b c d : Char) : Option Nat :=
  match hexValue? a, hexValue? b, hexValue? c, hexValue? d with
  | some a, some b, some c, some d => some (((a * 16 + b) * 16 + c) * 16 + d)
  | _, _, _, _ => none

/-- The character that is meant by one behind a backslash. -/
def unescape? : Char → Option Char
  | '\x22' => some '\x22'
  | '\\' => some '\\'
  | '/' => some '/'
  | 'b' => some '\x08'
  | 'f' => some '\x0c'
  | 'n' => some '\n'
  | 'r' => some '\r'
  | 't' => some '\t'
  | _ => none

def prepend (unit : Nat) (read : Option (List Nat × List Char)) : Option (List Nat × List Char) :=
  read.map fun r => (unit :: r.1, r.2)

/-- The code units of a text up to the quote that closes it. A character that stands for itself is
one unit, whatever its code point, and is none of those below U+0020. -/
def units? : List Char → Option (List Nat × List Char)
  | [] => none
  | '\x22' :: rest => some ([], rest)
  | '\\' :: 'u' :: a :: b :: c :: d :: rest => (unit? a b c d).bind (prepend · (units? rest))
  | '\\' :: c :: rest => (unescape? c).bind fun c => prepend c.toNat (units? rest)
  | c :: rest => if c = '\\' ∨ c.toNat < 0x20 then none else prepend c.toNat (units? rest)

/-- The characters of code units. Two surrogates in order are one character, and any other
surrogate is none. -/
def ofUnits? : List Nat → Option (List Char)
  | [] => some []
  | high :: low :: rest =>
    if 0xD800 ≤ high ∧ high < 0xDC00 ∧ 0xDC00 ≤ low ∧ low < 0xE000 then
      (ofUnits? rest).map (Char.ofNat (0x10000 + (high - 0xD800) * 0x400 + (low - 0xDC00)) :: ·)
    else if 0xD800 ≤ high ∧ high < 0xE000 then none
    else (ofUnits? (low :: rest)).map (Char.ofNat high :: ·)
  | [unit] => if 0xD800 ≤ unit ∧ unit < 0xE000 then none else some [Char.ofNat unit]

def isSpace (c : Char) : Bool := c == ' ' || c == '\t' || c == '\n' || c == '\r'

def skipSpace (text : List Char) : List Char := text.dropWhile isSpace

def quoted? (text : List Char) : Option (String × List Char) :=
  match skipSpace text with
  | '\x22' :: rest =>
    (units? rest).bind fun r => (ofUnits? r.1).map fun text => (String.ofList text, r.2)
  | _ => none

/-! ## Values and records -/

/-- One or more items with commas between them, and the character that closes the list. An item
that takes nothing off the text is none. -/
def items? {α : Type} (item? : List Char → Option (α × List Char)) (close : Char)
    (text : List Char) : Option (List α × List Char) :=
  match item? text with
  | none => none
  | some (item, rest) =>
    match skipSpace rest with
    | [] => none
    | c :: after =>
      if c = close then some ([item], after)
      else if c = ',' ∧ after.length < text.length then
        (items? item? close after).map fun r => (item :: r.1, r.2)
      else none
termination_by text.length

/-- Any number of items, and the character that closes the list. -/
def list? {α : Type} (item? : List Char → Option (α × List Char)) (close : Char)
    (text : List Char) : Option (List α × List Char) :=
  match skipSpace text with
  | [] => none
  | c :: rest => if c = close then some ([], rest) else items? item? close text

def value? (text : List Char) : Option (Value × List Char) :=
  match skipSpace text with
  | 't' :: 'r' :: 'u' :: 'e' :: rest => some (.flag true, rest)
  | 'f' :: 'a' :: 'l' :: 's' :: 'e' :: rest => some (.flag false, rest)
  | '[' :: rest => (list? quoted? ']' rest).map fun r => (.texts r.1, r.2)
  | rest => (quoted? rest).map fun r => (.text r.1, r.2)

/-- A field: its name, a colon, and its value. -/
def field? (text : List Char) : Option ((String × Value) × List Char) :=
  (quoted? text).bind fun name =>
    match skipSpace name.2 with
    | ':' :: rest => (value? rest).map fun value => ((name.1, value.1), value.2)
    | _ => none

/-- The record that a text spells, with nothing but blanks around it. -/
def Record.read? (text : List Char) : Option Record :=
  match skipSpace text with
  | '\x7b' :: rest =>
    (list? field? '\x7d' rest).bind fun r => if skipSpace r.2 = [] then some r.1 else none
  | _ => none

/-! ## Reading back texts -/

theorem hexValue?_hexDigit {n : Nat} (h : n < 16) : hexValue? (hexDigit n) = some n := by
  have all : ∀ m ∈ List.range 16, hexValue? (hexDigit m) = some m := by decide
  exact all n (List.mem_range.mpr h)

/-- A control is found again in the two digits that it is written with. -/
theorem unit?_hexDigit {n : Nat} (h : n < 0x20) :
    unit? '0' '0' (hexDigit (n / 16)) (hexDigit (n % 16)) = some n := by
  have hzero : hexValue? '0' = some 0 := by decide
  have hhigh := hexValue?_hexDigit (show n / 16 < 16 by omega)
  have hlow := hexValue?_hexDigit (show n % 16 < 16 by omega)
  rw [unit?, hzero, hhigh, hlow]
  simp only [Option.some_inj]
  omega

/-- A character that means another behind a backslash is read as that one. -/
theorem units?_escaped {e c : Char} (h : unescape? e = some c) (rest : List Char) :
    units? ('\\' :: e :: rest) = prepend c.toNat (units? rest) := by
  have hunit : e ≠ 'u' := by
    rintro rfl
    simp [unescape?] at h
  rw [units?, h, Option.bind_some]
  rintro a b c d after rfl
  exact absurd rfl hunit

/-- A character that needs no backslash is read as itself. -/
theorem units?_plain {c : Char} (hquote : c ≠ '\x22') (hbackslash : c ≠ '\\')
    (hcontrol : ¬ c.toNat < 0x20) (rest : List Char) :
    units? (c :: rest) = prepend c.toNat (units? rest) := by
  rw [units?, if_neg]
  · simp [hbackslash, hcontrol]
  all_goals simp [hquote, hbackslash]

/-- However a character is written, it is read back. -/
theorem units?_escape (c : Char) (rest : List Char) :
    units? (escape c ++ rest) = prepend c.toNat (units? rest) := by
  unfold escape
  split
  case h_8 hquote hbackslash _ _ _ _ _ =>
    split
    · rename_i hcontrol
      show units? ('\\' :: 'u' :: '0' :: '0' :: _ :: _ :: rest) = _
      rw [units?, unit?_hexDigit hcontrol, Option.bind_some]
    · rename_i hplain
      apply units?_plain _ _ hplain
      · rintro rfl
        exact hquote rfl
      · rintro rfl
        exact hbackslash rfl
  -- the characters that have a letter of their own behind the backslash
  all_goals
    rename_i hc
    rw [hc]
    exact (units?_escaped rfl rest).trans rfl

/-- A text that is written is read back up to its closing quote. -/
theorem units?_flatMap_escape (text rest : List Char) :
    units? (text.flatMap escape ++ '\x22' :: rest) = some (text.map Char.toNat, rest) := by
  induction text with
  | nil => rw [List.flatMap_nil, List.nil_append, units?, List.map_nil]
  | cons c text ih =>
    rw [List.flatMap_cons, List.append_assoc, units?_escape, ih]
    rfl

/-- The code points of characters are not surrogates, so each of them is its own character. -/
theorem ofUnits?_map_toNat (text : List Char) : ofUnits? (text.map Char.toNat) = some text := by
  induction text with
  | nil => rfl
  | cons c text ih =>
    have hsurrogate : ¬ (0xD800 ≤ c.toNat ∧ c.toNat < 0xE000) := by
      have hvalid : c.toNat.isValidChar := c.valid
      rcases hvalid with hlow | hhigh
      · omega
      · omega
    cases text with
    | nil => simp [ofUnits?, hsurrogate]
    | cons d text =>
      -- no two characters are taken for a pair of surrogates
      have hpair : ¬ (0xD800 ≤ c.toNat ∧ c.toNat < 0xDC00 ∧ 0xDC00 ≤ d.toNat ∧ d.toNat < 0xE000) := by
        omega
      rw [List.map_cons, List.map_cons, ofUnits?, if_neg hpair, if_neg hsurrogate, ← List.map_cons,
        ih, Option.map_some, Char.ofNat_toNat]

theorem skipSpace_cons {c : Char} (h : isSpace c = false) (rest : List Char) :
    skipSpace (c :: rest) = c :: rest :=
  List.dropWhile_cons_of_neg (by simp [h])

theorem skipSpace_quote (text : String) (rest : List Char) :
    skipSpace (quote text ++ rest) = quote text ++ rest :=
  skipSpace_cons rfl _

/-- A text between quotes is read back, and what stands behind it is left. -/
theorem quoted?_quote (text : String) (rest : List Char) :
    quoted? (quote text ++ rest) = some (text, rest) := by
  have hunits := units?_flatMap_escape text.toList rest
  rw [quoted?, skipSpace_quote]
  simp only [quote, List.cons_append, List.append_assoc, List.nil_append, hunits, Option.bind_some,
    ofUnits?_map_toNat, Option.map_some, String.ofList_toList]

/-! ## Reading back lists -/

section

variable {α : Type} {item? : List Char → Option (α × List Char)} {write : α → List Char}
  {close : Char} (hitem : ∀ item rest, item? (write item ++ rest) = some (item, rest))
  (hspace : isSpace close = false)

include hitem hspace

theorem items?_commaList (hcomma : close ≠ ',') (first : α) (others : List α) (rest : List Char) :
    items? item? close (commaList ((first :: others).map write) ++ close :: rest) =
      some (first :: others, rest) := by
  induction others generalizing first with
  | nil =>
    rw [List.map_singleton, commaList, items?, hitem]
    simp only [skipSpace_cons hspace, if_pos]
  | cons second others ih =>
    have hwritten : commaList ((first :: second :: others).map write) ++ close :: rest =
        write first ++ ',' :: (commaList ((second :: others).map write) ++ close :: rest) := by
      simp [commaList]
    have hcomma' : isSpace ',' = false := by decide
    -- the comma at least is behind
    have hshorter : (commaList ((second :: others).map write) ++ close :: rest).length <
        (write first ++ ',' :: (commaList ((second :: others).map write) ++ close :: rest)).length := by
      simp only [List.length_append, List.length_cons]
      omega
    rw [hwritten, items?, hitem]
    simp only [skipSpace_cons hcomma', if_neg hcomma.symm]
    rw [if_pos ⟨trivial, hshorter⟩, ih second, Option.map_some]

/-- A list that is written is read back. Its items begin with a quote, so that the end of the list
cannot be taken for one of them. -/
theorem list?_commaList (hcomma : close ≠ ',') (hclose : close ≠ '\x22')
    (hquote : ∀ item, ∃ tail, write item = '\x22' :: tail) (items : List α) (rest : List Char) :
    list? item? close (commaList (items.map write) ++ close :: rest) = some (items, rest) := by
  cases items with
  | nil =>
    rw [List.map_nil, commaList, List.nil_append, list?, skipSpace_cons hspace]
    simp only [if_pos]
  | cons first others =>
    rcases hquote first with ⟨tail, htail⟩
    have hstart : ∃ tail, commaList ((first :: others).map write) ++ close :: rest =
        '\x22' :: tail := by
      cases others <;> simp [commaList, htail]
    rcases hstart with ⟨tail, hstart⟩
    have hread := items?_commaList hitem hspace hcomma first others rest
    rw [hstart] at hread ⊢
    rw [list?, skipSpace_cons (by decide)]
    simp only [if_neg hclose.symm]
    exact hread

end

/-! ## Reading back records -/

theorem exists_quote_eq (text : String) : ∃ tail, quote text = '\x22' :: tail :=
  ⟨_, rfl⟩

theorem value?_write (value : Value) (rest : List Char) :
    value? (value.write ++ rest) = some (value, rest) := by
  cases value with
  | flag b =>
    cases b with
    | true => rfl
    | false => rfl
  | text s =>
    rw [Value.write, value?, skipSpace_quote]
    show (quoted? (quote s ++ rest)).map _ = _
    rw [quoted?_quote, Option.map_some]
  | texts items =>
    have hread : list? quoted? ']' (commaList (items.map quote) ++ ']' :: rest) =
        some (items, rest) :=
      list?_commaList quoted?_quote (by decide) (by decide) (by decide) exists_quote_eq items rest
    have hwritten : (Value.texts items).write ++ rest =
        '[' :: (commaList (items.map quote) ++ ']' :: rest) := by
      simp [Value.write]
    rw [hwritten, value?, skipSpace_cons (by decide)]
    simp only [hread, Option.map_some]

theorem field?_writeField (field : String × Value) (rest : List Char) :
    field? (writeField field ++ rest) = some (field, rest) := by
  have hwritten : writeField field ++ rest =
      quote field.1 ++ (':' :: (field.2.write ++ rest)) := by
    simp [writeField]
  rw [hwritten, field?, quoted?_quote, Option.bind_some, skipSpace_cons (by decide)]
  simp only [value?_write, Option.map_some]

/-- A record that is written is read back. -/
theorem Record.read?_write (record : Record) : read? record.write.toList = some record := by
  have hquote : ∀ field, ∃ tail, writeField field = '\x22' :: tail := by
    intro field
    rcases exists_quote_eq field.1 with ⟨tail, htail⟩
    exact ⟨tail ++ ':' :: field.2.write, by rw [writeField, htail, List.cons_append]⟩
  have hread : list? field? '\x7d' (commaList (record.map writeField) ++ ['\x7d']) =
      some (record, []) :=
    list?_commaList field?_writeField (by decide) (by decide) (by decide) hquote record []
  rw [write, String.toList_ofList, read?, List.cons_append, skipSpace_cons (by decide)]
  simp only [hread, Option.bind_some]
  rfl

/-- What was written elsewhere is read too: with blanks between the parts, and with a character that
is escaped as a pair of surrogates. -/
example : Record.read? "\x7b \x22face\x22 : [\x22\\uD83D\\uDE00\x22 , \x22\\/\x22]\n\x7d".toList =
    some [("face", .texts ["😀", "/"])] := by
  decide +kernel

end ToyRobot.Text.Json
