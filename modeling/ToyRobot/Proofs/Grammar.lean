import ToyRobot.Command.Reading

/-!
# The grammar of a line

What a line may say, written as a grammar (`Command.Spells`) beside the function that reads it. The
function takes off a keyword, cuts at commas and looks up names, each in its own way; for each of
these steps one lemma says exactly what it accepts, and together they give both directions: what is
read is spelled by the grammar, and what the grammar spells is read.
-/

namespace ToyRobot

open Text

/-! ## The grammar -/

/-- One or more digits. -/
def IsNumeral (text : List Char) : Prop :=
  text ≠ [] ∧ ∀ c ∈ text, Decimal.isDigit c

/-- A coordinate is what a numeral is worth, or the largest number there is where that is less. -/
def Denotes (numeral : List Char) (coordinate : UInt64) : Prop :=
  coordinate.toNat = min (Decimal.value numeral) 0xFFFFFFFFFFFFFFFF

/-- The digits of a number are a numeral. -/
theorem isNumeral_digits (n : Nat) : IsNumeral (Decimal.digits n) :=
  ⟨Decimal.digits_ne_nil n, List.all_eq_true.mp (Decimal.all_isDigit_digits n)⟩

theorem isNumeral_natText (n : Nat) : IsNumeral (Decimal.natText n).toList := by
  rw [Decimal.natText, String.toList_ofList]
  exact isNumeral_digits n

/-- A coordinate is denoted by the numeral that it is printed as. -/
theorem denotes_natText (coordinate : UInt64) :
    Denotes (Decimal.natText coordinate.toNat).toList coordinate := by
  have hlargest := coordinate.toNat_lt
  rw [Denotes, Decimal.natText, String.toList_ofList, Decimal.value_digits]
  omega

/-- Every numeral denotes a coordinate. -/
theorem denotes_ofNat (numeral : List Char) :
    Denotes numeral (UInt64.ofNat (min (Decimal.value numeral) 0xFFFFFFFFFFFFFFFF)) :=
  UInt64.toNat_ofNat_of_lt' (Nat.lt_succ_of_le (Nat.min_le_right _ _))

namespace Command

/-- The texts in upper case that spell a command. -/
inductive Spells : List Char → Command → Prop where
  | place {blanks dx dy : List Char} {x y : UInt64} (heading : Heading) :
      (∀ c ∈ blanks, isBlank c) → IsNumeral dx → IsNumeral dy → Denotes dx x → Denotes dy y →
      Spells ("PLACE ".toList ++ blanks ++ dx ++ [','] ++ dy ++ [','] ++ heading.name.toList)
        (.place x y heading)
  | move : Spells "MOVE".toList .move
  | left : Spells "LEFT".toList .left
  | right : Spells "RIGHT".toList .right
  | report : Spells "REPORT".toList .report

/-! ## Each step of reading -/

/-- A text is taken off just where it stands in front. -/
theorem afterOpening?_eq_some_iff {opening text rest : List Char} :
    afterOpening? opening text = some rest ↔ text = opening ++ rest := by
  unfold afterOpening?
  constructor
  · intro h
    split at h
    · rename_i hopening
      cases h
      exact (List.prefix_iff_eq_append.mp (List.isPrefixOf_iff_prefix.mp hopening)).symm
    · cases h
  · rintro rfl
    have hopening : opening.isPrefixOf (opening ++ rest) :=
      List.isPrefixOf_iff_prefix.mpr (List.prefix_append opening rest)
    rw [if_pos hopening, List.drop_left]

/-- A field is a coordinate just where it is a numeral that denotes it. -/
theorem coordinate?_eq_some_iff {field : List Char} {n : UInt64} :
    coordinate? field = some n ↔ IsNumeral field ∧ Denotes field n := by
  -- the coordinate that a numeral denotes is the one that is read from it
  have hsaturated := denotes_ofNat field
  unfold Denotes at hsaturated
  unfold coordinate? IsNumeral Denotes
  rw [← hsaturated, UInt64.toNat_inj]
  simp only [Option.map_eq_some_iff, Decimal.read?_eq_some_iff]
  constructor
  · rintro ⟨_, ⟨hne, hdigits, rfl⟩, rfl⟩
    exact ⟨⟨hne, hdigits⟩, rfl⟩
  · rintro ⟨⟨hne, hdigits⟩, rfl⟩
    exact ⟨_, ⟨hne, hdigits, rfl⟩, rfl⟩

end Command

/-- A heading is found under its name only. -/
theorem Heading.named?_eq_some_iff {text : List Char} {h : Heading} :
    Heading.named? text = some h ↔ text = h.name.toList := by
  constructor
  · intro hfind
    have hname := List.find?_some hfind
    exact (eq_of_beq hname).symm
  · rintro rfl
    cases h <;> decide

namespace Command

/-- A field in the form of a name is in upper case already. -/
theorem asciiUpperCase_of_isNameField {field : List Char} (h : isNameField field) :
    asciiUpperCase field = field := by
  simp only [isNameField, Bool.and_eq_true, List.all_eq_true] at h
  have hsame : ∀ c ∈ field, c.toUpper = id c := by
    intro c hc
    have hupper : 'A'.val ≤ c.val ∧ c.val ≤ 'Z'.val := of_decide_eq_true (h.2 c hc)
    rcases toUpper_cases c with ⟨hfirst, _, _⟩ | ⟨_, hsame⟩
    · -- a letter `a` to `z` comes after all those `A` to `Z`
      have hlast : c.toNat ≤ 0x5A := hupper.2
      omega
    · exact hsame
  rw [asciiUpperCase, List.map_congr_left hsame, List.map_id]

/-- The names of the headings have the form that is asked for. -/
theorem isNameField_name (heading : Heading) : isNameField heading.name.toList := by
  cases heading <;> decide

/-- Behind the test of its form, a field names just the heading that it spells. -/
theorem ofName_eq_ok_iff {field : List Char} {heading : Heading} (h : isNameField field) :
    Heading.ofName (String.ofList field) = .ok heading ↔ field = heading.name.toList := by
  rw [← Heading.named?_eq_some_iff, Heading.ofName, String.toList_ofList,
    asciiUpperCase_of_isNameField h]
  cases Heading.named? field <;> simp

/-- Fields are a placement just where they are two coordinates and the name of a heading. -/
theorem ofFields?_eq_some_iff {fields : List (List Char)} {c : Command} :
    ofFields? fields = some c ↔
      ∃ dx dy x y heading, fields = [dx, dy, heading.name.toList] ∧
        coordinate? dx = some x ∧ coordinate? dy = some y ∧ c = .place x y heading := by
  unfold ofFields?
  constructor
  · intro h
    split at h
    · -- three fields: the numbers are read first, then the form of the name, then the name
      rename_i dx dy name
      split at h
      · rename_i x y hx hy
        split at h
        · rename_i hform
          split at h
          · rename_i heading hname
            cases h
            rw [ofName_eq_ok_iff hform] at hname
            exact ⟨dx, dy, x, y, heading, by rw [hname], hx, hy, rfl⟩
          · cases h
        · cases h
      · cases h
    · cases h
  · rintro ⟨dx, dy, x, y, heading, rfl, hx, hy, rfl⟩
    have hform := isNameField_name heading
    have hname := (ofName_eq_ok_iff hform).mpr rfl
    simp only [hx, hy, hform, hname, if_true]

/-- A word is a command just where it is the text of one that is no placement. -/
theorem ofWord?_eq_some_iff {text : List Char} {c : Command} :
    ofWord? text = some c ↔ c.isPlace = false ∧ text = c.text.toList := by
  constructor
  · intro h
    have hmem := List.mem_of_find?_eq_some h
    have hword := List.find?_some h
    refine ⟨?_, (eq_of_beq hword).symm⟩
    simp only [List.mem_cons, List.not_mem_nil, or_false] at hmem
    rcases hmem with rfl | rfl | rfl | rfl <;> rfl
  · rintro ⟨hplace, rfl⟩
    cases c with
    | place x y heading => cases hplace
    | move => rfl
    | left => rfl
    | right => rfl
    | report => rfl

/-! ## Characters that keep the parts of a placement apart -/

/-- A digit is no blank. -/
theorem isBlank_eq_false_of_isDigit {c : Char} (h : Decimal.isDigit c) : isBlank c = false := by
  simp only [Decimal.isDigit, Bool.and_eq_true, decide_eq_true_eq] at h
  simp only [isBlank, Bool.or_eq_false_iff, Bool.and_eq_false_iff, beq_eq_false_iff_ne,
    decide_eq_false_iff_not]
  omega

/-- A numeral has no comma. -/
theorem comma_not_mem_of_isNumeral {digits : List Char} (h : IsNumeral digits) :
    ',' ∉ digits := by
  intro hmem
  have hdigit := h.2 ',' hmem
  revert hdigit
  decide

theorem comma_not_mem_name (heading : Heading) : ',' ∉ heading.name.toList := by
  cases heading <;> decide

/-- Blanks before a numeral, and no more than those, are taken off. -/
theorem trimStart_blanks_numeral {blanks digits : List Char} (hblanks : ∀ c ∈ blanks, isBlank c)
    (hdigits : IsNumeral digits) (rest : List Char) :
    trimStart (blanks ++ (digits ++ rest)) = digits ++ rest := by
  rw [trimStart_append hblanks]
  obtain ⟨first, others, rfl⟩ := List.exists_cons_of_ne_nil hdigits.1
  have hfirst := isBlank_eq_false_of_isDigit (hdigits.2 first List.mem_cons_self)
  simp [trimStart, hfirst]

/-! ## The whole line -/

/-- What is read is spelled by the grammar. -/
theorem spells_of_ofUpperCase? {text : List Char} {c : Command} (h : ofUpperCase? text = some c) :
    Spells text c := by
  unfold ofUpperCase? at h
  cases hopening : afterOpening? placeKeyword text with
  | some rest =>
    rw [hopening] at h
    obtain ⟨dx, dy, x, y, heading, hsplit, hx, hy, rfl⟩ := ofFields?_eq_some_iff.mp h
    rw [coordinate?_eq_some_iff] at hx hy
    -- the fields with their commas are what the blanks leave
    have hfields : trimStart rest = dx ++ [','] ++ dy ++ [','] ++ heading.name.toList := by
      rw [← intercalate_split ',' (trimStart rest), hsplit]
      simp
    obtain ⟨blanks, hblanks, hrest⟩ := exists_blanks_append_trimStart rest
    have hkeyword : text = "PLACE ".toList ++ rest := afterOpening?_eq_some_iff.mp hopening
    have htext : text =
        "PLACE ".toList ++ blanks ++ dx ++ [','] ++ dy ++ [','] ++ heading.name.toList := by
      rw [hkeyword, hrest, hfields]
      simp only [List.append_assoc]
    rw [htext]
    exact .place heading hblanks hx.1 hy.1 hx.2 hy.2
  | none =>
    -- without the keyword only a command word is left
    rw [hopening] at h
    obtain ⟨hplace, rfl⟩ := ofWord?_eq_some_iff.mp h
    cases c with
    | place x y heading => cases hplace
    | move => exact .move
    | left => exact .left
    | right => exact .right
    | report => exact .report

/-- What the grammar spells is read. -/
theorem ofUpperCase?_of_spells {text : List Char} {c : Command} (h : Spells text c) :
    ofUpperCase? text = some c := by
  unfold ofUpperCase?
  cases h with
  | @place blanks dx dy x y heading hblanks hdx hdy hx hy =>
    have hopening : afterOpening? placeKeyword
        ("PLACE ".toList ++ blanks ++ dx ++ [','] ++ dy ++ [','] ++ heading.name.toList) =
          some (blanks ++ (dx ++ ([','] ++ dy ++ [','] ++ heading.name.toList))) := by
      refine afterOpening?_eq_some_iff.mpr ?_
      show "PLACE ".toList ++ blanks ++ dx ++ [','] ++ dy ++ [','] ++ heading.name.toList =
        "PLACE ".toList ++ _
      simp only [List.append_assoc]
    -- no part has a comma, so the cuts are at the two between them
    have hsplit : split ',' (dx ++ ([','] ++ dy ++ [','] ++ heading.name.toList)) =
        [dx, dy, heading.name.toList] := by
      refine split_eq_iff.mpr ⟨List.cons_ne_nil _ _, ?_, by simp⟩
      intro field hfield
      simp only [List.mem_cons, List.not_mem_nil, or_false] at hfield
      rcases hfield with rfl | rfl | rfl
      · exact comma_not_mem_of_isNumeral hdx
      · exact comma_not_mem_of_isNumeral hdy
      · exact comma_not_mem_name heading
    rw [hopening]
    show ofFields? (split ',' (trimStart (blanks ++ (dx ++ _)))) = _
    rw [trimStart_blanks_numeral hblanks hdx, hsplit]
    exact ofFields?_eq_some_iff.mpr ⟨dx, dy, x, y, heading, rfl,
      coordinate?_eq_some_iff.mpr ⟨hdx, hx⟩, coordinate?_eq_some_iff.mpr ⟨hdy, hy⟩, rfl⟩
  -- a command word is no placement, since no space follows
  | move => rfl
  | left => rfl
  | right => rfl
  | report => rfl

end Command

/-- A line is read as exactly the command that it spells: trimmed and in upper case it is a command
word, or the keyword of a placement, blanks, and two numerals and the name of a heading with commas
between them, where numerals beyond the largest coordinate count as that one. Any other line is no
command, and no line spells two. -/
theorem line_is_read_as_spelled (line : String) :
    let text := upperCase (trim line.toList)
    (∀ c, Command.ofLine? line = some c ↔ Command.Spells text c) ∧
      (Command.ofLine? line = none ↔ ∀ c, ¬ Command.Spells text c) ∧
      ∀ c d, Command.Spells text c → Command.Spells text d → c = d := by
  intro text
  have hread : ∀ c, Command.ofLine? line = some c ↔ Command.Spells text c :=
    fun _ => ⟨Command.spells_of_ofUpperCase?, Command.ofUpperCase?_of_spells⟩
  refine ⟨hread, ?_, ?_⟩
  · rw [Option.eq_none_iff_forall_ne_some]
    exact forall_congr' fun c => not_congr (hread c)
  · intro c d hc hd
    rw [← hread] at hc hd
    exact Option.some.inj (hc.symm.trans hd)

end ToyRobot
