import ToyRobot.Proofs.Keyword

/-!
# The spelling of a command

A command has one normal spelling (`Command.text`) and many others. The normal one is a text of the
grammar (`Command.spells_text`), and what the grammar spells is read as it stands, since it has no
blanks at its ends and is in upper case (`Command.ofLine?_of_spells`). Any other case of its letters
and any blanks around it are disregarded on the way to the grammar
(`Command.ofLine?_of_asciiUpperCase_eq`, `Command.ofLine?_between_blanks`). So a command is found
again in whatever way it is spelled, and the normal spelling can stand for the command.
-/

namespace ToyRobot

open Text

/-! ## Blanks in any case -/

namespace Text

/-- Nothing from `A` to `z` is blank. -/
theorem isBlank_eq_false {c : Char} (hfirst : 0x41 ≤ c.toNat) (hlast : c.toNat ≤ 0x7A) :
    isBlank c = false := by
  rw [Bool.eq_false_iff]
  intro hblank
  simp only [isBlank, Bool.or_eq_true, Bool.and_eq_true, decide_eq_true_eq, beq_iff_eq] at hblank
  omega

theorem isBlank_toUpper (c : Char) : isBlank c.toUpper = isBlank c := by
  rcases toUpper_cases c with ⟨hfirst, hlast, hcode⟩ | ⟨_, hsame⟩
  · -- neither a letter nor its capital is blank
    have hletter : isBlank c = false := isBlank_eq_false (by omega) (by omega)
    have hcapital : isBlank c.toUpper = false := isBlank_eq_false (by omega) (by omega)
    rw [hletter, hcapital]
  · rw [hsame]

theorem trimStart_asciiUpperCase (text : List Char) :
    trimStart (asciiUpperCase text) = asciiUpperCase (trimStart text) := by
  have hblank : isBlank ∘ Char.toUpper = isBlank := funext isBlank_toUpper
  rw [trimStart, asciiUpperCase, List.dropWhile_map, hblank]
  rfl

theorem trimEnd_asciiUpperCase (text : List Char) :
    trimEnd (asciiUpperCase text) = asciiUpperCase (trimEnd text) := by
  calc trimEnd (asciiUpperCase text)
    _ = (trimStart (asciiUpperCase text).reverse).reverse := rfl
    _ = (trimStart (asciiUpperCase text.reverse)).reverse := by
      rw [asciiUpperCase, ← List.map_reverse]
      rfl
    _ = (asciiUpperCase (trimStart text.reverse)).reverse := by rw [trimStart_asciiUpperCase]
    _ = asciiUpperCase (trimEnd text) := List.map_reverse.symm

/-- Whether a text is trimmed before its case is changed or after makes no difference. -/
theorem trim_asciiUpperCase (text : List Char) :
    trim (asciiUpperCase text) = asciiUpperCase (trim text) := by
  rw [trim, trimStart_asciiUpperCase, trimEnd_asciiUpperCase]
  rfl

end Text

namespace Command

/-- Lines that differ in the case of ASCII letters alone are read alike. -/
theorem ofLine?_of_asciiUpperCase_eq {a b : List Char} (h : asciiUpperCase a = asciiUpperCase b) :
    ofLine? (String.ofList a) = ofLine? (String.ofList b) := by
  have hupper : ∀ text, upperCase (trim text) = upperCase (trim (asciiUpperCase text)) := by
    intro text
    rw [trim_asciiUpperCase, upperCase_asciiUpperCase]
  rw [ofLine?, ofLine?, String.toList_ofList, String.toList_ofList, hupper a, hupper b, h]

/-- Lines that differ in the blanks around them alone are read alike. -/
theorem ofLine?_between_blanks {before after : List Char} (hbefore : ∀ c ∈ before, isBlank c)
    (hafter : ∀ c ∈ after, isBlank c) (text : List Char) :
    ofLine? (String.ofList (before ++ text ++ after)) = ofLine? (String.ofList text) := by
  rw [ofLine?, ofLine?, String.toList_ofList, String.toList_ofList, trim_append_blanks hafter,
    trim_blanks_append hbefore]

end Command

/-! ## What the grammar spells -/

theorem Heading.isBlank_getLast?_name (heading : Heading) :
    ∀ c ∈ heading.name.toList.getLast?, isBlank c = false := by
  intro c hc
  cases heading <;> cases hc <;> rfl

theorem Heading.upperCase_name (heading : Heading) :
    upperCase heading.name.toList = heading.name.toList := by
  cases heading <;> exact upperCase_of_asciiUpperCase_eq rfl (by decide)

theorem upper_of_isDigit {c : Char} (h : Decimal.isDigit c) : upper c = [c] := by
  simp only [Decimal.isDigit, Bool.and_eq_true, decide_eq_true_eq] at h
  rw [upper_of_ascii (by omega)]
  rcases toUpper_cases c with ⟨hfirst, _, _⟩ | ⟨_, hsame⟩
  · omega
  · rw [hsame]

theorem IsNumeral.upperCase_eq_self {digits : List Char} (h : IsNumeral digits) :
    upperCase digits = digits :=
  Text.upperCase_eq_self fun c hc => upper_of_isDigit (h.2 c hc)

namespace Command

/-- Nothing is trimmed off what the grammar spells. -/
theorem Spells.trim_eq_self {text : List Char} {c : Command} (h : Spells text c) :
    trim text = text := by
  cases h with
  | @place blanks dx dy x y heading _ _ _ _ _ =>
    -- a placement begins with the keyword and ends with the name of a heading
    apply Text.trim_eq_self
    · intro c hc
      cases hc
      rfl
    · have hname : heading.name.toList ≠ [] := by cases heading <;> decide
      have hlast := List.getLast?_eq_some_getLast hname
      rw [List.getLast?_append, hlast, Option.some_or, ← hlast]
      exact heading.isBlank_getLast?_name
  | move => decide
  | left => decide
  | right => decide
  | report => decide

/-- What the grammar spells is in upper case. -/
theorem Spells.upperCase_eq_self {text : List Char} {c : Command} (h : Spells text c) :
    upperCase text = text := by
  cases h with
  | @place blanks dx dy x y heading hblanks hdx hdy _ _ =>
    have hkeyword : upperCase "PLACE ".toList = "PLACE ".toList :=
      upperCase_of_asciiUpperCase_eq rfl (by decide)
    have hcomma : upperCase [','] = [','] := upperCase_of_asciiUpperCase_eq rfl (by decide)
    simp only [upperCase_append, hkeyword, hcomma, upperCase_of_blanks hblanks,
      hdx.upperCase_eq_self, hdy.upperCase_eq_self, heading.upperCase_name]
  | move => exact upperCase_of_asciiUpperCase_eq rfl (by decide)
  | left => exact upperCase_of_asciiUpperCase_eq rfl (by decide)
  | right => exact upperCase_of_asciiUpperCase_eq rfl (by decide)
  | report => exact upperCase_of_asciiUpperCase_eq rfl (by decide)

/-- A line that the grammar spells is read as it stands. -/
theorem ofLine?_of_spells {text : List Char} {c : Command} (h : Spells text c) :
    ofLine? (String.ofList text) = some c := by
  rw [ofLine?, String.toList_ofList, h.trim_eq_self, h.upperCase_eq_self]
  exact ofUpperCase?_of_spells h

/-! ## The normal spelling -/

/-- The line with the keyword of a placement, two numerals and a heading. -/
theorem spells_placement {dx dy : String} {x y : UInt64} (hdx : IsNumeral dx.toList)
    (hdy : IsNumeral dy.toList) (hx : Denotes dx.toList x) (hy : Denotes dy.toList y)
    (heading : Heading) :
    Spells ("PLACE " ++ dx ++ "," ++ dy ++ "," ++ heading.name).toList (.place x y heading) := by
  have hnone : ∀ c ∈ ([] : List Char), isBlank c := by simp
  have hspells := Spells.place heading hnone hdx hdy hx hy
  rw [List.append_nil] at hspells
  simp only [String.toList_append]
  exact hspells

/-- The normal spelling of a command is one that the grammar has. -/
theorem spells_text (c : Command) : Spells c.text.toList c := by
  cases c with
  | place x y heading =>
    have hspells := spells_placement (isNumeral_natText x.toNat) (isNumeral_natText y.toNat)
      (denotes_natText x) (denotes_natText y) heading
    simp only [String.append_assoc] at hspells
    show Spells ("PLACE " ++ (Decimal.natText x.toNat ++ "," ++ Decimal.natText y.toNat) ++ "," ++
      heading.name).toList _
    simp only [String.append_assoc]
    exact hspells
  | move => exact .move
  | left => exact .left
  | right => exact .right
  | report => exact .report

/-- A command is read back from its normal spelling. -/
theorem ofLine?_text (c : Command) : ofLine? c.text = some c := by
  have hread := ofLine?_of_spells c.spells_text
  rw [String.ofList_toList] at hread
  exact hread

theorem text_inj {c d : Command} (h : c.text = d.text) : c = d := by
  have hread := ofLine?_text c
  rw [h, ofLine?_text] at hread
  exact (Option.some_inj.mp hread).symm

end Command

/-- A command is found again in its text. It is read back from its normal spelling, and also from
every spelling that differs from that one in the case of ASCII letters and has any blanks around it.
So two commands with the same normal spelling are the same; and whatever line a command was read
from, its normal spelling is a line that is read as that command, and is its own normal spelling. -/
theorem command_is_read_back (c : Command) :
    Command.ofLine? c.text = some c ∧
      (∀ before spelling after : List Char, (∀ ch ∈ before, isBlank ch) →
        (∀ ch ∈ after, isBlank ch) → asciiUpperCase spelling = asciiUpperCase c.text.toList →
        Command.ofLine? (String.ofList (before ++ spelling ++ after)) = some c) ∧
      (∀ d : Command, c.text = d.text → c = d) ∧
      ∀ line, Command.ofLine? line = some c →
        Command.ofLine? c.text = Command.ofLine? line ∧
          (Command.ofLine? c.text).map Command.text = some c.text := by
  refine ⟨c.ofLine?_text, ?_, fun _ => Command.text_inj, ?_⟩
  · intro before spelling after hbefore hafter hcase
    rw [Command.ofLine?_between_blanks hbefore hafter, Command.ofLine?_of_asciiUpperCase_eq hcase,
      String.ofList_toList, Command.ofLine?_text]
  · -- whatever line the command was read from, its normal spelling is read in its place
    intro line hline
    constructor
    · rw [hline, Command.ofLine?_text]
    · rw [Command.ofLine?_text, Option.map_some]

/-- The placement with the largest coordinate, in mixed case between blanks of several kinds; and a
line with too many digits that is read as the same placement. -/
theorem largest_placement_is_read_back :
    let c : Command := .place 0xFFFFFFFFFFFFFFFF 7 .west
    let before := ['\t', '\u3000']
    let spelling := "plAcE 18446744073709551615,7,wESt".toList
    let after := [' ', '\r', '\n']
    let line := "Place  00018446744073709551616,07,West"
    (∀ ch ∈ before, isBlank ch) ∧ (∀ ch ∈ after, isBlank ch) ∧
      asciiUpperCase spelling = asciiUpperCase c.text.toList ∧ Command.ofLine? line = some c ∧
      Command.ofLine? (String.ofList (before ++ spelling ++ after)) = some c ∧
      Command.ofLine? c.text = Command.ofLine? line := by
  intro c before spelling after line
  have hbefore : ∀ ch ∈ before, isBlank ch := by simp [before, isBlank]
  have hafter : ∀ ch ∈ after, isBlank ch := by simp [after, isBlank]
  have hcase : asciiUpperCase spelling = asciiUpperCase c.text.toList := by decide +kernel
  have hline : Command.ofLine? line = some c := by decide +kernel
  rcases command_is_read_back c with ⟨_, hspelled, _, hnormal⟩
  exact ⟨hbefore, hafter, hcase, hline, hspelled before spelling after hbefore hafter hcase,
    (hnormal line hline).1⟩

end ToyRobot
