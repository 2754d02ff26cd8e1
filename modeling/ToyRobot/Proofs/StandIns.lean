import ToyRobot.Proofs.Spelling

/-!
# Letters beyond ASCII

A command is read from the full upper case of its line, so the line itself need not be in ASCII:
four characters beyond it stand in for letters of a command (`standIns`). To find where they can be,
upper case is read backwards. Blanks, digits and commas come of nothing but themselves
(`eq_of_mem_upper`), so the fields of a placement are cut in the line where they are cut in its
upper case; and a word comes of letters in either case and of stand-ins, because no other character
has an upper case that fits into it (`standsFor_of_upperCase_eq`). So the lines of a command can be
written down as they stand (`Command.Written`), and without stand-ins the upper case of ASCII would
do.
-/

namespace ToyRobot

open Text

namespace Text

/-! ## What becomes ASCII -/

/-- The code points beyond ASCII whose upper case is in ASCII. -/
def codesIntoAscii : List Nat :=
  [0xDF, 0x131, 0x17F, 0xFB00, 0xFB01, 0xFB02, 0xFB03, 0xFB04, 0xFB05, 0xFB06]

/-- The code points of the characters between and within the fields of a placement: blanks, commas
and digits. -/
def markCodes : List Nat :=
  blankCodes ++ [0x2C] ++ List.range' 0x30 10

/-- A long form is of one character or more, none of them a mark, and is all in ASCII only for the
code points of the list. -/
theorem longForms_spec {entry : Nat × List Nat} (hentry : entry ∈ longForms) :
    entry.2 ≠ [] ∧ (∀ n ∈ entry.2, (Char.ofNat n).toNat = n ∧ n ∉ markCodes) ∧
      ((∀ n ∈ entry.2, n < 0x80) → entry.1 ∈ codesIntoAscii) := by
  -- the list is short enough to be looked through
  have hall : ∀ entry ∈ longForms, entry.2 ≠ [] ∧ (∀ n ∈ entry.2, n < 0xD800 ∧ n ∉ markCodes) ∧
      ((∀ n ∈ entry.2, n < 0x80) → entry.1 ∈ codesIntoAscii) := by decide +kernel
  obtain ⟨hne, hcodes, hascii⟩ := hall entry hentry
  exact ⟨hne, fun n hn => ⟨toNat_ofNat (.inl (hcodes n hn).1), (hcodes n hn).2⟩, hascii⟩

/-- Whether a code point is among those that a run leads to, or between them. -/
def CaseRun.reaches (run : CaseRun) (n : Nat) : Bool :=
  run.image.ble n && n.ble (run.image + (run.last - run.first))

/-- What a run leads to are characters, none of them a mark, and in ASCII only for a run of a single
code point of the list. -/
theorem caseRuns_spec {run : CaseRun} (hrun : run ∈ caseRuns) {k : Nat}
    (hk : k ≤ run.last - run.first) :
    (Char.ofNat (run.image + k)).toNat = run.image + k ∧ run.image + k ∉ markCodes ∧
      (run.image + k < 0x80 → run.first = run.last ∧ run.first ∈ codesIntoAscii) := by
  have hall : ∀ run ∈ caseRuns,
      (run.image + (run.last - run.first) < 0xD800 ∨
        0xDFFF < run.image ∧ run.image + (run.last - run.first) < 0x110000) ∧
      markCodes.any run.reaches = false ∧
      (run.image < 0x80 → run.first = run.last ∧ run.first ∈ codesIntoAscii) := by decide +kernel
  obtain ⟨hvalid, hmarks, hascii⟩ := hall run hrun
  refine ⟨toNat_ofNat ?_, ?_, ?_⟩
  · rw [Nat.isValidChar]
    omega
  · intro hmark
    apply List.any_eq_false.mp hmarks _ hmark
    simp only [CaseRun.reaches, Bool.and_eq_true, Nat.ble_eq]
    omega
  · intro hlt
    exact hascii (by omega)

/-- The upper case of ten characters beyond ASCII is in ASCII, and of no other. -/
theorem upper_in_ascii_iff {c : Char} (hc : ¬ c.toNat < 0x80) :
    (∀ d ∈ upper c, d.toNat < 0x80) ↔ c.toNat ∈ codesIntoAscii := by
  constructor
  · intro hascii
    -- beyond ASCII an upper case is a long form, or in a run, or the character itself
    rcases upper_cases hc with ⟨entry, hentry, hcode, hupper⟩ | ⟨run, hrun, hfirst, hlast, hupper⟩ |
      hupper
    · obtain ⟨_, hcodes, hmem⟩ := longForms_spec hentry
      rw [← hcode]
      apply hmem
      intro n hn
      have hchar := hascii (Char.ofNat n) (by rw [hupper]; exact List.mem_map_of_mem hn)
      rw [(hcodes n hn).1] at hchar
      exact hchar
    · have hchar := hascii _ (by rw [hupper]; exact List.mem_singleton_self _)
      obtain ⟨hvalid, _, hmem⟩ := caseRuns_spec hrun (k := c.toNat - run.first) (by omega)
      rw [hvalid] at hchar
      obtain ⟨hsingle, hlisted⟩ := hmem hchar
      have hcode : c.toNat = run.first := by omega
      rw [hcode]
      exact hlisted
    · exact absurd (hascii c (by rw [hupper]; exact List.mem_singleton_self c)) hc
  · intro hmem
    have hall : ∀ n ∈ codesIntoAscii, IsAscii (upper (Char.ofNat n)) := by decide
    have hupper := hall c.toNat hmem
    rw [Char.ofNat_toNat] at hupper
    exact hupper

/-! ## What comes of itself alone -/

/-- A blank, a comma or a digit. -/
def IsMark (c : Char) : Prop :=
  isBlank c ∨ c = ',' ∨ Decimal.isDigit c

theorem IsMark.toNat_mem {c : Char} (h : IsMark c) : c.toNat ∈ markCodes := by
  rw [markCodes, List.mem_append, List.mem_append]
  rcases h with hblank | rfl | hdigit
  · exact .inl (.inl (toNat_mem_blankCodes hblank))
  · exact .inl (.inr (by decide))
  · simp only [Decimal.isDigit, Bool.and_eq_true, decide_eq_true_eq] at hdigit
    rw [List.mem_range'_1]
    exact .inr (by omega)

theorem IsMark.upper_eq {c : Char} (h : IsMark c) : upper c = [c] := by
  rcases h with hblank | rfl | hdigit
  · exact upper_of_isBlank hblank
  · exact upper_of_ascii (by decide)
  · exact upper_of_isDigit hdigit

/-- No other character has a mark in its upper case. -/
theorem eq_of_mem_upper {c d : Char} (hd : IsMark d) (hmem : d ∈ upper c) : c = d := by
  have hmark := hd.toNat_mem
  by_cases hc : c.toNat < 0x80
  · rw [upper_of_ascii hc, List.mem_singleton] at hmem
    rw [hmem] at hmark ⊢
    -- in ASCII only letters are put into upper case, and no mark is a capital letter
    rcases toUpper_cases c with ⟨_, _, hcode⟩ | ⟨_, hsame⟩
    · simp only [markCodes, blankCodes, List.mem_append, List.mem_range'_1, List.mem_cons,
        List.not_mem_nil, or_false] at hmark
      omega
    · exact hsame.symm
  · rcases upper_cases hc with ⟨entry, hentry, _, hupper⟩ | ⟨run, hrun, hfirst, hlast, hupper⟩ |
      hupper
    · rw [hupper, List.mem_map] at hmem
      obtain ⟨n, hn, rfl⟩ := hmem
      obtain ⟨hvalid, hnone⟩ := (longForms_spec hentry).2.1 n hn
      rw [hvalid] at hmark
      exact absurd hmark hnone
    · rw [hupper, List.mem_singleton] at hmem
      obtain ⟨hvalid, hnone, _⟩ := caseRuns_spec hrun (k := c.toNat - run.first) (by omega)
      rw [hmem, hvalid] at hmark
      exact absurd hmark hnone
    · rw [hupper, List.mem_singleton] at hmem
      exact hmem.symm

/-! ## Reading upper case backwards -/

theorem upper_ne_nil (c : Char) : upper c ≠ [] := by
  by_cases hc : c.toNat < 0x80
  · rw [upper_of_ascii hc]
    exact List.cons_ne_nil _ _
  · rcases upper_cases hc with ⟨entry, hentry, _, hupper⟩ | ⟨_, _, _, _, hupper⟩ | hupper
    · rw [hupper]
      simpa using (longForms_spec hentry).1
    · rw [hupper]
      exact List.cons_ne_nil _ _
    · rw [hupper]
      exact List.cons_ne_nil _ _

theorem upperCase_cons (c : Char) (text : List Char) :
    upperCase (c :: text) = upper c ++ upperCase text :=
  List.flatMap_cons

theorem upperCase_eq_nil_iff {text : List Char} : upperCase text = [] ↔ text = [] := by
  cases text with
  | nil => exact ⟨fun _ => rfl, fun _ => rfl⟩
  | cons c rest =>
    rw [upperCase_cons, List.append_eq_nil_iff]
    simp [upper_ne_nil]

/-- A mark cuts a text where it cuts its upper case. -/
theorem exists_of_upperCase_eq_append_cons {text front rest : List Char} {d : Char}
    (hd : IsMark d) (h : upperCase text = front ++ d :: rest) :
    ∃ before after, text = before ++ d :: after ∧ upperCase before = front ∧
      upperCase after = rest := by
  induction text generalizing front with
  | nil => simp [upperCase] at h
  | cons c text ih =>
    rw [upperCase_cons, List.append_eq_append_iff] at h
    rcases h with ⟨front', rfl, hrest⟩ | ⟨middle, hupper, hrest⟩
    · -- the mark comes after all of the upper case of the first character
      obtain ⟨before, after, rfl, rfl, rfl⟩ := ih hrest
      exact ⟨c :: before, after, rfl, upperCase_cons c before, rfl⟩
    · cases middle with
      | nil =>
        have htext : upperCase text = [] ++ d :: rest := hrest.symm
        obtain ⟨before, after, rfl, hbefore, rfl⟩ := ih htext
        refine ⟨c :: before, after, rfl, ?_, rfl⟩
        rw [upperCase_cons, hbefore, hupper]
        simp
      | cons e middle =>
        -- the mark is in the upper case of the first character, which is then the mark itself
        rw [List.cons_append, List.cons.injEq] at hrest
        obtain ⟨rfl, rfl⟩ := hrest
        have hself : c = d := eq_of_mem_upper hd (by rw [hupper]; simp)
        subst hself
        rw [hd.upper_eq, List.singleton_eq_append_iff] at hupper
        obtain ⟨rfl, hmiddle⟩ | ⟨_, hmiddle⟩ := hupper
        · cases hmiddle
          exact ⟨[], text, rfl, rfl, rfl⟩
        · cases hmiddle

/-- Marks at the start of an upper case are at the start of the text. -/
theorem exists_of_upperCase_eq_marks_append {marks text rest : List Char}
    (hmarks : ∀ c ∈ marks, IsMark c) (h : upperCase text = marks ++ rest) :
    ∃ after, text = marks ++ after ∧ upperCase after = rest := by
  induction marks generalizing text with
  | nil => exact ⟨text, rfl, h⟩
  | cons d marks ih =>
    rw [List.forall_mem_cons] at hmarks
    have hfirst : upperCase text = [] ++ d :: (marks ++ rest) := h
    obtain ⟨before, after, rfl, hbefore, hafter⟩ :=
      exists_of_upperCase_eq_append_cons hmarks.1 hfirst
    rw [upperCase_eq_nil_iff] at hbefore
    subst hbefore
    obtain ⟨last, rfl, hlast⟩ := ih hmarks.2 hafter
    exact ⟨last, rfl, hlast⟩

/-! ## Words -/

/-- The characters beyond ASCII that can be written in a command, with the letters that they stand
for: the dotless i, the long s, and two ligatures of s and t. -/
def standIns : List (Char × List Char) := [
  ('\u0131', ['I']), ('\u017F', ['S']), ('\uFB05', ['S', 'T']), ('\uFB06', ['S', 'T'])]

/-- A text that stands for a word in capital letters: letter by letter in either case, or with
stand-ins. -/
inductive StandsFor : List Char → List Char → Prop where
  | nil : StandsFor [] []
  | ascii {c : Char} {text word : List Char} : c.toNat < 0x80 → StandsFor text word →
      StandsFor (c :: text) (c.toUpper :: word)
  | standIn {c : Char} {letters text word : List Char} : (c, letters) ∈ standIns →
      StandsFor text word → StandsFor (c :: text) (letters ++ word)

theorem upper_of_mem_standIns {c : Char} {letters : List Char} (h : (c, letters) ∈ standIns) :
    upper c = letters := by
  have hall : ∀ entry ∈ standIns, upper entry.1 = entry.2 := by decide
  exact hall (c, letters) h

theorem StandsFor.upperCase_eq {text word : List Char} (h : StandsFor text word) :
    upperCase text = word := by
  induction h with
  | nil => rfl
  | ascii hc _ ih => rw [upperCase_cons, upper_of_ascii hc, ih, List.singleton_append]
  | standIn hmem _ ih => rw [upperCase_cons, upper_of_mem_standIns hmem, ih]

/-- The pairs of letters of which one or the other is in every upper case that is in ASCII and does
not come of a stand-in. -/
def foreignPairs : List (List Char) :=
  ["SS".toList, "FF".toList, "FI".toList, "FL".toList]

/-- A word in ASCII without such a pair. -/
def IsCommandWord (word : List Char) : Prop :=
  IsAscii word ∧ ∀ pair ∈ foreignPairs, ¬ pair <:+: word

instance (word : List Char) : Decidable (IsCommandWord word) :=
  inferInstanceAs (Decidable (IsAscii word ∧ ∀ pair ∈ foreignPairs, ¬ pair <:+: word))

theorem IsCommandWord.of_append {front rest : List Char} (h : IsCommandWord (front ++ rest)) :
    IsCommandWord rest :=
  ⟨fun c hc => h.1 c (List.mem_append_right _ hc),
    fun pair hpair hwithin => h.2 pair hpair (hwithin.trans (List.suffix_append _ _).isInfix)⟩

/-- Such a word is the upper case only of texts that stand for it. -/
theorem standsFor_of_upperCase_eq {text word : List Char} (hword : IsCommandWord word)
    (h : upperCase text = word) : StandsFor text word := by
  subst h
  induction text with
  | nil => exact .nil
  | cons c rest ih =>
    rw [upperCase_cons] at hword ⊢
    have hrest : StandsFor rest (upperCase rest) := ih hword.of_append
    by_cases hc : c.toNat < 0x80
    · rw [upper_of_ascii hc]
      exact .ascii hc hrest
    · have hcode := (upper_in_ascii_iff hc).mp fun d hd => hword.1 d (List.mem_append_left _ hd)
      have hall : ∀ n ∈ codesIntoAscii, (Char.ofNat n, upper (Char.ofNat n)) ∈ standIns ∨
          ∃ pair ∈ foreignPairs, pair <+: upper (Char.ofNat n) := by decide
      -- the character is a stand-in, or its upper case begins with a pair that the word has not
      rcases hall c.toNat hcode with hmem | ⟨pair, hpair, hbegins⟩
      · rw [Char.ofNat_toNat] at hmem
        exact .standIn hmem hrest
      · rw [Char.ofNat_toNat] at hbegins
        exact absurd (hbegins.trans (List.prefix_append _ _)).isInfix (hword.2 pair hpair)

/-- Where the stand-ins are in a text that stands for a word. -/
theorem StandsFor.cases_of_mem {text word : List Char} (h : StandsFor text word) :
    ∀ c ∈ text, c.toNat < 0x80 ∨ ∃ letters, (c, letters) ∈ standIns ∧ letters <:+: word := by
  induction h with
  | nil => simp
  | @ascii c text word hc _ ih =>
    rw [List.forall_mem_cons]
    refine ⟨.inl hc, ?_⟩
    intro d hd
    rcases ih d hd with hascii | ⟨letters, hmem, hwithin⟩
    · exact .inl hascii
    · exact .inr ⟨letters, hmem, hwithin.trans (List.suffix_cons _ _).isInfix⟩
  | @standIn c letters text word hmem _ ih =>
    rw [List.forall_mem_cons]
    refine ⟨.inr ⟨letters, hmem, (List.prefix_append _ _).isInfix⟩, ?_⟩
    intro d hd
    rcases ih d hd with hascii | ⟨others, hothers, hwithin⟩
    · exact .inl hascii
    · exact .inr ⟨others, hothers, hwithin.trans (List.suffix_append _ _).isInfix⟩

/-- Where no stand-in fits into a word, it is spelled in ASCII. -/
theorem StandsFor.asciiUpperCase_eq {text word : List Char} (h : StandsFor text word)
    (hword : ∀ entry ∈ standIns, ¬ entry.2 <:+: word) : asciiUpperCase text = word := by
  have hascii : ∀ c ∈ text, upper c = [c.toUpper] := by
    intro c hc
    rcases h.cases_of_mem c hc with hc | ⟨letters, hmem, hwithin⟩
    · exact upper_of_ascii hc
    · exact absurd hwithin (hword _ hmem)
  have hupper : upperCase text = asciiUpperCase text := upperCase_eq_map hascii
  rw [← hupper, h.upperCase_eq]

/-- A text in ASCII upper case has no character beyond ASCII that the word does not have. -/
theorem ascii_of_asciiUpperCase_eq {text word : List Char} (h : asciiUpperCase text = word)
    (hword : IsAscii word) : IsAscii text := by
  intro c hc
  by_cases hascii : c.toNat < 0x80
  · exact hascii
  · have hupper : c.toUpper ∈ word := by
      rw [← h]
      exact List.mem_map_of_mem hc
    rw [toUpper_of_not_ascii hascii] at hupper
    exact hword c hupper

end Text

/-! ## Commands as they stand in a line -/

/-- The stand-ins that fit into the name of a heading. -/
def Heading.standIns : Heading → List Char
  | north => []
  | south => ['\u017F']
  | east => ['\u017F', '\uFB05', '\uFB06']
  | west => ['\u017F', '\uFB05', '\uFB06']

theorem Heading.mem_standIns (heading : Heading) :
    ∀ entry ∈ Text.standIns, entry.2 <:+: heading.name.toList → entry.1 ∈ heading.standIns := by
  cases heading <;> decide +kernel

namespace Command

/-- The texts that are read as a command, as they stand in a line and trimmed. All is in ASCII, but
for the blanks behind the keyword of a placement, the name of a heading, and the word `RIGHT`. -/
inductive Written : List Char → Command → Prop where
  | place {keyword blanks dx dy name : List Char} {x y : UInt64} {heading : Heading} :
      asciiUpperCase keyword = "PLACE".toList → (∀ c ∈ blanks, isBlank c) → IsNumeral dx →
      IsNumeral dy → Denotes dx x → Denotes dy y → StandsFor name heading.name.toList →
      Written (keyword ++ [' '] ++ blanks ++ dx ++ [','] ++ dy ++ [','] ++ name)
        (.place x y heading)
  | move {text : List Char} : asciiUpperCase text = "MOVE".toList → Written text .move
  | left {text : List Char} : asciiUpperCase text = "LEFT".toList → Written text .left
  | right {text : List Char} : StandsFor text "RIGHT".toList → Written text .right
  | report {text : List Char} : asciiUpperCase text = "REPORT".toList → Written text .report

/-- The stand-ins that fit into a command. -/
def standIns : Command → List Char
  | place _ _ heading => heading.standIns
  | right => ['\u0131']
  | _ => []

variable {text : List Char} {c : Command}

theorem isMark_of_isNumeral {digits : List Char} (h : IsNumeral digits) :
    ∀ d ∈ digits, IsMark d :=
  fun d hd => .inr (.inr (h.2 d hd))

/-- What is written for a command has an upper case that spells it. -/
theorem Written.spells (h : Written text c) : Spells (upperCase text) c := by
  cases h with
  | @place keyword blanks dx dy name x y heading hkeyword hblanks hdx hdy hx hy hname =>
    have hplace : upperCase keyword = "PLACE".toList :=
      upperCase_of_asciiUpperCase_eq hkeyword (by decide)
    have hspace : upperCase [' '] = [' '] := upperCase_of_asciiUpperCase_eq rfl (by decide)
    have hcomma : upperCase [','] = [','] := upperCase_of_asciiUpperCase_eq rfl (by decide)
    simp only [upperCase_append, hplace, hspace, hcomma, upperCase_of_blanks hblanks,
      hdx.upperCase_eq_self, hdy.upperCase_eq_self, hname.upperCase_eq]
    exact .place heading hblanks hdx hdy hx hy
  | move h =>
    rw [upperCase_of_asciiUpperCase_eq h (by decide)]
    exact .move
  | left h =>
    rw [upperCase_of_asciiUpperCase_eq h (by decide)]
    exact .left
  | right h =>
    rw [h.upperCase_eq]
    exact .right
  | report h =>
    rw [upperCase_of_asciiUpperCase_eq h (by decide)]
    exact .report

/-- If the upper case of a text spells a command, the text is written for it. -/
theorem written_of_spells (h : Spells (upperCase text) c) : Written text c := by
  generalize hupper : upperCase text = upper at h
  cases h with
  | @place blanks dx dy x y heading hblanks hdx hdy hx hy =>
    -- what stands between the keyword and the name are marks
    have hparts : upperCase text = "PLACE".toList ++
        ' ' :: ((blanks ++ dx ++ [','] ++ dy ++ [',']) ++ heading.name.toList) := by
      rw [hupper]
      simp
    have hmarks : ∀ d ∈ blanks ++ dx ++ [','] ++ dy ++ [','], IsMark d := by
      simp only [List.mem_append, List.mem_singleton]
      rintro d ((((hd | hd) | rfl) | hd) | rfl)
      · exact .inl (hblanks d hd)
      · exact isMark_of_isNumeral hdx d hd
      · exact .inr (.inl rfl)
      · exact isMark_of_isNumeral hdy d hd
      · exact .inr (.inl rfl)
    obtain ⟨keyword, after, rfl, hkeyword, hafter⟩ :=
      exists_of_upperCase_eq_append_cons (.inl (by decide)) hparts
    obtain ⟨name, rfl, hname⟩ := exists_of_upperCase_eq_marks_append hmarks hafter
    -- the keyword and the name are words, which are read backwards letter by letter
    have hplace : StandsFor keyword "PLACE".toList :=
      standsFor_of_upperCase_eq (by decide +kernel) hkeyword
    have hheading : StandsFor name heading.name.toList := by
      apply standsFor_of_upperCase_eq _ hname
      cases heading <;> decide +kernel
    have hwritten := Written.place (hplace.asciiUpperCase_eq (by decide +kernel)) hblanks hdx hdy
      hx hy hheading
    simp only [List.append_assoc, List.singleton_append] at hwritten ⊢
    exact hwritten
  | move =>
    have hword : StandsFor text "MOVE".toList :=
      standsFor_of_upperCase_eq (by decide +kernel) hupper
    exact .move (hword.asciiUpperCase_eq (by decide +kernel))
  | left =>
    have hword : StandsFor text "LEFT".toList :=
      standsFor_of_upperCase_eq (by decide +kernel) hupper
    exact .left (hword.asciiUpperCase_eq (by decide +kernel))
  | right => exact .right (standsFor_of_upperCase_eq (by decide +kernel) hupper)
  | report =>
    have hword : StandsFor text "REPORT".toList :=
      standsFor_of_upperCase_eq (by decide +kernel) hupper
    exact .report (hword.asciiUpperCase_eq (by decide +kernel))

/-- A line is read as the command that it is written for. -/
theorem ofLine?_eq_some_iff_written {line : String} :
    ofLine? line = some c ↔ Written (trim line.toList) c := by
  constructor
  · intro hread
    exact written_of_spells (spells_of_ofUpperCase? hread)
  · intro hwritten
    exact ofUpperCase?_of_spells hwritten.spells

/-- A text for a command is in ASCII and of the stand-ins that fit into it, but for a gap of blanks
behind the keyword of a placement. -/
def IsAsciiButForGap (text : List Char) (c : Command) : Prop :=
  ∃ front gap rest, text = front ++ gap ++ rest ∧ (∀ ch ∈ gap, isBlank ch) ∧
    (gap = [] ∨ asciiUpperCase front = "PLACE".toList) ∧
    ∀ ch ∈ front ++ rest, ch.toNat < 0x80 ∨ ch ∈ c.standIns

theorem isAsciiButForGap_of_word (h : ∀ ch ∈ text, ch.toNat < 0x80 ∨ ch ∈ c.standIns) :
    IsAsciiButForGap text c := by
  refine ⟨text, [], [], by simp, by simp, .inl rfl, ?_⟩
  rw [List.append_nil]
  exact h

theorem Written.isAsciiButForGap (h : Written text c) : IsAsciiButForGap text c := by
  cases h with
  | @place keyword blanks dx dy name x y heading hkeyword hblanks hdx hdy _ _ hname =>
    refine ⟨keyword, [' '] ++ blanks, dx ++ [','] ++ dy ++ [','] ++ name, by simp, ?_,
      .inr hkeyword, ?_⟩
    · rw [List.singleton_append, List.forall_mem_cons]
      exact ⟨by decide, hblanks⟩
    · have hdigit : ∀ d, Decimal.isDigit d = true → d.toNat < 0x80 := by
        intro d hd
        simp only [Decimal.isDigit, Bool.and_eq_true, decide_eq_true_eq] at hd
        omega
      intro ch hch
      simp only [List.mem_append, List.mem_singleton] at hch
      rcases hch with hch | ((((hch | rfl) | hch) | rfl) | hch)
      · exact .inl (ascii_of_asciiUpperCase_eq hkeyword (by decide) ch hch)
      · exact .inl (hdigit ch (hdx.2 ch hch))
      · exact .inl (by decide)
      · exact .inl (hdigit ch (hdy.2 ch hch))
      · exact .inl (by decide)
      · rcases hname.cases_of_mem ch hch with hascii | ⟨letters, hmem, hwithin⟩
        · exact .inl hascii
        · exact .inr (heading.mem_standIns _ hmem hwithin)
  | move h =>
    exact isAsciiButForGap_of_word fun ch hch =>
      .inl (ascii_of_asciiUpperCase_eq h (by decide) ch hch)
  | left h =>
    exact isAsciiButForGap_of_word fun ch hch =>
      .inl (ascii_of_asciiUpperCase_eq h (by decide) ch hch)
  | right h =>
    have hright : ∀ entry ∈ Text.standIns, entry.2 <:+: "RIGHT".toList →
        entry.1 ∈ Command.standIns .right := by decide +kernel
    apply isAsciiButForGap_of_word
    intro ch hch
    rcases h.cases_of_mem ch hch with hascii | ⟨letters, hmem, hwithin⟩
    · exact .inl hascii
    · exact .inr (hright _ hmem hwithin)
  | report h =>
    exact isAsciiButForGap_of_word fun ch hch =>
      .inl (ascii_of_asciiUpperCase_eq h (by decide) ch hch)

theorem IsAsciiButForGap.cases_of_mem (h : IsAsciiButForGap text c) :
    ∀ ch ∈ text, ch.toNat < 0x80 ∨ isBlank ch ∨ ch ∈ c.standIns := by
  obtain ⟨front, gap, rest, rfl, hgap, _, hascii⟩ := h
  intro ch hch
  simp only [List.mem_append] at hch hascii
  rcases hch with (hfront | hblank) | hrest
  · exact (hascii ch (.inl hfront)).imp_right .inr
  · exact .inr (.inl (hgap ch hblank))
  · exact (hascii ch (.inr hrest)).imp_right .inr

theorem mem_standIns_of_mem {ch : Char} (h : ch ∈ c.standIns) :
    ch ∈ Text.standIns.map Prod.fst := by
  cases c with
  | place x y heading =>
    have hsub : heading.standIns.Sublist (Text.standIns.map Prod.fst) := by
      cases heading <;> decide
    exact hsub.subset h
  | right =>
    have hsub : (Command.standIns .right).Sublist (Text.standIns.map Prod.fst) := by decide
    exact hsub.subset h
  | move => cases h
  | left => cases h
  | report => cases h

/-- Without stand-ins, what is written for a command is the same in both upper cases. -/
theorem Written.upperCase_eq_asciiUpperCase (h : Written text c)
    (hnone : ∀ ch ∈ text, ch ∉ Text.standIns.map Prod.fst) :
    upperCase text = asciiUpperCase text := by
  apply upperCase_eq_map
  intro ch hch
  by_cases hascii : ch.toNat < 0x80
  · exact upper_of_ascii hascii
  · -- beyond ASCII there are only the blanks of the gap left
    have hblank : isBlank ch := by
      rcases h.isAsciiButForGap.cases_of_mem ch hch with hcode | hblank | hfit
      · exact absurd hcode hascii
      · exact hblank
      · exact absurd (mem_standIns_of_mem hfit) (hnone ch hch)
    rw [toUpper_of_not_ascii hascii]
    exact upper_of_isBlank hblank

/-- What a text spells in the upper case of ASCII it spells in the full one. -/
theorem upperCase_eq_of_spells (h : Spells (asciiUpperCase text) c) :
    upperCase text = asciiUpperCase text := by
  rw [← upperCase_asciiUpperCase, h.upperCase_eq_self]

/-- Without stand-ins, a text is read alike in both upper cases. -/
theorem ofUpperCase?_upperCase (hnone : ∀ ch ∈ text, ch ∉ Text.standIns.map Prod.fst) :
    ofUpperCase? (upperCase text) = ofUpperCase? (asciiUpperCase text) := by
  apply Option.ext
  intro c
  constructor
  · intro hread
    have hwritten : Written text c := written_of_spells (spells_of_ofUpperCase? hread)
    rw [← hwritten.upperCase_eq_asciiUpperCase hnone]
    exact hread
  · intro hread
    rw [upperCase_eq_of_spells (spells_of_ofUpperCase? hread)]
    exact hread

end Command

/-- The full upper case adds four characters to the language of commands, and no more. There are ten
characters beyond ASCII whose upper case is in ASCII. A line that has none of four among them is
read as it would be if the upper case of ASCII were all there is. A line is read as a command just
where it is written for it, trimmed: the letters in either case, behind the keyword of a placement a
space and blanks of any kind, and of the four characters a dotless i for the I of `RIGHT`, a long s
for the S of `SOUTH`, `EAST` and `WEST`, and a ligature for the ST of the last two. So all of it,
apart from those blanks, is in ASCII or one of the four characters where it fits. -/
theorem upper_case_adds_four_characters (line : String) :
    let text := trim line.toList
    (∀ ch : Char, ¬ ch.toNat < 0x80 →
      ((∀ d ∈ upper ch, d.toNat < 0x80) ↔
        ch.toNat ∈ [0xDF, 0x131, 0x17F, 0xFB00, 0xFB01, 0xFB02, 0xFB03, 0xFB04, 0xFB05, 0xFB06])) ∧
    ((∀ ch ∈ line.toList, ch ∉ ['\u0131', '\u017F', '\uFB05', '\uFB06']) →
      Command.ofLine? line = Command.ofUpperCase? (asciiUpperCase text)) ∧
    (∀ c, Command.ofLine? line = some c ↔ Command.Written text c) ∧
    ∀ c, Command.ofLine? line = some c → Command.IsAsciiButForGap text c := by
  intro text
  refine ⟨fun _ => upper_in_ascii_iff, ?_, fun _ => Command.ofLine?_eq_some_iff_written, ?_⟩
  · intro hnone
    exact Command.ofUpperCase?_upperCase fun ch hch => hnone ch (mem_of_mem_trim hch)
  · intro c hread
    exact (Command.ofLine?_eq_some_iff_written.mp hread).isAsciiButForGap

/-- A ligature at the end of a placement, which in the upper case of ASCII would be none; and the
same line with the two letters, which is read alike in both. -/
theorem ligature_stands_for_last_letters :
    let line := "\tplace \u30001,2,Ea\uFB06"
    let plain := "\tplace \u30001,2,East"
    Command.ofLine? line = some (.place 1 2 .east) ∧
      Command.ofUpperCase? (asciiUpperCase (trim line.toList)) = none ∧
      Command.Written (trim line.toList) (.place 1 2 .east) ∧
      Command.IsAsciiButForGap (trim line.toList) (.place 1 2 .east) ∧
      (∀ ch ∈ plain.toList, ch ∉ ['\u0131', '\u017F', '\uFB05', '\uFB06']) ∧
      Command.ofLine? plain = Command.ofUpperCase? (asciiUpperCase (trim plain.toList)) ∧
      Command.ofLine? plain = some (.place 1 2 .east) := by
  intro line plain
  have hread : Command.ofLine? line = some (.place 1 2 .east) := by decide +kernel
  have hascii : Command.ofUpperCase? (asciiUpperCase (trim line.toList)) = none := by
    decide +kernel
  have hplain : ∀ ch ∈ plain.toList, ch ∉ ['\u0131', '\u017F', '\uFB05', '\uFB06'] := by
    have hall : plain.toList.all (· ∉ ['\u0131', '\u017F', '\uFB05', '\uFB06']) := by
      decide +kernel
    simpa only [List.all_eq_true, decide_eq_true_eq] using hall
  have hread' : Command.ofLine? plain = some (.place 1 2 .east) := by decide +kernel
  obtain ⟨_, _, hwritten, hgap⟩ := upper_case_adds_four_characters line
  obtain ⟨_, hsame, _, _⟩ := upper_case_adds_four_characters plain
  exact ⟨hread, hascii, (hwritten _).mp hread, hgap _ hread, hplain, hsame hplain, hread'⟩

end ToyRobot
