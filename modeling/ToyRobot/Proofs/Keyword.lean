import ToyRobot.Proofs.Grammar

/-!
# The gap behind the keyword

Between the keyword of a placement and its fields stands a gap of blanks. The reader takes it in two
steps: one space belongs to the keyword itself, and whatever blanks follow are then trimmed off. So
the first blank of a gap has to be the space U+0020, and of the others any will do. A tab or a
no-break space in the first place makes the line no command at all, although it is a blank like any
other everywhere else (`tab_does_not_follow_keyword`).
-/

namespace ToyRobot

open Text

/-! ## Blanks in upper case -/

namespace Text

/-- The code points of the blank characters. -/
def blankCodes : List Nat :=
  List.range' 0x09 5 ++ [0x20, 0x85, 0xA0, 0x1680] ++ List.range' 0x2000 11 ++
    [0x2028, 0x2029, 0x202F, 0x205F, 0x3000]

/-- Every blank is in the list. -/
theorem toNat_mem_blankCodes {c : Char} (h : isBlank c) : c.toNat ∈ blankCodes := by
  simp only [isBlank, Bool.or_eq_true, Bool.and_eq_true, decide_eq_true_eq, beq_iff_eq] at h
  simp only [blankCodes, List.mem_append, List.mem_range'_1, List.mem_cons, List.not_mem_nil,
    or_false]
  omega

/-- A blank is its own upper case. -/
theorem upper_of_isBlank {c : Char} (h : isBlank c) : upper c = [c] := by
  -- there are few enough blanks to look each of them up
  have hall : ∀ n ∈ blankCodes, upper (Char.ofNat n) = [Char.ofNat n] := by decide +kernel
  have hc := hall c.toNat (toNat_mem_blankCodes h)
  rw [Char.ofNat_toNat] at hc
  exact hc

/-- Blanks are their own upper case, any number of them. -/
theorem upperCase_of_blanks {blanks : List Char} (h : ∀ c ∈ blanks, isBlank c) :
    upperCase blanks = blanks :=
  upperCase_eq_self fun c hc => upper_of_isBlank (h c hc)

end Text

namespace Command

/-! ## Reading past the gap -/

/-- A gap: one or more blanks. -/
def IsGap (gap : List Char) : Prop :=
  gap ≠ [] ∧ ∀ c ∈ gap, isBlank c

/-- The text of a placement: the keyword, a gap, and its arguments. -/
def placementText (gap args : List Char) : List Char :=
  "PLACE".toList ++ gap ++ args

/-- Once the space is off, the other blanks of the gap make no difference. -/
theorem ofUpperCase?_space (rest args : List Char) (hblank : ∀ c ∈ rest, isBlank c) :
    ofUpperCase? (placementText (' ' :: rest) args) = ofUpperCase? (placementText [' '] args) := by
  have hopening : afterOpening? placeKeyword (placementText (' ' :: rest) args) =
      some (rest ++ args) := afterOpening?_eq_some_iff.mpr rfl
  have hopening' : afterOpening? placeKeyword (placementText [' '] args) = some args :=
    afterOpening?_eq_some_iff.mpr rfl
  unfold ofUpperCase?
  rw [hopening, hopening']
  show ofFields? (split ',' (trimStart (rest ++ args))) = ofFields? (split ',' (trimStart args))
  rw [trimStart_append hblank]

/-- Behind the keyword nothing but the space is read: no rule of the grammar has another character
there. -/
theorem ofUpperCase?_of_ne_space {first : Char} (hfirst : first ≠ ' ') (rest args : List Char) :
    ofUpperCase? (placementText (first :: rest) args) = none := by
  rw [Option.eq_none_iff_forall_ne_some]
  intro c hread
  have hspells := spells_of_ofUpperCase? hread
  generalize htext : placementText (first :: rest) args = text at hspells
  -- the sixth character is the first of the gap, and a placement is spelled with a space there
  have hsixth : text[5]? = some first := by
    rw [← htext]
    rfl
  cases hspells with
  | place heading _ _ _ _ _ =>
    simp only [List.append_assoc] at hsixth
    exact hfirst (Option.some.inj hsixth).symm
  -- a command word does not begin with the keyword
  | move => cases htext
  | left => cases htext
  | right => cases htext
  | report => cases htext

/-- A text in upper case is read behind a gap as behind one space, if the gap begins with it. -/
theorem ofUpperCase?_gap {gap : List Char} (hgap : IsGap gap) (args : List Char) (c : Command) :
    ofUpperCase? (placementText gap args) = some c ↔
      gap.head? = some ' ' ∧ Spells (placementText [' '] args) c := by
  rcases hgap with ⟨hne, hblank⟩
  rcases gap with _ | ⟨first, rest⟩
  · exact absurd rfl hne
  · rw [List.forall_mem_cons] at hblank
    rw [List.head?_cons, Option.some_inj]
    by_cases hfirst : first = ' '
    · subst hfirst
      rw [ofUpperCase?_space rest args hblank.2, eq_self, true_and]
      exact ⟨spells_of_ofUpperCase?, ofUpperCase?_of_spells⟩
    · rw [ofUpperCase?_of_ne_space hfirst]
      constructor
      · intro h
        cases h
      · rintro ⟨hspace, _⟩
        exact absurd hspace hfirst

/-! ## The line in any case -/

/-- Trimming takes nothing off a placement, but for the gap where there are no arguments. -/
theorem trim_placementText {gap args : List Char} (hgap : IsGap gap)
    (hlast : ∀ c ∈ args.getLast?, isBlank c = false) :
    trim (placementText gap args) =
      if args = [] then "PLACE".toList else placementText gap args := by
  have hfirst : ∀ c ∈ (placementText gap args).head?, isBlank c = false := by
    intro c hc
    cases hc
    rfl
  by_cases hargs : args = []
  · subst hargs
    rw [if_pos rfl, trim, trimStart_eq_self hfirst]
    show trimEnd ("PLACE".toList ++ gap ++ []) = "PLACE".toList
    rw [List.append_nil, trimEnd_append hgap.2]
    decide
  · -- a placement with arguments ends as they do, in no blank
    have hend : (placementText gap args).getLast? = args.getLast? := by
      show ("PLACE".toList ++ gap ++ args).getLast? = args.getLast?
      rw [List.getLast?_append, List.getLast?_eq_some_getLast hargs, Option.some_or]
    rw [if_neg hargs]
    apply trim_eq_self hfirst
    rw [hend]
    exact hlast

/-- The keyword and the gap are in upper case already. -/
theorem upperCase_placementText {gap args : List Char} (hgap : IsGap gap) :
    upperCase (placementText gap args) = placementText gap (upperCase args) := by
  have hkeyword : upperCase "PLACE".toList = "PLACE".toList := by decide +kernel
  have hgap' : upperCase gap = gap := upperCase_of_blanks hgap.2
  calc upperCase (placementText gap args)
      = upperCase ("PLACE".toList ++ gap) ++ upperCase args := upperCase_append _ args
    _ = upperCase "PLACE".toList ++ upperCase gap ++ upperCase args :=
        congrArg (· ++ upperCase args) (upperCase_append _ gap)
    _ = "PLACE".toList ++ upperCase gap ++ upperCase args :=
        congrArg (· ++ upperCase gap ++ upperCase args) hkeyword
    _ = "PLACE".toList ++ gap ++ upperCase args :=
        congrArg ("PLACE".toList ++ · ++ upperCase args) hgap'

/-- A line with a keyword, a gap and arguments is read as the grammar spells it with one space for
the gap, if the gap begins with a space, and not at all if it does not. -/
theorem ofLine?_placementText {gap args : List Char} (hgap : IsGap gap)
    (hlast : ∀ c ∈ args.getLast?, isBlank c = false) (c : Command) :
    ofLine? (String.ofList (placementText gap args)) = some c ↔
      gap.head? = some ' ' ∧ Spells (placementText [' '] (upperCase args)) c := by
  rw [ofLine?, String.toList_ofList, trim_placementText hgap hlast]
  by_cases hargs : args = []
  · -- the keyword is left by itself, and is no command
    subst hargs
    have hnone : ofUpperCase? (upperCase "PLACE".toList) = none := by decide +kernel
    have hspace : ofUpperCase? (placementText [' '] (upperCase [])) = none := by decide +kernel
    rw [if_pos rfl, hnone]
    constructor
    · intro h
      cases h
    · rintro ⟨_, hspells⟩
      rw [ofUpperCase?_of_spells hspells] at hspace
      cases hspace
  · rw [if_neg hargs, upperCase_placementText hgap, ofUpperCase?_gap hgap]

end Command

/-- The keyword of a placement ends in a space. Between the keyword and arguments without blanks at
their ends let there be a gap, one or more blanks. If the gap begins with the space U+0020, the line
is the placement that the grammar spells with that space alone, if it spells one; if it begins with
any other blank, the line is no command. So two gaps are read alike exactly where both begin with a
space, or neither does, or the arguments are not those of a placement. -/
theorem placement_keyword_ends_in_space {args v w : List Char}
    (hlast : ∀ c ∈ args.getLast?, isBlank c = false) (hv : Command.IsGap v)
    (hw : Command.IsGap w) :
    let read gap := Command.ofLine? (String.ofList ("PLACE".toList ++ gap ++ args))
    let spelled c := Command.Spells ("PLACE ".toList ++ upperCase args) c
    (∀ c, read v = some c ↔ v.head? = some ' ' ∧ spelled c) ∧
      (read v = read w ↔ (v.head? = some ' ' ↔ w.head? = some ' ') ∨ ∀ c, ¬ spelled c) := by
  intro read spelled
  have hreadv : ∀ c, read v = some c ↔ v.head? = some ' ' ∧ spelled c :=
    Command.ofLine?_placementText hv hlast
  have hreadw : ∀ c, read w = some c ↔ w.head? = some ' ' ∧ spelled c :=
    Command.ofLine?_placementText hw hlast
  refine ⟨hreadv, ?_⟩
  have halike : read v = read w ↔
      ∀ c, (v.head? = some ' ' ∧ spelled c) ↔ (w.head? = some ' ' ∧ spelled c) := by
    rw [Option.ext_iff]
    exact forall_congr' fun c => by rw [hreadv, hreadw]
  rw [halike]
  constructor
  · -- if the arguments are those of a placement, both gaps read it or neither does
    intro hsame
    by_cases hspelled : ∃ c, spelled c
    · rcases hspelled with ⟨c, hc⟩
      have hheads := hsame c
      simp only [hc, and_true] at hheads
      exact .inl hheads
    · exact .inr (not_exists.mp hspelled)
  · rintro (hheads | hnone) c
    · rw [hheads]
    · simp only [hnone c, and_false]

/-- The same arguments behind a tab and a space, and behind a space and a tab: only the gap that
begins with the space is read. -/
theorem placement_keyword_before_space_and_tab :
    let args := "1,2,east".toList
    let read gap := Command.ofLine? (String.ofList ("PLACE".toList ++ gap ++ args))
    (∀ c ∈ args.getLast?, isBlank c = false) ∧ Command.IsGap [' ', '\t'] ∧
      Command.IsGap ['\t', ' '] ∧ read [' ', '\t'] = some (.place 1 2 .east) ∧
      read ['\t', ' '] ≠ read [' ', '\t'] := by
  intro args read
  have hlast : ∀ c ∈ args.getLast?, isBlank c = false := by
    intro c hc
    cases hc
    rfl
  have hspace : Command.IsGap [' ', '\t'] := by simp [Command.IsGap, isBlank]
  have htab : Command.IsGap ['\t', ' '] := by simp [Command.IsGap, isBlank]
  have hspelled : Command.Spells ("PLACE ".toList ++ upperCase args) (.place 1 2 .east) :=
    Command.spells_of_ofUpperCase? (by decide +kernel)
  rcases placement_keyword_ends_in_space hlast hspace htab with ⟨hread, halike⟩
  refine ⟨hlast, hspace, htab, (hread _).mpr ⟨rfl, hspelled⟩, ?_⟩
  intro hsame
  rcases halike.mp hsame.symm with hheads | hnone
  · have htabhead := hheads.mp rfl
    revert htabhead
    decide
  · exact hnone _ hspelled

/-- A tab is a blank as a space is, but it does not follow the keyword. -/
theorem tab_does_not_follow_keyword :
    isBlank '\t' ∧ isBlank ' ' ∧ Command.ofLine? "PLACE\t1,2,EAST" = none ∧
      Command.ofLine? "PLACE 1,2,EAST" = some (.place 1 2 .east) := by
  decide +kernel

end ToyRobot
