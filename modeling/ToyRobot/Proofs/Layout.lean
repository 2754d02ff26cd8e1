import Mathlib.Data.List.Basic
import Mathlib.Logic.Relation
import ToyRobot.Script

/-!
# The layout of a script

A script keeps what the lines of its text say and forgets how the text is laid out: how its lines
end, which of them are blank, and which blanks stand around the others. There are three kinds of
change to a layout (`Relaid`), and none of them is seen in the lines (`Relaid.linesOf_eq`). Nothing
else is forgotten: the lines, each on a line of its own, are a text themselves, and every text can
be brought into that form by such changes (`relaid_joinLines_linesOf`). So two texts have the same
lines just where one can be laid out as the other.
-/

namespace ToyRobot

open Text

namespace Text

/-! ## Lines and their ends -/

/-- The text with some lines: a newline stands between any two. -/
def joinLines (lines : List (List Char)) : List Char :=
  ['\n'].intercalate lines

/-- A line without the carriage return that belongs to its end. -/
def withoutReturn (line : List Char) : List Char :=
  if line.getLast? = some '\r' then line.dropLast else line

/-- The lines of a text as they are ended: by a newline, with or without a carriage return before
it. What stands behind the last newline is a line if it is anything at all. -/
def endedLines (text : List Char) : List (List Char) :=
  let pieces := split '\n' text
  pieces.dropLast.map withoutReturn ++ pieces.getLast?.toList.filter fun last => !last.isEmpty

/-- Blanks within a line. -/
def IsPadding (text : List Char) : Prop :=
  ∀ c ∈ text, isBlank c ∧ c ≠ '\n'

/-- One change to the layout of a text. -/
inductive Relaid : List Char → List Char → Prop where
  /-- A newline gets a carriage return in front of it. -/
  | carriageReturn (a b : List Char) : Relaid (a ++ '\n' :: b) (a ++ '\r' :: '\n' :: b)
  /-- A line is added that holds nothing but blanks. -/
  | blankLine (earlier later : List (List Char)) {blank : List Char} : IsPadding blank →
      Relaid (joinLines (earlier ++ later)) (joinLines (earlier ++ blank :: later))
  /-- A line gets blanks at its ends. -/
  | padded (earlier later : List (List Char)) {before line after : List Char} :
      IsPadding before → IsPadding after → '\n' ∉ line →
      Relaid (joinLines (earlier ++ line :: later))
        (joinLines (earlier ++ (before ++ line ++ after) :: later))

/-- Padding is blank. -/
theorem IsPadding.isBlank {text : List Char} (h : IsPadding text) : ∀ c ∈ text, isBlank c :=
  fun c hc => (h c hc).1

/-- Padding does not end a line. -/
theorem IsPadding.newline_not_mem {text : List Char} (h : IsPadding text) : '\n' ∉ text :=
  fun hc => (h '\n' hc).2 rfl

/-- Blanks are padding if no newline is among them. -/
theorem isPadding_of_blanks {text : List Char} (hblank : ∀ c ∈ text, isBlank c)
    (hnewline : '\n' ∉ text) : IsPadding text := by
  intro c hc
  refine ⟨hblank c hc, ?_⟩
  rintro rfl
  exact hnewline hc

theorem isPadding_return : IsPadding ['\r'] := by
  simp [IsPadding, Text.isBlank]

theorem joinLines_split (text : List Char) : joinLines (split '\n' text) = text :=
  intercalate_split '\n' text

/-- Nothing is left of padding when it is trimmed. -/
theorem trim_of_isPadding {text : List Char} (h : IsPadding text) : trim text = [] := by
  have htrim := trim_append_blanks h.isBlank []
  rw [List.nil_append] at htrim
  exact htrim

/-- The carriage return of a line end is a blank at the end of its line. -/
theorem trim_withoutReturn (line : List Char) : trim (withoutReturn line) = trim line := by
  unfold withoutReturn
  split
  · rename_i hreturn
    have hline : line.dropLast ++ ['\r'] = line := List.dropLast_append_getLast? '\r' hreturn
    conv => rhs; rw [← hline, trim_append_blanks isPadding_return.isBlank]
  · rfl

end Text

namespace Script

/-! ## The lines of a text -/

/-- A newline parts a text in two that have their lines apart. -/
theorem linesOf_append_newline (a b : List Char) :
    linesOf (a ++ '\n' :: b) = linesOf a ++ linesOf b := by
  rw [linesOf, split_append_cons, List.map_append, List.filter_append]
  rfl

/-- A text without a newline is one line, or none if it is blank. -/
theorem linesOf_of_not_mem {line : List Char} (h : '\n' ∉ line) :
    linesOf line = [trim line].filter fun line => !line.isEmpty := by
  rw [linesOf, split_of_not_mem h, List.map_singleton]

/-- A line of nothing but blanks does not count. -/
theorem linesOf_of_isPadding {blank : List Char} (h : IsPadding blank) : linesOf blank = [] := by
  rw [linesOf_of_not_mem h.newline_not_mem, trim_of_isPadding h]
  rfl

/-- Lines that are joined are found one by one. -/
theorem linesOf_joinLines (lines : List (List Char)) :
    linesOf (joinLines lines) = lines.flatMap linesOf := by
  unfold joinLines
  induction lines with
  | nil => rfl
  | cons line others ih =>
    cases others with
    | nil => rw [List.intercalate_singleton, List.flatMap_singleton]
    | cons next rest =>
      rw [List.intercalate_cons_cons, List.append_assoc, List.singleton_append,
        linesOf_append_newline, ih]
      exact List.flatMap_cons.symm

/-- What a script holds of its text: lines that are not blank, that are trimmed, and that are one
line each. -/
theorem of_mem_linesOf {text line : List Char} (h : line ∈ linesOf text) :
    line ≠ [] ∧ trim line = line ∧ '\n' ∉ line := by
  simp only [linesOf, List.mem_filter, List.mem_map, Bool.not_eq_true',
    List.isEmpty_eq_false_iff] at h
  obtain ⟨⟨piece, hpiece, rfl⟩, hne⟩ := h
  exact ⟨hne, trim_trim piece, fun hc => not_mem_of_mem_split hpiece (mem_of_mem_trim hc)⟩

/-- The lines of a script, each on a line of its own, have themselves as their lines. -/
theorem linesOf_joinLines_linesOf (text : List Char) :
    linesOf (joinLines (linesOf text)) = linesOf text := by
  -- each line is one line, trimmed and not blank, so nothing is done to it
  have hself : ∀ line ∈ linesOf text, linesOf line = [line] := by
    intro line hline
    obtain ⟨hne, htrim, hnewline⟩ := of_mem_linesOf hline
    rw [linesOf_of_not_mem hnewline, htrim]
    simp [hne]
  rw [linesOf_joinLines, List.flatMap_congr hself, List.flatMap_singleton']

/-- The usual line ends make no other lines: the carriage return of an end is trimmed off, and an
empty last line is left out in any case. -/
theorem linesOf_eq_endedLines (text : List Char) :
    linesOf text = ((endedLines text).map trim).filter fun line => !line.isEmpty := by
  obtain ⟨earlier, last, hpieces⟩ : ∃ earlier last, split '\n' text = earlier ++ [last] :=
    ⟨_, _, (List.dropLast_append_getLast (split_ne_nil '\n' text)).symm⟩
  have hearlier : (earlier.map withoutReturn).map trim = earlier.map trim := by
    rw [List.map_map]
    exact List.map_congr_left fun line _ => trim_withoutReturn line
  simp only [linesOf, endedLines, hpieces, List.dropLast_concat, List.getLast?_concat,
    Option.toList_some, List.map_append, List.filter_append, hearlier]
  -- whether the last piece counts is decided by the same test
  cases last with
  | nil => rfl
  | cons c rest => rfl

/-! ## What the layout does not change -/

/-- Blanks at the end of a text are at the end of its last line. -/
theorem linesOf_append_padding {blanks : List Char} (hblanks : IsPadding blanks)
    (text : List Char) : linesOf (text ++ blanks) = linesOf text := by
  induction hlength : text.length using Nat.strongRecOn generalizing text with
  | ind n ih =>
    by_cases hnewline : '\n' ∈ text
    · obtain ⟨line, rest, rfl, _⟩ := List.eq_append_cons_of_mem hnewline
      have hrest : rest.length < n := by
        rw [← hlength, List.length_append, List.length_cons]
        omega
      rw [List.append_assoc, List.cons_append, linesOf_append_newline, linesOf_append_newline,
        ih rest.length hrest rest rfl]
    · have hpadded : '\n' ∉ text ++ blanks := by
        rw [List.mem_append, not_or]
        exact ⟨hnewline, hblanks.newline_not_mem⟩
      rw [linesOf_of_not_mem hpadded, linesOf_of_not_mem hnewline,
        trim_append_blanks hblanks.isBlank]

/-- Blanks at the ends of a line are trimmed off. -/
theorem linesOf_padded {before line after : List Char} (hbefore : IsPadding before)
    (hafter : IsPadding after) (hline : '\n' ∉ line) :
    linesOf (before ++ line ++ after) = linesOf line := by
  have hbefore_line : '\n' ∉ before ++ line := by
    rw [List.mem_append, not_or]
    exact ⟨hbefore.newline_not_mem, hline⟩
  rw [linesOf_append_padding hafter, linesOf_of_not_mem hbefore_line, linesOf_of_not_mem hline,
    trim_blanks_append hbefore.isBlank]

end Script

namespace Text

open Script

/-- A change to the layout is not seen in the lines. -/
theorem Relaid.linesOf_eq {a b : List Char} (h : Relaid a b) : linesOf a = linesOf b := by
  cases h with
  | carriageReturn a b =>
    have hreturn : a ++ '\r' :: '\n' :: b = (a ++ ['\r']) ++ '\n' :: b := by simp
    rw [hreturn, linesOf_append_newline, linesOf_append_newline,
      linesOf_append_padding isPadding_return]
  | blankLine earlier later hblank =>
    rw [linesOf_joinLines, linesOf_joinLines, List.flatMap_append, List.flatMap_append,
      List.flatMap_cons, linesOf_of_isPadding hblank, List.nil_append]
  | padded earlier later hbefore hafter hline =>
    rw [linesOf_joinLines, linesOf_joinLines, List.flatMap_append, List.flatMap_append,
      List.flatMap_cons, List.flatMap_cons, linesOf_padded hbefore hafter hline]

/-! ## What the layout is all of -/

/-- Line by line, those that are blank can be taken out and the others trimmed. -/
theorem relaid_filter_trim (earlier : List (List Char)) {pieces : List (List Char)}
    (hpieces : ∀ piece ∈ pieces, '\n' ∉ piece) :
    Relation.EqvGen Relaid (joinLines (earlier ++ pieces))
      (joinLines (earlier ++ (pieces.map trim).filter fun line => !line.isEmpty)) := by
  induction pieces generalizing earlier with
  | nil => exact .refl _
  | cons piece rest ih =>
    rw [List.forall_mem_cons] at hpieces
    obtain ⟨hpiece, hrest⟩ := hpieces
    -- the blanks at both ends of the piece, which has no newline among them
    obtain ⟨before, after, hbefore, hafter, htrim⟩ := exists_blanks_trim_blanks piece
    have hbefore' : IsPadding before :=
      isPadding_of_blanks hbefore fun hc => hpiece (by rw [htrim]; simp [hc])
    have hafter' : IsPadding after :=
      isPadding_of_blanks hafter fun hc => hpiece (by rw [htrim]; simp [hc])
    rw [List.map_cons]
    by_cases hempty : trim piece = []
    · -- a blank line is taken out
      have hblank : IsPadding piece := by
        refine isPadding_of_blanks ?_ hpiece
        intro c hc
        rw [htrim, hempty, List.append_nil, List.mem_append] at hc
        exact hc.elim (hbefore c) (hafter c)
      have hout : Relation.EqvGen Relaid (joinLines (earlier ++ piece :: rest))
          (joinLines (earlier ++ rest)) := .symm _ _ (.rel _ _ (.blankLine earlier rest hblank))
      rw [List.filter_cons_of_neg (by simp [hempty])]
      exact .trans _ _ _ hout (ih earlier hrest)
    · -- any other line is trimmed, and then counts as an earlier one
      have htrimmed : Relaid (joinLines (earlier ++ trim piece :: rest))
          (joinLines (earlier ++ (before ++ trim piece ++ after) :: rest)) :=
        .padded earlier rest hbefore' hafter' fun hc => hpiece (mem_of_mem_trim hc)
      rw [← htrim] at htrimmed
      have hdone := ih (earlier ++ [trim piece]) hrest
      simp only [List.append_assoc, List.singleton_append] at hdone
      rw [List.filter_cons_of_pos (by simp [hempty])]
      exact .trans _ _ _ (.symm _ _ (.rel _ _ htrimmed)) hdone

/-- Every text can be laid out as its lines, each on a line of its own. -/
theorem relaid_joinLines_linesOf (text : List Char) :
    Relation.EqvGen Relaid text (joinLines (linesOf text)) := by
  have hpieces : ∀ piece ∈ split '\n' text, '\n' ∉ piece := fun _ => not_mem_of_mem_split
  have hrelaid := relaid_filter_trim [] hpieces
  rw [List.nil_append, joinLines_split, List.nil_append] at hrelaid
  exact hrelaid

/-- Texts have the same lines just where one can be laid out as the other. -/
theorem linesOf_eq_iff {a b : List Char} : linesOf a = linesOf b ↔ Relation.EqvGen Relaid a b := by
  constructor
  · intro hlines
    -- both are laid out as the same text
    have ha := relaid_joinLines_linesOf a
    rw [hlines] at ha
    exact .trans _ _ _ ha (.symm _ _ (relaid_joinLines_linesOf b))
  · intro hrelaid
    induction hrelaid with
    | rel a b h => exact h.linesOf_eq
    | refl a => rfl
    | symm a b _ ih => exact ih.symm
    | trans a b c _ _ ih ih' => exact ih.trans ih'

end Text

/-- The lines of a script are a normal form of its text. They are what the usual line ends make of
it, trimmed, without those that are then empty. A newline parts a text in two that have their lines
one after the other. Every line says something, begins and ends with what is no blank, and is one
line. Two texts have the same lines just where each comes of the other by changes of its layout:
carriage returns before newlines, blank lines, and blanks at the ends of lines, more of them or
fewer, in any number and at any places. And the lines, joined by newlines, are a text with the same
lines. -/
theorem script_lines_are_normal_form (path : String) :
    let lines (text : List Char) : List String := (Script.ofText path text).lines
    (∀ text, lines text =
      (((endedLines text).map trim).filter fun line => !line.isEmpty).map String.ofList) ∧
    (∀ a b, lines (a ++ '\n' :: b) = lines a ++ lines b) ∧
    (∀ text, ∀ line ∈ lines text, line ≠ "" ∧ (∀ c ∈ line.toList.head?, isBlank c = false) ∧
      (∀ c ∈ line.toList.getLast?, isBlank c = false) ∧ '\n' ∉ line.toList) ∧
    (∀ a b, lines a = lines b ↔ Relation.EqvGen Relaid a b) ∧
    ∀ text, lines (joinLines ((lines text).map String.toList)) = lines text := by
  intro lines
  have hlines : ∀ text, lines text = (Script.linesOf text).map String.ofList := fun _ => rfl
  have hchars : ∀ text, (lines text).map String.toList = Script.linesOf text := by
    intro text
    rw [hlines, List.map_map]
    simp
  refine ⟨?_, ?_, ?_, ?_, ?_⟩
  · intro text
    rw [hlines, Script.linesOf_eq_endedLines]
  · intro a b
    rw [hlines, Script.linesOf_append_newline, List.map_append, ← hlines, ← hlines]
  · intro text line hline
    obtain ⟨chars, hmem, rfl⟩ := List.mem_map.mp hline
    obtain ⟨hne, htrim, hnewline⟩ := Script.of_mem_linesOf hmem
    rw [String.toList_ofList]
    have hfirst := isBlank_head?_trim chars
    have hlast := isBlank_getLast?_trim chars
    rw [htrim] at hfirst hlast
    exact ⟨by simpa using hne, hfirst, hlast, hnewline⟩
  · intro a b
    rw [← linesOf_eq_iff]
    constructor
    · intro h
      rw [← hchars a, h, hchars b]
    · intro h
      rw [hlines, hlines, h]
  · intro text
    rw [hchars, hlines, Script.linesOf_joinLines_linesOf, ← hlines]

/-- Two layouts of three lines: with either line end, with blank lines of several kinds, and with a
last line that is ended or not. A carriage return within a line is left where it is. -/
theorem script_lines_of_two_layouts :
    let a := "PLACE 0,0,NORTH\n\n  MO\rVE  \r\n\t\nREPORT\n".toList
    let b := "\u2003PLACE 0,0,NORTH\r\nMO\rVE\n \u3000\r\n\nREPORT".toList
    let lines (text : List Char) : List String := (Script.ofText "demo.txt" text).lines
    lines a = ["PLACE 0,0,NORTH", "MO\rVE", "REPORT"] ∧ Relation.EqvGen Relaid a b ∧
      lines (a ++ '\n' :: b) = lines a ++ lines b ∧ "MO\rVE" ∈ lines a ∧
      '\n' ∉ "MO\rVE".toList := by
  intro a b lines
  have ha : lines a = ["PLACE 0,0,NORTH", "MO\rVE", "REPORT"] := by decide +kernel
  have hb : lines b = ["PLACE 0,0,NORTH", "MO\rVE", "REPORT"] := by decide +kernel
  have hmem : "MO\rVE" ∈ lines a := by rw [ha]; simp
  obtain ⟨_, happend, hheld, hsame, _⟩ := script_lines_are_normal_form "demo.txt"
  exact ⟨ha, (hsame a b).mp (ha.trans hb.symm), happend a b, hmem,
    (hheld a "MO\rVE" hmem).2.2.2⟩

end ToyRobot
