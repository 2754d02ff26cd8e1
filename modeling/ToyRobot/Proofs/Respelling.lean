import ToyRobot.Proofs.Piped
import ToyRobot.Proofs.Spelling

/-!
# What a spelling does not say

A line can be spelled again with other small and capital letters and with other blanks around it
(`Respelled`). It is looked at in two ways, as a command and as a farewell, which do not mean the
same by upper case: commands are read in the full one, farewells in that of ASCII. Both begin by
trimming, and neither sees more of a line than is left of it trimmed and in ASCII upper case
(`Respelled.asciiUpperCase_trim_eq`). The words of farewell are in that form already and are no
commands in it, so no line is both (`ofLine?_of_isFarewell`).
-/

namespace ToyRobot

open Text

/-! ## Lines spelled again -/

/-- Two spellings of a line: the letters of ASCII may differ in their case, and there may be other
blanks at the ends, or none. -/
inductive Respelled : String → String → Prop where
  | between {before text after before' text' after' : List Char} :
      (∀ c ∈ before, isBlank c) → (∀ c ∈ after, isBlank c) → (∀ c ∈ before', isBlank c) →
      (∀ c ∈ after', isBlank c) → asciiUpperCase text = asciiUpperCase text' →
      Respelled (String.ofList (before ++ text ++ after))
        (String.ofList (before' ++ text' ++ after'))

namespace Respelled

variable {line line' : String}

/-- Trimmed and in ASCII upper case, two spellings are one. -/
theorem asciiUpperCase_trim_eq (h : Respelled line line') :
    asciiUpperCase (trim line.toList) = asciiUpperCase (trim line'.toList) := by
  cases h with
  | between hbefore hafter hbefore' hafter' hcase =>
    rw [String.toList_ofList, String.toList_ofList, trim_append_blanks hafter,
      trim_append_blanks hafter', trim_blanks_append hbefore, trim_blanks_append hbefore',
      ← trim_asciiUpperCase, ← trim_asciiUpperCase, hcase]

/-- Two spellings are read as the same command. -/
theorem ofLine?_eq (h : Respelled line line') : Command.ofLine? line' = Command.ofLine? line := by
  have hupper : ∀ text, upperCase text = upperCase (asciiUpperCase text) :=
    fun text => (upperCase_asciiUpperCase text).symm
  rw [Command.ofLine?, Command.ofLine?, hupper (trim line'.toList), hupper (trim line.toList),
    h.asciiUpperCase_trim_eq]

/-- Two spellings are both farewells, or neither is. -/
theorem isFarewell_eq (h : Respelled line line') : isFarewell line' = isFarewell line := by
  rw [isFarewell, isFarewell, h.asciiUpperCase_trim_eq]

end Respelled

/-! ## Farewells -/

/-- No farewell is a command. -/
theorem ofLine?_of_isFarewell {line : String} (h : isFarewell line = true) :
    Command.ofLine? line = none := by
  have hnone : ∀ word ∈ farewells, Command.ofUpperCase? (upperCase word.toList) = none := by
    decide +kernel
  obtain ⟨word, hword, hline⟩ := List.any_eq_true.mp h
  -- full upper case sees no more of a line than ASCII upper case leaves of it
  have hupper : upperCase (trim line.toList) = upperCase word.toList := by
    rw [← upperCase_asciiUpperCase, eq_of_beq hline]
  rw [Command.ofLine?, hupper]
  exact hnone word hword

namespace Session

/-- Of a line with a command a session sees the command alone. -/
theorem process_eq_of_ofLine? {line line' : String} {c : Command}
    (hread : Command.ofLine? line = some c) (hread' : Command.ofLine? line' = some c)
    (s : Session) : s.process line' = s.process line := by
  cases hadmits : s.admits c with
  | false => rw [process_passedOver hread hadmits, process_passedOver hread' hadmits]
  | true => rw [process_admitted hread hadmits, process_admitted hread' hadmits]

/-- Lines are played in two parts, the later ones from where the earlier ones have led. -/
theorem play_append (s : Session) (earlier later : List String) :
    s.play (earlier ++ later) =
      ((s.play earlier).1 ++ ((s.play earlier).2.play later).1,
        ((s.play earlier).2.play later).2) := by
  induction earlier generalizing s with
  | nil => rfl
  | cons line rest ih =>
    rw [List.cons_append, play_cons, play_cons, ih]
    simp

/-- In a script a farewell is complained of like any line that is no command, and passed. -/
theorem play_farewell {word : String} (h : isFarewell word = true) (s : Session)
    (later : List String) :
    s.play (word :: later) =
      (echo word :: ⟨.error, "Error: " ++ (Command.Unrecognized.ofLine word).message⟩ ::
        (s.play later).1, (s.play later).2) := by
  rw [play_cons, handle_unrecognized (ofLine?_of_isFarewell h)]
  rfl

end Session

/-- Case and outer blanks never matter. Two spellings of a line are read as the same command, or
both as none, and both are farewells or neither is. Any session goes on from them in the same way
and says the same; what comes of them is the same as well if they are a command, and if they are
none, each is quoted as it is spelled, trimmed. Moreover no line is both a farewell and a command:
in a script a farewell is an invalid command wherever it stands, which is complained of and changes
nothing for the lines after it. -/
theorem case_and_outer_blanks_never_matter {line line' : String} (h : Respelled line line') :
    Command.ofLine? line' = Command.ofLine? line ∧ isFarewell line' = isFarewell line ∧
    (∀ s : Session,
      (s.process line').session = (s.process line).session ∧
      (s.process line').notices = (s.process line).notices ∧
      match Command.ofLine? line with
      | some _ => (s.process line').outcome = (s.process line).outcome
      | none =>
        (s.process line).outcome =
          .failed ("Invalid command: " ++ String.ofList (trim line.toList)) ∧
        (s.process line').outcome =
          .failed ("Invalid command: " ++ String.ofList (trim line'.toList))) ∧
    ∀ word, isFarewell word = true →
      Command.ofLine? word = none ∧
      ∀ (s : Session) (earlier later : List String),
        let before := s.play earlier
        let rest := before.2.play later
        let complaint : Notice :=
          ⟨.error, "Error: " ++ ("Invalid command: " ++ String.ofList (trim word.toList))⟩
        s.play (earlier ++ word :: later) =
          (before.1 ++ echo word :: complaint :: rest.1, rest.2) := by
  refine ⟨h.ofLine?_eq, h.isFarewell_eq, ?_, ?_⟩
  · intro s
    cases hread : Command.ofLine? line with
    | none =>
      have hread' : Command.ofLine? line' = none := h.ofLine?_eq.trans hread
      rw [Session.process_unrecognized hread, Session.process_unrecognized hread']
      exact ⟨rfl, rfl, rfl, rfl⟩
    | some c =>
      have hread' : Command.ofLine? line' = some c := h.ofLine?_eq.trans hread
      rw [Session.process_eq_of_ofLine? hread hread']
      exact ⟨rfl, rfl, rfl⟩
  · -- a farewell in a script
    intro word hword
    refine ⟨ofLine?_of_isFarewell hword, ?_⟩
    intro s earlier later before rest complaint
    rw [Session.play_append, Session.play_farewell hword]
    rfl

/-- A placement spelled in two ways, with a letter beyond ASCII that stays as it is in both, and a
farewell behind it in a script. -/
theorem placement_respelled_before_farewell :
    let line := "  place 1,2,eAſt\t"
    let line' := "\u3000PLACE 1,2,EaſT"
    let s : Session := .fresh ⟨5, 5, by decide, by decide⟩
    Respelled line line' ∧ Command.ofLine? line = some (.place 1 2 .east) ∧
      Command.ofLine? line' = some (.place 1 2 .east) ∧
      (s.process line').session = (s.process line).session ∧
      isFarewell " Quit" = true ∧ Command.ofLine? " Quit" = none ∧
      (s.play [line, " Quit"]).2 = (s.play [line]).2 := by
  intro line line' s
  have hrespelled : Respelled line line' := by
    have hline : line =
        String.ofList ([' ', ' '] ++ "place 1,2,eAſt".toList ++ ['\t']) := by decide +kernel
    have hline' : line' =
        String.ofList (['\u3000'] ++ "PLACE 1,2,EaſT".toList ++ []) := by decide +kernel
    rw [hline, hline']
    exact .between (by simp [isBlank]) (by simp [isBlank]) (by simp [isBlank]) (by simp)
      (by decide +kernel)
  have hread : Command.ofLine? line = some (.place 1 2 .east) := by decide +kernel
  have hfarewell : isFarewell " Quit" = true := by decide +kernel
  clear_value line line' s
  obtain ⟨hsame, _, hprocess, hfarewells⟩ := case_and_outer_blanks_never_matter hrespelled
  obtain ⟨hnone, hplay⟩ := hfarewells " Quit" hfarewell
  refine ⟨hrespelled, hread, hsame.trans hread, (hprocess s).1, hfarewell, hnone, ?_⟩
  rw [← List.singleton_append, hplay]
  generalize s.play [line] = before
  rfl

end ToyRobot
