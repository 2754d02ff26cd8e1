import ToyRobot.Proofs.Batch
import ToyRobot.Transcript.Reading

/-!
# One object per line

A batch can print its transcript as lines of JSON. No entry, whatever texts it holds, is written
with a newline inside (`Entry.newline_not_mem_json`), so the newlines of the output are those behind
the entries, and to cut it at the newlines gives back what each entry was written as
(`split_entryLines`). From there the reader of entries gives the entries themselves. The files of a
batch only add to one list of entries (`runFiles_json`), so this holds for the output as a whole.
-/

namespace ToyRobot

open Text

/-! ## Lines of entries -/

/-- An entry is written on one line, whatever its texts are. -/
theorem Entry.newline_not_mem_json (e : Entry) : '\n' ∉ e.json.toList := by
  intro hmem
  have hprintable : 0x20 ≤ '\n'.toNat := e.record.printable_write '\n' hmem
  exact absurd hprintable (by decide)

namespace CommandLine

/-- The lines of entries come one after another. -/
theorem entryLines_append (first later : List Entry) :
    entryLines (first ++ later) = entryLines first ++ entryLines later := by
  rw [entryLines, List.map_append, String.join_append, entryLines, entryLines]

/-- Lines of entries, cut at the newlines: the entries as they are written, and nothing behind the
last newline. -/
theorem split_entryLines (entries : List Entry) :
    split '\n' (entryLines entries).toList = entries.map (fun e => e.json.toList) ++ [[]] := by
  have hlines : ∀ line ∈ entries.map fun e => e.json.toList, '\n' ∉ line :=
    List.forall_mem_map.mpr fun e _ => e.newline_not_mem_json
  have htext : (entryLines entries).toList =
      (entries.map fun e => e.json.toList).flatMap (· ++ ['\n']) := by
    simp [entryLines, List.flatMap_map]
  rw [htext, split_flatMap_concat hlines]

/-- The lines are read back as the entries. -/
theorem map_ofJson?_json (entries : List Entry) :
    (entries.map fun e => e.json.toList).map Entry.ofJson? = entries.map some := by
  rw [List.map_map]
  apply List.map_congr_left
  intro e _
  rw [Function.comp_apply, e.ofJson?_json]

end CommandLine

/-! ## The entries of a batch -/

/-- Transcribes scripts one after another, with the gate closed before each. -/
def Simulation.transcribeAll : Simulation → List Script → List Entry
  | _, [] => []
  | sim, script :: rest =>
    let written := sim.reset.transcribe script
    written.1 ++ written.2.2.transcribeAll rest

namespace CommandLine

theorem runScript_json (console : Console) (sim : Simulation) (script : Script) :
    runScript .json console sim script =
      (.ofText (entryLines (sim.transcribe script).1), (sim.transcribe script).2.2) := rfl

/-- A batch whose files can all be read prints their entries, and nothing else. -/
theorem runFiles_json (console : Console) (sim : Simulation)
    {read : String → Except ReadFailure (List UInt8)} {bytes : String → List UInt8}
    {files : List String} (hread : ∀ path ∈ files, read path = .ok (bytes path)) :
    runFiles .json console false sim (files.map fun path => (path, read path)) =
      (.ofText (entryLines (sim.transcribeAll
        (files.map fun path => Script.ofBytes path (bytes path)))), none) := by
  induction files generalizing sim with
  | nil => rfl
  | cons path others ih =>
    rw [List.forall_mem_cons] at hread
    -- the other files find the simulation as the first one leaves it
    have hothers := ih (sim.reset.transcribe (.ofBytes path (bytes path))).2.2 hread.2
    rw [List.map_cons, hread.1, runFiles_ok, runScript_json, hothers, List.map_cons,
      Simulation.transcribeAll, entryLines_append]
    rfl

/-- The transcript is one object per line. Whatever texts an entry holds, its JSON has no character
below U+0020 and is read back as that entry. So if all files of a batch can be read, wherever they
are, what is printed ends with a newline, and its lines are read back as the entries of all files,
in order. -/
theorem transcript_is_one_object_per_line :
    (∀ e : Entry, (∀ c ∈ e.json.toList, 0x20 ≤ c.toNat) ∧ Entry.ofJson? e.json.toList = some e) ∧
      ∀ (t : Table) (color : Bool) (read : String → Except ReadFailure (List UInt8))
        (files : List String) (bytes : String → List UInt8),
        (∀ path ∈ files, read path = .ok (bytes path)) →
        let settings : Settings := ⟨t.width, t.height, color⟩
        let printed := (batchEnding settings .json read files).output.stdout
        let entries := (Simulation.fresh t).transcribeAll
          (files.map fun path => Script.ofBytes path (bytes path))
        (∀ around : Surroundings, around.folder.read = read →
          (carryOut around (.batch settings .json files)).output.stdout = printed) ∧
        ∃ lines, split '\n' printed.toList = lines ++ [[]] ∧
          lines.map Entry.ofJson? = entries.map some := by
  refine ⟨fun e => ⟨e.record.printable_write, e.ofJson?_json⟩, ?_⟩
  intro t color read files bytes hread settings printed entries
  have htable : settings.table = .ok t := by
    simp [settings, Settings.table, Table.ofSize, t.width_pos, t.height_pos]
  -- run with every file readable, the batch prints the lines of all entries
  have hprinted : printed = entryLines entries := by
    show (batchEnding settings .json read files).output.stdout = _
    rw [batchEnding_of_table .json htable, runFiles_json ⟨color⟩ (.fresh t) hread]
    rfl
  refine ⟨?_, entries.map fun e => e.json.toList, ?_, map_ofJson?_json entries⟩
  · intro around haround
    rw [carryOut_batch, haround]
  · rw [hprinted, split_entryLines]

/-- Two files, one of them under an absolute path, with a quote, a backslash and a control in one of
their lines. -/
theorem transcript_of_two_files :
    let bytes : String → List UInt8 := fun path =>
      if path = "ask" then "REPORT".toUTF8.toList
      else "PLACE 1,2,EAST\nsay \x22\\\x01\x22\nREPORT".toUTF8.toList
    let read : String → Except ReadFailure (List UInt8) := fun path =>
      if path = "ask" ∨ path = "/tmp/place" then .ok (bytes path) else .error .missing
    let files := ["/tmp/place", "ask"]
    let printed := (batchEnding ⟨5, 5, true⟩ .json read files).output.stdout
    (∀ path ∈ files, read path = .ok (bytes path)) ∧
      ∃ lines, split '\n' printed.toList = lines ++ [[]] ∧ lines.map Entry.ofJson? = [
        some ⟨"PLACE 1,2,EAST", .done, []⟩,
        some ⟨"say \x22\\\x01\x22", .failed "Invalid command: say \x22\\\x01\x22", []⟩,
        some ⟨"REPORT", .printing "1,2,EAST", []⟩,
        some ⟨"REPORT", .done, [Session.passedOver.text]⟩] := by
  intro bytes read files printed
  have hread : ∀ path ∈ files, read path = .ok (bytes path) := by
    intro path hpath
    simp only [files, List.mem_cons, List.not_mem_nil, or_false] at hpath
    exact if_pos hpath.symm
  refine ⟨hread, ?_⟩
  rcases transcript_is_one_object_per_line.2 .standard true read files bytes hread with
    ⟨_, lines, hsplit, hlines⟩
  refine ⟨lines, hsplit, hlines.trans ?_⟩
  decide +kernel

end CommandLine

end ToyRobot
