import ToyRobot.CommandLine.Run
import ToyRobot.Proofs.FreshStart
import ToyRobot.Proofs.OnTable
import ToyRobot.Proofs.Retelling

/-!
# A batch is its files one by one

All files of a batch share one simulation, and a file can leave a robot behind. Between two files
the simulation is idle (`Simulation.Idle`): its log is empty and its table is the one it began with.
Once the gate is closed, an idle simulation is in concord with a new one, so a file is run in it as
it would be run alone (`runScript_reset`), and the simulation is idle again afterwards. By induction
a batch prints what its files print alone, up to the first that cannot be read. That the gate is not
closed before the first file makes no difference, since nothing has opened it (`runBatch_fresh`).
-/

namespace ToyRobot

/-! ## Files in sessions that are in concord -/

namespace Session

variable {a b : Session}

/-- Sessions in concord have the same transcript. -/
theorem Concord.transcribeLines (h : Concord a b) (lines : List String) :
    (Simulation.transcribeLines ⟨a, []⟩ lines).1 = (Simulation.transcribeLines ⟨b, []⟩ lines).1 := by
  induction lines generalizing a b with
  | nil => rfl
  | cons line rest ih =>
    have hline := h.process line
    have hentry : (a.process line).entry line = (b.process line).entry line := by
      unfold Response.entry
      rw [hline.outcome, hline.notices]
    rw [Simulation.transcribeLines_cons, Simulation.transcribeLines_cons, hentry, ih hline.session]

/-- In sessions in concord the same is said when lines are played. -/
theorem Concord.play (h : Concord a b) (lines : List String) :
    (a.play lines).1 = (b.play lines).1 := by
  rw [Simulation.play_eq_told, Simulation.play_eq_told, h.transcribeLines lines]

theorem Concord.playScript (h : Concord a b) (script : Script) :
    (a.playScript script).1 = (b.playScript script).1 := by
  show Script.opening script.path ++ (a.play script.drain.1).1 ++ Script.closing =
    Script.opening script.path ++ (b.play script.drain.1).1 ++ Script.closing
  rw [h.play script.drain.1]

end Session

/-! ## Between two files -/

namespace Simulation

variable {t : Table} {sim : Simulation}

/-- What every file of a batch finds: an empty log, and the table that the batch began with. -/
structure Idle (t : Table) (sim : Simulation) : Prop where
  log : sim.log = []
  table : sim.session.robot.table = t

theorem idle_mk {s : Session} (h : s.robot.table = t) : Idle t ⟨s, []⟩ :=
  ⟨rfl, h⟩

theorem idle_fresh (t : Table) : (fresh t).Idle t :=
  idle_mk rfl

theorem Idle.reset (h : sim.Idle t) : sim.reset.Idle t :=
  ⟨h.log, h.table⟩

theorem Idle.eq_mk (h : sim.Idle t) : sim = ⟨sim.session, []⟩ := by
  rw [← h.log]

/-- With the gate closed, an idle simulation cannot be told from a new one. -/
theorem Idle.concord_reset (h : sim.Idle t) : sim.reset.session.Concord (fresh t).session := by
  rw [← h.table]
  exact sim.session.concord_reset_fresh

/-- A transcript takes what is said out of the log again, so the simulation stays idle. -/
theorem Idle.transcribeLines (h : sim.Idle t) (lines : List String) :
    (sim.transcribeLines lines).2.Idle t := by
  induction lines generalizing sim with
  | nil => exact h
  | cons line rest ih =>
    -- the log is emptied after each line, and no line moves the robot to another table
    have htable := (sim.session.process_keeps line).table.trans h.table
    rw [h.eq_mk, transcribeLines_cons]
    exact ih (idle_mk htable)

/-- Playing lines does not change the table. -/
theorem Idle.play_table (h : sim.Idle t) (lines : List String) :
    (sim.session.play lines).2.robot.table = t := by
  have hlines := h.transcribeLines lines
  rw [h.eq_mk] at hlines
  rw [play_eq_told]
  exact hlines.table

end Simulation

namespace CommandLine

open Simulation Text

variable {t : Table} {sim : Simulation} (mode : Mode) (console : Console)

/-- A file that has been run leaves an idle simulation behind. -/
theorem runScript_idle (h : sim.Idle t) (script : Script) :
    (runScript mode console sim script).2.Idle t := by
  cases mode with
  | text => exact ⟨h.log, h.play_table script.drain.1⟩
  | json => exact h.transcribeLines script.drain.1

/-- With the gate closed, a file prints in an idle simulation what it prints in a new one. -/
theorem runScript_reset (h : sim.Idle t) (script : Script) :
    (runScript mode console sim.reset script).1 = (runScript mode console (fresh t) script).1 := by
  have hconcord := h.concord_reset
  cases mode with
  -- what is said depends on the session only
  | text =>
    show console.printAll (sim.reset.session.playScript script).1 =
      console.printAll ((fresh t).session.playScript script).1
    rw [hconcord.playScript script]
  -- the entries do too, as the log is empty to begin with
  | json =>
    show Output.ofText (entryLines (sim.reset.transcribeLines script.drain.1).1) =
      Output.ofText (entryLines ((fresh t).transcribeLines script.drain.1).1)
    rw [h.reset.eq_mk, hconcord.transcribeLines script.drain.1]
    rfl

/-! ## File after file -/

theorem exists_bytes_of_isOk {attempt : Except ReadFailure (List UInt8)} (h : attempt.isOk) :
    ∃ bytes, attempt = .ok bytes := by
  cases attempt with
  | ok bytes => exact ⟨bytes, rfl⟩
  | error cause => cases h

/-- A file that can be read is run with the gate closed, and so are those after it. -/
theorem runFiles_ok (sim : Simulation) (path : String) (bytes : List UInt8) (rest : List Source) :
    runFiles mode console false sim ((path, .ok bytes) :: rest) =
      ((runScript mode console sim.reset (.ofBytes path bytes)).1 ++
          (runFiles mode console false
            (runScript mode console sim.reset (.ofBytes path bytes)).2 rest).1,
        (runFiles mode console false
          (runScript mode console sim.reset (.ofBytes path bytes)).2 rest).2) :=
  rfl

/-- No file after one that cannot be read is run. -/
theorem runFiles_error (sim : Simulation) (path : String) (cause : ReadFailure)
    (rest : List Source) :
    runFiles mode console false sim ((path, .error cause) :: rest) = (.empty, some ⟨path, cause⟩) :=
  rfl

/-- In a new simulation the first file is run like all the others: the gate is closed anyway. -/
theorem runBatch_fresh (t : Table) (sources : List Source) :
    runBatch mode console (fresh t) sources = runFiles mode console false (fresh t) sources := by
  have hreset : (fresh t).reset = fresh t := rfl
  cases sources with
  | nil => rfl
  | cons source rest =>
    unfold runBatch runFiles
    rw [hreset]
    rfl

def printAlone (t : Table) (source : Source) : Output :=
  (runBatch mode console (fresh t) [source]).1

theorem printAlone_ok (t : Table) (path : String) (bytes : List UInt8) :
    printAlone mode console t (path, .ok bytes) =
      (runScript mode console (fresh t) (.ofBytes path bytes)).1 :=
  Output.append_empty _

/-- Files that can be read print what they print alone, and what comes after them finds an idle
simulation. -/
theorem runFiles_append {read : String → Except ReadFailure (List UInt8)} {files : List String}
    (hread : ∀ path ∈ files, (read path).isOk) (h : sim.Idle t) (rest : List Source) :
    ∃ sim' : Simulation, sim'.Idle t ∧
      runFiles mode console false sim ((files.map fun path => (path, read path)) ++ rest) =
        (.join (files.map fun path => printAlone mode console t (path, read path)) ++
          (runFiles mode console false sim' rest).1,
          (runFiles mode console false sim' rest).2) := by
  induction files generalizing sim with
  | nil => exact ⟨sim, h, by simp⟩
  | cons path others ih =>
    rw [List.forall_mem_cons] at hread
    rcases exists_bytes_of_isOk hread.1 with ⟨bytes, hbytes⟩
    -- the first file leaves an idle simulation behind, and that is all the others ask for
    have hidle := runScript_idle mode console h.reset (.ofBytes path bytes)
    rcases ih hread.2 hidle with ⟨sim', hsim', hrest⟩
    refine ⟨sim', hsim', ?_⟩
    rw [List.map_cons, List.map_cons, hbytes, List.cons_append, runFiles_ok, hrest,
      Output.join_cons, printAlone_ok, ← runScript_reset mode console h, Output.append_assoc]

/-! ## How a batch ends -/

/-- How a batch ends, given what comes of reading each path. -/
def batchEnding (settings : Settings) (mode : Mode)
    (read : String → Except ReadFailure (List UInt8)) (files : List String) : Ending :=
  match settings.table with
  | .error e => .failed .empty (.ofSize e)
  | .ok table =>
    .ofBatch (runBatch mode ⟨settings.color⟩ (.fresh table)
      (files.map fun path => (path, read path)))

/-- The program reads the paths of a batch in its folder. -/
theorem carryOut_batch (around : Surroundings) (settings : Settings) (mode : Mode)
    (files : List String) :
    carryOut around (.batch settings mode files) =
      batchEnding settings mode around.folder.read files := rfl

section

variable {settings : Settings} (ht : settings.table = .ok t)
  {read : String → Except ReadFailure (List UInt8)} {files : List String}
  (hread : ∀ path ∈ files, (read path).isOk)

include ht

/-- On a table of the given size, a batch is its files run with the gate closed before each. -/
theorem batchEnding_of_table (files : List String) :
    batchEnding settings mode read files =
      .ofBatch (runFiles mode ⟨settings.color⟩ false (fresh t)
        (files.map fun path => (path, read path))) := by
  unfold batchEnding
  rw [ht, ← runBatch_fresh]

/-- Run alone, a file that can be read prints what it prints in a new simulation. -/
theorem output_alone {path : String} (hpath : (read path).isOk) :
    (batchEnding settings mode read [path]).output =
      printAlone mode ⟨settings.color⟩ t (path, read path) := by
  rcases exists_bytes_of_isOk hpath with ⟨bytes, hbytes⟩
  rw [batchEnding_of_table mode ht, List.map_singleton, hbytes]
  rfl

include hread

theorem map_output_alone :
    (files.map fun path => (batchEnding settings mode read [path]).output) =
      files.map fun path => printAlone mode ⟨settings.color⟩ t (path, read path) :=
  List.map_congr_left fun path hpath => output_alone mode ht (hread path hpath)

/-- If all files can be read, the batch prints what they print alone. -/
theorem batchEnding_of_readable :
    batchEnding settings mode read files =
      .finished (.join (files.map fun path => (batchEnding settings mode read [path]).output)) := by
  rcases runFiles_append mode ⟨settings.color⟩ hread (idle_fresh t) [] with ⟨sim', _, hbatch⟩
  rw [List.append_nil, runFiles, Output.append_empty] at hbatch
  rw [map_output_alone mode ht hread, batchEnding_of_table mode ht, hbatch]
  rfl

/-- At a file that cannot be read the batch fails, and what comes after the file does not count. -/
theorem batchEnding_of_unreadable {path : String} {cause : ReadFailure}
    (hcause : read path = .error cause)
    {read' : String → Except ReadFailure (List UInt8)}
    (hsame : ∀ other ∈ files ++ [path], read' other = read other) (later : List String) :
    batchEnding settings mode read' (files ++ [path] ++ later) =
      .failed (.join (files.map fun path => (batchEnding settings mode read [path]).output))
        (.ofUnreadable ⟨path, cause⟩) := by
  -- up to the unreadable path both ways of reading agree
  have hsources : ((files ++ [path] ++ later).map fun path => (path, read' path)) =
      (files.map fun path => (path, read path)) ++
        (path, .error cause) :: later.map fun path => (path, read' path) := by
    rw [List.map_append, List.map_congr_left fun other hother => by rw [hsame other hother],
      List.map_append, List.map_singleton, hcause, List.append_assoc, List.singleton_append]
  rcases runFiles_append mode ⟨settings.color⟩ hread (idle_fresh t)
    ((path, .error cause) :: later.map fun path => (path, read' path)) with ⟨sim', _, hbatch⟩
  rw [runFiles_error, Output.append_empty] at hbatch
  rw [map_output_alone mode ht hread, batchEnding_of_table mode ht, hsources, hbatch]
  rfl

end

/-! ## The failure of a batch -/

/-- A text with every line but the first set in by seven blanks. -/
def indented (text : String) : String :=
  String.ofList (text.toList.flatMap fun c => if c = '\n' then "\n       ".toList else [c])

/-- A cause stands behind what is put in front of it, and its further lines are set in. -/
theorem hang_eq_indented (front cause : String) :
    Failure.hang front "       " cause = front ++ indented cause ++ "\n" := by
  have hpieces : ((split '\n' cause.toList).map String.ofList).map String.toList =
      split '\n' cause.toList := by
    simp
  -- the lines are put together again with what sets them in between them
  have hlines : ("\n" ++ "       ").intercalate ((split '\n' cause.toList).map String.ofList) =
      indented cause := by
    apply String.toList_injective
    rw [String.toList_intercalate, hpieces, intercalate_split_eq_flatMap, indented,
      String.toList_ofList]
    rfl
  rw [Failure.hang, hlines]

/-- The failure of a batch names the file that could not be read, and then the causes. -/
theorem report_ofUnreadable (path : String) (cause : ReadFailure) :
    (Failure.ofUnreadable ⟨path, cause⟩).report =
      "Error: Failed to process file: " ++ path ++ "\n\nCaused by:\n" ++
        "    0: " ++ indented ("Failed to read file " ++ path ++ ": " ++ cause.message) ++ "\n" ++
        "    1: " ++ indented cause.message ++ "\n" := by
  have hhead : "Error: Failed to process file: " = "Error: " ++ "Failed to process file: " := rfl
  have hcaused : "\n\nCaused by:\n" = "\n" ++ "\nCaused by:\n" := rfl
  have hfirst : "    " ++ Decimal.natText 0 ++ ": " = "    0: " := by decide +kernel
  have hsecond : "    " ++ Decimal.natText 1 ++ ": " = "    1: " := by decide +kernel
  show "Error: " ++ ("Failed to process file: " ++ path) ++ "\n" ++ ("\nCaused by:\n" ++
    (Failure.hang ("    " ++ Decimal.natText 0 ++ ": ") "       "
        ("Failed to read file " ++ path ++ ": " ++ cause.message) ++
      (Failure.hang ("    " ++ Decimal.natText 1 ++ ": ") "       " cause.message ++ ""))) = _
  rw [hang_eq_indented, hang_eq_indented, hfirst, hsecond, hhead, hcaused, String.append_empty]
  simp only [String.append_assoc]

/-- The index of the first path that cannot be read, and past the end if there is none. -/
def firstUnreadable (read : String → Except ReadFailure (List UInt8)) (files : List String) : Nat :=
  files.findIdx fun path => !(read path).isOk

section

variable {read : String → Except ReadFailure (List UInt8)} {files : List String}

/-- There is no unreadable path just when all paths can be read. -/
theorem firstUnreadable_eq_length_iff :
    firstUnreadable read files = files.length ↔ ∀ path ∈ files, (read path).isOk := by
  unfold firstUnreadable
  rw [List.findIdx_eq_length]
  simp only [Bool.not_eq_false']

/-- All paths before the first unreadable one can be read. -/
theorem isOk_of_mem_take {path : String} (h : path ∈ files.take (firstUnreadable read files)) :
    (read path).isOk := by
  rcases List.mem_take_iff_getElem.mp h with ⟨i, hi, rfl⟩
  have hreadable := List.not_of_lt_findIdx (Nat.lt_of_lt_of_le hi (Nat.min_le_left ..))
  simpa using hreadable

/-- What stands at the index of the first unreadable path cannot be read. -/
theorem exists_cause_of_lt (hk : firstUnreadable read files < files.length) :
    ∃ cause, read files[firstUnreadable read files] = .error cause := by
  have hunreadable := List.findIdx_getElem (w := hk)
  cases hcause : read files[firstUnreadable read files] with
  | error cause => exact ⟨cause, rfl⟩
  | ok bytes =>
    unfold firstUnreadable at hcause
    rw [hcause] at hunreadable
    cases hunreadable

end

/-- A batch is its files one by one, up to the first that cannot be read. Given a table, let `k` be
the index of that file. What a batch prints on the output stream is what the files before `k` print
there when each is run alone, one after another, and on the error stream it is the same but for the
failure. If all files can be read, the run succeeds. If not, it fails, names the file at `k` and says
why it cannot be read; and no later file, whatever is in it, makes a difference. -/
theorem batch_is_its_files_one_by_one {settings : Settings} (hw : 0 < settings.width)
    (hh : 0 < settings.height) (mode : Mode) (read : String → Except ReadFailure (List UInt8))
    (files : List String) :
    let k := firstUnreadable read files
    let whole := batchEnding settings mode read files
    let alone := (files.take k).map fun path => (batchEnding settings mode read [path]).output
    (∀ around : Surroundings, around.folder.read = read → ∀ paths,
        carryOut around (.batch settings mode paths) = batchEnding settings mode read paths) ∧
      whole.output.stdout = String.join (alone.map Output.stdout) ∧
      (whole.exitCode = 0 ↔ ∀ path ∈ files, (read path).isOk) ∧
      (k = files.length → whole.output.stderr = String.join (alone.map Output.stderr)) ∧
      ∀ path, files[k]? = some path → ∃ cause, read path = .error cause ∧ whole.exitCode = 1 ∧
        whole.output.stderr = String.join (alone.map Output.stderr) ++
          ("Error: Failed to process file: " ++ path ++ "\n\nCaused by:\n" ++
            "    0: " ++ indented ("Failed to read file " ++ path ++ ": " ++ cause.message) ++ "\n" ++
            "    1: " ++ indented cause.message ++ "\n") ∧
        ∀ read' later, (∀ path ∈ files.take (k + 1), read' path = read path) →
          batchEnding settings mode read' (files.take (k + 1) ++ later) = whole := by
  intro k whole alone
  have ht : settings.table = .ok ⟨settings.width, settings.height, hw, hh⟩ := by
    simp [Settings.table, Table.ofSize, hw, hh]
  have hprogram : ∀ around : Surroundings, around.folder.read = read → ∀ paths,
      carryOut around (.batch settings mode paths) = batchEnding settings mode read paths := by
    intro around haround paths
    rw [carryOut_batch, haround]
  have hall : k = files.length ↔ ∀ path ∈ files, (read path).isOk := firstUnreadable_eq_length_iff
  have hbefore : ∀ path ∈ files.take k, (read path).isOk := fun _ => isOk_of_mem_take
  refine ⟨hprogram, ?_⟩
  by_cases hk : k < files.length
  · -- some file cannot be read
    rcases exists_cause_of_lt hk with ⟨cause, hcause⟩
    -- the files up to the unreadable one decide how a batch ends; this batch is one of many
    have hstops : ∀ read' later, (∀ path ∈ files.take (k + 1), read' path = read path) →
        batchEnding settings mode read' (files.take (k + 1) ++ later) =
          .failed (.join alone) (.ofUnreadable ⟨files[k], cause⟩) := by
      rw [← List.take_append_getElem hk]
      intro read' later hsame
      exact batchEnding_of_unreadable mode ht hbefore hcause hsame later
    have hwhole : whole = .failed (.join alone) (.ofUnreadable ⟨files[k], cause⟩) := by
      rw [← hstops read (files.drop (k + 1)) fun _ _ => rfl, List.take_append_drop]
    have hnotall : k ≠ files.length := Nat.ne_of_lt hk
    rw [hwhole]
    refine ⟨String.append_empty, iff_of_false Nat.one_ne_zero (mt hall.mpr hnotall), ?_, ?_⟩
    · exact fun hend => absurd hend hnotall
    · intro path hpath
      rw [List.getElem?_eq_getElem hk, Option.some_inj] at hpath
      rw [hpath] at hcause hstops ⊢
      refine ⟨cause, hcause, rfl, ?_, hstops⟩
      rw [← report_ofUnreadable]
      rfl
  · -- all files can be read
    have hend : k = files.length := Nat.le_antisymm List.findIdx_le_length (Nat.not_lt.mp hk)
    have htake : files.take k = files := List.take_of_length_le (Nat.not_lt.mp hk)
    have hwhole : whole = .finished (.join alone) := by
      show batchEnding settings mode read files = .finished (.join ((files.take k).map _))
      rw [htake]
      exact batchEnding_of_readable mode ht (hall.mp hend)
    rw [hwhole]
    refine ⟨rfl, iff_of_true rfl (hall.mp hend), fun _ => rfl, ?_⟩
    intro path hpath
    rw [hend, List.getElem?_eq_none (Nat.le_refl _)] at hpath
    cases hpath

/-- On the standard table a file that places the robot is followed by one that asks where it is, by
one that is missing, and by the first one again: the first two print what they print alone, and the
third is named in the failure. -/
theorem batch_stops_at_missing_file :
    let read : String → Except ReadFailure (List UInt8) := fun path =>
      if path = "place" then .ok "PLACE 1,2,EAST".toUTF8.toList
      else if path = "/ask" then .ok "REPORT".toUTF8.toList
      else .error .missing
    let whole := batchEnding {} .text read ["place", "/ask", "gone", "place"]
    0 < ({} : Settings).width ∧ 0 < ({} : Settings).height ∧ whole.exitCode = 1 ∧
      whole.output.stdout = (batchEnding {} .text read ["place"]).output.stdout ++
        (batchEnding {} .text read ["/ask"]).output.stdout ∧
      whole.output.stderr = "Error: Failed to process file: gone\n\nCaused by:\n" ++
        "    0: Failed to read file gone: No such file or directory (os error 2)\n" ++
        "    1: No such file or directory (os error 2)\n" := by
  intro read whole
  have hw : 0 < ({} : Settings).width := by decide
  have hh : 0 < ({} : Settings).height := by decide
  have hfirst : firstUnreadable read ["place", "/ask", "gone", "place"] = 2 := by decide
  rcases batch_is_its_files_one_by_one hw hh .text read ["place", "/ask", "gone", "place"] with
    ⟨_, hstdout, _, _, hfailure⟩
  rcases hfailure "gone" (by rw [hfirst]; rfl) with ⟨cause, hcause, hexit, hstderr, _⟩
  rw [hfirst, List.take_succ_cons, List.take_succ_cons, List.take_zero, List.map_cons,
    List.map_singleton] at hstdout hstderr
  refine ⟨hw, hh, hexit, ?_, ?_⟩
  · rw [hstdout, List.map_cons, List.map_singleton, String.join_cons, String.join_cons,
      String.join_nil, String.append_empty]
  · cases hcause
    rw [hstderr]
    decide +kernel

end CommandLine

end ToyRobot
