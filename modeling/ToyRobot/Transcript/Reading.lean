import ToyRobot.Text.Json.Reading
import ToyRobot.Transcript

/-!
# Reading entries

An entry is read from the fields of a record by their names. Where the output or the error is left
out there is none, and where the warnings are left out there were none; the command and the success
must be there. A field of another kind than its name asks for makes the record no entry, and fields
with other names do not count. Main statement: a written entry is read back (`Entry.ofJson?_json`).
-/

namespace ToyRobot

open Text

namespace Entry

/-! ## Fields by name -/

def text? (fields : Json.Record) (name : String) : Option String :=
  match fields.lookup name with
  | some (.text value) => some value
  | _ => none

def flag? (fields : Json.Record) (name : String) : Option Bool :=
  match fields.lookup name with
  | some (.flag value) => some value
  | _ => none

/-- A text that may be left out, and is none then. -/
def optionalText? (fields : Json.Record) (name : String) : Option (Option String) :=
  match fields.lookup name with
  | some (.text value) => some (some value)
  | some _ => none
  | none => some none

/-- A list of texts that may be left out, and is empty then. -/
def texts? (fields : Json.Record) (name : String) : Option (List String) :=
  match fields.lookup name with
  | some (.texts values) => some values
  | some _ => none
  | none => some []

def ofRecord? (fields : Json.Record) : Option Entry := do
  let command ← text? fields "command"
  let success ← flag? fields "success"
  let output ← optionalText? fields "output"
  let error ← optionalText? fields "error"
  let warnings ← texts? fields "warnings"
  return ⟨command, ⟨success, output, error⟩, warnings⟩

/-- The entry that a line of JSON spells. -/
def ofJson? (line : List Char) : Option Entry :=
  (Json.Record.read? line).bind ofRecord?

/-! ## Reading back -/

/-- A field that may be left out is found under its own name only, and only if it has a value. -/
theorem lookup_optional (field name : String) (value : Option String) :
    (optional field value).lookup name = if name = field then value.map .text else none := by
  cases value with
  | none => simp [optional]
  | some value =>
    by_cases h : name = field
    · simp [optional, h]
    · simp [optional, List.lookup_cons, beq_eq_false_iff_ne.mpr h, h]

theorem optionalText?_of_lookup {fields : Json.Record} {name : String} {value : Option String}
    (h : fields.lookup name = value.map .text) : optionalText? fields name = some value := by
  rw [optionalText?, h]
  cases value <;> rfl

section

variable (e : Entry)

theorem text?_command : text? e.record "command" = some e.command := by
  simp [text?, record]

theorem flag?_success : flag? e.record "success" = some e.outcome.success := by
  simp [flag?, record, List.lookup_cons]

theorem optionalText?_output : optionalText? e.record "output" = some e.outcome.output := by
  apply optionalText?_of_lookup
  cases hwarnings : e.warnings <;>
    simp [record, List.lookup_cons, List.lookup_append, lookup_optional, hwarnings]

theorem optionalText?_error : optionalText? e.record "error" = some e.outcome.error := by
  apply optionalText?_of_lookup
  cases hwarnings : e.warnings <;>
    simp [record, List.lookup_cons, List.lookup_append, lookup_optional, hwarnings]

theorem texts?_warnings : texts? e.record "warnings" = some e.warnings := by
  cases hwarnings : e.warnings <;>
    simp [texts?, record, List.lookup_cons, List.lookup_append, lookup_optional, hwarnings]

theorem ofRecord?_record : ofRecord? e.record = some e := by
  rw [ofRecord?, text?_command, flag?_success, optionalText?_output, optionalText?_error,
    texts?_warnings]
  rfl

/-- An entry that is written as a line of JSON is read back. -/
theorem ofJson?_json : ofJson? e.json.toList = some e := by
  rw [ofJson?, json, Json.Record.read?_write, Option.bind_some, ofRecord?_record]

end

end Entry

end ToyRobot
