import ToyRobot.Text.UpperCase.Table

/-!
# Upper case

The two ways in which the program disregards case. Command lines are put into full Unicode upper
case, under which a few characters outside ASCII turn into ASCII letters (`ſ` into `S`) and some
into several (`ß` into `SS`). The names of directions and the words that end a conversation are
compared in ASCII upper case, which changes the letters `a` to `z` and nothing else.
-/

namespace ToyRobot.Text

/-- A text with the letters `a` to `z` in upper case and all else as it was. -/
def asciiUpperCase (text : List Char) : List Char :=
  text.map Char.toUpper

/-- Whether a run of the table covers a code point. -/
def CaseRun.covers (run : CaseRun) (n : Nat) : Bool :=
  run.first ≤ n && n ≤ run.last && (n - run.first) % run.stride == 0

/-- The upper-case form of a character, which may be several characters. -/
def upper (c : Char) : List Char :=
  let n := c.toNat
  if n < 0x80 then
    [c.toUpper]
  else
    match longForms.find? fun entry => entry.1 == n with
    | some entry => entry.2.map Char.ofNat
    | none =>
      match caseRuns.find? fun run => run.covers n with
      | some run => [Char.ofNat (run.image + (n - run.first))]
      | none => [c]

def upperCase (text : List Char) : List Char :=
  text.flatMap upper

def IsAscii (text : List Char) : Prop :=
  ∀ c ∈ text, c.toNat < 0x80

-- one character of the text after the other: elaborated in place, the bounded statement may come to
-- be decided over all characters there are
instance (text : List Char) : Decidable (IsAscii text) :=
  List.decidableBAll (fun c : Char => c.toNat < 0x80) text

/-! ## Characters that have an upper case -/

theorem toNat_ofNat {n : Nat} (h : n.isValidChar) : (Char.ofNat n).toNat = n := by
  rw [Char.ofNat, dif_pos h]
  rfl

/-- A letter `a` to `z` is put into `A` to `Z`, and any other character is left as it is. -/
theorem toUpper_cases (c : Char) :
    (0x61 ≤ c.toNat ∧ c.toNat ≤ 0x7A ∧ c.toUpper.toNat + 0x20 = c.toNat) ∨
    (¬ (0x61 ≤ c.toNat ∧ c.toNat ≤ 0x7A) ∧ c.toUpper = c) := by
  by_cases h : 'a'.val ≤ c.val ∧ c.val ≤ 'z'.val
  · have hfirst : 0x61 ≤ c.toNat := h.1
    have hlast : c.toNat ≤ 0x7A := h.2
    obtain ⟨_, hupper⟩ : ∃ hvalid, c.toUpper = ⟨c.val + ('A'.val - 'a'.val), hvalid⟩ :=
      ⟨_, dif_pos h⟩
    -- the difference of the two letters is negative, and comes out modulo the width
    have hcode : c.toUpper.toNat = (c.toNat + 0xFFFFFFE0) % 0x100000000 := by
      rw [hupper]
      exact UInt32.toNat_add _ _
    exact .inl ⟨hfirst, hlast, by omega⟩
  · exact .inr ⟨h, dif_neg h⟩

/-- Outside ASCII there are no letters `a` to `z`. -/
theorem toUpper_of_not_ascii {c : Char} (h : ¬ c.toNat < 0x80) : c.toUpper = c := by
  rcases toUpper_cases c with ⟨_, hlast, _⟩ | ⟨_, hsame⟩
  · omega
  · exact hsame

theorem toNat_toUpper_lt {c : Char} (h : c.toNat < 0x80) : c.toUpper.toNat < 0x80 := by
  rcases toUpper_cases c with ⟨_, _, hcode⟩ | ⟨_, hsame⟩
  · omega
  · rw [hsame]
    exact h

theorem toUpper_toUpper (c : Char) : c.toUpper.toUpper = c.toUpper := by
  rcases toUpper_cases c with ⟨hfirst, hlast, hcode⟩ | ⟨_, hsame⟩
  · rcases toUpper_cases c.toUpper with ⟨hsmall, _, _⟩ | ⟨_, hsame⟩
    · omega
    · exact hsame
  · rw [hsame, hsame]

theorem upper_of_ascii {c : Char} (h : c.toNat < 0x80) : upper c = [c.toUpper] :=
  if_pos h

/-- Outside ASCII a character has a longer form, or lies in a run, or is its own upper case. -/
theorem upper_cases {c : Char} (h : ¬ c.toNat < 0x80) :
    (∃ entry ∈ longForms, entry.1 = c.toNat ∧ upper c = entry.2.map Char.ofNat) ∨
    (∃ run ∈ caseRuns, run.first ≤ c.toNat ∧ c.toNat ≤ run.last ∧
      upper c = [Char.ofNat (run.image + (c.toNat - run.first))]) ∨
    upper c = [c] := by
  simp only [upper, if_neg h]
  cases hlong : longForms.find? fun entry => entry.1 == c.toNat with
  | some entry =>
    have hcode := List.find?_some hlong
    exact .inl ⟨entry, List.mem_of_find?_eq_some hlong, eq_of_beq hcode, rfl⟩
  | none =>
    cases hrun : caseRuns.find? fun run => run.covers c.toNat with
    | some run =>
      have hcovers := List.find?_some hrun
      simp only [CaseRun.covers, Bool.and_eq_true, decide_eq_true_eq] at hcovers
      exact .inr (.inl ⟨run, List.mem_of_find?_eq_some hrun, hcovers.1.1, hcovers.1.2, rfl⟩)
    | none => exact .inr (.inr rfl)

/-- A letter and its ASCII upper case have the same upper case. -/
theorem upper_toUpper (c : Char) : upper c.toUpper = upper c := by
  by_cases h : c.toNat < 0x80
  · rw [upper_of_ascii (toNat_toUpper_lt h), upper_of_ascii h, toUpper_toUpper]
  · rw [toUpper_of_not_ascii h]

/-- The full upper case takes in the ASCII one. -/
theorem upperCase_asciiUpperCase (text : List Char) :
    upperCase (asciiUpperCase text) = upperCase text := by
  have hupper : (fun c : Char => upper c.toUpper) = upper := funext upper_toUpper
  rw [upperCase, asciiUpperCase, List.flatMap_map, hupper]
  rfl

theorem upperCase_append (a b : List Char) : upperCase (a ++ b) = upperCase a ++ upperCase b :=
  List.flatMap_append

/-- Where each character has a single upper case, upper case is taken character by character. -/
theorem upperCase_eq_map {f : Char → Char} {text : List Char} (h : ∀ c ∈ text, upper c = [f c]) :
    upperCase text = text.map f := by
  induction text with
  | nil => rfl
  | cons c rest ih =>
    rw [List.forall_mem_cons] at h
    have hrest : rest.flatMap upper = rest.map f := ih h.2
    rw [upperCase, List.flatMap_cons, h.1, hrest, List.singleton_append, List.map_cons]

/-- A text is in upper case if each of its characters is. -/
theorem upperCase_eq_self {text : List Char} (h : ∀ c ∈ text, upper c = [c]) :
    upperCase text = text := by
  have hmap : upperCase text = text.map id := upperCase_eq_map h
  rw [hmap, List.map_id]

/-- A text in ASCII upper case that is all in ASCII is in full upper case. -/
theorem upperCase_of_asciiUpperCase_eq {text word : List Char} (h : asciiUpperCase text = word)
    (hword : IsAscii word) : upperCase text = word := by
  subst h
  rw [← upperCase_asciiUpperCase]
  apply upperCase_eq_self
  intro c hc
  obtain ⟨d, _, rfl⟩ := List.mem_map.mp hc
  rw [upper_of_ascii (hword _ hc), toUpper_toUpper]

end ToyRobot.Text
