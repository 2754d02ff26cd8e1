/-!
# Cutting at a separator

Lines are cut at newlines and the fields of a command at commas. Both are the same function on
lists: the pieces between the separators, of which there is always at least one.
-/

namespace ToyRobot.Text

variable {α : Type} [DecidableEq α]

/-- The pieces of a list between the occurrences of `sep`, empty ones included. -/
def split (sep : α) : List α → List (List α)
  | [] => [[]]
  | x :: rest =>
    if x = sep then
      [] :: split sep rest
    else
      match split sep rest with
      | [] => [[x]]
      | piece :: pieces => (x :: piece) :: pieces

@[simp] theorem split_nil (sep : α) : split sep [] = [[]] := rfl

theorem split_ne_nil (sep : α) (xs : List α) : split sep xs ≠ [] := by
  cases xs with
  | nil => simp
  | cons x rest =>
    rw [split]
    split
    · simp
    · split <;> simp

@[simp] theorem split_cons_self (sep : α) (rest : List α) :
    split sep (sep :: rest) = [] :: split sep rest := by
  simp [split]

theorem split_cons_of_ne {sep x : α} (h : x ≠ sep) {rest piece : List α}
    {pieces : List (List α)} (hrest : split sep rest = piece :: pieces) :
    split sep (x :: rest) = (x :: piece) :: pieces := by
  simp [split, h, hrest]

/-- A separator cuts a list in two that are split on their own. -/
theorem split_append_cons (sep : α) (a b : List α) :
    split sep (a ++ sep :: b) = split sep a ++ split sep b := by
  induction a with
  | nil => simp
  | cons x a ih =>
    by_cases h : x = sep
    · subst h
      simp [ih]
    · -- any other element joins the first piece, before and after the cut
      obtain ⟨piece, pieces, hp⟩ := List.exists_cons_of_ne_nil (split_ne_nil sep a)
      rw [hp, List.cons_append] at ih
      rw [List.cons_append, split_cons_of_ne h ih, split_cons_of_ne h hp, List.cons_append]

/-- A list without a separator is one piece. -/
theorem split_of_not_mem {sep : α} {xs : List α} (h : sep ∉ xs) : split sep xs = [xs] := by
  induction xs with
  | nil => rfl
  | cons x rest ih =>
    simp only [List.mem_cons, not_or] at h
    exact split_cons_of_ne (Ne.symm h.1) (ih h.2)

/-- No piece holds a separator. -/
theorem not_mem_of_mem_split {sep : α} {xs piece : List α} (h : piece ∈ split sep xs) :
    sep ∉ piece := by
  induction xs generalizing piece with
  | nil => simp_all
  | cons x rest ih =>
    by_cases hx : x = sep
    · subst hx
      rw [split_cons_self, List.mem_cons] at h
      rcases h with rfl | h
      · simp
      · exact ih h
    · obtain ⟨first, pieces, hp⟩ := List.exists_cons_of_ne_nil (split_ne_nil sep rest)
      rw [split_cons_of_ne hx hp, List.mem_cons] at h
      rcases h with rfl | h
      · have := ih (hp ▸ List.mem_cons_self)
        simpa [Ne.symm hx] using this
      · exact ih (hp ▸ List.mem_cons_of_mem _ h)

/-- Joining the pieces with something else between them replaces the separators by it. -/
theorem intercalate_split_eq_flatMap (sep : α) (joint xs : List α) :
    joint.intercalate (split sep xs) = xs.flatMap fun x => if x = sep then joint else [x] := by
  induction xs with
  | nil => rfl
  | cons x rest ih =>
    obtain ⟨piece, pieces, hp⟩ := List.exists_cons_of_ne_nil (split_ne_nil sep rest)
    rw [hp] at ih
    by_cases h : x = sep
    · subst h
      rw [split_cons_self, hp, List.intercalate_cons_cons, ih, List.flatMap_cons, if_pos rfl,
        List.nil_append]
    · rw [split_cons_of_ne h hp, List.flatMap_cons, if_neg h, ← ih]
      -- the first piece has grown, and what stands behind it is as it was
      cases pieces with
      | nil => rw [List.intercalate_singleton, List.intercalate_singleton, List.singleton_append]
      | cons next others =>
        rw [List.intercalate_cons_cons, List.intercalate_cons_cons]
        rfl

/-- The pieces with separators between them are the list that was cut. -/
theorem intercalate_split (sep : α) (xs : List α) : [sep].intercalate (split sep xs) = xs := by
  have hsame : (fun x => if x = sep then [sep] else [x]) = fun x : α => [x] := by
    funext x
    split
    · rename_i h
      rw [h]
    · rfl
  rw [intercalate_split_eq_flatMap, hsame, List.flatMap_singleton']

/-- Pieces without separators are found again where they stand with separators between them. -/
theorem split_intercalate {sep : α} {pieces : List (List α)} (hne : pieces ≠ [])
    (h : ∀ piece ∈ pieces, sep ∉ piece) : split sep ([sep].intercalate pieces) = pieces := by
  induction pieces with
  | nil => exact absurd rfl hne
  | cons piece others ih =>
    have hpiece : split sep piece = [piece] := split_of_not_mem (h piece List.mem_cons_self)
    cases others with
    | nil => rw [List.intercalate_singleton, hpiece]
    | cons next rest =>
      have hothers := ih (List.cons_ne_nil next rest) fun p hp => h p (List.mem_cons_of_mem piece hp)
      rw [List.intercalate_cons_cons, List.append_assoc, List.singleton_append, split_append_cons,
        hpiece, hothers, List.singleton_append]

/-- Pieces with a separator behind each are cut behind the last one as well. -/
theorem split_flatMap_concat {sep : α} {pieces : List (List α)} (h : ∀ piece ∈ pieces, sep ∉ piece) :
    split sep (pieces.flatMap (· ++ [sep])) = pieces ++ [[]] := by
  induction pieces with
  | nil => rfl
  | cons piece rest ih =>
    rw [List.forall_mem_cons] at h
    rw [List.flatMap_cons, List.append_assoc, List.singleton_append, split_append_cons,
      split_of_not_mem h.1, ih h.2, List.singleton_append, List.cons_append]

/-- Cutting and joining undo each other. -/
theorem split_eq_iff {sep : α} {xs : List α} {pieces : List (List α)} :
    split sep xs = pieces ↔
      pieces ≠ [] ∧ (∀ piece ∈ pieces, sep ∉ piece) ∧ xs = [sep].intercalate pieces := by
  constructor
  · rintro rfl
    exact ⟨split_ne_nil sep xs, fun _ => not_mem_of_mem_split, (intercalate_split sep xs).symm⟩
  · rintro ⟨hne, h, rfl⟩
    exact split_intercalate hne h

end ToyRobot.Text
