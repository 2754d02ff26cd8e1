import Mathlib.Algebra.Group.Nat.Defs
import Mathlib.Data.List.Basic
import Mathlib.Data.List.TakeWhile
import ToyRobot.Keyboard
import ToyRobot.Script

/-!
# Pieces of a byte stream

A keyboard cuts its bytes at newlines and decodes each piece; a script decodes all its bytes and
then cuts the text. Both have the same pieces (`Utf8.split_decode`): a newline byte ends whatever
sequence it stands in, and no newline comes out of any other byte, because a sequence that is being
read can only become a character beyond ASCII. So the lines of both are given by the pieces of the
bytes, and the two can be compared without looking at a decoder again.
-/

namespace ToyRobot

open Text

/-! ## Where newlines come from -/

namespace Text.Utf8

/-- The least code point that an unfinished character can still become. -/
def Unfinished.least (u : Unfinished) : Nat :=
  (u.bits * 64 + (u.low.toNat - 0x80)) * 64 ^ u.more

/-- No character that is being read can become an ASCII character. -/
def BeyondAscii (state : Option Unfinished) : Prop :=
  ∀ u ∈ state, 0x80 ≤ u.least

instance (state : Option Unfinished) : Decidable (BeyondAscii state) :=
  inferInstanceAs (Decidable (∀ u ∈ state, 0x80 ≤ u.least))

/-- A byte within a line: no newline comes out, and none can. -/
def Step.WithinLine (s : Step) : Prop :=
  '\n' ∉ s.1 ∧ BeyondAscii s.2

instance (s : Step) : Decidable s.WithinLine :=
  inferInstanceAs (Decidable ('\n' ∉ s.1 ∧ BeyondAscii s.2))

theorem beyondAscii_none : BeyondAscii none := by
  intro u hu
  cases hu

/-- A newline comes of its own code point only. -/
theorem char_ofNat_ne_newline {n : Nat} (h : n ≠ 0x0A) : Char.ofNat n ≠ '\n' := by
  intro hnewline
  by_cases hvalid : n.isValidChar
  · have hcode : (Char.ofNat n).toNat = n := toNat_ofNat hvalid
    rw [hnewline] at hcode
    exact h hcode.symm
  · -- a number that is no code point gives the null character
    rw [Char.ofNat, dif_neg hvalid] at hnewline
    revert hnewline
    decide

/-- What a first byte opens is beyond ASCII: the shortest forms of ASCII characters are the only
ones that are read. -/
theorem start_withinLine {b : UInt8} (h : b ≠ 0x0A) : (start b).WithinLine := by
  have all : ∀ n ∈ List.range 256, UInt8.ofNat n ≠ 0x0A → (start (UInt8.ofNat n)).WithinLine := by
    decide +kernel
  have hb := all b.toNat (List.mem_range.mpr b.toNat_lt)
  rw [UInt8.ofNat_toNat] at hb
  exact hb h

/-- A byte that is no newline gives none, whatever is being read. -/
theorem step_withinLine {state : Option Unfinished} (hstate : BeyondAscii state) {b : UInt8}
    (h : b ≠ 0x0A) : (step state b).WithinLine := by
  cases state with
  | none => exact start_withinLine h
  | some u =>
    have hleast : 0x80 ≤ u.least := hstate u rfl
    simp only [step]
    split
    · rename_i hbounds
      simp only [Bool.and_eq_true, decide_eq_true_eq, UInt8.le_iff_toNat_le] at hbounds
      -- the bits that the byte adds are at least those of the lower bound
      have hbits : u.bits * 64 + (u.low.toNat - 0x80) ≤ u.bits * 64 + (b.toNat - 0x80) := by omega
      have hgrows := Nat.le_trans hleast (Nat.mul_le_mul_right (64 ^ u.more) hbits)
      cases hmore : u.more with
      | zero =>
        rw [hmore, Nat.pow_zero, Nat.mul_one] at hgrows
        refine ⟨?_, beyondAscii_none⟩
        rw [List.mem_singleton]
        exact fun heq => char_ofNat_ne_newline (by omega) heq.symm
      | succ more =>
        rw [hmore] at hgrows
        refine ⟨List.not_mem_nil, ?_⟩
        intro v hv
        cases hv
        simp only [Unfinished.least, UInt8.reduceToNat, Nat.sub_self, Nat.add_zero, Nat.mul_assoc,
          ← Nat.pow_succ']
        exact hgrows
    · -- the byte does not continue the sequence, so it is read afresh
      have hstart := start_withinLine h
      refine ⟨?_, hstart.2⟩
      rw [List.mem_cons, not_or]
      exact ⟨by decide, hstart.1⟩

/-- Bytes without a newline are a text without one. -/
theorem newline_not_mem_decodeFrom {state : Option Unfinished} (hstate : BeyondAscii state)
    {bytes : List UInt8} (h : 0x0A ∉ bytes) : '\n' ∉ decodeFrom state bytes := by
  induction bytes generalizing state with
  | nil =>
    cases state with
    | none => exact List.not_mem_nil
    | some u =>
      show '\n' ∉ [replacement]
      decide
  | cons b rest ih =>
    rw [List.mem_cons, not_or] at h
    have hstep := step_withinLine hstate (Ne.symm h.1)
    have hrest := ih hstep.2 h.2
    simp only [decodeFrom, List.mem_append, not_or]
    exact ⟨hstep.1, hrest⟩

/-- It makes no difference whether bytes are cut at newlines before they are decoded or after. -/
theorem split_decode (bytes : List UInt8) :
    split '\n' (decode bytes) = (split newline bytes).map decode := by
  -- piece by piece: each piece is decoded on its own, as the newline after it is read afresh
  generalize hpieces : split newline bytes = pieces
  rw [split_eq_iff] at hpieces
  obtain ⟨hne, hwithin, rfl⟩ := hpieces
  induction pieces with
  | nil => exact absurd rfl hne
  | cons piece others ih =>
    have hpiece : '\n' ∉ decode piece :=
      newline_not_mem_decodeFrom beyondAscii_none (hwithin piece List.mem_cons_self)
    cases others with
    | nil => rw [List.intercalate_singleton, split_of_not_mem hpiece, List.map_singleton]
    | cons next rest =>
      have hothers := ih (List.cons_ne_nil next rest) fun p hp =>
        hwithin p (List.mem_cons_of_mem piece hp)
      have hcut : ∀ tail, decode (piece ++ newline :: tail) = decode piece ++ '\n' :: decode tail :=
        decode_append_newline piece
      rw [List.intercalate_cons_cons, List.append_assoc, List.singleton_append, hcut,
        split_append_cons, split_of_not_mem hpiece, hothers]
      rfl

end Text.Utf8

/-! ## The lines of a keyboard -/

namespace Keyboard

/-- The pieces of the stream that count as lines. What stands after the last newline is one of them
only if the stream ends there and there is something. -/
def pieces (k : Keyboard) : List (List UInt8) :=
  if k.broken = true ∨ (split newline k.unread).getLast? = some [] then
    (split newline k.unread).dropLast
  else
    split newline k.unread

/-- The piece before a newline counts, whatever comes after it. -/
theorem pieces_of_newline {k : Keyboard} {piece rest : List UInt8}
    (hunread : k.unread = piece ++ newline :: rest) (hpiece : newline ∉ piece) :
    k.pieces = piece :: pieces { k with unread := rest } := by
  have hsplit : split newline k.unread = piece :: split newline rest := by
    rw [hunread, split_append_cons, split_of_not_mem hpiece, List.singleton_append]
  have hrest := split_ne_nil newline rest
  -- the last piece is one of those after the newline
  have hlast : (piece :: split newline rest).getLast? = (split newline rest).getLast? := by
    obtain ⟨next, others, hcons⟩ := List.exists_cons_of_ne_nil hrest
    rw [hcons, List.getLast?_cons_cons]
  unfold pieces
  rw [hsplit, hlast, List.dropLast_cons_of_ne_nil hrest]
  split
  · rfl
  · rfl

/-- Without a newline there is one piece at most. -/
theorem pieces_of_no_newline {k : Keyboard} (hunread : newline ∉ k.unread) :
    k.pieces = if k.unread = [] ∨ k.broken then [] else [k.unread] := by
  have hlast : [k.unread].getLast? = some [] ↔ k.unread = [] := Option.some_inj
  unfold pieces
  rw [split_of_not_mem hunread]
  exact if_congr (or_comm.trans (or_congr_left hlast)) rfl rfl

/-! What is handed out next follows the same two cases. -/

/-- Up to the next newline is what is delivered next. -/
theorem next_of_newline {k : Keyboard} (hopen : k.finished = false) {piece rest : List UInt8}
    (hunread : k.unread = piece ++ newline :: rest) (hpiece : newline ∉ piece) :
    k.next = k.deliver piece rest := by
  have hwithin : ∀ b ∈ piece, (decide (b ≠ newline)) = true := by
    intro b hb
    exact decide_eq_true fun h => hpiece (h ▸ hb)
  have htake : k.unread.takeWhile (· ≠ newline) = piece := by
    rw [hunread, List.takeWhile_append_of_pos hwithin]
    simp
  have hdrop : k.unread.dropWhile (· ≠ newline) = newline :: rest := by
    rw [hunread, List.dropWhile_append_of_pos hwithin]
    simp
  simp only [next, hopen, htake, hdrop, Bool.false_eq_true, if_false]

/-- Without a newline all that is left is delivered, if it counts. -/
theorem next_of_no_newline {k : Keyboard} (hopen : k.finished = false)
    (hunread : newline ∉ k.unread) :
    k.next = if k.unread = [] ∨ k.broken then (none, k.close []) else k.deliver k.unread [] := by
  have hdrop : k.unread.dropWhile (· ≠ newline) = [] := by
    rw [List.dropWhile_eq_nil_iff]
    intro b hb
    exact decide_eq_true fun h => hunread (h ▸ hb)
  simp only [next, hopen, hdrop, Bool.false_eq_true, if_false]

theorem lines_of_next_none {k last : Keyboard} (hnext : k.next = (none, last)) :
    k.lines = ([], last) := by
  rw [lines, hnext]

theorem lines_of_next_some {k rest : Keyboard} {line : String}
    (hnext : k.next = (some line, rest)) : k.lines = (line :: rest.lines.1, rest.lines.2) := by
  rw [lines, hnext]

/-- A line that is to be delivered ends the conversation or comes before all others. -/
theorem lines_of_deliver {k : Keyboard} {piece rest : List UInt8}
    (hnext : k.next = k.deliver piece rest) :
    k.lines.1 =
      if isFarewell (lineOfBytes piece) then []
      else lineOfBytes piece :: (lines { k with unread := rest }).1 := by
  unfold deliver at hnext
  by_cases hfarewell : isFarewell (lineOfBytes piece)
  · rw [if_pos hfarewell] at hnext ⊢
    rw [lines_of_next_none hnext]
  · rw [if_neg hfarewell] at hnext ⊢
    rw [lines_of_next_some hnext]

/-- The lines of a keyboard are its pieces, decoded and trimmed, up to the first farewell. -/
theorem lines_eq_takeWhile_pieces {k : Keyboard} (hopen : k.finished = false) :
    k.lines.1 = (k.pieces.map lineOfBytes).takeWhile fun line => !isFarewell line := by
  induction hlength : k.unread.length using Nat.strong_induction_on generalizing k with
  | _ n ih =>
    -- a piece that is delivered comes before the lines of what is left
    have hdeliver : ∀ {piece rest : List UInt8}, k.next = k.deliver piece rest →
        rest.length < n → k.pieces = piece :: pieces { k with unread := rest } →
        k.lines.1 = (k.pieces.map lineOfBytes).takeWhile fun line => !isFarewell line := by
      intro piece rest hnext hrest hpieces
      have hlater := ih rest.length hrest (k := { k with unread := rest }) hopen rfl
      rw [lines_of_deliver hnext, hlater, hpieces, List.map_cons, List.takeWhile_cons]
      by_cases hfarewell : isFarewell (lineOfBytes piece) <;> simp [hfarewell]
    by_cases hnewline : newline ∈ k.unread
    · -- a newline: the piece before it comes first
      obtain ⟨piece, rest, hunread, hpiece⟩ := List.eq_append_cons_of_mem hnewline
      apply hdeliver (next_of_newline hopen hunread hpiece) _ (pieces_of_newline hunread hpiece)
      rw [← hlength, hunread, List.length_append, List.length_cons]
      omega
    · -- none: what is left is the last piece, if it counts
      have hnext := next_of_no_newline hopen hnewline
      have hpieces := pieces_of_no_newline hnewline
      by_cases hend : k.unread = [] ∨ k.broken = true
      · rw [if_pos hend] at hnext hpieces
        rw [lines_of_next_none hnext, hpieces]
        rfl
      · rw [if_neg hend] at hnext hpieces
        have hempty : pieces { k with unread := [] } = [] := by
          rw [pieces_of_no_newline List.not_mem_nil, if_pos (.inl rfl)]
        apply hdeliver hnext
        · rw [← hlength, List.length_nil]
          exact List.length_pos_iff.mpr fun hnil => hend (.inl hnil)
        · rw [hpieces, hempty]

end Keyboard

/-! ## The lines of a script -/

/-- The lines of a script are the pieces of its bytes, decoded and trimmed, without the blank ones. -/
theorem Script.lines_ofBytes (path : String) (bytes : List UInt8) :
    (Script.ofBytes path bytes).lines =
      ((split newline bytes).map Keyboard.lineOfBytes).filter (· ≠ "") := by
  have hlines : (split newline bytes).map Keyboard.lineOfBytes =
      (((split newline bytes).map Utf8.decode).map trim).map String.ofList := by
    rw [List.map_map, List.map_map]
    rfl
  have hblank : (fun text : List Char => !text.isEmpty) =
      (fun line : String => decide (line ≠ "")) ∘ String.ofList := by
    funext text
    cases text <;> simp
  rw [hlines, List.filter_map, ← hblank, ← Utf8.split_decode]
  rfl

/-- What a keyboard hands out and what a script of the same bytes holds differ in blank lines, and in
what comes after the first farewell. -/
theorem Keyboard.filter_lines (path : String) (bytes : List UInt8) :
    (Keyboard.ofBytes bytes false).lines.1.filter (· ≠ "") =
      (Script.ofBytes path bytes).lines.takeWhile fun line => !isFarewell line := by
  have hcounted : ((Keyboard.ofBytes bytes false).pieces.map lineOfBytes).filter (· ≠ "") =
      ((split newline bytes).map lineOfBytes).filter (· ≠ "") := by
    by_cases hlast : (split newline bytes).getLast? = some []
    · -- the piece that does not count is a blank line
      have hpieces : (Keyboard.ofBytes bytes false).pieces = (split newline bytes).dropLast :=
        if_pos (.inr hlast)
      have hall : (split newline bytes).dropLast ++ [[]] = split newline bytes :=
        List.dropLast_append_getLast? [] hlast
      have hdropped : lineOfBytes [] = "" := rfl
      rw [hpieces]
      conv => rhs; rw [← hall]
      rw [List.map_append, List.map_singleton, hdropped, List.filter_append]
      simp
    · have hpieces : (Keyboard.ofBytes bytes false).pieces = split newline bytes :=
        if_neg fun h => h.elim Bool.false_ne_true hlast
      rw [hpieces]
  have hblank : isFarewell "" = false := by decide
  -- a blank line is no farewell, so the order of the two tests does not matter
  have htest : (fun line : String => !decide (line ≠ "") || !isFarewell line) =
      fun line => !isFarewell line := by
    funext line
    by_cases hline : line = ""
    · rw [hline, hblank]
      rfl
    · simp [hline]
  rw [lines_eq_takeWhile_pieces rfl, Script.lines_ofBytes, ← hcounted, List.takeWhile_filter, htest]

end ToyRobot
