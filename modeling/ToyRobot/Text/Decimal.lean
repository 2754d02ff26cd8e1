/-!
# Decimal numbers

How the program writes numbers, and what a run of digits is worth. Values are natural numbers
without a bound, so no run of digits is too long to have one.
-/

namespace ToyRobot.Text.Decimal

def digit (n : Nat) : Char :=
  Char.ofNat (48 + n)

/-- The digits of a number, most significant first and without leading zeros. -/
def digits (n : Nat) : List Char :=
  if n < 10 then [digit n] else digits (n / 10) ++ [digit (n % 10)]

/-- A natural number as it is printed. -/
def natText (n : Nat) : String :=
  String.ofList (digits n)

/-- A signed number as it is printed: a minus sign in front of a negative one, nothing in front of
any other. -/
def intText : Int → String
  | .ofNat n => natText n
  | .negSucc n => "-" ++ natText (n + 1)

/-- One of the ten ASCII digits. -/
def isDigit (c : Char) : Bool :=
  48 ≤ c.toNat && c.toNat ≤ 57

def digitValue (c : Char) : Nat :=
  c.toNat - 48

/-- What a run of digits is worth. -/
def value (text : List Char) : Nat :=
  text.foldl (fun n c => 10 * n + digitValue c) 0

/-- A number written as one or more digits; leading zeros are allowed. -/
def read? (text : List Char) : Option Nat :=
  if !text.isEmpty && text.all isDigit then some (value text) else none

/-- A number written as one or more digits with at most one sign in front. -/
def readSigned? : List Char → Option Int
  | '+' :: rest => (read? rest).map Int.ofNat
  | '-' :: rest => (read? rest).map fun n => -Int.ofNat n
  | text => (read? text).map Int.ofNat

/-! ## Reading back -/

theorem digitValue_digit {n : Nat} (h : n < 10) : digitValue (digit n) = n := by
  have all : ∀ m ∈ List.range 10, digitValue (digit m) = m := by decide
  exact all n (List.mem_range.mpr h)

theorem isDigit_digit {n : Nat} (h : n < 10) : isDigit (digit n) := by
  have all : ∀ m ∈ List.range 10, isDigit (digit m) := by decide
  exact all n (List.mem_range.mpr h)

theorem value_concat (text : List Char) (c : Char) :
    value (text ++ [c]) = 10 * value text + digitValue c := by
  simp [value]

/-- The digits of a number are worth that number. -/
theorem value_digits (n : Nat) : value (digits n) = n := by
  fun_induction digits n with
  | case1 n h => simp [value, digitValue_digit h]
  | case2 n _ ih =>
    rw [value_concat, ih, digitValue_digit (Nat.mod_lt _ (by decide))]
    omega

theorem digits_injective {m n : Nat} (h : digits m = digits n) : m = n := by
  have hvalue := congrArg value h
  rw [value_digits, value_digits] at hvalue
  exact hvalue

theorem all_isDigit_digits (n : Nat) : (digits n).all isDigit := by
  fun_induction digits n with
  | case1 n h => simp [isDigit_digit h]
  | case2 n _ ih => simp [ih, isDigit_digit (Nat.mod_lt n (show 0 < 10 by decide))]

theorem digits_ne_nil (n : Nat) : digits n ≠ [] := by
  rw [digits]
  split <;> simp

/-- Digits with no zero in front, unless it is the only one. -/
def Unpadded (text : List Char) : Prop :=
  text.head? = some '0' → text = ['0']

/-- A number is written without zeros in front. -/
theorem unpadded_digits (n : Nat) : Unpadded (digits n) := by
  fun_induction digits n with
  | case1 n h =>
    intro hzero
    rw [Option.some_inj.mp hzero]
  | case2 n hlarge ih =>
    intro hzero
    have hfirst := List.head?_eq_some_head (digits_ne_nil (n / 10))
    rw [List.head?_append, hfirst, Option.some_or, ← hfirst] at hzero
    -- the digits in front would be those of zero, but there are tens to write
    have htens := congrArg value (ih hzero)
    rw [value_digits] at htens
    have hnone : value ['0'] = 0 := rfl
    omega

/-- A number is read off one or more digits and nothing else, and is what they are worth. -/
theorem read?_eq_some_iff {text : List Char} {n : Nat} :
    read? text = some n ↔ text ≠ [] ∧ (∀ c ∈ text, isDigit c) ∧ n = value text := by
  unfold read?
  constructor
  · intro h
    split at h
    · rename_i hdigits
      simp only [Bool.and_eq_true, Bool.not_eq_true', List.isEmpty_eq_false_iff,
        List.all_eq_true] at hdigits
      exact ⟨hdigits.1, hdigits.2, (Option.some.inj h).symm⟩
    · cases h
  · rintro ⟨hne, hdigits, rfl⟩
    have hall : text.all isDigit := List.all_eq_true.mpr hdigits
    rw [hall, List.isEmpty_eq_false_iff.mpr hne]
    rfl

end ToyRobot.Text.Decimal
