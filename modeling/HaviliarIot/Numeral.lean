import Mathlib.Algebra.Group.Nat.Defs
import Mathlib.Data.List.DropRight

/-!
Decimal numerals with a sign, printed and read back in a range.

`parse` is the loop of an integer parser that checks for overflow after every
digit.  Digits only ever take the value away from zero, so the checks on the way
refuse nothing that the last one would not: what is read is exactly the numerals of
the numbers in the range, with any number of leading zeros (`parse_iff`).

What surrounds a numeral is cut off by `trim`, at both ends.
-/

namespace HaviliarIot.Numeral

/-! ## Reading -/

/-- The value of a digit. -/
def digit (c : Char) : Option Nat := if c.isDigit then some (c.toNat - '0'.toNat) else none

/-- The number, if it is in the range. -/
def checked (low high n : Int) : Option Int := if low ≤ n ∧ n ≤ high then some n else none

/-- One more digit: away from zero, and checked after the product and after the sum. -/
def push (low high : Int) (positive : Bool) (result : Int) (c : Char) : Option Int := do
  let x ← digit c
  let scaled ← checked low high (result * 10)
  checked low high (if positive then scaled + x else scaled - x)

/-- An optional sign, then digits. -/
def parse (low high : Int) : List Char → Option Int
  | [] => none
  | ['+'] | ['-'] => none
  | '+' :: rest => rest.foldlM (push low high true) 0
  | '-' :: rest => rest.foldlM (push low high false) 0
  | src => src.foldlM (push low high true) 0

/-- The number with this sign. -/
def signed (positive : Bool) (n : Nat) : Int := if positive then n else -n

/-- A numeral, its sign and its digits. -/
inductive IsNumeral : List Char → Bool → List Char → Prop where
  | plain {digits : List Char} : IsNumeral digits true digits
  | plus {digits : List Char} : IsNumeral ('+' :: digits) true digits
  | minus {digits : List Char} : IsNumeral ('-' :: digits) false digits

variable {low high n : Int} {positive : Bool} {a b : Nat} {c : Char} {digits src : List Char}

theorem IsNumeral.ne_nil (numeral : IsNumeral src positive digits) (nonempty : digits ≠ []) :
    src ≠ [] := by
  cases numeral with
  | plain => exact nonempty
  | plus | minus => exact List.cons_ne_nil _ _

/-- A range around zero has what is nearer to it. -/
theorem within_of_le (around : low ≤ 0 ∧ 0 ≤ high) (nearer : a ≤ b)
    (within : low ≤ signed positive b ∧ signed positive b ≤ high) :
    low ≤ signed positive a ∧ signed positive a ≤ high := by
  cases positive <;> simp only [signed, if_true, Bool.false_eq_true, if_false] at within ⊢ <;> omega

theorem le_ofDigitChars (digits : List Char) (a : Nat) : a ≤ Nat.ofDigitChars 10 digits a := by
  induction digits generalizing a with
  | nil => simp
  | cons c rest ih =>
    rw [Nat.ofDigitChars_cons]
    exact Nat.le_trans (by omega) (ih _)

theorem push_not_digit (other : c.isDigit = false) : push low high positive n c = none := by
  simp [push, digit, other]

/-- A digit is taken exactly if the number it gives is in the range. -/
theorem push_digit (around : low ≤ 0 ∧ 0 ≤ high) (is : c.isDigit) :
    push low high positive (signed positive a) c =
      checked low high (signed positive (10 * a + (c.toNat - '0'.toNat))) := by
  have scaled : signed positive a * 10 = signed positive (10 * a) := by
    cases positive <;> simp only [signed, if_true, Bool.false_eq_true, if_false] <;> push_cast <;> omega
  have next : ∀ x : Nat, (if positive then signed positive (10 * a) + (x : Int)
      else signed positive (10 * a) - x) = signed positive (10 * a + x) := by
    intro x
    cases positive <;> simp only [signed, if_true, Bool.false_eq_true, if_false] <;> push_cast <;> omega
  simp only [push, digit, is, if_true, Option.bind_eq_bind, Option.bind_some, scaled]
  by_cases room : low ≤ signed positive (10 * a) ∧ signed positive (10 * a) ≤ high
  · rw [checked, if_pos room, Option.bind_some, next]
  · have exceeds : ¬ (low ≤ signed positive (10 * a + (c.toNat - '0'.toNat)) ∧
        signed positive (10 * a + (c.toNat - '0'.toNat)) ≤ high) :=
      fun within => room (within_of_le around (Nat.le_add_right _ _) within)
    rw [checked, if_neg room, Option.bind_none, checked, if_neg exceeds]

/-- The checks on the way refuse nothing that the last one would not. -/
theorem foldlM_push_iff (around : low ≤ 0 ∧ 0 ≤ high)
    (within : low ≤ signed positive a ∧ signed positive a ≤ high) :
    digits.foldlM (push low high positive) (signed positive a) = some n ↔
      (∀ c ∈ digits, c.isDigit) ∧ n = signed positive (Nat.ofDigitChars 10 digits a) ∧
        low ≤ n ∧ n ≤ high := by
  induction digits generalizing a with
  | nil =>
    simp only [List.foldlM_nil, Option.pure_def, Option.some.injEq, List.not_mem_nil,
      false_imp_iff, implies_true, Nat.ofDigitChars_nil, true_and]
    constructor
    · rintro rfl
      exact ⟨rfl, within⟩
    · rintro ⟨rfl, -⟩
      rfl
  | cons c rest ih =>
    rw [List.foldlM_cons, List.forall_mem_cons, Nat.ofDigitChars_cons]
    cases is : c.isDigit with
    | false => simp [push_not_digit is]
    | true =>
      rw [push_digit around is]
      by_cases room : low ≤ signed positive (10 * a + (c.toNat - '0'.toNat)) ∧
          signed positive (10 * a + (c.toNat - '0'.toNat)) ≤ high
      · rw [checked, if_pos room]
        simpa using ih room
      · rw [checked, if_neg room]
        constructor
        · intro impossible
          cases impossible
        · rintro ⟨-, rfl, within⟩
          exact absurd (within_of_le around (le_ofDigitChars rest _) within) room

/-- The digits of a number in the range, on their own. -/
theorem foldlM_zero_iff (around : low ≤ 0 ∧ 0 ≤ high) :
    digits.foldlM (push low high positive) 0 = some n ↔
      (∀ c ∈ digits, c.isDigit) ∧ n = signed positive (Nat.ofDigitChars 10 digits 0) ∧
        low ≤ n ∧ n ≤ high := by
  have zero : signed positive 0 = 0 := by cases positive <;> rfl
  have within : low ≤ signed positive 0 ∧ signed positive 0 ≤ high := by rwa [zero]
  rw [← zero, foldlM_push_iff around within]

/-- **What is read is exactly the numerals of the numbers in the range.** -/
theorem parse_iff (around : low ≤ 0 ∧ 0 ≤ high) :
    parse low high src = some n ↔ ∃ positive digits, IsNumeral src positive digits ∧
      digits ≠ [] ∧ (∀ c ∈ digits, c.isDigit) ∧
      n = signed positive (Nat.ofDigitChars 10 digits 0) ∧ low ≤ n ∧ n ≤ high := by
  have sign : ∀ rest : List Char, ¬ ∀ c ∈ '+' :: rest, c.isDigit :=
    fun rest all => absurd (all '+' List.mem_cons_self) (by decide)
  have sign' : ∀ rest : List Char, ¬ ∀ c ∈ '-' :: rest, c.isDigit :=
    fun rest all => absurd (all '-' List.mem_cons_self) (by decide)
  unfold parse
  split
  · simp only [reduceCtorEq, false_iff]
    rintro ⟨positive, digits, numeral, nonempty, -⟩
    cases numeral
    exact nonempty rfl
  · simp only [reduceCtorEq, false_iff]
    rintro ⟨positive, digits, numeral, nonempty, all, -⟩
    cases numeral with
    | plain => exact sign _ all
    | plus => exact nonempty rfl
  · simp only [reduceCtorEq, false_iff]
    rintro ⟨positive, digits, numeral, nonempty, all, -⟩
    cases numeral with
    | plain => exact sign' _ all
    | minus => exact nonempty rfl
  · rename_i rest more
    rw [foldlM_zero_iff around]
    constructor
    · rintro ⟨all, value⟩
      exact ⟨true, rest, .plus, fun empty => more (by rw [empty]), all, value⟩
    · rintro ⟨positive, digits, numeral, nonempty, all, value⟩
      cases numeral with
      | plain => exact absurd all (sign _)
      | plus => exact ⟨all, value⟩
  · rename_i rest more
    rw [foldlM_zero_iff around]
    constructor
    · rintro ⟨all, value⟩
      exact ⟨false, rest, .minus, fun empty => more (by rw [empty]), all, value⟩
    · rintro ⟨positive, digits, numeral, nonempty, all, value⟩
      cases numeral with
      | plain => exact absurd all (sign' _)
      | minus => exact ⟨all, value⟩
  · rename_i some' _ _ plus minus
    rw [foldlM_zero_iff around]
    constructor
    · rintro ⟨all, value⟩
      exact ⟨true, src, .plain, some', all, value⟩
    · rintro ⟨positive, digits, numeral, nonempty, all, value⟩
      cases numeral with
      | plain => exact ⟨all, value⟩
      | plus => exact absurd rfl (plus _)
      | minus => exact absurd rfl (minus _)

/-! ## Printing -/

/-- `Display` of an integer. -/
def print (n : Int) : List Char :=
  if 0 ≤ n then Nat.toDigits 10 n.natAbs else '-' :: Nat.toDigits 10 n.natAbs

theorem isNumeral_print (n : Int) :
    IsNumeral (print n) (decide (0 ≤ n)) (Nat.toDigits 10 n.natAbs) := by
  unfold print
  split
  · rename_i positive
    rw [decide_eq_true positive]
    exact .plain
  · rename_i negative
    rw [decide_eq_false negative]
    exact .minus

/-- What is printed is read back. -/
theorem parse_print (around : low ≤ 0 ∧ 0 ≤ high) (within : low ≤ n ∧ n ≤ high) :
    parse low high (print n) = some n := by
  refine (parse_iff around).mpr ⟨_, _, isNumeral_print n, Nat.toDigits_ne_nil, ?_, ?_, within⟩
  · intro c member
    exact Nat.isDigit_of_mem_toDigits (by decide) (by decide) member
  · rw [Nat.ofDigitChars_ten_toDigits]
    by_cases positive : 0 ≤ n <;> simp only [signed, positive, decide_true, decide_false, if_true,
      Bool.false_eq_true, if_false] <;> omega

/-- What a formatter writes of an integer: the sign, if it is negative, and the digits. -/
def pieces (n : Int) : List (List Char) :=
  if 0 ≤ n then [Nat.toDigits 10 n.natAbs] else [['-'], Nat.toDigits 10 n.natAbs]

theorem flatten_pieces (n : Int) : (pieces n).flatten = print n := by
  unfold pieces print
  split <;> simp

/-- Digits and signs are ASCII. -/
theorem ascii_print : ∀ c ∈ print n, c.val ≤ 127 := by
  intro c member
  have ascii : c ∈ Nat.toDigits 10 n.natAbs → c.val ≤ 127 := by
    intro digit
    have is := Nat.isDigit_of_mem_toDigits (by decide) (by decide) digit
    simp only [Char.isDigit, Bool.and_eq_true, decide_eq_true_eq, ge_iff_le] at is
    exact UInt32.le_trans is.2 (by decide)
  unfold print at member
  split at member
  · exact ascii member
  · rcases List.mem_cons.mp member with rfl | digit
    · decide
    · exact ascii digit

/-- A number below `10 ^ k` in absolute value takes `k` digits at most, and a sign. -/
theorem length_print_le {k : Nat} (digits : 0 < k) (bound : n.natAbs < 10 ^ k) :
    (print n).length ≤ k + (if 0 ≤ n then 0 else 1) := by
  have few := (Nat.length_toDigits_le_iff (by decide) digits).mpr bound
  unfold print
  split
  · exact few
  · rw [List.length_cons]
    omega

/-! ## What surrounds it -/

section Trim

variable {α : Type*} {blank : α → Bool} {text core : List α}

/-- Without the blanks at both ends. -/
def trim (blank : α → Bool) (text : List α) : List α :=
  (text.dropWhile blank).rdropWhile blank

/-- Blanks at the end go, down to the last that is none. -/
theorem rdropWhile_append {after : List α} (nonempty : core ≠ [])
    (solid : ∀ a ∈ core, blank a = false) (blanks : ∀ a ∈ after, blank a = true) :
    (core ++ after).rdropWhile blank = core := by
  induction after using List.reverseRecOn with
  | nil =>
    rw [List.append_nil, List.rdropWhile_eq_self_iff]
    intro _
    simp [solid _ (List.getLast_mem nonempty)]
  | append_singleton earlier last ih =>
    obtain ⟨blanks, blankLast⟩ := List.forall_mem_append.mp blanks
    rw [← List.append_assoc, List.rdropWhile_concat_pos _ _ _ (blankLast last (List.mem_singleton_self last))]
    exact ih blanks

/-- What is left of a text is what stands between blanks. -/
theorem trim_eq_iff (nonempty : core ≠ []) (solid : ∀ a ∈ core, blank a = false) :
    trim blank text = core ↔ ∃ before after, text = before ++ core ++ after ∧
      (∀ a ∈ before, blank a = true) ∧ ∀ a ∈ after, blank a = true := by
  constructor
  · rintro rfl
    refine ⟨text.takeWhile blank, (text.dropWhile blank).rtakeWhile blank, ?_, ?_, ?_⟩
    · rw [trim, List.append_assoc, List.rdropWhile_append_rtakeWhile, List.takeWhile_append_dropWhile]
    · intro a member
      exact List.mem_takeWhile_imp member
    · intro a member
      exact List.mem_rtakeWhile_imp member
  · rintro ⟨before, after, rfl, front, back⟩
    have head : (core ++ after).dropWhile blank = core ++ after := by
      obtain ⟨a, rest, rfl⟩ := List.exists_cons_of_ne_nil nonempty
      rw [List.cons_append, List.dropWhile_cons_of_neg (by simp [solid a List.mem_cons_self])]
    rw [trim, List.append_assoc, List.dropWhile_append_of_pos front, head]
    exact rdropWhile_append nonempty solid back

end Trim

end HaviliarIot.Numeral
