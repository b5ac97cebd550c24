/-
Module: DirectoryQuery.Proofs.Calendar.Padded
Purpose: Numbers of a fixed width.  They can be read back without a mark behind them, and texts that
  begin with them are in the order of the numbers.
Main exports:
  readDigits?, length_padded, readDigits?_padded, earlier_padded_append_iff
-/
import Mathlib.Algebra.Group.Nat.Defs
import DirectoryQuery.Calendar.Date
import DirectoryQuery.Proofs.Text.Order

namespace DirectoryQuery.Calendar

open Text

/-- Reads a number that is written with exactly `width` digits. -/
def readDigits? (width : Nat) (text : List Char) : Option (Nat × List Char) :=
  let digits := text.take width
  if digits.length = width ∧ digits.all Char.isDigit then
    some (Nat.ofDigitChars 10 digits 0, text.drop width)
  else
    none

section

variable {width n m : Nat}

theorem padded_one_of_lt (bound : n < 10) : padded 1 n = [n.digitChar] := by
  rw [padded, Numeric.digitsOf, Nat.toDigits_of_lt_base bound]
  rfl

/-- The last digit of a number stands behind its tenth. -/
theorem padded_succ (width n : Nat) :
    padded (width + 2) n = padded (width + 1) (n / 10) ++ [(n % 10).digitChar] := by
  simp only [padded, Numeric.digitsOf]
  rcases Nat.lt_or_ge n 10 with small | large
  · rw [Nat.div_eq_of_lt small, Nat.mod_eq_of_lt small, Nat.toDigits_of_lt_base small,
      Nat.toDigits_zero, List.length_singleton, List.length_singleton, Nat.add_sub_cancel,
      Nat.add_sub_assoc (by decide), List.replicate_succ']
  · rw [Nat.toDigits_of_base_le (by decide) large, List.length_append, List.length_singleton,
      Nat.add_sub_add_right (width + 1) 1, List.append_assoc]

theorem isDigit_of_mem_padded {c : Char} (listed : c ∈ padded width n) : c.isDigit = true := by
  rcases List.mem_append.1 listed with zero | digit
  · rw [List.eq_of_mem_replicate zero]
    rfl
  · exact Nat.isDigit_of_mem_toDigits (by decide) (by decide) digit

theorem ofDigitChars_padded (width n : Nat) : Nat.ofDigitChars 10 (padded width n) 0 = n := by
  rw [padded, Nat.ofDigitChars_append, Nat.ofDigitChars_replicate_zero, Nat.mul_zero]
  exact Nat.ofDigitChars_ten_toDigits

theorem padded_inj : padded width n = padded width m ↔ n = m := by
  constructor
  · intro same
    rw [← ofDigitChars_padded width n, same, ofDigitChars_padded]
  · intro same
    rw [same]

theorem length_padded (bound : n < 10 ^ (width + 1)) : (padded (width + 1) n).length = width + 1 := by
  have short : (Numeric.digitsOf n).length ≤ width + 1 :=
    (Nat.length_toDigits_le_iff (by decide) (Nat.succ_pos width)).2 bound
  rw [padded, List.length_append, List.length_replicate]
  omega

theorem readDigits?_padded (rest : List Char) (bound : n < 10 ^ (width + 1)) :
    readDigits? (width + 1) (padded (width + 1) n ++ rest) = some (n, rest) := by
  have cut := length_padded bound
  have digits : (padded (width + 1) n).all Char.isDigit = true :=
    List.all_eq_true.2 fun _ listed => isDigit_of_mem_padded listed
  simp only [readDigits?, List.take_left' cut, List.drop_left' cut]
  rw [if_pos ⟨cut, digits⟩, ofDigitChars_padded]

theorem earlier_digitChar_iff (bound : n < 10) (bound' : m < 10) :
    Earlier [n.digitChar] [m.digitChar] ↔ n < m := by
  have codes : ∀ i < 10, i.digitChar.toNat = 48 + i := by decide
  rw [Earlier, List.cons_lex_cons_iff, codes n bound, codes m bound']
  simp

theorem earlier_padded_iff (bound : n < 10 ^ (width + 1)) (bound' : m < 10 ^ (width + 1)) :
    Earlier (padded (width + 1) n) (padded (width + 1) m) ↔ n < m := by
  induction width generalizing n m with
  | zero =>
      rw [padded_one_of_lt bound, padded_one_of_lt bound', earlier_digitChar_iff bound bound']
  | succ width ih =>
      rw [Nat.pow_succ'] at bound bound'
      have tenth := Nat.div_lt_of_lt_mul bound
      have tenth' := Nat.div_lt_of_lt_mul bound'
      rw [padded_succ, padded_succ,
        earlier_append_iff (by rw [length_padded tenth, length_padded tenth']),
        ih tenth tenth', padded_inj,
        earlier_digitChar_iff (Nat.mod_lt _ (by decide)) (Nat.mod_lt _ (by decide))]
      omega

/-- Texts that begin with numbers of one width are in the order of the numbers, and after equal
numbers in the order of what follows. -/
theorem earlier_padded_append_iff {rest rest' : List Char} (bound : n < 10 ^ (width + 1))
    (bound' : m < 10 ^ (width + 1)) :
    Earlier (padded (width + 1) n ++ rest) (padded (width + 1) m ++ rest') ↔
      n < m ∨ n = m ∧ Earlier rest rest' := by
  rw [earlier_append_iff (by rw [length_padded bound, length_padded bound']),
    earlier_padded_iff bound bound', padded_inj]

end

end DirectoryQuery.Calendar
