/-!
# Decimal integers

Integers are written with the fewest digits and a leading minus sign where negative, and read from
any number of digits, leading zeros included.

## Words

Cells hold integers of 64 bits with a sign; `toWord` gives the word of an integer in that range.
-/

namespace Tabula
namespace Text

def decimal (n : Int) : List Char :=
  if n < 0 then '-' :: Nat.toDigits 10 n.natAbs else Nat.toDigits 10 n.natAbs

/-- The number that a run of digits denotes. -/
def digitsValue (digits : List Char) : Nat :=
  Nat.ofDigitChars 10 digits 0

theorem digitsValue_toDigits (n : Nat) : digitsValue (Nat.toDigits 10 n) = n := by
  simp [digitsValue]

/-!
# Words of 64 bits
-/

def toWord (n : Int) : Option Int64 :=
  if Int64.minValue.toInt <= n ∧ n <= Int64.maxValue.toInt then some (Int64.ofInt n) else none

theorem toWord_eq_some_iff {n : Int} {w : Int64} : toWord n = some w <-> n = w.toInt := by
  unfold toWord
  rw [Int64.toInt_minValue, Int64.toInt_maxValue]
  constructor
  · intro h
    split at h
    · next range =>
        cases h
        exact (Int64.toInt_ofInt_of_le range.1 (Int.lt_of_le_sub_one range.2)).symm
    · cases h
  · intro h
    subst h
    have low := w.le_toInt
    have high := w.toInt_lt
    rw [if_pos ⟨low, Int.le_sub_one_of_lt high⟩, Int64.ofInt_toInt]

theorem toWord_toInt (w : Int64) : toWord w.toInt = some w :=
  toWord_eq_some_iff.mpr rfl

end Text
end Tabula
