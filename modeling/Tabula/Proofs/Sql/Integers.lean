import Mathlib.Data.List.TakeWhile
import Mathlib.Data.Nat.Digits.Defs
import Tabula.Proofs.Sql.Positions

/-!
# Integer literals

Digits behind a sign are read as one integer, however many there are.  The integer is the one that
their places say, and digits whose integer does not fit into 64 bits are refused where they begin.
-/

namespace Tabula
namespace Sql

/-!
# The integer that digits write
-/

/-- The integer that digits behind a sign write, by the places of the digits. -/
def written (negative : Bool) (digits : List Char) : Int :=
  let size : Nat := Nat.ofDigits 10 (digits.map fun d => d.toNat - '0'.toNat).reverse
  if negative then -size else size

theorem digitsValue_eq_ofDigits (digits : List Char) :
    Text.digitsValue digits =
      Nat.ofDigits 10 (digits.map fun d => d.toNat - '0'.toNat).reverse := by
  unfold Text.digitsValue Nat.ofDigitChars
  rw [Nat.ofDigits_eq_foldr, List.foldr_reverse, List.foldl_map]
  congr 1
  funext size d
  exact Nat.add_comm _ _

theorem signedValue_eq_written (negative : Bool) (digits : List Char) :
    signedValue negative digits = written negative digits := by
  unfold signedValue written
  rw [digitsValue_eq_ofDigits]

/-- The integers that a word of 64 bits holds, from -2^63 to 2^63 - 1. -/
def FitsWord (n : Int) : Prop :=
  -9223372036854775808 <= n ∧ n <= 9223372036854775807

theorem numberLexeme_of_fitsWord {negative : Bool} {digits : List Char}
    (h : FitsWord (written negative digits)) :
    exists w : Int64, w.toInt = written negative digits ∧
      numberLexeme negative digits = .ok ⟨.number w, signed negative digits⟩ := by
  have hword : Text.toWord (written negative digits) = some (Int64.ofInt (written negative digits)) :=
    if_pos h
  have hvalue := Text.toWord_eq_some_iff.mp hword
  refine ⟨Int64.ofInt (written negative digits), hvalue.symm, numberLexeme_signed ?_⟩
  rw [signedValue_eq_written]
  exact hvalue

theorem numberLexeme_of_not_fitsWord {negative : Bool} {digits : List Char}
    (h : ¬ FitsWord (written negative digits)) :
    numberLexeme negative digits = .error (.integerOutOfRange (signed negative digits)) := by
  apply numberLexeme_eq_error
  intro n hn
  rw [signedValue_eq_written] at hn
  rw [hn] at h
  exact h ⟨n.le_toInt, Int.le_of_lt_add_one n.toInt_lt⟩

/-!
# Scanning an integer
-/

theorem newline_not_mem_signed {negative : Bool} {digits : List Char}
    (hdigits : forall d, d ∈ digits -> d.isDigit = true) : '\n' ∉ signed negative digits := by
  intro hmem
  cases negative with
  | true =>
      rcases List.mem_cons.mp hmem with hminus | hdigit
      · cases hminus
      · exact absurd (hdigits _ hdigit) (by decide)
  | false => exact absurd (hdigits _ hmem) (by decide)

/-- A text without line feeds ends in the line where it begins. -/
theorem advance_start_of_line {text : List Char} (h : '\n' ∉ text) :
    Position.start.advance text = ⟨1, 1 + text.length⟩ := by
  have hall : forall c, c ∈ text.reverse -> (c != '\n') = true := by
    intro c hc
    rw [bne_iff_ne]
    intro hsame
    exact h (hsame ▸ List.mem_reverse.mp hc)
  rw [advance_start, behind, List.count_eq_zero.mpr h, List.takeWhile_eq_self_iff.mpr hall,
    List.length_reverse]

/-- Digits behind a sign are one token with the integer that they write, if 64 bits hold it, and are
refused where they begin else. -/
theorem integers_exact_or_refused (negative : Bool) {digits : List Char} (hne : digits ≠ [])
    (hdigits : forall d, d ∈ digits -> d.isDigit = true) :
    (FitsWord (written negative digits) -> exists w : Int64,
      w.toInt = written negative digits ∧
        tokenize (String.ofList (signed negative digits)) =
          .ok [⟨.number w, ⟨1, 1⟩⟩,
            ⟨.endOfInput, ⟨1, 1 + (signed negative digits).length⟩⟩]) ∧
    (¬ FitsWord (written negative digits) ->
      tokenize (String.ofList (signed negative digits)) =
        .error ⟨.integerOutOfRange (signed negative digits), ⟨1, 1⟩⟩) := by
  have hstop : forall d, ([] : List Char).head? = some d -> d.isDigit = false := by
    intro d hd
    cases hd
  unfold tokenize
  rw [String.toList_ofList]
  constructor
  · intro hfits
    rcases numberLexeme_of_fitsWord hfits with ⟨w, hvalue, hnumber⟩
    have hscan := scans_signed hne hdigits hnumber hstop Position.start
    rw [List.append_nil, advance_start_of_line (newline_not_mem_signed hdigits),
      scan_of_end (rfl : skip false _ [] = _)] at hscan
    exact ⟨w, hvalue, hscan⟩
  · intro hrange
    have hscan := scan_signed_of_error hne hdigits hstop (numberLexeme_of_not_fitsWord hrange)
      Position.start
    rw [List.append_nil] at hscan
    exact hscan

/-- The least integer with zeros before it, and the first integer that is too large. -/
theorem integers_exact_or_refused_bounds :
    (exists w : Int64, w.toInt = -9223372036854775808 ∧
      tokenize "-0009223372036854775808" =
        .ok [⟨.number w, ⟨1, 1⟩⟩, ⟨.endOfInput, ⟨1, 24⟩⟩]) ∧
    tokenize "9223372036854775808" =
      .error ⟨.integerOutOfRange "9223372036854775808".toList, ⟨1, 1⟩⟩ := by
  have hleast : written true "0009223372036854775808".toList = -9223372036854775808 := by
    decide +kernel
  have hfits : FitsWord (written true "0009223372036854775808".toList) := by
    rw [hleast]
    exact ⟨Int.le_refl _, by decide⟩
  have hlarge : ¬ FitsWord (written false "9223372036854775808".toList) := by
    intro h
    exact absurd h.2 (by decide +kernel)
  constructor
  · have hdigits := List.all_eq_true.mp
      (rfl : "0009223372036854775808".toList.all Char.isDigit = true)
    rcases (integers_exact_or_refused true (by decide) hdigits).1 hfits with ⟨w, hvalue, htokens⟩
    exact ⟨w, hvalue.trans hleast, htokens⟩
  · have hdigits := List.all_eq_true.mp
      (rfl : "9223372036854775808".toList.all Char.isDigit = true)
    exact (integers_exact_or_refused false (by decide) hdigits).2 hlarge

end Sql
end Tabula
