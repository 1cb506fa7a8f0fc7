import Mathlib.Data.List.Chain
import Mathlib.Logic.Relation
import Tabula.Text.Blank
import Tabula.Text.Lines

/-!
# Blanks beside line feeds

To cut the blanks off the ends of all lines and to leave out the lines that hold nothing else is to
take blanks beside line feeds away, one by one.
-/

namespace Tabula
namespace Text

open Relation (ReflTransGen)

/-!
# Loose blanks
-/

/-- Two blanks of which one is a line feed. -/
def loose (b c : Char) : Bool :=
  isBlank b && isBlank c && (b == '\n' || c == '\n')

theorem loose_iff {b c : Char} :
    loose b c = true <-> isBlank b = true ∧ isBlank c = true ∧ (b = '\n' ∨ c = '\n') := by
  unfold loose
  rw [Bool.and_eq_true, Bool.and_eq_true, Bool.or_eq_true, beq_iff_eq, beq_iff_eq, and_assoc]

/-- No line feed has a blank beside it. -/
def Tight (cs : List Char) : Prop :=
  cs.IsChain fun b c => loose b c = false

/-- A blank beside a line feed is taken away. -/
inductive Tightens : List Char -> List Char -> Prop where
  | within (before after : List Char) {b c : Char} (h : loose b c = true) :
      Tightens (before ++ b :: c :: after) (before ++ '\n' :: after)

/-!
# Trimmed lines
-/

theorem tightens_dropWhile (before line after : List Char) :
    ReflTransGen Tightens (before ++ '\n' :: (line ++ after))
      (before ++ '\n' :: (line.dropWhile isBlank ++ after)) := by
  induction line with
  | nil => exact .refl
  | cons c rest ih =>
      by_cases hblank : isBlank c = true
      · rw [List.dropWhile_cons_of_pos hblank]
        have hloose : loose '\n' c = true := loose_iff.mpr ⟨by decide, hblank, Or.inl rfl⟩
        exact .head (.within before (rest ++ after) hloose) ih
      · rw [List.dropWhile_cons_of_neg hblank]

theorem tightens_dropWhile_reverse (before line after : List Char) :
    ReflTransGen Tightens (before ++ (line.reverse ++ '\n' :: after))
      (before ++ ((line.dropWhile isBlank).reverse ++ '\n' :: after)) := by
  induction line with
  | nil => exact .refl
  | cons c rest ih =>
      by_cases hblank : isBlank c = true
      · rw [List.dropWhile_cons_of_pos hblank]
        have hloose : loose c '\n' = true := loose_iff.mpr ⟨hblank, by decide, Or.inr rfl⟩
        have hstep := Tightens.within (before ++ rest.reverse) after hloose
        rw [List.append_assoc, List.append_assoc] at hstep
        rw [List.reverse_cons, List.append_assoc]
        exact .head hstep ih
      · rw [List.dropWhile_cons_of_neg hblank]

theorem tightens_trim (before line after : List Char) :
    ReflTransGen Tightens (before ++ '\n' :: (line ++ '\n' :: after))
      (before ++ '\n' :: (trim line ++ '\n' :: after)) := by
  have hfront := tightens_dropWhile before line ('\n' :: after)
  have hback := tightens_dropWhile_reverse (before ++ ['\n']) (line.dropWhile isBlank).reverse after
  rw [List.reverse_reverse, List.append_assoc, List.append_assoc] at hback
  exact hfront.trans hback

theorem getLast?_trim {line : List Char} {c : Char} (hlast : line.getLast? = some c)
    (hblank : isBlank c = false) : (trim line).getLast? = some c := by
  rcases List.getLast?_eq_some_iff.mp hlast with ⟨front, rfl⟩
  have hdrop : exists front', (front ++ [c]).dropWhile isBlank = front' ++ [c] := by
    rw [List.dropWhile_append]
    split
    · exact ⟨[], List.dropWhile_cons_of_neg (Bool.eq_false_iff.mp hblank)⟩
    · exact ⟨_, rfl⟩
  rcases hdrop with ⟨front', hfront⟩
  unfold trim
  rw [hfront, List.reverse_append, List.reverse_singleton, List.singleton_append,
    List.dropWhile_cons_of_neg (Bool.eq_false_iff.mp hblank), List.reverse_cons,
    List.getLast?_concat]

/-!
# Lines
-/

/-- A line feed at the end begins no line. -/
theorem lines_append_newline {cs : List Char} {c : Char} (hlast : cs.getLast? = some c)
    (hc : c ≠ '\n') : lines (cs ++ ['\n']) = lines cs := by
  induction cs with
  | nil => cases hlast
  | cons d rest ih =>
      cases rest with
      | nil =>
          have hd : d = c := Option.some.inj hlast
          simp [lines, hd, hc]
      | cons e others =>
          rw [List.getLast?_cons_cons] at hlast
          rw [List.cons_append, lines, lines, ih hlast]

/-- A line feed behind each line makes up a text that ends with one. -/
theorem flatMap_lines (cs : List Char) :
    (lines (cs ++ ['\n'])).flatMap (fun line => line ++ ['\n']) = cs ++ ['\n'] := by
  induction cs with
  | nil => rfl
  | cons c rest ih =>
      rw [List.cons_append, lines]
      split
      · next hc =>
          rw [hc, List.flatMap_cons, ih]
          rfl
      · split
        · next hlines =>
            rw [hlines] at ih
            exact absurd ih.symm (List.append_ne_nil_of_right_ne_nil rest (List.cons_ne_nil _ _))
        · next line more hlines =>
            rw [hlines, List.flatMap_cons] at ih
            rw [List.flatMap_cons, ← ih]
            rfl

/-- The last line ends with the last character. -/
theorem getLast?_lines {cs : List Char} {c : Char} (hlast : cs.getLast? = some c)
    (hc : c ≠ '\n') : exists front line, lines cs = front ++ [line] ∧ line.getLast? = some c := by
  induction cs with
  | nil => cases hlast
  | cons d rest ih =>
      cases rest with
      | nil =>
          have hd : d = c := Option.some.inj hlast
          exact ⟨[], [c], by simp [lines, hd, hc], rfl⟩
      | cons e others =>
          rw [List.getLast?_cons_cons] at hlast
          rcases ih hlast with ⟨front, line, hlines, hline⟩
          rw [lines, hlines]
          split
          · exact ⟨[] :: front, line, rfl, hline⟩
          · cases front with
            | nil =>
                refine ⟨[], d :: line, rfl, ?_⟩
                rw [List.getLast?_cons, hline]
                rfl
            | cons first middle => exact ⟨(d :: first) :: middle, line, rfl, hline⟩

/-!
# Collected lines
-/

/-- The lines without the blanks at their ends and a line feed behind each; lines that hold nothing
else are left out. -/
def collected : List (List Char) -> List Char
  | [] => []
  | line :: rest =>
      if trim line = [] then collected rest else trim line ++ '\n' :: collected rest

theorem tightens_collected (before : List Char) (parts : List (List Char)) :
    ReflTransGen Tightens (before ++ '\n' :: parts.flatMap fun line => line ++ ['\n'])
      (before ++ '\n' :: collected parts) := by
  induction parts generalizing before with
  | nil => exact .refl
  | cons line rest ih =>
      have htrim := tightens_trim before line (rest.flatMap fun line => line ++ ['\n'])
      rw [List.flatMap_cons, List.append_assoc, List.singleton_append]
      apply htrim.trans
      unfold collected
      split
      · next hnil =>
          rw [hnil, List.nil_append]
          exact .head (.within before _ (by decide)) (ih before)
      · have hrest := ih (before ++ '\n' :: trim line)
        rw [List.append_assoc, List.append_assoc] at hrest
        exact hrest

end Text
end Tabula
