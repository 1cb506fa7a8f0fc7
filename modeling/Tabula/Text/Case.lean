import Tabula.Text.CaseData

/-!
# Letter case

Two readings of "the same name in another case" live side by side in a table store.

## Alike

Column names and qualifiers are compared letter by letter, with A to Z read as a to z and every
other character as itself.

## Lowercase

Table names are filed under their full Unicode lowercase form.  One letter of it depends on its
neighbours: a capital sigma becomes a final sigma at the end of a word and an ordinary one elsewhere.
-/

namespace Tabula
namespace Text

/-!
# ASCII letters
-/

/-- The characters of a text with A to Z replaced by a to z. -/
def fold (s : String) : List Char :=
  s.toList.map Char.toLower

/-- Two texts that differ in the case of ASCII letters at most. -/
def alike (a b : String) : Bool :=
  fold a == fold b

theorem alike_iff {a b : String} : alike a b = true <-> fold a = fold b := by
  simp [alike]

theorem alike_refl (a : String) : alike a a = true := by
  simp [alike]

theorem alike_comm (a b : String) : alike a b = alike b a := by
  rw [Bool.eq_iff_iff, alike_iff, alike_iff]
  exact eq_comm

theorem alike_trans {a b c : String} (hab : alike a b = true) (hbc : alike b c = true) :
    alike a c = true := by
  rw [alike_iff] at *
  exact hab.trans hbc

/-!
# Unicode lowercase
-/

def isCased (c : Char) : Bool :=
  casedRanges.any fun range => range.covers c.toNat

def isCaseIgnorable (c : Char) : Bool :=
  caseIgnorableRanges.any fun range => range.covers c.toNat

/-- Whether a cased letter comes first once case-ignorable characters are passed over. -/
def meetsCased (cs : List Char) : Bool :=
  match cs.dropWhile isCaseIgnorable with
  | [] => false
  | c :: _ => isCased c

/-- The lowercase form of one character that does not depend on its neighbours. -/
def lowercaseChar (c : Char) : List Char :=
  if c.toNat < 128 then
    [c.toLower]
  else if c.toNat = 0x130 then
    ['i', Char.ofNat 0x307]
  else
    match lowercaseRuns.find? fun run => run.covers c.toNat with
    | some run => [Char.ofNat (run.target c.toNat)]
    | none => [c]

/-- A sigma after `before`, which lists what precedes it backwards, and in front of `after`. -/
def sigma (before after : List Char) : Char :=
  if meetsCased before && !meetsCased after then 'ς' else 'σ'

/-- The lowercase form of a text whose preceding characters are `before`, listed backwards. -/
def lowercaseFrom (before : List Char) : List Char -> List Char
  | [] => []
  | c :: rest =>
      (if c = 'Σ' then [sigma before rest] else lowercaseChar c) ++ lowercaseFrom (c :: before) rest

def lowercase (s : String) : String :=
  String.ofList (lowercaseFrom [] s.toList)

@[simp] theorem lowercaseFrom_nil (before : List Char) : lowercaseFrom before [] = [] := rfl

@[simp] theorem lowercaseFrom_cons (before rest : List Char) (c : Char) :
    lowercaseFrom before (c :: rest) =
      (if c = 'Σ' then [sigma before rest] else lowercaseChar c) ++
        lowercaseFrom (c :: before) rest := rfl

end Text
end Tabula
