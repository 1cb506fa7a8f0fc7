/-!
# Blanks

The characters with the Unicode property White_Space, and the two things a reader of lines does with
them: cutting them off at both ends of a line and taking a line apart word by word.
-/

namespace Tabula
namespace Text

/-- The characters with the property White_Space. -/
def isBlank (c : Char) : Bool :=
  let n := c.toNat
  (0x9 <= n && n <= 0xD) || n == 0x20 || n == 0x85 || n == 0xA0 || n == 0x1680 ||
    (0x2000 <= n && n <= 0x200A) || n == 0x2028 || n == 0x2029 || n == 0x202F || n == 0x205F ||
    n == 0x3000

/-!
# Lines and words
-/

/-- A line without the blanks at its two ends. -/
def trim (cs : List Char) : List Char :=
  ((cs.dropWhile isBlank).reverse.dropWhile isBlank).reverse

/-- The first word of a line and what follows it; the word is empty in a line without one. -/
def firstWord (cs : List Char) : List Char × List Char :=
  (cs.dropWhile isBlank).span fun c => !isBlank c

end Text
end Tabula
