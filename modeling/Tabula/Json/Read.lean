import Tabula.Json.Lexeme

/-!
# Reading JSON

Lexemes are read one by one.  What has been read so far of the arrays and objects that are still open
is kept on a stack, so the depth of a document is not limited.
-/

namespace Tabula
namespace Json

/-- An array or object that is still open, its last part first. -/
inductive Frame where
  | array (items : List Json)
  | object (members : List (Option String × Json)) (name : Option String)

/-- What may come next. -/
inductive Reading where
  | value (stack : List Frame)
  | firstItem (stack : List Frame)
  | firstName (stack : List Frame)
  | name (members : List (Option String × Json)) (stack : List Frame)
  | colon (members : List (Option String × Json)) (name : Option String) (stack : List Frame)
  | complete (j : Json) (stack : List Frame)

namespace Reading

/-- Read a lexeme where a value must begin. -/
def beginValue (stack : List Frame) : Lexeme -> Option Reading
  | .null => some (complete .null stack)
  | .boolean b => some (complete (.boolean b) stack)
  | .integer n => some (complete (.integer n) stack)
  | .decimal written => some (complete (.decimal written) stack)
  | .string s => some (complete (.string s) stack)
  | .beginArray => some (firstItem stack)
  | .beginObject => some (firstName stack)
  | .endArray | .endObject | .comma | .colon => none

/-- Read a lexeme behind a complete value. -/
def continueWith (j : Json) : List Frame -> Lexeme -> Option Reading
  | .array items :: stack, .comma => some (value (.array (j :: items) :: stack))
  | .array items :: stack, .endArray => some (complete (.array (j :: items).reverse) stack)
  | .object members n :: stack, .comma => some (name ((n, j) :: members) stack)
  | .object members n :: stack, .endObject =>
      some (complete (.object ((n, j) :: members).reverse) stack)
  | _, _ => none

def step : Reading -> Lexeme -> Option Reading
  | value stack, lexeme => beginValue stack lexeme
  | firstItem stack, .endArray => some (complete (.array []) stack)
  | firstItem stack, lexeme => beginValue (.array [] :: stack) lexeme
  | firstName stack, .endObject => some (complete (.object []) stack)
  | firstName stack, .string s => some (colon [] s stack)
  | firstName _, _ => none
  | name members stack, .string s => some (colon members s stack)
  | name _ _, _ => none
  | colon members s stack, .colon => some (value (.object members s :: stack))
  | colon _ _ _, _ => none
  | complete j stack, lexeme => continueWith j stack lexeme

/-- The value that has been read, if nothing is open. -/
def result? : Reading -> Option Json
  | complete j [] => some j
  | _ => none

end Reading

/-- The value that a text spells. -/
def read (s : String) : Option Json := do
  let units <- lexemes s.toList
  let reading <- units.foldlM Reading.step (.value [])
  reading.result?

end Json
end Tabula
