import Tabula.Schema

/-!
# Values by name

Values given by name are bound to the columns that the names reach, and put in the places of these
columns.
-/

namespace Tabula
namespace Schema

/-- Cells with the bound values in place. -/
def assign (cells : List Value) (bound : List (Field × Value)) : List Value :=
  bound.foldl (fun cells (field, v) => cells.set field.position v) cells

def blankCells (schema : Schema) : List Value :=
  List.replicate schema.columns.length .null

def binds (bound : List (Field × Value)) (field : Field) : Bool :=
  bound.any fun entry => entry.1.position == field.position

/-- Bind names to columns one after the other; `judge` judges a value for a column and is told whether
the column is bound already. -/
def bind (schema : Schema) (judge : Field -> Value -> Bool -> Except Error Unit)
    (cells : List (String × Value)) : Except Error (List (Field × Value)) :=
  cells.foldlM
    (fun bound (name, v) => do
      let field <- schema.resolve name
      judge field v (binds bound field)
      return bound ++ [(field, v)])
    []

/-- Refuse a second value for a column first and a value of another type second. -/
def admitOnce (repeated : String -> Error) (field : Field) (v : Value) (taken : Bool) :
    Except Error Unit := do
  if taken then
    throw (repeated field.column.name)
  checkType field.column v

/-- The cells of a new row with the given values; columns that are not named hold NULL. -/
def complete (schema : Schema) (columns : List String) (values : List Value) :
    Except Error (List Value) := do
  if columns.length ≠ values.length then
    throw (.countMismatch columns.length values.length)
  let bound <- schema.bind (admitOnce .columnRepeated) (columns.zip values)
  return assign schema.blankCells bound

/-- The output columns of a query: the named ones or all of them. -/
def projection (schema : Schema) (columns : Option (List String)) : Except Error (List Field) :=
  match columns with
  | none => .ok schema.fields
  | some names => names.mapM schema.resolve

end Schema
end Tabula
