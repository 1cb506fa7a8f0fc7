import Tabula.Text.Case

/-!
# Column references

A column is referred to by its name alone or by a table's name, a dot and its name.
-/

namespace Tabula
namespace Sql

structure ColumnRef where
  table : Option String := none
  column : String
  deriving DecidableEq

namespace ColumnRef

def display (ref : ColumnRef) : String :=
  match ref.table with
  | some table => table ++ "." ++ ref.column
  | none => ref.column

/-- Whether the reference is qualified with this table's name, up to the case of ASCII letters. -/
def refersTo (ref : ColumnRef) (table : String) : Bool :=
  match ref.table with
  | some qualifier => Text.alike qualifier table
  | none => false

end ColumnRef
end Sql
end Tabula
