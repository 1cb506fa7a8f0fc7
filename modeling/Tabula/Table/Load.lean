import Tabula.Table.Change

/-!
# Tables from stored rows

A table is rebuilt from rows that keep their ids.  Every row is checked like a new one, and the
indexes are built along the way.
-/

namespace Tabula
namespace Table

/-- A row as a document holds it: its cells by column name, in ascending order of the names. -/
structure NamedRow where
  id : Nat
  cells : List (String × Value)
  deriving DecidableEq

/-- Refuse a value of another type first and a second value for a column second. -/
def admitStored (id : Nat) (table : String) (field : Field) (v : Value) (taken : Bool) :
    Except Error Unit := do
  Schema.checkType field.column v
  if taken then
    throw (.rowSetsColumnTwice id table field.column.name)

/-- Store a row under an id of its own below `nextRowId`. -/
def loadRow (nextRowId : Nat) (stored : NamedRow) : Change Error Table Unit := do
  let table <- get
  if stored.id = 0 ∨ nextRowId <= stored.id then
    throw (.rowIdOutOfRange stored.id table.name nextRowId)
  if (table.row? stored.id).isSome then
    throw (.duplicateRowId stored.id table.name)
  let bound <- table.schema.bind (admitStored stored.id table.name) stored.cells
  let cells := Schema.assign table.schema.blankCells bound
  table.checkConstraints cells none
  indexRow ⟨stored.id, cells⟩
  storeRow ⟨stored.id, cells⟩

/-- The table with the given rows, all checks made anew. -/
def ofRows (schema : Schema) (rows : List NamedRow) (nextRowId : Nat) : Except Error Table :=
  let (result, table) := (rows.forM (loadRow nextRowId)).run.run (new schema)
  match result with
  | .ok () => .ok { table with nextRowId }
  | .error error => .error error

end Table
end Tabula
