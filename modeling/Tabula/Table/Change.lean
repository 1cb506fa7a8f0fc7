import Tabula.Change
import Tabula.Table.Check

/-!
# Changes of a table

Insert, update and delete.  Each makes all its checks before its first single write.
-/

namespace Tabula
namespace Table

/-!
# Single writes
-/

def allocateRowId : Change Error Table Nat := do
  let table <- get
  modify fun table => { table with nextRowId := table.nextRowId + 1 }
  return table.nextRowId

def storeRow (row : Row) : Change Error Table Unit :=
  modify fun table => { table with rows := row.insertInto table.rows }

def removeRow (id : Nat) : Change Error Table Unit :=
  modify fun table => { table with rows := table.rows.filter fun row => row.id != id }

def indexRow (row : Row) : Change Error Table Unit :=
  modify fun table => { table with indexes := table.indexes.addRow row }

def unindexRow (row : Row) : Change Error Table Unit :=
  modify fun table => { table with indexes := table.indexes.removeRow row }

/-!
# Changes
-/

/-- Store a new row and answer its id. -/
def insert (columns : List String) (values : List Value) : Change Error Table Nat := do
  let table <- get
  let cells <- table.schema.complete columns values
  table.checkConstraints cells none
  let id <- allocateRowId
  indexRow ⟨id, cells⟩
  storeRow ⟨id, cells⟩
  return id

/-- Put a row in the place of the row with its id. -/
def replaceRow (row : Row) : Change Error Table Unit := do
  let table <- get
  storeRow row
  if let some old := table.row? row.id then
    unindexRow old
  indexRow row

/-- Assign values in every row that a predicate keeps and answer the number of these rows. -/
def update (assignments : List (String × Value)) (keep : Row -> Bool) :
    Change Error Table Nat := do
  let table <- get
  let bound <- table.schema.bind (Schema.admitOnce .columnAssignedTwice) assignments
  let planned <- table.plan bound [] (table.rows.filter keep)
  planned.forM replaceRow
  return planned.length

def dropRow (row : Row) : Change Error Table Unit := do
  removeRow row.id
  unindexRow row

/-- Remove every row that a predicate keeps and answer the number of these rows. -/
def delete (keep : Row -> Bool) : Change Error Table Nat := do
  let table <- get
  let doomed := table.rows.filter keep
  doomed.forM dropRow
  return doomed.length

end Table
end Tabula
