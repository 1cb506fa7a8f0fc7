import Tabula.Index
import Tabula.Schema.Binding

/-!
# Tables

A table holds its rows in ascending order of their ids, the id that the next row will get, and one
index for every column with a constraint.  This module has the type and what can be read off a table.
-/

namespace Tabula

/-- A row with its cells in the order of the schema's columns. -/
structure Row where
  id : Nat
  cells : List Value
  deriving DecidableEq

namespace Row

def cell (row : Row) (position : Nat) : Value :=
  row.cells.getD position .null

/-- Put a row in its place by id, over a row with the same id. -/
def insertInto (row : Row) : List Row -> List Row
  | [] => [row]
  | other :: rest =>
      if row.id < other.id then row :: other :: rest
      else if row.id = other.id then row :: rest
      else other :: row.insertInto rest

end Row

/-- Output rows with the names of their columns. -/
structure RowSet where
  columns : List String
  rows : List (List Value)
  deriving DecidableEq

/-- The index at each column's position; columns without a constraint have none. -/
abbrev Indexes :=
  List (Option Index)

namespace Indexes

def addRow (indexes : Indexes) (row : Row) : Indexes :=
  indexes.zipWith (fun ix v => ix.map fun ix => ix.addCell v row.id) row.cells

def removeRow (indexes : Indexes) (row : Row) : Indexes :=
  indexes.zipWith (fun ix v => ix.map fun ix => ix.removeCell v row.id) row.cells

end Indexes

structure Table where
  schema : Schema
  rows : List Row := []
  nextRowId : Nat := 1
  indexes : Indexes
  deriving DecidableEq

namespace Table

def new (schema : Schema) : Table :=
  { schema,
    indexes := schema.columns.map fun column =>
      if column.isIndexed then some { column := column.name } else none }

def name (table : Table) : String :=
  table.schema.name

/-!
# Reading
-/

def row? (table : Table) (id : Nat) : Option Row :=
  table.rows.find? fun row => row.id == id

def indexAt (table : Table) (position : Nat) : Option Index :=
  (table.indexes[position]?).join

/-- The index on the column that a bare name reaches. -/
def index? (table : Table) (name : String) : Option Index :=
  (table.schema.field? name).bind fun field => table.indexAt field.position

/-- The indexed columns in declared order, with their indexes. -/
def indexed (table : Table) : List (Field × Index) :=
  table.schema.fields.filterMap fun field => (table.indexAt field.position).map fun ix => (field, ix)

def project (fields : List Field) (rows : List Row) : RowSet where
  columns := fields.map fun field => field.column.name
  rows := rows.map fun row => fields.map fun field => row.cell field.position

/-- The named columns, or all of them, of the rows that a predicate keeps. -/
def select (table : Table) (columns : Option (List String)) (keep : Row -> Bool) :
    Except Error RowSet := do
  let fields <- table.schema.projection columns
  return project fields (table.rows.filter keep)

/-- The named columns, or all of them, of the rows with the given ids, in the order of the ids. -/
def selectIds (table : Table) (columns : Option (List String)) (ids : List Nat) :
    Except Error RowSet := do
  let fields <- table.schema.projection columns
  return project fields (ids.filterMap table.row?)

end Table
end Tabula
