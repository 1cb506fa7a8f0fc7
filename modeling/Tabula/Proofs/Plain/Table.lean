import Tabula.Query.Filter
import Tabula.Query.Join
import Tabula.Table.Load

/-!
# Tables without indexes

A plain table has a schema, rows and a counter, and answers every question by looking at all of its
rows in ascending order of their ids.  It is what a table means: indexes only make a table faster.

A step of a plain table answers a result and the next table, or fails with an error.
-/

namespace Tabula

open Sql (ColumnRef Condition JoinClause Projection)

structure PlainTable where
  schema : Schema
  rows : List Row := []
  nextRowId : Nat := 1
  deriving DecidableEq

namespace PlainTable

/-!
# Constraints
-/

/-- Whether a row other than `own` holds a value at a position. -/
def heldByOther (table : PlainTable) (position : Nat) (v : Value) (own : Option Nat) : Bool :=
  table.rows.any fun row => some row.id != own && row.cell position == v

def checkCell (table : PlainTable) (own : Option Nat) (field : Field) (v : Value) :
    Except Error Unit :=
  if field.column.isIndexed then
    if v.isNull then
      if field.column.isPrimaryKey then .error (.nullPrimaryKey field.column.name) else .ok ()
    else if table.heldByOther field.position v own then
      .error (.valueTaken field.column.isPrimaryKey table.schema.name field.column.name v)
    else
      .ok ()
  else
    .ok ()

/-- The constraints on a row to be stored; `own` is the id under which it is stored already. -/
def checkRow (table : PlainTable) (cells : List Value) (own : Option Nat) : Except Error Unit :=
  table.schema.fields.forM fun field =>
    table.checkCell own field (cells.getD field.position .null)

/-- Whether a bound value is one that no two rows may share. -/
def claims (entry : Field × Value) : Bool :=
  !entry.2.isNull && entry.1.column.isIndexed

/-- The claims of an update on values that no two rows may share, after one more row is assigned. -/
def claim (table : PlainTable) (claimed bound : List (Field × Value)) :
    Except Error (List (Field × Value)) :=
  bound.foldlM
    (fun claimed entry =>
      if !claims entry then
        .ok claimed
      else if claimed.contains entry then
        .error (.valueAssignedTwice table.schema.name entry.1.column.name entry.2)
      else
        .ok (entry :: claimed))
    claimed

/-- The first constraint that one of the rows breaks once it is assigned. -/
def checkRows (table : PlainTable) (bound claimed : List (Field × Value)) :
    List Row -> Except Error Unit
  | [] => .ok ()
  | row :: rest => do
      table.checkRow (Schema.assign row.cells bound) (some row.id)
      let claimed <- table.claim claimed bound
      table.checkRows bound claimed rest

/-!
# Steps
-/

def insert (columns : List String) (values : List Value) (table : PlainTable) :
    Except Error (Nat × PlainTable) := do
  let cells <- table.schema.complete columns values
  table.checkRow cells none
  return (table.nextRowId,
    { table with
      rows := table.rows ++ [⟨table.nextRowId, cells⟩]
      nextRowId := table.nextRowId + 1 })

/-- A row with the bound values in place. -/
def assigned (bound : List (Field × Value)) (row : Row) : Row :=
  ⟨row.id, Schema.assign row.cells bound⟩

def update (assignments : List (String × Value)) (keep : Row -> Bool) (table : PlainTable) :
    Except Error (Nat × PlainTable) := do
  let bound <- table.schema.bind (Schema.admitOnce .columnAssignedTwice) assignments
  table.checkRows bound [] (table.rows.filter keep)
  return ((table.rows.filter keep).length,
    { table with rows := table.rows.map fun row => if keep row then assigned bound row else row })

def delete (keep : Row -> Bool) (table : PlainTable) : Except Error (Nat × PlainTable) :=
  .ok ((table.rows.filter keep).length,
    { table with rows := table.rows.filter fun row => !keep row })

/-- Store a row under an id of its own below `nextRowId`. -/
def load (nextRowId : Nat) (stored : Table.NamedRow) (table : PlainTable) :
    Except Error (Unit × PlainTable) := do
  if stored.id = 0 ∨ nextRowId <= stored.id then
    throw (.rowIdOutOfRange stored.id table.schema.name nextRowId)
  if table.rows.any fun row => row.id == stored.id then
    throw (.duplicateRowId stored.id table.schema.name)
  let bound <- table.schema.bind (Table.admitStored stored.id table.schema.name) stored.cells
  let cells := Schema.assign table.schema.blankCells bound
  table.checkRow cells none
  return ((), { table with rows := (Row.mk stored.id cells).insertInto table.rows })

def loadAll (nextRowId : Nat) : List Table.NamedRow -> PlainTable -> Except Error PlainTable
  | [], table => .ok table
  | stored :: rest, table => do
      let (_, table) <- table.load nextRowId stored
      loadAll nextRowId rest table

/-- The table with the given rows, all checks made anew. -/
def ofRows (schema : Schema) (rows : List Table.NamedRow) (nextRowId : Nat) :
    Except Error PlainTable := do
  let table <- loadAll nextRowId rows { schema }
  return { table with nextRowId }

/-!
# Queries
-/

/-- The named columns, or all of them, of the rows that meet a condition. -/
def find (table : PlainTable) (columns : Option (List String)) (condition : Option Condition) :
    Except Error RowSet := do
  let keep <- table.schema.rowFilter condition
  let fields <- table.schema.projection columns
  return Table.project fields (table.rows.filter keep)

def select (table : PlainTable) (projection : Projection) (condition : Option Condition) :
    Except Error RowSet :=
  match projection with
  | .all => table.find none condition
  | .only refs => do
      refs.forM table.schema.checkQualifier
      table.find (some (refs.map ColumnRef.column)) condition

/-- Whether two rows hold the same value other than NULL in their key columns. -/
def joins (leftKey rightKey : Field) (left right : Row) : Bool :=
  !(left.cell leftKey.position).isNull &&
    right.cell rightKey.position == left.cell leftKey.position

def join (left right : PlainTable) (clause : JoinClause) (projection : Projection)
    (condition : Option Condition) : Except Error RowSet := do
  let sides : Sides := ⟨left.schema, right.schema⟩
  let (leftKey, rightKey) <- sides.keys clause
  let outputs <- sides.outputs projection
  let filter <- sides.filter condition
  let pairs := left.rows.flatMap fun a =>
    (right.rows.filter (joins leftKey rightKey a)).map fun b => (a, b)
  let pairs := pairs.filter (Join.meets filter)
  return {
    columns := outputs.map Prod.fst
    rows := pairs.map fun pair => outputs.map fun output => output.2.pick pair.1 pair.2 }

end PlainTable
end Tabula
