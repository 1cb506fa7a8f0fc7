import Tabula.Proofs.Plain.Table
import Tabula.Query.Execute

/-!
# Databases without indexes

The statements of the language on plain tables: the reference that a database is held against.
-/

namespace Tabula

open Sql (Condition JoinClause Projection Statement)

structure PlainDatabase where
  tables : List (String × PlainTable) := []
  createdAt : Nat := 0
  deriving DecidableEq

namespace PlainDatabase

variable {α : Type}

def table (db : PlainDatabase) (name : String) : Except Error PlainTable :=
  match Keyed.find? (Text.lowercase name) db.tables with
  | some table => .ok table
  | none => .error (.tableNotFound name)

def showTables (db : PlainDatabase) : RowSet where
  columns := ["Tables"]
  rows := db.tables.map fun entry => [.text entry.2.schema.name]

def describe (db : PlainDatabase) (name : String) : Except Error RowSet := do
  let table <- db.table name
  return {
    columns := ["Column", "Type", "Constraints"]
    rows := table.schema.columns.map fun column =>
      [.text column.name, .text column.type.display, .text column.summary] }

def select (db : PlainDatabase) (projection : Projection) (name : String)
    (join : Option JoinClause) (condition : Option Condition) : Except Error RowSet := do
  let table <- db.table name
  match join with
  | none => table.select projection condition
  | some clause =>
      let right <- db.table clause.table
      table.join right clause projection condition

def createTable (schema : Schema) (db : PlainDatabase) : Except Error (Unit × PlainDatabase) := do
  let key := Text.lowercase schema.name
  if (Keyed.find? key db.tables).isSome then
    throw (.tableExists schema.name)
  schema.check
  return ((), { db with
    tables := Keyed.insert key { schema := schema.derivePrimaryKey } db.tables })

/-- A step of the table of a name. -/
def onTable (name : String) (step : PlainTable -> Except Error (α × PlainTable))
    (db : PlainDatabase) : Except Error (α × PlainDatabase) := do
  let table <- db.table name
  let (a, table) <- step table
  return (a, { db with tables := Keyed.insert (Text.lowercase name) table db.tables })

def onRows (name : String) (condition : Option Condition)
    (step : (Row -> Bool) -> PlainTable -> Except Error (α × PlainTable)) (db : PlainDatabase) :
    Except Error ((α × String) × PlainDatabase) := do
  let table <- db.table name
  let keep <- table.schema.rowFilter condition
  let (a, db) <- db.onTable name (step keep)
  return ((a, table.schema.name), db)

def execute (statement : Statement) (db : PlainDatabase) :
    Except Error (Outcome × PlainDatabase) :=
  match statement with
  | .createTable name columns => do
      let (_, db) <- db.createTable { name, columns }
      return (.created name, db)
  | .insert name columns values => do
      let table <- db.table name
      let (_, db) <- db.onTable name (PlainTable.insert columns values)
      return (.inserted table.schema.name, db)
  | .select projection name join condition => do
      let rows <- db.select projection name join condition
      return (.rows rows, db)
  | .update name assignments condition => do
      let ((count, table), db) <- db.onRows name condition (PlainTable.update assignments)
      return (.updated count table, db)
  | .delete name condition => do
      let ((count, table), db) <- db.onRows name condition PlainTable.delete
      return (.deleted count table, db)
  | .showTables => .ok (.rows db.showTables, db)
  | .describe name => do
      let rows <- db.describe name
      return (.rows rows, db)

def executeSql (sql : String) (db : PlainDatabase) : Except Error (Outcome × PlainDatabase) := do
  let statement <- Statement.parse sql
  db.execute statement

end PlainDatabase
end Tabula
