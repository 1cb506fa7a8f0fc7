import Tabula.Database.Basic
import Tabula.Query.Filter
import Tabula.Query.Join
import Tabula.Query.Outcome
import Tabula.Sql.Statement.Read

/-!
# Execution of statements

What each statement does to a database.  Names are bound in the order in which a statement reads
them: the table, the qualifiers of the output columns, the condition, the output columns.
-/

namespace Tabula

open Sql (ColumnRef Condition JoinClause Projection Statement)

namespace Database

/-!
# Queries
-/

def selectOne (table : Table) (projection : Projection) (condition : Option Condition) :
    Except Error RowSet :=
  match projection with
  | .all => table.find none condition
  | .only refs => do
      refs.forM table.schema.checkQualifier
      table.find (some (refs.map ColumnRef.column)) condition

def select (db : Database) (projection : Projection) (name : String) (join : Option JoinClause)
    (condition : Option Condition) : Except Error RowSet := do
  let table <- db.table name
  match join with
  | none => selectOne table projection condition
  | some clause =>
      let right <- db.table clause.table
      Join.run ⟨table, right⟩ clause projection condition

def showTables (db : Database) : RowSet where
  columns := ["Tables"]
  rows := db.tableNames.map fun name => [.text name]

def describe (db : Database) (name : String) : Except Error RowSet := do
  let table <- db.table name
  return {
    columns := ["Column", "Type", "Constraints"]
    rows := table.schema.columns.map fun column =>
      [.text column.name, .text column.type.display, .text column.summary] }

/-!
# Changes
-/

/-- Change the rows of a table that meet a condition, and name the table as it is declared. -/
def onRows {α : Type} (name : String) (condition : Option Condition)
    (change : (Row -> Bool) -> Change Error Table α) : Change Error Database (α × String) := do
  let db <- get
  let table <- db.table name
  let keep <- table.schema.rowFilter condition
  let result <- onTable name (change keep)
  return (result, table.name)

/-!
# Statements
-/

def execute : Statement -> Change Error Database Outcome
  | .createTable name columns => do
      createTable { name, columns }
      return .created name
  | .insert name columns values => do
      let db <- get
      let table <- db.table name
      let _ <- onTable name (Table.insert columns values)
      return .inserted table.name
  | .select projection name join condition => do
      let db <- get
      return .rows (<- db.select projection name join condition)
  | .update name assignments condition => do
      let (count, table) <- onRows name condition (Table.update assignments)
      return .updated count table
  | .delete name condition => do
      let (count, table) <- onRows name condition Table.delete
      return .deleted count table
  | .showTables => do
      let db <- get
      return .rows db.showTables
  | .describe name => do
      let db <- get
      return .rows (<- db.describe name)

/-- Parse and execute the text of one statement. -/
def executeSql (sql : String) : Change Error Database Outcome := do
  let statement <- Statement.parse sql
  execute statement

/-- The access path that a search of a table for a condition takes. -/
def explain (db : Database) (name : String) (condition : Condition) : Except Error AccessPath := do
  let table <- db.table name
  table.explain condition

end Database
end Tabula
