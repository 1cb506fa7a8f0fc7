import Tabula.Sql.Statement
import Tabula.Table.Basic

/-!
# Conditions on one table

A condition is bound to a column of the table and then answered in one of two ways: by the column's
index, or by looking at every row.  NULL is not indexed, so a search for it looks at every row.
-/

namespace Tabula

open Sql (ColumnRef Condition)

/-- A condition bound to a column. -/
structure Filter where
  field : Field
  value : Value

namespace Filter

def admits (filter : Filter) (row : Row) : Bool :=
  row.cell filter.field.position == filter.value

end Filter

/-- How the rows that meet a condition on the named column are found. -/
inductive AccessPath where
  | indexLookup (column : String)
  | fullScan (column : String)
  deriving DecidableEq

namespace Schema

/-- A qualified reference must name the table. -/
def checkQualifier (schema : Schema) (ref : ColumnRef) : Except Error Unit :=
  if ref.table.isNone || ref.refersTo schema.name then .ok () else .error (.columnNotFound ref)

def bindCondition (schema : Schema) (condition : Condition) : Except Error Filter := do
  schema.checkQualifier condition.column
  let field <- schema.resolve condition.column.column
  return ⟨field, condition.value⟩

/-- The rows that a condition leaves to a change: all of them where there is none. -/
def rowFilter (schema : Schema) (condition : Option Condition) : Except Error (Row -> Bool) :=
  match condition with
  | none => .ok fun _ => true
  | some condition => do
      let filter <- schema.bindCondition condition
      return filter.admits

end Schema

namespace Table

/-- The index that can answer a bound condition. -/
def indexFor (table : Table) (filter : Filter) : Option Index :=
  if filter.value.isNull then none else table.indexAt filter.field.position

def accessPath (table : Table) (filter : Filter) : AccessPath :=
  if (table.indexFor filter).isSome then
    .indexLookup filter.field.column.name
  else
    .fullScan filter.field.column.name

/-- The access path that a search for a condition takes. -/
def explain (table : Table) (condition : Condition) : Except Error AccessPath := do
  let filter <- table.schema.bindCondition condition
  return table.accessPath filter

/-- The named columns, or all of them, of the rows that meet a condition. -/
def find (table : Table) (columns : Option (List String)) (condition : Option Condition) :
    Except Error RowSet := do
  match condition with
  | none => table.select columns fun _ => true
  | some condition =>
      let filter <- table.schema.bindCondition condition
      match table.indexFor filter with
      | some ix => table.selectIds columns (ix.lookup filter.value)
      | none => table.select columns filter.admits

end Table
end Tabula
