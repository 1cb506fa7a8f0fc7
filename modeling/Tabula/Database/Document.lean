import Tabula.Database.Snapshot
import Tabula.Json.Print
import Tabula.Json.Read

/-!
# Snapshots as documents

A snapshot is written as a JSON document and read back from one.  Reading is strict about the fields
it knows and passes over all others.

## Leniency

A schema's primary key and a column's constraints may be left out.  In the maps from table names to
tables and from column names to cells the last of equal names counts.
-/

namespace Tabula

open Table (NamedRow)

namespace Value

def toJson : Value -> Json
  | integer n => .integer n.toInt
  | text s => .text s
  | boolean b => .boolean b
  | null => .null

def ofJson? : Json -> Option Value
  | .null => some null
  | .boolean b => some (boolean b)
  | .string (some s) => some (text s)
  | .integer n => (Text.toWord n).map integer
  | _ => none

theorem ofJson?_toJson (v : Value) : ofJson? v.toJson = some v := by
  cases v <;> simp [toJson, ofJson?, Json.text, Text.toWord_toInt]

end Value

namespace Column

def toJson (column : Column) : Json :=
  .record [
    ("name", .text column.name),
    ("type", .text column.type.display),
    ("constraints", .array (column.constraints.map fun constraint => .text constraint.display))]

def typeChoices : List (String × ColumnType) :=
  ColumnType.all.map fun type => (type.display, type)

def constraintChoices : List (String × Constraint) :=
  Constraint.all.map fun constraint => (constraint.display, constraint)

def ofJson? (j : Json) : Option Column := do
  let [name, type, constraints] <- j.fields? ["name", "type", "constraints"] false | none
  let name <- (<- name).text?
  let type <- (<- type).choice? typeChoices
  let constraints <- (constraints.getD (.array [])).array?
  return { name, type, constraints := <- constraints.mapM (Json.choice? constraintChoices) }

end Column

namespace Schema

def toJson (schema : Schema) : Json :=
  .record [
    ("name", .text schema.name),
    ("columns", .array (schema.columns.map Column.toJson)),
    ("primaryKey", schema.primaryKey.elim .null .text)]

def ofJson? (j : Json) : Option Schema := do
  let [name, columns, primaryKey] <- j.fields? ["name", "columns", "primaryKey"] false | none
  let name <- (<- name).text?
  let columns <- (<- columns).array?
  let columns <- columns.mapM Column.ofJson?
  let primaryKey <- (primaryKey.getD .null).nullable? Json.text?
  return { name, columns, primaryKey }

end Schema

/-- The entries of an object, each value read; of equal names the last counts. -/
def Json.filed? {α : Type} (read : Json -> Option α) (j : Json) : Option (List (String × α)) := do
  let members <- j.members?
  let entries <- members.mapM fun (name, j) => (read j).map fun a => (name, a)
  return Keyed.ofList entries

namespace Table

def NamedRow.toJson (row : NamedRow) : Json :=
  .record [
    ("rowId", .natural row.id),
    ("data", .record (row.cells.map fun (name, v) => (name, v.toJson)))]

def NamedRow.ofJson? (j : Json) : Option NamedRow := do
  let [id, data] <- j.fields? ["rowId", "data"] false | none
  let id <- (<- id).natural?
  let cells <- (<- data).filed? Value.ofJson?
  return { id, cells }

end Table

namespace TableSnapshot

def toJson (stored : TableSnapshot) : Json :=
  .record [
    ("schema", stored.schema.toJson),
    ("rows", .array (stored.rows.map NamedRow.toJson)),
    ("nextRowId", .natural stored.nextRowId)]

def ofJson? (j : Json) : Option TableSnapshot := do
  let [schema, rows, nextRowId] <- j.fields? ["schema", "rows", "nextRowId"] false | none
  let schema <- Schema.ofJson? (<- schema)
  let rows <- (<- rows).array?
  let rows <- rows.mapM NamedRow.ofJson?
  let nextRowId <- (<- nextRowId).natural?
  return { schema, rows, nextRowId }

end TableSnapshot

namespace Snapshot

def toJson (snapshot : Snapshot) : Json :=
  .record [
    ("version", .text snapshot.version),
    ("tables", .record (snapshot.tables.map fun (key, stored) => (key, stored.toJson))),
    ("createdAt", .natural snapshot.createdAt),
    ("updatedAt", .natural snapshot.updatedAt)]

def ofJson? (j : Json) : Option Snapshot := do
  let [version, tables, createdAt, updatedAt] <-
    j.fields? ["version", "tables", "createdAt", "updatedAt"] false | none
  let version <- (<- version).text?
  let tables <- (<- tables).filed? TableSnapshot.ofJson?
  let createdAt <- (<- createdAt).natural?
  let updatedAt <- (<- updatedAt).natural?
  return { version, tables, createdAt, updatedAt }

def encode (snapshot : Snapshot) : String :=
  snapshot.toJson.pretty

def decode? (s : String) : Option Snapshot := do
  ofJson? (<- Json.read s)

end Snapshot
end Tabula
