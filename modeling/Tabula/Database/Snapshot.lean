import Tabula.Database.Basic
import Tabula.Table.Load

/-!
# Snapshots

A snapshot holds everything a database holds except its indexes, which are built anew from the rows.

## Restoring

All tables are rebuilt before the first write, so a snapshot that breaks a rule changes nothing.
The names under which a snapshot files its tables only serve messages; what counts is the name in
the schema.
-/

namespace Tabula

open Table (NamedRow)

structure TableSnapshot where
  schema : Schema
  rows : List NamedRow
  nextRowId : Nat
  deriving DecidableEq

structure Snapshot where
  version : String
  tables : List (String × TableSnapshot)
  createdAt : Nat
  updatedAt : Nat
  deriving DecidableEq

namespace Snapshot

/-- The version that snapshots are written with; a snapshot of another version is read alike. -/
def currentVersion : String :=
  "1.0.0"

/-- A table of a snapshot with its key, added to the tables rebuilt so far. -/
def rebuildTable (rebuilt : List (String × Table)) (name : String) (stored : TableSnapshot) :
    Except Error (List (String × Table)) := do
  let schema := stored.schema.derivePrimaryKey
  schema.check.mapError (.invalidSnapshotTable name)
  let key := Text.lowercase schema.name
  if (Keyed.find? key rebuilt).isSome then
    throw (.repeatedSnapshotTable schema.name)
  let table <-
    (Table.ofRows schema stored.rows stored.nextRowId).mapError (.invalidSnapshotTable name)
  return Keyed.insert key table rebuilt

/-- The tables that a snapshot describes, by their keys. -/
def rebuild (snapshot : Snapshot) : Except Error (List (String × Table)) :=
  snapshot.tables.foldlM (fun rebuilt (name, stored) => rebuildTable rebuilt name stored) []

end Snapshot

/-!
# Taking a snapshot
-/

namespace Table

def namedRow (table : Table) (row : Row) : NamedRow where
  id := row.id
  cells := Keyed.ofList (table.schema.columnNames.zip row.cells)

def snapshot (table : Table) : TableSnapshot where
  schema := table.schema
  rows := table.rows.map table.namedRow
  nextRowId := table.nextRowId

end Table

namespace Database

def snapshot (db : Database) (now : Nat) : Snapshot where
  version := Snapshot.currentVersion
  tables := db.tables.map fun (key, table) => (key, table.snapshot)
  createdAt := db.createdAt
  updatedAt := now

/-!
# Restoring
-/

/-- Put the tables of a snapshot in the place of all tables. -/
def restore (snapshot : Snapshot) : Change Error Database Unit := do
  let tables <- snapshot.rebuild
  modify fun db => { db with tables }
  modify fun db => { db with createdAt := snapshot.createdAt }

end Database
end Tabula
