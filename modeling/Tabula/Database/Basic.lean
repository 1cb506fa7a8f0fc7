import Tabula.Keyed
import Tabula.Table.Change

/-!
# Databases

A database files its tables under their lowercase names, in ascending order, and remembers when it
was created, in milliseconds since 1970.  A table is found under every name with the same lowercase
form and keeps the name it was declared with.
-/

namespace Tabula

structure Database where
  tables : List (String × Table) := []
  createdAt : Nat := 0
  deriving DecidableEq

namespace Database

structure Stats where
  tables : Nat
  totalRows : Nat
  indexes : Nat

/-!
# Reading
-/

def table? (db : Database) (name : String) : Option Table :=
  Keyed.find? (Text.lowercase name) db.tables

def table (db : Database) (name : String) : Except Error Table :=
  match db.table? name with
  | some table => .ok table
  | none => .error (.tableNotFound name)

def hasTable (db : Database) (name : String) : Bool :=
  (db.table? name).isSome

/-- The declared names of the tables. -/
def tableNames (db : Database) : List String :=
  db.tables.map fun entry => entry.2.name

/-- The sum of a count over all tables. -/
def total (db : Database) (count : Table -> Nat) : Nat :=
  db.tables.foldl (fun sum entry => sum + count entry.2) 0

def stats (db : Database) : Stats where
  tables := db.tables.length
  totalRows := db.total fun table => table.rows.length
  indexes := db.total fun table => table.indexed.length

/-!
# Changes
-/

def createTable (schema : Schema) : Change Error Database Unit := do
  let db <- get
  let key := Text.lowercase schema.name
  if (Keyed.find? key db.tables).isSome then
    throw (.tableExists schema.name)
  schema.check
  modify fun db => { db with tables := Keyed.insert key (Table.new schema.derivePrimaryKey) db.tables }

def dropTable (name : String) : Change Error Database Unit := do
  let db <- get
  if db.hasTable name then
    modify fun db => { db with tables := Keyed.erase (Text.lowercase name) db.tables }
  else
    throw (.tableNotFound name)

def clear : Change Error Database Unit :=
  modify fun db => { db with tables := [] }

/-- Change the table of a name. -/
def onTable {α : Type} (name : String) (change : Change Error Table α) :
    Change Error Database α := do
  let db <- get
  let table <- db.table name
  change.within table fun table db =>
    { db with tables := Keyed.insert (Text.lowercase name) table db.tables }

end Database
end Tabula
