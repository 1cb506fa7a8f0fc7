import Tabula.Column
import Tabula.Error

/-!
# Schemas

A schema is a table's name and its columns in declared order.

## Rules

`Schema.check` states what every stored table obeys: at least one column, no two columns with the
same lowercase name, at most one primary key.

## Names

A name given to a table may carry a qualifier, everything up to its last dot, which is dropped.
What remains finds the first column that answers to it.
-/

namespace Tabula

structure Schema where
  name : String
  columns : List Column
  /-- The primary key's column as recorded; `derivePrimaryKey` computes it from the constraints. -/
  primaryKey : Option String := none
  deriving DecidableEq

/-- A column of a schema together with its place among the columns. -/
structure Field where
  position : Nat
  column : Column
  deriving DecidableEq

namespace Schema

/-!
# Rules
-/

/-- The first column whose lowercase name is among `seen` or repeats an earlier one. -/
def repeatedColumn? (seen : List String) : List Column -> Option Column
  | [] => none
  | column :: rest =>
      let key := Text.lowercase column.name
      if key ∈ seen then some column else repeatedColumn? (key :: seen) rest

def check (schema : Schema) : Except Error Unit := do
  if schema.columns = [] then
    throw (.noColumns schema.name)
  if let some column := repeatedColumn? [] schema.columns then
    throw (.duplicateColumn column.name schema.name)
  let keys := schema.columns.countP Column.isPrimaryKey
  if keys > 1 then
    throw (.severalPrimaryKeys schema.name keys)

def derivePrimaryKey (schema : Schema) : Schema :=
  { schema with primaryKey := (schema.columns.find? Column.isPrimaryKey).map Column.name }

/-!
# Columns by name
-/

def fields (schema : Schema) : List Field :=
  schema.columns.zipIdx.map fun (column, position) => ⟨position, column⟩

def field? (schema : Schema) (name : String) : Option Field :=
  schema.fields.find? fun field => field.column.answersTo name

def hasColumn (schema : Schema) (name : String) : Bool :=
  (schema.field? name).isSome

def columnNames (schema : Schema) : List String :=
  schema.columns.map Column.name

/-- Whether a name is the recorded primary key's. -/
def isPrimaryKey (schema : Schema) (name : String) : Bool :=
  match schema.primaryKey with
  | some key => Text.alike key name
  | none => false

def answersTo (schema : Schema) (name : String) : Bool :=
  Text.alike schema.name name

/-- What follows the last dot of a name. -/
def unqualified (name : String) : String :=
  String.ofList (name.toList.reverse.takeWhile fun c => c != '.').reverse

/-- The column that a possibly qualified name reaches. -/
def resolve (schema : Schema) (name : String) : Except Error Field :=
  let bare := unqualified name
  match schema.field? bare with
  | some field => .ok field
  | none => .error (.columnNotFound ⟨some schema.name, bare⟩)

/-!
# Cells
-/

def checkType (column : Column) (value : Value) : Except Error Unit :=
  if value.fits column.type then .ok () else .error (.typeMismatch column.name column.type value)

/-- The cell under the column of exactly this name. -/
def cell? (schema : Schema) (cells : List Value) (name : String) : Option Value :=
  ((schema.columnNames.zip cells).find? fun entry => entry.1 == name).map Prod.snd

end Schema
end Tabula
