import Tabula.Text.Case
import Tabula.Value

/-!
# Columns

A column has a name, a type and a list of constraints.  The list is kept as given, so a schema read
from a document may name a constraint twice; declaring a constraint again adds nothing.
-/

namespace Tabula

inductive Constraint where
  | primaryKey
  | unique
  deriving DecidableEq

namespace Constraint

def display : Constraint -> String
  | primaryKey => "PRIMARY_KEY"
  | unique => "UNIQUE"

def all : List Constraint :=
  [primaryKey, unique]

end Constraint

structure Column where
  name : String
  type : ColumnType
  constraints : List Constraint := []
  deriving DecidableEq

namespace Column

/-- Add a constraint unless the column has it. -/
def declare (column : Column) (constraint : Constraint) : Column :=
  if constraint ∈ column.constraints then
    column
  else
    { column with constraints := column.constraints ++ [constraint] }

def isPrimaryKey (column : Column) : Bool :=
  column.constraints.contains .primaryKey

def isUnique (column : Column) : Bool :=
  column.constraints.contains .unique

/-- The columns whose values must differ from row to row; each of them is indexed. -/
def isIndexed (column : Column) : Bool :=
  column.isPrimaryKey || column.isUnique

def summary (column : Column) : String :=
  match column.constraints with
  | [] => "NONE"
  | constraints => ", ".intercalate (constraints.map Constraint.display)

/-- Column names are compared up to the case of ASCII letters. -/
def answersTo (column : Column) (name : String) : Bool :=
  Text.alike column.name name

end Column
end Tabula
